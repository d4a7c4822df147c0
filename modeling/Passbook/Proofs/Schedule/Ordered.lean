import Passbook.Proofs.Decimal.Extended
import Passbook.Schedule

/-!
# Slabs in order

Two slabs are in order if the lower bound of the first is found to be at most that of the second.
Sorting gives slabs that are in order, whenever their lower bounds can be compared, and leaves
slabs that already are in order as they stand.
-/

namespace Passbook.Slab

variable {s t : Slab} {slabs sorted : List Slab}

/-- The lower bound is found to be at most that of another slab. -/
def StartsBy (s t : Slab) : Prop := s.lower.le t.lower = .ok true

/-- Each slab starts by the start of every later one. -/
def Ordered (slabs : List Slab) : Prop := slabs.Pairwise StartsBy

/-- The lower bounds can be compared, or need not be. -/
def Sortable (slabs : List Slab) : Prop :=
  1 < slabs.length → ∀ s ∈ slabs, s.lower.isNaN = false

/-- Lower bounds that are in order can be compared. -/
theorem StartsBy.isNaN_eq_false (h : s.StartsBy t) :
    s.lower.isNaN = false ∧ t.lower.isNaN = false := by
  obtain ⟨p, q, hp, hq, -⟩ := Decimal.point?_of_le h
  exact ⟨Decimal.exists_point?_iff.mp ⟨p, hp⟩, Decimal.exists_point?_iff.mp ⟨q, hq⟩⟩

theorem StartsBy.startsNoLater (h : s.StartsBy t) : s.startsNoLater t = true := by
  obtain ⟨o, hc, hne⟩ := Decimal.le_eq_true_iff.mp h
  simpa [Slab.startsNoLater, hc] using hne

/-- Of two slabs with comparable lower bounds, one that may stand before the other starts by
it. -/
theorem startsBy_of_startsNoLater (hs : s.lower.isNaN = false) (ht : t.lower.isNaN = false)
    (h : s.startsNoLater t = true) : s.StartsBy t := by
  obtain ⟨o, hc⟩ := Decimal.exists_compare? hs ht
  refine Decimal.le_eq_true_iff.mpr ⟨o, hc, ?_⟩
  simpa [startsNoLater, hc] using h

/-- One that may not stand before the other starts after it. -/
theorem startsBy_of_not_startsNoLater (h : ¬s.startsNoLater t = true) : t.StartsBy s := by
  have hc : s.lower.compare? t.lower = some .gt := by simpa [startsNoLater] using h
  refine Decimal.le_eq_true_iff.mpr ⟨.lt, ?_, by decide⟩
  rw [Decimal.compare?_swap s.lower t.lower, hc]
  rfl

theorem mem_insertByLower {x : Slab} : x ∈ insertByLower s slabs ↔ x = s ∨ x ∈ slabs := by
  rw [(insertByLower_perm s slabs).mem_iff, List.mem_cons]

theorem mem_sortByLower {x : Slab} : x ∈ sortByLower slabs ↔ x ∈ slabs :=
  (sortByLower_perm slabs).mem_iff

/-- Inserting a slab keeps slabs in order. -/
theorem insertByLower_ordered (hs : s.lower.isNaN = false)
    (hslabs : ∀ t ∈ slabs, t.lower.isNaN = false) (h : Ordered slabs) :
    Ordered (insertByLower s slabs) := by
  induction slabs with
  | nil => exact List.pairwise_singleton _ _
  | cons t rest ih =>
    obtain ⟨ht, hrest⟩ := List.pairwise_cons.mp h
    obtain ⟨hnt, hnrest⟩ := List.forall_mem_cons.mp hslabs
    rw [insertByLower]
    split
    next hbefore =>
      have hle := startsBy_of_startsNoLater hs hnt hbefore
      refine List.pairwise_cons.mpr ⟨?_, h⟩
      exact List.forall_mem_cons.mpr ⟨hle, fun x hx => Decimal.le_trans hle (ht x hx)⟩
    next hafter =>
      refine List.pairwise_cons.mpr ⟨?_, ih hnrest hrest⟩
      intro x hx
      rcases mem_insertByLower.mp hx with rfl | hx
      · exact startsBy_of_not_startsNoLater hafter
      · exact ht x hx

/-- Slabs whose lower bounds can be compared are in order once sorted. -/
theorem sortByLower_ordered_of_forall (h : ∀ s ∈ slabs, s.lower.isNaN = false) :
    Ordered (sortByLower slabs) := by
  induction slabs with
  | nil => exact List.Pairwise.nil
  | cons s rest ih =>
    obtain ⟨hs, hrest⟩ := List.forall_mem_cons.mp h
    exact insertByLower_ordered hs (fun t ht => hrest t (mem_sortByLower.mp ht)) (ih hrest)

/-- Sorted slabs are in order. -/
theorem sortByLower_ordered (h : Sortable slabs) : Ordered (sortByLower slabs) := by
  by_cases hlength : 1 < slabs.length
  · exact sortByLower_ordered_of_forall (h hlength)
  · match slabs with
    | [] => exact List.Pairwise.nil
    | [s] => exact List.pairwise_singleton _ _
    | s :: t :: rest => exact absurd (by simp) hlength

/-- Slabs in order stay as they stand. -/
theorem sortByLower_of_ordered (h : Ordered slabs) : sortByLower slabs = slabs := by
  induction slabs with
  | nil => rfl
  | cons s rest ih =>
    obtain ⟨hs, hrest⟩ := List.pairwise_cons.mp h
    have hsort : sortByLower (s :: rest) = insertByLower s (sortByLower rest) := rfl
    rw [hsort, ih hrest]
    cases rest with
    | nil => rfl
    | cons t rest => rw [insertByLower, if_pos (hs t List.mem_cons_self).startsNoLater]

/-- Slabs in order can be sorted again. -/
theorem Ordered.sortable (h : Ordered slabs) : Sortable slabs := by
  intro hlength s hs
  match slabs, h with
  | first :: next :: rest, h =>
    obtain ⟨hfirst, -⟩ := List.pairwise_cons.mp h
    rcases List.mem_cons.mp hs with rfl | hs
    · exact (hfirst next List.mem_cons_self).isNaN_eq_false.1
    · exact (hfirst s hs).isNaN_eq_false.2

/-- Sorting fails only where lower bounds that stand for no number would have to be compared. -/
theorem sortByLower?_eq_ok_iff :
    sortByLower? slabs = .ok sorted ↔ Sortable slabs ∧ sortByLower slabs = sorted := by
  rw [sortByLower?]
  split
  next h =>
    obtain ⟨hlength, hany⟩ := h
    obtain ⟨s, hs, hnan⟩ := List.any_eq_true.mp hany
    constructor
    · intro h
      exact nomatch h
    · rintro ⟨hsortable, -⟩
      rw [hsortable hlength s hs] at hnan
      exact nomatch hnan
  next h =>
    have hsortable : Sortable slabs := by
      intro hlength s hs
      by_contra hnan
      exact h ⟨hlength, List.any_eq_true.mpr ⟨s, hs, by simpa using hnan⟩⟩
    simp [hsortable]

end Passbook.Slab
