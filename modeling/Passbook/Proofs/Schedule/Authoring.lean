import Passbook.Proofs.Decimal.Operations
import Passbook.Proofs.Schedule.Report
import Passbook.Proofs.Schedule.Repricing
import Mathlib.Data.List.Sort

/-!
# The order in which tiers are given

Slabs are sorted by their lower bounds only, so slabs with equal lower bounds stay in the order in
which they were given. Of the slabs that contain an amount, the one with the least lower bound is
found, and the earliest of those that start there.

The order of equal lower bounds decides which slabs are neighbours. In slabs without conflicts it
makes no difference: two that start at one number have the same bounds, so that the sorted bounds
are the same in any order, and whether a slab is followed by the next one depends on the bounds
alone.
-/

namespace Passbook

open Decimal

namespace Slab

variable {s t : Slab} {step : Decimal} {slabs others authored other : List Slab} {p : Slab → Bool}

theorem FiniteBounds.comparable (h : s.FiniteBounds) : s.Comparable :=
  ⟨h.isNaN_lower, fun u hu => isNaN_of_isFinite (h.upper u hu)⟩

/-- Of the selected slabs none starts below the slab, and none that was given earlier starts with
it. -/
def Foremost (p : Slab → Bool) (s : Slab) (slabs : List Slab) : Prop :=
  p s = true ∧ ∃ before after, slabs = before ++ s :: after ∧
    (∀ t ∈ before, p t = true → s.low < t.low) ∧ ∀ t ∈ after, p t = true → s.low ≤ t.low

theorem Foremost.mem (h : Foremost p s slabs) : s ∈ slabs := by
  obtain ⟨-, before, after, rfl, -⟩ := h
  simp

theorem find?_insertByLower_of_not (hs : p s = false) :
    (insertByLower s slabs).find? p = slabs.find? p := by
  rw [← List.head?_filter, ← List.head?_filter, filter_insertByLower_of_not hs]

/-- A selected slab that is put into its place is found, unless one that starts below it was found
before. -/
theorem find?_insertByLower (hp : p s = true) (hs : s.FiniteBounds)
    (hslabs : ∀ t ∈ slabs, t.FiniteBounds)
    (hsorted : slabs.Pairwise fun s t => s.low ≤ t.low) :
    (insertByLower s slabs).find? p =
      some (((slabs.find? p).filter fun t => t.low < s.low).getD s) := by
  induction slabs with
  | nil => simp [insertByLower, hp]
  | cons t rest ih =>
    obtain ⟨ht, hrest⟩ := List.forall_mem_cons.mp hslabs
    obtain ⟨hleast, hsorted'⟩ := List.pairwise_cons.mp hsorted
    rw [insertByLower]
    split
    next hbefore =>
      -- all slabs behind it start at its lower bound or above
      have hle : s.low ≤ t.low := (startsNoLater_iff hs ht).mp hbefore
      have hnone : ((t :: rest).find? p).filter (fun t => decide (t.low < s.low)) = none := by
        rw [Option.filter_eq_none_iff]
        intro x hx
        have hmem := List.mem_of_find?_eq_some hx
        have hlow : t.low ≤ x.low := by
          rcases List.mem_cons.mp hmem with rfl | hmem
          · exact le_rfl
          · exact hleast x hmem
        simpa using hle.trans hlow
      rw [List.find?_cons_of_pos hp, hnone, Option.getD_none]
    next hafter =>
      have hlt : t.low < s.low := by
        rw [startsNoLater_iff hs ht] at hafter
        exact not_le.mp hafter
      cases hpt : p t with
      | true => simp [hpt, hlt, Option.filter]
      | false =>
        have hnot : ¬p t = true := by simp [hpt]
        rw [List.find?_cons_of_neg hnot, List.find?_cons_of_neg hnot, ih hrest hsorted']

/-- In sorted slabs the foremost of the selected ones is found. -/
theorem foremost_of_find? (h : ∀ s ∈ authored, s.FiniteBounds)
    (hfound : (sortByLower authored).find? p = some s) : Foremost p s authored := by
  induction authored generalizing s with
  | nil => exact nomatch hfound
  | cons first rest ih =>
    obtain ⟨hfirst, hrest⟩ := List.forall_mem_cons.mp h
    have hsort : sortByLower (first :: rest) = insertByLower first (sortByLower rest) := rfl
    rw [hsort] at hfound
    cases hp : p first with
    | false =>
      rw [find?_insertByLower_of_not hp] at hfound
      obtain ⟨hs, before, after, rfl, hbefore, hafter⟩ := ih hrest hfound
      refine ⟨hs, first :: before, after, rfl, ?_, hafter⟩
      exact List.forall_mem_cons.mpr ⟨fun hfirst => by simp [hp] at hfirst, hbefore⟩
    | true =>
      rw [find?_insertByLower hp hfirst (fun t ht => hrest t (mem_sortByLower.mp ht))
        (sortByLower_sorted hrest)] at hfound
      obtain rfl := Option.some.inj hfound
      cases hsearch : (sortByLower rest).find? p with
      | none =>
        have hnone : ∀ t ∈ rest, ¬p t = true := fun t ht =>
          List.find?_eq_none.mp hsearch t (mem_sortByLower.mpr ht)
        exact ⟨hp, [], rest, rfl, by simp, fun t ht hpt => absurd hpt (hnone t ht)⟩
      | some t =>
        obtain ⟨ht, before, after, rfl, hbefore, hafter⟩ := ih hrest hsearch
        by_cases hlt : t.low < first.low
        · refine ⟨by simpa [Option.filter, hlt] using ht, first :: before, after, ?_⟩
          simp only [Option.filter, hlt, decide_true, if_true, Option.getD_some]
          exact ⟨rfl, List.forall_mem_cons.mpr ⟨fun _ => hlt, hbefore⟩, hafter⟩
        · have hle := not_lt.mp hlt
          refine ⟨by simpa [Option.filter, hlt] using hp, [], before ++ t :: after, ?_⟩
          simp only [Option.filter, hlt, decide_false, Bool.false_eq_true, if_false,
            Option.getD_none]
          refine ⟨rfl, by simp, fun x hx hpx => ?_⟩
          rcases List.mem_append.mp hx with hx | hx
          · exact hle.trans (hbefore x hx hpx).le
          · rcases List.mem_cons.mp hx with rfl | hx
            · exact hle
            · exact hle.trans (hafter x hx hpx)

/-- The numbers from which and to which the slab is. -/
def bounds (s : Slab) : ℚ × Option ℚ := (s.low, s.high)

/-- Two slabs are one range exactly if their bounds are equal. -/
theorem sameBounds_iff : s.SameBounds t ↔ s.bounds = t.bounds := Prod.mk_inj.symm

/-- Bounds are the same, or the second start at the sum of the end of the first and one step, as
the context rounds it. -/
def Adjoin (q : ℚ) (first second : ℚ × Option ℚ) : Prop :=
  first = second ∨
    ∃ u ∈ first.2, |rounded (u + q)| < limit ∧ second.1 = rounded (u + q)

/-- Whether there is no gap between two slabs depends on their bounds alone. -/
theorem hasGap_eq_false_iff (hs : s.FiniteBounds) (ht : t.FiniteBounds)
    (hstep : step.isFinite = true) :
    s.hasGap t step = .ok false ↔ Adjoin step.value s.bounds t.bounds := by
  rw [hasGap, samePeriod_eq hs ht, ok_bind, Adjoin, ← sameBounds_iff]
  by_cases hsame : s.SameBounds t
  · simp [hsame, pure, Except.pure]
  · rw [decide_eq_false hsame, if_neg (by decide)]
    cases hu : s.upper with
    | none => simp [hsame, bounds, high, hu, pure, Except.pure]
    | some u =>
      have hsum := add_rounds (hs.hasValue_upper hu) (hasValue_value hstep)
      have hhigh : s.bounds.2 = some u.value := by simp [bounds, high, hu]
      simp only [hsame, false_or, hhigh, Option.mem_some_iff, exists_eq_left']
      by_cases hlimit : |rounded (u.value + step.value)| < limit
      · obtain ⟨next, hnext, hvalue⟩ := hsum.returns hlimit
        simp only [hnext, ok_bind, sameValue_eq ht.hasValue_lower hvalue, hlimit, true_and]
        simp [pure, Except.pure, bounds]
      · rw [hsum.overflows (not_lt.mp hlimit)]
        simp [hlimit]

/-- The first start below the second, or both bounds are the same. -/
def Precede (first second : ℚ × Option ℚ) : Prop := first.1 < second.1 ∨ first = second

/-- The bounds of arranged slabs precede those of later ones: two slabs that start at one number
share it, and so they have the same bounds. -/
theorem Arranged.precede (h : Arranged slabs) (hbounds : ∀ s ∈ slabs, s.FiniteBounds) :
    (slabs.map bounds).Pairwise Precede := by
  rw [List.pairwise_map]
  refine (h.pairwise.and (h.ordered.low_le hbounds)).imp_of_mem ?_
  rintro s t hs ht ⟨hapart, hle⟩
  have hupright := upright_of_isInverted (hbounds t ht) (h.upright t ht)
  rcases hle.lt_or_eq with hlt | heq
  · exact .inl hlt
  · rcases apart_of_conflictsWith (hbounds s hs) (hbounds t ht) hle hupright hapart with
      hsame | hend
    · exact .inr (sameBounds_iff.mp hsame)
    · rw [← heq] at hend
      exact absurd hend (upright_of_isInverted (hbounds s hs) (h.upright s hs))

/-- Arranged slabs have the same bounds in any order. -/
theorem Arranged.map_bounds_eq (h : Arranged slabs) (hothers : Arranged others)
    (hperm : slabs.Perm others) (hbounds : ∀ s ∈ slabs, s.FiniteBounds) :
    slabs.map bounds = others.map bounds := by
  have hantisymm : ∀ a b, Precede a b → Precede b a → a = b := by
    rintro a b (hab | hab) (hba | hba)
    · exact absurd hab hba.asymm
    · exact hba.symm
    · exact hab
    · exact hab
  exact (hperm.map bounds).eq_of_pairwise (fun a b _ _ => hantisymm a b) (h.precede hbounds)
    (hothers.precede fun s hs => hbounds s (hperm.mem_iff.mpr hs))

/-- Slabs that are arranged when they are sorted are so in whatever order they are given. -/
theorem Arranged.of_perm (h : Arranged (sortByLower authored)) (hperm : other.Perm authored)
    (hbounds : ∀ s ∈ authored, s.FiniteBounds) : Arranged (sortByLower other) := by
  have hsorted : (sortByLower authored).Perm (sortByLower other) :=
    (sortByLower_perm authored).trans (hperm.symm.trans (sortByLower_perm other).symm)
  exact {
    ordered := sortByLower_ordered_of_forall fun s hs =>
      (hbounds s (hperm.mem_iff.mp hs)).isNaN_lower
    upright := fun s hs => h.upright s (hsorted.mem_iff.mpr hs)
    compatible := h.compatible.perm hsorted }

/-- Different slabs of compatible ones that contain one amount have the same bounds. -/
theorem Compatible.sameBounds (h : Compatible slabs) (hbounds : ∀ s ∈ slabs, s.FiniteBounds)
    {amount : Decimal} (hs : s ∈ slabs) (ht : t ∈ slabs) (hne : s ≠ t)
    (hcs : s.contains amount = .ok true) (hct : t.contains amount = .ok true) :
    s.SameBounds t := by
  have hsymm : Std.Symm fun s t : Slab => ¬s.Conflicting t := ⟨fun _ _ h hts => h hts.symm⟩
  have hnot : ¬s.Conflicting t := h.apart.forall hs ht hne
  have hst := not_endsBelow_of_contains (hbounds s hs) (hbounds t ht) hcs hct
  have hts := not_endsBelow_of_contains (hbounds t ht) (hbounds s hs) hct hcs
  by_contra hdifferent
  refine hnot ?_
  rw [Conflicting, conflictsWith_eq (hbounds s hs) (hbounds t ht)]
  exact congrArg Except.ok (decide_eq_true ⟨⟨hst, hts⟩, hdifferent⟩)

/-- Of compatible slabs with bounds that differ only one contains an amount. -/
theorem Compatible.eq_of_contains (h : Compatible slabs) (hbounds : ∀ s ∈ slabs, s.FiniteBounds)
    (hdistinct : slabs.Pairwise fun s t => s.samePeriod t = .ok false) {amount : Decimal}
    (hs : s ∈ slabs) (ht : t ∈ slabs) (hcs : s.contains amount = .ok true)
    (hct : t.contains amount = .ok true) : s = t := by
  by_contra hne
  have hsame := h.sameBounds hbounds hs ht hne hcs hct
  have hsymm : Std.Symm fun s t : Slab => s.samePeriod t = .ok false :=
    ⟨fun s t h => by rwa [samePeriod_comm]⟩
  have hperiod := hdistinct.forall hs ht hne
  rw [samePeriod_eq (hbounds s hs) (hbounds t ht), decide_eq_true hsame] at hperiod
  exact nomatch hperiod

end Slab

namespace Schedule

open Slab (Arranged sortByLower mem_sortByLower Foremost)

variable {slabs authored other : List Slab} {step amount : Decimal}

/-- In arranged slabs nothing is found exactly if the bounds of each adjoin the next ones. -/
theorem conflictsOf_eq_nil_iff_adjoin (h : Arranged slabs) (hbounds : ∀ s ∈ slabs, s.FiniteBounds)
    (hstep : step.isFinite = true) : conflictsOf step slabs = .ok [] ↔
      (slabs.map Slab.bounds).IsChain (Slab.Adjoin step.value) := by
  rw [conflictsOf_eq_nil_iff h, List.isChain_map]
  exact List.IsChain.iff_of_mem_imp fun s t hs ht =>
    Slab.hasGap_eq_false_iff (hbounds s hs) (hbounds t ht) hstep

/-- Slabs in which nothing is found are without conflicts in whatever order they are given. -/
theorem conflictsOf_eq_nil_of_perm (hbounds : ∀ s ∈ authored, s.FiniteBounds)
    (hstep : step.isFinite = true) (hperm : other.Perm authored)
    (h : conflictsOf step (sortByLower authored) = .ok []) :
    conflictsOf step (sortByLower other) = .ok [] := by
  have hsorted := Slab.sortByLower_ordered_of_forall fun s hs => (hbounds s hs).isNaN_lower
  have harranged := arranged_of_conflictsOf hsorted h
  have hother : Arranged (sortByLower other) := harranged.of_perm hperm hbounds
  have hmem : (sortByLower authored).Perm (sortByLower other) :=
    (Slab.sortByLower_perm authored).trans (hperm.symm.trans (Slab.sortByLower_perm other).symm)
  have hfinite : ∀ s ∈ sortByLower authored, s.FiniteBounds := fun s hs =>
    hbounds s (mem_sortByLower.mp hs)
  have hfinite' : ∀ s ∈ sortByLower other, s.FiniteBounds := fun s hs =>
    hfinite s (hmem.mem_iff.mpr hs)
  rw [conflictsOf_eq_nil_iff_adjoin hother hfinite' hstep,
    ← harranged.map_bounds_eq hother hmem hfinite]
  exact (conflictsOf_eq_nil_iff_adjoin harranged hfinite hstep).mp h

/-- Among slabs with comparable bounds the first one that contains the amount is found. -/
theorem find?_of_comparable (h : ∀ s ∈ slabs, s.Comparable) (ha : amount.isNaN = false) :
    find? amount slabs = .ok (slabs.find? fun s => s.contains amount = .ok true) := by
  induction slabs with
  | nil => rfl
  | cons s rest ih =>
    obtain ⟨hs, hrest⟩ := List.forall_mem_cons.mp h
    obtain ⟨inside, hinside⟩ := hs.exists_contains ha
    rw [find?, hinside, ok_bind]
    cases inside with
    | true => simp [hinside, pure, Except.pure]
    | false => simp [hinside, ih hrest]

/-- Whichever slab is foremost among those that contain an amount sets its fee. Without such a slab
there is no fee. -/
theorem resolve_foremost (step : Decimal) (hbounds : ∀ s ∈ authored, s.FiniteBounds)
    (ha : amount.isNaN = false) :
    (∃ s, Foremost (fun s => s.contains amount = .ok true) s authored ∧
      (⟨sortByLower authored, step⟩ : Schedule).resolve amount = .ok s.fee) ∨
    ((∀ s ∈ authored, s.contains amount ≠ .ok true) ∧
      (⟨sortByLower authored, step⟩ : Schedule).resolve amount =
        .error (.noMatchingSlab amount)) := by
  have hfind := find?_of_comparable
    (fun s hs => (hbounds s (mem_sortByLower.mp hs)).comparable) ha
  rw [resolve, hfind]
  cases hsearch : (sortByLower authored).find? fun s => decide (s.contains amount = .ok true) with
  | some s => exact .inl ⟨s, Slab.foremost_of_find? hbounds hsearch, rfl⟩
  | none =>
    refine .inr ⟨fun s hs => ?_, rfl⟩
    simpa using List.find?_eq_none.mp hsearch s (mem_sortByLower.mpr hs)

/-- If no two slabs that contain one amount are different, the order in which they are given makes
no difference to its fee. -/
theorem resolve_of_perm (hbounds : ∀ s ∈ authored, s.FiniteBounds) (hperm : other.Perm authored)
    (ha : amount.isNaN = false)
    (hunique : ∀ s ∈ authored, ∀ t ∈ authored, s.contains amount = .ok true →
      t.contains amount = .ok true → s = t) :
    (⟨sortByLower other, step⟩ : Schedule).resolve amount =
      (⟨sortByLower authored, step⟩ : Schedule).resolve amount := by
  have hbounds' : ∀ s ∈ other, s.FiniteBounds := fun s hs => hbounds s (hperm.mem_iff.mp hs)
  rcases resolve_foremost step hbounds ha with ⟨s, hs, hfee⟩ | ⟨hnone, herror⟩
  · have hcs : s.contains amount = .ok true := of_decide_eq_true hs.1
    rcases resolve_foremost step hbounds' ha with ⟨t, ht, hfee'⟩ | ⟨hnone', -⟩
    · have hct : t.contains amount = .ok true := of_decide_eq_true ht.1
      rw [hfee, hfee', hunique s hs.mem t (hperm.mem_iff.mp ht.mem) hcs hct]
    · exact absurd hcs (hnone' s (hperm.mem_iff.mpr hs.mem))
  · rcases resolve_foremost step hbounds' ha with ⟨t, ht, -⟩ | ⟨-, herror'⟩
    · exact absurd (of_decide_eq_true ht.1) (hnone t (hperm.mem_iff.mp ht.mem))
    · rw [herror, herror']

/-- Slabs whose bounds are numbers may be given in any order. Whether anything is found in their
schedule does not depend on it, and if nothing is found and no two slabs have the same bounds, no
fee depends on it. In any case, an amount has the fee of the slab that contains it and has the
least lower bound, of the one that was given first among those with equal lower bounds, and no
fee exactly if no slab contains it. -/
theorem authored_in_any_order (authored : List Slab) (step : Decimal)
    (hbounds : ∀ s ∈ authored, s.FiniteBounds) (hstep : step.isFinite = true) :
    ∃ schedule, ofSlabs authored step = .ok schedule ∧
      (∀ amount : Decimal, amount.isNaN = false →
        (schedule.resolve amount = .error (.noMatchingSlab amount) ↔
          ∀ s ∈ authored, s.contains amount ≠ .ok true) ∧
        ((∃ s ∈ authored, s.contains amount = .ok true) → ∃ before s after,
          authored = before ++ s :: after ∧ s.contains amount = .ok true ∧
          (∀ t ∈ before, t.contains amount = .ok true → s.low < t.low) ∧
          (∀ t ∈ after, t.contains amount = .ok true → s.low ≤ t.low) ∧
          schedule.resolve amount = .ok s.fee)) ∧
      ∀ other, other.Perm authored → ∃ reordered, ofSlabs other step = .ok reordered ∧
        (reordered.conflicts = .ok [] ↔ schedule.conflicts = .ok []) ∧
        (schedule.conflicts = .ok [] → (authored.Pairwise fun s t => s.samePeriod t = .ok false) →
          ∀ amount : Decimal, amount.isNaN = false →
            reordered.resolve amount = schedule.resolve amount) := by
  refine ⟨⟨sortByLower authored, step⟩, ofSlabs_ok hbounds, fun amount ha => ?_,
    fun other hperm => ?_⟩
  · rcases resolve_foremost step hbounds ha with ⟨s, hs, hfee⟩ | ⟨hnone, herror⟩
    · obtain ⟨hcontains, before, after, hauthored, hbefore, hafter⟩ := hs
      simp only [decide_eq_true_eq] at hcontains hbefore hafter
      have hmem : s ∈ authored := by simp [hauthored]
      rw [hfee]
      exact ⟨iff_of_false nofun fun h => h s hmem hcontains,
        fun _ => ⟨before, s, after, hauthored, hcontains, hbefore, hafter, rfl⟩⟩
    · exact ⟨iff_of_true herror hnone, fun ⟨s, hs, hcontains⟩ => absurd hcontains (hnone s hs)⟩
  · have hbounds' : ∀ s ∈ other, s.FiniteBounds := fun s hs => hbounds s (hperm.mem_iff.mp hs)
    refine ⟨⟨sortByLower other, step⟩, ofSlabs_ok hbounds', ⟨?_, ?_⟩, ?_⟩
    · exact conflictsOf_eq_nil_of_perm hbounds' hstep hperm.symm
    · exact conflictsOf_eq_nil_of_perm hbounds hstep hperm
    · intro hnone hdistinct amount ha
      have hsorted := Slab.sortByLower_ordered_of_forall fun s hs => (hbounds s hs).isNaN_lower
      have hcompatible : Slab.Compatible authored :=
        (arranged_of_conflictsOf hsorted hnone).compatible.perm (Slab.sortByLower_perm authored)
      exact resolve_of_perm hbounds hperm ha fun s hs t ht =>
        hcompatible.eq_of_contains hbounds hdistinct hs ht

/-- The last tier first, and one tier that was given twice, with bounds that are written in two
ways. -/
def lastFirst : List Slab :=
  [⟨101, none, 9⟩, ⟨0, some 100, 5⟩, ⟨.finite ⟨false, 0, -2⟩, some (.finite ⟨false, 1000, -1⟩), 7⟩]

theorem lastFirst_finiteBounds : ∀ s ∈ lastFirst, s.FiniteBounds := by
  have hlower : ∀ s ∈ lastFirst, s.lower.isFinite = true := by decide
  have hupper : ∀ s ∈ lastFirst, ∀ u ∈ s.upper, u.isFinite = true := by decide
  exact fun s hs => ⟨hlower s hs, hupper s hs⟩

/-- In reverse order the tier that was given twice is found with its other fee, and nothing is
found in either schedule. Without it the order makes no difference. -/
theorem lastFirst_any_order :
    let once : List Slab := lastFirst.take 2
    (∃ schedule reordered, ofSlabs lastFirst = .ok schedule ∧
      ofSlabs lastFirst.reverse = .ok reordered ∧ schedule.conflicts = .ok [] ∧
      reordered.conflicts = .ok [] ∧ schedule.resolve 50 = .ok 5 ∧ reordered.resolve 50 = .ok 7) ∧
    ∃ schedule reordered, ofSlabs once = .ok schedule ∧ ofSlabs once.reverse = .ok reordered ∧
      schedule.conflicts = .ok [] ∧ ∀ amount : Decimal, amount.isNaN = false →
        reordered.resolve amount = schedule.resolve amount := by
  intro once
  constructor
  · obtain ⟨schedule, hschedule, -, hany⟩ :=
      authored_in_any_order lastFirst 1 lastFirst_finiteBounds rfl
    obtain ⟨reordered, hreordered, hconflicts, -⟩ := hany _ lastFirst.reverse_perm
    obtain rfl : (⟨[⟨0, some 100, 5⟩, ⟨.finite ⟨false, 0, -2⟩, some (.finite ⟨false, 1000, -1⟩), 7⟩,
      ⟨101, none, 9⟩], 1⟩ : Schedule) = schedule := Except.ok.inj hschedule
    obtain rfl : (⟨[⟨.finite ⟨false, 0, -2⟩, some (.finite ⟨false, 1000, -1⟩), 7⟩, ⟨0, some 100, 5⟩,
      ⟨101, none, 9⟩], 1⟩ : Schedule) = reordered := Except.ok.inj hreordered
    exact ⟨_, _, hschedule, hreordered, rfl, hconflicts.mpr rfl, rfl, rfl⟩
  · obtain ⟨schedule, hschedule, -, hany⟩ := authored_in_any_order once 1
      (fun s hs => lastFirst_finiteBounds s (List.mem_of_mem_take hs)) rfl
    obtain ⟨reordered, hreordered, -, hfee⟩ := hany _ once.reverse_perm
    obtain rfl : (⟨[⟨0, some 100, 5⟩, ⟨101, none, 9⟩], 1⟩ : Schedule) = schedule :=
      Except.ok.inj hschedule
    exact ⟨_, reordered, hschedule, hreordered, rfl, hfee rfl (by decide)⟩

end Schedule

end Passbook
