import Passbook.Proofs.Decimal.AtMost
import Passbook.Proofs.Schedule.Edits

/-!
# Rising fees

The first slab that contains an amount sets its fee. A slab that contains the larger of two
amounts and not the smaller one starts above the smaller one, and so do all slabs after it. So the
search for the larger amount ends no earlier in the table, and where the fees rise along the
table it finds no lower fee. Slabs may overlap, leave gaps or be inverted.
-/

namespace Passbook

namespace Slab

variable {s : Slab} {a b : Decimal}

/-- An amount is found in a slab if it is found between the bounds. -/
theorem contains_eq_true_iff :
    s.contains a = .ok true ↔ s.lower.le a = .ok true ∧ ∀ u ∈ s.upper, a.le u = .ok true := by
  rw [contains, ite_eq_ok_iff]
  constructor
  · rintro (⟨hlower, hupper⟩ | ⟨-, hfalse⟩)
    · refine ⟨hlower, fun u hu => ?_⟩
      rw [Option.mem_def.mp hu] at hupper
      exact hupper
    · exact nomatch hfalse
  · rintro ⟨hlower, hupper⟩
    refine .inl ⟨hlower, ?_⟩
    cases hu : s.upper with
    | none => rfl
    | some u => exact hupper u hu

/-- A slab that contains an amount contains every smaller one that it does not start above. -/
theorem contains_of_le (hb : s.contains b = .ok true) (hab : a.le b = .ok true)
    (hlower : s.lower.le a = .ok true) : s.contains a = .ok true := by
  obtain ⟨-, hupper⟩ := contains_eq_true_iff.mp hb
  exact contains_eq_true_iff.mpr ⟨hlower, fun u hu => Decimal.le_trans hab (hupper u hu)⟩

/-- The fee of each slab is found to be at most that of every later one. -/
def FeesRise (slabs : List Slab) : Prop := slabs.Pairwise fun s t => s.fee.le t.fee = .ok true

end Slab

namespace Schedule

open Slab (Ordered FeesRise)

variable {slabs rest : List Slab} {s t : Slab} {a b p q : Decimal} {schedule : Schedule}

/-- The search ends at the first slab, or goes on behind it. -/
theorem find?_cons_eq_ok (h : find? a (s :: rest) = .ok (some t)) :
    (s.contains a = .ok true ∧ t = s) ∨
      (s.contains a = .ok false ∧ find? a rest = .ok (some t)) := by
  rw [find?, ite_eq_ok_iff] at h
  rcases h with ⟨hcontains, hsome⟩ | ⟨hcontains, hrest⟩
  · exact .inl ⟨hcontains, (Option.some.inj (pure_eq_ok_iff.mp hsome)).symm⟩
  · exact .inr ⟨hcontains, hrest⟩

/-- The slab that is found is one of the schedule and contains the amount. -/
theorem find?_mem (h : find? a slabs = .ok (some t)) : t ∈ slabs ∧ t.contains a = .ok true := by
  induction slabs with
  | nil => exact nomatch h
  | cons s rest ih =>
    rcases find?_cons_eq_ok h with ⟨hcontains, rfl⟩ | ⟨-, hrest⟩
    · exact ⟨List.mem_cons_self, hcontains⟩
    · obtain ⟨hmem, hcontains⟩ := ih hrest
      exact ⟨List.mem_cons_of_mem s hmem, hcontains⟩

/-- The slab that is found for a larger amount is the same or a later one. -/
theorem find?_fee_le (hordered : Ordered slabs) (hrise : FeesRise slabs)
    (hfinite : ∀ s ∈ slabs, s.fee.isFinite = true) (hab : a.le b = .ok true)
    (ha : find? a slabs = .ok (some s)) (hb : find? b slabs = .ok (some t)) :
    s.fee.AtMost t.fee := by
  induction slabs with
  | nil => exact nomatch ha
  | cons first rest ih =>
    obtain ⟨hstarts, hordered⟩ := List.pairwise_cons.mp hordered
    obtain ⟨hfees, hrise⟩ := List.pairwise_cons.mp hrise
    obtain ⟨hfirst, hothers⟩ := List.forall_mem_cons.mp hfinite
    rcases find?_cons_eq_ok ha with ⟨-, rfl⟩ | ⟨hnot, hrest⟩
    · rcases find?_cons_eq_ok hb with ⟨-, rfl⟩ | ⟨-, hb⟩
      · exact .refl hfirst
      · obtain ⟨ht, -⟩ := find?_mem hb
        exact .of_le hfirst (hothers t ht) (hfees t ht)
    · rcases find?_cons_eq_ok hb with ⟨hcontains, rfl⟩ | ⟨-, hb⟩
      · -- the slab found for the smaller amount starts no lower, so this one contains that amount
        obtain ⟨hs, hcontainsA⟩ := find?_mem hrest
        have hlower : t.lower.le a = .ok true :=
          Decimal.le_trans (hstarts s hs) (Slab.contains_eq_true_iff.mp hcontainsA).1
        exact nomatch hnot.symm.trans (Slab.contains_of_le hcontains hab hlower)
      · exact ih hordered hrise hothers hrest hb

/-- A fee is that of the slab that is found. -/
theorem resolve_eq_ok (h : schedule.resolve a = .ok p) :
    ∃ s, find? a schedule.slabs = .ok (some s) ∧ s.fee = p := by
  obtain ⟨found, hfind, h⟩ := bind_eq_ok_iff.mp h
  rw [liftM_eq_ok_iff] at hfind
  cases found with
  | none => exact nomatch h
  | some s => exact ⟨s, hfind, pure_eq_ok_iff.mp h⟩

/-- Where slabs are in order and their fees rise, a larger amount has no lower fee. -/
theorem resolve_le (hordered : Ordered schedule.slabs) (hrise : FeesRise schedule.slabs)
    (hfinite : ∀ s ∈ schedule.slabs, s.fee.isFinite = true) (hab : a.le b = .ok true) :
    WhereBoth Decimal.AtMost (schedule.resolve a) (schedule.resolve b) := by
  intro p q hp hq
  obtain ⟨s, hs, rfl⟩ := resolve_eq_ok hp
  obtain ⟨t, ht, rfl⟩ := resolve_eq_ok hq
  exact find?_fee_le hordered hrise hfinite hab hs ht

end Schedule

end Passbook
