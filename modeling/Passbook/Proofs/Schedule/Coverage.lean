import Passbook.Proofs.Schedule.Tiled

/-!
# What a checked schedule covers

In a schedule without conflicts the slabs that contain an amount are one range, and the first of
them as given sets the fee. An amount has no fee exactly if it is below all slabs, above the last
one, or strictly within a step after the end of a slab that is not the last. On the grid of the
step there are no such amounts between the first start and the last end.
-/

namespace Passbook

open Decimal

namespace Slab

variable {s t : Slab} {slabs rest : List Slab} {a q u : ℚ}

theorem EndsBelow.not_covers (h : s.EndsBelow a) : ¬s.Covers a := fun hc => hc.2 h

theorem not_covers_of_lt (h : a < s.low) : ¬s.Covers a := fun hc => absurd hc.1 (not_le.mpr h)

namespace Tiled

theorem tail (h : Tiled q (s :: rest)) : Tiled q rest where
  upright := (List.forall_mem_cons.mp h.upright).2
  apart := (List.pairwise_cons.mp h.apart).2
  chain := h.chain.tail

/-- Slabs without conflicts start in their order. -/
theorem low_le (h : Tiled q (s :: rest)) (ht : t ∈ rest) : s.low ≤ t.low := by
  rcases (List.pairwise_cons.mp h.apart).1 t ht with hsame | ⟨v, hv, hlt⟩
  · exact hsame.1.le
  · by_contra hlow
    exact h.upright s List.mem_cons_self ⟨v, hv, hlt.trans (not_le.mp hlow)⟩

/-- A slab ends below every amount that a later slab ends below. -/
theorem endsBelow_of_later (h : Tiled q (s :: rest)) (ht : t ∈ rest) (hend : t.EndsBelow a) :
    s.EndsBelow a := by
  rcases (List.pairwise_cons.mp h.apart).1 t ht with hsame | ⟨v, hv, hlt⟩
  · exact hsame.endsBelow_iff.mpr hend
  · obtain ⟨w, hw, hwa⟩ := hend
    have hupright : t.low ≤ w := by
      by_contra hlow
      exact h.upright t (List.mem_cons_of_mem s ht) ⟨w, hw, not_le.mp hlow⟩
    exact ⟨v, hv, hlt.trans_le (hupright.trans hwa.le)⟩

/-- A later slab is the same range, or starts a step after the end or above. -/
theorem step_le (h : Tiled q (s :: rest)) (hu : u ∈ s.high) (ht : t ∈ rest) :
    s.SameBounds t ∨ u + q ≤ t.low := by
  induction rest generalizing s with
  | nil => exact absurd ht List.not_mem_nil
  | cons next rest ih =>
    rcases (List.isChain_cons_cons.mp h.chain).1 with hsame | ⟨v, hv, hstart⟩
    · rcases List.mem_cons.mp ht with rfl | ht
      · exact .inl hsame
      · rcases ih h.tail (hsame.2 ▸ hu) ht with hnext | hle
        · exact .inl ⟨hsame.1.trans hnext.1, hsame.2.trans hnext.2⟩
        · exact .inr hle
    · obtain rfl := Option.mem_unique hu hv
      refine .inr ?_
      rcases List.mem_cons.mp ht with rfl | ht
      · exact hstart.ge
      · exact hstart.ge.trans (h.tail.low_le ht)

/-- Slabs that cover one amount are one range. -/
theorem sameBounds (h : Tiled q slabs) (hs : s ∈ slabs) (ht : t ∈ slabs) (hcs : s.Covers a)
    (hct : t.Covers a) : s.SameBounds t := by
  induction slabs with
  | nil => exact absurd hs List.not_mem_nil
  | cons first rest ih =>
    have hfirst : ∀ x ∈ rest, first.Covers a → x.Covers a → first.SameBounds x := by
      intro x hx hcf hcx
      rcases (List.pairwise_cons.mp h.apart).1 x hx with hsame | ⟨v, hv, hlt⟩
      · exact hsame
      · exact absurd ⟨v, hv, hlt.trans_le hcx.1⟩ hcf.2
    rcases List.mem_cons.mp hs with rfl | hs'
    · rcases List.mem_cons.mp ht with rfl | ht'
      · exact ⟨rfl, rfl⟩
      · exact hfirst t ht' hcs hct
    · rcases List.mem_cons.mp ht with rfl | ht'
      · exact (hfirst s hs' hct hcs).symm
      · exact ih h.tail hs' ht'

/-- No slab covers an amount above the last one. -/
theorem not_covers_of_last (h : Tiled q slabs) (hlast : slabs.getLast? = some s)
    (hend : s.EndsBelow a) : ∀ t ∈ slabs, ¬t.Covers a := by
  induction slabs with
  | nil => simp
  | cons first rest ih =>
    cases rest with
    | nil =>
      obtain rfl := Option.some.inj hlast
      simpa using hend.not_covers
    | cons next rest =>
      rw [List.getLast?_cons_cons] at hlast
      refine List.forall_mem_cons.mpr ⟨?_, ih h.tail hlast⟩
      exact (h.endsBelow_of_later (List.mem_of_getLast? hlast) hend).not_covers

/-- No slab covers an amount strictly within a step after the end of one. -/
theorem not_covers_of_gap (h : Tiled q slabs) (hs : s ∈ slabs) (hu : u ∈ s.high) (hlt : u < a)
    (hgap : a < u + q) : ∀ t ∈ slabs, ¬t.Covers a := by
  induction slabs with
  | nil => simp
  | cons first rest ih =>
    rcases List.mem_cons.mp hs with rfl | hs
    · refine List.forall_mem_cons.mpr ⟨EndsBelow.not_covers ⟨u, hu, hlt⟩, fun t ht => ?_⟩
      rcases h.step_le hu ht with hsame | hle
      · exact (hsame.endsBelow_iff.mp ⟨u, hu, hlt⟩).not_covers
      · exact not_covers_of_lt (hgap.trans_le hle)
    · refine List.forall_mem_cons.mpr ⟨?_, ih h.tail hs⟩
      exact (h.endsBelow_of_later hs ⟨u, hu, hlt⟩).not_covers

/-- An amount that no slab covers is below all of them, above the last, or strictly within a
step after the end of one that is not the last. -/
theorem gap_of_not_covers (h : Tiled q slabs) (ha : ∀ s ∈ slabs, ¬s.Covers a) :
    (∀ s ∈ slabs, a < s.low) ∨ (∃ s, slabs.getLast? = some s ∧ s.EndsBelow a) ∨
      ∃ s ∈ slabs.dropLast, ∃ u ∈ s.high, u < a ∧ a < u + q := by
  induction slabs with
  | nil => exact .inl (by simp)
  | cons s rest ih =>
    obtain ⟨hs, hrest⟩ := List.forall_mem_cons.mp ha
    by_cases hlow : a < s.low
    · exact .inl (List.forall_mem_cons.mpr ⟨hlow, fun t ht => hlow.trans_le (h.low_le ht)⟩)
    · have hend : s.EndsBelow a := by
        by_contra hnot
        exact hs ⟨not_lt.mp hlow, hnot⟩
      cases rest with
      | nil => exact .inr (.inl ⟨s, rfl, hend⟩)
      | cons next rest =>
        rw [List.getLast?_cons_cons, List.dropLast_cons_cons]
        rcases ih h.tail hrest with hbelow | habove | ⟨t, ht, hgap⟩
        · -- Below the next slab but not below this one: the two are not one range.
          have hnext := hbelow next List.mem_cons_self
          rcases (List.isChain_cons_cons.mp h.chain).1 with hsame | ⟨u, hu, hstart⟩
          · exact absurd (hsame.1 ▸ hnext) hlow
          · obtain ⟨v, hv, hva⟩ := hend
            obtain rfl := Option.mem_unique hu hv
            exact .inr (.inr ⟨s, List.mem_cons_self, u, hu, hva, hstart ▸ hnext⟩)
        · exact .inr (.inl habove)
        · exact .inr (.inr ⟨t, List.mem_cons_of_mem s ht, hgap⟩)

/-- The amounts that no slab covers. -/
theorem not_covers_iff (h : Tiled q slabs) :
    (∀ s ∈ slabs, ¬s.Covers a) ↔
      (∀ s ∈ slabs, a < s.low) ∨ (∃ s, slabs.getLast? = some s ∧ s.EndsBelow a) ∨
        ∃ s ∈ slabs.dropLast, ∃ u ∈ s.high, u < a ∧ a < u + q := by
  refine ⟨h.gap_of_not_covers, ?_⟩
  rintro (hbelow | ⟨s, hlast, hend⟩ | ⟨s, hs, u, hu, hlt, hgap⟩)
  · exact fun s hs => not_covers_of_lt (hbelow s hs)
  · exact h.not_covers_of_last hlast hend
  · exact h.not_covers_of_gap (List.mem_of_mem_dropLast hs) hu hlt hgap

end Tiled

/-- A search for slabs that are one range finds the same slab before and after sorting. -/
theorem find?_sortByLower (hbounds : ∀ s ∈ slabs, s.FiniteBounds)
    (hsame : ∀ s ∈ slabs, ∀ t ∈ slabs, s.Covers a → t.Covers a → s.SameBounds t) :
    (sortByLower slabs).find? (fun s => decide (s.Covers a)) =
      slabs.find? fun s => decide (s.Covers a) := by
  rw [← List.head?_filter, ← List.head?_filter, filter_sortByLower]
  intro s hs t ht hcs hct
  have hrange := hsame s hs t ht (of_decide_eq_true hcs) (of_decide_eq_true hct)
  exact (startsNoLater_iff (hbounds s hs) (hbounds t ht)).mpr hrange.1.le

end Slab

namespace Schedule

variable {authored : List Slab} {step amount : Decimal} {schedule : Schedule} {a : ℚ}

/-- A schedule of the given slabs in which nothing is found, whose bounds are numbers and whose
steps are not rounded. -/
structure Checked (schedule : Schedule) (authored : List Slab) (step : Decimal) : Prop where
  bounds : ∀ s ∈ authored, s.FiniteBounds
  exactStep : ∀ s ∈ authored, s.ExactStep step
  ofSlabs : ofSlabs authored step = .ok schedule
  conflicts : schedule.conflicts = .ok []

namespace Checked

/-- The slabs of the schedule are the authored ones in order. -/
theorem slabs_eq (h : schedule.Checked authored step) :
    schedule.slabs = Slab.sortByLower authored := (ofSlabs_eq_ok h.ofSlabs).1

theorem mem_slabs (h : schedule.Checked authored step) {s : Slab} :
    s ∈ schedule.slabs ↔ s ∈ authored := by
  rw [h.slabs_eq, Slab.mem_sortByLower]

theorem bounds_slabs (h : schedule.Checked authored step) :
    ∀ s ∈ schedule.slabs, s.FiniteBounds := fun s hs => h.bounds s (h.mem_slabs.mp hs)

/-- The slabs of the schedule have no conflicts. -/
theorem tiled (h : schedule.Checked authored step) : Slab.Tiled step.value schedule.slabs := by
  have hconflicts := h.conflicts
  rw [Schedule.conflicts, (ofSlabs_eq_ok h.ofSlabs).2] at hconflicts
  refine Slab.tiled_of_conflictsOf h.bounds_slabs
    (fun s hs => h.exactStep s (h.mem_slabs.mp hs)) ?_ hconflicts
  rw [h.slabs_eq]
  exact Slab.sortByLower_sorted h.bounds

theorem sameBounds (h : schedule.Checked authored step) {s t : Slab} (hs : s ∈ authored)
    (ht : t ∈ authored) (hcs : s.Covers a) (hct : t.Covers a) : s.SameBounds t :=
  h.tiled.sameBounds (h.mem_slabs.mpr hs) (h.mem_slabs.mpr ht) hcs hct

/-- The fee is that of the first given slab that covers the amount. -/
theorem resolve_eq (h : schedule.Checked authored step) (ha : amount.HasValue a) :
    schedule.resolve amount = (authored.find? fun s => decide (s.Covers a)).elim
      (.error (.noMatchingSlab amount)) (fun s => .ok s.fee) := by
  have hfind := Slab.find?_sortByLower (a := a) h.bounds fun s hs t ht => h.sameBounds hs ht
  rw [Schedule.resolve_eq h.bounds_slabs ha, h.slabs_eq, hfind]

/-- There is no fee exactly if no slab covers the amount. -/
theorem resolve_eq_error_iff (h : schedule.Checked authored step) (ha : amount.HasValue a) :
    schedule.resolve amount = .error (.noMatchingSlab amount) ↔
      ∀ s ∈ schedule.slabs, ¬s.Covers a := by
  rw [h.resolve_eq ha]
  cases hfind : authored.find? fun s => decide (s.Covers a) with
  | none =>
    refine iff_of_true rfl fun s hs => ?_
    simpa using List.find?_eq_none.mp hfind s (h.mem_slabs.mp hs)
  | some s =>
    refine iff_of_false nofun fun hnone => ?_
    have hmem := h.mem_slabs.mpr (List.mem_of_find?_eq_some hfind)
    have hcovers := List.find?_some hfind
    exact hnone s hmem (of_decide_eq_true hcovers)

/-- The amounts without a fee. -/
theorem resolve_eq_error_iff_gap (h : schedule.Checked authored step) (ha : amount.HasValue a) :
    schedule.resolve amount = .error (.noMatchingSlab amount) ↔
      (∀ s ∈ authored, a < s.low) ∨ (∃ s, schedule.slabs.getLast? = some s ∧ s.EndsBelow a) ∨
        ∃ s ∈ schedule.slabs.dropLast, ∃ u ∈ s.high, u < a ∧ a < u + step.value := by
  rw [h.resolve_eq_error_iff ha, h.tiled.not_covers_iff]
  simp only [h.mem_slabs]

/-- The first given slab that contains an amount sets its fee. -/
theorem resolve_first (h : schedule.Checked authored step) (ha : amount.HasValue a)
    {before after : List Slab} {s : Slab} (hsplit : authored = before ++ s :: after)
    (hbefore : ∀ t ∈ before, ¬t.Covers a) (hs : s.Covers a) :
    schedule.resolve amount = .ok s.fee := by
  have hfind : authored.find? (fun t => decide (t.Covers a)) = some s := by
    rw [hsplit, List.find?_append, List.find?_eq_none.mpr (by simpa using hbefore),
      Option.none_or, List.find?_cons, decide_eq_true hs]
  rw [h.resolve_eq ha, hfind, Option.elim_some]

/-- No amount on the grid of the step, from the first start to the last end, is without a fee. -/
theorem resolve_of_grid (h : schedule.Checked authored step) (ha : amount.HasValue a) {base : ℚ}
    (hgrid : ∀ s ∈ authored, ∀ u ∈ s.high, ∃ k : ℤ, u = base + k * step.value)
    (hamount : ∃ k : ℤ, a = base + k * step.value) (hlow : ∃ s ∈ authored, s.low ≤ a)
    (hhigh : ∀ s, schedule.slabs.getLast? = some s → ¬s.EndsBelow a) :
    ∃ fee, schedule.resolve amount = .ok fee := by
  by_contra hnone
  have herror : schedule.resolve amount = .error (.noMatchingSlab amount) := by
    rw [h.resolve_eq ha] at hnone ⊢
    cases hfind : authored.find? fun s => decide (s.Covers a) with
    | none => rfl
    | some s =>
      rw [hfind] at hnone
      exact absurd ⟨s.fee, rfl⟩ hnone
  rcases (h.resolve_eq_error_iff_gap ha).mp herror with hbelow | ⟨s, hlast, hend⟩ |
    ⟨s, hs, u, hu, hlt, hgap⟩
  · obtain ⟨s, hs, hle⟩ := hlow
    exact absurd (hbelow s hs) (not_lt.mpr hle)
  · exact hhigh s hlast hend
  · -- Between two neighbouring points of the grid there is no third.
    obtain ⟨m, rfl⟩ := hgrid s (h.mem_slabs.mp (List.mem_of_mem_dropLast hs)) u hu
    obtain ⟨k, rfl⟩ := hamount
    have hstep : 0 < step.value := by linarith
    have hmk : (m : ℚ) < k := lt_of_mul_lt_mul_right (by linarith) hstep.le
    have hkm : (k : ℚ) < m + 1 := lt_of_mul_lt_mul_right (by linarith) hstep.le
    have hmk' : m < k := by exact_mod_cast hmk
    have hkm' : k < m + 1 := by exact_mod_cast hkm
    omega

end Checked

/-- An amount is found to be in a slab exactly if the slab covers it. -/
theorem contains_iff_covers {s : Slab} (hs : s.FiniteBounds) (ha : amount.HasValue a) :
    (s.contains amount = .ok true ↔ s.Covers a) ∧
      (s.contains amount = .ok false ↔ ¬s.Covers a) := by
  rw [Slab.contains_eq hs ha]
  simp

/-- A checked schedule prices every covered amount, and prices it once. -/
theorem resolve_checked (schedule : Schedule) (authored : List Slab) (step amount : Decimal)
    (h : schedule.Checked authored step) (hamount : amount.isFinite = true) :
    (∀ s ∈ authored, ∀ t ∈ authored, s.contains amount = .ok true →
      t.contains amount = .ok true → s.SameBounds t) ∧
    (∀ before s after, authored = before ++ s :: after →
      (∀ t ∈ before, t.contains amount = .ok false) → s.contains amount = .ok true →
        schedule.resolve amount = .ok s.fee) ∧
    (schedule.resolve amount = .error (.noMatchingSlab amount) ↔
      (∀ s ∈ authored, amount.value < s.low) ∨
      (∃ s, schedule.slabs.getLast? = some s ∧ ∃ u ∈ s.high, u < amount.value) ∨
      ∃ s ∈ schedule.slabs.dropLast, ∃ u ∈ s.high,
        u < amount.value ∧ amount.value < u + step.value) ∧
    (∀ base : ℚ, (∀ s ∈ authored, ∀ u ∈ s.high, ∃ k : ℤ, u = base + k * step.value) →
      (∃ k : ℤ, amount.value = base + k * step.value) →
      (∃ s ∈ authored, s.low ≤ amount.value) →
      (∀ s, schedule.slabs.getLast? = some s → ∀ u ∈ s.high, amount.value ≤ u) →
        ∃ fee, schedule.resolve amount = .ok fee) := by
  have ha := hasValue_value hamount
  refine ⟨?_, ?_, h.resolve_eq_error_iff_gap ha, ?_⟩
  · intro s hs t ht hcs hct
    rw [(contains_iff_covers (h.bounds s hs) ha).1] at hcs
    rw [(contains_iff_covers (h.bounds t ht) ha).1] at hct
    exact h.sameBounds hs ht hcs hct
  · intro before s after hsplit hbefore hcs
    have hs : s ∈ authored := by rw [hsplit]; simp
    rw [(contains_iff_covers (h.bounds s hs) ha).1] at hcs
    refine h.resolve_first ha hsplit (fun t ht => ?_) hcs
    have ht' : t ∈ authored := by rw [hsplit]; exact List.mem_append_left _ ht
    exact (contains_iff_covers (h.bounds t ht') ha).2.mp (hbefore t ht)
  · intro base hgrid hunits hlow hhigh
    refine h.resolve_of_grid ha hgrid hunits hlow ?_
    rintro s hlast ⟨u, hu, hlt⟩
    exact absurd (hhigh s hlast u hu) (not_le.mpr hlt)

/-- Two tiers, the first one given twice and after the second. -/
def doubledTier : List Slab := [⟨101, none, 10⟩, ⟨0, some 100, 5⟩, ⟨0, some 100, 7⟩]

/-- The tiers in order, one unit apart. -/
def unitSchedule : Schedule := ⟨[⟨0, some 100, 5⟩, ⟨0, some 100, 7⟩, ⟨101, none, 10⟩], 1⟩

theorem unitSchedule_checked : unitSchedule.Checked doubledTier 1 where
  bounds s hs := by
    fin_cases hs
    · exact ⟨rfl, nofun⟩
    · exact ⟨rfl, fun u hu => by obtain rfl := Option.some.inj hu; rfl⟩
    · exact ⟨rfl, fun u hu => by obtain rfl := Option.some.inj hu; rfl⟩
  exactStep s hs u hu next hnext := by
    have hu100 : u = 100 := by
      fin_cases hs
      · exact nomatch hu
      · exact (Option.some.inj hu).symm
      · exact (Option.some.inj hu).symm
    subst hu100
    obtain rfl : (101 : Decimal) = next := Except.ok.inj hnext
    rw [(hasValue_ofNat 100).value_eq, (hasValue_ofNat 1).value_eq]
    refine ⟨rfl, ?_⟩
    rw [(hasValue_ofNat 101).value_eq]
    norm_num
  ofSlabs := rfl
  conflicts := rfl

/-- The first of two equal tiers sets the fee, and half a unit after their end has none. -/
theorem unitSchedule_resolve :
    unitSchedule.resolve 100 = .ok 5 ∧
      unitSchedule.resolve (.finite ⟨false, 1005, -1⟩) =
        .error (.noMatchingSlab (.finite ⟨false, 1005, -1⟩)) := by
  obtain ⟨-, hfirst, -, -⟩ :=
    resolve_checked unitSchedule doubledTier 1 100 unitSchedule_checked rfl
  obtain ⟨-, -, hgap, -⟩ := resolve_checked unitSchedule doubledTier 1
    (.finite ⟨false, 1005, -1⟩) unitSchedule_checked rfl
  have hhundred : (100 : Decimal).value = 100 := (hasValue_ofNat 100).value_eq
  have hone : (1 : Decimal).value = 1 := (hasValue_ofNat 1).value_eq
  refine ⟨hfirst [⟨101, none, 10⟩] ⟨0, some 100, 5⟩ [⟨0, some 100, 7⟩] rfl ?_ rfl, hgap.mpr ?_⟩
  · intro t ht
    obtain rfl := List.mem_singleton.mp ht
    rfl
  · refine .inr (.inr ⟨⟨0, some 100, 5⟩, List.mem_cons_self, 100, ?_, ?_, ?_⟩)
    · rw [Slab.high, Option.map_some, hhundred]
      rfl
    · norm_num [zpow_neg]
    · rw [hone]
      norm_num [zpow_neg]

end Schedule

end Passbook
