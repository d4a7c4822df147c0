import Passbook.Proofs.Schedule.Edits
import Mathlib.Data.List.Chain

/-!
# Gaps that edits leave

An edited slab is checked for being inverted and for overlapping the others, but not for the
distance to its neighbours. So edits of a schedule without conflicts never invert a slab and never
make two conflict, while a bound that is moved inwards leaves a gap: the edited schedule is without
conflicts exactly if each slab is still followed by the next one. New fees move no bound, so they
keep a schedule without conflicts, and they price the same amounts.
-/

namespace Passbook

namespace Slab

variable {s t : Slab} {step amount : Decimal} {slabs later : List Slab} {i : Nat}

/-- Neither bound is a value that stands for no number. -/
structure Comparable (s : Slab) : Prop where
  lower : s.lower.isNaN = false
  upper : ∀ u ∈ s.upper, u.isNaN = false

/-- A slab of which it is found out whether it is inverted has comparable bounds, if its lower one
is. -/
theorem comparable_of_isInverted {inverted : Bool} (hlower : s.lower.isNaN = false)
    (h : s.isInverted = .ok inverted) : s.Comparable := by
  refine ⟨hlower, fun u hu => ?_⟩
  rw [isInverted, Option.mem_def.mp hu] at h
  cases hc : u.compare? s.lower with
  | none => simp [Decimal.lt, hc] at h
  | some o =>
    obtain ⟨p, -, hp, -⟩ := Decimal.point?_of_compare? hc
    exact Decimal.exists_point?_iff.mp ⟨p, hp⟩

/-- With comparable bounds it is found out whether a slab ends before another one. -/
theorem Comparable.exists_endsBefore (hs : s.Comparable) (ht : t.Comparable) :
    ∃ b, s.endsBefore t = .ok b := by
  unfold endsBefore
  cases hu : s.upper with
  | none => exact ⟨false, rfl⟩
  | some u =>
    obtain ⟨o, ho⟩ := Decimal.exists_compare? (hs.upper u hu) ht.lower
    simp [Decimal.lt, ho]

/-- With comparable bounds it is found out whether two slabs are one range. -/
theorem Comparable.exists_samePeriod (hs : s.Comparable) (ht : t.Comparable) :
    ∃ b, s.samePeriod t = .ok b := by
  obtain ⟨o, ho⟩ := Decimal.exists_compare? hs.lower ht.lower
  simp only [samePeriod, Decimal.sameValue, ho, ok_bind]
  by_cases hsame : (o == .eq) = true
  · cases hu : s.upper with
    | none => cases hv : t.upper <;> simp [hsame, sameUpper]
    | some u =>
      cases hv : t.upper with
      | none => simp [hsame, sameUpper]
      | some v =>
        obtain ⟨p, hp⟩ := Decimal.exists_compare? (hs.upper u hu) (ht.upper v hv)
        simp [hsame, sameUpper, Decimal.sameValue, hp]
  · simp [hsame, pure, Except.pure]

/-- Whether two slabs with comparable bounds conflict is always found out. -/
theorem Comparable.conflictsWith_of_not (hs : s.Comparable) (ht : t.Comparable)
    (h : ¬s.Conflicting t) : s.conflictsWith t = .ok false := by
  obtain ⟨b, hst⟩ := hs.exists_endsBefore ht
  obtain ⟨c, hts⟩ := ht.exists_endsBefore hs
  obtain ⟨same, hsame⟩ := hs.exists_samePeriod ht
  have hcases : ∃ d, s.conflictsWith t = .ok d := by
    cases b <;> cases c <;> simp [conflictsWith, overlaps, hst, hts, hsame, pure, Except.pure]
  obtain ⟨d, hd⟩ := hcases
  cases d with
  | false => exact hd
  | true => exact absurd hd h

/-- Slabs in order of which none is found to be inverted and no two conflict. -/
structure Arranged (slabs : List Slab) : Prop where
  ordered : Ordered slabs
  upright : ∀ s ∈ slabs, s.isInverted = .ok false
  compatible : Compatible slabs

/-- Without the first one, slabs remain arranged. -/
theorem Arranged.tail (h : Arranged (s :: later)) : Arranged later where
  ordered := (List.pairwise_cons.mp h.ordered).2
  upright := (List.forall_mem_cons.mp h.upright).2
  compatible := h.compatible.sublist (List.sublist_cons_self s later)

/-- No slab is found to conflict with a later one. -/
theorem Arranged.pairwise (h : Arranged slabs) :
    slabs.Pairwise fun s t => s.conflictsWith t = .ok false := by
  refine (h.ordered.and h.compatible.apart).imp_of_mem ?_
  rintro s t hs ht ⟨hle, hnot⟩
  have hnan := hle.isNaN_eq_false
  exact (comparable_of_isInverted hnan.1 (h.upright s hs)).conflictsWith_of_not
    (comparable_of_isInverted hnan.2 (h.upright t ht)) hnot

/-- Between slabs that do not conflict a gap is reported exactly if there is one. -/
theorem gapBefore_eq_nil_iff (h : s.conflictsWith t = .ok false) :
    s.gapBefore t step = .ok [] ↔ s.hasGap t step = .ok false := by
  constructor
  · intro hgap
    rcases ite_eq_ok_iff.mp hgap with ⟨hfound, hgap⟩ | ⟨hnone, -⟩
    · -- a gap is left out of the report only for slabs that overlap, and these are one range
      rcases ite_eq_ok_iff.mp hgap with ⟨hoverlap, -⟩ | ⟨-, hreport⟩
      · rw [conflictsWith, hoverlap, ok_bind, if_pos rfl] at h
        obtain ⟨same, hsame, hsameEq⟩ := bind_eq_ok_iff.mp h
        have hone : same = true := by simpa using hsameEq
        rw [hasGap, hsame, ok_bind, if_pos hone] at hfound
        cases hfound
      · cases hreport
    · exact hnone
  · intro hnone
    simp [gapBefore, hnone, pure, Except.pure]

/-- The slab without its fee. -/
def free (s : Slab) : Slab := { s with fee := 0 }

theorem free_apply {changes : SlabChange} (hlower : changes.lower = none)
    (hupper : changes.upper = none) : (s.apply changes).free = s.free := by
  simp [free, apply, hlower, hupper]

theorem contains_free (s : Slab) : s.free.contains amount = s.contains amount := rfl

/-- A slab that takes the place of one with the same bounds leaves the bounds as they are. -/
theorem map_free_set (hs : slabs[i]? = some s) (h : t.free = s.free) :
    (slabs.set i t).map free = slabs.map free := by
  obtain ⟨hi, rfl⟩ := List.getElem?_eq_some_iff.mp hs
  rw [List.map_set, h, ← List.map_set, List.set_getElem_self]

theorem ordered_map_free : Ordered (slabs.map free) ↔ Ordered slabs := List.pairwise_map

theorem isChain_map_free : ((slabs.map free).IsChain fun s t => s.hasGap t step = .ok false) ↔
    slabs.IsChain fun s t => s.hasGap t step = .ok false :=
  List.isChain_map _

end Slab

namespace Schedule

open Slab (Arranged Ordered)

variable {schedule initial : Schedule} {position : Int} {request : Request} {edit : Edit}
  {step amount : Decimal} {s : Slab} {slabs later : List Slab} {i : Nat}

/-- Slabs in order in which nothing is found are arranged. -/
theorem arranged_of_conflictsOf (hordered : Ordered slabs) (h : conflictsOf step slabs = .ok []) :
    Arranged slabs := by
  induction slabs with
  | nil => exact ⟨hordered, by simp, ⟨by simp, List.Pairwise.nil⟩⟩
  | cons s later ih =>
    obtain ⟨hvalidate, -, hlater⟩ := conflictsOf_cons_eq_nil_iff.mp h
    obtain ⟨hs, hapart⟩ := Slab.of_validate_eq_nil hvalidate
    have hrest := ih (List.pairwise_cons.mp hordered).2 hlater
    refine ⟨hordered, List.forall_mem_cons.mpr ⟨hs, hrest.upright⟩, ?_⟩
    exact hrest.compatible.cons (Slab.not_inverted hs)
      fun t ht => Slab.not_conflicting (hapart t ht)

/-- In arranged slabs nothing is found exactly if each is followed by the next one. -/
theorem conflictsOf_eq_nil_iff (h : Arranged slabs) : conflictsOf step slabs = .ok [] ↔
    slabs.IsChain fun s t => s.hasGap t step = .ok false := by
  induction slabs with
  | nil => exact ⟨fun _ => List.isChain_nil, fun _ => rfl⟩
  | cons s later ih =>
    have hs := (List.forall_mem_cons.mp h.upright).1
    have hapart := (List.pairwise_cons.mp h.pairwise).1
    have hvalidate := Slab.validate_eq_nil_iff.mpr ⟨hs, hapart⟩
    rw [conflictsOf_cons_eq_nil_iff, ih h.tail]
    cases later with
    | nil => simp [hvalidate, Slab.gapAfter, hs, pure, Except.pure]
    | cons next rest =>
      have hgap : s.gapBefore next step = .ok [] ↔ s.hasGap next step = .ok false :=
        Slab.gapBefore_eq_nil_iff (hapart next List.mem_cons_self)
      rw [List.isChain_cons_cons, ← hgap]
      simp [hvalidate, Slab.gapAfter, hs]

/-- An edit leaves the step of the schedule as it is. -/
theorem update_step (schedule : Schedule) (position : Int) (request : Request) :
    (schedule.update position request).2.step = schedule.step := by
  cases hcall : (schedule.update position request).1 with
  | error error => rw [update_of_error hcall]
  | ok edit =>
    obtain ⟨i, s, -, hafter⟩ := update_of_ok hcall
    rw [hafter]
    split <;> rfl

/-- Edits leave the step alone. -/
theorem updateAll_step (initial : Schedule) (edits : List (Int × Request)) :
    (initial.updateAll edits).step = initial.step := by
  induction edits generalizing initial with
  | nil => rfl
  | cons edit rest ih => exact (ih _).trans (update_step initial edit.1 edit.2)

/-- An edit keeps slabs arranged. -/
theorem update_arranged (h : Arranged schedule.slabs) (position : Int) (request : Request) :
    Arranged (schedule.update position request).2.slabs where
  ordered := update_ordered h.ordered position request
  compatible := update_compatible h.ordered h.compatible position request
  upright := by
    cases hcall : (schedule.update position request).1 with
    | error error =>
      rw [update_of_error hcall]
      exact h.upright
    | ok edit =>
      by_cases hconflicts : edit.conflicts = []
      · obtain ⟨i, s, hedit, hafter⟩ := update_of_no_conflicts h.ordered hcall hconflicts
        have hvalidate := hedit.conflicts
        rw [hconflicts] at hvalidate
        rw [hafter]
        intro t ht
        rcases List.mem_cons.mp (hedit.perm.mem_iff.mp ht) with rfl | ht
        · exact (Slab.of_validate_eq_nil hvalidate).1
        · exact h.upright t (List.mem_of_mem_eraseIdx ht)
      · rw [update_of_conflicts hcall hconflicts]
        exact h.upright

/-- Edits keep slabs arranged. -/
theorem updateAll_arranged (h : Arranged initial.slabs) (edits : List (Int × Request)) :
    Arranged (initial.updateAll edits).slabs := by
  induction edits generalizing initial with
  | nil => exact h
  | cons edit rest ih => exact ih (update_arranged h edit.1 edit.2)

/-- An edit that leaves both bounds of its slab as they are leaves all bounds as they are. -/
theorem map_free_update (hordered : Ordered schedule.slabs)
    (h : (schedule.update position request).1 = .ok edit) (hlower : edit.changes.lower = none)
    (hupper : edit.changes.upper = none) :
    (schedule.update position request).2.slabs.map Slab.free = schedule.slabs.map Slab.free := by
  obtain ⟨i, s, hedit, hafter⟩ := update_of_ok h
  rw [hafter]
  split
  · have hbounds : (s.apply edit.changes).free = s.free := Slab.free_apply hlower hupper
    have hset := Slab.map_free_set hedit.slab hbounds
    have hsorted : Ordered (schedule.slabs.set i (s.apply edit.changes)) := by
      rw [← Slab.ordered_map_free, hset, Slab.ordered_map_free]
      exact hordered
    simp only [replaceAt, Slab.sortByLower_of_ordered hsorted, hset]
  · rfl

/-- The slab that is found for an amount has the same bounds, whatever the fees are. -/
theorem find?_map_free (amount : Decimal) (slabs : List Slab) :
    find? amount (slabs.map Slab.free) = (find? amount slabs).map (Option.map Slab.free) := by
  induction slabs with
  | nil => rfl
  | cons s rest ih =>
    rw [List.map_cons, find?, find?, Slab.contains_free, ih]
    cases s.contains amount with
    | error fault => rfl
    | ok inside => cases inside <;> rfl

/-- Whether an amount has a fee depends on the bounds only. -/
theorem resolve_eq_ok_iff : (∃ fee, schedule.resolve amount = .ok fee) ↔
    ∃ s, find? amount (schedule.slabs.map Slab.free) = .ok (some s) := by
  rw [find?_map_free, resolve]
  cases find? amount schedule.slabs with
  | error fault => simp [Except.map]
  | ok found => cases found <;> simp [Except.map]

/-- However the slabs of a schedule without conflicts are edited, none becomes inverted and no two
conflict, so that only gaps are found. Nothing is found exactly if each slab still is followed by
the next one. That is so after an edit that leaves the bounds of its slab as they are, and then the
same amounts have a fee. -/
theorem edits_leave_only_gaps (authored : List Slab) (step : Decimal) (initial : Schedule)
    (hinitial : ofSlabs authored step = .ok initial) (hvalid : initial.conflicts = .ok [])
    (edits : List (Int × Request)) :
    let after := initial.updateAll edits
    (∀ s ∈ after.slabs, s.isInverted = .ok false) ∧
    (after.slabs.Pairwise fun s t => s.conflictsWith t = .ok false) ∧
    (∀ found, after.conflicts = .ok found → ∀ c ∈ found, c.isGap = true) ∧
    (after.conflicts = .ok [] ↔ after.slabs.IsChain fun s t => s.hasGap t step = .ok false) ∧
    (∀ position request edit, (after.update position request).1 = .ok edit →
      edit.changes.lower = none → edit.changes.upper = none →
      ((after.update position request).2.conflicts = .ok [] ↔ after.conflicts = .ok []) ∧
      ∀ amount, (∃ fee, (after.update position request).2.resolve amount = .ok fee) ↔
        ∃ fee, after.resolve amount = .ok fee) := by
  intro after
  have hstart := arranged_of_conflictsOf (ofSlabs_ordered hinitial) hvalid
  have harranged : Arranged after.slabs := updateAll_arranged hstart edits
  have hstep : after.step = step := by
    obtain ⟨sorted, -, h⟩ := bind_eq_ok_iff.mp hinitial
    obtain rfl := pure_eq_ok_iff.mp h
    exact updateAll_step _ edits
  refine ⟨harranged.upright, harranged.pairwise, fun found h => harranged.compatible.isGap h,
    ?_, ?_⟩
  · rw [← hstep]
    exact conflictsOf_eq_nil_iff harranged
  · intro position request edit h hlower hupper
    have hbounds := map_free_update harranged.ordered h hlower hupper
    have hnext := update_arranged harranged position request
    constructor
    · rw [conflicts, conflicts, conflictsOf_eq_nil_iff hnext, conflictsOf_eq_nil_iff harranged,
        update_step, ← Slab.isChain_map_free, hbounds, Slab.isChain_map_free]
    · intro amount
      rw [resolve_eq_ok_iff, resolve_eq_ok_iff, hbounds]

/-- Ten from one hundred and one on, and five below. -/
def fiveAndTen : Schedule := { slabs := [⟨0, some 100, 5⟩, ⟨101, none, 10⟩] }

/-- A new fee for the first tier keeps the schedule without conflicts. -/
theorem fiveAndTen_new_fee :
    let after := (fiveAndTen.update 0 [("value", .text "7.50")]).2
    fiveAndTen.conflicts = .ok [] ∧
      after.slabs = [⟨0, some 100, .finite ⟨false, 750, -2⟩⟩, ⟨101, none, 10⟩] ∧
      after.conflicts = .ok [] ∧
      ∀ amount, (∃ fee, after.resolve amount = .ok fee) ↔
        ∃ fee, fiveAndTen.resolve amount = .ok fee := by
  intro after
  have hvalid : fiveAndTen.conflicts = .ok [] := rfl
  obtain ⟨-, -, -, -, hfee⟩ := edits_leave_only_gaps fiveAndTen.slabs 1 fiveAndTen rfl hvalid []
  obtain ⟨hkept, hpriced⟩ := hfee 0 [("value", .text "7.50")]
    ⟨{ fee := some (.finite ⟨false, 750, -2⟩) }, []⟩ (by decide +kernel) rfl rfl
  exact ⟨hvalid, by decide +kernel, hkept.mpr hvalid, hpriced⟩

/-- Cutting the first tier at fifty is an edit without conflicts that leaves a gap, and with it
amounts without a fee. -/
theorem fiveAndTen_gap :
    fiveAndTen.conflicts = .ok [] ∧ fiveAndTen.resolve 75 = .ok 5 ∧
      (fiveAndTen.update 0 [("toAmount", .whole 50)]).1 =
        .ok ⟨{ upper := some (some 50) }, []⟩ ∧
      (fiveAndTen.update 0 [("toAmount", .whole 50)]).2.conflicts =
        .ok [.gap ⟨0, some 50, 5⟩ ⟨101, none, 10⟩] ∧
      (fiveAndTen.update 0 [("toAmount", .whole 50)]).2.resolve 75 = .error (.noMatchingSlab 75) :=
  ⟨rfl, rfl, rfl, rfl, rfl⟩

end Schedule

end Passbook
