import Passbook.Proofs.Schedule.Comparable
import Passbook.Proofs.Schedule.Sorted

/-!
# One slab beside the others and the whole schedule

The check of one slab compares it with all others. The check of a schedule compares each slab with
those after it in the order of the lower bounds. Conflicts have no direction, so in any order each
pair is compared once, and the number of conflicting pairs does not depend on the order. In slabs
without conflicts that get a new one, the conflicts are those of the new slab.

Between neighbours the check of a schedule adds the step to an upper bound, also where the slabs
overlap and no gap is reported. If that sum does not fit, the check of the schedule faults, while
the check of the one slab returns.
-/

namespace Passbook

namespace Slab

variable {s t : Slab} {slabs others : List Slab} {own found : List Conflict} {step : Decimal}

instance : DecidablePred Inverted := fun s =>
  inferInstanceAs (Decidable (s.isInverted = .ok true))

instance : DecidableRel Conflicting := fun s t =>
  inferInstanceAs (Decidable (s.conflictsWith t = .ok true))

/-- The number of pairs of slabs that conflict. -/
def conflictingPairs : List Slab → Nat
  | [] => 0
  | s :: later => later.countP (fun t => s.Conflicting t) + conflictingPairs later

theorem conflicting_comm : s.Conflicting t ↔ t.Conflicting s :=
  ⟨Conflicting.symm, Conflicting.symm⟩

/-- Slabs conflict in as many pairs in any order. -/
theorem conflictingPairs_perm (h : slabs.Perm others) :
    conflictingPairs slabs = conflictingPairs others := by
  induction h with
  | nil => rfl
  | cons s h ih => rw [conflictingPairs, conflictingPairs, h.countP_eq, ih]
  | swap s t rest =>
    simp only [conflictingPairs, List.countP_cons, conflicting_comm (s := t)]
    omega
  | trans _ _ ih₁ ih₂ => rw [ih₁, ih₂]

/-- What is found in a slab itself. -/
theorem eq_of_ownConflicts (h : s.ownConflicts = .ok own) :
    own = if s.Inverted then [.inverted s] else [] := by
  rcases ite_eq_ok_iff.mp h with ⟨hinverted, hfound⟩ | ⟨hupright, hnone⟩
  · have hs : s.Inverted := hinverted
    rw [if_pos hs, pure_eq_ok_iff.mp hfound]
  · rw [if_neg (not_inverted hupright), pure_eq_ok_iff.mp hnone]

/-- What is found beside others are the ones that the slab conflicts with. -/
theorem eq_of_overlapsWith (h : s.overlapsWith others = .ok found) :
    found = (others.filter fun t => s.Conflicting t).map (.overlap s) := by
  induction others generalizing found with
  | nil => exact (Except.ok.inj h).symm
  | cons t rest ih =>
    obtain ⟨conflicts, hconflicts, h⟩ := bind_eq_ok_iff.mp h
    obtain ⟨later, hlater, h⟩ := bind_eq_ok_iff.mp h
    rw [← pure_eq_ok_iff.mp h, ih hlater]
    cases conflicts with
    | true =>
      have ht : s.Conflicting t := hconflicts
      rw [if_pos rfl, List.filter_cons_of_pos (by simpa using ht), List.map_cons]
    | false =>
      have ht : ¬s.Conflicting t := not_conflicting hconflicts
      rw [if_neg (by decide), List.filter_cons_of_neg (by simpa using ht)]

/-- A slab is found to be inverted, and in conflict with those of the others that conflict. -/
theorem eq_of_validate (h : s.validate others = .ok found) :
    found = (if s.Inverted then [.inverted s] else []) ++
      (others.filter fun t => s.Conflicting t).map (.overlap s) := by
  obtain ⟨own, hown, h⟩ := bind_eq_ok_iff.mp h
  obtain ⟨overlaps, hoverlaps, h⟩ := bind_eq_ok_iff.mp h
  rw [← pure_eq_ok_iff.mp h, eq_of_ownConflicts hown, eq_of_overlapsWith hoverlaps]

/-- A slab is reported as inverted once. -/
theorem countP_isInverted_of_validate (h : s.validate others = .ok found) :
    found.countP (·.isInverted) = if s.Inverted then 1 else 0 := by
  have hoverlaps : ((others.filter fun t => s.Conflicting t).map (Conflict.overlap s)).countP
      (·.isInverted) = 0 := by
    simp [List.countP_eq_zero, Conflict.isInverted]
  rw [eq_of_validate h, List.countP_append, hoverlaps]
  split <;> rfl

/-- Each slab that it conflicts with is reported once. -/
theorem countP_isOverlap_of_validate (h : s.validate others = .ok found) :
    found.countP (·.isOverlap) = others.countP fun t => s.Conflicting t := by
  have hown : (if s.Inverted then [Conflict.inverted s] else []).countP (·.isOverlap) = 0 := by
    split <;> rfl
  have hoverlap : (fun c : Conflict => c.isOverlap) ∘ Conflict.overlap s = fun _ => true := rfl
  rw [eq_of_validate h, List.countP_append, hown, List.countP_map, hoverlap, List.countP_true,
    List.countP_eq_length_filter, Nat.zero_add]

/-- Nothing else is reported about one slab. -/
theorem eq_nil_iff_of_validate (h : s.validate others = .ok found) :
    found = [] ↔ found.countP (·.isInverted) = 0 ∧ found.countP (·.isOverlap) = 0 := by
  refine ⟨by rintro rfl; exact ⟨rfl, rfl⟩, fun ⟨hinverted, hoverlap⟩ => ?_⟩
  rw [countP_isInverted_of_validate h] at hinverted
  rw [countP_isOverlap_of_validate h, List.countP_eq_length_filter, List.length_eq_zero_iff]
    at hoverlap
  rw [eq_of_validate h, hoverlap]
  split at hinverted
  · exact nomatch hinverted
  next hupright => rw [if_neg hupright]; rfl

end Slab

namespace Schedule

open Slab (Conflict conflictingPairs)

variable {slabs : List Slab} {found : List Conflict} {step : Decimal} {s : Slab}
  {later authored : List Slab}

/-- What is found in the first slab, after it, and later. -/
theorem conflictsOf_cons_eq_ok (h : conflictsOf step (s :: later) = .ok found) :
    ∃ own gaps others, s.validate later = .ok own ∧ s.gapAfter later step = .ok gaps ∧
      conflictsOf step later = .ok others ∧ found = own ++ gaps ++ others := by
  obtain ⟨own, hown, h⟩ := bind_eq_ok_iff.mp h
  obtain ⟨gaps, hgaps, h⟩ := bind_eq_ok_iff.mp h
  obtain ⟨others, hothers, h⟩ := bind_eq_ok_iff.mp h
  exact ⟨own, gaps, others, hown, hgaps, hothers, (pure_eq_ok_iff.mp h).symm⟩

/-- Among gaps a count of other conflicts is zero. -/
theorem countP_of_isGap {p : Conflict → Bool} (hp : ∀ s t, p (.gap s t) = false)
    (h : ∀ c ∈ found, c.isGap = true) : found.countP p = 0 := by
  rw [List.countP_eq_zero]
  intro c hc
  cases c with
  | gap s t => simp [hp]
  | _ => exact nomatch h _ hc

/-- A check of slabs reports each inverted one once. -/
theorem countP_isInverted_of_conflictsOf (h : conflictsOf step slabs = .ok found) :
    found.countP (·.isInverted) = slabs.countP fun s => s.Inverted := by
  induction slabs generalizing found with
  | nil => rw [← Except.ok.inj h]; rfl
  | cons s later ih =>
    obtain ⟨own, gaps, others, hown, hgaps, hothers, rfl⟩ := conflictsOf_cons_eq_ok h
    rw [List.countP_append, List.countP_append, Slab.countP_isInverted_of_validate hown,
      countP_of_isGap (fun _ _ => rfl) (Slab.isGap_of_gapAfter hgaps), ih hothers, List.countP_cons]
    simp [Nat.add_comm]

/-- A check of slabs reports each conflicting pair once. -/
theorem countP_isOverlap_of_conflictsOf (h : conflictsOf step slabs = .ok found) :
    found.countP (·.isOverlap) = conflictingPairs slabs := by
  induction slabs generalizing found with
  | nil => rw [← Except.ok.inj h]; rfl
  | cons s later ih =>
    obtain ⟨own, gaps, others, hown, hgaps, hothers, rfl⟩ := conflictsOf_cons_eq_ok h
    rw [List.countP_append, List.countP_append, Slab.countP_isOverlap_of_validate hown,
      countP_of_isGap (fun _ _ => rfl) (Slab.isGap_of_gapAfter hgaps), ih hothers]
    rfl

/-- A check that returns has found out of each slab whether it is inverted. -/
theorem exists_isInverted_of_conflictsOf (h : conflictsOf step slabs = .ok found) :
    ∀ s ∈ slabs, ∃ inverted, s.isInverted = .ok inverted := by
  induction slabs generalizing found with
  | nil => simp
  | cons s later ih =>
    obtain ⟨own, gaps, others, hown, -, hothers, -⟩ := conflictsOf_cons_eq_ok h
    obtain ⟨self, hself, -⟩ := bind_eq_ok_iff.mp hown
    obtain ⟨inverted, hinverted, -⟩ := bind_eq_ok_iff.mp hself
    exact List.forall_mem_cons.mpr ⟨⟨inverted, hinverted⟩, ih hothers⟩

/-- A slab that was checked in a schedule can be checked beside the others, if these have
comparable bounds. -/
theorem exists_validate_of_conflicts {others : List Slab} {extended : Schedule}
    (hauthored : authored.Perm (s :: others)) (hothers : ∀ t ∈ others, t.Comparable)
    (hextended : ofSlabs authored step = .ok extended) (h : extended.conflicts = .ok found) :
    ∃ own, s.validate others = .ok own := by
  obtain ⟨sorted, hsorted, hschedule⟩ := bind_eq_ok_iff.mp hextended
  obtain rfl := pure_eq_ok_iff.mp hschedule
  obtain ⟨hsortable, rfl⟩ := Slab.sortByLower?_eq_ok_iff.mp hsorted
  have hs : s ∈ authored := hauthored.mem_iff.mpr List.mem_cons_self
  cases others with
  | nil =>
    -- a single slab may have any lower bound, and its check is that of the schedule
    obtain rfl := hauthored.eq_singleton
    obtain ⟨own, -, -, hown, -⟩ := conflictsOf_cons_eq_ok h
    exact ⟨own, hown⟩
  | cons t rest =>
    have hlower : s.lower.isNaN = false := by
      refine hsortable ?_ s hs
      rw [hauthored.length_eq]
      simp
    obtain ⟨inverted, hinverted⟩ :=
      exists_isInverted_of_conflictsOf h s (Slab.mem_sortByLower.mpr hs)
    exact (Slab.comparable_of_isInverted hlower hinverted).exists_validate hothers

/-- There are no reports but gaps exactly if there is no inverted slab and no overlap among
them. -/
theorem forall_gap_iff : (∀ c ∈ found, c.isInverted = false ∧ c.isOverlap = false) ↔
    found.countP (·.isInverted) = 0 ∧ found.countP (·.isOverlap) = 0 := by
  simp only [List.countP_eq_zero, Bool.not_eq_true, forall_and]

/-- In a schedule without inverted and conflicting slabs, the check of one more slab beside the
others reports as many inverted slabs and as many overlaps as the check of the schedule that has
that slab, too, whatever the order in which its slabs are given. So it finds nothing exactly if
the other check finds nothing but gaps. Both checks return if no bound of the new slab is a value
that stands for no number, the second one if the sum of each upper bound and one step fits. -/
theorem validate_agrees_with_conflicts (schedule : Schedule)
    (hslabs : ∀ s ∈ schedule.slabs, s.Comparable) (found : List Conflict)
    (hfound : schedule.conflicts = .ok found)
    (hclean : ∀ c ∈ found, c.isInverted = false ∧ c.isOverlap = false) (candidate : Slab)
    (authored : List Slab) (hauthored : authored.Perm (candidate :: schedule.slabs))
    (step : Decimal) :
    (∀ extended all, ofSlabs authored step = .ok extended → extended.conflicts = .ok all →
      ∃ own, candidate.validate schedule.slabs = .ok own ∧
        (own = [] ↔ ∀ c ∈ all, c.isInverted = false ∧ c.isOverlap = false) ∧
        own.countP (·.isInverted) = all.countP (·.isInverted) ∧
        own.countP (·.isOverlap) = all.countP (·.isOverlap)) ∧
    (candidate.Comparable → (∃ own, candidate.validate schedule.slabs = .ok own) ∧
      ∃ extended, ofSlabs authored step = .ok extended ∧
        ((∀ s ∈ authored, ∀ u ∈ s.upper, ∃ next, u.add step = .ok next) →
          ∃ all, extended.conflicts = .ok all)) := by
  obtain ⟨hupright, hapart⟩ := forall_gap_iff.mp hclean
  rw [countP_isInverted_of_conflictsOf hfound] at hupright
  rw [countP_isOverlap_of_conflictsOf hfound] at hapart
  constructor
  · intro extended all hextended hall
    obtain ⟨own, hown⟩ := exists_validate_of_conflicts hauthored hslabs hextended hall
    have hperm : extended.slabs.Perm (candidate :: schedule.slabs) := by
      rw [(ofSlabs_eq_ok hextended).1]
      exact (Slab.sortByLower_perm authored).trans hauthored
    have hinverted : own.countP (·.isInverted) = all.countP (·.isInverted) := by
      rw [Slab.countP_isInverted_of_validate hown, countP_isInverted_of_conflictsOf hall,
        hperm.countP_eq, List.countP_cons, hupright]
      simp
    have hoverlap : own.countP (·.isOverlap) = all.countP (·.isOverlap) := by
      rw [Slab.countP_isOverlap_of_validate hown, countP_isOverlap_of_conflictsOf hall,
        Slab.conflictingPairs_perm hperm, conflictingPairs, hapart, Nat.add_zero]
    refine ⟨own, hown, ?_, hinverted, hoverlap⟩
    rw [Slab.eq_nil_iff_of_validate hown, forall_gap_iff, hinverted, hoverlap]
  · intro hcandidate
    have hcomparable : ∀ s ∈ authored, s.Comparable := fun s hs => by
      rcases List.mem_cons.mp (hauthored.mem_iff.mp hs) with rfl | hs
      · exact hcandidate
      · exact hslabs s hs
    have hsorted : Slab.sortByLower? authored = .ok (Slab.sortByLower authored) :=
      Slab.sortByLower?_eq_ok_iff.mpr ⟨fun _ s hs => (hcomparable s hs).lower, rfl⟩
    refine ⟨hcandidate.exists_validate hslabs, ⟨Slab.sortByLower authored, step⟩, ?_,
      fun hsteps => ?_⟩
    · rw [ofSlabs, hsorted]
      rfl
    · exact exists_conflictsOf (fun s hs => hcomparable s (Slab.mem_sortByLower.mp hs))
        fun s hs => hsteps s (Slab.mem_sortByLower.mp hs)

/-- Two tiers that meet, and one that crosses their border and so overlaps both. -/
theorem borderTier_agrees :
    let tiers : Schedule := { slabs := [⟨0, some 100, 5⟩, ⟨101, some 200, 9⟩] }
    let border : Slab := ⟨50, some 120, 7⟩
    let authored : List Slab := [⟨0, some 100, 5⟩, border, ⟨101, some 200, 9⟩]
    tiers.conflicts = .ok [] ∧ ∃ own extended all, border.validate tiers.slabs = .ok own ∧
      ofSlabs authored = .ok extended ∧ extended.conflicts = .ok all ∧ own ≠ [] ∧
      own.countP (·.isInverted) = all.countP (·.isInverted) ∧ own.countP (·.isOverlap) = 2 ∧
      all.countP (·.isOverlap) = 2 := by
  intro tiers border authored
  have hslabs : ∀ s ∈ tiers.slabs, s.Comparable := by
    have hlower : ∀ s ∈ tiers.slabs, s.lower.isNaN = false := by decide
    have hupper : ∀ s ∈ tiers.slabs, ∀ u ∈ s.upper, u.isNaN = false := by decide
    exact fun s hs => ⟨hlower s hs, hupper s hs⟩
  have hborder : border.Comparable := ⟨rfl, by decide⟩
  have hfound : tiers.conflicts = .ok [] := rfl
  have hauthored : authored.Perm (border :: tiers.slabs) := .swap _ _ _
  obtain ⟨hagree, hreturn⟩ := validate_agrees_with_conflicts tiers hslabs [] hfound
    (by simp) border authored hauthored 1
  obtain ⟨-, extended, hextended, hchecked⟩ := hreturn hborder
  have hsteps : ∀ s ∈ authored, ∀ u ∈ s.upper, ∃ next, u.add 1 = .ok next := by
    simp only [authored, border, List.forall_mem_cons]
    refine ⟨?_, ?_, ?_, by simp⟩ <;> rintro u ⟨⟩
    · exact ⟨101, rfl⟩
    · exact ⟨121, rfl⟩
    · exact ⟨201, rfl⟩
  obtain ⟨all, hall⟩ := hchecked hsteps
  obtain ⟨own, hown, -, hinverted, hoverlap⟩ := hagree extended all hextended hall
  have htwo : border.validate tiers.slabs =
      .ok [.overlap border ⟨0, some 100, 5⟩, .overlap border ⟨101, some 200, 9⟩] := rfl
  obtain rfl := Except.ok.inj (htwo.symm.trans hown)
  exact ⟨hfound, _, extended, all, hown, hextended, hall, by simp, hinverted, rfl, hoverlap.symm⟩

/-- A tier that ends so high that one step more does not fit. Another tier beside it overlaps it,
but the schedule of both cannot be checked. -/
theorem highTier_overflows :
    let high : Slab := ⟨0, some (.finite ⟨false, 1, 1000000⟩), 5⟩
    let candidate : Slab := ⟨5, none, 7⟩
    (⟨[high], 1⟩ : Schedule).conflicts = .ok [] ∧
      candidate.validate [high] = .ok [.overlap candidate high] ∧
      ofSlabs [high, candidate] = .ok ⟨[high, candidate], 1⟩ ∧
      (⟨[high, candidate], 1⟩ : Schedule).conflicts = .error .overflow := by
  decide +kernel

end Schedule

end Passbook
