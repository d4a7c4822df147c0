import Passbook.Proofs.Decimal.Extended
import Passbook.Proofs.Outcome
import Passbook.Schedule
import Mathlib.Data.List.Perm.Subperm

/-!
# Conflicts between slabs

Two slabs conflict in either order, whatever their bounds are, as long as the bounds can be
compared. So whether slabs conflict is a property of the slabs and not of their order, and a
slab that conflicts with none of the others brings no conflict among them.
-/

namespace Passbook

namespace Slab

variable {s t : Slab} {slabs others found : List Slab}

/-- The slab is found to end before it starts. -/
def Inverted (s : Slab) : Prop := s.isInverted = .ok true

/-- Two slabs are found to share amounts without having the same bounds. -/
def Conflicting (s t : Slab) : Prop := s.conflictsWith t = .ok true

/-- Slabs of which none is inverted and no two conflict. -/
structure Compatible (slabs : List Slab) : Prop where
  upright : ∀ s ∈ slabs, ¬s.Inverted
  apart : slabs.Pairwise fun s t => ¬s.Conflicting t

/-- Upper bounds are compared alike in both orders. -/
theorem sameUpper_comm (u v : Option Decimal) : sameUpper u v = sameUpper v u := by
  cases u with
  | none => cases v <;> rfl
  | some x =>
    cases v with
    | none => rfl
    | some y => exact Decimal.sameValue_comm x y

theorem samePeriod_comm (s t : Slab) : s.samePeriod t = t.samePeriod s := by
  rw [samePeriod, samePeriod, Decimal.sameValue_comm, sameUpper_comm]

/-- Two slabs overlap if neither is found to end before the other. -/
theorem overlaps_eq_true_iff :
    s.overlaps t = .ok true ↔ s.endsBefore t = .ok false ∧ t.endsBefore s = .ok false := by
  rw [overlaps, ite_eq_ok_iff, ite_eq_ok_iff]
  simp

/-- Two slabs conflict exactly if they are found to overlap and not to be one range. -/
theorem conflicting_iff :
    s.Conflicting t ↔ s.overlaps t = .ok true ∧ s.samePeriod t = .ok false := by
  rw [Conflicting, conflictsWith, ite_eq_ok_iff, bind_eq_ok_iff]
  simp

/-- Conflicts have no direction. -/
theorem Conflicting.symm (h : s.Conflicting t) : t.Conflicting s := by
  obtain ⟨hoverlap, hsame⟩ := conflicting_iff.mp h
  obtain ⟨hst, hts⟩ := overlaps_eq_true_iff.mp hoverlap
  refine conflicting_iff.mpr ⟨overlaps_eq_true_iff.mpr ⟨hts, hst⟩, ?_⟩
  rwa [samePeriod_comm]

/-- A slab without conflicts of its own is not inverted. -/
theorem isInverted_of_ownConflicts (h : s.ownConflicts = .ok []) : s.isInverted = .ok false := by
  rcases ite_eq_ok_iff.mp h with ⟨-, hfound⟩ | ⟨hinverted, -⟩
  · simp at hfound
  · exact hinverted

/-- A slab without overlaps conflicts with none of the others. -/
theorem conflictsWith_of_overlapsWith (h : s.overlapsWith others = .ok []) :
    ∀ t ∈ others, s.conflictsWith t = .ok false := by
  induction others with
  | nil => simp
  | cons t rest ih =>
    obtain ⟨conflicts, hconflicts, h⟩ := bind_eq_ok_iff.mp h
    obtain ⟨found, hfound, h⟩ := bind_eq_ok_iff.mp h
    cases conflicts with
    | true => exact nomatch h
    | false =>
      obtain rfl := pure_eq_ok_iff.mp h
      exact List.forall_mem_cons.mpr ⟨hconflicts, ih hfound⟩

/-- A slab in which a check finds nothing is not inverted and conflicts with none of the
others. -/
theorem of_validate_eq_nil (h : s.validate others = .ok []) :
    s.isInverted = .ok false ∧ ∀ t ∈ others, s.conflictsWith t = .ok false := by
  obtain ⟨own, hown, h⟩ := bind_eq_ok_iff.mp h
  obtain ⟨overlaps, hoverlaps, h⟩ := bind_eq_ok_iff.mp h
  obtain ⟨rfl, rfl⟩ := List.append_eq_nil_iff.mp (pure_eq_ok_iff.mp h)
  exact ⟨isInverted_of_ownConflicts hown, conflictsWith_of_overlapsWith hoverlaps⟩

/-- A slab that conflicts with none of the others has no overlaps. -/
theorem overlapsWith_of_conflictsWith (h : ∀ t ∈ others, s.conflictsWith t = .ok false) :
    s.overlapsWith others = .ok [] := by
  induction others with
  | nil => rfl
  | cons t rest ih =>
    obtain ⟨ht, hrest⟩ := List.forall_mem_cons.mp h
    simp [overlapsWith, ht, ih hrest, pure, Except.pure]

/-- A check finds nothing in a slab that is neither inverted nor conflicts with one of the
others. -/
theorem validate_eq_nil_iff : s.validate others = .ok [] ↔
    s.isInverted = .ok false ∧ ∀ t ∈ others, s.conflictsWith t = .ok false := by
  constructor
  · exact of_validate_eq_nil
  · rintro ⟨hs, hothers⟩
    simp [validate, ownConflicts, hs, overlapsWith_of_conflictsWith hothers, pure, Except.pure]

theorem not_inverted (h : s.isInverted = .ok false) : ¬s.Inverted := by
  rw [Inverted, h]
  exact fun h => nomatch h

theorem not_conflicting (h : s.conflictsWith t = .ok false) : ¬s.Conflicting t := by
  rw [Conflicting, h]
  exact fun h => nomatch h

/-- Compatible slabs are so in any order. -/
theorem Compatible.perm (h : Compatible slabs) (hperm : slabs.Perm others) :
    Compatible others where
  upright s hs := h.upright s (hperm.mem_iff.mpr hs)
  apart := hperm.pairwise h.apart fun hnot hconflict => hnot hconflict.symm

/-- A slab that is not inverted and conflicts with none of compatible slabs goes with them. -/
theorem Compatible.cons (h : Compatible others) (hs : ¬s.Inverted)
    (hothers : ∀ t ∈ others, ¬s.Conflicting t) : Compatible (s :: others) where
  upright := List.forall_mem_cons.mpr ⟨hs, h.upright⟩
  apart := List.pairwise_cons.mpr ⟨hothers, h.apart⟩

/-- Conflicting slabs are found among the others if one of them conflicts with none. -/
theorem subperm_of_conflicting (hothers : ∀ t ∈ others, ¬s.Conflicting t)
    (hfound : found.Subperm (s :: others)) (hlength : 1 < found.length)
    (h : found.Pairwise Conflicting) : found.Subperm others := by
  obtain ⟨arranged, hperm, hsublist⟩ := hfound
  cases hsublist with
  | cons _ hrest => exact ⟨arranged, hperm, hrest⟩
  | cons_cons _ hrest =>
    -- the slab itself is among the found ones and conflicts with any other of them
    rename_i later
    have harranged : (s :: later).Pairwise Conflicting :=
      hperm.symm.pairwise h Conflicting.symm
    have hlater : 0 < later.length := by
      have := hperm.length_eq
      rw [List.length_cons] at this
      omega
    obtain ⟨t, ht⟩ := List.exists_mem_of_length_pos hlater
    exact absurd ((List.pairwise_cons.mp harranged).1 t ht) (hothers t (hrest.subset ht))

/-- A check finds no inverted slab that is not inverted. -/
theorem ownConflicts_eq_nil {own : List Conflict} (hs : ¬s.Inverted)
    (h : s.ownConflicts = .ok own) : own = [] := by
  rcases ite_eq_ok_iff.mp h with ⟨hinverted, -⟩ | ⟨-, hnone⟩
  · exact absurd hinverted hs
  · exact (pure_eq_ok_iff.mp hnone).symm

/-- A check finds no overlap with slabs that do not conflict. -/
theorem overlapsWith_eq_nil {overlaps : List Conflict} (hothers : ∀ t ∈ others, ¬s.Conflicting t)
    (h : s.overlapsWith others = .ok overlaps) : overlaps = [] := by
  induction others generalizing overlaps with
  | nil => exact (Except.ok.inj h).symm
  | cons t rest ih =>
    obtain ⟨ht, hrest⟩ := List.forall_mem_cons.mp hothers
    obtain ⟨conflicts, hconflicts, h⟩ := bind_eq_ok_iff.mp h
    obtain ⟨later, hlater, h⟩ := bind_eq_ok_iff.mp h
    cases conflicts with
    | true => exact absurd hconflicts ht
    | false => rw [← pure_eq_ok_iff.mp h, if_neg (by decide), ih hrest hlater]

/-- What is found between a slab and the one before it is a gap. -/
theorem isGap_of_gapBefore {step : Decimal} {gaps : List Conflict}
    (h : s.gapBefore t step = .ok gaps) : ∀ c ∈ gaps, c.isGap = true := by
  rcases ite_eq_ok_iff.mp h with ⟨-, hgap⟩ | ⟨-, hnone⟩
  · rcases ite_eq_ok_iff.mp hgap with ⟨-, hnone⟩ | ⟨-, hfound⟩
    · obtain rfl := pure_eq_ok_iff.mp hnone
      simp
    · obtain rfl := pure_eq_ok_iff.mp hfound
      simp [Conflict.isGap]
  · obtain rfl := pure_eq_ok_iff.mp hnone
    simp

/-- Between a slab and the next one only gaps are found. -/
theorem isGap_of_gapAfter {step : Decimal} {gaps : List Conflict}
    (h : s.gapAfter others step = .ok gaps) : ∀ c ∈ gaps, c.isGap = true := by
  rcases ite_eq_ok_iff.mp h with ⟨-, hnone⟩ | ⟨-, h⟩
  · obtain rfl := pure_eq_ok_iff.mp hnone
    simp
  · cases others with
    | nil =>
      obtain rfl := pure_eq_ok_iff.mp h
      simp
    | cons next rest => exact isGap_of_gapBefore h

/-- A check of compatible slabs finds nothing but gaps. -/
theorem Compatible.isGap {step : Decimal} {conflicts : List Conflict} (h : Compatible slabs)
    (hconflicts : Schedule.conflictsOf step slabs = .ok conflicts) :
    ∀ c ∈ conflicts, c.isGap = true := by
  induction slabs generalizing conflicts with
  | nil =>
    obtain rfl := Except.ok.inj hconflicts
    simp
  | cons s later ih =>
    obtain ⟨hs, hlater⟩ := List.forall_mem_cons.mp h.upright
    obtain ⟨hapart, hrest⟩ := List.pairwise_cons.mp h.apart
    obtain ⟨found, hvalidate, hconflicts⟩ := bind_eq_ok_iff.mp hconflicts
    obtain ⟨gaps, hgaps, hconflicts⟩ := bind_eq_ok_iff.mp hconflicts
    obtain ⟨others, hothers, hconflicts⟩ := bind_eq_ok_iff.mp hconflicts
    obtain ⟨own, hown, hvalidate⟩ := bind_eq_ok_iff.mp hvalidate
    obtain ⟨overlaps, hoverlaps, hvalidate⟩ := bind_eq_ok_iff.mp hvalidate
    obtain rfl := ownConflicts_eq_nil hs hown
    obtain rfl := overlapsWith_eq_nil hapart hoverlaps
    obtain rfl := pure_eq_ok_iff.mp hvalidate
    obtain rfl := pure_eq_ok_iff.mp hconflicts
    intro c hc
    rcases List.mem_append.mp hc with hc | hc
    · exact isGap_of_gapAfter hgaps c (by simpa using hc)
    · exact ih ⟨hlater, hrest⟩ hothers c hc

end Slab

namespace Schedule

/-- Nothing is found in a schedule if nothing is found in its first slab, after it, and later. -/
theorem conflictsOf_cons_eq_nil_iff {step : Decimal} {s : Slab} {later : List Slab} :
    conflictsOf step (s :: later) = .ok [] ↔ s.validate later = .ok [] ∧
      s.gapAfter later step = .ok [] ∧ conflictsOf step later = .ok [] := by
  constructor
  · intro h
    obtain ⟨overlaps, hoverlaps, h⟩ := bind_eq_ok_iff.mp h
    obtain ⟨gaps, hgaps, h⟩ := bind_eq_ok_iff.mp h
    obtain ⟨others, hothers, h⟩ := bind_eq_ok_iff.mp h
    obtain ⟨rfl, rfl, rfl⟩ : overlaps = [] ∧ gaps = [] ∧ others = [] := by
      simpa using pure_eq_ok_iff.mp h
    exact ⟨hoverlaps, hgaps, hothers⟩
  · rintro ⟨hoverlaps, hgaps, hothers⟩
    simp [conflictsOf, hoverlaps, hgaps, hothers, pure, Except.pure]

end Schedule

end Passbook
