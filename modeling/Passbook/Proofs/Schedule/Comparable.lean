import Passbook.Proofs.Schedule.Gaps

/-!
# Checks of slabs with comparable bounds

A check compares bounds and adds the step to upper ones. Where no bound is a value that stands for
no number, no comparison faults, and the check of one slab beside others always returns. The check
of a schedule returns as well if each upper bound and one step have a sum.
-/

namespace Passbook

namespace Decimal

variable {x y z : Decimal}

/-- Whether two decimals have one value is always found out, unless one of them is signaling. -/
theorem exists_sameValue (hx : x.isSignaling = false) (hy : y.isSignaling = false) :
    ∃ same, x.sameValue y = .ok same := by
  unfold sameValue
  cases x.compare? y with
  | some o => exact ⟨_, rfl⟩
  | none => exact ⟨false, by simp [hx, hy]⟩

/-- A number is not signaling. -/
theorem isSignaling_of_isNaN (h : x.isNaN = false) : x.isSignaling = false := by
  cases x with
  | nan s g n => exact nomatch h
  | _ => rfl

/-- What is handed on is never signaling. -/
theorem isSignaling_of_propagate (h : propagate x y = .ok z) : z.isSignaling = false := by
  unfold propagate at h
  split at h
  · exact nomatch h
  · exact nomatch h
  · rw [← Except.ok.inj h]
    rfl
  · rw [← Except.ok.inj h]
    rfl
  next hsignaling hquiet _ _ =>
    obtain rfl := Except.ok.inj h
    cases x with
    | nan s g n =>
      cases g with
      | true => exact absurd rfl (hsignaling s n)
      | false => exact absurd rfl (hquiet s n)
    | _ => rfl

/-- A sum is never signaling. -/
theorem isSignaling_of_add (h : x.add y = .ok z) : z.isSignaling = false := by
  unfold add at h
  split at h
  · obtain ⟨a, -, rfl⟩ := map_eq_ok_iff.mp h
    rfl
  · split at h
    · rw [← Except.ok.inj h]
      rfl
    · exact nomatch h
  · rw [← Except.ok.inj h]
    rfl
  · rw [← Except.ok.inj h]
    rfl
  · exact isSignaling_of_propagate h

end Decimal

namespace Slab

variable {s t : Slab} {step : Decimal} {others : List Slab}

/-- With comparable bounds it is found out whether a slab is inverted. -/
theorem Comparable.exists_isInverted (hs : s.Comparable) :
    ∃ inverted, s.isInverted = .ok inverted :=
  hs.exists_endsBefore hs

/-- With comparable bounds it is found out whether two slabs overlap. -/
theorem Comparable.exists_overlaps (hs : s.Comparable) (ht : t.Comparable) :
    ∃ shared, s.overlaps t = .ok shared := by
  obtain ⟨before, hst⟩ := hs.exists_endsBefore ht
  obtain ⟨after, hts⟩ := ht.exists_endsBefore hs
  cases before <;> cases after <;> simp [overlaps, hst, hts, pure, Except.pure]

/-- With comparable bounds it is found out whether two slabs conflict. -/
theorem Comparable.exists_conflictsWith (hs : s.Comparable) (ht : t.Comparable) :
    ∃ conflicts, s.conflictsWith t = .ok conflicts := by
  by_cases h : s.Conflicting t
  · exact ⟨true, h⟩
  · exact ⟨false, hs.conflictsWith_of_not ht h⟩

/-- With comparable bounds all overlaps with other slabs are found. -/
theorem Comparable.exists_overlapsWith (hs : s.Comparable) (hothers : ∀ t ∈ others, t.Comparable) :
    ∃ found, s.overlapsWith others = .ok found := by
  induction others with
  | nil => exact ⟨[], rfl⟩
  | cons t rest ih =>
    obtain ⟨ht, hrest⟩ := List.forall_mem_cons.mp hothers
    obtain ⟨conflicts, hconflicts⟩ := hs.exists_conflictsWith ht
    obtain ⟨later, hlater⟩ := ih hrest
    exact ⟨_, by rw [overlapsWith, hconflicts, hlater, ok_bind, ok_bind]; rfl⟩

/-- The check of a slab with comparable bounds beside others with such bounds returns. -/
theorem Comparable.exists_validate (hs : s.Comparable) (hothers : ∀ t ∈ others, t.Comparable) :
    ∃ found, s.validate others = .ok found := by
  obtain ⟨inverted, hinverted⟩ := hs.exists_isInverted
  obtain ⟨overlaps, hoverlaps⟩ := hs.exists_overlapsWith hothers
  rw [validate, ownConflicts, hinverted, hoverlaps]
  cases inverted with
  | true => exact ⟨_, rfl⟩
  | false => exact ⟨_, rfl⟩

/-- The upper bound and one step have a sum. -/
def Steps (step : Decimal) (s : Slab) : Prop := ∀ u ∈ s.upper, ∃ next, u.add step = .ok next

/-- With comparable bounds and a step it is found out whether there is a gap. -/
theorem Comparable.exists_hasGap (hs : s.Comparable) (ht : t.Comparable) (hstep : s.Steps step) :
    ∃ gap, s.hasGap t step = .ok gap := by
  obtain ⟨same, hsame⟩ := hs.exists_samePeriod ht
  rw [hasGap, hsame, ok_bind]
  split
  · exact ⟨false, rfl⟩
  · cases hu : s.upper with
    | none => exact ⟨true, rfl⟩
    | some u =>
      obtain ⟨next, hnext⟩ := hstep u hu
      obtain ⟨adjacent, hadjacent⟩ :=
        Decimal.exists_sameValue (Decimal.isSignaling_of_isNaN ht.lower)
          (Decimal.isSignaling_of_add hnext)
      exact ⟨!adjacent, by simp [hnext, hadjacent, pure, Except.pure]⟩

/-- With comparable bounds and a step the gap after a slab is found. -/
theorem Comparable.exists_gapAfter (hs : s.Comparable) (hothers : ∀ t ∈ others, t.Comparable)
    (hstep : s.Steps step) : ∃ found, s.gapAfter others step = .ok found := by
  obtain ⟨inverted, hinverted⟩ := hs.exists_isInverted
  unfold gapAfter
  rw [hinverted, ok_bind]
  split
  · exact ⟨[], rfl⟩
  · cases others with
    | nil => exact ⟨[], rfl⟩
    | cons next rest =>
      have hnext := hothers next List.mem_cons_self
      obtain ⟨gap, hgap⟩ := hs.exists_hasGap hnext hstep
      obtain ⟨shared, hshared⟩ := hs.exists_overlaps hnext
      cases gap <;> cases shared <;> simp [gapBefore, hgap, hshared, pure, Except.pure]

end Slab

/-- The check of slabs with comparable bounds returns if each upper bound and one step have a
sum. -/
theorem Schedule.exists_conflictsOf {step : Decimal} {slabs : List Slab}
    (h : ∀ s ∈ slabs, s.Comparable) (hstep : ∀ s ∈ slabs, s.Steps step) :
    ∃ found, conflictsOf step slabs = .ok found := by
  induction slabs with
  | nil => exact ⟨[], rfl⟩
  | cons s later ih =>
    obtain ⟨hs, hlater⟩ := List.forall_mem_cons.mp h
    obtain ⟨hsteps, hsteps'⟩ := List.forall_mem_cons.mp hstep
    obtain ⟨overlaps, hoverlaps⟩ := hs.exists_validate hlater
    obtain ⟨gaps, hgaps⟩ := hs.exists_gapAfter hlater hsteps
    obtain ⟨others, hothers⟩ := ih hlater hsteps'
    exact ⟨overlaps ++ gaps ++ others, by rw [conflictsOf, hoverlaps, hgaps, hothers]; rfl⟩

end Passbook
