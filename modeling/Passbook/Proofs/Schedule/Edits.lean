import Passbook.Proofs.Request
import Passbook.Proofs.Schedule.Conflicts
import Passbook.Proofs.Schedule.Ordered
import Passbook.Schedule.Edit
import Mathlib.Data.List.Perm.Basic

/-!
# Edits of a schedule

An edit either leaves the schedule as it is, or replaces one slab and sorts again. The edited slab
is checked beside the others only, which is enough: whether slabs conflict does not depend on
their order, so after an edit only slabs that were left alone are inverted or conflict. The lower
bounds can be compared throughout, since requests give only finite numbers, so sorting again never
fails.
-/

namespace Passbook

open Slab (Ordered Sortable Compatible)

/-- An element that is found at a position is the one at its index. -/
theorem elementAt_eq_ok {α : Type} {elements : List α} {position : Int} {i : Nat} {a : α}
    (h : elementAt elements position = .ok (i, a)) :
    position? elements.length position = some i ∧ elements[i]? = some a := by
  unfold elementAt at h
  split at h
  · exact nomatch h
  · split at h
    next found hfound =>
      obtain rfl := Except.ok.inj h
      obtain ⟨j, hj, hfound⟩ := Option.bind_eq_some_iff.mp hfound
      obtain ⟨b, hb, hfound⟩ := Option.map_eq_some_iff.mp hfound
      obtain ⟨rfl, rfl⟩ := Prod.mk.inj hfound
      exact ⟨hj, hb⟩
    next => exact nomatch h

namespace Slab

variable {s : Slab} {slabs : List Slab} {i : Nat}

/-- Slabs with one replaced can be sorted if the lower bound of the new one can be compared. -/
theorem Sortable.set (h : Sortable slabs) (hs : 1 < slabs.length → s.lower.isNaN = false) :
    Sortable (slabs.set i s) := by
  intro hlength t ht
  rw [List.length_set] at hlength
  rcases List.mem_or_eq_of_mem_set ht with ht | rfl
  · exact h hlength t ht
  · exact hs hlength

/-- Without some of them, slabs remain compatible. -/
theorem Compatible.sublist {others : List Slab} (h : Compatible slabs)
    (hsublist : others.Sublist slabs) : Compatible others where
  upright s hs := h.upright s (hsublist.subset hs)
  apart := h.apart.sublist hsublist

end Slab

namespace Schedule

variable {schedule initial : Schedule} {position : Int} {request : Request} {edit : Edit}
  {error : Error} {i : Nat} {s t : Slab}

/-- The schedule after several edits. -/
def updateAll (initial : Schedule) (edits : List (Int × Request)) : Schedule :=
  edits.foldl (fun schedule edit => (schedule.update edit.1 edit.2).2) initial

/-- What an edit is about: the slab at the index that the position means, the change in the
request as far as it differs from the slab, and the conflicts of the changed slab beside the
others. -/
structure Edit.Concerns (edit : Edit) (schedule : Schedule) (position : Int) (request : Request)
    (i : Nat) (s : Slab) : Prop where
  index : position? schedule.slabs.length position = some i
  slab : schedule.slabs[i]? = some s
  changes : ∃ change, SlabChange.ofRequest request = .ok change ∧
    s.differences change = .ok edit.changes
  conflicts : (s.apply edit.changes).validate (schedule.slabs.eraseIdx i) = .ok edit.conflicts

/-- A call that fails leaves the schedule as it is. -/
theorem update_of_error (h : (schedule.update position request).1 = .error error) :
    (schedule.update position request).2 = schedule := by
  unfold update at h ⊢
  split at h
  · rfl
  · split at h
    · rfl
    · split at h
      · rfl
      · exact nomatch h

/-- An edit that is carried out takes effect if something changes and no conflict is found. -/
theorem update_of_ok (h : (schedule.update position request).1 = .ok edit) :
    ∃ i s, edit.Concerns schedule position request i s ∧
      (schedule.update position request).2 =
        if edit.isEffective then schedule.replaceAt i (s.apply edit.changes) else schedule := by
  unfold update at h ⊢
  split at h
  · exact nomatch h
  next change hchange =>
    split at h
    · exact nomatch h
    next i s helement =>
      split at h
      · exact nomatch h
      next carried hedit =>
        obtain rfl := Except.ok.inj h
        obtain ⟨hindex, hslab⟩ := elementAt_eq_ok helement
        obtain ⟨changes, hchanges, hcarried⟩ := bind_eq_ok_iff.mp hedit
        obtain ⟨conflicts, hconflicts, hcarried⟩ := bind_eq_ok_iff.mp hcarried
        obtain rfl := pure_eq_ok_iff.mp hcarried
        exact ⟨i, s, ⟨hindex, hslab, ⟨change, hchange, hchanges⟩, hconflicts⟩, rfl⟩

/-- An edit with conflicts leaves the schedule as it is. -/
theorem update_of_conflicts (h : (schedule.update position request).1 = .ok edit)
    (hconflicts : edit.conflicts ≠ []) : (schedule.update position request).2 = schedule := by
  obtain ⟨i, s, -, hafter⟩ := update_of_ok h
  have hnot : edit.isEffective = false := by simp [Edit.isEffective, hconflicts]
  rw [hafter, hnot, if_neg (by decide)]

/-- A slab that replaces itself leaves the schedule as it is. -/
theorem replaceAt_self (h : Ordered schedule.slabs) (hs : schedule.slabs[i]? = some s) :
    schedule.replaceAt i s = schedule := by
  obtain ⟨hi, rfl⟩ := List.getElem?_eq_some_iff.mp hs
  rw [replaceAt, List.set_getElem_self, Slab.sortByLower_of_ordered h]

/-- An edit without conflicts replaces the slab and sorts again, also if nothing changes. -/
theorem update_of_no_conflicts (hordered : Ordered schedule.slabs)
    (h : (schedule.update position request).1 = .ok edit) (hconflicts : edit.conflicts = []) :
    ∃ i s, edit.Concerns schedule position request i s ∧
      (schedule.update position request).2 = schedule.replaceAt i (s.apply edit.changes) := by
  obtain ⟨i, s, hedit, hafter⟩ := update_of_ok h
  refine ⟨i, s, hedit, ?_⟩
  rw [hafter]
  by_cases hempty : edit.changes.isEmpty = true
  · -- without changes nothing is sorted, which makes no difference to slabs in order
    rw [SlabChange.eq_empty hempty, Slab.apply_empty, replaceAt_self hordered hedit.slab, ite_self]
  · have heffective : edit.isEffective = true := by
      simp [Edit.isEffective, hconflicts, hempty]
    rw [heffective, if_pos rfl]

namespace Edit.Concerns

variable (h : edit.Concerns schedule position request i s)

include h

/-- The changed slab stands among the others that were left alone. -/
theorem perm :
    (schedule.replaceAt i (s.apply edit.changes)).slabs.Perm
      (s.apply edit.changes :: schedule.slabs.eraseIdx i) :=
  (Slab.sortByLower_perm _).trans (List.set_perm_cons_eraseIdx (lt_of_position? h.index) _)

/-- The changed slab can be put in order among the others. -/
theorem sortable (hordered : Ordered schedule.slabs) :
    Sortable (schedule.slabs.set i (s.apply edit.changes)) := by
  obtain ⟨change, hchange, hdifferences⟩ := h.changes
  refine hordered.sortable.set fun hlength => ?_
  have hs := hordered.sortable hlength s (List.mem_of_getElem? h.slab)
  exact ((SlabChange.finite_of_ofRequest hchange).differences hdifferences).isNaN_lower hs

/-- Without conflicts the changed slab is not inverted and conflicts with none of the others. -/
theorem compatible (hconflicts : edit.conflicts = []) :
    ¬(s.apply edit.changes).Inverted ∧
      ∀ t ∈ schedule.slabs.eraseIdx i, ¬(s.apply edit.changes).Conflicting t := by
  have hvalidate := h.conflicts
  rw [hconflicts] at hvalidate
  obtain ⟨hinverted, hothers⟩ := Slab.of_validate_eq_nil hvalidate
  exact ⟨Slab.not_inverted hinverted, fun t ht => Slab.not_conflicting (hothers t ht)⟩

end Edit.Concerns

/-- An edit keeps the slabs in order. -/
theorem update_ordered (hordered : Ordered schedule.slabs) (position : Int) (request : Request) :
    Ordered (schedule.update position request).2.slabs := by
  cases h : (schedule.update position request).1 with
  | error error => rwa [update_of_error h]
  | ok edit =>
    by_cases hconflicts : edit.conflicts = []
    · obtain ⟨i, s, hedit, hafter⟩ := update_of_no_conflicts hordered h hconflicts
      rw [hafter]
      exact Slab.sortByLower_ordered (hedit.sortable hordered)
    · rwa [update_of_conflicts h hconflicts]

/-- An edit keeps compatible slabs compatible. -/
theorem update_compatible (hordered : Ordered schedule.slabs) (h : Compatible schedule.slabs)
    (position : Int) (request : Request) :
    Compatible (schedule.update position request).2.slabs := by
  cases hcall : (schedule.update position request).1 with
  | error error => rwa [update_of_error hcall]
  | ok edit =>
    by_cases hconflicts : edit.conflicts = []
    · obtain ⟨i, s, hedit, hafter⟩ := update_of_no_conflicts hordered hcall hconflicts
      obtain ⟨hinverted, hothers⟩ := hedit.compatible hconflicts
      have hrest := h.sublist (List.eraseIdx_sublist schedule.slabs i)
      rw [hafter]
      exact (hrest.cons hinverted hothers).perm hedit.perm.symm
    · rwa [update_of_conflicts hcall hconflicts]

/-- Edits keep the slabs in order. -/
theorem updateAll_ordered (h : Ordered initial.slabs) (edits : List (Int × Request)) :
    Ordered (initial.updateAll edits).slabs := by
  induction edits generalizing initial with
  | nil => exact h
  | cons edit rest ih => exact ih (update_ordered h edit.1 edit.2)

/-- Edits keep compatible slabs compatible. -/
theorem updateAll_compatible (hordered : Ordered initial.slabs) (h : Compatible initial.slabs)
    (edits : List (Int × Request)) : Compatible (initial.updateAll edits).slabs := by
  induction edits generalizing initial with
  | nil => exact h
  | cons edit rest ih =>
    exact ih (update_ordered hordered edit.1 edit.2)
      (update_compatible hordered h edit.1 edit.2)

/-- A new schedule has its slabs in order. -/
theorem ofSlabs_ordered {authored : List Slab} {step : Decimal}
    (h : ofSlabs authored step = .ok initial) : Ordered initial.slabs := by
  obtain ⟨sorted, hsorted, h⟩ := bind_eq_ok_iff.mp h
  obtain rfl := pure_eq_ok_iff.mp h
  obtain ⟨hsortable, rfl⟩ := Slab.sortByLower?_eq_ok_iff.mp hsorted
  exact Slab.sortByLower_ordered hsortable

/-- However a schedule was edited before, an edit replaces one slab and sorts again, or leaves the
schedule as it is, and no slab becomes inverted or conflicts that was not or did not before. A
schedule that starts without such conflicts can only get gaps. -/
theorem update_keeps_conflicts (authored : List Slab) (step : Decimal) (initial : Schedule)
    (hinitial : ofSlabs authored step = .ok initial) (edits : List (Int × Request)) :
    let before := initial.updateAll edits
    (∀ position request error, (before.update position request).1 = .error error →
      (before.update position request).2 = before) ∧
    (∀ position request edit, (before.update position request).1 = .ok edit →
      edit.conflicts ≠ [] → (before.update position request).2 = before) ∧
    (∀ position request edit, (before.update position request).1 = .ok edit →
      edit.conflicts = [] → ∃ change i s after,
        SlabChange.ofRequest request = .ok change ∧
        position? before.slabs.length position = some i ∧ before.slabs[i]? = some s ∧
        s.differences change = .ok edit.changes ∧
        Slab.sortByLower? (before.slabs.set i (s.apply edit.changes)) = .ok after ∧
        (before.update position request).2 = { before with slabs := after } ∧
        after.length = before.slabs.length ∧
        (after.Pairwise fun s t => s.lower.le t.lower = .ok true) ∧
        (∀ t ∈ after, t.isInverted = .ok true → t ∈ before.slabs.eraseIdx i) ∧
        (∀ t u, [t, u].Subperm after → t.conflictsWith u = .ok true →
          [t, u].Subperm (before.slabs.eraseIdx i))) ∧
    ((∀ s ∈ initial.slabs, s.isInverted ≠ .ok true) →
      (initial.slabs.Pairwise fun s t => s.conflictsWith t ≠ .ok true) →
      ∀ found, before.conflicts = .ok found → ∀ c ∈ found, c.isGap = true) := by
  intro before
  have hstart := ofSlabs_ordered hinitial
  have hordered : Ordered before.slabs := updateAll_ordered hstart edits
  refine ⟨fun _ _ _ h => update_of_error h, fun _ _ _ h => update_of_conflicts h, ?_, ?_⟩
  · intro position request edit h hconflicts
    obtain ⟨i, s, hedit, hafter⟩ := update_of_no_conflicts hordered h hconflicts
    obtain ⟨hinverted, hothers⟩ := hedit.compatible hconflicts
    obtain ⟨change, hchange, hdifferences⟩ := hedit.changes
    have hsortable := hedit.sortable hordered
    refine ⟨change, i, s, _, hchange, hedit.index, hedit.slab, hdifferences,
      Slab.sortByLower?_eq_ok_iff.mpr ⟨hsortable, rfl⟩, hafter, ?_,
      Slab.sortByLower_ordered hsortable, ?_, ?_⟩
    · rw [(Slab.sortByLower_perm _).length_eq, List.length_set]
    · intro t ht htinverted
      rcases List.mem_cons.mp (hedit.perm.mem_iff.mp ht) with rfl | ht
      · exact absurd htinverted hinverted
      · exact ht
    · intro t u hfound hconflict
      have hsub := hfound.trans hedit.perm.subperm
      exact Slab.subperm_of_conflicting hothers hsub (by simp) (List.pairwise_pair.mpr hconflict)
  · intro hupright hapart found hfound
    have hcompatible := updateAll_compatible hstart ⟨hupright, hapart⟩ edits
    exact hcompatible.isGap hfound

/-- Two tiers that meet at one hundred. -/
def twoTiers : Schedule := { slabs := [⟨0, some 100, 5⟩, ⟨101, none, 9⟩] }

/-- After the first tier is cut at fifty there is a gap, and moving the last one down to forty is
refused. -/
theorem twoTiers_keeps_conflicts :
    let before := twoTiers.updateAll [(0, [("toAmount", .whole 50)])]
    ofSlabs twoTiers.slabs = .ok twoTiers ∧
      before.conflicts = .ok [.gap ⟨0, some 50, 5⟩ ⟨101, none, 9⟩] ∧
      (∀ found, before.conflicts = .ok found → ∀ c ∈ found, c.isGap = true) ∧
      ((before.update (-1) [("fromAmount", .whole 40)]).1.map (·.conflicts) =
        .ok [.overlap ⟨40, none, 9⟩ ⟨0, some 50, 5⟩]) ∧
      (before.update (-1) [("fromAmount", .whole 40)]).2 = before := by
  intro before
  obtain ⟨-, hconflicts, -, hgaps⟩ := update_keeps_conflicts twoTiers.slabs 1 twoTiers rfl
    [(0, [("toAmount", .whole 50)])]
  refine ⟨rfl, rfl, hgaps (by decide) (by decide), rfl, ?_⟩
  exact hconflicts (-1) [("fromAmount", .whole 40)]
    ⟨{ lower := some 40 }, [.overlap ⟨40, none, 9⟩ ⟨0, some 50, 5⟩]⟩ rfl (by decide)

end Schedule

end Passbook
