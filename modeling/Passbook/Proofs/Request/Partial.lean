import Passbook.Proofs.Request.FieldNames
import Passbook.Proofs.Request.Sound
import Passbook.Proofs.Schedule.Comparable
import Passbook.Proofs.Schedule.Repricing

/-!
# Partial updates

A request changes the fields whose sent value differs from the stored one, and no others. One
field is left alone if it was not sent, keeps its stored value if the sent one is equal, and holds
exactly the sent one otherwise. Equality of decimals is equality of values, so a sent `5.00` does
not replace a stored `5`. A sent number is finite and equal to itself, so that the same request
changes nothing the second time. Only a stored signaling value cannot be compared with a sent
number; then nothing is changed at all.
-/

namespace Passbook

open Decimal (Fault)

namespace Decimal

variable {x y stored : Decimal} {sent : Option Decimal}

/-- A decimal has its own value, unless it stands for no number. -/
theorem sameValue_self (hx : x.isNaN = false) : x.sameValue x = .ok true := by
  obtain ⟨p, hp⟩ := exists_point?_iff.mpr hx
  rw [sameValue, compare?_of_point? hp hp, compare_eq_iff_eq.mpr rfl]
  rfl

/-- A signaling value cannot be compared. -/
theorem sameValue_of_isSignaling (hx : x.isSignaling = true) :
    x.sameValue y = .error .invalidOperation := by
  cases x with
  | nan s g n =>
    obtain rfl : g = true := hx
    cases y <;> rfl
  | _ => exact nomatch hx

/-- A value was sent, and the stored one is signaling, so that they cannot be compared. -/
def Refuses (stored : Decimal) (sent : Option Decimal) : Prop :=
  stored.isSignaling = true ∧ sent ≠ none

/-- A stored value that refuses the one that was sent cannot be changed. -/
theorem changed?_of_refuses (h : stored.Refuses sent) :
    stored.changed? sent = .error .invalidOperation := by
  obtain ⟨hstored, hsent⟩ := h
  cases sent with
  | none => exact absurd rfl hsent
  | some d => rw [changed?, sameValue_of_isSignaling hstored]; rfl

/-- Otherwise it is found out whether the value is changed. -/
theorem exists_changed? (h : ¬stored.Refuses sent)
    (hsent : ∀ d, sent = some d → d.isFinite = true) :
    ∃ changed, stored.changed? sent = .ok changed := by
  cases sent with
  | none => exact ⟨none, rfl⟩
  | some d =>
    have hstored : stored.isSignaling = false := by
      simpa [Refuses] using h
    have hd := isSignaling_of_isNaN (isNaN_of_isFinite (hsent d rfl))
    obtain ⟨same, hsame⟩ := exists_sameValue hstored hd
    exact ⟨_, by rw [changed?, hsame]; rfl⟩

end Decimal

namespace Request

variable {α : Type} {same : α → α → Except Fault Bool} {stored after : α}
  {sent changed : Option α}

/-- What a sent value changes, where `same` says whether two values are equal. -/
def changedBy (same : α → α → Except Fault Bool) (stored : α) :
    Option α → Except Fault (Option α)
  | none => .ok none
  | some a => (same stored a).map fun equal => if equal then none else some a

/-- What becomes of one field: the value that was sent, what counts as changed, and the value
afterwards. -/
inductive Effect (same : α → α → Except Fault Bool) (stored : α) :
    Option α → Option α → α → Prop
  /-- A field that was not sent keeps its value. -/
  | unsent : Effect same stored none none stored
  /-- So does a field that was sent with an equal value. -/
  | kept {a : α} : same stored a = .ok true → Effect same stored (some a) none stored
  /-- A value that differs is changed, and then stored as it was sent. -/
  | replaced {a : α} : same stored a = .ok false → Effect same stored (some a) (some a) a

/-- What is found to be changed has its effect on the stored value. -/
theorem effect_of_changedBy (h : changedBy same stored sent = .ok changed) :
    Effect same stored sent changed (changed.getD stored) := by
  cases sent with
  | none =>
    obtain rfl := Except.ok.inj h
    exact .unsent
  | some a =>
    obtain ⟨equal, hequal, rfl⟩ := map_eq_ok_iff.mp h
    cases equal with
    | true => exact .kept hequal
    | false => exact .replaced hequal

/-- Sent a second time, a value that is equal to itself changes nothing. -/
theorem Effect.changedBy_again (h : Effect same stored sent changed after)
    (hself : ∀ a, sent = some a → same a a = .ok true) :
    changedBy same after sent = .ok none := by
  cases h with
  | unsent => rfl
  | kept hequal => rw [changedBy, hequal]; rfl
  | replaced hdiffers => rw [changedBy, hself _ rfl]; rfl

/-- Equality of texts, kinds and flags, which can always be found out. -/
def equal [DecidableEq α] (a b : α) : Except Fault Bool := .ok (decide (b = a))

theorem equal_self [DecidableEq α] (a : α) : equal a a = .ok true :=
  congrArg Except.ok (decide_eq_true rfl)

end Request

open Request (Effect changedBy equal effect_of_changedBy equal_self)

theorem Decimal.changed?_eq (stored : Decimal) (sent : Option Decimal) :
    stored.changed? sent = changedBy sameValue stored sent := by
  cases sent <;> rfl

theorem Slab.changedUpper?_eq (stored : Option Decimal) (sent : Option (Option Decimal)) :
    changedUpper? stored sent = changedBy sameUpper stored sent := by
  cases sent <;> rfl

/-- Any other field is changed by another value. -/
theorem Split.changed?_eq {α : Type} [DecidableEq α] (stored : α) (sent : Option α) :
    .ok (changed? stored sent) = changedBy equal stored sent := by
  cases sent with
  | none => rfl
  | some a => by_cases h : a = stored <;> simp [changed?, changedBy, equal, h, Except.map]

/-- What a request makes of a split, field by field. -/
structure Split.Revised (s : Split) (change changes : SplitChange) (after : Split) : Prop where
  stakeholder : Effect equal s.stakeholder change.stakeholder changes.stakeholder after.stakeholder
  kind : Effect equal s.kind change.kind changes.kind after.kind
  value : Effect Decimal.sameValue s.value change.value changes.value after.value
  active : Effect equal s.active change.active changes.active after.active
  ledgerAccount : Effect equal s.ledgerAccount change.ledgerAccount changes.ledgerAccount
    after.ledgerAccount

namespace Split

variable {s after : Split} {change changes : SplitChange}

/-- What differs in a request is revised field by field. -/
theorem revised (h : s.differences change = .ok changes) :
    s.Revised change changes (s.apply changes) := by
  obtain ⟨value, hvalue, h⟩ := bind_eq_ok_iff.mp h
  obtain rfl := pure_eq_ok_iff.mp h
  rw [Decimal.changed?_eq] at hvalue
  exact {
    stakeholder := effect_of_changedBy (changed?_eq _ _).symm
    kind := effect_of_changedBy (changed?_eq _ _).symm
    value := effect_of_changedBy hvalue
    active := effect_of_changedBy (changed?_eq _ _).symm
    ledgerAccount := effect_of_changedBy (changed?_eq _ _).symm }

/-- A field of the same value as before is not changed again. -/
theorem changed?_again {α : Type} [DecidableEq α] {stored a : α} {sent changed : Option α}
    (h : Effect equal stored sent changed a) : changed? a sent = none := by
  have hagain := h.changedBy_again fun b _ => equal_self b
  rw [← changed?_eq] at hagain
  exact Except.ok.inj hagain

/-- The same change makes no difference to the split that it was made on. -/
theorem Revised.differences_again (h : s.Revised change changes after) (hchange : change.Sound) :
    after.differences change = .ok {} := by
  have hvalue : after.value.changed? change.value = .ok none := by
    rw [Decimal.changed?_eq]
    refine h.value.changedBy_again fun d hd => ?_
    exact Decimal.sameValue_self (Decimal.isNaN_of_isFinite (hchange.value d hd).1)
  rw [differences, hvalue, changed?_again h.stakeholder, changed?_again h.kind,
    changed?_again h.active, changed?_again h.ledgerAccount]
  rfl

/-- A change can be compared with a split unless it has a value for a signaling one. -/
theorem exists_differences (h : ¬s.value.Refuses change.value) (hchange : change.Sound) :
    ∃ changes, s.differences change = .ok changes := by
  obtain ⟨value, hvalue⟩ := Decimal.exists_changed? h fun d hd => (hchange.value d hd).1
  exact ⟨_, by rw [differences, hvalue]; rfl⟩

end Split

/-- What a request makes of a slab, field by field. -/
structure Slab.Revised (s : Slab) (change changes : SlabChange) (after : Slab) : Prop where
  lower : Effect Decimal.sameValue s.lower change.lower changes.lower after.lower
  upper : Effect sameUpper s.upper change.upper changes.upper after.upper
  fee : Effect Decimal.sameValue s.fee change.fee changes.fee after.fee

namespace Slab

variable {s after : Slab} {change changes : SlabChange} {stored : Option Decimal}
  {sent : Option (Option Decimal)}

/-- What differs in a request is revised field by field. -/
theorem revised (h : s.differences change = .ok changes) :
    s.Revised change changes (s.apply changes) := by
  obtain ⟨lower, hlower, h⟩ := bind_eq_ok_iff.mp h
  obtain ⟨upper, hupper, h⟩ := bind_eq_ok_iff.mp h
  obtain ⟨fee, hfee, h⟩ := bind_eq_ok_iff.mp h
  obtain rfl := pure_eq_ok_iff.mp h
  rw [Decimal.changed?_eq] at hlower hfee
  rw [changedUpper?_eq] at hupper
  exact {
    lower := effect_of_changedBy hlower
    upper := effect_of_changedBy hupper
    fee := effect_of_changedBy hfee }

/-- An upper bound that can be compared is the same as itself. -/
theorem sameUpper_self (h : ∀ u, stored = some u → u.isNaN = false) :
    sameUpper stored stored = .ok true := by
  cases stored with
  | none => rfl
  | some u => exact Decimal.sameValue_self (h u rfl)

/-- The same change makes no difference to the slab that it was made on. -/
theorem Revised.differences_again (h : s.Revised change changes after) (hchange : change.Finite) :
    after.differences change = .ok {} := by
  have hlower : after.lower.changed? change.lower = .ok none := by
    rw [Decimal.changed?_eq]
    refine h.lower.changedBy_again fun d hd => ?_
    exact Decimal.sameValue_self (Decimal.isNaN_of_isFinite (hchange.lower d hd))
  have hupper : changedUpper? after.upper change.upper = .ok none := by
    rw [changedUpper?_eq]
    refine h.upper.changedBy_again fun sent hsent => sameUpper_self ?_
    rintro d rfl
    exact Decimal.isNaN_of_isFinite (hchange.upper d hsent)
  have hfee : after.fee.changed? change.fee = .ok none := by
    rw [Decimal.changed?_eq]
    refine h.fee.changedBy_again fun d hd => ?_
    exact Decimal.sameValue_self (Decimal.isNaN_of_isFinite (hchange.fee d hd))
  rw [differences, hlower, hupper, hfee]
  rfl

/-- A number of the change is for a signaling one of the slab. -/
def Refuses (s : Slab) (change : SlabChange) : Prop :=
  s.lower.Refuses change.lower ∨ (∃ u ∈ s.upper, ∃ sent ∈ change.upper, u.Refuses sent) ∨
    s.fee.Refuses change.fee

/-- An upper bound that refuses the one that was sent cannot be changed. -/
theorem changedUpper?_of_refuses (h : ∃ u ∈ stored, ∃ v ∈ sent, u.Refuses v) :
    changedUpper? stored sent = .error .invalidOperation := by
  obtain ⟨u, rfl, v, rfl, hu, hv⟩ := h
  cases v with
  | none => exact absurd rfl hv
  | some d => rw [changedUpper?, sameUpper, Decimal.sameValue_of_isSignaling hu]; rfl

/-- Otherwise it is found out whether the upper bound is changed. -/
theorem exists_changedUpper? (h : ¬∃ u ∈ stored, ∃ v ∈ sent, u.Refuses v)
    (hsent : ∀ d, sent = some (some d) → d.isFinite = true) :
    ∃ changed, changedUpper? stored sent = .ok changed := by
  cases sent with
  | none => exact ⟨none, rfl⟩
  | some v =>
    have hsame : ∃ same, sameUpper stored v = .ok same := by
      cases stored with
      | none => cases v <;> exact ⟨_, rfl⟩
      | some u =>
        cases v with
        | none => exact ⟨false, rfl⟩
        | some d =>
          have hu : u.isSignaling = false := by
            simpa [Decimal.Refuses] using h
          exact Decimal.exists_sameValue hu
            (Decimal.isSignaling_of_isNaN (Decimal.isNaN_of_isFinite (hsent d rfl)))
    obtain ⟨same, hsame⟩ := hsame
    exact ⟨_, by rw [changedUpper?, hsame]; rfl⟩

/-- The comparison with the slab returns unless it meets a signaling value, and then it faults. -/
theorem differences_outcome (s : Slab) (hchange : change.Finite) :
    (s.Refuses change → s.differences change = .error .invalidOperation) ∧
      (¬s.Refuses change → ∃ changes, s.differences change = .ok changes) := by
  unfold Refuses differences
  by_cases hlower : s.lower.Refuses change.lower
  · simp [hlower, Decimal.changed?_of_refuses hlower]
  obtain ⟨lower, hlower'⟩ := Decimal.exists_changed? hlower hchange.lower
  by_cases hupper : ∃ u ∈ s.upper, ∃ sent ∈ change.upper, u.Refuses sent
  · rw [hlower', changedUpper?_of_refuses hupper]
    exact ⟨fun _ => rfl, fun h => absurd (.inr (.inl hupper)) h⟩
  obtain ⟨upper, hupper'⟩ := exists_changedUpper? hupper hchange.upper
  by_cases hfee : s.fee.Refuses change.fee
  · rw [hlower', hupper', Decimal.changed?_of_refuses hfee]
    exact ⟨fun _ => rfl, fun h => absurd (.inr (.inr hfee)) h⟩
  obtain ⟨fee, hfee'⟩ := Decimal.exists_changed? hfee hchange.fee
  rw [hlower', hupper', hfee']
  exact ⟨fun h => (h.elim hlower fun h => h.elim hupper hfee).elim, fun _ => ⟨_, rfl⟩⟩

end Slab

namespace Schedule

open Slab (Ordered)

variable {schedule : Schedule} {position again : Int} {request : Request} {change : SlabChange}
  {edit : Edit} {s : Slab} {i j : Nat}

/-- Where the comparison with the slab faults, so does the edit. -/
theorem update_of_differences_error {fault : Fault}
    (hchange : SlabChange.ofRequest request = .ok change)
    (hs : elementAt schedule.slabs position = .ok (i, s))
    (h : s.differences change = .error fault) :
    schedule.update position request = (.error (.arithmetic fault), schedule) := by
  simp only [update, hchange, hs, editAt, h, error_bind]

/-- An edit of comparable slabs that meets no signaling value returns. -/
theorem exists_update (hchange : SlabChange.ofRequest request = .ok change)
    (hs : elementAt schedule.slabs position = .ok (i, s)) (hrefuses : ¬s.Refuses change)
    (hslabs : ∀ t ∈ schedule.slabs, t.Comparable) :
    ∃ edit after, schedule.update position request = (.ok edit, after) := by
  have hfinite := SlabChange.finite_of_ofRequest hchange
  obtain ⟨changes, hchanges⟩ := (s.differences_outcome hfinite).2 hrefuses
  have hedited : (s.apply changes).Comparable :=
    (hslabs s (List.mem_of_getElem? (elementAt_eq_ok hs).2)).apply (hfinite.differences hchanges)
  have hothers : ∀ t ∈ schedule.slabs.eraseIdx i, t.Comparable :=
    fun t ht => hslabs t (List.mem_of_mem_eraseIdx ht)
  obtain ⟨conflicts, hconflicts⟩ := hedited.exists_validate hothers
  simp only [update, hchange, hs, editAt, hchanges, hconflicts, ok_bind]
  exact ⟨_, _, rfl⟩

/-- An edit concerns the slab at its position and no other one. -/
theorem Edit.Concerns.eq_of_elementAt {t : Slab}
    (h : edit.Concerns schedule position request j t)
    (hs : elementAt schedule.slabs position = .ok (i, s)) : j = i ∧ t = s := by
  obtain ⟨hindex, hslab⟩ := elementAt_eq_ok hs
  obtain rfl := Option.some.inj (hindex.symm.trans h.index)
  exact ⟨rfl, Option.some.inj (h.slab.symm.trans hslab)⟩

/-- What an edit is about is the slab at its position and the change in its request. -/
theorem Edit.Concerns.of_elementAt (hs : elementAt schedule.slabs position = .ok (i, s))
    (hchange : SlabChange.ofRequest request = .ok change)
    (h : (schedule.update position request).1 = .ok edit) :
    edit.Concerns schedule position request i s ∧ s.differences change = .ok edit.changes := by
  obtain ⟨i', s', hedit, -⟩ := update_of_ok h
  obtain ⟨rfl, rfl⟩ := hedit.eq_of_elementAt hs
  obtain ⟨change', hchange', hdifferences⟩ := hedit.changes
  obtain rfl := Except.ok.inj (hchange.symm.trans hchange')
  exact ⟨hedit, hdifferences⟩

/-- An edit without conflicts puts the edited slab in the place of the old one and sorts again. -/
theorem update_of_elementAt (hordered : Ordered schedule.slabs)
    (hs : elementAt schedule.slabs position = .ok (i, s))
    (h : (schedule.update position request).1 = .ok edit) (hconflicts : edit.conflicts = []) :
    (schedule.update position request).2 = schedule.replaceAt i (s.apply edit.changes) := by
  obtain ⟨i', s', hedit, hafter⟩ := update_of_no_conflicts hordered h hconflicts
  obtain ⟨rfl, rfl⟩ := hedit.eq_of_elementAt hs
  exact hafter

/-- An edit without conflicts that is made again on the slab that it left changes nothing. -/
theorem update_again (hordered : Ordered schedule.slabs)
    (hs : elementAt schedule.slabs position = .ok (i, s))
    (hchange : SlabChange.ofRequest request = .ok change)
    (h : (schedule.update position request).1 = .ok edit) (hconflicts : edit.conflicts = [])
    (hagain : elementAt (schedule.update position request).2.slabs again =
      .ok (j, s.apply edit.changes)) :
    (schedule.update position request).2.update again request =
      (.ok ⟨{}, []⟩, (schedule.update position request).2) := by
  obtain ⟨hedit, hdifferences⟩ := Edit.Concerns.of_elementAt hs hchange h
  have hfinite := SlabChange.finite_of_ofRequest hchange
  have hsame := (Slab.revised hdifferences).differences_again hfinite
  generalize hafter : (schedule.update position request).2 = after at hagain ⊢
  -- beside the edited slab stand the others that it was checked against
  have hothers : (after.slabs.eraseIdx j).Perm (schedule.slabs.eraseIdx i) := by
    obtain ⟨hj, hslab⟩ := List.getElem?_eq_some_iff.mp (elementAt_eq_ok hagain).2
    have hperm : after.slabs.Perm (s.apply edit.changes :: schedule.slabs.eraseIdx i) := by
      rw [← hafter, update_of_elementAt hordered hs h hconflicts]
      exact hedit.perm
    have hsplit := List.getElem_cons_eraseIdx_perm hj
    rw [hslab] at hsplit
    exact (hsplit.trans hperm).cons_inv
  have hvalidate := hedit.conflicts
  rw [hconflicts, Slab.validate_eq_nil_iff] at hvalidate
  have hclean : (s.apply edit.changes).validate (after.slabs.eraseIdx j) = .ok [] :=
    Slab.validate_eq_nil_iff.mpr
      ⟨hvalidate.1, fun t ht => hvalidate.2 t (hothers.mem_iff.mp ht)⟩
  simp only [update, hchange, hagain, editAt, hsame, Slab.apply_empty, hclean, ok_bind]
  rfl

/-- A request that is accepted changes exactly the sent fields whose value differs from the stored
one, in a split or in a slab of a schedule that was edited before. A sent value that is equal
leaves the stored one as it is written. Nothing is changed where a stored signaling value keeps
the comparison from returning, where an edit fails in any other way or where it has conflicts. The
same request changes nothing the second time, and with the names of fields in place of their
labels it does the same. -/
theorem requests_change_what_differs :
    (∀ (s : Split) (request : Request) (change : SplitChange),
      SplitChange.ofRequest request = .ok change →
      (s.value.Refuses change.value →
        s.update request = (.error (.arithmetic .invalidOperation), s)) ∧
      (¬s.value.Refuses change.value → ∃ changes after,
        s.update request = (.ok changes, after) ∧ s.Revised change changes after ∧
          after.update request = (.ok {}, after)) ∧
      s.update (request.byName SplitChange.fields) = s.update request) ∧
    (∀ (authored : List Slab) (step : Decimal) (initial : Schedule),
      ofSlabs authored step = .ok initial →
      ∀ (edits : List (Int × Request)) (position : Int) (request : Request) (change : SlabChange),
      SlabChange.ofRequest request = .ok change →
      let before := initial.updateAll edits
      (∀ error, (before.update position request).1 = .error error →
        (before.update position request).2 = before) ∧
      (∀ i s, elementAt before.slabs position = .ok (i, s) →
        (s.Refuses change →
          before.update position request = (.error (.arithmetic .invalidOperation), before)) ∧
        (¬s.Refuses change → (∀ t ∈ before.slabs, t.Comparable) →
          ∃ edit after, before.update position request = (.ok edit, after)) ∧
        (∀ edit after, before.update position request = (.ok edit, after) →
          s.Revised change edit.changes (s.apply edit.changes) ∧
          (edit.conflicts ≠ [] → after = before) ∧
          (edit.conflicts = [] →
            (∃ j, after.slabs[j]? = some (s.apply edit.changes) ∧
              after.slabs.eraseIdx j = before.slabs.eraseIdx i) ∧ after.step = before.step ∧
            ∀ again j, elementAt after.slabs again = .ok (j, s.apply edit.changes) →
              after.update again request = (.ok ⟨{}, []⟩, after)))) ∧
      before.update position (request.byName SlabChange.fields) =
        before.update position request) := by
  refine ⟨fun s request change hchange => ⟨fun hrefuses => ?_, fun hrefuses => ?_, ?_⟩, ?_⟩
  · have hfault : s.differences change = .error .invalidOperation := by
      rw [Split.differences, Decimal.changed?_of_refuses hrefuses, error_bind]
    simp only [Split.update, hchange, hfault]
  · have hsound := SplitChange.sound_of_ofRequest hchange
    obtain ⟨changes, hchanges⟩ := Split.exists_differences hrefuses hsound
    have hrevised := Split.revised hchanges
    have hsame := hrevised.differences_again hsound
    refine ⟨changes, s.apply changes, by simp only [Split.update, hchange, hchanges], hrevised, ?_⟩
    simp only [Split.update, hchange, hsame, Split.apply_empty]
  · exact Split.update_byName hchange s
  · intro authored step initial hinitial edits position request change hchange before
    have hordered : Ordered before.slabs := updateAll_ordered (ofSlabs_ordered hinitial) edits
    refine ⟨fun _ h => update_of_error h, fun i s hs => ⟨fun hrefuses => ?_, ?_, ?_⟩,
      update_byName hchange before position⟩
    · have hfault := (s.differences_outcome (SlabChange.finite_of_ofRequest hchange)).1 hrefuses
      exact update_of_differences_error hchange hs hfault
    · exact exists_update hchange hs
    · intro edit after h
      obtain ⟨hcall, rfl⟩ : (before.update position request).1 = .ok edit ∧
          (before.update position request).2 = after := by rw [h]; exact ⟨rfl, rfl⟩
      obtain ⟨-, hdifferences⟩ := Edit.Concerns.of_elementAt hs hchange hcall
      refine ⟨Slab.revised hdifferences, update_of_conflicts hcall, fun hconflicts => ?_⟩
      refine ⟨?_, update_step before position request, fun again j hagain => ?_⟩
      · rw [update_of_elementAt hordered hs hcall hconflicts]
        exact Slab.standsAmong_sortByLower_set hordered
          (lt_of_position? (elementAt_eq_ok hs).1) (s.apply edit.changes)
      · exact update_again hordered hs hchange hcall hconflicts hagain

/-- A tier that is not the last one. -/
def lastButOne : List Slab := [⟨0, some 100, 5⟩, ⟨200, some 300, 9⟩]

/-- The bank's five units stay as they are written, while its ledger account goes. The first tier
moves behind the other one with the fee as it is written, and there the same request does nothing.
A stored signaling value cannot be compared. -/
theorem lastButOne_changes :
    let bank : Split := ⟨"bank", .flatAmount, 5, true, some "4100"⟩
    let broken : Split := { bank with value := .nan false true 0 }
    let onSplit : Request := [("glAccountId", .absent), ("splitValue", .text "5.00")]
    let before : Schedule := { slabs := lastButOne }
    let onSlab : Request :=
      [("fromAmount", .whole 400), ("toAmount", .absent), ("value", .text "5.00")]
    let moved : Schedule := { slabs := [⟨200, some 300, 9⟩, ⟨400, none, 5⟩] }
    bank.update onSplit =
        (.ok { ledgerAccount := some none }, { bank with ledgerAccount := none }) ∧
      { bank with ledgerAccount := none }.update onSplit =
        (.ok {}, { bank with ledgerAccount := none }) ∧
      broken.update onSplit = (.error (.arithmetic .invalidOperation), broken) ∧
      before.update 0 onSlab = (.ok ⟨{ lower := some 400, upper := some none }, []⟩, moved) ∧
      moved.update (-1) onSlab = (.ok ⟨{}, []⟩, moved) ∧
      before.update 0 [("lower_bound", .whole 400), ("upper_bound", .absent),
        ("fee_value", .text "5.00")] = before.update 0 onSlab := by
  intro bank broken onSplit before onSlab moved
  obtain ⟨hsplits, hslabs⟩ := requests_change_what_differs
  have hsplit : SplitChange.ofRequest onSplit =
      .ok { value := some (.finite ⟨false, 500, -2⟩), ledgerAccount := some none } := by
    decide +kernel
  have hslab : SlabChange.ofRequest onSlab = .ok
      { lower := some 400, upper := some none, fee := some (.finite ⟨false, 500, -2⟩) } := by
    decide +kernel
  have hbank : bank.update onSplit =
      (.ok { ledgerAccount := some none }, { bank with ledgerAccount := none }) := by
    decide +kernel
  have hmoved : before.update 0 onSlab =
      (.ok ⟨{ lower := some 400, upper := some none }, []⟩, moved) := by
    decide +kernel
  obtain ⟨-, hagain, -⟩ := hsplits bank onSplit _ hsplit
  obtain ⟨changes, after, hafter, -, hsame⟩ := hagain fun h => absurd h.1 (by decide)
  obtain ⟨-, rfl⟩ := Prod.mk.inj (hbank.symm.trans hafter)
  obtain ⟨hbroken, -, -⟩ := hsplits broken onSplit _ hsplit
  obtain ⟨-, hedit, hnames⟩ := hslabs lastButOne 1 before rfl [] 0 onSlab _ hslab
  obtain ⟨-, -, hchanged⟩ := hedit 0 ⟨0, some 100, 5⟩ rfl
  obtain ⟨-, -, hclean⟩ := hchanged _ moved hmoved
  exact ⟨hbank, hsame, hbroken ⟨rfl, by decide⟩, hmoved,
    (hclean rfl).2.2 (-1) 1 (by decide +kernel), hnames⟩

end Schedule

end Passbook
