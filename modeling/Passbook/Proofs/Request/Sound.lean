import Passbook.Proofs.Decimal.Order
import Passbook.Proofs.Schedule.Edits
import Passbook.Request.SplitChange
import Passbook.Split.Totals

/-!
# Requests keep splits and slabs sound

A split is sound if its value is a finite number that is not below zero and it names a stakeholder.
A request is checked before it is carried out: whatever values it holds, a change that is read from
it sets only sound values, and a rejected request sets none. So no sequence of requests makes a
sound split unsound, and none of its values is ever found negative. Slabs keep finite bounds and
fees in the same way.
-/

namespace Passbook

namespace Request

variable {α : Type} {d : Decimal} {t key : String} {datum : Datum} {field : Field}
  {request : Request} {read : Datum → Except Reason α}

/-- A number that is read as one from zero up is finite and not below zero. -/
theorem of_readNonNegative (h : readNonNegative datum = .ok d) :
    d.isFinite = true ∧ (0 : Decimal).le d = .ok true := by
  unfold readNonNegative at h
  split at h
  · exact nomatch h
  next e hread =>
    split at h
    next hle =>
      obtain rfl := Except.ok.inj h
      exact ⟨isFinite_of_readDecimal hread, hle⟩
    next => exact nomatch h

/-- A text that is read as one that is not empty is not. -/
theorem ne_empty_of_readNonEmptyText (h : readNonEmptyText datum = .ok t) : t ≠ "" := by
  unfold readNonEmptyText at h
  split at h
  · exact nomatch h
  next s _ =>
    by_cases hs : s.isEmpty = true
    · simp [hs] at h
    · simp only [hs, Bool.false_eq_true, if_false, Except.ok.injEq] at h
      rintro rfl
      exact hs (by simp [h])

/-- A field that needs a value is rejected if it is sent without one. -/
theorem Field.required_of_absent (h : field.sent? request = some (key, .absent)) :
    field.required read request = .error ⟨key, .absent⟩ := by
  simp [required, h]

/-- What holds of a sent value and of the stored one holds of the value afterwards. -/
theorem holds_getD {P : α → Prop} {sent : Option α} {stored : α}
    (hsent : ∀ a, sent = some a → P a) (hstored : P stored) : P (sent.getD stored) := by
  cases sent with
  | none => exact hstored
  | some a => exact hsent a rfl

end Request

/-- The new texts of the change are not empty and its new values are finite and not below zero. -/
structure SplitChange.Sound (change : SplitChange) : Prop where
  stakeholder : ∀ t, change.stakeholder = some t → t ≠ ""
  value : ∀ d, change.value = some d → d.isFinite = true ∧ (0 : Decimal).le d = .ok true

namespace SplitChange

variable {change : SplitChange} {request : Request} {field : Request.Field} {key : String}

/-- The fields that cannot be sent without a value. -/
def neededFields : List Request.Field := [stakeholderField, kindField, valueField, activeField]

/-- A change that is read from a request is sound. -/
theorem sound_of_ofRequest (h : ofRequest request = .ok change) : change.Sound := by
  unfold ofRequest at h
  dsimp only at h
  split at h
  next stakeholder kind value active ledgerAccount hstakeholder _ hvalue _ _ _ =>
    obtain rfl := Except.ok.inj h
    constructor
    · rintro t rfl
      obtain ⟨datum, hread⟩ := Request.Field.read_of_required hstakeholder
      exact Request.ne_empty_of_readNonEmptyText hread
    · rintro d rfl
      obtain ⟨datum, hread⟩ := Request.Field.read_of_required hvalue
      exact Request.of_readNonNegative hread
  next => exact nomatch h

/-- A request that sends a needed field without a value is rejected, for that field among
others. -/
theorem ofRequest_of_absent (hfield : field ∈ neededFields)
    (h : field.sent? request = some (key, .absent)) :
    ∃ rejections, ofRequest request = .error rejections ∧ ⟨key, .absent⟩ ∈ rejections := by
  unfold ofRequest
  dsimp only
  simp only [neededFields, List.mem_cons, List.not_mem_nil, or_false] at hfield
  rcases hfield with rfl | rfl | rfl | rfl <;>
    simp [Request.Field.required_of_absent h, Request.rejections]

end SplitChange

/-- The value is a finite number that is not below zero, and there is a stakeholder. -/
structure Split.Sound (s : Split) : Prop where
  isFinite : s.value.isFinite = true
  nonneg : (0 : Decimal).le s.value = .ok true
  stakeholder : s.stakeholder ≠ ""

namespace Split

open Decimal (Fault)

variable {s : Split} {change changes : SplitChange} {splits : List Split} {fee : Decimal}
  {totals next final : Totals}

/-- The splits after several requests, each on the split at an index. -/
def updateAll (splits : List Split) (calls : List (Nat × Request)) : List Split :=
  calls.foldl (fun splits call => splits.modify call.1 fun s => (s.update call.2).2) splits

/-- What a field is changed to is what was sent. -/
theorem changed?_eq_some {α : Type} [DecidableEq α] {stored a : α} {sent : Option α}
    (h : changed? stored sent = some a) : sent = some a := by
  by_cases hsame : sent = some stored
  · simp [changed?, hsame] at h
  · simpa [changed?, hsame] using h

/-- What differs in effect is as sound as the change. -/
theorem sound_of_differences (hchange : change.Sound) (h : s.differences change = .ok changes) :
    changes.Sound := by
  obtain ⟨value, hvalue, h⟩ := bind_eq_ok_iff.mp h
  obtain rfl := pure_eq_ok_iff.mp h
  constructor
  · intro t ht
    exact hchange.stakeholder t (changed?_eq_some ht)
  · rintro d rfl
    exact hchange.value d (Decimal.changed?_eq_some hvalue)

/-- Sound changes keep a split sound. -/
theorem Sound.apply (hs : s.Sound) (h : changes.Sound) : (s.apply changes).Sound := by
  obtain ⟨hfinite, hnonneg⟩ := Request.holds_getD h.value ⟨hs.isFinite, hs.nonneg⟩
  exact ⟨hfinite, hnonneg, Request.holds_getD h.stakeholder hs.stakeholder⟩

/-- A request keeps a split sound. -/
theorem Sound.update (hs : s.Sound) (request : Request) : (s.update request).2.Sound := by
  unfold Split.update
  split
  · exact hs
  next change hchange =>
    split
    · exact hs
    next changes hchanges =>
      exact hs.apply (sound_of_differences (SplitChange.sound_of_ofRequest hchange) hchanges)

/-- A request on one of several splits keeps all of them sound. -/
theorem modify_sound (h : ∀ s ∈ splits, s.Sound) (i : Nat) (request : Request) :
    ∀ s ∈ splits.modify i fun s => (s.update request).2, s.Sound := by
  intro s hs
  obtain ⟨j, hj⟩ := List.mem_iff_getElem?.mp hs
  rw [List.getElem?_modify] at hj
  obtain ⟨t, ht, rfl⟩ := Option.map_eq_some_iff.mp hj
  have hsound := h t (List.mem_of_getElem? ht)
  by_cases hi : i = j
  · simpa [hi] using hsound.update request
  · simpa [hi] using hsound

/-- Requests keep all splits sound, and their number. -/
theorem updateAll_sound (h : ∀ s ∈ splits, s.Sound) (calls : List (Nat × Request)) :
    (updateAll splits calls).length = splits.length ∧ ∀ s ∈ updateAll splits calls, s.Sound := by
  induction calls generalizing splits with
  | nil => exact ⟨rfl, h⟩
  | cons call rest ih =>
    have hrun := ih (modify_sound h call.1 call.2)
    rwa [List.length_modify] at hrun

/-- The value of a sound split is not found negative. -/
theorem Sound.lt_zero (hs : s.Sound) : s.value.lt 0 = .ok false := by
  obtain ⟨x, hx⟩ := Decimal.isFinite_iff.mp hs.isFinite
  have hvalue : s.value.HasValue x.value := Decimal.hasValue_iff.mpr ⟨x, hx, rfl⟩
  have hnonneg := hs.nonneg
  rw [Decimal.le_eq Decimal.hasValue_zero hvalue] at hnonneg
  rw [Decimal.lt_eq hvalue Decimal.hasValue_zero]
  simpa using hnonneg

/-- Counting a split that is not negative finds none. -/
theorem Totals.negative_add (hs : s.value.lt 0 = .ok false) (h : totals.add s = .ok next) :
    next.negative = totals.negative := by
  unfold Totals.add at h
  split at h
  · rw [pure_eq_ok_iff.mp h]
  · simp only [hs, ok_bind, Bool.false_eq_true, if_false] at h
    split at h <;>
    · obtain ⟨total, -, h⟩ := bind_eq_ok_iff.mp h
      rw [← pure_eq_ok_iff.mp h]

/-- Counting sound splits finds none that is negative. -/
theorem Totals.negative_addAll (hsplits : ∀ s ∈ splits, s.Sound)
    (h : totals.addAll splits = .ok final) : final.negative = totals.negative := by
  induction splits generalizing totals with
  | nil => rw [Except.ok.inj h]
  | cons s rest ih =>
    obtain ⟨next, hnext, hrest⟩ := bind_eq_ok_iff.mp h
    have hsound := List.forall_mem_cons.mp hsplits
    rw [ih hsound.2 hrest, Totals.negative_add hsound.1.lt_zero hnext]

/-- No value of sound splits is found negative, whatever the fee. -/
theorem negativeValue_notMem {found : List Finding} (hsplits : ∀ s ∈ splits, s.Sound)
    (h : validateTotals splits fee = .ok found) (s : Split) : .negativeValue s ∉ found := by
  obtain ⟨totals, htotals, h⟩ := bind_eq_ok_iff.mp h
  obtain ⟨percentages, hpercentages, h⟩ := bind_eq_ok_iff.mp h
  obtain ⟨amounts, hamounts, h⟩ := bind_eq_ok_iff.mp h
  have hnegative : totals.negative = [] := Totals.negative_addAll hsplits htotals
  have hp : .negativeValue s ∉ percentages := by
    rcases ite_eq_ok_iff.mp hpercentages with ⟨-, h⟩ | ⟨-, h⟩ <;>
      simp [← pure_eq_ok_iff.mp h]
  have ha : .negativeValue s ∉ amounts := by
    rcases ite_eq_ok_iff.mp hamounts with ⟨-, h⟩ | ⟨-, h⟩
    · simp [← pure_eq_ok_iff.mp h]
    · rcases ite_eq_ok_iff.mp h with ⟨-, h⟩ | ⟨-, h⟩ <;> simp [← pure_eq_ok_iff.mp h]
  rw [← pure_eq_ok_iff.mp h, hnegative]
  simp [hp, ha]

end Split

namespace SlabChange

variable {request : Request} {field : Request.Field} {key : String}

/-- The fields that cannot be sent without a value. -/
def neededFields : List Request.Field := [lowerField, feeField]

/-- A request that sends a needed field without a value is rejected, for that field among
others. -/
theorem ofRequest_of_absent (hfield : field ∈ neededFields)
    (h : field.sent? request = some (key, .absent)) :
    ∃ rejections, ofRequest request = .error rejections ∧ ⟨key, .absent⟩ ∈ rejections := by
  unfold ofRequest
  dsimp only
  simp only [neededFields, List.mem_cons, List.not_mem_nil, or_false] at hfield
  rcases hfield with rfl | rfl <;>
    simp [Request.Field.required_of_absent h, Request.rejections]

end SlabChange

/-- The bounds and the fee are finite numbers, but for an upper bound that is left out. -/
structure Slab.Sound (s : Slab) : Prop where
  lower : s.lower.isFinite = true
  upper : ∀ u, s.upper = some u → u.isFinite = true
  fee : s.fee.isFinite = true

/-- Changes to finite numbers keep a slab sound. -/
theorem Slab.Sound.apply {s : Slab} {changes : SlabChange} (hs : s.Sound) (h : changes.Finite) :
    (s.apply changes).Sound where
  lower := Request.holds_getD h.lower hs.lower
  upper := by
    have hsent : ∀ sent, changes.upper = some sent → ∀ u, sent = some u → u.isFinite = true := by
      rintro _ hchange u rfl
      exact h.upper u hchange
    exact Request.holds_getD hsent hs.upper
  fee := Request.holds_getD h.fee hs.fee

namespace Schedule

variable {schedule : Schedule}

/-- An edit keeps all slabs sound. -/
theorem update_sound (h : ∀ s ∈ schedule.slabs, s.Sound) (position : Int) (request : Request) :
    ∀ s ∈ (schedule.update position request).2.slabs, s.Sound := by
  cases hcall : (schedule.update position request).1 with
  | error error => rwa [update_of_error hcall]
  | ok edit =>
    obtain ⟨i, s, hedit, hafter⟩ := update_of_ok hcall
    rw [hafter]
    split
    · obtain ⟨change, hchange, hchanges⟩ := hedit.changes
      have hfinite := (SlabChange.finite_of_ofRequest hchange).differences hchanges
      intro t ht
      rcases List.mem_cons.mp (hedit.perm.mem_iff.mp ht) with rfl | ht
      · exact (h s (List.mem_of_getElem? hedit.slab)).apply hfinite
      · exact h t (List.mem_of_mem_eraseIdx ht)
    · exact h

/-- Edits keep all slabs sound. -/
theorem updateAll_sound (h : ∀ s ∈ schedule.slabs, s.Sound) (edits : List (Int × Request)) :
    ∀ s ∈ (schedule.updateAll edits).slabs, s.Sound := by
  induction edits generalizing schedule with
  | nil => exact h
  | cons edit rest ih => exact ih (update_sound h edit.1 edit.2)

end Schedule

/-- Whatever requests are made on sound splits and slabs, accepted or not, they stay sound: the
values of the splits are finite and never found negative, whatever the fee, and the slabs have
finite bounds and fees. A request that would leave a needed field without a value is rejected and
changes nothing. -/
theorem requests_keep_sound (splits : List Split) (hsplits : ∀ s ∈ splits, s.Sound)
    (schedule : Schedule) (hslabs : ∀ s ∈ schedule.slabs, s.Sound) :
    (∀ calls, (Split.updateAll splits calls).length = splits.length ∧
      (∀ s ∈ Split.updateAll splits calls, s.Sound) ∧
      ∀ fee found, Split.validateTotals (Split.updateAll splits calls) fee = .ok found →
        ∀ s, .negativeValue s ∉ found) ∧
    (∀ (s : Split) (request : Request), ∀ field ∈ SplitChange.neededFields, ∀ key,
      field.sent? request = some (key, .absent) → ∃ rejections,
        s.update request = (.error (.requestRejected rejections), s) ∧
          ⟨key, .absent⟩ ∈ rejections) ∧
    (∀ edits, ∀ s ∈ (schedule.updateAll edits).slabs, s.Sound) ∧
    (∀ (other : Schedule) (position : Int) (request : Request),
      ∀ field ∈ SlabChange.neededFields, ∀ key,
        field.sent? request = some (key, .absent) → ∃ rejections,
          other.update position request = (.error (.requestRejected rejections), other) ∧
            ⟨key, .absent⟩ ∈ rejections) := by
  refine ⟨fun calls => ?_, ?_, Schedule.updateAll_sound hslabs, ?_⟩
  · obtain ⟨hlength, hsound⟩ := Split.updateAll_sound hsplits calls
    exact ⟨hlength, hsound, fun fee found h => Split.negativeValue_notMem hsound h⟩
  · intro s request field hfield key hsent
    obtain ⟨rejections, hrejected, hmem⟩ := SplitChange.ofRequest_of_absent hfield hsent
    exact ⟨rejections, by simp [Split.update, hrejected], hmem⟩
  · intro other position request field hfield key hsent
    obtain ⟨rejections, hrejected, hmem⟩ := SlabChange.ofRequest_of_absent hfield hsent
    exact ⟨rejections, by simp [Schedule.update, hrejected], hmem⟩

/-- A bank with sixty percent and a broker with a flat amount of nine. -/
def bankAndBroker : List Split :=
  [⟨"bank", .percentage, 60, true, none⟩, ⟨"broker", .flatAmount, 9, false, some "4100"⟩]

/-- The request for a negative percentage and the one without a kind are rejected, those for the
text minus zero and for the binary number 12.5 are not. -/
theorem bankAndBroker_keeps_sound :
    let after := Split.updateAll bankAndBroker
      [(0, [("splitValue", .text "-1")]), (0, [("splitType", .absent), ("value", .whole 3)]),
        (0, [("splitValue", .text " -0.00 ")]),
        (1, [("value", .binary (.finite false (25 * 2 ^ 48) (-49))), ("active", .text "YES")])]
    after = [⟨"bank", .percentage, .finite ⟨true, 0, -2⟩, true, none⟩,
        ⟨"broker", .flatAmount, .finite ⟨false, 125, -1⟩, true, some "4100"⟩] ∧
      (∀ s ∈ after, s.Sound) ∧ Split.validateTotals after 12 = .ok [.flatExceedsFee
        (.finite ⟨false, 125, -1⟩)] ∧
      (∀ s ∈ (Schedule.twoTiers.updateAll
          [(-1, [("toAmount", .text "Infinity")]), (-1, [("toAmount", .text "2E+2")])]).slabs,
        s.Sound) := by
  intro after
  have hsplits : ∀ s ∈ bankAndBroker, s.Sound := by
    simp only [bankAndBroker, List.forall_mem_cons]
    refine ⟨⟨rfl, ?_, by simp⟩, ⟨rfl, ?_, by simp⟩, by simp⟩ <;> decide +kernel
  have hslabs : ∀ s ∈ Schedule.twoTiers.slabs, s.Sound := by
    simp only [Schedule.twoTiers, List.forall_mem_cons]
    refine ⟨⟨rfl, ?_, rfl⟩, ⟨rfl, by simp, rfl⟩, by simp⟩
    rintro u ⟨⟩
    rfl
  obtain ⟨hrun, -, hedits, -⟩ := requests_keep_sound bankAndBroker hsplits Schedule.twoTiers hslabs
  exact ⟨by decide +kernel, (hrun _).2.1, by decide +kernel, hedits _⟩

end Passbook
