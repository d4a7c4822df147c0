import Passbook.Proofs.Outcome
import Passbook.Request.SlabChange

/-!
# Numbers in requests

A request gives only finite numbers, and a change of a slab in effect has no others than the ones
that were sent.
-/

namespace Passbook

namespace Request

variable {α : Type} {d e : Decimal} {datum : Datum} {field : Field} {request : Request}
  {read : Datum → Except Reason α} {a : α}

/-- A number that is required to be finite is. -/
theorem isFinite_of_requireFinite (h : requireFinite d = .ok e) : e.isFinite = true := by
  unfold requireFinite at h
  split at h
  next hfinite =>
    obtain rfl := Except.ok.inj h
    exact hfinite
  next => exact nomatch h

/-- A number that is read from a value is finite. -/
theorem isFinite_of_readDecimal (h : readDecimal datum = .ok d) : d.isFinite = true := by
  cases datum with
  | text s =>
    rw [readDecimal] at h
    split at h
    · exact isFinite_of_requireFinite h
    · exact nomatch h
  | whole n =>
    obtain rfl := Except.ok.inj h
    rfl
  | binary b => exact isFinite_of_requireFinite h
  | decimal d => exact isFinite_of_requireFinite h
  | absent => exact nomatch h
  | flag b => exact nomatch h
  | compound => exact nomatch h

/-- A field that was sent has a value that was read. -/
theorem Field.read_of_required (h : field.required read request = .ok (some a)) :
    ∃ datum, read datum = .ok a := by
  unfold required at h
  split at h
  · exact nomatch h
  · exact nomatch h
  next datum _ _ =>
    split at h
    next hread =>
      obtain rfl := Option.some.inj (Except.ok.inj h)
      exact ⟨datum, hread⟩
    next => exact nomatch h

/-- A field that was sent with a value has one that was read. -/
theorem Field.read_of_optional (h : field.optional read request = .ok (some (some a))) :
    ∃ datum, read datum = .ok a := by
  unfold optional at h
  split at h
  · exact nomatch h
  · exact nomatch h
  next datum _ _ =>
    split at h
    next hread =>
      obtain rfl := Option.some.inj (Option.some.inj (Except.ok.inj h))
      exact ⟨datum, hread⟩
    next => exact nomatch h

end Request

namespace SlabChange

variable {change : SlabChange} {request : Request}

/-- All numbers of the change are finite. -/
structure Finite (change : SlabChange) : Prop where
  lower : ∀ d, change.lower = some d → d.isFinite = true
  upper : ∀ d, change.upper = some (some d) → d.isFinite = true
  fee : ∀ d, change.fee = some d → d.isFinite = true

/-- An empty change is the one without fields. -/
theorem eq_empty (h : change.isEmpty = true) : change = {} := by
  obtain ⟨lower, upper, fee⟩ := change
  simp only [isEmpty, Bool.and_eq_true, Option.isNone_iff_eq_none] at h
  obtain ⟨⟨rfl, rfl⟩, rfl⟩ := h
  rfl

/-- A change that is read from a request has finite numbers. -/
theorem finite_of_ofRequest (h : ofRequest request = .ok change) : change.Finite := by
  unfold ofRequest at h
  dsimp only at h
  split at h
  next lower upper fee hlower hupper hfee _ =>
    obtain rfl := Except.ok.inj h
    constructor
    · rintro d rfl
      obtain ⟨datum, hread⟩ := Request.Field.read_of_required hlower
      exact Request.isFinite_of_readDecimal hread
    · rintro d rfl
      obtain ⟨datum, hread⟩ := Request.Field.read_of_optional hupper
      exact Request.isFinite_of_readDecimal hread
    · rintro d rfl
      obtain ⟨datum, hread⟩ := Request.Field.read_of_required hfee
      exact Request.isFinite_of_readDecimal hread
  next => exact nomatch h

end SlabChange

/-- A new value was sent. -/
theorem Decimal.changed?_eq_some {stored d : Decimal} {sent : Option Decimal}
    (h : stored.changed? sent = .ok (some d)) : sent = some d := by
  cases sent with
  | none => exact nomatch h
  | some e =>
    obtain ⟨same, -, h⟩ := map_eq_ok_iff.mp h
    cases same with
    | true => exact nomatch h
    | false => exact h

/-- A new upper bound was sent. -/
theorem Slab.changedUpper?_eq_some {stored u : Option Decimal} {sent : Option (Option Decimal)}
    (h : Slab.changedUpper? stored sent = .ok (some u)) : sent = some u := by
  cases sent with
  | none => exact nomatch h
  | some v =>
    obtain ⟨same, -, h⟩ := map_eq_ok_iff.mp h
    cases same with
    | true => exact nomatch h
    | false => exact h

/-- What differs in effect has no other numbers than the change. -/
theorem SlabChange.Finite.differences {s : Slab} {change changes : SlabChange}
    (hchange : change.Finite) (h : s.differences change = .ok changes) : changes.Finite := by
  obtain ⟨lower, hlower, h⟩ := bind_eq_ok_iff.mp h
  obtain ⟨upper, hupper, h⟩ := bind_eq_ok_iff.mp h
  obtain ⟨fee, hfee, h⟩ := bind_eq_ok_iff.mp h
  obtain rfl := pure_eq_ok_iff.mp h
  constructor
  · rintro d rfl
    exact hchange.lower d (Decimal.changed?_eq_some hlower)
  · rintro d rfl
    exact hchange.upper d (Slab.changedUpper?_eq_some hupper)
  · rintro d rfl
    exact hchange.fee d (Decimal.changed?_eq_some hfee)

/-- A change with finite numbers leaves no lower bound that stands for no number, unless the slab
has one already. -/
theorem SlabChange.Finite.isNaN_lower {s : Slab} {changes : SlabChange} (h : changes.Finite)
    (hs : s.lower.isNaN = false) : (s.apply changes).lower.isNaN = false := by
  cases hlower : changes.lower with
  | none => simpa [Slab.apply, hlower] using hs
  | some d => simpa [Slab.apply, hlower] using Decimal.isNaN_of_isFinite (h.lower d hlower)

end Passbook
