import Passbook.Request.Field
import Passbook.Slab

/-!
# Changes of a slab

A change holds a new value for each field that was sent. Only values that differ from the stored
ones are changes in effect: two numbers of one value do not differ, however they are written, and
the stored one is kept.
-/

namespace Passbook

open Decimal (Fault)

/-- The new value of a number, if it differs from the stored one. -/
def Decimal.changed? (stored : Decimal) : Option Decimal → Except Fault (Option Decimal)
  | none => .ok none
  | some sent => (stored.sameValue sent).map fun same => if same then none else some sent

/-- New values for fields of a slab. -/
structure SlabChange where
  lower : Option Decimal := none
  /-- The new upper bound, where `some none` makes the slab endless. -/
  upper : Option (Option Decimal) := none
  fee : Option Decimal := none
  deriving DecidableEq, Repr, Inhabited

namespace SlabChange

/-- The field of the lower bound. -/
def lowerField : Request.Field := ⟨"fromAmount", "lower_bound"⟩

/-- The field of the upper bound. -/
def upperField : Request.Field := ⟨"toAmount", "upper_bound"⟩

/-- The field of the fee. -/
def feeField : Request.Field := ⟨"value", "fee_value"⟩

/-- Reads a change from a request. Rejections come in the order of the fields, unknown keys
last. -/
def ofRequest (request : Request) : Except (List Request.Rejection) SlabChange :=
  let lower := lowerField.required Request.readDecimal request
  let upper := upperField.optional Request.readDecimal request
  let fee := feeField.required Request.readDecimal request
  let unknown := Request.unknownKeys [lowerField, upperField, feeField] request
  match lower, upper, fee, unknown with
  | .ok lower, .ok upper, .ok fee, [] => .ok { lower, upper, fee }
  | _, _, _, _ =>
    .error (Request.rejections lower ++ Request.rejections upper ++ Request.rejections fee ++
      unknown)

/-- Whether nothing is to be changed. -/
def isEmpty (change : SlabChange) : Bool :=
  change.lower.isNone && change.upper.isNone && change.fee.isNone

end SlabChange

namespace Slab

/-- The new upper bound, if it differs from the stored one. -/
def changedUpper? (stored : Option Decimal) :
    Option (Option Decimal) → Except Fault (Option (Option Decimal))
  | none => .ok none
  | some sent => (sameUpper stored sent).map fun same => if same then none else some sent

/-- The part of a change that differs from the slab. -/
def differences (s : Slab) (change : SlabChange) : Except Fault SlabChange := do
  let lower ← s.lower.changed? change.lower
  let upper ← changedUpper? s.upper change.upper
  let fee ← s.fee.changed? change.fee
  return { lower, upper, fee }

/-- The slab with the new values of a change. -/
def apply (s : Slab) (change : SlabChange) : Slab :=
  { lower := change.lower.getD s.lower
    upper := change.upper.getD s.upper
    fee := change.fee.getD s.fee }

@[simp] theorem apply_empty (s : Slab) : s.apply {} = s := rfl

end Slab

end Passbook
