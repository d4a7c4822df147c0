import Passbook.Tax

/-!
# Payments

A payment reports a fee with its tax. The total is the fee and the tax that was applied; the net
amount is the fee. Without a fee the payment has failed.
-/

namespace Passbook

open Decimal (Fault)

/-- The outcome of charging a fee. -/
structure Payment where
  fee : Option String
  feeAmount : Decimal
  taxAmount : Decimal
  taxApplied : Bool
  total : Decimal
  net : Decimal
  successful : Bool
  message : String
  deriving DecidableEq, Repr, Inhabited

namespace Payment

/-- Whether tax was applied and came to something. -/
def hasTax (p : Payment) : Except Fault Bool :=
  if p.taxApplied then (0 : Decimal).lt p.taxAmount else .ok false

/-- The message of a payment with tax. -/
def taxedMessage (fee tax total : Decimal) : String :=
  s!"Charge of {fee} paid with VAT of {tax} (Total: {total})"

/-- The message of a payment without tax. -/
def untaxedMessage (fee : Decimal) : String := s!"Charge of {fee} paid (no VAT applicable)"

/-- The message of a failed payment. -/
def failedMessage : String := "Charge payment failed"

/-- The payment of a fee with its tax, where there are any. -/
def aggregate (fee : Option Fee) (tax : Option Tax) : Except Fault Payment := do
  let feeAmount := fee.elim 0 (·.amount)
  let taxApplied := tax.elim false (·.applied)
  let taxAmount := if taxApplied then tax.elim 0 (·.amount) else 0
  let total ← feeAmount.add taxAmount
  return {
    fee := fee.map (·.reference)
    feeAmount
    taxAmount
    taxApplied
    total
    net := feeAmount
    successful := fee.isSome
    message :=
      if fee.isNone then failedMessage
      else if taxApplied then taxedMessage feeAmount taxAmount total
      else untaxedMessage feeAmount }

end Payment

end Passbook
