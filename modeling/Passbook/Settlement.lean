import Passbook.Journal.Noting
import Passbook.Payment
import Passbook.Schedule

/-!
# Settling a charge

A charge on a transaction is settled in four steps: the schedule gives the fee for the amount,
the fee is distributed over the stakeholders, it is taxed, and fee and tax are put together into
the payment. A transaction dated before its posting date is settled as backdated; its tax rates
are those of the transaction's date. A settlement is noted when all its steps are done.
-/

namespace Passbook

/-- A charge on a transaction. -/
structure Charge where
  /-- The amount of the transaction, as it was sent. -/
  amount : Datum
  reference : String
  date : Date
  postingDate : Date
  charge : Option String := none
  currency : Currency
  components : List TaxComponent := []
  /-- The single rate of tax, as it was sent. -/
  rate : Option Datum := none
  exempt : Bool := false
  deriving DecidableEq, Repr, Inhabited

/-- Everything that settling a charge produces. -/
structure Settlement where
  payment : Payment
  tax : Tax
  distribution : Distribution
  deriving DecidableEq, Repr, Inhabited

namespace Charge

/-- Whether the charge is posted after its date. -/
def isBackdated (charge : Charge) : Bool := charge.date.isBackdated charge.postingDate

/-- The fee that the schedule has for the amount. -/
def resolve (charge : Charge) (schedule : Schedule) : Except Error Decimal := do
  let amount ← charge.amount.toDecimal
  schedule.resolve amount

/-- The resolved fee, rounded to the places of the currency, as it is posted. -/
def post (charge : Charge) (resolved : Decimal) : Except Error Fee := do
  let amount ← quantizeMoney resolved charge.currency.decimalPlaces
  return {
    reference := charge.reference
    amount
    date := some charge.date
    currency := charge.currency }

/-- The fee of the charge in a schedule. -/
def fee (charge : Charge) (schedule : Schedule) : Except Error Fee := do
  let resolved ← charge.resolve schedule
  charge.post resolved

/-- The tax on the fee: by the group of components if there are any or no single rate is given,
else at the single rate. -/
def tax (charge : Charge) (fee : Fee) : Except Error Tax :=
  match charge.rate with
  | some rate =>
    if charge.components.isEmpty then Tax.single fee rate charge.exempt charge.isBackdated
    else Tax.group fee charge.components charge.exempt charge.isBackdated
  | none => Tax.group fee charge.components charge.exempt charge.isBackdated

/-- Settles the charge. -/
def settle (charge : Charge) (schedule : Schedule) (splits : List Split) :
    Except Error Settlement := do
  let fee ← charge.fee schedule
  let distribution ← fee.distribute splits charge.charge (some charge.postingDate)
  let tax ← charge.tax fee
  let payment ← Payment.aggregate (some fee) (some tax)
  return { payment, tax, distribution }

/-- Settles the charge for a resolved fee, and notes the settlement once every step is done. -/
def attemptFor (charge : Charge) (splits : List Split) (resolved : Decimal) :
    Noting Settlement := do
  let fee ← charge.post resolved
  let distribution ← fee.distribute splits charge.charge (some charge.postingDate)
  let tax ← charge.tax fee
  let payment ← Payment.aggregate (some fee) (some tax)
  Noting.note { counters := [.chargeSettled tax.applied] }
  Noting.note { records := [.chargeSettled charge.reference charge.charge payment.feeAmount
    payment.taxAmount distribution.credits.length charge.isBackdated] }
  return { payment, tax, distribution }

/-- Settles the charge and notes what happens, also that no slab contains the amount. -/
def attempt (charge : Charge) (schedule : Schedule) (splits : List Split) : Noting Settlement := do
  let resolved ←
    try charge.resolve schedule
    catch error =>
      if error matches .noMatchingSlab _ then Noting.note { counters := [.unmatchedSlab] }
      throw error
  charge.attemptFor splits resolved

/-- The outcome of settling the charge, with its notes. -/
def process (charge : Charge) (schedule : Schedule) (splits : List Split) :
    Except Error Settlement × Journal :=
  (charge.attempt schedule splits).outcome

end Charge

end Passbook
