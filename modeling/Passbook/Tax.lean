import Passbook.Split.Distribution

/-!
# Tax on fees

A fee is taxed at a single rate or by a group of components, each with its rate on the date of
the fee. Every component is rounded on its own before the amounts are added. An exempt fee, a
zero rate and a group that comes to nothing are results without tax, not errors.
-/

namespace Passbook

open Decimal (Fault)

/-- A rate that applied to a component between two dates. -/
structure PastRate where
  percentage : Decimal
  start : Date
  finish : Option Date := none
  deriving DecidableEq, Repr, Inhabited

/-- A named rate of tax with its earlier rates. -/
structure TaxComponent where
  name : String
  percentage : Decimal
  history : List PastRate := []
  deriving DecidableEq, Repr, Inhabited

/-- The rate on a date: that of the first earlier rate whose time includes the date, else the
current one. -/
def TaxComponent.percentageOn (component : TaxComponent) : Option Date → Decimal
  | none => component.percentage
  | some date =>
    match component.history.find? fun past => date.occursBetween past.start past.finish with
    | some past => past.percentage
    | none => component.percentage

/-- What one component comes to. -/
structure ComponentAmount where
  name : String
  percentage : Decimal
  amount : Decimal
  deriving DecidableEq, Repr, Inhabited

/-- The tax on a fee. -/
structure Tax where
  applied : Bool := false
  amount : Decimal := 0
  percentage : Decimal := 0
  /-- The fee that was taxed. -/
  fee : Option String := none
  date : Option Date := none
  backdated : Bool := false
  components : List ComponentAmount := []
  deriving DecidableEq, Repr, Inhabited

namespace Tax

/-- Whether balances have to be computed again, which they have after a backdated fee, taxed or
not. -/
def requiresBalanceRecompute (tax : Tax) : Bool := tax.backdated

/-- A fee without tax. -/
def notApplied (fee : Fee) (backdated : Bool) : Tax :=
  { fee := some fee.reference, date := fee.date, backdated }

/-- A fee taxed by components that come to a total. -/
def ofComponents (fee : Fee) (backdated : Bool) (amount percentage : Decimal)
    (components : List ComponentAmount) : Tax :=
  { applied := true, amount, percentage, fee := some fee.reference, date := fee.date, backdated,
    components }

/-- The tax at a single rate. -/
def single (fee : Fee) (rate : Datum) (exempt backdated : Bool := false) :
    Except Error Tax := do
  let rate ← rate.toDecimal
  if ← rate.lt 0 then .error (.negativeRate rate)
  else if exempt then return notApplied fee backdated
  else if ← rate.sameValue 0 then return notApplied fee backdated
  else
    let amount ← percentageOf fee.amount rate fee.currency.decimalPlaces
    return ofComponents fee backdated amount rate [⟨"VAT", rate, amount⟩]

/-- What a component comes to on a fee. -/
def componentAmount (fee : Fee) (component : TaxComponent) : Except Error ComponentAmount := do
  let rate := component.percentageOn fee.date
  if ← rate.lt 0 then .error (.negativeComponentRate component.name rate)
  else
    let amount ← percentageOf fee.amount rate fee.currency.decimalPlaces
    return ⟨component.name, rate, amount⟩

/-- What the components of a list come to, in order. -/
def componentAmounts (fee : Fee) : List TaxComponent → Except Error (List ComponentAmount)
  | [] => .ok []
  | component :: rest => do
    let first ← componentAmount fee component
    let others ← componentAmounts fee rest
    return first :: others

/-- The tax by a group of components. -/
def group (fee : Fee) (components : List TaxComponent) (exempt backdated : Bool := false) :
    Except Error Tax := do
  if exempt || components.isEmpty then return notApplied fee backdated
  else
    let amounts ← componentAmounts fee components
    let total ← Decimal.sum (amounts.map (·.amount))
    if ← total.le 0 then return notApplied fee backdated
    else
      let percentage ← Decimal.sum (amounts.map (·.percentage))
      return ofComponents fee backdated total percentage amounts

end Tax

end Passbook
