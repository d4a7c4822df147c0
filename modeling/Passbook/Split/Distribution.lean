import Passbook.Date
import Passbook.Split.Totals

/-!
# Distribution of a fee

Each active split takes its share of the fee: a percentage rounded to the minor unit, or its flat
amount. Halves are rounded up, so the shares may add up to more than the fee. The overshoot is
taken back from the percentage shares, the last one first, until nothing is left of it.
-/

namespace Passbook

open Decimal (Fault)

/-- A posted fee. -/
structure Fee where
  reference : String
  amount : Decimal
  date : Option Date
  currency : Currency
  deriving DecidableEq, Repr, Inhabited

namespace Split

/-- The share of one split in a fee. -/
def share (s : Split) (fee : Decimal) (decimalPlaces : Int := 2) : Except Error Decimal := do
  if s.isPercentage then percentageOf fee s.value decimalPlaces
  else if ← fee.lt s.value then .error (.splitExceedsFee s fee)
  else return s.value

/-- The shares of a list of splits, in order. -/
def shares (fee : Decimal) (decimalPlaces : Int) : List Split → Except Error (List Decimal)
  | [] => .ok []
  | s :: rest => do
    let first ← s.share fee decimalPlaces
    let others ← shares fee decimalPlaces rest
    return first :: others

/-- One step of taking back: what is left of a share, and of the overshoot. Only a percentage
share gives, and at most all of itself. -/
def giveBack (s : Split) (amount overshoot : Decimal) : Except Fault (Decimal × Decimal) := do
  if ← overshoot.le 0 then return (amount, overshoot)
  if !s.isPercentage then return (amount, overshoot)
  let taken ← amount.lesser overshoot
  let left ← amount.sub taken
  let rest ← overshoot.sub taken
  return (left, rest)

/-- Takes an overshoot back from the shares, the last one first, and returns the shares that are
left with what could not be taken. -/
def takeBack (overshoot : Decimal) : List (Split × Decimal) →
    Except Fault (List Decimal × Decimal)
  | [] => .ok ([], overshoot)
  | (s, amount) :: rest => do
    let (later, untaken) ← takeBack overshoot rest
    let (left, untaken) ← s.giveBack amount untaken
    return (left :: later, untaken)

/-- The share of a fee that one stakeholder is credited with. -/
structure Credit where
  stakeholder : String
  kind : SplitKind
  amount : Decimal
  /-- The percentage of a percentage split. -/
  percentage : Option Decimal
  ledgerAccount : Option String
  deriving DecidableEq, Repr, Inhabited

/-- The credit of a split with an amount. -/
def credit (s : Split) (amount : Decimal) : Credit :=
  ⟨s.stakeholder, s.kind, amount, if s.isPercentage then some s.value else none,
    s.ledgerAccount⟩

end Split

/-- How a fee was distributed over its stakeholders. -/
structure Distribution where
  transaction : String
  charge : Option String
  total : Decimal
  date : Option Date
  credits : List Split.Credit
  deriving DecidableEq, Repr, Inhabited

namespace Distribution

/-- The sum of all credits. -/
def distributed (d : Distribution) : Except Fault Decimal :=
  Decimal.sum (d.credits.map (·.amount))

/-- What of the fee is credited to nobody. -/
def undistributed (d : Distribution) : Except Fault Decimal := do
  let distributed ← d.distributed
  d.total.sub distributed

end Distribution

namespace Fee

/-- The amounts of active splits in a fee: their shares, without the overshoot over the fee. -/
def amounts (fee : Fee) (active : List Split) : Except Error (List Decimal) := do
  let shares ← Split.shares fee.amount fee.currency.decimalPlaces active
  let total ← Decimal.sum shares
  let overshoot ← total.sub fee.amount
  let (left, _) ← Split.takeBack overshoot (active.zip shares)
  return left

/-- Distributes a fee over the active splits of a list. Without a date of its own the
distribution has the date of the fee. -/
def distribute (fee : Fee) (splits : List Split) (charge : Option String := none)
    (date : Option Date := none) : Except Error Distribution := do
  let active := splits.filter (·.active)
  let findings ← Split.validateTotals active fee.amount
  if !findings.isEmpty then .error (.invalidSplits findings)
  else
    let amounts ← fee.amounts active
    return {
      transaction := fee.reference
      charge
      total := fee.amount
      date := date.or fee.date
      credits := (active.zip amounts).map fun entry => entry.1.credit entry.2 }

end Fee

end Passbook
