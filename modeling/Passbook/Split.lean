import Passbook.Decimal.Order
import Passbook.Decimal.Printer

/-!
# Stakeholder splits

A split gives a stakeholder part of a fee: a percentage of it or a flat amount. Inactive splits
take nothing. A finding names what keeps a list of splits from being taken out of a fee.
-/

namespace Passbook

/-- How the value of a split is meant. -/
inductive SplitKind where
  | percentage
  | flatAmount
  deriving DecidableEq, Repr, Inhabited

namespace SplitKind

/-- The written name. -/
def name : SplitKind → String
  | percentage => "PERCENTAGE"
  | flatAmount => "FLAT_AMOUNT"

/-- The kind of a written name, which must agree letter by letter. -/
def ofName? (s : String) : Option SplitKind :=
  if s = percentage.name then some percentage
  else if s = flatAmount.name then some flatAmount
  else none

theorem ofName?_name (k : SplitKind) : ofName? k.name = some k := by
  cases k <;> decide

end SplitKind

/-- The part of a fee that goes to one stakeholder. -/
structure Split where
  stakeholder : String
  kind : SplitKind
  value : Decimal
  active : Bool := true
  /-- The ledger account that the share is credited to. -/
  ledgerAccount : Option String := none
  deriving DecidableEq, Repr, Inhabited

namespace Split

/-- Whether the value is a percentage of the fee. -/
def isPercentage (s : Split) : Bool := s.kind = .percentage

/-- Whether the value is an amount. -/
def isFlatAmount (s : Split) : Bool := s.kind = .flatAmount

/-- Why splits cannot be taken out of a fee. -/
inductive Finding where
  /-- The value of a split is negative. -/
  | negativeValue (split : Split)
  /-- The percentages exceed one hundred. -/
  | percentageExceedsHundred (total : Decimal)
  /-- The flat amounts exceed the fee. -/
  | flatExceedsFee (total : Decimal)
  /-- Percentages and flat amounts together exceed the fee; the flat total is reported. -/
  | combinedExceedsFee (flatTotal : Decimal)
  /-- One flat amount exceeds the fee. -/
  | shareExceedsFee (split : Split) (fee : Decimal)
  deriving DecidableEq, Repr, Inhabited

namespace Finding

/-- The request field that the finding is reported on. -/
def parameter (_ : Finding) : String := "splitValue"

/-- The code of the finding. -/
def code : Finding → String
  | negativeValue _ => "error.msg.fee.split.value.negative"
  | percentageExceedsHundred _ => "error.msg.fee.split.total.percentage.exceeds.100"
  | flatExceedsFee _ => "error.msg.fee.split.total.flat.amount.exceeds.fee"
  | combinedExceedsFee _ => "error.msg.fee.split.total.exceeds.fee"
  | shareExceedsFee .. => "error.msg.fee.split.total.flat.amount.exceeds.fee"

/-- The sentence that describes the finding. -/
def message : Finding → String
  | negativeValue s => s!"Split value for {s.stakeholder} cannot be negative"
  | percentageExceedsHundred _ => "Total percentage splits cannot exceed 100%"
  | flatExceedsFee _ => "Total flat amount splits cannot exceed total fee amount"
  | combinedExceedsFee _ =>
    "Percentage and flat amount splits together cannot exceed total fee amount"
  | shareExceedsFee s fee => s!"Flat split {s.value} for {s.stakeholder} exceeds fee {fee}"

/-- The value that the finding is about. -/
def value : Finding → Decimal
  | negativeValue s => s.value
  | percentageExceedsHundred total => total
  | flatExceedsFee total => total
  | combinedExceedsFee flatTotal => flatTotal
  | shareExceedsFee s _ => s.value

end Finding

end Split

end Passbook
