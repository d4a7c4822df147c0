import Passbook.Decimal.Arithmetic
import Passbook.Money
import Passbook.Split

/-!
# Totals of splits

The active splits of a fee are added up, percentages and flat amounts apart; negative values are
reported and left out. The fee bears the splits when the percentages are at most one hundred, the
flat amounts at most the fee, and both together at most the fee.
-/

namespace Passbook

open Decimal (Fault)

namespace Split

/-- The totals of a list of splits. -/
structure Totals where
  percentage : Decimal
  flat : Decimal
  /-- One finding for each negative split, in order. -/
  negative : List Finding
  deriving DecidableEq, Repr, Inhabited

/-- No splits yet. -/
def Totals.empty : Totals := ⟨0, 0, []⟩

/-- Counts one more split. -/
def Totals.add (totals : Totals) (s : Split) : Except Fault Totals := do
  if !s.active then return totals
  if ← s.value.lt 0 then
    return { totals with negative := totals.negative ++ [.negativeValue s] }
  if s.isPercentage then
    let percentage ← totals.percentage.add s.value
    return { totals with percentage }
  else
    let flat ← totals.flat.add s.value
    return { totals with flat }

/-- Counts the splits of a list after those already counted. -/
def Totals.addAll (totals : Totals) : List Split → Except Fault Totals
  | [] => .ok totals
  | s :: rest => (totals.add s).bind fun next => next.addAll rest

/-- The totals of a list of splits. -/
def totalsOf (splits : List Split) : Except Fault Totals := Totals.empty.addAll splits

/-- What percentages and flat amounts together take from a fee. -/
def Totals.combined (totals : Totals) (fee : Decimal) : Except Fault Decimal := do
  let product ← fee.mul totals.percentage
  let share ← product.hundredth
  share.add totals.flat

/-- Whether the flat amounts are within the fee and still both parts together exceed it. The
parts are only added where the percentages are at most one hundred. -/
def Totals.combinedExceeds (totals : Totals) (fee : Decimal) : Except Fault Bool := do
  if ← totals.percentage.le 100 then
    let combined ← totals.combined fee
    fee.lt combined
  else return false

/-- The finding about the percentages, if they exceed one hundred. -/
def Totals.percentageFindings (totals : Totals) : Except Fault (List Finding) := do
  if ← (100 : Decimal).lt totals.percentage then
    return [.percentageExceedsHundred totals.percentage]
  else return []

/-- The finding about the amounts, if the flat ones or both parts together exceed the fee. -/
def Totals.amountFindings (totals : Totals) (fee : Decimal) : Except Fault (List Finding) := do
  if ← fee.lt totals.flat then return [.flatExceedsFee totals.flat]
  else if ← totals.combinedExceeds fee then return [.combinedExceedsFee totals.flat]
  else return []

/-- Everything that keeps a list of splits from being taken out of a fee. -/
def validateTotals (splits : List Split) (fee : Decimal) : Except Fault (List Finding) := do
  let totals ← totalsOf splits
  let percentages ← totals.percentageFindings
  let amounts ← totals.amountFindings fee
  return totals.negative ++ percentages ++ amounts

end Split

end Passbook
