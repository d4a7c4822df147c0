import Passbook.Decimal.Order
import Passbook.Decimal.Printer

/-!
# Fee slabs

A slab charges one fee for all amounts from its lower bound to its upper bound, both included.
A slab without upper bound has no end. The relations between two slabs compare bounds and fault
where a bound is no number.
-/

namespace Passbook

open Decimal (Fault)

/-- One tier of a fee schedule. -/
structure Slab where
  lower : Decimal
  /-- The last amount of the tier; `none` for a tier without end. -/
  upper : Option Decimal
  fee : Decimal
  deriving DecidableEq, Repr, Inhabited

namespace Slab

/-- Whether an amount is in the slab. -/
def contains (s : Slab) (amount : Decimal) : Except Fault Bool := do
  if ← s.lower.le amount then
    match s.upper with
    | none => return true
    | some upper => amount.le upper
  else return false

/-- Whether the slab ends before it starts, so that no amount is in it. -/
def isInverted (s : Slab) : Except Fault Bool :=
  match s.upper with
  | none => .ok false
  | some upper => upper.lt s.lower

/-- Whether two upper bounds are equal in value. -/
def sameUpper : Option Decimal → Option Decimal → Except Fault Bool
  | none, none => .ok true
  | some u, some v => u.sameValue v
  | _, _ => .ok false

/-- Whether two slabs have the same bounds. -/
def samePeriod (s t : Slab) : Except Fault Bool := do
  if ← s.lower.sameValue t.lower then sameUpper s.upper t.upper else return false

/-- Whether `s` ends strictly before `t` starts. -/
def endsBefore (s t : Slab) : Except Fault Bool :=
  match s.upper with
  | none => .ok false
  | some upper => upper.lt t.lower

/-- Whether neither of two slabs ends before the other starts. -/
def overlaps (s t : Slab) : Except Fault Bool := do
  if ← s.endsBefore t then return false
  if ← t.endsBefore s then return false
  return true

/-- The upper bound as text, the end of an endless slab as the sign of infinity. -/
def upperText (s : Slab) : String :=
  match s.upper with
  | none => "∞"
  | some upper => upper.toText

/-- The bounds in brackets. -/
def describe (s : Slab) : String := s!"[{s.lower}, {s.upperText}]"

/-- What is wrong with a slab, or with two slabs of one schedule. -/
inductive Conflict where
  /-- The slab starts after its end. -/
  | inverted (slab : Slab)
  /-- Two slabs with different bounds share amounts. -/
  | overlap (slab other : Slab)
  /-- The next slab does not start one step after the slab's end. -/
  | gap (slab next : Slab)
  deriving DecidableEq, Repr, Inhabited

namespace Conflict

/-- The request field that the conflict is reported on. -/
def parameter : Conflict → String
  | inverted _ => "fromAmount"
  | overlap .. => "chartSlabs"
  | gap .. => "chartSlabs"

/-- The code of the conflict. -/
def code : Conflict → String
  | inverted _ => "from.period.is.greater.than.to.period"
  | overlap .. => "chart.slabs.range.overlapping"
  | gap .. => "chart.slabs.range.has.gap"

/-- The sentence that describes the conflict. -/
def message : Conflict → String
  | inverted s => s!"fromAmount {s.lower} is greater than toAmount {s.upperText}"
  | overlap s t => s!"Slab {s.describe} overlaps slab {t.describe}"
  | gap s t => s!"Gap between slab {s.describe} and slab {t.describe}"

/-- The bound that the conflict is about. -/
def value : Conflict → Decimal
  | inverted s => s.lower
  | overlap s _ => s.lower
  | gap _ t => t.lower

/-- Whether the conflict is an inverted slab. -/
def isInverted : Conflict → Bool
  | inverted _ => true
  | _ => false

/-- Whether the conflict is an overlap. -/
def isOverlap : Conflict → Bool
  | overlap .. => true
  | _ => false

/-- Whether the conflict is a gap. -/
def isGap : Conflict → Bool
  | gap .. => true
  | _ => false

end Conflict

end Slab

end Passbook
