import Passbook.Datum
import Passbook.Decimal.Quantize
import Passbook.Error

/-!
# Money

An amount of money is a decimal in a currency, and a currency has a number of decimal places.
Amounts are rounded to those places with halves away from zero. Amounts of two currencies are
neither added nor compared.
-/

namespace Passbook

/-- A currency and the number of decimal places of its minor unit. -/
structure Currency where
  code : String
  decimalPlaces : Int := 2
  deriving DecidableEq, Repr, Inhabited

/-- The decimal that a value sent as an amount or a rate stands for. Binary numbers are refused;
a value that is neither number nor numeral is malformed. An integer is written out and read, for
which it must not have too many digits. -/
def Datum.toDecimal : Datum → Except Error Decimal
  | .decimal d => .ok d
  | .binary _ => .error .binaryAmount
  | .whole n =>
    if Text.isWritable n then .ok (.ofInt n) else .error (.longInteger (digitCount n.natAbs))
  | .text s => liftM (Decimal.read s)
  | .absent => .error (.arithmetic .malformed)
  | .flag _ => .error (.arithmetic .malformed)
  | .compound => .error (.arithmetic .malformed)

/-- Rounds to so many decimal places, halves away from zero. -/
def quantizeMoney (value : Decimal) (decimalPlaces : Int := 2) :
    Except Decimal.Fault Decimal := do
  let e ← quantumExponent decimalPlaces
  value.quantize e

/-- A percentage of an amount, rounded to so many decimal places. The product and its hundredth
are rounded to the context first. -/
def percentageOf (amount percentage : Decimal) (decimalPlaces : Int := 2) :
    Except Decimal.Fault Decimal := do
  let product ← amount.mul percentage
  let part ← product.hundredth
  quantizeMoney part decimalPlaces

/-- An amount of money. -/
structure Money where
  amount : Decimal
  currency : Currency
  deriving DecidableEq, Repr, Inhabited

namespace Money

/-- The amount rounded to the places of the currency. -/
def of (currency : Currency) (amount : Decimal) : Except Decimal.Fault Money := do
  let rounded ← quantizeMoney amount currency.decimalPlaces
  return ⟨rounded, currency⟩

/-- `Money.of` for a value of any type. -/
def ofDatum (currency : Currency) (amount : Datum) : Except Error Money := do
  let d ← amount.toDecimal
  of currency d

/-- Refuses two amounts whose currencies have different codes. -/
def requireSameCode (expected actual : Currency) : Except Error Unit :=
  if actual.code = expected.code then .ok ()
  else .error (.currencyMismatch expected.code actual.code)

/-- The sum, rounded to the places of the first currency. -/
def plus (m n : Money) : Except Error Money := do
  requireSameCode m.currency n.currency
  let total ← m.amount.add n.amount
  of m.currency total

/-- Whether the first amount is larger. -/
def exceeds (m n : Money) : Except Error Bool := do
  requireSameCode m.currency n.currency
  n.amount.lt m.amount

end Money

end Passbook
