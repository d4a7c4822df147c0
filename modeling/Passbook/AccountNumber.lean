import Passbook.Error
import Passbook.Text.Integer
import Passbook.Text.Padded

/-!
# Account numbers

An account number has ten digits: the two digits of the product's account series, the sequence
number in seven digits, and a check digit. The check digit is computed over fifteen digits, the
digit nine, the institution's code and the first nine digits of the account number.
-/

namespace Passbook.AccountNumber

/-- Weights of the fifteen digits under the check digit. -/
def weights : List Nat := [3, 7, 3, 3, 7, 3, 3, 7, 3, 3, 7, 3, 3, 7, 3]

/-- Number of digits of an institution's code. -/
def institutionCodeLength : Nat := 5

/-- The digit before an institution's code. -/
def institutionLead : Char := '9'

/-- Number of digits of an account series. -/
def seriesLength : Nat := 2

/-- Number of digits of a serial, an account series with a sequence number. -/
def serialLength : Nat := 9

/-- Whether a text is `n` ASCII digits. -/
def isDigits (n : Nat) (s : String) : Bool :=
  s.toList.length == n && s.toList.all Char.isDigit

/-- The value of a digit. -/
def digitValue (c : Char) : Nat := c.toNat - '0'.toNat

/-- The sum of the digits, each multiplied by the weight at its place. -/
def weightedSum (digits : List Char) : Nat :=
  (digits.zip weights).foldr (fun (c, w) total => digitValue c * w + total) 0

/-- The digit that fills a sum up to a multiple of ten. -/
def complement (sum : Nat) : Nat := (10 - sum % 10) % 10

/-- The check digit of fifteen digits. -/
def checkDigit (base : String) : Except Error Nat :=
  if isDigits weights.length base then .ok (complement (weightedSum base.toList))
  else .error (.checksumBase base)

/-- The serial of a series and a sequence number, which fills it up to nine digits. The sequence
number is written out, in the serial or in the report that it is not positive, for which it must
not have too many digits. -/
def serial (product : Int) (series : String) (sequence : Int) : Except Error String :=
  let width : Int := serialLength - series.toList.length
  if 1 ≤ sequence ∧ width < 0 then .error (.negativeWidth width)
  else if !Text.isWritable sequence then .error (.longInteger (digitCount sequence.natAbs))
  else if sequence < 1 then .error (.sequenceNotPositive sequence)
  else
    let digits := Text.padded width.toNat sequence.toNat
    if width < digits.length then .error (.sequenceOverflow product sequence width)
    else .ok (series ++ String.ofList digits)

/-- The digits of the institution under the check digit. -/
def institutionSegment : Option String → Except Error String
  | none => .error (.institutionCodeMissing none)
  | some code =>
    if isDigits institutionCodeLength code then .ok (String.ofList [institutionLead] ++ code)
    else .error (.institutionCodeMissing (some code))

/-- The account series found for a product. -/
def seriesOf (product : Int) : Option String → Except Error String
  | none => .error (.accountSeriesMissing product none)
  | some series =>
    if isDigits seriesLength series then .ok series
    else .error (.accountSeriesMissing product (some series))

/-- The account number of a series and a sequence number in an institution. -/
def assemble (segment series : String) (product sequence : Int) : Except Error String := do
  let serial ← serial product series sequence
  let digit ← checkDigit (segment ++ serial)
  return serial ++ toString digit

/-- The account number of a product's sequence number. The series is looked up once, and only
for an institution with a valid code. -/
def synthesize {m : Type → Type} [Monad m] (institution : Option String)
    (lookup : Int → m (Option String)) (product sequence : Int) : m (Except Error String) :=
  match institutionSegment institution with
  | .error e => pure (.error e)
  | .ok segment => do
    let found ← lookup product
    pure (seriesOf product found >>= fun series => assemble segment series product sequence)

/-- A lookup that notes the products it was asked for. -/
def recording (lookup : Int → Option String) (product : Int) :
    StateM (List Int) (Option String) := fun asked => (lookup product, asked ++ [product])

end Passbook.AccountNumber
