import Passbook.Text.Padded

/-!
# Calendar dates

Dates are compared by year, month and day. They are written with four, two and two digits.
-/

namespace Passbook

/-- A day of the calendar. -/
structure Date where
  year : Nat
  month : Nat
  day : Nat
  deriving DecidableEq, Repr, Inhabited

namespace Date

/-- Whether `a` is an earlier day than `b`. -/
def before (a b : Date) : Bool :=
  a.year < b.year ||
    (a.year == b.year && (a.month < b.month || (a.month == b.month && a.day < b.day)))

/-- Whether `a` is the day `b` or an earlier one. -/
def upTo (a b : Date) : Bool := !b.before a

/-- A transaction is backdated when it is dated before the day it is posted. -/
def isBackdated (transaction posting : Date) : Bool := transaction.before posting

/-- Whether a day lies between two others, both included; without an end every later day does. -/
def occursBetween (target start : Date) (finish : Option Date) : Bool :=
  start.upTo target && (match finish with
    | none => true
    | some last => target.upTo last)

/-- The written form, such as `2024-03-01`. -/
def toText (d : Date) : String :=
  String.ofList
    (Text.padded 4 d.year ++ '-' :: Text.padded 2 d.month ++ '-' :: Text.padded 2 d.day)

/-- Reads the written form. -/
def read? (s : String) : Option Date :=
  match s.toList with
  | [y₁, y₂, y₃, y₄, '-', m₁, m₂, '-', d₁, d₂] =>
    if [y₁, y₂, y₃, y₄, m₁, m₂, d₁, d₂].all Char.isDigit then
      some ⟨Nat.ofDigitChars 10 [y₁, y₂, y₃, y₄] 0, Nat.ofDigitChars 10 [m₁, m₂] 0,
        Nat.ofDigitChars 10 [d₁, d₂] 0⟩
    else none
  | _ => none

end Date

end Passbook
