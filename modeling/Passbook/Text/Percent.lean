import Passbook.Text.Utf8

/-!
# Percent encoding

In an address a percent sign before two hexadecimal digits stands for an octet, every other
character for its own octets. Octets that are no text are replaced.
-/

namespace Passbook.Text

/-- The value of a hexadecimal digit. -/
def hexValue? (c : Char) : Option Nat :=
  if c.isDigit then some (c.toNat - '0'.toNat)
  else if 'a' ≤ c && c ≤ 'f' then some (10 + (c.toNat - 'a'.toNat))
  else if 'A' ≤ c && c ≤ 'F' then some (10 + (c.toNat - 'A'.toNat))
  else none

/-- The octets that a text stands for. -/
def octets : List Char → List Nat
  | [] => []
  | [c] => utf8Char c
  | [c, d] => utf8Char c ++ utf8Char d
  | c :: d :: e :: rest =>
    match if c == '%' then (hexValue? d).bind fun high => (hexValue? e).map (16 * high + ·)
      else none with
    | some octet => octet :: octets rest
    | none => utf8Char c ++ octets (d :: e :: rest)

/-- Whether a character is an ASCII character. -/
def isAscii (c : Char) : Bool := c.toNat < 0x80

/-- The text with its octets in percent encoding decoded, each run of ASCII characters on its
own. -/
def percentDecoded (cs : List Char) : List Char :=
  (cs.splitBy fun c d => isAscii c == isAscii d).flatMap fun run =>
    if run.all isAscii then decodeUtf8 (octets run) else run

example : percentDecoded "%E2%82%ac%41%".toList = "€A%".toList := by decide +kernel

end Passbook.Text
