import Passbook.Text.Percent

/-!
# Parameters of an address

An address may end in named values. Ampersands part them, an equals sign parts a value from its
name, and both may be written in percent encoding, with plus signs for spaces. A name may have
several values; one without a value is left out.
-/

namespace Passbook

/-- Named values, in order. -/
abbrev Parameters := List (String × String)

namespace Parameters

/-- The characters that a name or a value stands for. -/
def decoded (cs : List Char) : String :=
  String.ofList (Text.percentDecoded (cs.map fun c => if c == '+' then ' ' else c))

/-- Reads a name with its value, if it has one. -/
def readOne? (cs : List Char) : Option (String × String) :=
  match cs.dropWhile (· != '=') with
  | '=' :: c :: value => some (decoded (cs.takeWhile (· != '=')), decoded (c :: value))
  | _ => none

/-- Reads all parameters. -/
def read (cs : List Char) : Parameters := (cs.splitOn '&').filterMap readOne?

/-- The values of a name. -/
def values (parameters : Parameters) (name : String) : List String :=
  (parameters.filter fun parameter => parameter.1 == name).map (·.2)

/-- The parameters whose names are none of those given. -/
def without (parameters : Parameters) (names : List String) : Parameters :=
  parameters.filter fun parameter => !names.contains parameter.1

example : read "a=1&b&c=&a=x+%41".toList = [("a", "1"), ("a", "x A")] := by decide +kernel

end Parameters

end Passbook
