import Passbook.Datum
import Passbook.Decimal.Order
import Passbook.MachineWord
import Passbook.Request.Rejection
import Passbook.Split

/-!
# Fields of a request

A request for a change names the fields to change and their new values. A field is sent under its
label or under its own name; with both, the label counts and the name is an unknown key. Each
field is read on its own, so that all rejected fields are reported together.
-/

namespace Passbook

/-- Named values as a caller sent them. -/
abbrev Request := List (String × Datum)

namespace Request

/-- The value sent under a key. -/
def value? (request : Request) (key : String) : Option Datum :=
  (request.find? fun entry => entry.1 == key).map (·.2)

/-- A field that a request may have. -/
structure Field where
  /-- The key that callers use. -/
  label : String
  /-- The name of the field itself. -/
  name : String
  deriving DecidableEq, Repr, Inhabited

namespace Field

/-- The key under which a field was sent, with its value. -/
def sent? (field : Field) (request : Request) : Option (String × Datum) :=
  match request.value? field.label with
  | some datum => some (field.label, datum)
  | none => (request.value? field.name).map fun datum => (field.name, datum)

/-- Reads a field that must have a value when it is sent. -/
def required {α : Type} (field : Field) (read : Datum → Except Reason α) (request : Request) :
    Except Rejection (Option α) :=
  match field.sent? request with
  | none => .ok none
  | some (key, .absent) => .error ⟨key, .absent⟩
  | some (key, datum) =>
    match read datum with
    | .ok a => .ok (some a)
    | .error reason => .error ⟨key, reason⟩

/-- Reads a field that may be sent without a value, which is then its new value. -/
def optional {α : Type} (field : Field) (read : Datum → Except Reason α) (request : Request) :
    Except Rejection (Option (Option α)) :=
  match field.sent? request with
  | none => .ok none
  | some (_, .absent) => .ok (some none)
  | some (key, datum) =>
    match read datum with
    | .ok a => .ok (some (some a))
    | .error reason => .error ⟨key, reason⟩

end Field

/-- The keys of a request that none of the fields was sent under. -/
def unknownKeys (fields : List Field) (request : Request) : List Rejection :=
  let known := fields.filterMap fun field => (field.sent? request).map (·.1)
  (request.filter fun entry => !known.contains entry.1).map fun entry => ⟨entry.1, .unknownKey⟩

/-- Refuses infinities and values that are no numbers. -/
def requireFinite (d : Decimal) : Except Reason Decimal :=
  if d.isFinite then .ok d else .error .notFinite

/-- Reads a finite decimal from a numeral or a number of any type. -/
def readDecimal : Datum → Except Reason Decimal
  | .text s =>
    match Decimal.read s with
    | .ok d => requireFinite d
    | .error _ => .error .notDecimalText
  | .whole n => .ok (.ofInt n)
  | .binary b => requireFinite b.toDecimal
  | .decimal d => requireFinite d
  | .absent => .error .notDecimal
  | .flag _ => .error .notDecimal
  | .compound => .error .notDecimal

/-- Reads a finite decimal that is not below zero. -/
def readNonNegative (datum : Datum) : Except Reason Decimal :=
  match readDecimal datum with
  | .error reason => .error reason
  | .ok d =>
    match (0 : Decimal).le d with
    | .ok true => .ok d
    | _ => .error .negative

/-- Reads a text. -/
def readText : Datum → Except Reason String
  | .text s => .ok s
  | _ => .error .notText

/-- Reads a text that is not empty. -/
def readNonEmptyText (datum : Datum) : Except Reason String :=
  match readText datum with
  | .error reason => .error reason
  | .ok s => if s.isEmpty then .error .emptyText else .ok s

/-- Reads the name of a kind of split. -/
def readKind : Datum → Except Reason SplitKind
  | .text s =>
    match SplitKind.ofName? s with
    | some kind => .ok kind
    | none => .error .notKind
  | _ => .error .notKind

/-- The words for yes, in lower case. -/
def wordsForTrue : List String := ["1", "on", "t", "true", "y", "yes"]

/-- The words for no, in lower case. -/
def wordsForFalse : List String := ["0", "off", "f", "false", "n", "no"]

/-- The truth value of a whole number: zero is false and one is true. -/
def flagOfInt? (n : Int) : Option Bool :=
  if n = 0 then some false else if n = 1 then some true else none

/-- Reads a truth value from a whole number that has room in a machine word. -/
def readWholeFlag (n : Int) : Except Reason Bool :=
  if fitsWord n then
    match flagOfInt? n with
    | some flag => .ok flag
    | none => .error .notFlagText
  else .error .notFlag

/-- Reads a truth value from a binary number, which must be whole and less than `2 ^ 63` in
absolute value. -/
def readBinaryFlag (b : Binary64) : Except Reason Bool :=
  match b.toInt? with
  | some n =>
    if n.natAbs < Nat.pow 2 63 then
      match flagOfInt? n with
      | some flag => .ok flag
      | none => .error .notFlagText
    else .error .notFlag
  | none => .error .notFlag

/-- Reads a truth value: itself, zero or one in any numeric type, or a word in any case. -/
def readFlag : Datum → Except Reason Bool
  | .flag b => .ok b
  | .text s =>
    let word := String.ofList (s.toList.map Char.toLower)
    if wordsForTrue.contains word then .ok true
    else if wordsForFalse.contains word then .ok false
    else .error .notFlagText
  | .whole n => readWholeFlag n
  | .binary b => readBinaryFlag b
  | .decimal d =>
    match Binary64.ofDecimal? d with
    | some b => readBinaryFlag b
    | none => .error .notFlag
  | .absent => .error .notFlag
  | .compound => .error .notFlag

end Request

end Passbook
