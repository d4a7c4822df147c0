/-!
# Texts as octets

A character is written in one to four octets. Octets that are no such writing have a fault where
they cease to be one: at an octet that starts no character, or behind octets that could start one
and do not go on, because another octet follows or none.
-/

namespace Passbook.Text

/-- The octets of a character. -/
def utf8Char (c : Char) : List Nat := (String.utf8EncodeChar c).map UInt8.toNat

/-- The octets of a text. -/
def utf8 (s : String) : List Nat := s.toList.flatMap utf8Char

/-- The least and the largest octet at each place of a character behind its first octet. -/
def continuations (first : Nat) : List (Nat × Nat) :=
  let any := (0x80, 0xBF)
  if first < 0xC2 || 0xF4 < first then []
  else if first < 0xE0 then [any]
  else if first == 0xE0 then [(0xA0, 0xBF), any]
  else if first == 0xED then [(0x80, 0x9F), any]
  else if first < 0xF0 then [any, any]
  else if first == 0xF0 then [(0x90, 0xBF), any, any]
  else if first < 0xF4 then [any, any, any]
  else [(0x80, 0x8F), any, any]

/-- The octets at the start that fit the places in turn. -/
def fitting : List (Nat × Nat) → List Nat → List Nat
  | (least, largest) :: places, octet :: rest =>
    if least ≤ octet && octet ≤ largest then octet :: fitting places rest else []
  | _, _ => []

/-- The code point of a character of several octets, whose last six bits count, and of the first
one those below its length mark. -/
def codePoint (first : Nat) (others : List Nat) : Nat :=
  others.foldl (fun n octet => 64 * n + octet % 64) (first % Nat.pow 2 (6 - others.length))

/-- Why octets are no text. -/
inductive OctetFault.Reason where
  /-- The octet starts no character. -/
  | start
  /-- The octets start a character and do not go on with it. -/
  | continuation
  /-- The octets start a character, and nothing follows. -/
  | unfinished
  deriving DecidableEq, Repr, Inhabited

/-- Octets that are no text. -/
structure OctetFault where
  /-- Number of octets before them. -/
  position : Nat
  /-- Number of octets that could start a character, at least one. -/
  size : Nat
  first : Nat
  reason : OctetFault.Reason
  deriving DecidableEq, Repr, Inhabited

/-- The first character of octets, or the fault in its place, and the rest. Nothing is read of no
octets. -/
def readCharacter? (position : Nat) (octets : List Nat) :
    Option (Except OctetFault Char × List Nat) :=
  match octets with
  | [] => none
  | first :: rest =>
    let places := continuations first
    let others := fitting places rest
    let fault (reason : OctetFault.Reason) : Except OctetFault Char :=
      .error ⟨position, 1 + others.length, first, reason⟩
    let character :=
      if first < 0x80 then .ok (Char.ofNat first)
      else if places.isEmpty then fault .start
      else if others.length == places.length then .ok (Char.ofNat (codePoint first others))
      else if others.length == rest.length then fault .unfinished
      else fault .continuation
    some (character, rest.drop others.length)

theorem length_lt_of_readCharacter? {position : Nat} {octets rest : List Nat}
    {character : Except OctetFault Char}
    (h : readCharacter? position octets = some (character, rest)) :
    rest.length < octets.length := by
  unfold readCharacter? at h
  split at h
  · nomatch h
  · obtain ⟨-, rfl⟩ := Prod.mk.inj (Option.some.inj h)
    simp only [List.length_drop, List.length_cons]
    omega

/-- All characters of octets, and the faults between them. -/
def readCharacters (position : Nat) (octets : List Nat) : List (Except OctetFault Char) :=
  match h : readCharacter? position octets with
  | none => []
  | some (character, rest) =>
    have := length_lt_of_readCharacter? h
    character :: readCharacters (position + (octets.length - rest.length)) rest
termination_by octets.length

/-- The text of octets, with a replacement character for each fault. -/
def decodeUtf8 (octets : List Nat) : List Char :=
  (readCharacters 0 octets).map fun
    | .ok c => c
    | .error _ => '\uFFFD'

/-- The first fault of octets. -/
def octetFault? (octets : List Nat) : Option OctetFault :=
  (readCharacters 0 octets).findSome? fun
    | .ok _ => none
    | .error fault => some fault

example : decodeUtf8 [0xE2, 0x82, 0xAC, 0xE2, 0x82, 0x78] = ['€', '\uFFFD', 'x'] := by
  decide +kernel

example : octetFault? [0x78, 0xE2, 0x82] = some ⟨1, 2, 0xE2, .unfinished⟩ := by decide +kernel

end Passbook.Text
