import Passbook.Settings.Source

/-!
# References in settings

The text of an entry may name other texts: a dollar sign before a name in braces stands for the
text of that name. Entries before it in the file come first, then the environment. A reference
may give a text of its own for a name that has none, after a colon and a hyphen.
-/

namespace Passbook.Settings

/-- A name that stands for a text. -/
structure Reference where
  name : String
  /-- The text for a name that has no entry. -/
  otherwise : List Char
  deriving DecidableEq, Repr, Inhabited

namespace Reference

/-- A character of the name in a reference. -/
def isNameChar (c : Char) : Bool := c != '}' && c != ':'

/-- Reads a reference behind its opening brace, and the rest. -/
def read? (cs : List Char) : Option (Reference × List Char) :=
  let name := String.ofList (cs.takeWhile isNameChar)
  match cs.dropWhile isNameChar with
  | ':' :: '-' :: more =>
    match more.dropWhile (· != '}') with
    | [] => none
    | _ :: rest => some (⟨name, more.takeWhile (· != '}')⟩, rest)
  | '}' :: rest => some (⟨name, []⟩, rest)
  | _ => none

/-- The text that a reference stands for. An entry without a text stands for none. -/
def text (environment earlier : Source) (reference : Reference) : List Char :=
  match (earlier.named? reference.name).or (environment.named? reference.name) with
  | some entry => (entry.text.getD "").toList
  | none => reference.otherwise

theorem length_le_of_read? {cs rest : List Char} {reference : Reference}
    (h : read? cs = some (reference, rest)) : rest.length ≤ cs.length := by
  have named := Entry.length_dropWhile_le isNameChar cs
  unfold read? at h
  simp only at h
  split at h
  · rename_i more start
    have closed := Entry.length_dropWhile_le (· != '}') more
    simp only [start, List.length_cons] at named
    split at h
    · nomatch h
    · rename_i rest' close
      obtain ⟨-, rfl⟩ := Prod.mk.inj (Option.some.inj h)
      simp only [close, List.length_cons] at closed
      omega
  · rename_i rest' start
    obtain ⟨-, rfl⟩ := Prod.mk.inj (Option.some.inj h)
    simp only [start, List.length_cons] at named
    omega
  · nomatch h

/-- The text with every reference in it replaced; what is no reference stays. -/
def replaceAll (environment earlier : Source) : List Char → List Char
  | [] => []
  | [c] => [c]
  | c :: d :: cs =>
    if c == '$' && d == '{' then
      match h : read? cs with
      | some (reference, rest) =>
        have := length_le_of_read? h
        reference.text environment earlier ++ replaceAll environment earlier rest
      | none => c :: replaceAll environment earlier (d :: cs)
    else c :: replaceAll environment earlier (d :: cs)
termination_by cs => cs.length

end Reference

/-- The entry with the references in its text replaced. -/
def Entry.resolve (environment earlier : Source) (entry : Entry) : Entry :=
  { entry with
    text := entry.text.map fun text =>
      String.ofList (Reference.replaceAll environment earlier text.toList) }

/-- The entries of a settings file, one for each name where the first of that name stood, with
the references in their texts replaced. -/
def Source.ofFile (environment : Source) (contents : String) : Source :=
  (Entry.ofFile contents).foldl
    (fun earlier entry => earlier.put (entry.resolve environment earlier)) []

end Passbook.Settings
