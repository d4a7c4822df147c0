import Passbook.Text.Blank

/-!
# Entries of a settings file

An entry is a name, or a name and a text with an equals sign between them. It ends with its line,
and a comment may stand before that end. A text between quotes may hold any characters, and may
run over several lines; a plain text ends before a comment that follows a blank. What is no entry
is passed over to the end of its line.
-/

namespace Passbook.Settings

/-- A name with a text, or a name alone. -/
structure Entry where
  name : String
  text : Option String
  deriving DecidableEq, Repr, Inhabited

namespace Entry

/-- A blank that does not end a line. -/
def isInlineBlank (c : Char) : Bool := Text.isBlankOrSeparator c && c != '\n'

/-- The characters after the end of the line. -/
def afterLine (cs : List Char) : List Char := (cs.dropWhile (· != '\n')).drop 1

/-- Whether nothing but a comment stands before the end of the line. -/
def endsLine (cs : List Char) : Bool :=
  match cs.dropWhile isInlineBlank with
  | [] => true
  | c :: _ => c == '\n' || c == '#'

/-- An entry may be marked for export, which changes nothing. -/
def afterExport (cs : List Char) : List Char :=
  match cs with
  | 'e' :: 'x' :: 'p' :: 'o' :: 'r' :: 't' :: c :: rest =>
    if isInlineBlank c then rest.dropWhile isInlineBlank else cs
  | _ => cs

/-- A character of a name without quotes. -/
def isNameChar (c : Char) : Bool := c != '=' && c != '#' && !Text.isBlankOrSeparator c

/-- The characters up to the next single quote, and the rest after it. -/
def quotedName? (cs : List Char) : Option (List Char × List Char) :=
  match cs.dropWhile (· != '\'') with
  | [] => none
  | _ :: rest => some (cs.takeWhile (· != '\''), rest)

/-- A name, which may stand between single quotes, and the rest. No name is empty. -/
def name? (cs : List Char) : Option (List Char × List Char) :=
  let found := match cs with
    | '\'' :: quoted => quotedName? quoted
    | _ => some (cs.takeWhile isNameChar, cs.dropWhile isNameChar)
  found.filter fun (name, _) => !name.isEmpty

/-- The text up to the quote that closes it, and the rest. A backslash and the character behind it
belong to the text, whatever this character is. -/
def closed? (quote : Char) : List Char → Option (List Char × List Char)
  | [] => none
  | [c] => if c == quote then some ([], []) else none
  | c :: d :: rest =>
    if c == quote then some ([], d :: rest)
    else if c == '\\' then (closed? quote rest).map fun (text, after) => (c :: d :: text, after)
    else (closed? quote (d :: rest)).map fun (text, after) => (c :: text, after)

/-- What a character stands for behind a backslash between single quotes. -/
def literalEscapes : List (Char × Char) := [('\\', '\\'), ('\'', '\'')]

/-- What a character stands for behind a backslash between double quotes. -/
def controlEscapes : List (Char × Char) :=
  literalEscapes ++ [('"', '"'), ('a', '\x07'), ('b', '\x08'), ('f', '\x0c'), ('n', '\n'),
    ('r', '\r'), ('t', '\t'), ('v', '\x0b')]

/-- The text with each escaped character in place of its escape; other backslashes stay. -/
def unescape (escapes : List (Char × Char)) : List Char → List Char
  | [] => []
  | [c] => [c]
  | c :: d :: rest =>
    match if c == '\\' then escapes.lookup d else none with
    | some e => e :: unescape escapes rest
    | none => c :: unescape escapes (d :: rest)

/-- The characters before a comment, which starts with a number sign behind a blank. -/
def beforeComment : List Char → List Char
  | [] => []
  | [c] => [c]
  | c :: d :: rest =>
    if Text.isBlankOrSeparator c && d == '#' then [] else c :: beforeComment (d :: rest)

/-- A text that ends at a quote, and the rest. -/
def quoted? (quote : Char) (escapes : List (Char × Char)) (cs : List Char) :
    Option (List Char × List Char) :=
  match closed? quote cs with
  | some (text, rest) => some (unescape escapes text, rest)
  | none => none

/-- The text of an entry after the equals sign, and the rest; none if a quote is not closed. -/
def text? (cs : List Char) : Option (List Char × List Char) :=
  match cs.dropWhile isInlineBlank with
  | '\'' :: quoted => quoted? '\'' literalEscapes quoted
  | '"' :: quoted => quoted? '"' controlEscapes quoted
  | _ =>
    some (Text.trim Text.isBlankOrSeparator (beforeComment (cs.takeWhile (· != '\n'))),
      cs.dropWhile (· != '\n'))

/-- What follows the name of an entry, a text or nothing, and the rest. -/
def assigned? (cs : List Char) : Option (Option (List Char) × List Char) :=
  match cs.dropWhile isInlineBlank with
  | '=' :: rest =>
    match text? rest with
    | some (text, rest) => some (some text, rest)
    | none => none
  | rest => some (none, rest)

/-- Reads one entry, if there is one, and passes to the next line. -/
def next (cs : List Char) : Option Entry × List Char :=
  let cs := afterExport cs
  match name? cs with
  | none => (none, afterLine cs)
  | some (name, rest) =>
    match assigned? rest with
    | none => (none, afterLine rest)
    | some (text, rest) =>
      let entry : Entry := ⟨String.ofList name, text.map String.ofList⟩
      (if endsLine rest then some entry else none, afterLine rest)

theorem length_dropWhile_le (p : Char → Bool) (cs : List Char) :
    (cs.dropWhile p).length ≤ cs.length := (List.dropWhile_suffix p).length_le

theorem length_afterExport_le (cs : List Char) : (afterExport cs).length ≤ cs.length := by
  unfold afterExport
  split
  · rename_i c rest
    split
    · have := length_dropWhile_le isInlineBlank rest
      simp only [List.length_cons]
      omega
    · exact Nat.le_refl _
  · exact Nat.le_refl _

theorem length_le_of_closed? {quote : Char} {cs text rest : List Char}
    (h : closed? quote cs = some (text, rest)) : rest.length ≤ cs.length := by
  fun_induction closed? quote cs generalizing text rest <;> grind [Option.map_eq_some_iff]

theorem length_le_of_quoted? {quote : Char} {escapes : List (Char × Char)}
    {cs text rest : List Char} (h : quoted? quote escapes cs = some (text, rest)) :
    rest.length ≤ cs.length := by
  unfold quoted? at h
  split at h
  · rename_i closed
    obtain ⟨-, rfl⟩ := Prod.mk.inj (Option.some.inj h)
    exact length_le_of_closed? closed
  · nomatch h

theorem length_le_of_quotedName? {cs name rest : List Char}
    (h : quotedName? cs = some (name, rest)) : rest.length ≤ cs.length := by
  have quoted := length_dropWhile_le (· != '\'') cs
  grind [quotedName?]

theorem length_le_of_name? {cs name rest : List Char} (h : name? cs = some (name, rest)) :
    rest.length ≤ cs.length := by
  obtain ⟨found, _⟩ := Option.filter_eq_some_iff.mp h
  split at found
  · have := length_le_of_quotedName? found
    simp only [List.length_cons]
    omega
  · obtain ⟨-, rfl⟩ := Prod.mk.inj (Option.some.inj found)
    exact length_dropWhile_le isNameChar cs

theorem length_le_of_text? {cs text rest : List Char} (h : text? cs = some (text, rest)) :
    rest.length ≤ cs.length := by
  have blanks := length_dropWhile_le isInlineBlank cs
  unfold text? at h
  split at h
  · rename_i quoted start
    have := length_le_of_quoted? h
    simp only [start, List.length_cons] at blanks
    omega
  · rename_i quoted start
    have := length_le_of_quoted? h
    simp only [start, List.length_cons] at blanks
    omega
  · obtain ⟨-, rfl⟩ := Prod.mk.inj (Option.some.inj h)
    exact length_dropWhile_le (· != '\n') cs

theorem length_le_of_assigned? {cs rest : List Char} {text : Option (List Char)}
    (h : assigned? cs = some (text, rest)) : rest.length ≤ cs.length := by
  have blanks := length_dropWhile_le isInlineBlank cs
  unfold assigned? at h
  split at h
  · rename_i after start
    simp only [start, List.length_cons] at blanks
    split at h
    · rename_i text rest found
      have := length_le_of_text? found
      obtain ⟨-, rfl⟩ := Prod.mk.inj (Option.some.inj h)
      omega
    · nomatch h
  · obtain ⟨-, rfl⟩ := Prod.mk.inj (Option.some.inj h)
    exact blanks

/-- Passing to the next line uses up a character, if there is one. -/
theorem length_afterLine_lt {cs text : List Char} (h : cs.length ≤ text.length)
    (nonempty : text ≠ []) : (afterLine cs).length < text.length := by
  have := List.length_pos_iff.mpr nonempty
  have := length_dropWhile_le (· != '\n') cs
  simp only [afterLine, List.length_drop]
  omega

theorem length_next_lt {cs : List Char} (nonempty : cs ≠ []) :
    (next cs).2.length < cs.length := by
  have exported := length_afterExport_le cs
  unfold next
  simp only
  split
  · exact length_afterLine_lt exported nonempty
  · rename_i name rest named
    have named := length_le_of_name? named
    split
    · exact length_afterLine_lt (by omega) nonempty
    · rename_i text rest assigned
      have assigned := length_le_of_assigned? assigned
      exact length_afterLine_lt (by omega) nonempty

/-- An entry behind blanks is read from fewer characters than there are with the blanks. -/
theorem length_next_lt_of_blanks {cs rest : List Char} {c : Char}
    (h : cs.dropWhile Text.isBlankOrSeparator = c :: rest) :
    (next (c :: rest)).2.length < cs.length := by
  have shorter := length_next_lt (List.cons_ne_nil c rest)
  have blanks := length_dropWhile_le Text.isBlankOrSeparator cs
  rw [h] at blanks
  omega

/-- All entries of a text whose lines end in a line feed. -/
def all (cs : List Char) : List Entry :=
  match h : cs.dropWhile Text.isBlankOrSeparator with
  | [] => []
  | c :: rest =>
    have := length_next_lt_of_blanks h
    let step := next (c :: rest)
    step.1.toList ++ all step.2
termination_by cs.length

/-- The text with every end of a line written as a line feed. -/
def withLineFeeds : List Char → List Char
  | [] => []
  | '\r' :: '\n' :: rest => '\n' :: withLineFeeds rest
  | c :: rest => (if c == '\r' then '\n' else c) :: withLineFeeds rest

/-- The entries of a settings file, which may open with a byte order mark. -/
def ofFile (contents : String) : List Entry :=
  match withLineFeeds contents.toList with
  | '\uFEFF' :: rest => all rest
  | cs => all cs

end Entry

end Passbook.Settings
