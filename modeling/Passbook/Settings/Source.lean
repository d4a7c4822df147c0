import Passbook.Settings.Entry

/-!
# Sources of settings

A source is a list of entries. Settings are looked up in it without regard to the case of ASCII
letters, references between its entries with regard to it. The later of two entries counts.
-/

namespace Passbook.Settings

/-- Entries that settings are read from. -/
abbrev Source := List Entry

/-- A name without regard to the case of ASCII letters. -/
def folded (name : String) : String := String.ofList (name.toList.map Char.toLower)

namespace Source

/-- The entry of exactly this name. -/
def named? (source : Source) (name : String) : Option Entry :=
  source.reverse.find? fun entry => entry.name == name

/-- The text of the setting of this name, if its entry has one. -/
def text? (source : Source) (name : String) : Option String :=
  (source.reverse.find? fun entry => folded entry.name == name).bind (·.text)

/-- The source with an entry in the place of one of the same name, or else at its end. -/
def put (source : Source) (entry : Entry) : Source :=
  if source.any fun other => other.name == entry.name then
    source.map fun other => if other.name == entry.name then entry else other
  else source ++ [entry]

end Source

end Passbook.Settings
