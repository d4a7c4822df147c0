import Passbook.Text.Utf8

/-!
# Paths of files

Files stand in directories, which stand in each other below a root. A path gives the names on the
way to a file, from the root or from some other directory. A name is a sequence of octets, and two
names have a meaning of their own: one stands for the directory itself and one for the directory
above.
-/

namespace Passbook

/-- A name in a directory. -/
abbrev FileName := List Nat

/-- A place, as the names that lead to it from the root, the last one first. -/
abbrev Place := List FileName

namespace Place

/-- The octet before each name. -/
def slash : Nat := 0x2F

/-- The octets of a place, written as a path. -/
def octets (place : Place) : List Nat := place.reverse.flatMap (slash :: ·)

/-- The number of octets of a place. -/
def size (place : Place) : Nat := place.octets.length

end Place

/-- A path of a file. -/
structure FilePath where
  /-- Whether the path starts at the root. -/
  fromRoot : Bool := false
  names : List FileName
  deriving DecidableEq, Repr, Inhabited

namespace FilePath

/-- The name of a directory itself. -/
def here : FileName := Text.utf8 "."

/-- The name of the directory above. -/
def above : FileName := Text.utf8 ".."

/-- Reads a path. If it ends in a slash, it leads to a directory. -/
def read (path : List Nat) : FilePath :=
  { fromRoot := path.head? == some Place.slash
    names :=
      (path.splitOn Place.slash).filter (!·.isEmpty) ++
        if path.getLast? == some Place.slash then [here] else [] }

/-- Where a path starts if it is met in a directory. -/
def start (path : FilePath) (directory : Place) : Place :=
  if path.fromRoot then [] else directory

/-- The place behind a name if there are no links. The root is above itself. -/
def plainStep (place : Place) (name : FileName) : Place :=
  if name == here then place
  else if name == above then place.tail
  else name :: place

/-- The path from the root that leads to the same place if there are no links. -/
def simplified (path : FilePath) (directory : Place) : FilePath :=
  { fromRoot := true
    names := (path.names.foldl plainStep (path.start directory)).reverse }

example : (read (Text.utf8 "../a/./b/")).simplified [] = read (Text.utf8 "/a/b") := by
  decide +kernel

end FilePath

end Passbook
