import Passbook.Connection.FileTree
import Passbook.Error

/-!
# Where a file database is kept

A file database is kept in memory or in the file at a path. A new file is made where there is
none, and a directory for it must be there.
-/

namespace Passbook.Location

/-- Octets that are kept free behind the name of a database, for the names of files beside it. -/
def spareSize : Nat := 8

/-- Whether a file for a database can be made at a place where nothing is. -/
def canCreate (place : Place) : Bool :=
  match place with
  | [] => false
  | name :: directory =>
    FileTree.takesFiles directory && name.length + spareSize ≤ FileTree.maxNameSize

/-- Checks that a database can be opened at a place, where a file may be made or not. -/
def requireUsablePlace (mayCreate : Bool) (place : Place) : Except Error Unit :=
  match FileTree.node? place with
  | some .device => .ok ()
  | some .foreign => .error .foreignFile
  | some _ => .error .unopenableFile
  | none => if mayCreate && canCreate place then .ok () else .error .unopenableFile

/-- Checks that a database can be opened at a path. -/
def requireUsable (mayCreate : Bool) (path : FilePath) : Except Error Unit :=
  match FileTree.place? path with
  | none => .error .unopenableFile
  | some place =>
    if place.size + spareSize ≤ FileTree.maxPlaceSize then requireUsablePlace mayCreate place
    else .error .unopenableFile

/-- Whether a path stands for a database in memory, or in a file that is removed after use. -/
def isMemory (path : List Nat) : Bool := path.isEmpty || path == Text.utf8 ":memory:"

/-- Most octets in the name of a database that is kept in memory under a name, with those that are
kept free. -/
def maxMemoryNameSize : Nat := 1024

/-- Checks the name of a database that is kept in memory under it. -/
def requireMemoryName (name : List Nat) : Except Error Unit :=
  if name.length + spareSize ≤ maxMemoryNameSize then .ok () else .error .unopenableFile

end Passbook.Location
