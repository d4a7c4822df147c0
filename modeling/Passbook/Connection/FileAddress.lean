import Passbook.Connection.Location
import Passbook.Text.Percent

/-!
# Addresses of files

A file may have an address of its own, with a host, which can only be the local one, a path and
parameters. All of it may be written in percent encoding; a null octet ends the path, the name or
the value in which it stands. The parameters say how the file is opened.
-/

namespace Passbook

/-- An address of a file. -/
structure FileAddress where
  path : List Nat
  parameters : List (List Nat × List Nat) := []
  deriving DecidableEq, Repr, Inhabited

namespace FileAddress

/-- The octets of a part of an address. -/
def decoded (cs : List Char) : List Nat := (Text.octets cs).takeWhile (· != 0)

/-- The address after the host, if that is the local one. -/
def afterHost? (cs : List Char) : Option (List Char) :=
  match cs with
  | '/' :: '/' :: rest =>
    let host := rest.takeWhile (· != '/')
    if host.isEmpty || host == "localhost".toList then some (rest.dropWhile (· != '/')) else none
  | _ => some cs

/-- Reads a parameter, which has a name and may lack a value. -/
def readParameter? (cs : List Char) : Option (List Nat × List Nat) :=
  let name := decoded (cs.takeWhile (· != '='))
  if name.isEmpty then none else some (name, decoded ((cs.dropWhile (· != '=')).drop 1))

/-- Reads an address up to a number sign. -/
def read? (cs : List Char) : Option FileAddress :=
  (afterHost? cs).map fun rest =>
    let rest := rest.takeWhile (· != '#')
    { path := decoded (rest.takeWhile (· != '?'))
      parameters :=
        (((rest.dropWhile (· != '?')).drop 1).splitOn '&').filterMap readParameter? }

/-- How a file is opened. -/
inductive Mode where
  | readOnly
  | readWrite
  /-- For reading and writing; a file is made where there is none. -/
  | create
  | memory
  deriving DecidableEq, Repr, Inhabited

/-- Modes by their names. -/
def Mode.named : List (String × Mode) :=
  [("ro", readOnly), ("rw", readWrite), ("rwc", create), ("memory", memory)]

/-- The mode of a name. -/
def Mode.ofName? (name : List Nat) : Option Mode :=
  (named.find? fun entry => Text.utf8 entry.1 == name).map (·.2)

/-- How much a mode allows. Memory allows everything. -/
def Mode.allowed : Mode → Nat
  | readOnly => 1
  | readWrite => 2
  | create => 3
  | memory => 3

/-- How much a mode must be allowed by the one before it. -/
def Mode.needed : Mode → Nat
  | memory => 0
  | mode => mode.allowed

/-- What parameters ask for. -/
structure Access where
  mode : Mode := .create
  fileSystem : Option (List Nat) := none
  deriving DecidableEq, Repr, Inhabited

/-- Ways of keeping pages. -/
def cacheModes : List String := ["shared", "private"]

/-- Systems of files. -/
def fileSystems : List String := ["unix", "unix-none", "unix-dotfile", "unix-excl", "memdb"]

/-- The error of a value that names nothing, reported behind a text. If the value is no text, that
is the error. -/
def refused (reason : String) (value : List Nat) : Error :=
  match Text.octetFault? (Text.utf8 reason ++ value) with
  | some fault => .undecodable fault
  | none => .unopenableFile

/-- Takes a parameter over. No mode allows more than the one before it. -/
def Access.take (access : Access) (parameter : List Nat × List Nat) : Except Error Access :=
  let (name, value) := parameter
  if name == Text.utf8 "vfs" then .ok { access with fileSystem := some value }
  else if name == Text.utf8 "cache" then
    if (cacheModes.map Text.utf8).contains value then .ok access
    else .error (refused "no such cache mode: " value)
  else if name == Text.utf8 "mode" then
    match Mode.ofName? value with
    | none => .error (refused "no such access mode: " value)
    | some mode =>
      if access.mode.allowed < mode.needed then .error .unopenableFile
      else .ok { access with mode }
  else .ok access

/-- What the parameters ask for together. The system of files must exist. -/
def access (address : FileAddress) : Except Error Access := do
  let access ← address.parameters.foldlM Access.take {}
  match access.fileSystem with
  | none => return access
  | some name =>
    if (fileSystems.map Text.utf8).contains name then return access
    else throw (refused "no such vfs: " name)

/-- Whether the file that gives a new one its permissions is there, if one is named. -/
def hasModel (address : FileAddress) : Bool :=
  match address.parameters.lookup (Text.utf8 "modeof") with
  | none => true
  | some path => FileTree.isThere path

/-- Checks that a database can be opened at the address. -/
def requireUsable (address : FileAddress) : Except Error Unit := do
  let access ← address.access
  if access.mode = .memory || Location.isMemory address.path then return ()
  if access.fileSystem = some (Text.utf8 "memdb") then
    Location.requireMemoryName address.path
  else
    if !address.hasModel then throw .unopenableFile
    Location.requireUsable (access.mode = .create) (FilePath.read address.path)

/-- Checks that a database can be opened at a path that may be an address. -/
def requireUsableText (text : String) : Except Error Unit :=
  match text.toList with
  | 'f' :: 'i' :: 'l' :: 'e' :: ':' :: rest =>
    match read? rest with
    | none => .error .unopenableFile
    | some address => address.requireUsable
  | _ => requireUsable { path := Text.utf8 text }

end FileAddress

end Passbook
