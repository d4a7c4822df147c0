import Passbook.Connection.FilePath

/-!
# The tree of files

Directories hold files, devices, links and further directories. Only what is in every tree is
here, and one directory to work in. Names are followed in two ways. Strictly, each of them must be
there, behind a directory. Loosely, only a link must be there, and a name that leads above takes
back the name before it, which may be missing; but nothing is above the root.
-/

namespace Passbook

/-- What stands at a place. -/
inductive FileNode where
  /-- A directory, which may take new files. -/
  | directory (takesFiles : Bool)
  /-- A device, which takes everything and gives nothing back. -/
  | device
  /-- A file that is no database. -/
  | foreign
  /-- Something that cannot be read and written as a file can. -/
  | closed
  /-- An open stream, which counts as a link to a place where nothing is. -/
  | stream
  /-- A link, which stands for the path in it. -/
  | link (target : String)
  deriving DecidableEq, Repr, Inhabited

namespace FileTree

/-- The same node for each path. -/
def nodes (node : FileNode) (paths : List String) : List (String × FileNode) :=
  paths.map fun path => (path, node)

/-- The directory to work in. -/
def workingPath : String := "/work"

/-- Directories. -/
def directories : List (String × FileNode) :=
  nodes (.directory true) ["", workingPath, "/boot", "/dev", "/dev/shm", "/etc", "/home", "/media",
    "/mnt", "/opt", "/root", "/run", "/run/lock", "/srv", "/tmp", "/usr", "/usr/bin", "/usr/games",
    "/usr/include", "/usr/lib", "/usr/lib64", "/usr/local", "/usr/local/bin", "/usr/local/etc",
    "/usr/local/games", "/usr/local/include", "/usr/local/lib", "/usr/local/sbin",
    "/usr/local/share", "/usr/local/src", "/usr/sbin", "/usr/share", "/usr/src", "/var",
    "/var/backups", "/var/cache", "/var/lib", "/var/local", "/var/log", "/var/mail", "/var/opt",
    "/var/spool", "/var/tmp"] ++
  nodes (.directory false) ["/dev/mqueue", "/dev/pts", "/proc", "/proc/1", "/proc/1/fd",
    "/proc/1/task", "/proc/1/task/1", "/proc/1/task/1/fd", "/proc/sys", "/sys", "/sys/class",
    "/sys/dev", "/sys/devices", "/sys/fs", "/sys/kernel"]

/-- Files, devices and streams. -/
def files : List (String × FileNode) :=
  nodes .device ["/dev/full", "/dev/null", "/dev/random", "/dev/urandom", "/dev/zero"] ++
  nodes .foreign ["/etc/group", "/etc/hostname", "/etc/hosts", "/etc/passwd", "/etc/resolv.conf",
    "/etc/shadow", "/usr/bin/bash", "/usr/bin/dash", "/usr/bin/env", "/usr/bin/passwd",
    "/usr/lib/os-release"] ++
  nodes .closed ["/dev/ptmx", "/dev/tty", "/proc/1/cmdline", "/proc/1/environ", "/proc/1/maps",
    "/proc/1/mounts", "/proc/1/status", "/proc/cpuinfo", "/proc/meminfo", "/proc/stat",
    "/proc/uptime", "/proc/version"] ++
  nodes .stream ["/proc/1/fd/0", "/proc/1/fd/1", "/proc/1/fd/2", "/proc/1/task/1/fd/0",
    "/proc/1/task/1/fd/1", "/proc/1/task/1/fd/2"]

/-- Links. -/
def links : List (String × FileNode) :=
  [("/bin", .link "usr/bin"), ("/dev/fd", .link "/proc/self/fd"),
    ("/dev/stderr", .link "/proc/self/fd/2"), ("/dev/stdin", .link "/proc/self/fd/0"),
    ("/dev/stdout", .link "/proc/self/fd/1"), ("/etc/mtab", .link "/proc/mounts"),
    ("/etc/os-release", .link "../usr/lib/os-release"), ("/lib", .link "usr/lib"),
    ("/lib64", .link "usr/lib64"), ("/proc/1/cwd", .link workingPath),
    ("/proc/1/root", .link "/"), ("/proc/1/task/1/cwd", .link workingPath),
    ("/proc/1/task/1/root", .link "/"), ("/proc/mounts", .link "self/mounts"),
    ("/proc/self", .link "1"), ("/proc/thread-self", .link "1/task/1"),
    ("/sbin", .link "usr/sbin"), ("/usr/bin/sh", .link "dash"), ("/var/lock", .link "/run/lock"),
    ("/var/run", .link "/run")]

/-- What stands at which path. -/
def entries : List (String × FileNode) := directories ++ files ++ links

/-- What stands at a place. -/
def node? (place : Place) : Option FileNode :=
  (entries.find? fun entry => Text.utf8 entry.1 == place.octets).map (·.2)

/-- The place of the directory to work in. -/
def workingPlace : Place := (FilePath.read (Text.utf8 workingPath)).names.reverse

/-- Whether a directory stands at a place. -/
def isDirectory (place : Place) : Bool :=
  match node? place with
  | some (.directory _) => true
  | _ => false

/-- Whether a directory that takes new files stands at a place. -/
def takesFiles (place : Place) : Bool := node? place == some (.directory true)

/-- Most octets that a name may have. -/
def maxNameSize : Nat := 255

/-- Whether a name can be looked for: if something is before it, that is a directory, in which
names have a largest size if it takes new ones. -/
def canLookFor (place : Place) : Bool :=
  match place with
  | [] => true
  | name :: directory =>
    match node? directory with
    | none => true
    | some .stream => true
    | some (.directory takesFiles) => !takesFiles || name.length ≤ maxNameSize
    | some _ => false

/-- How one name after another is followed. -/
abbrev Step := Place → FileName → Option Place

/-- The place behind a name, which must be there, and be in a directory. -/
def strictStep : Step := fun place name =>
  if !isDirectory place then none
  else if name == FilePath.here then some place
  else if name == FilePath.above then some place.tail
  else if (node? (name :: place)).isSome then some (name :: place)
  else none

/-- A place has fewer octets than this if it is followed loosely. -/
def maxPlaceSize : Nat := 512

/-- The place behind a name, which may be missing. -/
def looseStep : Step := fun place name =>
  if name == FilePath.here then some place
  else if name == FilePath.above then
    match place with
    | [] => none
    | _ :: directory => some directory
  else if Place.size (name :: place) < maxPlaceSize && canLookFor (name :: place) then
    some (name :: place)
  else none

/-- How far names lead. -/
inductive Stop where
  | arrived (place : Place)
  /-- At a link in a directory, before further names. -/
  | linked (directory : Place) (target : FilePath) (rest : List FileName)
  | blocked
  deriving DecidableEq, Repr, Inhabited

/-- Follows names from a place up to the first link. -/
def advance (step : Step) (place : Place) (names : List FileName) : Stop :=
  match names with
  | [] => .arrived place
  | name :: rest =>
    match step place name with
    | none => .blocked
    | some next =>
      match node? next with
      | some (.link target) => .linked next.tail (FilePath.read (Text.utf8 target)) rest
      | _ => advance step next rest

/-- Follows names from a place, with at most so many links on the way. -/
def follow (step : Step) (maxLinks : Nat) (place : Place) (names : List FileName) :
    Option Place :=
  match advance step place names, maxLinks with
  | .arrived place, _ => some place
  | .linked directory target rest, maxLinks + 1 =>
    follow step maxLinks (target.start directory) (target.names ++ rest)
  | _, _ => none

/-- Follows a path. -/
def followPath (step : Step) (maxLinks : Nat) (path : FilePath) : Option Place :=
  follow step maxLinks (path.start workingPlace) path.names

/-- Most links on a way that is followed strictly. -/
def maxStrictLinks : Nat := 40

/-- A path that is followed strictly has fewer octets than this. -/
def maxPathSize : Nat := 4096

/-- Whether something is at the end of a path that is followed strictly. -/
def isThere (path : List Nat) : Bool :=
  !path.isEmpty && path.length < maxPathSize &&
    (followPath strictStep maxStrictLinks (FilePath.read path)).isSome

/-- Most links on a way that is followed loosely. -/
def maxLooseLinks : Nat := 201

/-- The place at the end of a path that is followed loosely, if that is not the root. -/
def place? (path : FilePath) : Option Place :=
  match followPath looseStep maxLooseLinks path with
  | some [] => none
  | place => place

example : strictStep [] FilePath.above = some [] := by decide +kernel

example : looseStep [] FilePath.above = none := by decide +kernel

end FileTree

end Passbook
