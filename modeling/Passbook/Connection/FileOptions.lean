import Passbook.Connection.Address
import Passbook.Connection.FileAddress
import Passbook.MachineWord
import Passbook.Text.LowerCase
import Passbook.Text.Real

/-!
# Options of a file database

Some parameters of a file database's address are options, which are read in a fixed order. The
other ones belong to the path if that is an address of its own, and else count for nothing.
-/

namespace Passbook

/-- What is read from the parameters of a file database. -/
structure FileOptions where
  /-- Whether the path is an address of its own. -/
  ownAddress : Bool := false
  detectTypes : Int := 0
  /-- The number of isolation levels; a single one counts for nothing. -/
  levels : Nat := 0
  cachedStatements : Int := 128
  /-- The parameters that are no options. -/
  others : Parameters := []
  deriving DecidableEq, Repr, Inhabited

namespace FileOptions

/-- Names of options. -/
def names : List String :=
  ["uri", "timeout", "isolation_level", "detect_types", "check_same_thread", "cached_statements"]

/-- Words for true. -/
def trueWords : List String := ["true", "yes", "on", "y", "t", "1"]

/-- Words for false. -/
def falseWords : List String := ["false", "no", "off", "n", "f", "0"]

/-- Reads a truth value, in any case and between blanks. Several values are true. -/
def readFlag (values : List String) : Except Error Bool :=
  match values with
  | [] => .ok false
  | [text] =>
    let word :=
      String.ofList (Text.lowerCase (Text.trim Text.isBlankOrSeparator text.toList))
    if trueWords.contains word then .ok true
    else if falseWords.contains word then .ok false
    else .error (.malformedFlag word)
  | _ => .ok true

/-- Checks a real number. -/
def checkReal (values : List String) : Except Error Unit :=
  match values with
  | [] => .ok ()
  | [text] => if Text.isReal text then .ok () else .error (.malformedReal text)
  | _ => .error .severalReals

/-- Reads an integer. -/
def readWhole (default : Int) (values : List String) : Except Error Int :=
  match values with
  | [] => .ok default
  | [text] => Address.readInteger text.toList
  | _ => .error .severalIntegers

/-- Reads the options. -/
def ofParameters (parameters : Parameters) : Except Error FileOptions := do
  let defaults : FileOptions := {}
  let ownAddress ← readFlag (parameters.values "uri")
  checkReal (parameters.values "timeout")
  let detectTypes ← readWhole defaults.detectTypes (parameters.values "detect_types")
  let _ ← readFlag (parameters.values "check_same_thread")
  let cachedStatements ←
    readWhole defaults.cachedStatements (parameters.values "cached_statements")
  return {
    ownAddress
    detectTypes
    levels := (parameters.values "isolation_level").length
    cachedStatements
    others := parameters.without names }

/-- The text of a parameter's values, a list in parentheses if there are several. -/
def valueText (values : List String) : String :=
  match values with
  | [value] => value
  | _ => "(" ++ ", ".intercalate (values.map Text.quoted) ++ ")"

/-- The other parameters as they stand behind the path, in the order of their names. -/
def othersText (options : FileOptions) : String :=
  let names := ((options.others.map (·.1)).eraseDups).mergeSort
  "&".intercalate (names.map fun name => name ++ "=" ++ valueText (options.others.values name))

/-- The path of the database, with the other parameters where it is an address of its own. -/
def fullPath (options : FileOptions) (path : Option String) : Except Error (Option String) :=
  if options.ownAddress && !options.others.isEmpty then
    match path with
    | none => .error (.missingPath true)
    | some path => .ok (some (path ++ "?" ++ options.othersText))
  else .ok path

/-- Checks that an integer has room in half a machine word. -/
def requireHalfWord (n : Int) : Except Error Unit :=
  if fitsHalfWord n then .ok () else .error .integerTooLarge

/-- Checks that the database can be opened. A null is no fault in a name that the simplified path
does without. -/
def checkPath (options : FileOptions) (path : Option String) : Except Error Unit :=
  match path with
  | none => if options.ownAddress then .error (.missingPath false) else .ok ()
  | some path =>
    if options.ownAddress then
      if path.toList.contains '\x00' then .error .nullInPath
      else FileAddress.requireUsableText path
    else if Location.isMemory (Text.utf8 path) then .ok ()
    else
      let simplified := (FilePath.read (Text.utf8 path)).simplified FileTree.workingPlace
      if simplified.names.any (·.contains 0) then .error .nullInPath
      else Location.requireUsable true simplified

/-- Checks the options and the path of a file database. -/
def check (address : Address) : Except Error Unit := do
  if address.namesServer then throw .serverOfFileDatabase
  let options ← ofParameters address.parameters
  let path ← options.fullPath address.path
  requireHalfWord options.detectTypes
  if 1 < options.levels then throw .severalLevels
  requireHalfWord options.cachedStatements
  options.checkPath path

end FileOptions

end Passbook
