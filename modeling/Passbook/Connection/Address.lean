import Passbook.Connection.Parameters
import Passbook.Error
import Passbook.Text.Integer
import Passbook.Text.Word

/-!
# Addresses of databases

An address starts with the name of a database and, after a plus sign, of a driver. A colon and two
slashes end these names. A user with a password, a host and a port may follow, then a path behind
a slash, and parameters behind a question mark to the end of the line.
-/

namespace Passbook

/-- An address of a database. A part that is not given is empty or none. -/
structure Address where
  /-- The names before the colon, joined by plus signs. -/
  scheme : List Char
  user : List Char := []
  password : List Char := []
  host : List Char := []
  port : Option Int := none
  /-- The name of one of the server's databases, or the path of a file. -/
  path : Option String := none
  parameters : Parameters := []
  deriving DecidableEq, Repr, Inhabited

namespace Address

/-- A character of the names at the start of an address. -/
def isSchemeChar (c : Char) : Bool := Text.isWordChar c || c == '+'

/-- A character of a user's name. -/
def isUserChar (c : Char) : Bool := c != ':' && c != '/'

/-- A character of the part between the login and the path. -/
def isHostChar (c : Char) : Bool := c != '/' && c != '?'

/-- The names at the start of an address, and the rest after the two slashes. -/
def readScheme? (cs : List Char) : Option (List Char × List Char) :=
  match cs.takeWhile isSchemeChar, cs.dropWhile isSchemeChar with
  | c :: name, ':' :: '/' :: '/' :: rest => some (c :: name, rest)
  | _, _ => none

/-- The characters on both sides of the last one that is equal to `mark`. -/
def splitAtLast? (mark : Char) (cs : List Char) : Option (List Char × List Char) :=
  match cs.reverse.dropWhile (· != mark) with
  | [] => none
  | _ :: before => some (before.reverse, (cs.reverse.takeWhile (· != mark)).reverse)

/-- A user without a password, which ends at the last at sign before a colon or slash, and the
rest. -/
def readBareUser (cs : List Char) : List Char × List Char :=
  match splitAtLast? '@' (cs.takeWhile isUserChar) with
  | some (user, host) => (user, host ++ cs.dropWhile isUserChar)
  | none => ([], cs)

/-- A user, a password and the rest. A password follows a colon and ends at the first at sign. -/
def readLogin (cs : List Char) : List Char × List Char × List Char :=
  let withoutPassword := let (user, rest) := readBareUser cs; (user, [], rest)
  match cs.dropWhile isUserChar with
  | ':' :: secret =>
    match secret.dropWhile (· != '@') with
    | [] => withoutPassword
    | _ :: rest => (cs.takeWhile isUserChar, secret.takeWhile (· != '@'), rest)
  | _ => withoutPassword

/-- A host without brackets, and the rest. -/
def readPlainHost (cs : List Char) : List Char × List Char :=
  (cs.takeWhile fun c => isHostChar c && c != ':', cs.dropWhile fun c => isHostChar c && c != ':')

/-- A host, which may stand in brackets and then hold colons, and the rest. -/
def readHost (cs : List Char) : List Char × List Char :=
  match cs with
  | '[' :: inner =>
    match splitAtLast? ']' (inner.takeWhile isHostChar) with
    | some (c :: name, rest) => (c :: name, rest ++ inner.dropWhile isHostChar)
    | _ => readPlainHost cs
  | _ => readPlainHost cs

/-- An integer in an address. -/
def readInteger (cs : List Char) : Except Error Int :=
  match Text.readInteger cs with
  | .ok n => .ok n
  | .error .malformed => .error (.malformedInteger (String.ofList cs))
  | .error (.tooLong n) => .error (.longInteger n)

/-- The port after a colon, if there is one, and the rest. -/
def readPort (cs : List Char) : Except Error (Option Int × List Char) :=
  match cs with
  | ':' :: rest => do
    let port ← readInteger (rest.takeWhile isHostChar)
    return (some port, rest.dropWhile isHostChar)
  | _ => .ok (none, cs)

/-- The path after a slash, if there is one, and the rest. It may be written in percent
encoding. -/
def readPath (cs : List Char) : Option String × List Char :=
  match cs with
  | '/' :: rest =>
    (some (String.ofList (Text.percentDecoded (rest.takeWhile (· != '?')))),
      rest.dropWhile (· != '?'))
  | _ => (none, cs)

/-- The parameters after a question mark. -/
def readParameters (cs : List Char) : Parameters :=
  match cs with
  | '?' :: rest => Parameters.read (rest.takeWhile (· != '\n'))
  | _ => []

/-- Reads an address. -/
def read (url : String) : Except Error Address :=
  match readScheme? url.toList with
  | none => .error .malformedAddress
  | some (scheme, rest) => do
    let (user, password, rest) := readLogin rest
    let (host, rest) := readHost rest
    let (port, rest) ← readPort rest
    let (path, rest) := readPath rest
    return { scheme, user, password, host, port, path, parameters := readParameters rest }

/-- Whether the address names a place where a server is reached, or a user of it. -/
def namesServer (address : Address) : Bool :=
  !address.user.isEmpty || !address.password.isEmpty || !address.host.isEmpty ||
    (address.port.getD 0 != 0)

end Address

end Passbook
