import Passbook.Connection.Address

/-!
# Hosts in parameters

The parameters of a server's address may name further hosts, each with its port or in a list of
its own beside a list of ports. Lists are parted by commas, and a port may be left empty.
-/

namespace Passbook

/-- Hosts and ports as parameters name them. -/
structure Hosts where
  names : List String := []
  /-- The ports, as texts. -/
  ports : List String := []
  /-- Whether the ports stand with their hosts. -/
  paired : Bool := false
  deriving DecidableEq, Repr, Inhabited

namespace Hosts

/-- A host in one of several values, with its port, which may be left out, and what follows these
behind colons. -/
def members (text : String) : List String :=
  match text.toList.splitOn ':' with
  | [host] => [String.ofList host, ""]
  | parts => parts.map String.ofList

/-- Whether a character may stand in the name of a host that has its port behind it. -/
def isNameChar (c : Char) : Bool :=
  ('a' ≤ c && c ≤ 'z') || ('A' ≤ c && c ≤ 'Z') || ('0' ≤ c && c ≤ '9') || c == '-' || c == '.'

/-- The port behind the only host, up to the end of a line, if it consists of digits. A colon in
anything else belongs to the host. -/
def portBehind (text : String) : List String :=
  match text.toList.dropWhile isNameChar with
  | ':' :: rest =>
    let port := rest.takeWhile fun c => (Text.digitValue? c).isSome
    let rest := rest.drop port.length
    if port.isEmpty || (rest != [] && rest != ['\n']) then [] else [String.ofList port]
  | _ => []

/-- Hosts and ports under the name of hosts. One value may be a list of hosts, or a host with its
port; of several, each is a host with its port. -/
def ofValues (values : List String) : Except Error Hosts :=
  match values with
  | [] => .ok {}
  | [text] =>
    let names := (text.toList.splitOn ',').map String.ofList
    .ok { names, ports := if names.length == 1 then portBehind text else [] }
  | _ =>
    let all := values.map members
    if all.all fun parts => 2 < parts.length then .error .tooManyMembers
    else .ok {
      names := all.filterMap fun parts => parts[0]?
      ports := all.filterMap fun parts => parts[1]?
      paired := true }

/-- The ports under the name of ports: a list, or several values. -/
def portsOfValues (values : List String) : List String :=
  match values with
  | [text] => (text.toList.splitOn ',').map String.ofList
  | _ => values

/-- Whether a port is empty or an integer. -/
def isPort (text : String) : Bool :=
  text.isEmpty ||
    match Text.readInteger text.toList with
    | .ok _ => true
    | .error _ => false

/-- Whether there is a port for each host, or for the only one that is given elsewhere. -/
def haveEqualLengths (hosts : Hosts) : Bool :=
  hosts.ports.isEmpty || hosts.names.length == hosts.ports.length ||
    (hosts.names.length ≤ 1 && hosts.ports.length ≤ 1)

/-- Checks the hosts and ports in parameters. -/
def check (parameters : Parameters) : Except Error Unit := do
  let hosts ← ofValues (parameters.values "host")
  let ports := portsOfValues (parameters.values "port")
  if hosts.paired && !ports.isEmpty then throw .mismatchedHosts
  let hosts := if ports.isEmpty then hosts else { hosts with ports }
  if !hosts.ports.all isPort then throw .mismatchedHosts
  if !hosts.haveEqualLengths then throw .mismatchedHosts

end Hosts

end Passbook
