import Passbook.Connection.Driver
import Passbook.Connection.FileOptions
import Passbook.Connection.Hosts

/-!
# Connections to a database

A file database has one writer at a time, so each of its transactions takes the write lock when it
begins; it has no server, so its address names none. A server database is reached through a pool
of connections.
-/

namespace Passbook

/-- Sizes and times of a pool of connections. -/
structure Pool where
  size : Int := 10
  overflow : Int := 10
  recycleSeconds : Int := 3600
  deriving DecidableEq, Repr, Inhabited

/-- The pool with the overflow that is in effect: a pool of size zero has no limit, which an
overflow of minus one stands for. -/
def Pool.inEffect (pool : Pool) : Pool :=
  if pool.size = 0 then { pool with overflow := -1 } else pool

/-- How a database is reached. -/
inductive Connection where
  /-- By connections without a pool, whose transactions begin with the given statement. -/
  | serialised (begin : String)
  /-- Through a pool whose connections are tried before use. -/
  | pooled (pool : Pool)
  deriving DecidableEq, Repr, Inhabited

namespace Connection

/-- Checks that an address asks for no extension by its name; there is none. A list of extensions
counts for nothing. -/
def requireNoPlugin (parameters : Parameters) : Except Error Unit :=
  match parameters.values "plugin" with
  | [] => .ok ()
  | name :: _ => .error (.unknownPlugin name)

/-- The connection to the database at an address. -/
def ofUrl (url : String) (pool : Pool) : Except Error (String × Connection) := do
  let address ← Address.read url
  requireNoPlugin address.parameters
  let address := { address with parameters := address.parameters.without ["plugins"] }
  let driver ← Driver.ofAddress address
  driver.require
  if driver.database = "sqlite" then
    FileOptions.check address
    return (driver.database, serialised "BEGIN IMMEDIATE")
  else
    Hosts.check address.parameters
    return (driver.database, pooled pool.inEffect)

/-- The statements that a database receives when a new transaction runs one statement. -/
def statements (connection : Connection) (statement : String) : List String :=
  match connection with
  | serialised start => [start, statement]
  | pooled _ => ["BEGIN", statement]

end Connection

end Passbook
