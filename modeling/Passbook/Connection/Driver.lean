import Passbook.Connection.Address

/-!
# Drivers of databases

A database is reached by a driver, and a driver needs a library. Drivers are known whose library
is not there, so that an address which names them is told from one with an unknown name.
-/

namespace Passbook

/-- A driver of a database. -/
structure Driver where
  database : String
  name : String
  deriving DecidableEq, Repr, Inhabited

namespace Driver

/-- The name of the driver that a database has by default. -/
def defaultName : String := "base"

/-- The driver that an address names, or the default one. -/
def ofAddress (address : Address) : Except Error Driver :=
  match address.scheme.splitOn '+' with
  | [database] => .ok ⟨String.ofList database, defaultName⟩
  | [database, name] => .ok ⟨String.ofList database, String.ofList name⟩
  | _ => .error .tooManyMembers

/-- The drivers whose library is there. -/
def available : List Driver :=
  [⟨"sqlite", "base"⟩, ⟨"sqlite", "pysqlite"⟩, ⟨"postgresql", "psycopg2"⟩]

/-- Drivers of two related databases, with the libraries that they need. -/
def sharedLibraries : List (String × String) :=
  [("base", "MySQLdb"), ("mysqldb", "MySQLdb"), ("pymysql", "pymysql"), ("aiomysql", "aiomysql"),
    ("asyncmy", "asyncmy"), ("cymysql", "cymysql"), ("mysqlconnector", "mysql"),
    ("mariadbconnector", "mariadb"), ("pyodbc", "pyodbc")]

/-- The drivers of a database whose library is not there, with that library. -/
def missingLibraries (database : String) : List (String × String) :=
  match database with
  | "sqlite" => [("aiosqlite", "aiosqlite"), ("pysqlcipher", "pysqlcipher3")]
  | "postgresql" =>
    [("base", "psycopg"), ("psycopg", "psycopg"), ("psycopg_async", "psycopg"),
      ("asyncpg", "asyncpg"), ("pg8000", "pg8000"), ("psycopg2cffi", "psycopg2cffi")]
  | "mysql" => sharedLibraries
  | "mariadb" => sharedLibraries ++ [("__init__", "MySQLdb")]
  | "oracle" =>
    [("base", "oracledb"), ("oracledb", "oracledb"), ("oracledb_async", "oracledb"),
      ("cx_oracle", "cx_Oracle")]
  | "mssql" =>
    [("base", "pyodbc"), ("pyodbc", "pyodbc"), ("pymssql", "pymssql"), ("aioodbc", "aioodbc"),
      ("mssqlpython", "mssql_python")]
  | _ => []

/-- Checks that the driver can be used. -/
def require (driver : Driver) : Except Error Unit :=
  if available.contains driver then .ok ()
  else
    match (missingLibraries driver.database).lookup driver.name,
        (Part.ofDatabase driver.database).lookup driver.name with
    | some library, _ => .error (.missingLibrary library)
    | none, some part => .error (.notDriver part)
    | none, none => .error (.unknownDatabase driver.database)

end Driver

end Passbook
