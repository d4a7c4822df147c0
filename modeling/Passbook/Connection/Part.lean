/-!
# Parts of a database's support

What supports a database has parts beside its drivers: groups of other parts, types of columns and
statements, functions, and texts and lists about itself. An address may name such a part where a
driver is meant.
-/

namespace Passbook

/-- A part of a database's support that is no driver. -/
inductive Part where
  /-- A group of parts, by its path. -/
  | group (path : String)
  /-- A type. -/
  | type (name : String)
  /-- A value, by the name of its type. -/
  | value (typeName : String)
  /-- A choice between fixed members, or between types. -/
  | choice
  deriving DecidableEq, Repr, Inhabited

namespace Part

/-- Groups in the support of a database by their names. -/
def groups (database : String) (names : List String) : List (String × Part) :=
  names.map fun name => (name, group ("dialects." ++ database ++ "." ++ name))

/-- Types by their names. -/
def types (names : List String) : List (String × Part) := names.map fun name => (name, type name)

/-- Values of one type by their names. -/
def values (typeName : String) (names : List String) : List (String × Part) :=
  names.map fun name => (name, value typeName)

/-- Functions by their names. -/
def routines (names : List String) : List (String × Part) := values "function" names

/-- Choices by their names. -/
def choices (names : List String) : List (String × Part) := names.map fun name => (name, choice)

/-- What every group has. -/
def ofGroup : List (String × Part) :=
  values "str" ["__cached__", "__file__", "__name__", "__package__"] ++
  values "dict" ["__annotations__", "__builtins__", "__dict__"] ++
  values "method-wrapper" ["__delattr__", "__eq__", "__ge__", "__getattribute__", "__gt__",
    "__hash__", "__init__", "__le__", "__lt__", "__ne__", "__repr__", "__setattr__", "__str__"] ++
  values "builtin_function_or_method" ["__dir__", "__format__", "__getstate__",
    "__init_subclass__", "__new__", "__reduce__", "__reduce_ex__", "__sizeof__",
    "__subclasshook__"] ++
  [("__class__", type "module"), ("__doc__", value "NoneType"),
    ("__loader__", value "SourceFileLoader"), ("__spec__", value "ModuleSpec")]

/-- What every group of groups has. -/
def ofSupport : List (String × Part) :=
  ofGroup ++ [("__all__", value "tuple"), ("__path__", value "list")]

/-- The parts for a file database. -/
def ofSqlite : List (String × Part) :=
  groups "sqlite" ["dml", "json"] ++
  types ["BLOB", "BOOLEAN", "CHAR", "DATE", "DATETIME", "DECIMAL", "FLOAT", "INTEGER", "Insert",
    "JSON", "JSONB", "NUMERIC", "REAL", "SMALLINT", "TEXT", "TIME", "TIMESTAMP", "VARCHAR"] ++
  routines ["insert"] ++
  [("dialect", type "SQLiteDialect_pysqlite")]

/-- The parts for PostgreSQL. -/
def ofPostgresql : List (String × Part) :=
  groups "postgresql" ["_psycopg_common", "bitstring", "dml", "ext", "json", "named_types",
    "operators", "pg_catalog", "ranges", "types"] ++
  types ["ARRAY", "AbstractMultiRange", "AbstractRange", "AbstractSingleRange", "BIGINT", "BIT",
    "BOOLEAN", "BYTEA", "BitString", "CHAR", "CIDR", "CITEXT", "CreateDomainType", "CreateEnumType",
    "DATE", "DATEMULTIRANGE", "DATERANGE", "DOMAIN", "DOUBLE_PRECISION", "DropDomainType",
    "DropEnumType", "ENUM", "ExcludeConstraint", "FLOAT", "HSTORE", "INET", "INT4MULTIRANGE",
    "INT4RANGE", "INT8MULTIRANGE", "INT8RANGE", "INTEGER", "INTERVAL", "Insert", "JSON", "JSONB",
    "JSONPATH", "MACADDR", "MACADDR8", "MONEY", "MultiRange", "NUMERIC", "NUMMULTIRANGE",
    "NUMRANGE", "NamedType", "OID", "REAL", "REGCLASS", "REGCONFIG", "Range", "SMALLINT", "TEXT",
    "TIME", "TIMESTAMP", "TSMULTIRANGE", "TSQUERY", "TSRANGE", "TSTZMULTIRANGE", "TSTZRANGE",
    "TSVECTOR", "UUID", "VARCHAR", "aggregate_order_by", "array", "hstore", "phraseto_tsquery",
    "plainto_tsquery", "to_tsquery", "to_tsvector", "ts_headline", "websearch_to_tsquery"] ++
  routines ["All", "Any", "array_agg", "distinct_on", "insert"] ++
  [("ModuleType", type "module"), ("arraylib", group "dialects.postgresql.array"),
    ("dialect", type "PGDialect_psycopg")]

/-- Groups of parts that two related databases share. -/
def sharedGroups : List (String × Part) :=
  groups "mysql" ["_mariadb_shim", "dml", "enumerated", "expression", "json", "mariadb",
    "reflection", "reserved_words", "types"]

/-- The parts for MySQL. -/
def ofMysql : List (String × Part) :=
  sharedGroups ++
  types ["BIGINT", "BINARY", "BIT", "BLOB", "BOOLEAN", "CHAR", "DATE", "DATETIME", "DECIMAL",
    "DOUBLE", "ENUM", "FLOAT", "INET4", "INET6", "INTEGER", "Insert", "JSON", "LONGBLOB",
    "LONGTEXT", "MEDIUMBLOB", "MEDIUMINT", "MEDIUMTEXT", "NCHAR", "NUMERIC", "NVARCHAR", "REAL",
    "SET", "SMALLINT", "TEXT", "TIME", "TIMESTAMP", "TINYBLOB", "TINYINT", "TINYTEXT", "VARBINARY",
    "VARCHAR", "YEAR", "match"] ++
  routines ["insert", "limit"] ++
  [("dialect", type "MySQLDialect_mysqldb")]

/-- The parts for Oracle. -/
def ofOracle : List (String × Part) :=
  groups "oracle" ["dictionary", "json", "types", "vector"] ++
  types ["BFILE", "BINARY_DOUBLE", "BINARY_FLOAT", "BLOB", "BOOLEAN", "CHAR", "CLOB", "DATE",
    "DOUBLE_PRECISION", "FLOAT", "INTERVAL", "JSON", "LONG", "NCHAR", "NCLOB", "NUMBER",
    "NVARCHAR", "RAW", "REAL", "ROWID", "SparseVector", "TIMESTAMP", "VARCHAR", "VARCHAR2",
    "VECTOR", "VectorIndexConfig"] ++
  choices ["VectorDistanceType", "VectorIndexType", "VectorStorageFormat",
    "VectorStorageType"] ++
  [("ModuleType", type "module"), ("NVARCHAR2", type "NVARCHAR"),
    ("dialect", type "OracleDialect_oracledb")]

/-- The parts for SQL Server. -/
def ofMssql : List (String × Part) :=
  groups "mssql" ["information_schema", "json"] ++
  types ["BIGINT", "BINARY", "BIT", "CHAR", "DATE", "DATETIME", "DATETIME2", "DATETIMEOFFSET",
    "DECIMAL", "DOUBLE_PRECISION", "FLOAT", "IMAGE", "INTEGER", "JSON", "MONEY", "NCHAR", "NTEXT",
    "NUMERIC", "NVARCHAR", "REAL", "ROWVERSION", "SMALLDATETIME", "SMALLINT", "SMALLMONEY",
    "SQL_VARIANT", "TEXT", "TIME", "TIMESTAMP", "TINYINT", "UNIQUEIDENTIFIER", "VARBINARY",
    "VARCHAR", "XML"] ++
  routines ["try_cast"] ++
  [("dialect", type "MSDialect_pyodbc")]

/-- The parts that describe types to the support of all databases. -/
def ofTyping : List (String × Part) :=
  ofGroup ++
  types ["Any", "Column", "ColumnCollection", "ColumnCollectionConstraint", "Index", "Iterable",
    "Mapping"] ++
  choices ["Optional", "Union", "_OnConflictConstraintT", "_OnConflictIndexElementsT",
    "_OnConflictIndexWhereT", "_OnConflictSetT", "_OnConflictWhereT"] ++
  [("annotations", value "_Feature"), ("roles", group "sql.roles")]

/-- The parts of the support of all databases that belong to no single one. -/
def ofAll : List (String × Part) :=
  ofGroup ++
  types ["Any", "Callable"] ++
  choices ["Optional"] ++
  routines ["_auto_fn"] ++
  values "PluginLoader" ["plugins", "registry"] ++
  [("TYPE_CHECKING", value "bool"), ("Type", type "type"), ("__all__", value "tuple"),
    ("annotations", value "_Feature"), ("util", group "util")]

/-- The parts of a database's support, by name. -/
def ofDatabase (database : String) : List (String × Part) :=
  match database with
  | "sqlite" => ofSqlite ++ ofSupport
  | "postgresql" => ofPostgresql ++ ofSupport
  | "mysql" => ofMysql ++ ofSupport
  | "mariadb" => sharedGroups ++ groups "mysql" ["provision"]
  | "oracle" => ofOracle ++ ofSupport
  | "mssql" => ofMssql ++ ofSupport
  | "_typing" => ofTyping
  | "__init__" => ofAll
  | _ => []

end Part

end Passbook
