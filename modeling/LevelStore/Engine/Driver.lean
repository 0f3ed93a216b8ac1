/-!
Driver names. A name is that of a database system, perhaps with a point and the name of a driver.
Each system has a package; a driver is any member of it that offers a dialect, and what a driver
needs may not be installed.
-/

namespace LevelStore

inductive DriverStatus
  | installed
  | lacking (module : String)
  | notADriver (description : String)
  | unknown
deriving DecidableEq, Repr

structure DriverPackage where
  name : String
  drivers : List (String × Option String)
  types : List String
  aliases : List (String × String) := []
  functions : List String := ["insert"]
  modules : List String

namespace DriverPackage

def sqlite : DriverPackage where
  name := "sqlite"
  drivers := [("pysqlite", none), ("base", none), ("aiosqlite", some "aiosqlite"),
    ("pysqlcipher", some "pysqlcipher3")]
  types := ["BLOB", "BOOLEAN", "CHAR", "DATE", "DATETIME", "DECIMAL", "FLOAT", "INTEGER", "JSON",
    "NUMERIC", "REAL", "SMALLINT", "TEXT", "TIME", "TIMESTAMP", "VARCHAR", "Insert"]
  aliases := [("dialect", "SQLiteDialect_pysqlite")]
  modules := ["dml", "json"]

def postgresql : DriverPackage where
  name := "postgresql"
  drivers := [("base", some "psycopg"), ("psycopg", some "psycopg"),
    ("psycopg_async", some "psycopg"), ("psycopg2", none), ("psycopg2cffi", some "psycopg2cffi"),
    ("pg8000", some "pg8000"), ("asyncpg", some "asyncpg")]
  types := ["ARRAY", "array", "BIGINT", "BIT", "BOOLEAN", "BYTEA", "BitString", "CHAR", "CIDR",
    "CITEXT", "DATE", "DOMAIN", "DOUBLE_PRECISION", "ENUM", "FLOAT", "HSTORE", "INET", "INTEGER",
    "INTERVAL", "JSON", "JSONB", "JSONPATH", "MACADDR", "MACADDR8", "MONEY", "NUMERIC", "OID",
    "REAL", "REGCLASS", "REGCONFIG", "SMALLINT", "TEXT", "TIME", "TIMESTAMP", "TSQUERY", "TSVECTOR",
    "UUID", "VARCHAR", "DATERANGE", "INT4RANGE", "INT8RANGE", "NUMRANGE", "TSRANGE", "TSTZRANGE",
    "DATEMULTIRANGE", "INT4MULTIRANGE", "INT8MULTIRANGE", "NUMMULTIRANGE", "TSMULTIRANGE",
    "TSTZMULTIRANGE", "AbstractMultiRange", "AbstractRange", "AbstractSingleRange", "MultiRange",
    "Range", "CreateDomainType", "CreateEnumType", "DropDomainType", "DropEnumType", "NamedType",
    "ExcludeConstraint", "Insert", "aggregate_order_by", "hstore", "phraseto_tsquery",
    "plainto_tsquery", "to_tsquery", "to_tsvector", "ts_headline", "websearch_to_tsquery"]
  aliases := [("PGBit", "BIT"), ("PGCidr", "CIDR"), ("PGInet", "INET"), ("PGInterval", "INTERVAL"),
    ("PGMacAddr", "MACADDR"), ("PGMacAddr8", "MACADDR8"), ("PGUuid", "UUID"),
    ("ModuleType", "module"), ("dialect", "PGDialect_psycopg")]
  functions := ["insert", "All", "Any", "array_agg", "distinct_on"]
  modules := ["_psycopg_common", "bitstring", "dml", "ext", "json", "named_types", "operators",
    "pg_catalog", "ranges", "types"]

def mysql : DriverPackage where
  name := "mysql"
  drivers := [("base", some "MySQLdb"), ("mysqldb", some "MySQLdb"), ("pymysql", some "pymysql"),
    ("mysqlconnector", some "mysql"), ("mariadbconnector", some "mariadb"),
    ("cymysql", some "cymysql"), ("pyodbc", some "pyodbc"), ("aiomysql", some "aiomysql"),
    ("asyncmy", some "asyncmy")]
  types := ["BIGINT", "BINARY", "BIT", "BLOB", "BOOLEAN", "CHAR", "DATE", "DATETIME", "DECIMAL",
    "DOUBLE", "ENUM", "FLOAT", "INET4", "INET6", "INTEGER", "JSON", "LONGBLOB", "LONGTEXT",
    "MEDIUMBLOB", "MEDIUMINT", "MEDIUMTEXT", "NCHAR", "NUMERIC", "NVARCHAR", "REAL", "SET",
    "SMALLINT", "TEXT", "TIME", "TIMESTAMP", "TINYBLOB", "TINYINT", "TINYTEXT", "VARBINARY",
    "VARCHAR", "YEAR", "Insert", "match"]
  aliases := [("dialect", "MySQLDialect_mysqldb")]
  modules := ["_mariadb_shim", "dml", "enumerated", "expression", "json", "mariadb", "reflection",
    "reserved_words", "types"]

def oracle : DriverPackage where
  name := "oracle"
  drivers := [("base", some "oracledb"), ("oracledb", some "oracledb"),
    ("oracledb_async", some "oracledb"), ("cx_oracle", some "cx_Oracle")]
  types := ["BFILE", "BINARY_DOUBLE", "BINARY_FLOAT", "BLOB", "BOOLEAN", "CHAR", "CLOB", "DATE",
    "DOUBLE_PRECISION", "FLOAT", "INTERVAL", "JSON", "LONG", "NCHAR", "NCLOB", "NUMBER", "NVARCHAR",
    "RAW", "REAL", "ROWID", "TIMESTAMP", "VARCHAR", "VARCHAR2", "VECTOR", "SparseVector",
    "VectorDistanceType", "VectorIndexConfig", "VectorIndexType", "VectorStorageFormat",
    "VectorStorageType"]
  aliases := [("NVARCHAR2", "NVARCHAR"), ("ModuleType", "module"),
    ("dialect", "OracleDialect_oracledb")]
  functions := []
  modules := ["dictionary", "json", "types", "vector"]

def mssql : DriverPackage where
  name := "mssql"
  drivers := [("base", some "pyodbc"), ("pyodbc", some "pyodbc"), ("pymssql", some "pymssql"),
    ("aioodbc", some "aioodbc"), ("mssqlpython", some "mssql_python")]
  types := ["BIGINT", "BINARY", "BIT", "CHAR", "DATE", "DATETIME", "DATETIME2", "DATETIMEOFFSET",
    "DECIMAL", "DOUBLE_PRECISION", "FLOAT", "IMAGE", "INTEGER", "JSON", "MONEY", "NCHAR", "NTEXT",
    "NUMERIC", "NVARCHAR", "REAL", "ROWVERSION", "SMALLDATETIME", "SMALLINT", "SMALLMONEY",
    "SQL_VARIANT", "TEXT", "TIME", "TIMESTAMP", "TINYINT", "UNIQUEIDENTIFIER", "VARBINARY",
    "VARCHAR", "XML"]
  aliases := [("dialect", "MSDialect_pyodbc")]
  functions := ["try_cast"]
  modules := ["information_schema", "json"]

def all : List DriverPackage := [sqlite, postgresql, mysql, oracle, mssql]

def typeText (name : String) : String := "type object '" ++ name ++ "'"

def objectText (type : String) : String := "'" ++ type ++ "' object"

def moduleText (package module : String) : String :=
  "module 'sqlalchemy.dialects." ++ package ++ "." ++ module ++ "'"

def commonValues : List (String × List String) := [
  ("str", ["__name__", "__package__", "__file__", "__cached__"]),
  ("NoneType", ["__doc__"]), ("list", ["__path__"]), ("tuple", ["__all__"]),
  ("dict", ["__builtins__", "__dict__", "__annotations__"]),
  ("SourceFileLoader", ["__loader__"]), ("ModuleSpec", ["__spec__"]),
  ("method-wrapper",
    ["__init__", "__repr__", "__str__", "__hash__", "__eq__", "__ne__", "__lt__", "__le__",
      "__gt__", "__ge__", "__setattr__", "__getattribute__", "__delattr__"]),
  ("builtin_function_or_method",
    ["__dir__", "__format__", "__getstate__", "__init_subclass__", "__new__", "__reduce__",
      "__reduce_ex__", "__sizeof__", "__subclasshook__"])]

def otherMember? (p : DriverPackage) (member : String) : Option String :=
  if p.types.contains member then some (typeText member)
  else if let some name := p.aliases.lookup member then some (typeText name)
  else if p.functions.contains member then some (objectText "function")
  else if p.modules.contains member then some (moduleText p.name member)
  else if member == "arraylib" && p.name == "postgresql" then some (moduleText p.name "array")
  else if member == "__class__" then some (typeText "module")
  else (commonValues.find? fun entry => entry.2.contains member).map fun entry => objectText entry.1

def ofDriver : Option String → DriverStatus
  | none => .installed
  | some module => .lacking module

def member (p : DriverPackage) (name : String) : DriverStatus :=
  match p.drivers.lookup name with
  | some lacking => ofDriver lacking
  | none => ((p.otherMember? name).map DriverStatus.notADriver).getD .unknown

/-- MariaDB shares the package of MySQL, but only its modules count. -/
def mariadbMember (name : String) : DriverStatus :=
  match mysql.drivers.lookup name with
  | some lacking => ofDriver lacking
  | none =>
    if mysql.modules.contains name then .notADriver (moduleText mysql.name name) else .unknown

end DriverPackage

namespace DriverStatus

def ofName (dotted : String) : DriverStatus :=
  let system := String.ofList (dotted.toList.takeWhile (· != '.'))
  let driver := match dotted.toList.dropWhile (· != '.') with
    | [] => "base"
    | _ :: driver => String.ofList driver
  if system == "mariadb" then DriverPackage.mariadbMember driver
  else match DriverPackage.all.find? (·.name == system) with
  | some p => p.member driver
  | none => .unknown

end DriverStatus

end LevelStore
