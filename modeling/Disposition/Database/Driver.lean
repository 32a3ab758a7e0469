import Disposition.Database.Fault

/-!
# Database drivers

What the library as it is installed (`EngineLibrary.standard`) knows of drivers.

* `Driver.known`: the drivers of all dialects, of which few can be used.
* `Driver.find`: the driver that an address names.
-/

namespace Disposition

/-- What becomes of a driver that is asked for. -/
inductive DriverState
  /-- It can be used. -/
  | ready
  /-- It waits for the database, which the service cannot do. -/
  | blocking
  /-- The module that it needs is not there. -/
  | absent (module : String)
  deriving DecidableEq, Repr

/-- A driver of a dialect. -/
structure Driver where
  /-- The names it goes by in addresses. -/
  names : List String
  /-- The dialect. -/
  dialect : String
  /-- The name of the driver. -/
  driver : String
  /-- What becomes of it. -/
  state : DriverState
  deriving DecidableEq, Repr

/-- A driver that is not there. -/
def Driver.missing (names : List String) (dialect driver module : String) : Driver :=
  ⟨names, dialect, driver, .absent module⟩

/-- The known drivers. The first one of a dialect is its default. -/
def Driver.known : List Driver :=
  [ ⟨["sqlite", "sqlite+base", "sqlite+pysqlite"], "sqlite", "pysqlite", .blocking⟩,
    ⟨["sqlite+aiosqlite"], "sqlite", "aiosqlite", .ready⟩,
    missing ["sqlite+pysqlcipher"] "sqlite" "pysqlcipher" "pysqlcipher3",
    missing ["postgresql", "postgresql+base", "postgresql+psycopg", "postgresql+psycopg_async"]
      "postgresql" "psycopg" "psycopg",
    ⟨["postgresql+asyncpg"], "postgresql", "asyncpg", .ready⟩,
    missing ["postgresql+psycopg2"] "postgresql" "psycopg2" "psycopg2",
    missing ["postgresql+pg8000"] "postgresql" "pg8000" "pg8000",
    missing ["postgresql+psycopg2cffi"] "postgresql" "psycopg2cffi" "psycopg2cffi",
    missing ["mysql", "mysql+base", "mysql+mysqldb", "mariadb", "mariadb+base", "mariadb+mysqldb"]
      "mysql" "mysqldb" "MySQLdb",
    missing ["mysql+pymysql", "mariadb+pymysql"] "mysql" "pymysql" "pymysql",
    missing ["mysql+aiomysql", "mariadb+aiomysql"] "mysql" "aiomysql" "aiomysql",
    missing ["mysql+asyncmy", "mariadb+asyncmy"] "mysql" "asyncmy" "asyncmy",
    missing ["mysql+mysqlconnector", "mariadb+mysqlconnector"] "mysql" "mysqlconnector" "mysql",
    missing ["mysql+cymysql", "mariadb+cymysql"] "mysql" "cymysql" "cymysql",
    missing ["mysql+pyodbc", "mariadb+pyodbc"] "mysql" "pyodbc" "pyodbc",
    missing ["mysql+mariadbconnector", "mariadb+mariadbconnector"] "mysql" "mariadbconnector"
      "mariadb",
    missing ["oracle", "oracle+base", "oracle+oracledb", "oracle+oracledb_async"] "oracle"
      "oracledb" "oracledb",
    missing ["oracle+cx_oracle"] "oracle" "cx_oracle" "cx_Oracle",
    missing ["mssql", "mssql+base", "mssql+pyodbc"] "mssql" "pyodbc" "pyodbc",
    missing ["mssql+mssqlpython"] "mssql" "mssqlpython" "mssql_python",
    missing ["mssql+pymssql"] "mssql" "pymssql" "pymssql",
    missing ["mssql+aioodbc"] "mssql" "aioodbc" "aioodbc" ]

/-- The driver of a name, if its module is there. -/
def Driver.find (name : String) : Except EngineFault Driver :=
  if 1 < name.toList.count '+' then .error .severalParts
  else
    match known.find? (·.names.contains name) with
    | none => .error (.unknownDriver name)
    | some driver =>
      match driver.state with
      | .absent module => .error (.missingModule module)
      | _ => .ok driver

/-- The service cannot wait for the database. -/
def Driver.checkReady (driver : Driver) : Except EngineFault Unit :=
  if driver.state = .blocking then .error (.blockingDriver driver.driver) else .ok ()

end Disposition
