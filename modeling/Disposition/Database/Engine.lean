import Disposition.Database.Fault
import Disposition.Settings

/-!
# Database engines

An engine is made by a library, which is told the address and how connections are to be kept. The
settings of the database say what it is told (`build_engine`): a server gets a pool with bounds and
has its connections tried, and a database in memory gets one connection for all, because another one
would find it empty. What is left out is up to the library.

* `DatabaseSettings.engineCall`: what the library is told.
* `Engine.build`: the engine for the settings.
-/

namespace Disposition

/-- How connections are kept. -/
inductive Pool
  /-- One connection for all. -/
  | single
  /-- Connections some of which are kept open, with more of them at need. -/
  | queue
  deriving DecidableEq, Repr

/-- The bounds of a pool. -/
structure PoolBounds where
  /-- The connections that are kept open. -/
  size : Int
  /-- The connections beyond those; minus one stands for no bound. -/
  overflow : Int
  deriving DecidableEq, Repr

/-- What the library that makes engines is told. -/
structure EngineCall where
  /-- The address. -/
  url : String
  /-- Statements are to be written to the log. -/
  echo : Bool
  /-- How connections are to be kept, unless that is left out. -/
  pool : Option Pool := none
  /-- The bounds of the pool, unless they are left out. -/
  bounds : Option PoolBounds := none
  /-- A connection is to be tried before it is used. -/
  prePing : Bool := false
  deriving DecidableEq, Repr

/-- A way to the database. -/
structure Engine where
  /-- How connections are kept. -/
  pool : Pool
  /-- The dialect. -/
  dialect : String
  /-- The driver. -/
  driver : String
  /-- Statements are written to the log. -/
  echo : Bool
  /-- A connection is tried before it is used. -/
  prePing : Bool
  /-- The database. -/
  database : Option String
  /-- The bounds of the pool, where they are given. -/
  bounds : Option PoolBounds
  deriving DecidableEq, Repr

/-- A library that makes engines. -/
abbrev EngineLibrary := EngineCall → Except EngineFault Engine

/-- What the settings of a database have the library told. -/
def DatabaseSettings.engineCall (settings : DatabaseSettings) : EngineCall :=
  if settings.isSqlite then
    { url := settings.url
      echo := settings.echo
      pool := if settings.isMemory then some .single else none }
  else
    { url := settings.url
      echo := settings.echo
      bounds := some ⟨settings.poolSize, settings.maxOverflow⟩
      prePing := true }

/-- The engine for the settings of a database. -/
def Engine.build (library : EngineLibrary) (settings : DatabaseSettings) :
    Except EngineFault Engine :=
  library settings.engineCall

end Disposition
