import Disposition.Database.Driver
import Disposition.Database.Engine
import Disposition.Database.Hosts
import Disposition.Database.Options
import Disposition.Database.Url

/-!
# The library that makes engines

The service relies on little of the library (`EngineLibrary.Lawful`); this is all that it does with
an address up to the first connection.

* `EngineLibrary.standard`: the library as it is installed, which takes the address apart and looks
  for the driver, or answers the first fault of the address.
-/

namespace Disposition

namespace DatabaseUrl

/-- The port of an address, if it has one. A colon without a port behind it is a fault. -/
def portNumber? (url : DatabaseUrl) : Except EngineFault (Option Int) :=
  match url.port with
  | none => .ok none
  | some s => (EngineFault.readInteger s).map some

/-- No plugin that an address asks for is there. -/
def checkPlugins (url : DatabaseUrl) : Except EngineFault Unit :=
  match url.queryValues "plugin" with
  | [] => .ok ()
  | name :: _ => .error (.unknownPlugin name)

/-- The part is there and not empty. -/
def isGiven (part : Option String) : Bool :=
  part.any (· ≠ "")

/-- The address names a user, a password, a host or a port. -/
def isRemote (url : DatabaseUrl) (port : Option Int) : Bool :=
  isGiven url.user || isGiven url.password || isGiven url.host || port.any (· ≠ 0)

/-- The database of an SQLite address is opened in memory: it has no name, or the name for that, or
the query asks for it. -/
def opensInMemory (url : DatabaseUrl) : Bool :=
  !isGiven url.database || url.database = some ":memory:" || url.queryValues "mode" = ["memory"]

/-- The address and the options of a database in a file. -/
def checkFile (url : DatabaseUrl) (port : Option Int) : Except EngineFault Unit :=
  if url.isRemote port then .error .fileOnHost else url.checkFileOptions

/-- The hosts and the options of a database on a server. -/
def checkServer (url : DatabaseUrl) : Except EngineFault Unit := do
  url.checkHosts
  url.checkNumber .integer "prepared_statement_cache_size"

/-- What comes behind the name in an address, by the dialect. -/
def checkParts (url : DatabaseUrl) (driver : Driver) (port : Option Int) :
    Except EngineFault Unit :=
  if driver.dialect = "sqlite" then url.checkFile port else url.checkServer

end DatabaseUrl

/-- The pool that the library takes if none is asked for: a database in memory has one connection
for all. -/
def Pool.standard (url : DatabaseUrl) (driver : Driver) : Pool :=
  if driver.dialect = "sqlite" && url.opensInMemory then .single else .queue

/-- The bounds of a pool that keeps no connection open are left open. -/
def PoolBounds.standard (bounds : PoolBounds) : PoolBounds :=
  if bounds.size = 0 then { bounds with overflow := -1 } else bounds

/-- The library that makes engines. -/
def EngineLibrary.standard : EngineLibrary := fun call =>
  match DatabaseUrl.read? call.url with
  | none => .error .unreadableUrl
  | some url => do
    let port ← url.portNumber?
    url.checkPlugins
    let driver ← Driver.find url.name
    url.checkParts driver port
    driver.checkReady
    return {
      pool := call.pool.getD (.standard url driver)
      dialect := driver.dialect
      driver := driver.driver
      echo := call.echo
      prePing := call.prePing
      database := url.database
      bounds := call.bounds.map (·.standard) }

end Disposition
