import Disposition.Settings
import Disposition.Text.Fields
import Disposition.Text.Integer
import Disposition.Text.Lower

/-!
# Settings from the environment

Each setting is read from a variable of its own, and a variable that is not set leaves the default.
Only the two integers can be malformed; the first malformed one is the fault.

* `Settings.ofEnvironment`: the settings, or the malformed variable (`HubConfig.from_env`).
* `Environment.integer`, `Environment.switch`: one variable (`_env_int`, `_env_bool`).
-/

namespace Disposition

/-- The variables that are set, by name. -/
abbrev Environment := String → Option String

/-- A variable that should be an integer and is not. -/
structure MalformedInteger where
  /-- The name of the variable. -/
  name : String
  /-- Its text. -/
  text : String
  deriving DecidableEq, Repr

/-- The wording of the fault. -/
def MalformedInteger.message (fault : MalformedInteger) : String :=
  fault.name ++ " must be an integer, got " ++ Text.quote fault.text

namespace Environment

/-- A variable that is set to something. -/
def nonempty? (env : Environment) (name : String) : Option String :=
  (env name).filter (· ≠ "")

/-- An integer variable; unset or empty, it is the default. -/
def integer (env : Environment) (name : String) (fallback : Int) : Except MalformedInteger Int :=
  match env.nonempty? name with
  | none => .ok fallback
  | some s =>
    match Text.readInteger? s with
    | some n => .ok n
    | none => .error ⟨name, s⟩

/-- The words that switch something on. -/
def onWords : List String :=
  ["1", "true", "yes"]

/-- A switch; unset or empty, it is off. -/
def switch (env : Environment) (name : String) : Bool :=
  (env.nonempty? name).any fun s => onWords.contains (Text.lowerString s)

end Environment

namespace Settings

/-- The settings of the log. -/
def logOf (env : Environment) : LogSettings where
  level := Text.lowerString ((env "LOG_LEVEL").getD "info")
  json := Text.lowerString ((env "LOG_FORMAT").getD "json") = "json"

/-- The settings of the web interface. -/
def serverOf (env : Environment) : ServerSettings where
  allowedOrigins :=
    match env.nonempty? "CORS_ORIGINS" with
    | none => { : ServerSettings }.allowedOrigins
    | some s => Text.entries ',' s
  debug := env.switch "DEBUG"

/-- The settings of the database. -/
def databaseOf (env : Environment) : Except MalformedInteger DatabaseSettings := do
  let fallback : DatabaseSettings := {}
  let poolSize ← env.integer "DB_POOL_SIZE" fallback.poolSize
  let maxOverflow ← env.integer "DB_MAX_OVERFLOW" fallback.maxOverflow
  return {
    url := (env "DATABASE_URL").getD fallback.url
    poolSize
    maxOverflow
    echo := env.switch "DB_ECHO" }

/-- The settings that an environment asks for. -/
def ofEnvironment (env : Environment) : Except MalformedInteger Settings := do
  let database ← databaseOf env
  return { database, log := logOf env, server := serverOf env }

end Settings

end Disposition
