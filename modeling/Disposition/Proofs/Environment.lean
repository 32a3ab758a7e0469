import Disposition.Proofs.Literal
import Disposition.Proofs.Work
import Disposition.Settings.Environment

/-!
# Settings from an environment

Every setting is read from a variable of its own. Only the two integers can be refused, and they are
refused exactly if they are set to a text that is no integer; the connections that are kept open go
before those that may be open beyond. What is empty is not set.

The integers are those of `Text.WritesInteger`, with blanks around them. Information separators
count as blanks only in some texts, and integers of very many digits are refused, so the exact
statement leaves out environments with either.

Results:
* `Settings.ofEnvironment_eq_ok_iff`, `Settings.ofEnvironment_eq_error_iff`: what is read, and what
  is refused.
* `Settings.IsReadFrom`: a setting is read from one variable.
* `Settings.ofEnvironment_firstMalformed_readFrom`: the malformed integers, the values of the
  others, and the variables that the settings depend on.
-/

namespace Disposition

namespace Environment

open Text

/-- The variables that should be integers, in the order in which they are read. -/
def integerNames : List String :=
  ["DB_POOL_SIZE", "DB_MAX_OVERFLOW"]

/-- The variables that should be integers have no separators and not too many digits. -/
def HasLimitedIntegers (env : Environment) : Prop :=
  ∀ name ∈ integerNames, ∀ s, env name = some s → Text.IsLimited s

/-- The variable is set, and what it is set to writes no integer, blanks around it aside. -/
def IsMalformed (env : Environment) (name s : String) : Prop :=
  env name = some s ∧ s ≠ "" ∧ ∀ n, ¬WritesInteger n (trim s.toList)

/-- The fault is the first variable that is malformed. -/
inductive FirstMalformed (env : Environment) : MalformedInteger → Prop
  /-- The connections that are kept open. -/
  | poolSize {s : String} (h : env.IsMalformed "DB_POOL_SIZE" s) :
      FirstMalformed env ⟨"DB_POOL_SIZE", s⟩
  /-- The connections beyond those, if the others are not malformed. -/
  | maxOverflow {s : String} (hfirst : ∀ t, ¬env.IsMalformed "DB_POOL_SIZE" t)
      (h : env.IsMalformed "DB_MAX_OVERFLOW" s) : FirstMalformed env ⟨"DB_MAX_OVERFLOW", s⟩

/-! ## Variables -/

variable {env : Environment} {name s : String}

theorem nonempty?_eq_some_iff : env.nonempty? name = some s ↔ env name = some s ∧ s ≠ "" := by
  simp [nonempty?, Option.filter_eq_some_iff]

theorem integer_eq_ok_iff {fallback n : Int} :
    env.integer name fallback = .ok n ↔
      env.nonempty? name = none ∧ n = fallback ∨
        ∃ s, env.nonempty? name = some s ∧ readInteger? s = some n := by
  unfold integer
  cases env.nonempty? name with
  | none => simp [eq_comm]
  | some s => cases hread : readInteger? s <;> simp [hread]

theorem integer_eq_error_iff {fallback : Int} {fault : MalformedInteger} :
    env.integer name fallback = .error fault ↔
      ∃ s, env.nonempty? name = some s ∧ readInteger? s = none ∧ fault = ⟨name, s⟩ := by
  unfold integer
  cases env.nonempty? name with
  | none => simp
  | some s => cases hread : readInteger? s <;> simp [hread, eq_comm]

/-- **A limited variable is refused if it is malformed**, and only then. -/
theorem HasLimitedIntegers.integer_eq_error_iff (h : env.HasLimitedIntegers)
    (hname : name ∈ integerNames)
    {fallback : Int} {fault : MalformedInteger} :
    env.integer name fallback = .error fault ↔
      ∃ s, env.IsMalformed name s ∧ fault = ⟨name, s⟩ := by
  rw [Environment.integer_eq_error_iff]
  refine exists_congr fun s => ?_
  rw [nonempty?_eq_some_iff, IsMalformed, and_assoc, and_assoc, and_assoc]
  refine and_congr_right fun hs => and_congr_right fun _ => and_congr_left fun _ => ?_
  rw [Option.eq_none_iff_forall_ne_some]
  exact forall_congr' fun n => not_congr (h name hname s hs).readInteger?_eq_some_iff

/-- What is read from a limited variable is the integer that it writes. -/
theorem HasLimitedIntegers.writes_of_integer (h : env.HasLimitedIntegers)
    (hname : name ∈ integerNames)
    {fallback n : Int} (hok : env.integer name fallback = .ok n) (hs : env name = some s)
    (hne : s ≠ "") : WritesInteger n (trim s.toList) := by
  have hset := nonempty?_eq_some_iff.mpr ⟨hs, hne⟩
  rcases integer_eq_ok_iff.mp hok with ⟨hnone, -⟩ | ⟨t, ht, hread⟩
  · cases hnone.symm.trans hset
  · obtain rfl := Option.some.inj (ht.symm.trans hset)
    exact (h name hname t hs).readInteger?_eq_some_iff.mp hread

end Environment

namespace Settings

open Text Environment

variable {env : Environment}

/-! ## What is read and what is refused -/

/-- The settings with those integers; the others cannot be refused. -/
def withIntegers (env : Environment) (poolSize maxOverflow : Int) : Settings where
  database :=
    { url := (env "DATABASE_URL").getD ({} : DatabaseSettings).url
      poolSize, maxOverflow
      echo := env.switch "DB_ECHO" }
  log := logOf env
  server := serverOf env

theorem ofEnvironment_eq_ok_iff {settings : Settings} :
    ofEnvironment env = .ok settings ↔
      ∃ poolSize, env.integer "DB_POOL_SIZE" 20 = .ok poolSize ∧
        ∃ maxOverflow, env.integer "DB_MAX_OVERFLOW" 10 = .ok maxOverflow ∧
          withIntegers env poolSize maxOverflow = settings := by
  unfold ofEnvironment databaseOf
  simp only [bind_eq_ok_iff, pure_eq_ok_iff]
  constructor
  · rintro ⟨_, ⟨poolSize, hpool, maxOverflow, hmax, rfl⟩, rfl⟩
    exact ⟨poolSize, hpool, maxOverflow, hmax, rfl⟩
  · rintro ⟨poolSize, hpool, maxOverflow, hmax, rfl⟩
    exact ⟨_, ⟨poolSize, hpool, maxOverflow, hmax, rfl⟩, rfl⟩

theorem ofEnvironment_eq_error_iff {fault : MalformedInteger} :
    ofEnvironment env = .error fault ↔
      env.integer "DB_POOL_SIZE" 20 = .error fault ∨
        ∃ poolSize, env.integer "DB_POOL_SIZE" 20 = .ok poolSize ∧
          env.integer "DB_MAX_OVERFLOW" 10 = .error fault := by
  unfold ofEnvironment databaseOf
  rw [bind_pure_eq_error_iff, bind_eq_error_iff]
  simp only [bind_pure_eq_error_iff]

/-! ## Plain environments -/

theorem mem_poolSize : "DB_POOL_SIZE" ∈ integerNames :=
  List.mem_cons_self

theorem mem_maxOverflow : "DB_MAX_OVERFLOW" ∈ integerNames :=
  List.mem_cons_of_mem _ List.mem_cons_self

/-- **What is refused is the first malformed integer.** -/
theorem ofEnvironment_eq_error_iff_first (h : env.HasLimitedIntegers) {fault : MalformedInteger} :
    ofEnvironment env = .error fault ↔ env.FirstMalformed fault := by
  rw [ofEnvironment_eq_error_iff, h.integer_eq_error_iff mem_poolSize,
    h.integer_eq_error_iff mem_maxOverflow]
  constructor
  · rintro (⟨s, hs, rfl⟩ | ⟨poolSize, hok, s, hs, rfl⟩)
    · exact .poolSize hs
    · refine .maxOverflow (fun t ht => ?_) hs
      have herror : env.integer "DB_POOL_SIZE" 20 = .error ⟨"DB_POOL_SIZE", t⟩ :=
        (h.integer_eq_error_iff mem_poolSize).mpr ⟨t, ht, rfl⟩
      cases hok.symm.trans herror
  · rintro (hs | ⟨hfirst, hs⟩)
    · exact .inl ⟨_, hs, rfl⟩
    · cases hpool : env.integer "DB_POOL_SIZE" 20 with
      | ok poolSize => exact .inr ⟨poolSize, rfl, _, hs, rfl⟩
      | error fault =>
        obtain ⟨t, ht, -⟩ := (h.integer_eq_error_iff mem_poolSize).mp hpool
        exact absurd ht (hfirst t)

/-- There is a first malformed integer if any is malformed. -/
theorem exists_firstMalformed_iff :
    (∃ fault, env.FirstMalformed fault) ↔ ∃ name ∈ integerNames, ∃ s, env.IsMalformed name s := by
  constructor
  · rintro ⟨_, hs | ⟨-, hs⟩⟩
    · exact ⟨_, mem_poolSize, _, hs⟩
    · exact ⟨_, mem_maxOverflow, _, hs⟩
  · rintro ⟨name, hname, s, hs⟩
    by_cases hpool : ∃ t, env.IsMalformed "DB_POOL_SIZE" t
    · obtain ⟨t, ht⟩ := hpool
      exact ⟨_, .poolSize ht⟩
    · rcases List.mem_cons.mp hname with rfl | hname
      · exact absurd ⟨s, hs⟩ hpool
      · obtain rfl := List.mem_singleton.mp hname
        exact ⟨_, .maxOverflow (fun t ht => hpool ⟨t, ht⟩) hs⟩

/-! ## One variable for each setting -/

/-- The setting is read from that variable and depends on no other one; it has its default if the
variable is not set. -/
def IsReadFrom {α : Type} (name : String) (setting : Settings → α) : Prop :=
  ∃ read : Option String → α, read none = setting {} ∧
    ∀ env settings, ofEnvironment env = .ok settings → setting settings = read (env name)

/-- A setting that is neither of the integers is read from its variable if it is in all
environments that agree on it. -/
theorem isReadFrom_of_apart {α : Type} {name : String} {setting : Settings → α}
    (read : Option String → α) (hdefault : read none = setting {})
    (h : ∀ env poolSize maxOverflow,
      setting (withIntegers env poolSize maxOverflow) = read (env name)) :
    IsReadFrom name setting := by
  refine ⟨read, hdefault, fun env settings hok => ?_⟩
  obtain ⟨poolSize, -, maxOverflow, -, rfl⟩ := ofEnvironment_eq_ok_iff.mp hok
  exact h env poolSize maxOverflow

/-- The integer that a variable stands for. -/
def integerOf (name : String) (fallback : Int) (v : Option String) : Int :=
  match Environment.integer (fun _ => v) name fallback with
  | .ok n => n
  | .error _ => fallback

theorem integerOf_eq {name : String} {fallback n : Int}
    (h : env.integer name fallback = .ok n) : integerOf name fallback (env name) = n := by
  have hsame : Environment.integer (fun _ => env name) name fallback = .ok n := h
  rw [integerOf, hsame]

theorem poolSize_isReadFrom : IsReadFrom "DB_POOL_SIZE" (·.database.poolSize) := by
  refine ⟨integerOf "DB_POOL_SIZE" 20, rfl, fun env settings hok => ?_⟩
  obtain ⟨poolSize, hpool, maxOverflow, -, rfl⟩ := ofEnvironment_eq_ok_iff.mp hok
  exact (integerOf_eq hpool).symm

theorem maxOverflow_isReadFrom : IsReadFrom "DB_MAX_OVERFLOW" (·.database.maxOverflow) := by
  refine ⟨integerOf "DB_MAX_OVERFLOW" 10, rfl, fun env settings hok => ?_⟩
  obtain ⟨poolSize, -, maxOverflow, hmax, rfl⟩ := ofEnvironment_eq_ok_iff.mp hok
  exact (integerOf_eq hmax).symm

/-- **Settings from an environment, exactly.** If the texts of the integers are limited, the
environment is refused if and only if one of them is malformed, with the first of those that are,
and else they are the integers that are written. Every setting is read from a variable of its own,
and the name of the service from none. -/
theorem ofEnvironment_firstMalformed_readFrom :
    (∀ env : Environment, env.HasLimitedIntegers →
      ((∃ fault, ofEnvironment env = .error fault) ↔
        ∃ name ∈ integerNames, ∃ s, env.IsMalformed name s) ∧
      (∀ fault, ofEnvironment env = .error fault ↔ env.FirstMalformed fault) ∧
      ∀ settings, ofEnvironment env = .ok settings →
        (∀ s, env "DB_POOL_SIZE" = some s → s ≠ "" →
          WritesInteger settings.database.poolSize (trim s.toList)) ∧
        ∀ s, env "DB_MAX_OVERFLOW" = some s → s ≠ "" →
          WritesInteger settings.database.maxOverflow (trim s.toList)) ∧
    (IsReadFrom "DATABASE_URL" (·.database.url) ∧
      IsReadFrom "DB_POOL_SIZE" (·.database.poolSize) ∧
      IsReadFrom "DB_MAX_OVERFLOW" (·.database.maxOverflow) ∧
      IsReadFrom "DB_ECHO" (·.database.echo) ∧
      IsReadFrom "LOG_LEVEL" (·.log.level) ∧
      IsReadFrom "LOG_FORMAT" (·.log.json) ∧
      IsReadFrom "CORS_ORIGINS" (·.server.allowedOrigins) ∧
      IsReadFrom "DEBUG" (·.server.debug)) ∧
    ∀ env settings, ofEnvironment env = .ok settings →
      settings.log.serviceName = ({} : LogSettings).serviceName := by
  refine ⟨fun env h =>
      ⟨?_, fun fault => ofEnvironment_eq_error_iff_first h, fun settings hok => ?_⟩,
    ⟨?_, poolSize_isReadFrom, maxOverflow_isReadFrom, ?_, ?_, ?_, ?_, ?_⟩,
    fun env settings hok => ?_⟩
  · rw [← exists_firstMalformed_iff]
    exact exists_congr fun fault => ofEnvironment_eq_error_iff_first h
  · obtain ⟨poolSize, hpool, maxOverflow, hmax, rfl⟩ := ofEnvironment_eq_ok_iff.mp hok
    exact ⟨fun s => h.writes_of_integer mem_poolSize hpool,
      fun s => h.writes_of_integer mem_maxOverflow hmax⟩
  · exact isReadFrom_of_apart (·.getD ({} : DatabaseSettings).url) rfl fun _ _ _ => rfl
  · exact isReadFrom_of_apart (fun v => Environment.switch (fun _ => v) "DB_ECHO") rfl
      fun _ _ _ => rfl
  · exact isReadFrom_of_apart (fun v => (logOf fun _ => v).level) rfl fun _ _ _ => rfl
  · exact isReadFrom_of_apart (fun v => (logOf fun _ => v).json) rfl fun _ _ _ => rfl
  · exact isReadFrom_of_apart (fun v => (serverOf fun _ => v).allowedOrigins) rfl fun _ _ _ => rfl
  · exact isReadFrom_of_apart (fun v => (serverOf fun _ => v).debug) rfl fun _ _ _ => rfl
  · obtain ⟨poolSize, -, maxOverflow, -, rfl⟩ := ofEnvironment_eq_ok_iff.mp hok
    rfl

/-- An environment with two integers, of which the second has two underscores side by side. -/
def cramped : Environment := fun name =>
  [("DB_POOL_SIZE", " +1_٢ "), ("DB_MAX_OVERFLOW", "1__0")].lookup name

theorem cramped_hasLimitedIntegers : cramped.HasLimitedIntegers := by
  intro name hname s hs
  rcases List.mem_cons.mp hname with rfl | hname
  · obtain rfl := Option.some.inj hs
    decide +kernel
  · obtain rfl := List.mem_singleton.mp hname
    obtain rfl := Option.some.inj hs
    decide +kernel

/-- The second integer is malformed, the first is not. -/
theorem ofEnvironment_firstMalformed_readFrom_cramped :
    cramped.HasLimitedIntegers ∧ cramped.FirstMalformed ⟨"DB_MAX_OVERFLOW", "1__0"⟩ := by
  have herror : ofEnvironment cramped = .error ⟨"DB_MAX_OVERFLOW", "1__0"⟩ := by decide +kernel
  have hlaw := ofEnvironment_firstMalformed_readFrom.1 cramped cramped_hasLimitedIntegers
  exact ⟨cramped_hasLimitedIntegers, (hlaw.2.1 _).mp herror⟩

end Settings

end Disposition
