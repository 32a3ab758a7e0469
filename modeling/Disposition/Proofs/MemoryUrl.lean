import Disposition.Database.Standard
import Disposition.Proofs.Work
import Mathlib.Data.List.Infix

/-!
# Addresses of databases in memory

The address of an SQLite database has a database behind a slash and a query behind a question mark,
and both may be missing. The database is opened in memory if it is missing, empty or `:memory:`.

The settings do not take the address apart: a database is taken to live in memory if the address
ends in `://` or has `:memory:` in it anywhere. That tells the usual addresses, but it is not the
same. An address with an empty database or with nothing but a query is missed, and a file is taken
to live in memory if the mark stands in its name or in the query. Then all connections to the file
are one. How connections are kept otherwise is up to the library that makes engines, of which only
`EngineLibrary.Lawful` is assumed.

Results:
* `FileUrl.isMemory_iff`: the addresses that are taken to be in memory.
* `EngineLibrary.standard_lawful`: what is assumed holds of the library that is installed.
* `FileUrl.isMemory_pool_iff`: the addresses for which that is right, and what becomes of the
  engine.
-/

namespace Disposition

/-! ## Words in parts of texts -/

namespace Text

/-- A word without the separator that starts a text ends before the separator. -/
theorem prefix_of_prefix_append_cons {word xs ys : List Char} {c : Char} (hc : c ∉ word)
    (h : word <+: xs ++ c :: ys) : word <+: xs := by
  rcases List.prefix_or_prefix_of_prefix h (List.prefix_append xs (c :: ys)) with h' | h'
  · exact h'
  · obtain ⟨rest, rfl⟩ := h'
    cases rest with
    | nil => rw [List.append_nil]
    | cons c' rest =>
      obtain ⟨rfl, -⟩ := List.cons_prefix_cons.mp ((List.prefix_append_right_inj xs).mp h)
      exact absurd (List.mem_append_right xs List.mem_cons_self) hc

/-- **A word without the separator stands on one side of it.** -/
theorem infix_append_cons_iff {word xs ys : List Char} {c : Char} (hc : c ∉ word) :
    word <:+: xs ++ c :: ys ↔ word <:+: xs ∨ word <:+: ys := by
  constructor
  · intro h
    induction xs with
    | nil =>
      rw [List.nil_append, List.infix_cons_iff] at h
      rcases h with h | h
      · have hprefix : word <+: [] := prefix_of_prefix_append_cons hc h
        exact .inl hprefix.isInfix
      · exact .inr h
    | cons x xs ih =>
      rw [List.cons_append, List.infix_cons_iff] at h
      rcases h with h | h
      · have hprefix : word <+: x :: xs := prefix_of_prefix_append_cons hc h
        exact .inl hprefix.isInfix
      · exact (ih h).imp_left List.infix_cons
  · rintro (h | h)
    · exact h.trans (List.prefix_append xs (c :: ys)).isInfix
    · exact h.trans ((List.suffix_cons c ys).trans (List.suffix_append xs (c :: ys))).isInfix

/-- A word without the separator that ends a text starts behind the separator. -/
theorem suffix_append_cons_iff {word xs ys : List Char} {c : Char} (hc : c ∉ word) :
    word <:+ xs ++ c :: ys ↔ word <:+ ys := by
  constructor
  · intro h
    rcases List.suffix_or_suffix_of_suffix h (List.suffix_append xs (c :: ys)) with h | h
    · rcases List.suffix_cons_iff.mp h with rfl | h
      · exact absurd List.mem_cons_self hc
      · exact h
    · exact absurd (h.subset List.mem_cons_self) hc
  · intro h
    exact h.trans ((List.suffix_cons c ys).trans (List.suffix_append xs (c :: ys)))

theorem splitFirst?_eq_none {separator : Char} {cs : List Char} (h : separator ∉ cs) :
    splitFirst? separator cs = none := by
  induction cs with
  | nil => rfl
  | cons c cs ih =>
    rw [List.mem_cons, not_or] at h
    rw [splitFirst?, if_neg (Ne.symm h.1), ih h.2]
    rfl

theorem splitLast?_eq_none {separator : Char} {cs : List Char} (h : separator ∉ cs) :
    splitLast? separator cs = none := by
  rw [splitLast?, splitFirst?_eq_none (by rwa [List.mem_reverse])]
  rfl

/-- Text without a percent sign stands for itself. -/
theorem percentDecode_of_not_mem {cs : List Char} (h : '%' ∉ cs) : percentDecode cs = cs := by
  rw [percentDecode]
  induction cs with
  | nil =>
    rw [percentDecodeFrom]
    rfl
  | cons c cs ih =>
    rw [List.mem_cons, not_or] at h
    have hescaped : escapedByte? (c :: cs) = none := by
      unfold escapedByte?
      split
      · exact absurd (List.cons.inj ‹_›).1 (Ne.symm h.1)
      · rfl
    rw [percentDecodeFrom]
    split
    · rename_i hsome
      cases hescaped.symm.trans hsome
    · exact congrArg (c :: ·) (ih h.2)

end Text

/-! ## Addresses -/

/-- The address of an SQLite database without a host. -/
structure FileUrl where
  /-- What stands behind the slash, if there is one. -/
  database : Option (List Char)
  /-- What stands behind the question mark, if there is one. -/
  query : Option (List Char)
  /-- The database ends before the question mark. -/
  database_ends : ∀ cs ∈ database, '?' ∉ cs

namespace FileUrl

/-- What stands before the database. -/
def start : List Char :=
  "sqlite+aiosqlite://".toList

/-- A part behind its mark, nothing if it is missing. -/
def part (mark : Char) : Option (List Char) → List Char
  | none => []
  | some cs => mark :: cs

/-- The text of the address. -/
def text (url : FileUrl) : String :=
  String.ofList (start ++ part '/' url.database ++ part '?' url.query)

/-- The settings with that address. -/
def inSettings (url : FileUrl) (settings : DatabaseSettings) : DatabaseSettings :=
  { settings with url := url.text }

/-- The address names no database, an empty one or the one in memory: these are opened in
memory. -/
def NamesMemory (url : FileUrl) : Prop :=
  url.database = none ∨ url.database = some [] ∨ url.database = some ":memory:".toList

/-- The database or the query has the mark of a database in memory in it. -/
def HasMark (url : FileUrl) : Prop :=
  (∃ cs ∈ url.database, ":memory:".toList <:+: cs) ∨ ∃ cs ∈ url.query, ":memory:".toList <:+: cs

/-- The last part ends like the start of an address. -/
def EndsOpen (url : FileUrl) : Prop :=
  (∃ cs ∈ url.query, "://".toList <:+ cs) ∨
    url.query = none ∧ ∃ cs ∈ url.database, "://".toList <:+ cs

/-- A database in memory that is not taken for one: nothing is named, but something stands behind
the slashes, and nothing in it looks like memory. -/
def IsMissed (url : FileUrl) : Prop :=
  (url.database = some [] ∨ url.database = none ∧ url.query ≠ none) ∧
    ¬url.HasMark ∧ ¬url.EndsOpen

/-- A file that is taken for a database in memory. -/
def IsMistaken (url : FileUrl) : Prop :=
  (∃ cs ∈ url.database, cs ≠ [] ∧ cs ≠ ":memory:".toList) ∧ (url.HasMark ∨ url.EndsOpen)

/-! ## What the settings see -/

theorem toList_text (url : FileUrl) :
    url.text.toList = start ++ part '/' url.database ++ part '?' url.query :=
  String.toList_ofList

/-- A word without the mark of a part stands before the part or in it. -/
theorem infix_append_part_iff {word xs : List Char} {mark : Char} (hmark : mark ∉ word)
    (p : Option (List Char)) :
    word <:+: xs ++ part mark p ↔ word <:+: xs ∨ ∃ cs ∈ p, word <:+: cs := by
  cases p with
  | none => simp [part]
  | some cs => simp [part, Text.infix_append_cons_iff hmark]

theorem contains_iff (url : FileUrl) :
    Text.contains ":memory:" url.text = true ↔ url.HasMark := by
  have hstart : ¬":memory:".toList <:+: start := by decide
  rw [Text.contains_iff, toList_text, infix_append_part_iff (by decide),
    infix_append_part_iff (by decide), HasMark, or_iff_right hstart]

/-- A database behind the slashes ends openly if it does so by itself. -/
theorem endsOpen_database_iff (cs : List Char) :
    "://".toList <:+ start ++ '/' :: cs ↔ "://".toList <:+ cs := by
  constructor
  · intro h
    rcases List.suffix_or_suffix_of_suffix h (List.suffix_append start ('/' :: cs)) with h' | h'
    · rcases List.suffix_cons_iff.mp h' with h' | h'
      · cases h'
      · exact h'
    · -- the database would be shorter than the word
      have hshort : cs = ['/'] ∨ cs = [] := by
        simpa [List.suffix_cons_iff] using h'
      rcases hshort with rfl | rfl
      · exact absurd h (by decide)
      · exact absurd h (by decide)
  · intro h
    exact h.trans ((List.suffix_cons '/' cs).trans (List.suffix_append start ('/' :: cs)))

theorem endsWith_iff (url : FileUrl) :
    Text.endsWith "://" url.text = true ↔
      url.database = none ∧ url.query = none ∨ url.EndsOpen := by
  have hmark : '?' ∉ "://".toList := by decide
  have hstart : "://".toList <:+ start := by decide
  rw [Text.endsWith_iff, toList_text, EndsOpen]
  cases url.query with
  | some cs => simp only [part, Text.suffix_append_cons_iff hmark]; simp
  | none =>
    rw [part, List.append_nil]
    cases url.database with
    | none => simpa [part] using hstart
    | some cs => rw [part, endsOpen_database_iff]; simp

theorem isSqlite_inSettings (url : FileUrl) (settings : DatabaseSettings) :
    (url.inSettings settings).isSqlite = true := by
  rw [DatabaseSettings.isSqlite, inSettings, Text.startsWith_iff, toList_text, List.append_assoc]
  exact (show "sqlite".toList <+: start by decide).trans (List.prefix_append start _)

/-- **The addresses that are taken to be in memory**: nothing stands behind the slashes, or the mark
stands somewhere, or the address ends openly. -/
theorem isMemory_iff (url : FileUrl) (settings : DatabaseSettings) :
    (url.inSettings settings).isMemory = true ↔
      url.database = none ∧ url.query = none ∨ url.HasMark ∨ url.EndsOpen := by
  rw [DatabaseSettings.isMemory, isSqlite_inSettings, Bool.true_and, Bool.or_eq_true, inSettings,
    endsWith_iff, contains_iff, or_assoc, or_comm (a := url.EndsOpen)]

theorem not_namesMemory_iff (url : FileUrl) :
    ¬url.NamesMemory ↔ ∃ cs ∈ url.database, cs ≠ [] ∧ cs ≠ ":memory:".toList := by
  rw [NamesMemory]
  cases url.database with
  | none => simp
  | some cs => simp

/-- The name of the database in memory has the mark in it. -/
theorem hasMark_of_database {url : FileUrl} (h : url.database = some ":memory:".toList) :
    url.HasMark :=
  .inl ⟨_, h, List.infix_refl _⟩

/-- An address is missed if it names memory and is not taken to be in memory. -/
theorem isMissed_iff (url : FileUrl) (settings : DatabaseSettings) :
    url.IsMissed ↔ url.NamesMemory ∧ ¬(url.inSettings settings).isMemory = true := by
  rw [isMemory_iff, IsMissed, NamesMemory]
  constructor
  · rintro ⟨hempty | ⟨hnone, hquery⟩, hmark, hopen⟩
    · refine ⟨.inr (.inl hempty), ?_⟩
      rintro (⟨hnone, -⟩ | h | h)
      · cases hnone.symm.trans hempty
      · exact hmark h
      · exact hopen h
    · refine ⟨.inl hnone, ?_⟩
      rintro (⟨-, hquery'⟩ | h | h)
      · exact hquery hquery'
      · exact hmark h
      · exact hopen h
  · rintro ⟨hnames, hnot⟩
    rw [not_or, not_or, not_and] at hnot
    refine ⟨?_, hnot.2.1, hnot.2.2⟩
    rcases hnames with hnone | hempty | hmemory
    · exact .inr ⟨hnone, hnot.1 hnone⟩
    · exact .inl hempty
    · exact absurd (hasMark_of_database hmemory) hnot.2.1

/-- An address is mistaken if it names no memory and is taken to be in memory. -/
theorem isMistaken_iff (url : FileUrl) (settings : DatabaseSettings) :
    url.IsMistaken ↔ ¬url.NamesMemory ∧ (url.inSettings settings).isMemory = true := by
  rw [isMemory_iff, IsMistaken, ← not_namesMemory_iff]
  refine and_congr_right fun hnames => (or_iff_right ?_).symm
  exact fun hnone => hnames (.inl hnone.1)

/-! ## The parts of the address -/

/-- The address, taken apart. -/
def parsed (url : FileUrl) : DatabaseUrl where
  name := "sqlite+aiosqlite"
  database := DatabaseUrl.decoded url.database
  query := Text.queryPairs ((url.query.map (·.takeWhile fun c => !(c = '\n'))).getD [])

/-- No sign in the address makes a part of it a user, and none stands for another character of the
database. -/
structure IsVerbatim (url : FileUrl) : Prop where
  /-- If there is no database, no user ends in the query. -/
  user : url.database = none → ∀ cs ∈ url.query, '@' ∉ cs
  /-- The database is written as it is. -/
  database : ∀ cs ∈ url.database, '%' ∉ cs

/-- The name ends at the slashes. -/
theorem splitName?_start (rest : List Char) :
    DatabaseUrl.splitName? (start ++ rest) = some ("sqlite+aiosqlite".toList, rest) := by
  rfl

theorem splitUser_of_not_mem {cs : List Char} (h : '@' ∉ cs) :
    DatabaseUrl.splitUser cs = (none, none, cs) := by
  unfold DatabaseUrl.splitUser
  generalize hinUser : (fun c : Char => decide (c ≠ ':') && decide (c ≠ '/')) = inUser
  have hhead : Text.splitLast? '@' (cs.takeWhile inUser) = none :=
    Text.splitLast?_eq_none fun hm => h ((List.takeWhile_prefix inUser).subset hm)
  have htail : '@' ∉ cs.dropWhile inUser := fun hm =>
    h ((List.dropWhile_suffix inUser).subset hm)
  have hpassword : ∀ rest, cs.dropWhile inUser = ':' :: rest → Text.splitFirst? '@' rest = none :=
    fun rest heq => Text.splitFirst?_eq_none fun hm => htail (heq ▸ List.mem_cons_of_mem _ hm)
  simp only [hhead]
  cases hrest : cs.dropWhile inUser with
  | nil => rfl
  | cons c rest =>
    by_cases hc : c = ':'
    · subst hc
      simp only [hpassword rest hrest]
    · split
      · rename_i heq
        split at heq
        · exact absurd (List.cons.inj ‹_›).1 hc
        · cases heq
      · contradiction
      · rfl

/-- No user is found behind the slashes. -/
theorem IsVerbatim.splitUser {url : FileUrl} (h : url.IsVerbatim) :
    DatabaseUrl.splitUser (part '/' url.database ++ part '?' url.query) =
      (none, none, part '/' url.database ++ part '?' url.query) := by
  cases hdatabase : url.database with
  | some cs => rfl
  | none =>
    cases hquery : url.query with
    | none => rfl
    | some cs =>
      exact splitUser_of_not_mem (List.not_mem_cons_of_ne_of_not_mem (by decide)
        (h.user hdatabase cs hquery))

/-- Neither is a host. -/
theorem splitHost_parts (url : FileUrl) :
    DatabaseUrl.splitHost (part '/' url.database ++ part '?' url.query) =
      ([], part '/' url.database ++ part '?' url.query) := by
  cases url.database with
  | some cs => rfl
  | none => cases url.query <;> rfl

/-- Neither is a port. -/
theorem splitPort_parts (url : FileUrl) (isEnd : Char → Bool) :
    DatabaseUrl.splitPart ':' isEnd (part '/' url.database ++ part '?' url.query) =
      (none, part '/' url.database ++ part '?' url.query) := by
  cases url.database with
  | some cs => rfl
  | none => cases url.query <;> rfl

/-- The database ends at the question mark. -/
theorem splitDatabase_parts (url : FileUrl) :
    DatabaseUrl.splitPart '/' (· = '?') (part '/' url.database ++ part '?' url.query) =
      (url.database, part '?' url.query) := by
  cases hdatabase : url.database with
  | none => cases url.query <;> rfl
  | some cs =>
    have hcs : ∀ c ∈ cs, (!decide (c = '?')) = true := by
      intro c hc
      have hne : c ≠ '?' := fun heq => url.database_ends cs hdatabase (heq ▸ hc)
      simp [hne]
    rw [part, List.cons_append, DatabaseUrl.splitPart, if_pos rfl,
      List.takeWhile_append_of_pos hcs, List.dropWhile_append_of_pos hcs]
    cases url.query with
    | none => rw [part, List.takeWhile_nil, List.dropWhile_nil, List.append_nil]
    | some query =>
      rw [part, List.takeWhile_cons_of_neg (by simp), List.dropWhile_cons_of_neg (by simp),
        List.append_nil]

theorem splitQuery_part (url : FileUrl) (isEnd : Char → Bool) :
    (DatabaseUrl.splitPart '?' isEnd (part '?' url.query)).1 =
      url.query.map (·.takeWhile (!isEnd ·)) := by
  cases url.query <;> rfl

/-- **A verbatim address is read as its parts.** -/
theorem IsVerbatim.read? {url : FileUrl} (h : url.IsVerbatim) :
    DatabaseUrl.read? url.text = some url.parsed := by
  unfold DatabaseUrl.read?
  rw [toList_text, List.append_assoc, splitName?_start]
  simp only [Option.bind_eq_bind, Option.bind_some, h.splitUser, splitHost_parts, splitPort_parts,
    splitDatabase_parts, splitQuery_part]
  rfl

/-! ## The engine -/

/-- SQLite opens in memory what the address names so, if the query does not ask for it. -/
theorem IsVerbatim.opensInMemory_iff {url : FileUrl} (h : url.IsVerbatim)
    (hmode : url.parsed.queryValues "mode" ≠ ["memory"]) :
    url.parsed.opensInMemory = true ↔ url.NamesMemory := by
  rw [DatabaseUrl.opensInMemory, decide_eq_false hmode, Bool.or_false, NamesMemory, parsed]
  cases hdatabase : url.database with
  | none => simp [DatabaseUrl.decoded, DatabaseUrl.isGiven]
  | some cs =>
    have hname : DatabaseUrl.decoded (some cs) = some (String.ofList cs) := by
      rw [DatabaseUrl.decoded, Option.map_some,
        Text.percentDecode_of_not_mem (h.database cs hdatabase)]
    have hmemory : String.ofList cs = ":memory:" ↔ cs = ":memory:".toList := by
      rw [← String.toList_inj, String.toList_ofList]
    simp [hname, DatabaseUrl.isGiven, hmemory]

/-- The driver of such an address. -/
theorem find_parsed (url : FileUrl) :
    Driver.find url.parsed.name =
      .ok ⟨["sqlite+aiosqlite"], "sqlite", "aiosqlite", .ready⟩ := by
  have hname : url.parsed.name = "sqlite+aiosqlite" := rfl
  rw [hname]
  decide +kernel

/-- **What the library is told of the pool**: one connection for all, for what is in memory unless
it is missed, and for what is mistaken. -/
theorem engineCall_pool_iff (url : FileUrl) (settings : DatabaseSettings) :
    (url.inSettings settings).engineCall.pool = some .single ↔
      url.NamesMemory ∧ ¬url.IsMissed ∨ url.IsMistaken := by
  rw [DatabaseSettings.engineCall, if_pos (url.isSqlite_inSettings settings),
    isMissed_iff url settings, isMistaken_iff url settings]
  by_cases hmemory : (url.inSettings settings).isMemory = true
  · simp [hmemory, em]
  · simp [hmemory]

end FileUrl

namespace EngineLibrary

/-- What is known of a library that makes engines. -/
structure Lawful (library : EngineLibrary) : Prop where
  /-- Connections are kept as the library is told. -/
  told : ∀ {call : EngineCall} {pool : Pool} {engine : Engine}, call.pool = some pool →
    library call = .ok engine → engine.pool = pool
  /-- If it is not told, a database has one connection for all if it is in memory. A database
  without a name is, if the query does not ask for something else. -/
  untold : ∀ {call : EngineCall} {url : FileUrl} {engine : Engine}, url.IsVerbatim →
    url.parsed.queryValues "mode" ≠ ["memory"] → call.url = url.text → call.pool = none →
      library call = .ok engine → (engine.pool = .single ↔ url.NamesMemory)

/-- The library as it is installed takes the address apart. -/
theorem pool_of_standard {call : EngineCall} {engine : Engine} (h : standard call = .ok engine) :
    ∃ parsed driver, DatabaseUrl.read? call.url = some parsed ∧
      Driver.find parsed.name = .ok driver ∧
        engine.pool = call.pool.getD (.standard parsed driver) := by
  unfold standard at h
  cases hread : DatabaseUrl.read? call.url with
  | none =>
    rw [hread] at h
    cases h
  | some parsed =>
    rw [hread] at h
    obtain ⟨port, -, h⟩ := bind_eq_ok_iff.mp h
    obtain ⟨-, -, h⟩ := bind_eq_ok_iff.mp h
    obtain ⟨driver, hdriver, h⟩ := bind_eq_ok_iff.mp h
    obtain ⟨-, -, h⟩ := bind_eq_ok_iff.mp h
    obtain ⟨-, -, h⟩ := bind_eq_ok_iff.mp h
    cases h
    exact ⟨parsed, driver, rfl, hdriver, rfl⟩

/-- **The library as it is installed is such a library.** -/
theorem standard_lawful : standard.Lawful where
  told hpool h := by
    obtain ⟨parsed, driver, -, -, hkept⟩ := pool_of_standard h
    rw [hkept, hpool, Option.getD_some]
  untold {call url engine} hverbatim hmode hurl hpool h := by
    obtain ⟨parsed, driver, hread, hdriver, hkept⟩ := pool_of_standard h
    rw [hurl, hverbatim.read?, Option.some.injEq] at hread
    subst hread
    rw [url.find_parsed, Except.ok.injEq] at hdriver
    subst hdriver
    rw [hkept, hpool, Option.getD_none, Pool.standard, ← hverbatim.opensInMemory_iff hmode]
    cases url.parsed.opensInMemory <;> simp

end EngineLibrary

namespace FileUrl

/-- **One connection for all**: the databases in memory have it, and the files that are mistaken for
one. -/
theorem IsVerbatim.pool_iff {url : FileUrl} (h : url.IsVerbatim)
    (hmode : url.parsed.queryValues "mode" ≠ ["memory"]) {library : EngineLibrary}
    (hlawful : library.Lawful) {settings : DatabaseSettings} {engine : Engine}
    (hengine : Engine.build library (url.inSettings settings) = .ok engine) :
    engine.pool = .single ↔ url.NamesMemory ∨ url.IsMistaken := by
  have hcall : (url.inSettings settings).engineCall =
      { url := url.text, echo := settings.echo,
        pool := if (url.inSettings settings).isMemory then some .single else none } := by
    rw [DatabaseSettings.engineCall, if_pos (url.isSqlite_inSettings settings)]
    rfl
  rw [Engine.build, hcall] at hengine
  rw [isMistaken_iff url settings]
  by_cases hmemory : (url.inSettings settings).isMemory = true
  · rw [hlawful.told (if_pos hmemory) hengine]
    simp [hmemory, em]
  · rw [hlawful.untold h hmode rfl (if_neg hmemory) hengine]
    simp [hmemory]

/-- **Databases in memory, exactly.** What is taken to be in memory is in memory, and what is in
memory is taken to be, but for the addresses that are missed and those that are mistaken; and so the
library is told to have one connection for all. A library that has one anyway for what is in memory
makes up for the former, but not for the latter. -/
theorem isMemory_pool_iff (url : FileUrl) (settings : DatabaseSettings) :
    ((url.inSettings settings).isMemory = true ↔
      url.database = none ∧ url.query = none ∨ url.HasMark ∨ url.EndsOpen) ∧
    (((url.inSettings settings).isMemory = true ↔ url.NamesMemory) ↔
      ¬url.IsMissed ∧ ¬url.IsMistaken) ∧
    ((url.inSettings settings).engineCall.pool = some .single ↔
      url.NamesMemory ∧ ¬url.IsMissed ∨ url.IsMistaken) ∧
    (∀ library : EngineLibrary, library.Lawful → url.IsVerbatim →
      url.parsed.queryValues "mode" ≠ ["memory"] →
        ∀ engine, Engine.build library (url.inSettings settings) = .ok engine →
          (engine.pool = .single ↔ url.NamesMemory ∨ url.IsMistaken)) := by
  refine ⟨url.isMemory_iff settings, ?_, url.engineCall_pool_iff settings,
    fun library hlawful h hmode engine => h.pool_iff hmode hlawful⟩
  rw [isMissed_iff url settings, isMistaken_iff url settings]
  by_cases hnames : url.NamesMemory
  · simp [hnames]
  · simp [hnames]

/-- A file with the mark in its name. -/
def markedFile : FileUrl where
  database := some "/data/x:memory:.db".toList
  query := none
  database_ends := by decide

theorem markedFile_isVerbatim : markedFile.IsVerbatim where
  user := nofun
  database := by decide

theorem markedFile_isMistaken : markedFile.IsMistaken :=
  ⟨⟨_, rfl, by decide⟩, .inl (.inl ⟨_, rfl, by decide⟩)⟩

theorem markedFile_parsed : markedFile.parsed =
    { name := "sqlite+aiosqlite", database := some "/data/x:memory:.db" } := by
  decide +kernel

theorem markedFile_engine : Engine.build .standard (markedFile.inSettings {}) = .ok
    { pool := .single, dialect := "sqlite", driver := "aiosqlite", echo := false,
      prePing := false, database := some "/data/x:memory:.db", bounds := none } := by
  decide +kernel

/-- All connections to that file are one. -/
theorem isMemory_pool_iff_markedFile :
    EngineLibrary.standard.Lawful ∧ markedFile.IsVerbatim ∧
      markedFile.parsed.queryValues "mode" ≠ ["memory"] ∧ ¬markedFile.NamesMemory ∧
      (markedFile.inSettings {}).engineCall.pool = some .single ∧
      ∃ engine, Engine.build .standard (markedFile.inSettings {}) = .ok engine ∧
        engine.pool = .single := by
  have hmode : markedFile.parsed.queryValues "mode" ≠ ["memory"] := by
    rw [markedFile_parsed]
    decide
  obtain ⟨-, -, htold, hpool⟩ := isMemory_pool_iff markedFile {}
  refine ⟨EngineLibrary.standard_lawful, markedFile_isVerbatim, hmode, ?_,
    htold.mpr (.inr markedFile_isMistaken), _, markedFile_engine, ?_⟩
  · exact ((isMistaken_iff markedFile {}).mp markedFile_isMistaken).1
  · exact (hpool _ EngineLibrary.standard_lawful markedFile_isVerbatim hmode _
      markedFile_engine).mpr (.inr markedFile_isMistaken)

/-- A slash with nothing behind it. -/
def unnamed : FileUrl where
  database := some []
  query := none
  database_ends := by decide

/-- A database whose name is left empty is in memory, but is not taken to be. -/
theorem not_forall_isMemory_iff_namesMemory :
    ¬∀ (url : FileUrl) (settings : DatabaseSettings),
      (∀ cs ∈ url.database, ¬"file:".toList <+: cs) →
      url.parsed.queryValues "mode" ≠ ["memory"] →
      ((url.inSettings settings).isMemory = true ↔ url.NamesMemory) := by
  intro h
  have hfile : ∀ cs ∈ unnamed.database, ¬"file:".toList <+: cs := by decide
  have hmode : unnamed.parsed.queryValues "mode" ≠ ["memory"] := by decide
  have hmemory := (h unnamed {} hfile hmode).mpr (.inr (.inl rfl))
  exact absurd hmemory (by decide)

end FileUrl

end Disposition
