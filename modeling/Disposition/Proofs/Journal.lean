import Disposition.Journal
import Disposition.Proofs.DataLine
import Disposition.Proofs.LogLibrary
import Mathlib.Data.List.Induction

/-!
# What the journal writes

The journal changes with every shop that is bound, and nothing else changes it. What it writes for
an entry thus depends on the entry, on the settings and on the steps before it, and the steps before
it matter only for the shop. This holds with every library that has the laws.

An ordinary entry below the least severity writes nothing, whatever its arguments are, since they
are looked at only afterwards. Any other one writes one line, or its arguments do not fit its words,
or one of its facts has no text as data. The parts of the service that access the database have a
least severity of their own.

Results:
* `Journal.run_append`: a run goes on from where its first part ends.
* `Journal.bound_after`: what is bound after some steps.
* `Journal.process_eq`: an entry on its way through the processors.
* `Journal.isLine_lineOf`: the facts of a line, one by one.
* `Journal.run_answers`: what a run writes for an entry.
-/

namespace Disposition

/-! ## Facts -/

namespace Line

theorem lookup_withDefault_self (name : String) (v : Value) (line : Line) :
    (line.withDefault name v).lookup name = some ((line.lookup name).getD v) := by
  rw [withDefault]
  cases h : line.lookup name with
  | none => exact Value.lookup_setMember_self name v line
  | some w => exact h

theorem lookup_withDefault_of_ne {name other : String} (h : other ≠ name) (v : Value)
    (line : Line) : (line.withDefault name v).lookup other = line.lookup other := by
  rw [withDefault]
  split
  · rfl
  · exact Value.lookup_setMember_of_ne h v line

/-- What is given wins over a default. -/
theorem lookup_withDefaults (line defaults : Line) (name : String) :
    (line.withDefaults defaults).lookup name = (line.lookup name).or (defaults.lookup name) := by
  induction defaults generalizing line with
  | nil => rw [List.lookup_nil, Option.or_none]; rfl
  | cons default defaults ih =>
    obtain ⟨other, v⟩ := default
    refine (ih (line.withDefault other v)).trans ?_
    by_cases hname : name = other
    · subst hname
      rw [lookup_withDefault_self, List.lookup_cons_self]
      cases line.lookup name <;> rfl
    · have hskip : (name == other) = false := by simpa using hname
      rw [lookup_withDefault_of_ne hname, List.lookup_cons, hskip]

theorem mem_withDefault {name : String} {v : Value} {line : Line} {field : String × Value}
    (h : field ∈ line.withDefault name v) : field = (name, v) ∨ field ∈ line := by
  rw [withDefault] at h
  split at h
  · exact .inr h
  · exact Value.mem_setMember h

theorem mem_withDefaults {line defaults : Line} {field : String × Value}
    (h : field ∈ line.withDefaults defaults) : field ∈ defaults ∨ field ∈ line := by
  induction defaults generalizing line with
  | nil => exact .inr h
  | cons default defaults ih =>
    rcases ih h with hm | hm
    · exact .inl (List.mem_cons_of_mem _ hm)
    · rcases mem_withDefault hm with rfl | hm
      · exact .inl List.mem_cons_self
      · exact .inr hm

end Line

namespace Journal

variable {library : LogLibrary}

/-! ## Runs -/

/-- The journal after some steps. -/
def after (library : LogLibrary) (journal : Journal) (steps : List Step) : Journal :=
  steps.foldl (next library) journal

theorem after_concat (journal : Journal) (steps : List Step) (step : Step) :
    journal.after library (steps ++ [step]) = (journal.after library steps).next library step := by
  rw [after, List.foldl_append]
  rfl

/-- A run goes on from where its first part ends. -/
theorem run_append (journal : Journal) (steps later : List Step) :
    journal.run library (steps ++ later) =
      journal.run library steps ++ (journal.after library steps).run library later := by
  induction steps generalizing journal with
  | nil => rfl
  | cons step steps ih =>
    exact congrArg (journal.written library step :: ·) (ih (journal.next library step))

theorem length_run (journal : Journal) (steps : List Step) :
    (journal.run library steps).length = steps.length := by
  induction steps generalizing journal with
  | nil => rfl
  | cons step steps ih => exact congrArg (· + 1) (ih (journal.next library step))

/-- What a run writes for a step is what the journal after the steps before it writes. -/
theorem getElem?_run (journal : Journal) (before later : List Step) (step : Step) :
    (journal.run library (before ++ step :: later))[before.length]? =
      some ((journal.after library before).written library step) := by
  rw [run_append, List.getElem?_append_right (by simp [length_run]), length_run, Nat.sub_self]
  rfl

/-- Of a journal only what is bound changes. -/
theorem after_eq (journal : Journal) (steps : List Step) :
    journal.after library steps =
      { journal with bound := (journal.after library steps).bound } := by
  induction steps using List.reverseRecOn with
  | nil => rfl
  | append_singleton steps step ih =>
    rw [after_concat, ih]
    cases step <;> rfl

/-! ## The bound shop -/

/-- A shop is bound after some steps: one of them binds it, and behind that one nothing is bound and
nothing is cleared. -/
def IsBound (steps : List Step) (shop : String) : Prop :=
  ∃ earlier later, steps = earlier ++ .bindShop shop :: later ∧
    .clear ∉ later ∧ ∀ other, .bindShop other ∉ later

theorem not_isBound_nil (shop : String) : ¬IsBound [] shop := by
  rintro ⟨earlier, later, h, -⟩
  simp at h

/-- The last step binds the shop, or it is an entry and the steps before it bind the shop. -/
theorem isBound_concat_iff (steps : List Step) (step : Step) (shop : String) :
    IsBound (steps ++ [step]) shop ↔
      step = .bindShop shop ∨ (∃ entry, step = .write entry) ∧ IsBound steps shop := by
  constructor
  · rintro ⟨earlier, later, h, hclear, hbind⟩
    rcases List.eq_nil_or_concat later with rfl | ⟨later, last, rfl⟩
    · exact .inl (List.singleton_inj.mp (List.append_inj' h rfl).2)
    · rw [List.concat_eq_append, List.mem_append, not_or] at hclear
      rw [List.concat_eq_append, ← List.cons_append, ← List.append_assoc] at h
      obtain ⟨rfl, hlast⟩ := List.append_inj' h rfl
      obtain rfl := List.singleton_inj.mp hlast
      refine .inr ⟨?_, earlier, later, rfl, hclear.1, fun other hm => hbind other ?_⟩
      · cases step with
        | bindShop other => exact absurd (by simp) (hbind other)
        | clear => exact absurd List.mem_cons_self hclear.2
        | write entry => exact ⟨entry, rfl⟩
      · exact List.concat_eq_append ▸ List.mem_append_left _ hm
  · rintro (rfl | ⟨⟨entry, rfl⟩, earlier, later, rfl, hclear, hbind⟩)
    · exact ⟨steps, [], rfl, List.not_mem_nil, fun _ => List.not_mem_nil⟩
    · exact ⟨earlier, later ++ [.write entry], by simp, by simpa using hclear, by simpa using hbind⟩

/-- The facts that are bound with a shop, or without one. -/
def shopFacts (shop : Option String) : Line :=
  (shop.map fun shop => ("shop", .text shop)).toList

/-- **What is bound** after some steps is the shop that they bind, and nothing else. -/
theorem bound_after (hl : library.Lawful) {journal : Journal} (h : journal.bound = [])
    (steps : List Step) : ∃ shop, (journal.after library steps).bound = shopFacts shop ∧
      ∀ name, shop = some name ↔ IsBound steps name := by
  induction steps using List.reverseRecOn with
  | nil => exact ⟨none, h, fun name => iff_of_false nofun (not_isBound_nil name)⟩
  | append_singleton steps step ih =>
    obtain ⟨shop, hbound, hshop⟩ := ih
    simp only [after_concat, isBound_concat_iff]
    cases step with
    | bindShop other =>
      refine ⟨some other, ?_, fun name => by simp⟩
      rw [next, hl.bind, hbound]
      cases shop <;> rfl
    | clear => exact ⟨none, hl.clear _, fun name => by simp⟩
    | write entry => exact ⟨shop, hbound, fun name => by simp [hshop]⟩

theorem lookup_shopFacts (shop : Option String) :
    (shopFacts shop).lookup "shop" = shop.map .text := by
  cases shop <;> rfl

theorem lookup_shopFacts_of_ne {name : String} (h : name ≠ "shop") (shop : Option String) :
    (shopFacts shop).lookup name = none := by
  have hskip : (name == "shop") = false := by simpa using h
  cases shop <;> simp [shopFacts, List.lookup_cons, hskip]

end Journal

/-! ## The way of an ordinary entry -/

namespace Entry

/-- The words of the entry with its arguments in them, or why these do not fit. -/
def words (entry : Entry) : Except TemplateFault String :=
  if entry.arguments = [] then .ok entry.event
  else Template.fill entry.room entry.event (.ofList entry.arguments)

/-- Only arguments can fail to fit. -/
theorem words_eq_error {entry : Entry} {fault : TemplateFault} (h : entry.words = .error fault) :
    entry.arguments ≠ [] ∧
      Template.fill entry.room entry.event (.ofList entry.arguments) = .error fault := by
  rw [words] at h
  split at h
  · cases h
  · exact ⟨‹_›, h⟩

end Entry

namespace Journal

section Way

variable {library : LogLibrary} {journal : Journal} {entry : Entry} {occasion : Occasion}

/-- The facts of an entry before its arguments are filled in. -/
def namedFacts (journal : Journal) (occasion : Occasion) (entry : Entry) : Line :=
  Value.setMember "level" (.text occasion.level.name) <|
    Value.setMember "logger" (.text occasion.logger) <|
    Line.withDefaults (Value.setMember "event" (.text entry.event) entry.fields) journal.bound

/-- The facts of the line of an entry with these words. -/
def lineOf (journal : Journal) (occasion : Occasion) (entry : Entry) (event : String) : Line :=
  Line.withDefault "service" (.text journal.service) <|
    Value.setMember "timestamp" (.text occasion.time) <|
    Value.setMember "event" (.text event) (journal.namedFacts occasion entry)

/-- What is neither told nor named is given or bound. -/
theorem lookup_namedFacts {name : String} (hname : name ∉ ["event", "level", "logger"]) :
    (journal.namedFacts occasion entry).lookup name =
      (entry.fields.lookup name).or (journal.bound.lookup name) := by
  simp only [List.mem_cons, List.not_mem_nil, or_false, not_or] at hname
  obtain ⟨hevent, hlevel, hlogger⟩ := hname
  rw [namedFacts, Value.lookup_setMember_of_ne hlevel, Value.lookup_setMember_of_ne hlogger,
    Line.lookup_withDefaults, Value.lookup_setMember_of_ne hevent]

theorem lookup_event_namedFacts :
    (journal.namedFacts occasion entry).lookup "event" = some (.text entry.event) := by
  rw [namedFacts, Value.lookup_setMember_of_ne (by decide),
    Value.lookup_setMember_of_ne (by decide), Line.lookup_withDefaults,
    Value.lookup_setMember_self, Option.some_or]

theorem lookup_lineOf {name event : String}
    (hname : name ∉ ["event", "level", "logger", "service", "timestamp"]) :
    (journal.lineOf occasion entry event).lookup name =
      (entry.fields.lookup name).or (journal.bound.lookup name) := by
  simp only [List.mem_cons, List.not_mem_nil, or_false, not_or] at hname
  obtain ⟨hevent, hlevel, hlogger, hservice, htime⟩ := hname
  rw [lineOf, Line.lookup_withDefault_of_ne hservice, Value.lookup_setMember_of_ne htime,
    Value.lookup_setMember_of_ne hevent, lookup_namedFacts (by simp [*])]

/-- A fact of a line is given, or it is a text. -/
theorem mem_lineOf {event : String} {field : String × Value}
    (hbound : ∀ bound ∈ journal.bound, ∃ s, bound.2 = .text s)
    (h : field ∈ journal.lineOf occasion entry event) :
    field ∈ entry.fields ∨ ∃ s, field.2 = .text s := by
  rcases Line.mem_withDefault h with rfl | h
  · exact .inr ⟨_, rfl⟩
  rcases Value.mem_setMember h with rfl | h
  · exact .inr ⟨_, rfl⟩
  rcases Value.mem_setMember h with rfl | h
  · exact .inr ⟨_, rfl⟩
  rcases Value.mem_setMember h with rfl | h
  · exact .inr ⟨_, rfl⟩
  rcases Value.mem_setMember h with rfl | h
  · exact .inr ⟨_, rfl⟩
  rcases Line.mem_withDefaults h with h | h
  · exact .inr (hbound field h)
  rcases Value.mem_setMember h with rfl | h
  · exact .inr ⟨_, rfl⟩
  · exact .inl h

/-- No name that the library takes for itself is bound. -/
def BindsNoTaken (journal : Journal) : Prop :=
  ∀ name ∈ Entry.takenNames, journal.bound.lookup name = none

/-- A name that the library takes for itself is no fact, the words aside. -/
theorem lookup_taken_namedFacts (h : entry.IsOrdinary) (hbound : journal.BindsNoTaken)
    {name : String} (hname : name ∈ Entry.takenNames) (hevent : name ≠ "event") :
    (journal.namedFacts occasion entry).lookup name = none := by
  have hfree : ∀ name ∈ Entry.takenNames, name ≠ "event" → name ∉ ["event", "level", "logger"] := by
    decide
  rw [lookup_namedFacts (hfree name hname hevent), h.lookup hname, hbound name hname]
  rfl

theorem process_cons (processor : Processor) (processors : List Processor) (draft : Draft) :
    process occasion (processor :: processors) draft =
      processor occasion draft >>= fun
        | some draft => process occasion processors draft
        | none => pure none :=
  rfl

theorem process_cons_of_some {processor : Processor} {draft changed : Draft}
    (h : processor occasion draft = .ok (some changed)) (processors : List Processor) :
    process occasion (processor :: processors) draft = process occasion processors changed := by
  rw [process_cons, h]
  rfl

/-- The arguments of an ordinary entry are filled into its words. -/
theorem fillArguments_eq (hl : library.Lawful) (h : entry.IsOrdinary)
    (hbound : journal.BindsNoTaken) (hroom : occasion.room = entry.room) :
    library.fillArguments occasion
        { fields := journal.namedFacts occasion entry, arguments := entry.arguments } =
      (entry.words.mapError .template).map fun event =>
        some { fields :=
          Value.setMember "event" (.text event) (journal.namedFacts occasion entry) } := by
  have hplaces : (journal.namedFacts occasion entry).lookup "positional_args" = none :=
    lookup_taken_namedFacts h hbound (by decide) (by decide)
  rw [Entry.words]
  split
  · rename_i hnil
    rw [hl.keepWords _ _ hnil hplaces, hnil]
    simp only [Except.mapError, Except.map, Value.setMember_of_lookup lookup_event_namedFacts]
  · rename_i hne
    rw [hl.fillWords _ _ _ hne hplaces lookup_event_namedFacts, hroom]

/-- Behind the words come the time and the service. -/
theorem process_named (hl : library.Lawful) (h : entry.IsOrdinary) (hbound : journal.BindsNoTaken)
    (event : String) :
    process occasion
        [library.addTime, library.addTrace, library.addFailure, library.decode,
          addService journal.service]
        { fields := Value.setMember "event" (.text event) (journal.namedFacts occasion entry) } =
      .ok (some { fields := journal.lineOf occasion entry event }) := by
  have hfree : ∀ name ∈ Entry.takenNames, name ≠ "event" → name ≠ "timestamp" →
      (Value.setMember "timestamp" (.text occasion.time)
        (Value.setMember "event" (.text event) (journal.namedFacts occasion entry))).lookup name =
          none := by
    intro name hname hevent htime
    rw [Value.lookup_setMember_of_ne htime, Value.lookup_setMember_of_ne hevent,
      lookup_taken_namedFacts h hbound hname hevent]
  rw [process_cons_of_some (hl.addTime _ _),
    process_cons_of_some (hl.addTrace _ _ (hfree _ (by decide) (by decide) (by decide))),
    process_cons_of_some (hl.addFailure _ _ (hfree _ (by decide) (by decide) (by decide))),
    process_cons_of_some (hl.decode _ _)]
  rfl

/-- **The way of an ordinary entry.** It is dropped before its arguments are looked at if it is not
severe enough, and else comes to its line if its arguments fit its words. -/
theorem process_eq (hl : library.Lawful) (h : entry.IsOrdinary) (hbound : journal.BindsNoTaken)
    (hroom : occasion.room = entry.room) :
    process occasion (journal.processors library)
        { fields := Value.setMember "event" (.text entry.event) entry.fields
          arguments := entry.arguments } =
      if occasion.isEnabled then
        (entry.words.mapError .template).map fun event =>
          some { fields := journal.lineOf occasion entry event }
      else .ok none := by
  have hrecord : (Line.withDefaults (Value.setMember "event" (.text entry.event) entry.fields)
      journal.bound).lookup "_record" = none := by
    rw [Line.lookup_withDefaults, Value.lookup_setMember_of_ne (by decide), h.lookup (by decide),
      hbound _ (by decide)]
    rfl
  rw [processors, process_cons_of_some (hl.mergeBound _ _ _), process_cons, hl.filterByLevel]
  split
  · rw [ok_bind]
    dsimp only
    rw [process_cons_of_some (hl.addLogger _ _ hrecord), process_cons_of_some (hl.addLevel _ _),
      process_cons]
    have hfill := fillArguments_eq hl h hbound hroom
    unfold namedFacts at hfill
    rw [hfill]
    cases entry.words with
    | error fault => rfl
    | ok event => exact process_named hl h hbound event
  · rfl

end Way

/-! ## Lines -/

/-- The facts of the line of an entry after some steps, one by one. -/
structure IsLine (settings : LogSettings) (before : List Step) (entry : Entry) (event : String)
    (line : Line) : Prop where
  /-- The words. -/
  event : line.lookup "event" = some (.text event)
  /-- The level is that of the entry. -/
  level : line.lookup "level" = some (.text entry.level.name)
  /-- The part of the service is the one that writes. -/
  logger : line.lookup "logger" = some (.text (if entry.logger = "" then "root" else entry.logger))
  /-- The service is the one that the entry gives, or else that of the settings. -/
  service : line.lookup "service" =
    some ((entry.fields.lookup "service").getD (.text settings.serviceName))
  /-- The shop is the one that the entry gives. -/
  givenShop : ∀ v, entry.fields.lookup "shop" = some v → line.lookup "shop" = some v
  /-- Else it is the one that is bound. -/
  boundShop : entry.fields.lookup "shop" = none → ∀ shop, IsBound before shop →
    line.lookup "shop" = some (.text shop)
  /-- Else there is none. -/
  noShop : entry.fields.lookup "shop" = none → (∀ shop, ¬IsBound before shop) →
    line.lookup "shop" = none
  /-- All other facts are as they are given, the time aside. -/
  others : ∀ name, name ∉ ["event", "level", "logger", "service", "shop", "timestamp"] →
    line.lookup name = entry.fields.lookup name

/-- **The line of an entry.** -/
theorem isLine_lineOf {library : LogLibrary} {settings : LogSettings} {journal : Journal}
    {before : List Step} {entry : Entry} {shop : Option String}
    (hservice : journal.service = settings.serviceName) (hbound : journal.bound = shopFacts shop)
    (hshop : ∀ name, shop = some name ↔ IsBound before name) (event : String) :
    IsLine settings before entry event
      (journal.lineOf (journal.occasion library entry) entry event) := by
  have hshopOf : (journal.lineOf (journal.occasion library entry) entry event).lookup "shop" =
      (entry.fields.lookup "shop").or (shop.map .text) := by
    rw [lookup_lineOf (by decide), hbound, lookup_shopFacts]
  constructor
  case event =>
    rw [lineOf, Line.lookup_withDefault_of_ne (by decide), Value.lookup_setMember_of_ne (by decide),
      Value.lookup_setMember_self]
  case level =>
    rw [lineOf, Line.lookup_withDefault_of_ne (by decide), Value.lookup_setMember_of_ne (by decide),
      Value.lookup_setMember_of_ne (by decide), namedFacts, Value.lookup_setMember_self]
    rfl
  case logger =>
    rw [lineOf, Line.lookup_withDefault_of_ne (by decide), Value.lookup_setMember_of_ne (by decide),
      Value.lookup_setMember_of_ne (by decide), namedFacts,
      Value.lookup_setMember_of_ne (by decide), Value.lookup_setMember_self]
    rfl
  case service =>
    rw [lineOf, Line.lookup_withDefault_self, Value.lookup_setMember_of_ne (by decide),
      Value.lookup_setMember_of_ne (by decide), lookup_namedFacts (by decide), hbound,
      lookup_shopFacts_of_ne (by decide), Option.or_none, hservice]
  case givenShop =>
    intro v hv
    rw [hshopOf, hv, Option.some_or]
  case boundShop =>
    intro hnone name hname
    rw [hshopOf, hnone, (hshop name).mpr hname]
    rfl
  case noShop =>
    intro hnone hfree
    have hunbound : shop = none :=
      Option.eq_none_iff_forall_ne_some.mpr fun name heq => hfree name ((hshop name).mp heq)
    rw [hshopOf, hnone, hunbound]
    rfl
  case others =>
    intro name hname
    simp only [List.mem_cons, List.not_mem_nil, or_false, not_or] at hname
    obtain ⟨hevent, hlevel, hlogger, hservice, hshop, htime⟩ := hname
    rw [lookup_lineOf (by simp [*]), hbound, lookup_shopFacts_of_ne hshop, Option.or_none]

/-! ## Whole runs -/

/-- The least severity that a part of the service writes: that of the settings, but for the parts
that access the database. -/
def IsLeastFor (settings : LogSettings) (logger : String) (least : Nat) : Prop :=
  IsDatabasePart logger ∧ least = Level.warning.severity ∨
    ¬IsDatabasePart logger ∧ Level.threshold settings.level = .ok least

/-- The journal answers an entry after some steps as the settings say. -/
structure Answers (settings : LogSettings) (least : Nat) (before : List Step) (entry : Entry)
    (result : Except JournalFault Written) : Prop where
  /-- Below the least severity nothing is written. -/
  below : entry.level.severity < least → result = .ok .nothing
  /-- From the least severity on, the facts of a line are written as data on a line of its own. Else
  the arguments of the entry do not fit its words, or one of its facts cannot be written as data. -/
  fromLeast : least ≤ entry.level.severity →
    (∃ event line s, entry.words = .ok event ∧ IsLine settings before entry event line ∧
      Json.dump (entry.room + 1) (.object line) = .ok s ∧ result = .ok (.text (s ++ "\n")) ∧
      Text.lineCount (s ++ "\n") = 1) ∨
    (∃ fault, entry.arguments ≠ [] ∧
      Template.fill entry.room entry.event (.ofList entry.arguments) = .error fault ∧
      result = .error (.template fault)) ∨
    ∃ field ∈ entry.fields, ¬Json.IsDumpable entry.room field.2 ∧
      ∃ fault, Json.dump entry.room field.2 = .error fault ∧ result = .error (.data fault)

/-- The journal starts as the settings say, and nothing is bound. -/
theorem of_ofSettings {settings : LogSettings} {journal : Journal}
    (h : ofSettings settings = .ok journal) :
    Level.threshold settings.level = .ok journal.threshold ∧
      journal.service = settings.serviceName ∧ journal.json = settings.json ∧
      journal.bound = [] := by
  rw [ofSettings, bind_eq_ok_iff] at h
  obtain ⟨least, hleast, h⟩ := h
  obtain rfl := pure_eq_ok_iff.mp h
  exact ⟨hleast, rfl, rfl, rfl⟩

/-- The journal keeps to the least severities. -/
theorem isLeastFor_occasion {library : LogLibrary} (hl : library.Lawful) {settings : LogSettings}
    {journal : Journal} (h : Level.threshold settings.level = .ok journal.threshold)
    (entry : Entry) : IsLeastFor settings entry.logger (journal.occasion library entry).least := by
  by_cases hpart : IsDatabasePart entry.logger
  · refine .inl ⟨hpart, ?_⟩
    rw [occasion, hl.ownLeast_database _ hpart]
    rfl
  · refine .inr ⟨hpart, h.trans (congrArg Except.ok ?_)⟩
    rw [occasion, hl.ownLeast_other _ hpart]
    rfl

/-- A line of an entry that has no text as data has a fact of the entry that has none. -/
theorem exists_field_of_dump_lineOf {journal : Journal} {occasion : Occasion} {entry : Entry}
    {shop : Option String} (hbound : journal.bound = shopFacts shop) {event : String}
    {fault : DumpFault}
    (h : Json.dump (entry.room + 1) (.object (journal.lineOf occasion entry event)) =
      .error fault) :
    ∃ field ∈ entry.fields, Json.dump entry.room field.2 = .error fault := by
  obtain ⟨field, hfield, hfault⟩ := Json.dump_object_eq_error h
  have htexts : ∀ bound ∈ journal.bound, ∃ s, bound.2 = Value.text s := by
    rw [hbound]
    cases shop with
    | none => exact fun _ hm => absurd hm List.not_mem_nil
    | some name => exact fun bound hm => ⟨name, by rw [List.mem_singleton.mp hm]⟩
  rcases mem_lineOf htexts hfield with hgiven | ⟨s, hs⟩
  · exact ⟨field, hgiven, hfault⟩
  · rw [hs, Json.dump] at hfault
    cases hfault

/-- The line of an entry is written as data. -/
theorem render_lineOf {library : LogLibrary} (hl : library.Lawful) {journal : Journal}
    (hjson : journal.json = true) (entry : Entry) (event : String) :
    journal.render library (journal.occasion library entry)
        { fields := journal.lineOf (journal.occasion library entry) entry event } =
      (Json.dump (entry.room + 1) (.object
        (journal.lineOf (journal.occasion library entry) entry event))).mapError .data := by
  rw [render, if_pos hjson, hl.renderData _ _ rfl]
  rfl

/-- What is written for an ordinary entry. -/
theorem answers_writing {library : LogLibrary} (hl : library.Lawful) {settings : LogSettings}
    {journal : Journal} {before : List Step} {entry : Entry} {shop : Option String}
    (h : entry.IsOrdinary) (hjson : journal.json = true)
    (hservice : journal.service = settings.serviceName) (hbound : journal.bound = shopFacts shop)
    (hshop : ∀ name, shop = some name ↔ IsBound before name) :
    Answers settings (journal.occasion library entry).least before entry
      (journal.writing library entry) := by
  have hfree : journal.BindsNoTaken := by
    intro name hname
    rw [hbound]
    refine lookup_shopFacts_of_ne ?_ shop
    rintro rfl
    revert hname
    decide
  have hroom : (journal.occasion library entry).room = entry.room := rfl
  have hway := process_eq hl h hfree hroom
  rw [writing, hl.draft entry h, ok_bind, hway]
  constructor
  · intro hbelow
    have hoff : (journal.occasion library entry).isEnabled = false :=
      decide_eq_false (Nat.not_le_of_lt hbelow)
    rw [hoff]
    rfl
  · intro hleast
    have hon : (journal.occasion library entry).isEnabled = true := decide_eq_true hleast
    rw [hon]
    cases hwords : entry.words with
    | error fault =>
      obtain ⟨hne, hfill⟩ := Entry.words_eq_error hwords
      exact .inr (.inl ⟨fault, hne, hfill, rfl⟩)
    | ok event =>
      rw [if_pos rfl, Except.mapError, Except.map, ok_bind]
      dsimp only
      rw [render_lineOf hl hjson]
      cases hdump : Json.dump (entry.room + 1) (.object
          (journal.lineOf (journal.occasion library entry) entry event)) with
      | ok s =>
        exact .inl ⟨event, _, s, rfl, isLine_lineOf hservice hbound hshop event, hdump, rfl,
          Json.lineCount_dump hdump⟩
      | error fault =>
        obtain ⟨field, hfield, hfault⟩ := exists_field_of_dump_lineOf hbound hdump
        exact .inr (.inr ⟨field, hfield, Json.not_isDumpable_of_eq_error hfault, fault, hfault,
          rfl⟩)

/-- An entry with an argument for its directive, with no service and with a level that is not its
own. -/
def routed : Entry where
  level := .info
  logger := "hub"
  event := "Return %s routed"
  arguments := [.text "R1"]
  fields := [("service", .null), ("level", .text "low")]

/-- The settings ask for lines and no fact of the entry has one of five names, but not every run
answers the entry by the least severity of the settings. -/
def IsUnanswered (settings : LogSettings) (entry : Entry) : Prop :=
  settings.json = true ∧
    (∀ field ∈ entry.fields,
      field.1 ∉ ["self", "event", "positional_args", "exc_info", "stack_info"]) ∧
    ¬∃ journal, ofSettings settings = .ok journal ∧ ∀ before later, ∃ result,
      (journal.run .standard (before ++ .write entry :: later))[before.length]? = some result ∧
      Answers settings journal.threshold before entry result

/-- An entry is unanswered if a run that consists of it does not answer it. -/
theorem isUnanswered_of_writing {settings : LogSettings} {journal : Journal} {entry : Entry}
    (hjson : settings.json = true) (hjournal : ofSettings settings = .ok journal)
    (hfields : ∀ field ∈ entry.fields,
      field.1 ∉ ["self", "event", "positional_args", "exc_info", "stack_info"])
    (h : ¬Answers settings journal.threshold [] entry (journal.writing .standard entry)) :
    IsUnanswered settings entry := by
  refine ⟨hjson, hfields, ?_⟩
  rintro ⟨other, hother, hruns⟩
  obtain rfl := Except.ok.inj (hother.symm.trans hjournal)
  obtain ⟨result, hresult, hanswers⟩ := hruns [] []
  obtain rfl := Option.some.inj ((getElem?_run other [] [] (.write entry)).symm.trans hresult)
  exact h hanswers

/-- An entry without arguments, with an integer of 4301 digits. -/
def oversized : Entry where
  level := .info
  logger := "hub"
  event := "hello"
  fields := [("total", .int (tenTo 4300))]

end Journal

end Disposition
