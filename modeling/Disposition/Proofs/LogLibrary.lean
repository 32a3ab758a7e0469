import Disposition.Journal.Standard
import Disposition.Proofs.Work

/-!
# The laws of the library for logs

What the library does to an entry is written down here as far as the journal relies on it. An entry
is ordinary if none of its facts has a name that the library takes for itself; the laws speak of the
facts of such entries.

Results:
* `LogLibrary.Lawful`: the laws, one for each operation.
* `LogLibrary.standard_lawful`: the library that the service runs with has them.
-/

namespace Disposition

/-! ## Names and values -/

namespace Value

/-- A member that has the value already is as it was. -/
theorem setMember_of_lookup {name : String} {v : Value} {members : List (String × Value)}
    (h : members.lookup name = some v) : setMember name v members = members := by
  induction members with
  | nil => cases h
  | cons member members ih =>
    obtain ⟨other, w⟩ := member
    rw [List.lookup_cons] at h
    by_cases hname : other = name
    · subst hname
      rw [beq_self_eq_true] at h
      obtain rfl := Option.some.inj h
      exact if_pos rfl
    · have hskip : (name == other) = false := by simpa using Ne.symm hname
      rw [hskip] at h
      rw [setMember, if_neg hname, ih h]

/-- Setting a member adds nothing else. -/
theorem mem_setMember {name : String} {v : Value} {members : List (String × Value)}
    {member : String × Value} (h : member ∈ setMember name v members) :
    member = (name, v) ∨ member ∈ members := by
  induction members with
  | nil => exact .inl (List.mem_singleton.mp h)
  | cons first members ih =>
    obtain ⟨other, w⟩ := first
    rw [setMember] at h
    split at h
    · exact (List.mem_cons.mp h).imp id (List.mem_cons_of_mem _)
    · rcases List.mem_cons.mp h with rfl | h
      · exact .inr List.mem_cons_self
      · exact (ih h).imp id (List.mem_cons_of_mem _)

end Value

namespace Line

theorem without_of_lookup {name : String} {line : Line} (h : line.lookup name = none) :
    line.without name = line := by
  refine List.filter_eq_self.mpr fun field hfield => ?_
  have hne : name ≠ field.1 := by simpa using List.lookup_eq_none_iff.mp h field hfield
  exact decide_eq_true hne.symm

end Line

/-! ## Ordinary entries -/

namespace Entry

/-- The names of facts that the library takes for itself. -/
def takenNames : List String :=
  ["self", "event", "method_name", "_record", "positional_args", "exc_info", "stack_info"]

/-- No fact of the entry has a name that the library takes for itself. -/
def IsOrdinary (entry : Entry) : Prop :=
  ∀ field ∈ entry.fields, field.1 ∉ takenNames

instance (entry : Entry) : Decidable entry.IsOrdinary :=
  inferInstanceAs (Decidable (∀ field ∈ entry.fields, field.1 ∉ takenNames))

variable {entry : Entry}

theorem IsOrdinary.lookup (h : entry.IsOrdinary) {name : String} (hname : name ∈ takenNames) :
    entry.fields.lookup name = none := by
  rw [List.lookup_eq_none_iff]
  intro field hfield
  have hne : name ≠ field.1 := fun heq => h field hfield (heq ▸ hname)
  simpa using hne

/-- An ordinary entry gives nothing twice. -/
theorem IsOrdinary.givenTwice? (h : entry.IsOrdinary) : entry.givenTwice? = none := by
  unfold Entry.givenTwice?
  split
  · rename_i name v hfound
    have howned : name ∈ ownNames := by simpa using List.find?_some hfound
    exact absurd ((by decide : ownNames ⊆ takenNames) howned)
      (h (name, v) (List.mem_of_find?_eq_some hfound))
  · rw [h.lookup (by decide)]
    rfl

end Entry

/-- The part of the service accesses the database. -/
def IsDatabasePart (logger : String) : Prop :=
  logger = "sqlalchemy" ∨ "sqlalchemy.".toList <+: logger.toList

/-! ## The laws -/

namespace LogLibrary

/-- What the journal relies on. -/
structure Lawful (library : LogLibrary) : Prop where
  /-- The draft of an ordinary entry has its facts and its words, and its arguments. -/
  draft : ∀ entry : Entry, entry.IsOrdinary → library.draft entry =
    .ok { fields := Value.setMember "event" (.text entry.event) entry.fields
          arguments := entry.arguments }
  /-- A fact is bound beside the others. -/
  bind : ∀ name v bound, library.bind name v bound = Value.setMember name v bound
  /-- No fact stays bound. -/
  clear : ∀ bound, library.clear bound = []
  /-- The parts that access the database write no less than warnings. -/
  ownLeast_database : ∀ logger, IsDatabasePart logger →
    library.ownLeast logger = some Level.warning.severity
  /-- No other part has a least severity of its own. -/
  ownLeast_other : ∀ logger, ¬IsDatabasePart logger → library.ownLeast logger = none
  /-- Bound facts are added unless they are given. -/
  mergeBound : ∀ bound occasion draft, library.mergeBound bound occasion draft =
    .ok (some { draft with fields := draft.fields.withDefaults bound })
  /-- What is not severe enough is dropped. -/
  filterByLevel : ∀ occasion draft, library.filterByLevel occasion draft =
    .ok (if occasion.isEnabled then some draft else none)
  /-- The part of the service is the one that writes. -/
  addLogger : ∀ occasion draft, draft.fields.lookup "_record" = none →
    library.addLogger occasion draft = .ok (some
      { draft with fields := Value.setMember "logger" (.text occasion.logger) draft.fields })
  /-- The level is that of the entry. -/
  addLevel : ∀ occasion draft, library.addLevel occasion draft = .ok (some
    { draft with fields := Value.setMember "level" (.text occasion.level.name) draft.fields })
  /-- Without arguments the words stay, whatever they are. -/
  keepWords : ∀ occasion draft, draft.arguments = [] →
    draft.fields.lookup "positional_args" = none →
    library.fillArguments occasion draft = .ok (some draft)
  /-- Arguments are filled into the words. -/
  fillWords : ∀ occasion draft event, draft.arguments ≠ [] →
    draft.fields.lookup "positional_args" = none →
    draft.fields.lookup "event" = some (.text event) →
    library.fillArguments occasion draft =
      ((Template.fill occasion.room event (.ofList draft.arguments)).mapError .template).map
        fun words => some { fields := Value.setMember "event" (.text words) draft.fields }
  /-- The time is that of the entry. -/
  addTime : ∀ occasion draft, library.addTime occasion draft = .ok (some
    { draft with fields := Value.setMember "timestamp" (.text occasion.time) draft.fields })
  /-- There is no trace if none is asked for. -/
  addTrace : ∀ occasion draft, draft.fields.lookup "stack_info" = none →
    library.addTrace occasion draft = .ok (some draft)
  /-- There is no report of a failure if none is asked for. -/
  addFailure : ∀ occasion draft, draft.fields.lookup "exc_info" = none →
    library.addFailure occasion draft = .ok (some draft)
  /-- There are no bytes among values. -/
  decode : ∀ occasion draft, library.decode occasion draft = .ok (some draft)
  /-- Facts are written as the text of an object. -/
  renderData : ∀ occasion draft, draft.arguments = [] → library.renderData occasion draft =
    (Json.dump (occasion.room + 1) (.object draft.fields)).mapError .data

theorem nameLogger_of_lookup {occasion : Occasion} {draft : Draft}
    (h : draft.fields.lookup "_record" = none) :
    nameLogger occasion draft = .ok (some
      { draft with fields := Value.setMember "logger" (.text occasion.logger) draft.fields }) := by
  rw [nameLogger, Value.member, h]
  rfl

theorem changing_without_of_lookup {name : String} (occasion : Occasion) {draft : Draft}
    (h : draft.fields.lookup name = none) :
    changing (fun _ => Line.without name) occasion draft = .ok (some draft) := by
  rw [changing, Line.without_of_lookup h]

theorem withoutArguments_of_lookup {fields : Line} (h : fields.lookup "positional_args" = none) :
    withoutArguments fields = fields := by
  rw [withoutArguments, Value.member, h]
  rfl

theorem fill_of_nil {occasion : Occasion} {draft : Draft} (hnil : draft.arguments = [])
    (h : draft.fields.lookup "positional_args" = none) :
    fill occasion draft = .ok (some draft) := by
  obtain ⟨fields, arguments⟩ := draft
  obtain rfl : arguments = [] := hnil
  have hnone : argumentsOf { fields } = .ok none := by
    rw [argumentsOf, Value.member, h]
    rfl
  rw [fill, hnone, withoutArguments_of_lookup h]
  rfl

theorem fill_of_ne_nil {occasion : Occasion} {draft : Draft} {event : String}
    (hne : draft.arguments ≠ []) (h : draft.fields.lookup "positional_args" = none)
    (hevent : draft.fields.lookup "event" = some (.text event)) :
    fill occasion draft =
      ((Template.fill occasion.room event (.ofList draft.arguments)).mapError .template).map
        fun words => some { fields := Value.setMember "event" (.text words) draft.fields } := by
  have hsome : argumentsOf draft = .ok (some (.ofList draft.arguments)) :=
    if_neg (by simpa using hne)
  have hwords : wordsOf draft.fields = event := by
    rw [wordsOf, hevent]
    rfl
  rw [fill, hsome, withoutArguments_of_lookup h, hwords]
  cases hfill : Template.fill occasion.room event (.ofList draft.arguments) <;>
    simp only [hfill, ok_bind] <;> rfl

/-- **The library that the service runs with has the laws.** -/
theorem standard_lawful : standard.Lawful where
  draft entry h := by
    have hdrafted :
        entry.drafted.fields = Value.setMember "event" (.text entry.event) entry.fields := by
      rw [Entry.drafted, Line.without_of_lookup (h.lookup (by decide)), ite_self]
    simp only [standard, h.givenTwice?]
    rw [← hdrafted]
    rfl
  bind _ _ _ := rfl
  clear _ := rfl
  ownLeast_database logger h := by
    rw [IsDatabasePart, ← Text.startsWith_iff] at h
    exact if_pos (by simpa using h)
  ownLeast_other logger h := by
    rw [IsDatabasePart, ← Text.startsWith_iff] at h
    exact if_neg (by simpa using h)
  mergeBound _ _ _ := rfl
  filterByLevel _ _ := rfl
  addLogger _ _ h := nameLogger_of_lookup h
  addLevel _ _ := rfl
  keepWords _ _ hnil h := fill_of_nil hnil h
  fillWords _ _ _ hne h hevent := fill_of_ne_nil hne h hevent
  addTime _ _ := rfl
  addTrace occasion _ h := changing_without_of_lookup occasion h
  addFailure occasion _ h := changing_without_of_lookup occasion h
  decode _ _ := rfl
  renderData _ _ _ := rfl

end LogLibrary

end Disposition
