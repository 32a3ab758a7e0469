import Disposition.Proofs.Environment
import Disposition.Proofs.Trimming
import Disposition.Text.Fields

/-!
# Lists of origins

The origins that browsers may use the service from are written into one variable, with commas
between them. What is read is forgiving: blanks around an origin and fields of blanks are left out.
So one list is written in many ways, and each of them is read as that list; and what is read from
any text is written again by joining it with commas.

The empty text is not set, and so is a list without origins once it is joined: both leave the
default.

Results:
* `Text.fields_eq_splitOn`: the fields of a text, by the splitting of lists.
* `Text.WritesEntries.entries_eq`: a list is read from every text that writes it.
* `Text.isEntry_of_mem_entries`, `Text.writesEntries_intercalate`: what is read is a list of
  entries, and joining it writes it.
* `Settings.ofEnvironment_update_origins`: the variable of the origins decides on the origins alone.
* `Settings.origins_roundTrip`: both for the settings, and what else is set stays.
-/

namespace Disposition

namespace Text

variable {separator : Char}

/-! ## Fields -/

/-- The fields of a text are what splitting at the separator gives. -/
theorem fields_eq_splitOn (separator : Char) (cs : List Char) :
    fields separator cs = cs.splitOn separator := by
  induction cs with
  | nil => rfl
  | cons c cs ih =>
    rw [fields, List.splitOn_cons_eq_if_modifyHead, ← ih]
    by_cases h : c = separator
    · simp [h]
    · cases hfields : fields separator cs with
      | nil => exact absurd hfields (fields_ne_nil separator cs)
      | cons first rest => simp [h]

/-- The separator stands in no field. -/
theorem not_mem_of_mem_fields {cs field : List Char} (h : field ∈ fields separator cs) :
    separator ∉ field := by
  induction cs generalizing field with
  | nil =>
    rw [List.mem_singleton.mp h]
    exact List.not_mem_nil
  | cons c cs ih =>
    rw [fields] at h
    by_cases hc : c = separator
    · rw [if_pos hc] at h
      rcases List.mem_cons.mp h with rfl | h
      · exact List.not_mem_nil
      · exact ih h
    · rw [if_neg hc] at h
      cases hfields : fields separator cs with
      | nil => exact absurd hfields (fields_ne_nil separator cs)
      | cons first rest =>
        rw [hfields] at h
        rcases List.mem_cons.mp h with rfl | h
        · intro hmem
          rcases List.mem_cons.mp hmem with heq | hmem
          · exact hc heq.symm
          · exact ih (hfields ▸ List.mem_cons_self) hmem
        · exact ih (hfields ▸ List.mem_cons_of_mem _ h)

/-! ## Texts that write a list -/

/-- The text can be an entry between separators: it is neither empty nor blank, no blanks stand at
its ends, and the separator does not stand in it. -/
structure IsEntry (separator : Char) (s : String) : Prop where
  /-- The text is not empty; as it is trimmed, it is not blank either. -/
  ne_empty : s ≠ ""
  /-- There are no blanks at the ends. -/
  trimmed : IsTrimmed s.toList
  /-- The separator does not stand in the text. -/
  apart : separator ∉ s.toList

theorem isEntry_iff {s : String} :
    IsEntry separator s ↔ s ≠ "" ∧ IsTrimmed s.toList ∧ separator ∉ s.toList :=
  ⟨fun h => ⟨h.ne_empty, h.trimmed, h.apart⟩, fun h => ⟨h.1, h.2.1, h.2.2⟩⟩

instance (s : String) : Decidable (IsEntry separator s) :=
  decidable_of_iff _ isEntry_iff.symm

/-- Fields hold a list of entries: each entry, in order, with blanks around it, and between the
entries any number of fields of blanks. -/
inductive Hold : List String → List String → Prop
  /-- No fields hold the empty list. -/
  | nil : Hold [] []
  /-- A field of blanks holds no entry. -/
  | blank {entries fields : List String} {blanks : String} (h : IsBlanks blanks.toList)
      (hrest : Hold entries fields) : Hold entries (blanks :: fields)
  /-- A field holds an entry with blanks around it. -/
  | entry {entries fields : List String} {before entry after : String}
      (hbefore : IsBlanks before.toList) (hafter : IsBlanks after.toList)
      (hrest : Hold entries fields) :
      Hold (entry :: entries) ((before ++ (entry ++ after)) :: fields)

/-- The text writes a list of entries: its fields hold them. -/
def WritesEntries (separator : Char) (entries : List String) (text : String) : Prop :=
  ∃ fields, Hold entries fields ∧ text = (String.singleton separator).intercalate fields

/-- A list of entries is held by fields with nothing around them. -/
theorem hold_self (entries : List String) : Hold entries entries := by
  induction entries with
  | nil => exact .nil
  | cons entry entries ih =>
    have h : Hold (entry :: entries) (("" ++ (entry ++ "")) :: entries) :=
      .entry isBlanks_nil isBlanks_nil ih
    rwa [String.append_empty, String.empty_append] at h

/-- **Joining a list writes it.** -/
theorem writesEntries_intercalate (separator : Char) (entries : List String) :
    WritesEntries separator entries ((String.singleton separator).intercalate entries) :=
  ⟨entries, hold_self entries, rfl⟩

theorem Hold.ne_nil {list fields : List String} (h : Hold list fields) (hne : list ≠ []) :
    fields ≠ [] := by
  cases h with
  | nil => exact absurd rfl hne
  | blank => exact List.cons_ne_nil _ _
  | entry => exact List.cons_ne_nil _ _

/-- The separator stands in no field that holds entries, if it is no blank. -/
theorem Hold.not_mem {list fields : List String} (h : Hold list fields)
    (hsep : isBlank separator = false) (hlist : ∀ entry ∈ list, IsEntry separator entry) :
    ∀ field ∈ fields, separator ∉ field.toList := by
  have hblanks : ∀ cs, IsBlanks cs → separator ∉ cs := fun cs hcs hmem =>
    Bool.eq_false_iff.mp hsep (hcs separator hmem)
  induction h with
  | nil => exact fun field hfield => absurd hfield List.not_mem_nil
  | blank h _ ih =>
    intro field hfield
    rcases List.mem_cons.mp hfield with rfl | hfield
    · exact hblanks _ h
    · exact ih hlist field hfield
  | entry hbefore hafter _ ih =>
    intro field hfield
    rcases List.mem_cons.mp hfield with rfl | hfield
    · rw [String.toList_append, String.toList_append, List.mem_append, List.mem_append]
      rintro (hmem | hmem | hmem)
      · exact hblanks _ hbefore hmem
      · exact (hlist _ List.mem_cons_self).apart hmem
      · exact hblanks _ hafter hmem
    · exact ih (fun entry he => hlist entry (List.mem_cons_of_mem _ he)) field hfield

/-- What is left of the fields, once they are trimmed and the empty ones are left out. -/
theorem Hold.filter_trim {list fields : List String} (h : Hold list fields)
    (hlist : ∀ entry ∈ list, IsEntry separator entry) :
    ((fields.map String.toList).map trim).filter (fun entry => !entry.isEmpty) =
      list.map String.toList := by
  induction h with
  | nil => rfl
  | blank h _ ih =>
    rw [List.map_cons, List.map_cons, h.trim_eq, List.filter_cons_of_neg (by simp), ih hlist]
  | @entry entries fields before entry after hbefore hafter _ ih =>
    have hentry := hlist entry List.mem_cons_self
    have htrim : trim (before ++ (entry ++ after)).toList = entry.toList := by
      rw [String.toList_append, String.toList_append]
      exact trim_append hbefore hentry.trimmed hafter
    have hne : entry.toList ≠ [] := fun hnil => hentry.ne_empty (String.toList_eq_nil_iff.mp hnil)
    rw [List.map_cons, List.map_cons, htrim, List.filter_cons_of_pos (by simpa using hne),
      ih fun e he => hlist e (List.mem_cons_of_mem _ he), List.map_cons]

/-- **A list is read from every text that writes it.** -/
theorem WritesEntries.entries_eq {list : List String} {text : String}
    (h : WritesEntries separator list text) (hsep : isBlank separator = false)
    (hlist : ∀ entry ∈ list, IsEntry separator entry)
    (hne : list ≠ []) : entries separator text = list := by
  obtain ⟨parts, hhold, rfl⟩ := h
  have hapart : ∀ field ∈ parts.map String.toList, separator ∉ field := fun field hfield => by
    obtain ⟨part, hpart, rfl⟩ := List.mem_map.mp hfield
    exact hhold.not_mem hsep hlist part hpart
  have hfields : fields separator ((String.singleton separator).intercalate parts).toList =
      parts.map String.toList := by
    rw [fields_eq_splitOn, String.toList_intercalate, String.toList_singleton]
    exact List.splitOn_intercalate separator hapart fun hnil => hhold.ne_nil hne
      (List.map_eq_nil_iff.mp hnil)
  unfold entries
  rw [hfields, hhold.filter_trim hlist, List.map_map]
  simp

/-- **What is read is a list of entries.** -/
theorem isEntry_of_mem_entries {s entry : String} (h : entry ∈ entries separator s) :
    IsEntry separator entry := by
  obtain ⟨cs, hcs, rfl⟩ := List.mem_map.mp h
  obtain ⟨hmem, hne⟩ := List.mem_filter.mp hcs
  obtain ⟨field, hfield, rfl⟩ := List.mem_map.mp hmem
  obtain ⟨before, after, -, -, -, heq⟩ := exists_trim_eq field
  refine ⟨fun hempty => ?_, ?_, fun hsep => not_mem_of_mem_fields hfield ?_⟩
  · rw [String.ofList_eq_empty_iff] at hempty
    simp [hempty] at hne
  · rw [String.toList_ofList]
    exact isTrimmed_trim field
  · rw [String.toList_ofList] at hsep
    rw [heq]
    exact List.mem_append_right _ (List.mem_append_left _ hsep)

/-- The empty text has no entries. -/
theorem ne_empty_of_entries {s : String} (h : entries separator s ≠ []) : s ≠ "" := by
  rintro rfl
  exact h rfl

/-- Reading what was read and joined gives the same again. -/
theorem entries_intercalate_entries (hsep : isBlank separator = false) {s : String}
    (hne : entries separator s ≠ []) :
    entries separator ((String.singleton separator).intercalate (entries separator s)) =
      entries separator s :=
  (writesEntries_intercalate separator _).entries_eq hsep (fun _ => isEntry_of_mem_entries) hne

end Text

/-! ## Settings -/

open Text Environment

/-- The settings with other origins. -/
def Settings.withOrigins (settings : Settings) (origins : List String) : Settings :=
  { settings with server := { settings.server with allowedOrigins := origins } }

namespace Settings

variable {env : Environment} {text : String}

theorem databaseOf_update (env : Environment) (v : Option String) :
    databaseOf (Function.update env "CORS_ORIGINS" v) = databaseOf env := by
  simp [databaseOf, Environment.integer, Environment.nonempty?, Environment.switch]

theorem logOf_update (env : Environment) (v : Option String) :
    logOf (Function.update env "CORS_ORIGINS" v) = logOf env := by
  simp [logOf]

theorem serverOf_update (env : Environment) (hne : text ≠ "") :
    serverOf (Function.update env "CORS_ORIGINS" (some text)) =
      { serverOf env with allowedOrigins := entries ',' text } := by
  have hset : Environment.nonempty? (Function.update env "CORS_ORIGINS" (some text))
      "CORS_ORIGINS" = some text :=
    nonempty?_eq_some_iff.mpr ⟨Function.update_self .., hne⟩
  unfold serverOf
  rw [hset]
  simp [Environment.nonempty?, Environment.switch]

/-- **The variable of the origins decides on the origins alone**: whether the settings can be read,
and all others, are as without it. -/
theorem ofEnvironment_update_origins (env : Environment) (hne : text ≠ "") :
    ofEnvironment (Function.update env "CORS_ORIGINS" (some text)) =
      (ofEnvironment env).map (·.withOrigins (entries ',' text)) := by
  unfold ofEnvironment
  rw [databaseOf_update, logOf_update, serverOf_update env hne]
  cases databaseOf env <;> rfl

/-- With nothing set, all settings have their defaults. -/
theorem ofEnvironment_unset : ofEnvironment (fun _ => none) = .ok {} := by
  decide +kernel

/-- What is read from the variable of the origins. -/
theorem allowedOrigins_eq {settings : Settings} (hok : ofEnvironment env = .ok settings)
    (hset : env "CORS_ORIGINS" = some text) (hne : text ≠ "") :
    settings.server.allowedOrigins = entries ',' text := by
  have hsame := ofEnvironment_update_origins env hne
  rw [← hset, Function.update_eq_self, hok] at hsame
  exact congrArg (·.server.allowedOrigins) (Except.ok.inj hsame)

/-- **Lists of origins, there and back.** A list of origins is read from every text that writes it,
with nothing else set and with whatever else is set, and no other setting is touched. What is read
from any text that is set is a list of origins, and unless it is empty, joining it and reading it
again gives the same settings. -/
theorem origins_roundTrip :
    (∀ (origins : List String) (text : String), origins ≠ [] →
      (∀ origin ∈ origins, IsEntry ',' origin) → WritesEntries ',' origins text →
        ofEnvironment (Function.update (fun _ => none) "CORS_ORIGINS" (some text)) =
          .ok (withOrigins {} origins) ∧
        ∀ env : Environment, ofEnvironment (Function.update env "CORS_ORIGINS" (some text)) =
          (ofEnvironment env).map (·.withOrigins origins)) ∧
    ∀ (env : Environment) (settings : Settings) (text : String),
      ofEnvironment env = .ok settings → env "CORS_ORIGINS" = some text → text ≠ "" →
        (∀ origin ∈ settings.server.allowedOrigins, IsEntry ',' origin) ∧
        (settings.server.allowedOrigins ≠ [] →
          ofEnvironment (Function.update env "CORS_ORIGINS"
            (some (",".intercalate settings.server.allowedOrigins))) = .ok settings) := by
  have hsep : isBlank ',' = false := by decide
  constructor
  · intro origins text hne horigins hwrites
    have hread := hwrites.entries_eq hsep horigins hne
    have hall : ∀ env : Environment,
        ofEnvironment (Function.update env "CORS_ORIGINS" (some text)) =
          (ofEnvironment env).map (·.withOrigins origins) := fun env => by
      rw [ofEnvironment_update_origins env (ne_empty_of_entries (hread ▸ hne)), hread]
    refine ⟨?_, hall⟩
    rw [hall, ofEnvironment_unset]
    rfl
  · intro env settings text hok hset htext
    have horigins := allowedOrigins_eq hok hset htext
    refine ⟨fun _ hmem => isEntry_of_mem_entries (horigins ▸ hmem), fun hne => ?_⟩
    have hread : entries ',' (",".intercalate settings.server.allowedOrigins) =
        settings.server.allowedOrigins := by
      rw [horigins] at hne ⊢
      exact entries_intercalate_entries hsep hne
    rw [ofEnvironment_update_origins env (ne_empty_of_entries (hread ▸ hne)), hread, hok]
    rfl

/-- Two origins, with blanks of three kinds around them and two fields of blanks. -/
def spacedOrigins : String :=
  ",\thttp://a.test ,\u3000 ,http://b.test"

theorem writesEntries_spacedOrigins :
    WritesEntries ',' ["http://a.test", "http://b.test"] spacedOrigins :=
  ⟨["", "\t" ++ ("http://a.test" ++ " "), "\u3000 ", "http://b.test"],
    .blank (by decide) (.entry (by decide) (by decide) (.blank (by decide) (hold_self _))),
    by decide⟩

/-- An environment in which one of the integers is set. -/
def pooled : Environment := fun name =>
  [("DB_POOL_SIZE", "5")].lookup name

/-- The same with the two origins. -/
def spaced : Environment :=
  Function.update pooled "CORS_ORIGINS" (some spacedOrigins)

/-- What it stands for. -/
def twoOrigins : Settings :=
  withOrigins { database := { poolSize := 5 } } ["http://a.test", "http://b.test"]

/-- The two origins are read, and once more after they are joined. -/
theorem origins_roundTrip_spaced :
    ofEnvironment spaced = .ok twoOrigins ∧
      ofEnvironment (Function.update spaced "CORS_ORIGINS"
        (some (",".intercalate twoOrigins.server.allowedOrigins))) = .ok twoOrigins := by
  have hpooled : ofEnvironment pooled = .ok { database := { poolSize := 5 } } := by decide +kernel
  have hread : ofEnvironment spaced = .ok twoOrigins := by
    have hlaw := (origins_roundTrip.1 _ _ (by decide) (by decide +kernel)
      writesEntries_spacedOrigins).2 pooled
    rw [spaced, hlaw, hpooled]
    rfl
  exact ⟨hread,
    (origins_roundTrip.2 spaced twoOrigins spacedOrigins hread rfl (by decide)).2 (by decide)⟩

end Settings

end Disposition
