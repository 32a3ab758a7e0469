import Disposition.Proofs.Work
import Disposition.Server.Form
import Mathlib.Data.List.Forall2
import Mathlib.Data.List.Nodup

/-!
# What forms let through

A form makes data of a body: a cell for each of its fields, but for those that may be left out.
Every column has a bound on what the service lets into it. Making and changing have a form each, and
both forms of a table keep to the same bounds.

Results:
* `Form.passes_of_read`: the data of a body, field by field.
* `Form.Passes.lookup_isSome`: what has to be there is there.
* `Form.check_broken`: no field takes a text that is no row of characters.
* `Form.newDestination_keeps`, `Form.changedDestination_keeps`, `Form.newRule_keeps`,
  `Form.changedRule_keeps`: the four forms keep to the bounds of their tables.
* `Form.fits_of_read`, `Form.isComplete_of_read`: so does the data that they make, and what makes a
  row gives it all of its columns.
-/

namespace Disposition

/-! ## Checks -/

namespace Checked

variable {α β : Type}

theorem problem_ne_ok {kind : ProblemKind} {v : Json} {a : α} :
    (problem kind v : Checked α) ≠ .ok a :=
  fun h => by cases h

theorem both_eq_ok_iff {first : Checked α} {second : Checked β} {a : α} {b : β} :
    both first second = .ok (a, b) ↔ first = .ok a ∧ second = .ok b := by
  cases first <;> cases second <;> simp [both]

/-- All checks of a list come to results if each of them does. -/
theorem all_cons_eq_ok_iff {first : Checked α} {rest : List (Checked α)} {results : List α} :
    all (first :: rest) = .ok results ↔
      ∃ a as, first = .ok a ∧ all rest = .ok as ∧ results = a :: as := by
  rw [all, map_eq_ok_iff]
  constructor
  · rintro ⟨⟨a, as⟩, hboth, rfl⟩
    obtain ⟨hfirst, hrest⟩ := both_eq_ok_iff.mp hboth
    exact ⟨a, as, hfirst, hrest, rfl⟩
  · rintro ⟨a, as, hfirst, hrest, rfl⟩
    exact ⟨(a, as), both_eq_ok_iff.mpr ⟨hfirst, hrest⟩, rfl⟩

end Checked

/-! ## Fields -/

namespace FormField

/-- What a field can give its column: the default, or what its check makes of a value. -/
def Gives (field : FormField) (cell : Cell) : Prop :=
  field.fallback? = some (some cell) ∨ ∃ v, field.check v = .ok cell

/-- **What comes of one field**: a cell that it gives, or nothing if it may be left out. -/
theorem read_ok {field : FormField} {members : List (String × Json)}
    {part? : Option (String × Cell)} (h : field.read members = .ok part?) :
    (∃ cell, part? = some (field.name, cell) ∧ field.Gives cell) ∨
      part? = none ∧ field.fallback? = some none := by
  unfold read Checked.member Checked.inside at h
  obtain ⟨cell?, hmember, rfl⟩ := map_eq_ok_iff.mp h
  rw [mapError_eq_ok_iff] at hmember
  split at hmember
  · obtain ⟨cell, hcheck, rfl⟩ := map_eq_ok_iff.mp hmember
    exact .inl ⟨cell, rfl, .inr ⟨_, hcheck⟩⟩
  · rename_i fallback _ hfallback
    obtain rfl := Except.ok.inj hmember
    cases fallback with
    | some cell => exact .inl ⟨cell, rfl, .inl hfallback⟩
    | none => exact .inr ⟨rfl, hfallback⟩
  · exact absurd hmember Checked.problem_ne_ok

section Kinds

variable {name : String} {check : Json → Checked Cell} {P : Cell → Prop}
  (h : ∀ v cell, check v = .ok cell → P cell) {cell : Cell}

include h

theorem of_required_gives (hg : (required name check).Gives cell) : P cell := by
  rcases hg with hfallback | ⟨v, hcheck⟩
  · cases hfallback
  · exact h v cell hcheck

theorem of_withDefault_gives {fallback : Cell} (hfallback : P fallback)
    (hg : (withDefault name fallback check).Gives cell) : P cell := by
  rcases hg with hsame | ⟨v, hcheck⟩
  · cases hsame
    exact hfallback
  · exact h v cell hcheck

theorem of_omissible_gives (hg : (omissible name check).Gives cell) : P cell := by
  rcases hg with hfallback | ⟨v, hcheck⟩
  · cases hfallback
  · exact h v cell hcheck

theorem of_changed_gives (hg : (changed name check).Gives cell) : P cell := by
  refine of_omissible_gives (fun v cell hcheck => ?_) hg
  unfold Checked.notNull at hcheck
  split at hcheck
  · exact absurd hcheck Checked.problem_ne_ok
  · exact h v cell hcheck

end Kinds

end FormField

/-! ## Forms -/

namespace Form

open FormField

/-- Data that passes a form, field by field. -/
inductive Passes : Form → Data → Prop
  /-- A form without fields gives nothing. -/
  | nil : Passes [] []
  /-- A field gives its column a cell. -/
  | given {field : FormField} {form : Form} {cell : Cell} {data : Data} (hgives : field.Gives cell)
      (hrest : Passes form data) : Passes (field :: form) ((field.name, cell) :: data)
  /-- A field is left out. -/
  | omitted {field : FormField} {form : Form} {data : Data} (hmay : field.fallback? = some none)
      (hrest : Passes form data) : Passes (field :: form) data

theorem passes_of_all {form : Form} {members : List (String × Json)}
    {entries : List (Option (String × Cell))}
    (h : Checked.all (form.map (·.read members)) = .ok entries) :
    form.Passes (entries.filterMap id) := by
  induction form generalizing entries with
  | nil =>
    obtain rfl := Except.ok.inj h
    exact .nil
  | cons field form ih =>
    obtain ⟨part?, rest, hentry, hrest, rfl⟩ := Checked.all_cons_eq_ok_iff.mp h
    have hpasses := ih hrest
    rcases read_ok hentry with ⟨cell, rfl, hgives⟩ | ⟨rfl, hmay⟩
    · exact .given hgives hpasses
    · exact .omitted hmay hpasses

/-- **The data of a body passes the form.** -/
theorem passes_of_read {form : Form} {body : Json} {data : Data} (h : form.read body = .ok data) :
    form.Passes data := by
  obtain ⟨members, -, h⟩ := bind_eq_ok_iff.mp h
  obtain ⟨entries, hall, h⟩ := bind_eq_ok_iff.mp h
  rw [← pure_eq_ok_iff.mp h]
  exact passes_of_all hall

/-- What may not be left out is there. -/
theorem Passes.lookup_isSome {form : Form} {data : Data} (h : form.Passes data)
    (hall : ∀ field ∈ form, field.fallback? ≠ some none) {field : FormField} (hf : field ∈ form) :
    (data.lookup field.name).isSome = true := by
  induction h with
  | nil => cases hf
  | @given first form cell data _ _ ih =>
    rw [List.lookup_cons]
    cases hname : field.name == first.name with
    | true => rfl
    | false =>
      have hne : field ≠ first := fun he => by simp [he] at hname
      exact ih (fun other ho => hall other (List.mem_cons_of_mem _ ho))
        ((List.mem_cons.mp hf).resolve_left hne)
  | @omitted first _ _ hmay => exact absurd hmay (hall first List.mem_cons_self)

end Form

/-! ## Bounds -/

/-- What the service lets into a column. -/
inductive Bound
  /-- A text with a number of characters between those. -/
  | text (least : Nat) (most : Option Nat)
  /-- A text, or nothing. -/
  | optional
  /-- A flag. -/
  | flag
  /-- An integer that is not below zero. -/
  | natural
  /-- The name of something that a condition can inspect. -/
  | condition
  deriving DecidableEq, Repr

/-- A cell is within a bound. -/
inductive Bound.Holds : Bound → Cell → Prop
  /-- A text that is long enough and not too long. -/
  | text {least : Nat} {most : Option Nat} {s : String} (hleast : least ≤ s.length)
      (hmost : ∀ m ∈ most, s.length ≤ m) : Holds (.text least most) (.text s)
  /-- Nothing. -/
  | absent : Holds .optional .null
  /-- A text where there may be nothing. -/
  | present (s : String) : Holds .optional (.text s)
  /-- A flag. -/
  | flag (b : Bool) : Holds .flag (.flag b)
  /-- An integer. -/
  | natural {n : Int} (h : 0 ≤ n) : Holds .natural (.integer n)
  /-- The name of a condition. -/
  | condition (kind : ConditionKind) : Holds .condition (.text kind.name)

namespace TableName

/-- The bounds of the columns of a table, in their order. -/
def bounds : TableName → List (String × Bound)
  | destinations =>
    [("name", .text 1 (some 200)), ("address_line1", .text 1 none), ("address_line2", .optional),
      ("city", .text 1 none), ("state", .text 1 none), ("postal_code", .text 1 none),
      ("country", .text 2 (some 2)), ("phone", .optional), ("is_default", .flag)]
  | rules =>
    [("name", .text 1 (some 200)), ("priority", .natural), ("is_active", .flag),
      ("condition_type", .condition), ("condition_value", .text 1 none),
      ("destination_id", .text 1 none)]

/-- **Every column has a bound.** -/
theorem map_fst_bounds (table : TableName) : table.bounds.map Prod.fst = table.columns := by
  cases table <;> rfl

theorem nodup_columns (table : TableName) : table.columns.Nodup := by
  cases table <;> decide

/-- The bound of a column. -/
def bound? (table : TableName) (column : String) : Option Bound :=
  table.bounds.lookup column

end TableName

/-- The data gives every column of the table a cell. -/
def Data.IsComplete (table : TableName) (data : Data) : Prop :=
  ∀ column ∈ table.columns, (data.lookup column).isSome = true

/-- The data gives columns of the table cells within their bounds, each column at most one. -/
structure Data.Fits (table : TableName) (data : Data) : Prop where
  /-- The columns. -/
  names : (data.map Prod.fst).Sublist table.columns
  /-- The bounds. -/
  cells : ∀ {column cell}, (column, cell) ∈ data →
    ∃ bound, table.bound? column = some bound ∧ bound.Holds cell

namespace FormField

theorem textCell_holds {least : Nat} {most : Option Nat} (v : Json) (cell : Cell)
    (h : textCell least most v = .ok cell) : (Bound.text least most).Holds cell := by
  obtain ⟨s, hbounded, rfl⟩ := map_eq_ok_iff.mp h
  obtain ⟨t, -, hbounded⟩ := bind_eq_ok_iff.mp hbounded
  split at hbounded
  · exact absurd hbounded Checked.problem_ne_ok
  · rename_i hleast
    split at hbounded
    · split at hbounded
      · exact absurd hbounded Checked.problem_ne_ok
      · rename_i m hmost
        obtain rfl := pure_eq_ok_iff.mp hbounded
        exact .text (Nat.le_of_not_lt hleast) fun n hn => by
          rw [← Option.some.inj hn]
          exact Nat.le_of_not_lt hmost
    · obtain rfl := pure_eq_ok_iff.mp hbounded
      exact .text (Nat.le_of_not_lt hleast) fun n hn => by cases hn

theorem optionalCell_holds (v : Json) (cell : Cell) (h : optionalCell v = .ok cell) :
    Bound.optional.Holds cell := by
  obtain ⟨s?, -, rfl⟩ := map_eq_ok_iff.mp h
  cases s? with
  | none => exact .absent
  | some s => exact .present s

theorem flagCell_holds (v : Json) (cell : Cell) (h : flagCell v = .ok cell) :
    Bound.flag.Holds cell := by
  obtain ⟨b, -, rfl⟩ := map_eq_ok_iff.mp h
  exact .flag b

theorem priorityCell_holds (v : Json) (cell : Cell) (h : priorityCell v = .ok cell) :
    Bound.natural.Holds cell := by
  obtain ⟨n, hnatural, rfl⟩ := map_eq_ok_iff.mp h
  obtain ⟨m, -, hnatural⟩ := bind_eq_ok_iff.mp hnatural
  split at hnatural
  · exact absurd hnatural Checked.problem_ne_ok
  · rename_i hnegative
    obtain rfl := pure_eq_ok_iff.mp hnatural
    exact .natural (Int.not_lt.mp hnegative)

theorem kindCell_holds (v : Json) (cell : Cell) (h : kindCell v = .ok cell) :
    Bound.condition.Holds cell := by
  obtain ⟨kind, -, rfl⟩ := map_eq_ok_iff.mp h
  exact .condition kind

end FormField

namespace Form

open FormField

/-- **No field takes a text that is no row of characters.** -/
theorem check_broken {form : Form}
    (hform : form ∈ [newDestination, changedDestination, newRule, changedRule])
    {field : FormField} (h : field ∈ form) (s : String) :
    (field.check (.broken s)).isOk = false := by
  have hall : form.all (fun field => !(field.check (.broken s)).isOk) = true := by
    simp only [List.mem_cons, List.not_mem_nil, or_false] at hform
    rcases hform with rfl | rfl | rfl | rfl <;> rfl
  simpa using List.all_eq_true.mp hall field h

/-- The fields of a form are the columns with those bounds, and keep to them. -/
def Keeps (form : Form) (bounds : List (String × Bound)) : Prop :=
  List.Forall₂ (fun field entry =>
    field.name = entry.1 ∧ ∀ cell, field.Gives cell → entry.2.Holds cell) form bounds

theorem newDestination_keeps : newDestination.Keeps TableName.destinations.bounds :=
  .cons ⟨rfl, fun _ => of_required_gives textCell_holds⟩ <|
  .cons ⟨rfl, fun _ => of_required_gives textCell_holds⟩ <|
  .cons ⟨rfl, fun _ => of_withDefault_gives optionalCell_holds .absent⟩ <|
  .cons ⟨rfl, fun _ => of_required_gives textCell_holds⟩ <|
  .cons ⟨rfl, fun _ => of_required_gives textCell_holds⟩ <|
  .cons ⟨rfl, fun _ => of_required_gives textCell_holds⟩ <|
  .cons ⟨rfl, fun _ => of_withDefault_gives textCell_holds (.text (by decide) (by decide))⟩ <|
  .cons ⟨rfl, fun _ => of_withDefault_gives optionalCell_holds .absent⟩ <|
  .cons ⟨rfl, fun _ => of_withDefault_gives flagCell_holds (.flag false)⟩ .nil

theorem changedDestination_keeps : changedDestination.Keeps TableName.destinations.bounds :=
  .cons ⟨rfl, fun _ => of_changed_gives textCell_holds⟩ <|
  .cons ⟨rfl, fun _ => of_changed_gives textCell_holds⟩ <|
  .cons ⟨rfl, fun _ => of_omissible_gives optionalCell_holds⟩ <|
  .cons ⟨rfl, fun _ => of_changed_gives textCell_holds⟩ <|
  .cons ⟨rfl, fun _ => of_changed_gives textCell_holds⟩ <|
  .cons ⟨rfl, fun _ => of_changed_gives textCell_holds⟩ <|
  .cons ⟨rfl, fun _ => of_changed_gives textCell_holds⟩ <|
  .cons ⟨rfl, fun _ => of_omissible_gives optionalCell_holds⟩ <|
  .cons ⟨rfl, fun _ => of_changed_gives flagCell_holds⟩ .nil

theorem newRule_keeps : newRule.Keeps TableName.rules.bounds :=
  .cons ⟨rfl, fun _ => of_required_gives textCell_holds⟩ <|
  .cons ⟨rfl, fun _ => of_withDefault_gives priorityCell_holds (.natural (by decide))⟩ <|
  .cons ⟨rfl, fun _ => of_withDefault_gives flagCell_holds (.flag true)⟩ <|
  .cons ⟨rfl, fun _ => of_required_gives kindCell_holds⟩ <|
  .cons ⟨rfl, fun _ => of_required_gives textCell_holds⟩ <|
  .cons ⟨rfl, fun _ => of_required_gives textCell_holds⟩ .nil

theorem changedRule_keeps : changedRule.Keeps TableName.rules.bounds :=
  .cons ⟨rfl, fun _ => of_changed_gives textCell_holds⟩ <|
  .cons ⟨rfl, fun _ => of_changed_gives priorityCell_holds⟩ <|
  .cons ⟨rfl, fun _ => of_changed_gives flagCell_holds⟩ <|
  .cons ⟨rfl, fun _ => of_changed_gives kindCell_holds⟩ <|
  .cons ⟨rfl, fun _ => of_changed_gives textCell_holds⟩ <|
  .cons ⟨rfl, fun _ => of_changed_gives textCell_holds⟩ .nil

theorem Passes.names {form : Form} {data : Data} (h : form.Passes data) :
    (data.map Prod.fst).Sublist (form.map (·.name)) := by
  induction h with
  | nil => exact .slnil
  | given _ _ ih => exact .cons_cons _ ih
  | omitted _ _ ih => exact .cons _ ih

theorem Keeps.names {form : Form} {table : TableName} (h : form.Keeps table.bounds) :
    form.map (·.name) = table.columns := by
  rw [← TableName.map_fst_bounds table, ← List.forall₂_eq_eq_eq, List.forall₂_map_left_iff,
    List.forall₂_map_right_iff]
  exact h.imp fun _ _ h => h.1

theorem Passes.holds {form : Form} {bounds : List (String × Bound)} {data : Data}
    (h : form.Passes data) (hkeeps : form.Keeps bounds) {column : String} {cell : Cell}
    (hm : (column, cell) ∈ data) : ∃ bound, (column, bound) ∈ bounds ∧ bound.Holds cell := by
  induction h generalizing bounds with
  | nil => cases hm
  | given hgives _ ih =>
    obtain ⟨entry, rest, ⟨hname, hholds⟩, hrest, rfl⟩ := List.forall₂_cons_left_iff.mp hkeeps
    rcases List.mem_cons.mp hm with he | hm
    · cases he
      exact ⟨entry.2, hname ▸ List.mem_cons_self, hholds _ hgives⟩
    · obtain ⟨bound, hb, hcell⟩ := ih hrest hm
      exact ⟨bound, List.mem_cons_of_mem _ hb, hcell⟩
  | omitted _ _ ih =>
    obtain ⟨entry, rest, -, hrest, rfl⟩ := List.forall₂_cons_left_iff.mp hkeeps
    obtain ⟨bound, hb, hcell⟩ := ih hrest hm
    exact ⟨bound, List.mem_cons_of_mem _ hb, hcell⟩

/-- **The data of a body is within the bounds of the table** that the form keeps to. -/
theorem fits_of_read {form : Form} {table : TableName} (hkeeps : form.Keeps table.bounds)
    {body : Json} {data : Data} (h : form.read body = .ok data) : data.Fits table :=
  ⟨hkeeps.names ▸ (passes_of_read h).names, fun hm =>
    have ⟨bound, hb, hholds⟩ := (passes_of_read h).holds hkeeps hm
    ⟨bound, lookup_of_mem (table.map_fst_bounds ▸ table.nodup_columns) hb, hholds⟩⟩

/-- If no field may be left out, the data of a body is complete. -/
theorem isComplete_of_read {form : Form} {table : TableName} (hkeeps : form.Keeps table.bounds)
    (hall : ∀ field ∈ form, field.fallback? ≠ some none) {body : Json} {data : Data}
    (h : form.read body = .ok data) : data.IsComplete table := by
  intro column hc
  rw [← hkeeps.names] at hc
  obtain ⟨field, hf, rfl⟩ := List.mem_map.mp hc
  exact (passes_of_read h).lookup_isSome hall hf

end Form

end Disposition
