import Disposition.Store
import Mathlib.Data.List.Forall2
import Mathlib.Data.List.Nodup

/-!
# Results and work

How a computation in several steps comes to its result: it succeeds if every step does, and work on
the store hands the store from step to step.

* `bind_eq_ok_iff`: a computation succeeds with what its steps succeed with.
* `bind_eq_error_iff`: it fails with the first of its steps that fails.
* `mapM_eq_ok_iff`: the same for one step for each element of a list.
* `run_ofExcept`: work that needs a result fails if there is none, and leaves the store.
* `session_of_ok`, `session_of_error`: a session keeps what succeeded, and undoes what failed.
* `session_bind`: a session that goes on.
* `Yields`: work that succeeds comes to a result of some kind only.
-/

namespace Disposition

variable {ε ε' α β : Type}

theorem ok_bind (a : α) (f : α → Except ε β) : (.ok a : Except ε α) >>= f = f a :=
  rfl

theorem bind_eq_ok_iff {x : Except ε α} {f : α → Except ε β} {b : β} :
    x >>= f = .ok b ↔ ∃ a, x = .ok a ∧ f a = .ok b := by
  constructor
  · intro h
    cases x with
    | error fault => cases h
    | ok a => exact ⟨a, rfl, h⟩
  · rintro ⟨a, rfl, h⟩
    exact h

theorem bind_eq_error_iff {x : Except ε α} {f : α → Except ε β} {fault : ε} :
    x >>= f = .error fault ↔ x = .error fault ∨ ∃ a, x = .ok a ∧ f a = .error fault := by
  constructor
  · intro h
    cases x with
    | error other => exact .inl (by cases h; rfl)
    | ok a => exact .inr ⟨a, rfl, h⟩
  · rintro (rfl | ⟨a, rfl, h⟩)
    · rfl
    · exact h

theorem pure_eq_ok_iff {a b : α} : (pure a : Except ε α) = .ok b ↔ a = b :=
  ⟨fun h => by cases h; rfl, fun h => h ▸ rfl⟩

/-- What is done to a result does not fail. -/
theorem bind_pure_eq_error_iff {x : Except ε α} {g : α → β} {fault : ε} :
    (x >>= fun a => pure (g a)) = .error fault ↔ x = .error fault := by
  simp [bind_eq_error_iff, pure, Except.pure]

theorem map_eq_ok_iff {x : Except ε α} {f : α → β} {b : β} :
    x.map f = .ok b ↔ ∃ a, x = .ok a ∧ f a = b := by
  cases x <;> simp [Except.map]

theorem mapError_eq_ok_iff {x : Except ε α} {f : ε → ε'} {a : α} :
    x.mapError f = .ok a ↔ x = .ok a := by
  cases x with
  | ok b => exact ⟨fun h => by cases h; rfl, fun h => by cases h; rfl⟩
  | error fault => exact ⟨nofun, nofun⟩

/-- A step for each element of a list succeeds with what each of them succeeds with. -/
theorem mapM_eq_ok_iff {f : α → Except ε β} {l : List α} {l' : List β} :
    l.mapM f = .ok l' ↔ List.Forall₂ (fun a b => f a = .ok b) l l' := by
  induction l generalizing l' with
  | nil => cases l' <;> simp [pure, Except.pure]
  | cons a l ih =>
    simp only [List.mapM_cons, bind_eq_ok_iff, pure_eq_ok_iff, ih, List.forall₂_cons_left_iff]
    constructor
    · rintro ⟨b, hb, bs, hbs, rfl⟩
      exact ⟨b, bs, hb, hbs, rfl⟩
    · rintro ⟨b, bs, hb, hbs, rfl⟩
      exact ⟨b, hb, bs, hbs, rfl⟩

/-- What it succeeds with comes of the elements. -/
theorem mem_iff_of_mapM {f : α → Except ε β} {l : List α} {l' : List β} (h : l.mapM f = .ok l')
    {b : β} : b ∈ l' ↔ ∃ a ∈ l, f a = .ok b := by
  rw [mapM_eq_ok_iff] at h
  induction h with
  | nil => simp
  | @cons a c l l' hac _ ih =>
    simp only [List.mem_cons, or_and_right, exists_or, exists_eq_left, hac, ih, Except.ok.injEq,
      eq_comm (a := b)]

/-- It succeeds if every one of the steps does. -/
theorem exists_mapM_iff {f : α → Except ε β} {l : List α} :
    (∃ l', l.mapM f = .ok l') ↔ ∀ a ∈ l, ∃ b, f a = .ok b := by
  simp only [mapM_eq_ok_iff]
  induction l with
  | nil => simp
  | cons a l ih =>
    simp only [List.forall₂_cons_left_iff, List.forall_mem_cons, ← ih]
    constructor
    · rintro ⟨_, b, bs, hb, hbs, rfl⟩
      exact ⟨⟨b, hb⟩, bs, hbs⟩
    · rintro ⟨⟨b, hb⟩, bs, hbs⟩
      exact ⟨_, b, bs, hb, hbs, rfl⟩

/-! ## Named things -/

section Named

variable {α : Type} {entries : List (String × α)} {name : String} {a : α}

theorem mem_of_lookup (h : entries.lookup name = some a) : (name, a) ∈ entries := by
  obtain ⟨before, later, rfl, -⟩ := List.lookup_eq_some_iff.mp h
  exact List.mem_append_right _ List.mem_cons_self

/-- What is named once is what a look-up finds. -/
theorem lookup_of_mem (hn : (entries.map Prod.fst).Nodup) (h : (name, a) ∈ entries) :
    entries.lookup name = some a := by
  cases hl : entries.lookup name with
  | none => exact absurd (List.lookup_eq_none_iff.mp hl _ h) (by simp)
  | some other =>
    have he := List.inj_on_of_nodup_map hn (mem_of_lookup hl) h rfl
    exact congrArg (fun entry => some entry.2) he

end Named

/-! ## Work -/

namespace Work

theorem run_ofExcept (result : Except ε α) (store : Store) :
    (ofExcept result : Work ε α).run store =
      match result with
      | .ok a => .ok a store
      | .error fault => .error fault store := by
  cases result <;> rfl

theorem session_of_ok {work : Work ε α} {store worked : Store} {a : α}
    (h : work.run store = .ok a worked) : work.session store = (.ok a, worked) := by
  unfold session
  rw [h]

theorem session_of_error {work : Work ε α} {store worked : Store} {fault : ε}
    (h : work.run store = .error fault worked) : work.session store = (.error fault, store) := by
  unfold session
  rw [h]

theorem session_error {work : Work ε α} {store : Store} {fault : ε}
    (h : (work.session store).1 = .error fault) : (work.session store).2 = store := by
  unfold session at h ⊢
  cases hrun : work.run store with
  | ok a worked => rw [hrun] at h; cases h
  | error fault worked => rfl

/-- Work that goes on with other work: the other one starts where the first one ended, and if it
fails, both are undone. -/
theorem session_bind (work : Work ε α) (next : α → Work ε β) (store : Store) :
    (work >>= next).session store =
      match work.session store with
      | (.ok a, worked) =>
        match (next a).session worked with
        | (.ok b, after) => (.ok b, after)
        | (.error fault, _) => (.error fault, store)
      | (.error fault, _) => (.error fault, store) := by
  unfold session
  rw [EStateM.run_bind]
  cases work.run store with
  | ok a worked => cases h : (next a).run worked <;> simp only [h]
  | error fault worked => rfl

/-- Work that reads the store first. -/
theorem session_get_bind (next : Store → Work ε β) (store : Store) :
    (get >>= next).session store = (next store).session store :=
  rfl

/-- Work that needs a result first. -/
theorem session_ofExcept_bind (result : Except ε α) (next : α → Work ε β) (store : Store) :
    (ofExcept result >>= next).session store =
      match result with
      | .ok a => (next a).session store
      | .error fault => (.error fault, store) := by
  cases result <;> rfl

theorem session_adaptExcept (f : ε → ε') (work : Work ε α) (store : Store) :
    Work.session (work.adaptExcept f) store =
      ((work.session store).1.mapError f, (work.session store).2) := by
  unfold session
  rw [EStateM.run_adaptExcept]
  cases work.run store <;> rfl

/-- Work that succeeds comes to a result of that kind. -/
def Yields (work : Work ε α) (P : α → Prop) : Prop :=
  ∀ store a worked, work.run store = .ok a worked → P a

theorem yields_pure {P : α → Prop} {a : α} (h : P a) : (pure a : Work ε α).Yields P := by
  intro store b worked hrun
  cases hrun
  exact h

theorem yields_throw {P : α → Prop} (fault : ε) : (throw fault : Work ε α).Yields P := by
  intro store a worked hrun
  cases hrun

theorem yields_ite {P : α → Prop} {c : Prop} [Decidable c] {work other : Work ε α}
    (h : work.Yields P) (ho : other.Yields P) : (if c then work else other).Yields P := by
  by_cases hc : c
  · rwa [if_pos hc]
  · rwa [if_neg hc]

theorem yields_bind {P : β → Prop} (work : Work ε α) {next : α → Work ε β}
    (h : ∀ a, (next a).Yields P) : (work >>= next).Yields P := by
  intro store b worked hrun
  rw [EStateM.run_bind] at hrun
  cases hfirst : work.run store with
  | ok a middle =>
    rw [hfirst] at hrun
    exact h a middle b worked hrun
  | error fault middle =>
    rw [hfirst] at hrun
    cases hrun

end Work

end Disposition
