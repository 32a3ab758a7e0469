import Disposition.Proofs.Store

/-!
# Runs

A run is a sequence of operations, each in a session of its own. Identifiers are issued at random
and the clock goes as it likes, so a step of a run brings along the identifier and the time that are
issued for it; its history is the steps with what came of them.

Results:
* `Store.after_append`, `Store.history_append`: a run goes on where the one before it ended.
* `Database.run_single`: the sessions of a database, one operation each, are a run whose issued
  identifiers are numbered.
* `Database.run_reachable`: sessions, transactions among them, lead to reachable stores only.
-/

namespace Disposition

/-- An operation, and what is issued for it in case that it makes a row whose data says nothing of
it. -/
structure Step where
  /-- The identifier and the time. -/
  fresh : Stamp
  /-- The operation. -/
  operation : Operation

/-- A step with what came of it. -/
structure Answered extends Step where
  /-- What came of it. -/
  reply : Reply

namespace Store

/-- The store after a step. -/
def next (store : Store) (step : Step) : Store :=
  (step.operation.perform step.fresh store).2

/-- A step with what comes of it on a store. -/
def answered (store : Store) (step : Step) : Answered :=
  { step with reply := (step.operation.perform step.fresh store).1 }

/-- The store after some steps. -/
def after (store : Store) : List Step → Store
  | [] => store
  | step :: steps => (store.next step).after steps

/-- Some steps with what comes of them, one after the other. -/
def history (store : Store) : List Step → List Answered
  | [] => []
  | step :: steps => store.answered step :: (store.next step).history steps

theorem after_append (store : Store) (first second : List Step) :
    store.after (first ++ second) = (store.after first).after second := by
  induction first generalizing store with
  | nil => rfl
  | cons step first ih => exact ih (store.next step)

theorem history_append (store : Store) (first second : List Step) :
    store.history (first ++ second) =
      store.history first ++ (store.after first).history second := by
  induction first generalizing store with
  | nil => rfl
  | cons step first ih => exact congrArg (store.answered step :: ·) (ih (store.next step))

/-- What a step did, for the entry that it leaves. -/
theorem next_cases (store : Store) (step : Step) :
    step.operation.Wrote step.fresh store (store.answered step).reply (store.next step) ∨
      store.next step = store ∧ step.operation.wrote (store.answered step).reply = false :=
  Operation.perform_cases (Prod.eta _).symm

theorem Sound.after {store : Store} (hs : store.Sound) (steps : List Step) :
    (store.after steps).Sound := by
  induction steps generalizing store with
  | nil => exact hs
  | cons step steps ih => exact ih (hs.perform step.fresh step.operation)

theorem Reachable.after {store : Store} (hr : store.Reachable) (steps : List Step) :
    (store.after steps).Reachable := by
  induction steps generalizing store with
  | nil => exact hr
  | cons step steps ih => exact ih (hr.step step.fresh step.operation)

end Store

namespace Database

/-- Operations with what is issued for them after so many others. -/
def numbered (clock : Nat → Timestamp) (issued : Nat) : List Operation → List Step
  | [] => []
  | operation :: operations =>
    ⟨.issue clock issued, operation⟩ ::
      numbered clock (if operation.drawsId then issued + 1 else issued) operations

theorem perform_some (store : Store) (issued : Nat) (clock : Nat → Timestamp)
    (operation : Operation) :
    perform { store := some store, issued, clock } operation =
      ((operation.perform (.issue clock issued) store).1,
        { store := some (operation.perform (.issue clock issued) store).2
          issued := if operation.drawsId then issued + 1 else issued
          clock }) := by
  unfold perform afterDraw
  cases operation.drawsId <;> rfl

/-- **Sessions of one operation each are a run.** -/
theorem run_single (store : Store) (issued : Nat) (clock : Nat → Timestamp)
    (operations : List Operation) :
    (run { store := some store, issued, clock } (operations.map .single)).1 =
        (store.history (numbered clock issued operations)).map
          (fun entry => .single entry.reply) ∧
      (run { store := some store, issued, clock } (operations.map .single)).2.store =
        some (store.after (numbered clock issued operations)) := by
  induction operations generalizing store issued with
  | nil => exact ⟨rfl, rfl⟩
  | cons operation operations ih =>
    obtain ⟨hresults, hstore⟩ := ih (operation.perform (.issue clock issued) store).2
      (if operation.drawsId then issued + 1 else issued)
    simp only [List.map_cons, run, step, perform_some]
    exact ⟨congrArg (_ :: ·) hresults, hstore⟩

/-- The database has no tables, or its store is reachable. -/
def Reachable (database : Database) : Prop :=
  ∀ store, database.store = some store → store.Reachable

theorem attempt_ok {database after : Database} {operation : Operation} {answer : Answer}
    {events : List Event} (h : database.attempt operation = (.ok (answer, events), after))
    (hr : database.Reachable) : after.Reachable := by
  intro worked hw
  unfold attempt at h
  cases hs : database.store with
  | none => rw [hs] at h; cases h
  | some store =>
    rw [hs] at h
    simp only at h
    split at h
    · rename_i reply last hrun
      cases h
      cases hw
      have hstep := (hr store hs).step database.stamp operation
      rwa [Operation.perform, Work.session_of_ok hrun] at hstep
    · cases h

theorem sequence_reachable {database : Database} (hr : database.Reachable)
    (operations : List Operation) (h : (database.sequence operations).1.fault = none) :
    (database.sequence operations).2.Reachable := by
  induction operations generalizing database with
  | nil => exact hr
  | cons operation operations ih =>
    unfold sequence at h ⊢
    split at h
    · cases h
    · rename_i answer events after hattempt
      exact ih (attempt_ok hattempt hr) h

theorem perform_reachable {database : Database} (hr : database.Reachable) (operation : Operation) :
    (database.perform operation).2.Reachable := by
  obtain ⟨held, issued, clock⟩ := database
  cases held with
  | none =>
    intro store hs
    unfold perform afterDraw at hs
    split at hs <;> cases hs
  | some store =>
    rw [perform_some]
    intro after hs
    cases hs
    exact (hr store rfl).step (.issue clock issued) operation

theorem transact_reachable {database : Database} (hr : database.Reachable)
    (operations : List Operation) (giveUp : Bool) :
    (database.transact operations giveUp).2.Reachable := by
  unfold transact
  -- what was changed is only kept if nothing failed
  have hundone : ({ (database.sequence operations).2 with store := database.store } :
      Database).Reachable := hr
  cases h : (database.sequence operations).1.fault with
  | some fault => simpa [h] using hundone
  | none =>
    have hlast := sequence_reachable hr operations h
    cases giveUp with
    | true => simpa [h] using hundone
    | false => simpa [h] using hlast

theorem step_reachable {database : Database} (hr : database.Reachable) (session : Session) :
    (database.step session).2.Reachable := by
  cases session with
  | single operation => exact perform_reachable hr operation
  | transaction operations giveUp => exact transact_reachable hr operations giveUp

/-- **Sessions lead to reachable stores only**, transactions too. -/
theorem run_reachable {database : Database} (hr : database.Reachable) (sessions : List Session) :
    (database.run sessions).2.Reachable := by
  induction sessions generalizing database with
  | nil => exact hr
  | cons session sessions ih => exact ih (step_reachable hr session)

end Database

end Disposition
