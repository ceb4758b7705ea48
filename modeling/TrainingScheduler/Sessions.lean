import Mathlib

/-!
# Sessions under read committed isolation

Database sessions that run statement by statement against one committed store.  A query sees the
last committed store, `FOR UPDATE` and `UPDATE` wait for the lock of their row, `SKIP LOCKED` passes
over a locked one, and the writes of a transaction become visible together when it commits, which
also releases its locks.  A session may be aborted at any statement.

A contract says what holds of every committed store and what one commit may do to it.  A session is
safe under a contract if it keeps the contract whatever the commits of the others do in between:
those commits hold other rows than the session does.
-/

namespace TrainingScheduler

/-- The statements that a session has still to run, over stores `σ` with lockable rows `ρ`.  A
commit carries a label, and a commit that violates a constraint is rolled back. -/
inductive Script (σ ρ τ α : Type) where
  | done (reply : α)
  | select (next : σ → Script σ ρ τ α)
  | lock (rows : σ → List ρ) (skips : Bool) (next : Option ρ → σ → Script σ ρ τ α)
  | commit (label : τ) (write : σ → Option σ) (next : Bool → Script σ ρ τ α)

variable {σ ρ τ α π : Type}

namespace Script

/-- Run the statements without interruption. -/
def run : Script σ ρ τ α → σ → α × σ
  | done reply, store => (reply, store)
  | select next, store => (next store).run store
  | lock rows _ next, store => (next (rows store).head? store).run store
  | commit _ write next, store =>
    match write store with
    | none => (next false).run store
    | some after => (next true).run after

def await (row : ρ) (next : σ → Script σ ρ τ α) : Script σ ρ τ α :=
  .lock (fun _ => [row]) false fun _ => next

/-- Lock a row that meets a condition, and go on without it if the row does not. -/
def awaitIf (row : ρ) (condition : σ → Bool) (next : Bool → σ → Script σ ρ τ α) : Script σ ρ τ α :=
  .lock (fun store => if condition store then [row] else []) false fun picked => next picked.isSome

theorem run_awaitIf (row : ρ) (condition : σ → Bool) (next : Bool → σ → Script σ ρ τ α)
    (store : σ) :
    (awaitIf row condition next).run store = (next (condition store) store).run store := by
  cases met : condition store <;> simp [awaitIf, run, met]

/-- Wait for the locks of several rows, one after the other. -/
def awaitAll : List ρ → Script σ ρ τ α → Script σ ρ τ α
  | [], next => next
  | row :: rows, next => await row fun _ => awaitAll rows next

end Script

/-- The committed store, the owners of the row locks, the open sessions, how many sessions were ever
started, and what the finished ones replied. -/
structure Pool (σ ρ τ α : Type) where
  store : σ
  owner : ρ → Option ℕ := fun _ => none
  sessions : ℕ → Option (Script σ ρ τ α) := fun _ => none
  started : ℕ := 0
  replies : ℕ → Option α := fun _ => none

/-- A request opens a session, a session runs its next statement, or a session is aborted. -/
inductive Choice (π : Type) where
  | start (request : π)
  | step (n : ℕ)
  | abort (n : ℕ)
  deriving DecidableEq, Repr

namespace Pool

def held (pool : Pool σ ρ τ α) (n : ℕ) : Set ρ := {row | pool.owner row = some n}

/-- The session can lock the row without waiting. -/
def free (pool : Pool σ ρ τ α) (n : ℕ) (row : ρ) : Bool :=
  pool.owner row == none || pool.owner row == some n

/-- The row a locking query gets; `none` if it has to wait. -/
def pick (pool : Pool σ ρ τ α) (n : ℕ) (rows : List ρ) (skips : Bool) : Option (Option ρ) :=
  if skips then some (rows.find? (pool.free n))
  else
    match rows.head? with
    | none => some none
    | some row => if pool.free n row then some (some row) else none

def grab [DecidableEq ρ] (pool : Pool σ ρ τ α) (n : ℕ) (row : ρ) : Pool σ ρ τ α :=
  { pool with owner := Function.update pool.owner row (some n) }

def release (pool : Pool σ ρ τ α) (n : ℕ) : Pool σ ρ τ α :=
  { pool with owner := fun row => if pool.owner row = some n then none else pool.owner row }

def resume (pool : Pool σ ρ τ α) (n : ℕ) (session : Option (Script σ ρ τ α)) : Pool σ ρ τ α :=
  { pool with sessions := Function.update pool.sessions n session }

/-- The next statement of a session; `none` if it has to wait. -/
def advance [DecidableEq ρ] (pool : Pool σ ρ τ α) (n : ℕ) : Script σ ρ τ α → Option (Pool σ ρ τ α)
  | .done reply =>
    some { (pool.release n).resume n none with
      replies := Function.update pool.replies n (some reply) }
  | .select next => some (pool.resume n (some (next pool.store)))
  | .lock rows skips next =>
    match pool.pick n (rows pool.store) skips with
    | none => none
    | some none => some (pool.resume n (some (next none pool.store)))
    | some (some row) =>
      some ((pool.grab n row).resume n (some (next (some row) pool.store)))
  | .commit _ write next =>
    match write pool.store with
    | none => some ((pool.release n).resume n (some (next false)))
    | some after =>
      some ((({ pool with store := after } : Pool σ ρ τ α).release n).resume n
        (some (next true)))

/-- Carry out a choice; the statements of a session are given by its number and its request. -/
def perform [DecidableEq ρ] (program : ℕ → π → Script σ ρ τ α) (pool : Pool σ ρ τ α) :
    Choice π → Option (Pool σ ρ τ α)
  | .start request =>
    some { pool.resume pool.started (some (program pool.started request)) with
      started := pool.started + 1 }
  | .step n => (pool.sessions n).bind (pool.advance n)
  | .abort n => (pool.sessions n).map fun _ => (pool.release n).resume n none

/-- The choice meets the condition on commits. -/
def Meets (allowed : τ → σ → Prop) (pool : Pool σ ρ τ α) : Choice π → Prop
  | .step n => ∀ label write next,
      pool.sessions n = some (.commit label write next) → allowed label pool.store
  | _ => True

/-- A condition on commits that can be tested. -/
def meets (allowed : τ → σ → Bool) (pool : Pool σ ρ τ α) : Choice π → Bool
  | .step n =>
    match pool.sessions n with
    | some (.commit label _ _) => allowed label pool.store
    | _ => true
  | _ => true

/-- Carry out a list of choices whose commits all meet a condition. -/
def performAll [DecidableEq ρ] (program : ℕ → π → Script σ ρ τ α) (allowed : τ → σ → Bool)
    (pool : Pool σ ρ τ α) (choices : List (Choice π)) : Option (Pool σ ρ τ α) :=
  choices.foldlM
    (fun pool choice => if pool.meets allowed choice then pool.perform program choice else none)
    pool

end Pool

/-- The states that are reached by choices whose commits all meet a condition. -/
inductive Interleaving [DecidableEq ρ] (program : ℕ → π → Script σ ρ τ α) (allowed : τ → σ → Prop)
    (first : Pool σ ρ τ α) : Pool σ ρ τ α → Prop where
  | start : Interleaving program allowed first first
  | step {pool after : Pool σ ρ τ α} (earlier : Interleaving program allowed first pool)
      (choice : Choice π) (meets : pool.Meets allowed choice)
      (done : pool.perform program choice = some after) : Interleaving program allowed first after

/-- What holds of every committed store, what a commit of a session may do that holds some rows, and
which commits are considered. -/
structure Contract (σ ρ τ : Type) where
  invariant : σ → Prop
  effect : ℕ → τ → Set ρ → σ → σ → Prop
  allowed : τ → σ → Prop := fun _ _ => True

namespace Contract

variable (contract : Contract σ ρ τ) {n : ℕ} {held : Set ρ} {store now : σ}

/-- A commit of another session, while this one holds some rows. -/
def Interferes (n : ℕ) (held : Set ρ) (before after : σ) : Prop :=
  contract.invariant after ∧
    ∃ m label other, m ≠ n ∧ Disjoint other held ∧ contract.effect m label other before after

/-- Commits of the other sessions. -/
def Interfered (n : ℕ) (held : Set ρ) : σ → σ → Prop :=
  Relation.ReflTransGen (contract.Interferes n held)

variable {contract}

theorem Interfered.refl : contract.Interfered n held store store := Relation.ReflTransGen.refl

theorem Interfered.stable (assertion : σ → Prop)
    (keeps : ∀ before after m label other, contract.invariant after → m ≠ n →
      Disjoint other held → contract.effect m label other before after → assertion before →
      assertion after)
    (interfered : contract.Interfered n held store now) (holds : assertion store) :
    assertion now := by
  induction interfered with
  | refl => exact holds
  | tail _ step induction =>
    obtain ⟨invariant, m, label, other, others, disjoint, effect⟩ := step
    exact keeps _ _ m label other invariant others disjoint effect induction

theorem Interfered.invariant (interfered : contract.Interfered n held store now)
    (holds : contract.invariant store) : contract.invariant now := by
  cases interfered with
  | refl => exact holds
  | tail _ step => exact step.1

end Contract

variable {session : Script σ ρ τ α} {choice : Choice π} {allowed : τ → σ → Prop}

namespace Script

/-- The session keeps the contract, whatever the others commit between its statements.  Its open
transaction holds `held`, and `store` is the committed store. -/
def Safe (contract : Contract σ ρ τ) (n : ℕ) : Script σ ρ τ α → Set ρ → σ → Prop
  | done _, _, _ => True
  | select next, held, store =>
    ∀ now, contract.Interfered n held store now → (next now).Safe contract n held now
  | lock rows skips next, held, store =>
    ∀ now, contract.Interfered n held store now →
      (rows now = [] ∨ skips = true → (next none now).Safe contract n held now) ∧
        ∀ row ∈ rows now, (next (some row) now).Safe contract n (insert row held) now
  | commit label write next, held, store =>
    ∀ now, contract.Interfered n held store now →
      (write now = none → (next false).Safe contract n ∅ now) ∧
        ∀ after, contract.allowed label now → write now = some after →
          contract.invariant after ∧ contract.effect n label held now after ∧
            (next true).Safe contract n ∅ after

variable {contract : Contract σ ρ τ} {n : ℕ} {held : Set ρ} {store now : σ}

theorem Safe.interfered (safe : session.Safe contract n held store)
    (interfered : contract.Interfered n held store now) : session.Safe contract n held now := by
  cases session with
  | done reply => trivial
  | select | lock | commit => exact fun later further => safe later (interfered.trans further)

theorem safe_await {row : ρ} {next : σ → Script σ ρ τ α}
    (safe : ∀ now, contract.Interfered n held store now →
      (next now).Safe contract n (insert row held) now) :
    (await row next).Safe contract n held store := by
  intro now interfered
  refine ⟨?_, ?_⟩
  · rintro (empty | skips)
    · cases empty
    · cases skips
  · intro listed member
    rw [List.mem_singleton.mp member]
    exact safe now interfered

theorem safe_awaitIf {row : ρ} {condition : σ → Bool} {next : Bool → σ → Script σ ρ τ α}
    (matched : ∀ now, contract.Interfered n held store now → condition now = true →
      (next true now).Safe contract n (insert row held) now)
    (missed : ∀ now, contract.Interfered n held store now → condition now = false →
      (next false now).Safe contract n held now) :
    (awaitIf row condition next).Safe contract n held store := by
  intro now interfered
  dsimp only
  cases met : condition now with
  | true =>
    refine ⟨fun absent => by simp at absent, fun listed member => ?_⟩
    rw [if_pos rfl, List.mem_singleton] at member
    subst member
    exact matched now interfered met
  | false =>
    refine ⟨fun _ => missed now interfered met, fun listed member => ?_⟩
    simp at member

theorem safe_awaitAll {rows : List ρ} {next : Script σ ρ τ α} (assertion : σ → Prop)
    (stable : ∀ {locked before after}, held ⊆ locked →
      contract.Interfered n locked before after → assertion before → assertion after)
    (safe : ∀ locked now, held ⊆ locked → (∀ row ∈ rows, row ∈ locked) → assertion now →
      next.Safe contract n locked now)
    (holds : assertion store) : (awaitAll rows next).Safe contract n held store := by
  induction rows generalizing held store with
  | nil => exact safe held store subset_rfl (by simp) holds
  | cons row rows induction =>
    refine safe_await fun now interfered => ?_
    refine induction (fun wider => stable ((Set.subset_insert row held).trans wider))
      (fun locked later wider taken kept => ?_) (stable subset_rfl interfered holds)
    refine safe locked later ((Set.subset_insert row held).trans wider) ?_ kept
    rintro other (_ | ⟨_, member⟩)
    · exact wider (Set.mem_insert row held)
    · exact taken other member

/-- A session that is safe under one contract is safe under another one, if the others can do no
more under it and the commits of the session keep it. -/
theorem Safe.refine {fine : Contract σ ρ τ}
    (interferes : ∀ {held before after}, fine.Interferes n held before after →
      contract.Interferes n held before after)
    (allowed : ∀ {label before}, fine.allowed label before → contract.allowed label before)
    (commits : ∀ {label held before after}, fine.invariant before → contract.invariant after →
      contract.effect n label held before after →
        fine.invariant after ∧ fine.effect n label held before after)
    (safe : session.Safe contract n held store) (invariant : fine.invariant store) :
    session.Safe fine n held store := by
  have weaken {held : Set ρ} {store now : σ} (interfered : fine.Interfered n held store now) :
      contract.Interfered n held store now := by
    induction interfered with
    | refl => exact .refl
    | tail _ step induction => exact induction.tail (interferes step)
  induction session generalizing held store with
  | done reply => trivial
  | select next induction =>
    intro now interfered
    exact induction now (safe now (weaken interfered)) (interfered.invariant invariant)
  | lock rows skips next induction =>
    intro now interfered
    obtain ⟨passed, taken⟩ := safe now (weaken interfered)
    have kept := interfered.invariant invariant
    exact ⟨fun empty => induction none now (passed empty) kept,
      fun row member => induction (some row) now (taken row member) kept⟩
  | commit label write next induction =>
    intro now interfered
    obtain ⟨rejected, committed⟩ := safe now (weaken interfered)
    have kept := interfered.invariant invariant
    refine ⟨fun violated => induction false (rejected violated) kept, ?_⟩
    intro after permitted written
    obtain ⟨coarse, effect, rest⟩ := committed after (allowed permitted) written
    obtain ⟨final, refined⟩ := commits kept coarse effect
    exact ⟨final, refined, induction true rest final⟩

end Script

variable {program : ℕ → π → Script σ ρ τ α}

namespace Pool

variable {contract : Contract σ ρ τ} {pool after : Pool σ ρ τ α} {n m : ℕ} {row : ρ}

theorem held_grab [DecidableEq ρ] : (pool.grab n row).held n = insert row (pool.held n) := by
  ext other
  by_cases same : other = row
  · simp [held, grab, same]
  · simp [held, grab, same]

private theorem held_grab_of_ne [DecidableEq ρ] (free : pool.free n row = true) (ne : m ≠ n) :
    (pool.grab n row).held m = pool.held m := by
  ext other
  by_cases same : other = row
  · subst same
    have unowned : pool.owner other ≠ some m := by
      intro owned
      rw [Pool.free, owned] at free
      simp [ne] at free
    simp [held, grab, unowned, ne.symm]
  · simp [held, grab, same]

theorem held_release : (pool.release n).held n = ∅ := by
  ext other
  simp [held, release]

theorem held_release_of_ne (ne : m ≠ n) : (pool.release n).held m = pool.held m := by
  ext other
  by_cases owned : pool.owner other = some n
  · simp [held, release, owned, ne.symm]
  · simp [held, release, owned]

/-- A locking query gets a free row it asked for, or none if it skips or finds none. -/
theorem pick_eq_some {rows : List ρ} {skips : Bool} {picked : Option ρ}
    (found : pool.pick n rows skips = some picked) :
    (∀ row, picked = some row → row ∈ rows ∧ pool.free n row = true) ∧
      (picked = none → rows = [] ∨ skips = true) := by
  unfold pick at found
  cases skips with
  | true =>
    simp only [if_true, Option.some.injEq] at found
    subst found
    refine ⟨fun row found => ?_, fun _ => .inr rfl⟩
    exact ⟨List.mem_of_find?_eq_some found, List.find?_some found⟩
  | false =>
    cases rows with
    | nil =>
      cases found
      refine ⟨?_, fun _ => .inl rfl⟩
      rintro row ⟨⟩
    | cons head rest =>
      simp only [List.head?_cons, Bool.false_eq_true, if_false] at found
      split_ifs at found with free
      cases found
      refine ⟨?_, fun impossible => by cases impossible⟩
      rintro row ⟨⟩
      exact ⟨List.mem_cons_self, free⟩

private theorem started_advance [DecidableEq ρ] (done : pool.advance n session = some after) :
    after.started = pool.started := by
  cases session with
  | done | select =>
    cases done
    rfl
  | lock rows skips next =>
    simp only [advance] at done
    split at done
    · cases done
    · cases done
      rfl
    · cases done
      rfl
  | commit label write next =>
    simp only [advance] at done
    split at done <;> cases done <;> rfl

/-- Every open session keeps the contract. -/
structure Verified (contract : Contract σ ρ τ) (pool : Pool σ ρ τ α) : Prop where
  invariant : contract.invariant pool.store
  safe : ∀ n session, pool.sessions n = some session →
    session.Safe contract n (pool.held n) pool.store
  idle : ∀ n, pool.sessions n = none → pool.held n = ∅
  fresh : ∀ n, pool.started ≤ n → pool.sessions n = none

namespace Verified

theorem of_store {store : σ} (invariant : contract.invariant store) :
    Verified contract ({ store } : Pool σ ρ τ α) where
  invariant := invariant
  safe n session impossible := by cases impossible
  idle n _ := by simp [held]
  fresh n _ := rfl

variable {next : Option (Script σ ρ τ α)}

theorem resume (verified : Verified contract pool) (invariant : contract.invariant after.store)
    (sessions : after.sessions = pool.sessions) (started : after.started = pool.started)
    (others : ∀ m, m ≠ n → after.held m = pool.held m)
    (interfered : ∀ m, m ≠ n → contract.Interfered m (pool.held m) pool.store after.store)
    (opened : n < pool.started)
    (safe : ∀ session, next = some session → session.Safe contract n (after.held n) after.store)
    (idle : next = none → after.held n = ∅) : Verified contract (after.resume n next) where
  invariant := invariant
  safe m session found := by
    by_cases same : m = n
    · subst same
      simp only [Pool.resume, Function.update_self] at found
      exact safe session found
    · simp only [Pool.resume, Function.update_of_ne same, sessions] at found
      have kept := (verified.safe m session found).interfered (interfered m same)
      rw [← others m same] at kept
      exact kept
  idle m closed := by
    by_cases same : m = n
    · subst same
      simp only [Pool.resume, Function.update_self] at closed
      exact idle closed
    · simp only [Pool.resume, Function.update_of_ne same, sessions] at closed
      exact (others m same).trans (verified.idle m closed)
  fresh m later := by
    have distinct : m ≠ n := by
      rintro rfl
      exact absurd (started ▸ later) (not_le.mpr opened)
    simp only [Pool.resume, Function.update_of_ne distinct, sessions]
    exact verified.fresh m (started ▸ later)

theorem opened (verified : Verified contract pool) (found : pool.sessions n = some session) :
    n < pool.started := by
  by_contra later
  rw [verified.fresh n (not_lt.mp later)] at found
  cases found

theorem resume_same (verified : Verified contract pool) (found : pool.sessions n = some session)
    (store : after.store = pool.store) (sessions : after.sessions = pool.sessions)
    (started : after.started = pool.started) (others : ∀ m, m ≠ n → after.held m = pool.held m)
    (safe : ∀ session, next = some session → session.Safe contract n (after.held n) pool.store)
    (idle : next = none → after.held n = ∅) : Verified contract (after.resume n next) := by
  refine verified.resume ?_ sessions started others ?_ (verified.opened found) ?_ idle
  · rw [store]
    exact verified.invariant
  · intro m _
    rw [store]
    exact .refl
  · rw [store]
    exact safe

theorem commit (verified : Verified contract pool) {label : τ} {write : σ → Option σ}
    {next : Bool → Script σ ρ τ α} {written : σ}
    (found : pool.sessions n = some (.commit label write next))
    (allowed : contract.allowed label pool.store) (done : write pool.store = some written) :
    contract.invariant written ∧ contract.effect n label (pool.held n) pool.store written ∧
      (next true).Safe contract n ∅ written :=
  (verified.safe n _ found pool.store .refl).2 written allowed done

private theorem disjoint_held (ne : m ≠ n) : Disjoint (pool.held n) (pool.held m) := by
  rw [Set.disjoint_left]
  intro row mine theirs
  exact ne (Option.some.inj (theirs.symm.trans mine))

theorem advance [DecidableEq ρ] (verified : Verified contract pool)
    (found : pool.sessions n = some session)
    (meets : pool.Meets contract.allowed (.step n : Choice π))
    (done : pool.advance n session = some after) : Verified contract after := by
  cases session with
  | done reply =>
    cases done
    have closed : Verified contract ((pool.release n).resume n none) := by
      refine verified.resume_same found rfl rfl rfl (fun m ne => held_release_of_ne ne) ?_ ?_
      · rintro _ ⟨⟩
      · exact fun _ => held_release
    exact ⟨closed.invariant, closed.safe, closed.idle, closed.fresh⟩
  | select next =>
    cases done
    refine verified.resume_same found rfl rfl rfl (fun _ _ => rfl) ?_ ?_
    · rintro _ ⟨⟩
      exact verified.safe n _ found pool.store .refl
    · rintro ⟨⟩
  | lock rows skips next =>
    simp only [Pool.advance] at done
    have safe := verified.safe n _ found pool.store .refl
    cases picked : pool.pick n (rows pool.store) skips with
    | none => simp [picked] at done
    | some row =>
      obtain ⟨taken, passed⟩ := pick_eq_some picked
      cases row with
      | none =>
        simp only [picked, Option.some.injEq] at done
        subst done
        refine verified.resume_same found rfl rfl rfl (fun _ _ => rfl) ?_ ?_
        · rintro _ ⟨⟩
          exact safe.1 (passed rfl)
        · rintro ⟨⟩
      | some row =>
        simp only [picked, Option.some.injEq] at done
        subst done
        obtain ⟨listed, free⟩ := taken row rfl
        refine verified.resume_same found rfl rfl rfl (fun m ne => held_grab_of_ne free ne) ?_ ?_
        · rintro _ ⟨⟩
          rw [held_grab]
          exact safe.2 row listed
        · rintro ⟨⟩
  | commit label write next =>
    simp only [Pool.advance] at done
    cases written : write pool.store with
    | none =>
      simp only [written, Option.some.injEq] at done
      subst done
      refine verified.resume_same found rfl rfl rfl (fun m ne => held_release_of_ne ne) ?_ ?_
      · rintro _ ⟨⟩
        rw [held_release]
        exact (verified.safe n _ found pool.store .refl).1 written
      · rintro ⟨⟩
    | some store =>
      simp only [written, Option.some.injEq] at done
      subst done
      obtain ⟨invariant, effect, safe⟩ :=
        verified.commit found (meets label write next found) written
      refine verified.resume invariant rfl rfl (fun m ne => held_release_of_ne ne) ?_
        (verified.opened found) ?_ ?_
      · intro m ne
        exact .single ⟨invariant, n, label, pool.held n, ne.symm, disjoint_held ne, effect⟩
      · rintro _ ⟨⟩
        rw [held_release]
        exact safe
      · rintro ⟨⟩

theorem perform [DecidableEq ρ] (verified : Verified contract pool)
    (programs : ∀ request, (program pool.started request).Safe contract pool.started ∅ pool.store)
    (meets : pool.Meets contract.allowed choice) (done : pool.perform program choice = some after) :
    Verified contract after := by
  cases choice with
  | start request =>
    cases done
    have closed := verified.fresh pool.started le_rfl
    refine ⟨verified.invariant, fun m session found => ?_, fun m closed => ?_, fun m later => ?_⟩
    · by_cases same : m = pool.started
      · subst same
        simp only [Pool.resume, Function.update_self, Option.some.injEq] at found
        subst found
        have safe := programs request
        rw [← verified.idle pool.started closed] at safe
        exact safe
      · simp only [Pool.resume, Function.update_of_ne same] at found
        exact verified.safe m session found
    · by_cases same : m = pool.started
      · subst same
        simp [Pool.resume] at closed
      · simp only [Pool.resume, Function.update_of_ne same] at closed
        exact verified.idle m closed
    · have later : pool.started + 1 ≤ m := later
      have distinct : m ≠ pool.started := by omega
      simp only [Pool.resume, Function.update_of_ne distinct]
      exact verified.fresh m (by omega)
  | step n =>
    obtain ⟨session, found, advanced⟩ := Option.bind_eq_some_iff.mp done
    exact verified.advance found meets advanced
  | abort n =>
    obtain ⟨session, found, closed⟩ := Option.map_eq_some_iff.mp done
    subst closed
    refine verified.resume_same found rfl rfl rfl (fun m ne => held_release_of_ne ne) ?_ ?_
    · rintro _ ⟨⟩
    · exact fun _ => held_release

theorem change [DecidableEq ρ] (verified : Verified contract pool)
    (meets : pool.Meets contract.allowed choice) (done : pool.perform program choice = some after) :
    after.store = pool.store ∨ ∃ n label, choice = .step n ∧ n < pool.started ∧
      (∃ write next, pool.sessions n = some (.commit label write next)) ∧
        contract.effect n label (pool.held n) pool.store after.store := by
  cases choice with
  | start request =>
    cases done
    exact .inl rfl
  | step n =>
    obtain ⟨script, found, advanced⟩ := Option.bind_eq_some_iff.mp done
    cases script with
    | done | select =>
      cases advanced
      exact .inl rfl
    | lock rows skips next =>
      simp only [Pool.advance] at advanced
      split at advanced
      · cases advanced
      · cases advanced
        exact .inl rfl
      · cases advanced
        exact .inl rfl
    | commit label write next =>
      simp only [Pool.advance] at advanced
      split at advanced
      · cases advanced
        exact .inl rfl
      · rename_i written wrote
        cases advanced
        exact .inr ⟨n, label, rfl, verified.opened found, ⟨write, next, found⟩,
          (verified.commit found (meets label write next found) wrote).2.1⟩
  | abort n =>
    obtain ⟨_, _, closed⟩ := Option.map_eq_some_iff.mp done
    subst closed
    exact .inl rfl

end Verified
end Pool

variable {pool : Pool σ ρ τ α}

theorem Pool.Meets.mono {allowed weaker : τ → σ → Prop}
    (embed : ∀ label store, allowed label store → weaker label store)
    (meets : pool.Meets allowed choice) : pool.Meets weaker choice := by
  cases choice with
  | start request => trivial
  | step n => exact fun label write next found => embed _ _ (meets label write next found)
  | abort n => trivial

theorem Pool.meets_of_forall (holds : ∀ label store, allowed label store) (pool : Pool σ ρ τ α)
    (choice : Choice π) : pool.Meets allowed choice := by
  cases choice with
  | start request => trivial
  | step n => exact fun label _ _ _ => holds label pool.store
  | abort n => trivial

theorem Interleaving.mono [DecidableEq ρ] {allowed weaker : τ → σ → Prop}
    {first last : Pool σ ρ τ α} (embed : ∀ label store, allowed label store → weaker label store)
    (run : Interleaving program allowed first last) : Interleaving program weaker first last := by
  induction run with
  | start => exact .start
  | step _ choice meets done induction => exact induction.step choice (meets.mono embed) done

theorem Pool.meets_of_test {allowed : τ → σ → Bool} (passed : pool.meets allowed choice = true) :
    pool.Meets (fun label store => allowed label store = true) choice := by
  cases choice with
  | start request => trivial
  | step n =>
    intro label write next found
    simpa only [Pool.meets, found] using passed
  | abort n => trivial

theorem interleaving_of_performAll [DecidableEq ρ] {allowed : τ → σ → Bool}
    {first last : Pool σ ρ τ α} {choices : List (Choice π)}
    (done : first.performAll program allowed choices = some last) :
    Interleaving program (fun label store => allowed label store = true) first last := by
  have loop (choices : List (Choice π)) (pool : Pool σ ρ τ α)
      (earlier : Interleaving program (fun label store => allowed label store = true) first pool)
      (remaining : pool.performAll program allowed choices = some last) :
      Interleaving program (fun label store => allowed label store = true) first last := by
    induction choices generalizing pool with
    | nil =>
      cases remaining
      exact earlier
    | cons head tail induction =>
      obtain ⟨next, performed, remaining⟩ := Option.bind_eq_some_iff.mp remaining
      dsimp only at performed
      split_ifs at performed with passed
      exact induction next (earlier.step head (Pool.meets_of_test passed) performed) remaining
  exact loop choices first .start done

/-- A run and its continuation, with what is read off the two pools. -/
theorem interleavings_of_performAll [DecidableEq ρ] {test laterTest : τ → σ → Bool}
    {allowed laterAllowed : τ → σ → Prop} {first : Pool σ ρ τ α} {choices more : List (Choice π)}
    {β : Type} {read : Pool σ ρ τ α → Pool σ ρ τ α → β} {value : β}
    (sound : ∀ label store, test label store = true → allowed label store)
    (laterSound : ∀ label store, laterTest label store = true → laterAllowed label store)
    (outcome : ((first.performAll program test choices).bind fun pool =>
      (pool.performAll program laterTest more).map fun later => read pool later) = some value) :
    ∃ pool later, Interleaving program allowed first pool ∧
      Interleaving program laterAllowed pool later ∧ read pool later = value := by
  obtain ⟨pool, reached, rest⟩ := Option.bind_eq_some_iff.mp outcome
  obtain ⟨later, continued, values⟩ := Option.map_eq_some_iff.mp rest
  exact ⟨pool, later, (interleaving_of_performAll reached).mono sound,
    (interleaving_of_performAll continued).mono laterSound, values⟩

theorem Interleaving.started_le [DecidableEq ρ] {first last : Pool σ ρ τ α}
    (run : Interleaving program allowed first last) : first.started ≤ last.started := by
  induction run with
  | start => exact le_rfl
  | step _ choice _ done induction =>
    refine induction.trans ?_
    cases choice with
    | start request =>
      cases done
      exact Nat.le_succ _
    | step n =>
      obtain ⟨session, -, advanced⟩ := Option.bind_eq_some_iff.mp done
      exact (Pool.started_advance advanced).ge
    | abort n =>
      obtain ⟨_, -, closed⟩ := Option.map_eq_some_iff.mp done
      subst closed
      exact le_rfl

section

variable {contract : Contract σ ρ τ} {program : ℕ → π → Script σ ρ τ α} {first last : Pool σ ρ τ α}
  (programs : ∀ n request store, first.started ≤ n → contract.invariant store →
    (program n request).Safe contract n ∅ store)

include programs

theorem Interleaving.verified [DecidableEq ρ]
    (run : Interleaving program contract.allowed first last) (verified : first.Verified contract) :
    last.Verified contract := by
  induction run with
  | start => exact verified
  | step earlier choice meets done induction =>
    refine induction.perform (fun request => ?_) meets done
    exact programs _ request _ earlier.started_le induction.invariant

theorem Interleaving.stays [DecidableEq ρ]
    (embed : ∀ label store, allowed label store → contract.allowed label store)
    (verified : first.Verified contract) (assertion : σ → Prop)
    (keeps : ∀ {n label held before after}, contract.invariant before → allowed label before →
      contract.effect n label held before after → assertion before → assertion after)
    (holds : assertion first.store) (run : Interleaving program allowed first last) :
    assertion last.store := by
  induction run with
  | start => exact holds
  | step earlier choice meets done induction =>
    have reached := (earlier.mono embed).verified programs verified
    rcases reached.change (meets.mono embed) done with
      same | ⟨n, label, rfl, -, ⟨write, next, found⟩, effect⟩
    · exact same ▸ induction
    · exact keeps reached.invariant (meets label write next found) effect induction

end

end TrainingScheduler
