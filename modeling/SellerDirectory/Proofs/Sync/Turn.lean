import SellerDirectory.Proofs.Sync.Domain
import SellerDirectory.Sync.Run

-- A run takes one turn for each requested domain. What the registry answers does not depend on the
-- store, so a run is the fold of its turns, and what every turn keeps a run keeps.

namespace SellerDirectory.Sync

open Registry Store

section Domain

variable {σ : Type} {answer : σ → (call : Call) → Except Failure call.Reply × σ} {scope : Scope}
  {now : Time.Instant}

theorem writePlan_domain {listed : Nat} {plan : Plan} (state : σ) :
    ((writePlan scope now listed plan).run answer state).1.summary.domain = scope.domain := by
  unfold writePlan
  simp only [Program.run_bind]
  split <;> simp only [Program.run_bind, Program.run_pure]

theorem syncDomain_domain {fetched : Except Failure (List Subscriber)} (state : σ) :
    ((syncDomain scope now fetched).run answer state).1.summary.domain = scope.domain := by
  unfold syncDomain
  cases fetched with
  | error failure => rfl
  | ok snapshot =>
    dsimp only
    rw [Program.run_bind]
    split
    · rfl
    · rw [Program.run_bind]
      exact writePlan_domain _

end Domain

-- One domain of a run, with what the registry answered when its turn came.
structure Turn where
  scope : Scope
  now : Time.Instant
  fetched : Fetched

def turnsOf {m : Type → Type} [Monad m] (fetch : String → m Fetched) (request : Request)
    (now : Time.Instant) : m (List Turn) :=
  request.domains.mapM fun domain =>
    return ⟨⟨domain, request.environment⟩, now, ← fetch domain⟩

namespace Turn

variable (turn : Turn) {store : Store}

def program : Program Outcome :=
  syncDomain turn.scope turn.now turn.fetched.result

def summary (store : Store) : Summary :=
  (turn.program.run Store.answer store).1.summary

def after (store : Store) : Store :=
  (turn.program.run Store.answer store).2

inductive Course (turn : Turn) (store : Store) : Prop where
  | unfetched (failure : Failure) (fetched : turn.fetched.result = .error failure)
      (same : turn.after store = store)
  | unread (snapshot : List Subscriber) (failure : Failure)
      (fetched : turn.fetched.result = .ok snapshot)
      (read : store.activeSellers turn.scope = .error failure) (same : turn.after store = store)
  | synced (snapshot : List Subscriber) (active : List Seller)
      (fetched : turn.fetched.result = .ok snapshot)
      (read : store.activeSellers turn.scope = .ok active)
      (synced : Synced turn.scope turn.now snapshot store (turn.after store))

theorem run_unfetched {failure : Failure} (fetched : turn.fetched.result = .error failure) :
    turn.program.run Store.answer store =
      (⟨.empty turn.scope.domain, [.stepFailed turn.scope.domain .fetchRegistry failure]⟩, store) := by
  unfold program
  rw [fetched]
  rfl

theorem run_unread {snapshot : List Subscriber} {failure : Failure}
    (fetched : turn.fetched.result = .ok snapshot)
    (read : store.activeSellers turn.scope = .error failure) :
    turn.program.run Store.answer store =
      (⟨{ Summary.empty turn.scope.domain with listed := snapshot.length },
        [.stepFailed turn.scope.domain .fetchLocal failure]⟩, store) := by
  have reply : Store.answer store (.active turn.scope) = (.error failure, store) := by
    simp only [Store.answer, read]
  unfold program
  rw [fetched, syncDomain, Program.run_bind, Program.run_perform, reply]
  rfl

theorem does_synced {snapshot : List Subscriber} {active : List Seller} (valid : store.Valid)
    (fetched : turn.fetched.result = .ok snapshot)
    (read : store.activeSellers turn.scope = .ok active) :
    turn.program.Does Store.answer store
      ⟨(planOf turn.scope turn.now snapshot active).summary turn.scope turn.now snapshot.length store,
        skippedEntries turn.scope.domain snapshot⟩
      ((planOf turn.scope turn.now snapshot active).written turn.scope turn.now store) := by
  unfold program
  rw [fetched]
  exact syncDomain_does valid read

theorem after_synced {snapshot : List Subscriber} {active : List Seller} (valid : store.Valid)
    (fetched : turn.fetched.result = .ok snapshot)
    (read : store.activeSellers turn.scope = .ok active) :
    Synced turn.scope turn.now snapshot store (turn.after store) := by
  unfold after program
  rw [fetched]
  exact syncDomain_synced valid read

theorem course (valid : store.Valid) : turn.Course store := by
  cases fetched : turn.fetched.result with
  | error failure =>
    refine .unfetched failure fetched ?_
    rw [after, run_unfetched turn fetched]
  | ok snapshot =>
    cases read : store.activeSellers turn.scope with
    | error failure =>
      refine .unread snapshot failure fetched read ?_
      rw [after, run_unread turn fetched read]
    | ok active => exact .synced snapshot active fetched read (after_synced turn valid fetched read)

theorem summary_domain : (turn.summary store).domain = turn.scope.domain :=
  syncDomain_domain store

theorem after_valid (valid : store.Valid) : (turn.after store).Valid :=
  run_valid turn.program valid

end Turn

def afterTurns (turns : List Turn) (store : Store) : Store :=
  turns.foldl (fun store turn => turn.after store) store

theorem afterTurns_cons (turn : Turn) (rest : List Turn) (store : Store) :
    afterTurns (turn :: rest) store = afterTurns rest (turn.after store) := rfl

def summaries : List Turn → Store → List Summary
  | [], _ => []
  | turn :: rest, store => turn.summary store :: summaries rest (turn.after store)

theorem afterTurns_preserves (Holds : Store → Prop) {turns : List Turn}
    (step : ∀ turn ∈ turns, ∀ store : Store, store.Valid → Holds store → Holds (turn.after store))
    {store : Store} (valid : store.Valid) (holds : Holds store) :
    Holds (afterTurns turns store) := by
  induction turns generalizing store with
  | nil => exact holds
  | cons turn rest ih =>
    obtain ⟨here, later⟩ := List.forall_mem_cons.mp step
    rw [afterTurns_cons]
    exact ih later (turn.after_valid valid) (here store valid holds)

theorem afterTurns_valid (turns : List Turn) {store : Store} (valid : store.Valid) :
    (afterTurns turns store).Valid :=
  afterTurns_preserves Valid (fun turn _ _ valid _ => turn.after_valid valid) valid valid

section Run

variable {σ : Type} {answer : σ → (call : Call) → Except Failure call.Reply × σ}

def Run.take (answer : σ → (call : Call) → Except Failure call.Reply × σ) (run : Run σ)
    (turn : Turn) : Run σ :=
  run.next answer turn.scope.environment turn.now turn.scope.domain turn.fetched

theorem run_eq {m : Type → Type} [Monad m] [LawfulMonad m] (fetch : String → m Fetched)
    (request : Request) (now : Time.Instant) (store : σ) :
    Sync.run fetch answer request now store =
      (fun turns => turns.foldl (Run.take answer) (Run.start store)) <$> turnsOf fetch request now := by
  unfold Sync.run turnsOf
  generalize Run.start store = run
  induction request.domains generalizing run with
  | nil => simp
  | cons domain rest ih =>
    simp only [List.foldlM_cons, bind_assoc, pure_bind, ih]
    simp [Run.take]

def leftBy (answer : σ → (call : Call) → Except Failure call.Reply × σ) (turns : List Turn)
    (state : σ) : σ :=
  turns.foldl (fun state turn => (turn.program.run answer state).2) state

theorem store_of_take (turns : List Turn) (run : Run σ) :
    (turns.foldl (Run.take answer) run).store = leftBy answer turns run.store := by
  unfold leftBy
  induction turns generalizing run with
  | nil => rfl
  | cons turn rest ih => exact ih (run.take answer turn)

theorem run_store {ω : Type} (registry : String → StateM ω Fetched) (world : ω)
    (request : Request) (now : Time.Instant) (state : σ) :
    ((Sync.run registry answer request now state).run world).1.store =
      leftBy answer ((turnsOf registry request now).run world).1 state := by
  rw [run_eq, StateT.run_map]
  exact store_of_take _ _

theorem summaries_of_turns (turns : List Turn) (run : Run Store) :
    (turns.foldl (Run.take Store.answer) run).summaries =
      run.summaries ++ summaries turns run.store := by
  induction turns generalizing run with
  | nil => exact (List.append_nil _).symm
  | cons turn rest ih =>
    rw [List.foldl_cons, ih]
    exact List.append_assoc _ _ _

end Run

def sampleFetch (domain : String) : Fetched :=
  if domain = sampleScope.domain then ⟨.ok sampleSnapshot, []⟩
  else ⟨.error (.noResponse "connection refused"), []⟩

def sampleRegistry (domain : String) : StateM Unit Fetched :=
  return sampleFetch domain

def sampleRequest : Request := ⟨"prod", ["ONDC:RET10", "ONDC:RET11", "ONDC:RET10"]⟩

end SellerDirectory.Sync
