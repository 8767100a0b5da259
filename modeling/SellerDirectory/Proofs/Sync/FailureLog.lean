import SellerDirectory.Proofs.Registry.Retries
import SellerDirectory.Proofs.Sync.History

-- The failures that a run survives. For each thing that failed, and for nothing else, the log has
-- an error, in the order in which things were asked for; and what a failure takes off the list of
-- things still to do is said once, for whatever fails.

namespace SellerDirectory.Sync

open Registry Store

inductive Ask where
  | fetch
  | call (call : Call)

namespace Ask

def operation : Ask → String
  | fetch => "fetch_registry"
  | call (.active _) => "fetch_local"
  | call (.insert _) => "insert_sellers"
  | call (.update _) => "update_sellers"
  | call (.addState _) => "init_catalog_state"
  | call (.deactivate ..) => "deactivate_sellers"

def sellerId? : Ask → Option String
  | call (.addState state) => some state.sellerId
  | _ => none

def afterFailure : Ask → List Ask → List Ask
  | fetch, _ => []
  | call (.active _), _ => []
  | call (.insert _), rest => rest.filter fun ask => ask.sellerId?.isNone
  | _, rest => rest

def step : Ask → Step
  | fetch => .fetchRegistry
  | call (.active _) => .fetchLocal
  | call (.insert _) => .insertSellers
  | call (.update _) => .updateSellers
  | call (.addState state) => .initState state.sellerId
  | call (.deactivate ..) => .deactivateSellers

end Ask

structure Made where
  domain : String
  ask : Ask
  failure : Option Failure

namespace Made

def failed (made : Made) : Bool := made.failure.isSome

def ofCall (domain : String) (call : Call × Option Failure) : Made :=
  ⟨domain, .call call.1, call.2⟩

def call? : Made → Option (Call × Option Failure)
  | ⟨_, .fetch, _⟩ => none
  | ⟨_, .call call, failure⟩ => some (call, failure)

def complaint? (made : Made) : Option Event :=
  made.failure.map (.stepFailed made.domain made.ask.step)

end Made

-- Things done one after the other, each of them struck off; a failure may strike off others.
inductive Carried (domain : String) : List Ask → List Made → Prop where
  | done : Carried domain [] []
  | succeeded {ask : Ask} {rest : List Ask} {made : List Made} (later : Carried domain rest made) :
      Carried domain (ask :: rest) (⟨domain, ask, none⟩ :: made)
  | failed {ask : Ask} {rest : List Ask} {made : List Made} {failure : Failure}
      (later : Carried domain (ask.afterFailure rest) made) :
      Carried domain (ask :: rest) (⟨domain, ask, some failure⟩ :: made)

structure Complains (record : Record) (made : Made) : Prop where
  level : record.level = .error
  domain : record.fields.lookup "domain" = some (.text made.domain)
  operation : record.fields.lookup "operation" = some (.text made.ask.operation)
  seller : record.fields.lookup "seller_id" = made.ask.sellerId?.map .text
  kind : record.fields.lookup "kind" = made.failure.map fun failure => .text failure.kind.name

def errorsOf (log : List Event) : List Record :=
  (log.map Event.record).filter fun record => record.level = .error

theorem errorsOf_append (first rest : List Event) :
    errorsOf (first ++ rest) = errorsOf first ++ errorsOf rest := by
  unfold errorsOf
  rw [List.map_append, List.filter_append]

def Quiet (log : List Event) : Prop :=
  ∀ event ∈ log, event.record.level = .warning

theorem Quiet.errors {log : List Event} (quiet : Quiet log) : errorsOf log = [] := by
  unfold errorsOf
  rw [List.filter_eq_nil_iff]
  intro record told
  obtain ⟨event, member, rfl⟩ := List.mem_map.mp told
  simp [quiet event member]

theorem skippedEntries_quiet (domain : String) (snapshot : List Subscriber) :
    Quiet (skippedEntries domain snapshot) := by
  intro event told
  obtain ⟨entry, _, rfl⟩ := List.mem_map.mp told
  rfl

theorem Quiet.warn {log : List Event} (quiet : Quiet log) (domain : String)
    (number attempts : Nat) (failure : Failure) :
    Quiet (log ++ [.attemptFailed domain number attempts failure]) := by
  intro event told
  rcases List.mem_append.mp told with before | now
  · exact quiet event before
  · cases List.mem_singleton.mp now
    rfl

-- The lookups of a client only warn: of attempts that failed.
theorem attemptsFrom_quiet {ω : Type} {scheme : Signing.Scheme} {transport : Transport (StateM ω)}
    {client : Client} {domain : String} {number more : Nat} {log : List Event} (quiet : Quiet log)
    (world : ω) :
    Quiet ((client.attemptsFrom scheme transport domain number log more).run world).1.log := by
  induction more generalizing number log world with
  | zero =>
    rcases judged : (client.attempt scheme transport (lookupBytes domain)).run world with
      ⟨_ | failure, later⟩
    · rw [attemptsFrom_settled judged]
      exact quiet
    · rw [attemptsFrom_last judged]
      exact quiet.warn domain number client.policy.attempts failure
  | succ more ih =>
    rcases judged : (client.attempt scheme transport (lookupBytes domain)).run world with
      ⟨_ | failure, later⟩
    · rw [attemptsFrom_settled judged]
      exact quiet
    · rw [attemptsFrom_again judged]
      exact ih (quiet.warn domain number client.policy.attempts failure)
        (transport.pause.run later).2

theorem fetch_quiet {ω : Type} (scheme : Signing.Scheme) (transport : Transport (StateM ω))
    (client : Client) (domain : String) (world : ω) :
    Quiet ((client.fetch scheme transport domain).run world).1.log := by
  have silent : Quiet [] := fun _ told => absurd told List.not_mem_nil
  exact attemptsFrom_quiet silent world

def complaints (made : List Made) : List Event :=
  made.filterMap Made.complaint?

theorem complaints_append (first rest : List Made) :
    complaints (first ++ rest) = complaints first ++ complaints rest :=
  List.filterMap_append

theorem complains_of_made (domain : String) (ask : Ask) (failure : Failure) :
    Complains (Event.stepFailed domain ask.step failure).record ⟨domain, ask, some failure⟩ := by
  cases ask with
  | fetch => exact ⟨rfl, rfl, rfl, rfl, rfl⟩
  | call call => cases call <;> exact ⟨rfl, rfl, rfl, rfl, rfl⟩

theorem errors_of_complaints (made : List Made) :
    List.Forall₂ Complains (errorsOf (complaints made)) (made.filter Made.failed) := by
  induction made with
  | nil => exact .nil
  | cons first rest ih =>
    obtain ⟨domain, ask, failure⟩ := first
    cases failure with
    | none => exact ih
    | some failure => exact .cons (complains_of_made domain ask failure) ih

section Programs

variable {σ α β : Type} {answer : σ → (call : Call) → Except Failure call.Reply × σ}
  {domain : String} {told : List Event} {scope : Scope} {now : Time.Instant}

def madeOf (domain : String) (calls : List (Call × Option Failure)) : List Made :=
  calls.map (Made.ofCall domain)

theorem madeOf_append (first rest : List (Call × Option Failure)) :
    madeOf domain (first ++ rest) = madeOf domain first ++ madeOf domain rest :=
  List.map_append

section Reports

-- The log that a program ends with: what was told before it, and complaints of just the calls of it
-- that failed.
def Reports (answer : σ → (call : Call) → Except Failure call.Reply × σ) (domain : String)
    (told : List Event) (program : Program α) (log : α → List Event) : Prop :=
  ∀ state, log (program.run answer state).1 =
    told ++ complaints (madeOf domain (program.calls answer state))

theorem Reports.pure {a : α} {log : α → List Event} (same : log a = told) :
    Reports answer domain told (pure a) log := by
  intro state
  exact same.trans (List.append_nil _).symm

theorem Reports.bind {program : Program α} {next : α → Program β} {log : α → List Event}
    {more : β → List Event} (first : Reports answer domain [] program log)
    (rest : ∀ a, Reports answer domain (told ++ log a) (next a) more) :
    Reports answer domain told (program >>= next) more := by
  intro state
  have here : log (program.run answer state).1 = _ := first state
  rw [Program.run_bind, Program.calls_bind, madeOf_append, complaints_append, rest, here,
    List.nil_append, List.append_assoc]

theorem attempt_reports {step : Step} {call : Call} (named : (Ask.call call).step = step) :
    Reports answer domain [] (attempt domain step call) Prod.snd := by
  intro state
  unfold attempt
  rw [Program.run_bind, Program.calls_bind, Program.run_perform, Program.calls_perform]
  cases (answer state call).1 with
  | ok reply => rfl
  | error failure =>
    subst named
    rfl

theorem attemptUnless_reports {idle : Bool} {step : Step} {call : Call}
    (named : (Ask.call call).step = step) :
    Reports answer domain [] (attemptUnless idle domain step call) Prod.snd := by
  cases idle with
  | true => exact .pure rfl
  | false => exact attempt_reports named

theorem initStates_reports (sellers : List Seller) :
    Reports answer domain [] (initStates domain now sellers) id := by
  induction sellers with
  | nil => exact .pure rfl
  | cons seller rest ih =>
    refine .bind (attempt_reports rfl) fun result => ?_
    refine .bind ih fun log => ?_
    exact .pure rfl

theorem writePlan_reports {listed : Nat} {plan : Plan} :
    Reports answer scope.domain [] (writePlan scope now listed plan) Outcome.log := by
  refine .bind (attemptUnless_reports rfl) fun inserted => ?_
  refine .bind (attemptUnless_reports rfl) fun updated => ?_
  dsimp only
  split
  · refine .bind (initStates_reports _) fun stateLog => ?_
    refine .bind (attemptUnless_reports rfl) fun deactivated => ?_
    exact .pure rfl
  · have silent : Reports answer scope.domain [] (pure []) (id : List Event → List Event) :=
      .pure rfl
    refine .bind silent fun stateLog => ?_
    refine .bind (attemptUnless_reports rfl) fun deactivated => ?_
    exact .pure rfl

end Reports

section Carried

variable {plan : Plan} {listed : Nat} {idle : Bool} {step : Step} {call : Call}

-- What takes nothing else with it when it fails.
def Call.Steady (call : Call) : Prop :=
  ∀ rest, (Ask.call call).afterFailure rest = rest

theorem Carried.steadily {calls : List (Call × Option Failure)} {todo : List Ask}
    {made : List Made} (steady : ∀ call ∈ calls.map Prod.fst, Call.Steady call)
    (later : Carried domain todo made) :
    Carried domain ((calls.map Prod.fst).map .call ++ todo) (madeOf domain calls ++ made) := by
  induction calls with
  | nil => exact later
  | cons first rest ih =>
    obtain ⟨here, there⟩ := List.forall_mem_cons.mp steady
    obtain ⟨call, failure⟩ := first
    cases failure with
    | none => exact .succeeded (ih there)
    | some failure =>
      refine .failed ?_
      rw [List.append_eq, here]
      exact ih there

def unlessIdle (idle : Bool) (call : Call) : List Call :=
  if idle then [] else [call]

def Plan.laterCalls (plan : Plan) (scope : Scope) (now : Time.Instant) (inserted : Bool) :
    List Call :=
  unlessIdle plan.toUpdate.isEmpty (.update plan.toUpdate)
    ++ ((if inserted then plan.toInsert.map fun seller => .addState (.initial seller now) else [])
      ++ unlessIdle plan.toDeactivate.isEmpty (.deactivate plan.toDeactivate scope now))

def Plan.calls (plan : Plan) (scope : Scope) (now : Time.Instant) : List Call :=
  unlessIdle plan.toInsert.isEmpty (.insert plan.toInsert) ++ plan.laterCalls scope now true

theorem laterCalls_steady (plan : Plan) (scope : Scope) (now : Time.Instant) (inserted : Bool) :
    ∀ call ∈ plan.laterCalls scope now inserted, Call.Steady call := by
  intro call member
  cases call with
  | active other | insert sellers =>
    exfalso
    unfold Plan.laterCalls unlessIdle at member
    cases inserted <;> simp at member
  | update sellers => exact fun _ => rfl
  | addState state => exact fun _ => rfl
  | deactivate ids other time => exact fun _ => rfl

theorem laterCalls_of_idle (idle : plan.toInsert = []) :
    plan.laterCalls scope now true = plan.laterCalls scope now false := by
  unfold Plan.laterCalls
  rw [idle]
  rfl

theorem laterCalls_of_failure :
    (Ask.call (.insert plan.toInsert)).afterFailure ((plan.laterCalls scope now true).map .call) =
      (plan.laterCalls scope now false).map .call := by
  unfold Plan.laterCalls unlessIdle Ask.afterFailure
  cases plan.toUpdate.isEmpty <;> cases plan.toDeactivate.isEmpty <;>
    simp [Ask.sellerId?]

theorem attempt_calls (state : σ) :
    (attempt domain step call).calls answer state = [(call, failure? (answer state call).1)] := by
  unfold attempt
  rw [Program.calls_bind, Program.calls_perform, Program.run_perform]
  cases (answer state call).1 <;> rfl

theorem attempt_result (state : σ) :
    ((attempt domain step call).run answer state).1.1 = (answer state call).1.toOption := by
  unfold attempt
  rw [Program.run_bind, Program.run_perform]
  cases (answer state call).1 <;> rfl

theorem attemptUnless_asks (state : σ) :
    ((attemptUnless idle domain step call).calls answer state).map Prod.fst =
      unlessIdle idle call := by
  cases idle with
  | true => rfl
  | false => exact congrArg (List.map Prod.fst) (attempt_calls state)

theorem initStates_asks (sellers : List Seller) (state : σ) :
    ((initStates domain now sellers).calls answer state).map Prod.fst =
      sellers.map fun seller => .addState (.initial seller now) := by
  induction sellers generalizing state with
  | nil => rfl
  | cons seller rest ih =>
    unfold initStates
    rw [Program.calls_bind, attempt_calls, Program.calls_bind, Program.calls_pure, List.append_nil,
      List.map_append, ih]
    rfl

def insertion (domain : String) (plan : Plan) : Program (Option Nat × List Event) :=
  attemptUnless plan.toInsert.isEmpty domain .insertSellers (.insert plan.toInsert)

theorem writePlan_asks (answer : σ → (call : Call) → Except Failure call.Reply × σ) (scope : Scope)
    (now : Time.Instant) (listed : Nat) (plan : Plan) (state : σ) :
    ∃ later, (writePlan scope now listed plan).calls answer state =
        (insertion scope.domain plan).calls answer state ++ later ∧
      later.map Prod.fst = plan.laterCalls scope now
        ((insertion scope.domain plan).run answer state).1.1.isSome := by
  unfold writePlan
  rw [Program.calls_bind]
  refine ⟨_, rfl, ?_⟩
  change _ = plan.laterCalls scope now
    ((attemptUnless plan.toInsert.isEmpty scope.domain .insertSellers
      (.insert plan.toInsert)).run answer state).1.1.isSome
  generalize (attemptUnless plan.toInsert.isEmpty scope.domain .insertSellers
    (.insert plan.toInsert)).run answer state = result
  obtain ⟨⟨inserted, insertLog⟩, middle⟩ := result
  unfold Plan.laterCalls
  rw [Program.calls_bind, List.map_append, attemptUnless_asks]
  congr 1
  cases inserted with
  | some count =>
    simp only [Option.isSome_some, if_true, Program.calls_bind, Program.calls_pure,
      List.append_nil, List.map_append, initStates_asks]
    exact congrArg (_ ++ ·) (attemptUnless_asks _)
  | none =>
    simp only [Option.isSome_none, Bool.false_eq_true, if_false, Program.calls_bind,
      Program.calls_pure, List.append_nil, List.nil_append]
    exact attemptUnless_asks _

theorem writePlan_carried (answer : σ → (call : Call) → Except Failure call.Reply × σ)
    (scope : Scope) (now : Time.Instant) (listed : Nat) (plan : Plan) (state : σ) :
    Carried scope.domain ((plan.calls scope now).map .call)
      (madeOf scope.domain ((writePlan scope now listed plan).calls answer state)) := by
  obtain ⟨later, made, asked⟩ := writePlan_asks answer scope now listed plan state
  have steadily {inserted : Bool} (same : later.map Prod.fst = plan.laterCalls scope now inserted) :
      Carried scope.domain ((plan.laterCalls scope now inserted).map .call)
        (madeOf scope.domain later) := by
    have steady := laterCalls_steady plan scope now inserted
    rw [← same] at steady ⊢
    have ended : Carried scope.domain [] [] := .done
    have carried := Carried.steadily steady ended
    rwa [List.append_nil, List.append_nil] at carried
  cases new : plan.toInsert with
  | nil =>
    have idle : plan.toInsert.isEmpty = true := by rw [new]; rfl
    unfold insertion at made asked
    rw [idle] at made asked
    unfold Plan.calls
    rw [made, idle, laterCalls_of_idle new]
    exact steadily asked
  | cons first rest =>
    have busy : plan.toInsert.isEmpty = false := by rw [new]; rfl
    have tried : insertion scope.domain plan =
        attempt scope.domain .insertSellers (.insert plan.toInsert) := by
      unfold insertion attemptUnless
      rw [busy]
      rfl
    rw [tried] at made asked
    rw [attempt_result] at asked
    unfold Plan.calls
    rw [made, busy, attempt_calls]
    cases replied : (answer state (.insert plan.toInsert)).1 with
    | ok count =>
      rw [replied] at asked
      exact .succeeded (steadily asked)
    | error failure =>
      rw [replied] at asked
      refine .failed ?_
      rw [List.append_eq, List.nil_append, laterCalls_of_failure]
      exact steadily asked

end Carried

end Programs

section Turns

variable {σ : Type} (answer : σ → (call : Call) → Except Failure call.Reply × σ)

namespace Turn

variable (turn : Turn) (state : σ)

def plan : Plan :=
  Plan.between (listedSellers turn.scope turn.now (turn.fetched.result.toOption.getD []))
    (lastOfEachId ((answer state (.active turn.scope)).1.toOption.getD []))

-- All that a turn asks for, in order, while nothing fails.
def agenda : List Ask :=
  .fetch :: .call (.active turn.scope)
    :: ((turn.plan answer state).calls turn.scope turn.now).map .call

def made : List Made :=
  ⟨turn.scope.domain, .fetch, failure? turn.fetched.result⟩
    :: madeOf turn.scope.domain (turn.program.calls answer state)

theorem carried :
    Carried turn.scope.domain (turn.agenda answer state) (turn.made answer state) := by
  unfold agenda made plan program
  cases turn.fetched.result with
  | error failure => exact .failed .done
  | ok snapshot =>
    refine .succeeded ?_
    unfold syncDomain
    rw [Program.calls_bind, Program.calls_perform, Program.run_perform]
    cases (answer state (.active turn.scope)).1 with
    | error failure => exact .failed .done
    | ok active =>
      refine .succeeded ?_
      dsimp only
      rw [Program.calls_bind, Program.calls_pure, List.append_nil]
      exact writePlan_carried answer turn.scope turn.now snapshot.length _ _

theorem log_made :
    ∃ skipped, (turn.program.run answer state).1.log =
      skippedEntries turn.scope.domain skipped ++ complaints (turn.made answer state) := by
  unfold made program
  cases turn.fetched.result with
  | error failure => exact ⟨[], rfl⟩
  | ok snapshot =>
    unfold syncDomain
    rw [Program.calls_bind, Program.calls_perform, Program.run_bind, Program.run_perform]
    cases (answer state (.active turn.scope)).1 with
    | error failure => exact ⟨[], rfl⟩
    | ok active =>
      refine ⟨snapshot, ?_⟩
      dsimp only
      rw [Program.calls_bind, Program.calls_pure, List.append_nil, Program.run_bind,
        Program.run_pure]
      exact congrArg (_ ++ ·) (writePlan_reports _)

theorem errors :
    errorsOf (turn.program.run answer state).1.log =
      errorsOf (complaints (turn.made answer state)) := by
  obtain ⟨skipped, told⟩ := turn.log_made answer state
  rw [told, errorsOf_append, (skippedEntries_quiet turn.scope.domain skipped).errors,
    List.nil_append]

end Turn

def madeBy : List Turn → σ → List Made
  | [], _ => []
  | turn :: rest, state =>
    turn.made answer state ++ madeBy rest (turn.program.run answer state).2

variable {answer}

theorem errors_of_take {turns : List Turn} (quiet : ∀ turn ∈ turns, Quiet turn.fetched.log)
    (run : Run σ) :
    errorsOf (turns.foldl (Run.take answer) run).log =
      errorsOf run.log ++ errorsOf (complaints (madeBy answer turns run.store)) := by
  induction turns generalizing run with
  | nil => exact (List.append_nil _).symm
  | cons turn rest ih =>
    obtain ⟨here, there⟩ := List.forall_mem_cons.mp quiet
    have told : errorsOf (run.take answer turn).log =
        errorsOf run.log ++ errorsOf (complaints (turn.made answer run.store)) := by
      rw [← turn.errors]
      unfold Run.take Run.next
      rw [errorsOf_append, errorsOf_append, here.errors, List.append_nil]
      rfl
    rw [List.foldl_cons, ih there, told, madeBy, complaints_append, errorsOf_append,
      List.append_assoc]
    rfl

theorem noted_by_turns (turns : List Turn) (state : σ) (noted : List (Call × Option Failure)) :
    (leftBy (noting answer) turns (state, noted)).2 =
      noted ++ (madeBy answer turns state).filterMap Made.call? := by
  unfold leftBy
  induction turns generalizing state noted with
  | nil => exact (List.append_nil _).symm
  | cons turn rest ih =>
    have calls :
        (turn.made answer state).filterMap Made.call? = turn.program.calls answer state := by
      unfold Turn.made madeOf
      rw [List.filterMap_cons_none rfl, List.filterMap_map]
      exact List.filterMap_some
    rw [List.foldl_cons, Program.run_noting, ih, madeBy, List.filterMap_append, calls,
      List.append_assoc]

end Turns

-- The errors that a run logs are just its failures, in their order, and each of its turns carries
-- out what it has to do but for what the failure of something else takes with it.
def TellsFailures {σ ω : Type} (registry : String → StateM ω Fetched)
    (answer : σ → (call : Call) → Except Failure call.Reply × σ) (request : Request)
    (now : Time.Instant) (world : ω) (state : σ) : Prop :=
  let turns := ((turnsOf registry request now).run world).1
  let made := madeBy answer turns state
  let log := ((Sync.run registry answer request now state).run world).1.log
  List.Forall₂ Complains (errorsOf log) (made.filter Made.failed) ∧
    (∀ turn ∈ turns, ∀ before,
      Carried turn.scope.domain (turn.agenda answer before) (turn.made answer before)) ∧
    turns.map Turn.scope = request.domains.map (fun domain => ⟨domain, request.environment⟩) ∧
    ((Sync.run registry (noting answer) request now (state, [])).run world).1.store.2 =
      made.filterMap Made.call?

theorem tellsFailures_of_quiet {σ ω : Type} {registry : String → StateM ω Fetched}
    (quiet : ∀ domain world, Quiet ((registry domain).run world).1.log)
    (answer : σ → (call : Call) → Except Failure call.Reply × σ) (request : Request)
    (now : Time.Instant) (world : ω) (state : σ) :
    TellsFailures registry answer request now world state := by
  unfold TellsFailures
  intro turns made log
  have fetches : ∀ turn ∈ turns, Quiet turn.fetched.log := by
    intro turn member
    obtain ⟨reached, same⟩ := fetched_of_turns member
    rw [same]
    exact quiet turn.scope.domain reached
  have errors : errorsOf log = errorsOf (complaints made) := by
    unfold log
    rw [run_eq, StateT.run_map]
    exact errors_of_take fetches (Run.start state)
  refine ⟨?_, fun turn _ before => turn.carried answer before,
    scopes_of_turns request now world, ?_⟩
  · rw [errors]
    exact errors_of_complaints made
  · rw [run_store, noted_by_turns]
    rfl

-- Whatever fails on the way to the store, a run tells it, if its registry only warns of what the
-- run is told anyhow; and so does the client, whatever its transport brings.
theorem failures_told {σ ω : Type} (answer : σ → (call : Call) → Except Failure call.Reply × σ)
    (request : Request) (now : Time.Instant) (world : ω) (state : σ) :
    (∀ registry : String → StateM ω Fetched,
      (∀ domain world, Quiet ((registry domain).run world).1.log) →
        TellsFailures registry answer request now world state) ∧
      ∀ scheme transport client,
        TellsFailures (Client.fetch scheme transport client) answer request now world state :=
  ⟨fun _ quiet => tellsFailures_of_quiet quiet answer request now world state,
    fun scheme transport client =>
      tellsFailures_of_quiet (fetch_quiet scheme transport client) answer request now world state⟩

-- The first time the new seller is not stored, the second time its state is not.
def sampleFaults : Faults := fun place call =>
  match call with
  | .insert _ => if place = 1 then some .lockPoisoned else none
  | .addState _ => some .orphanState
  | _ => none

theorem sampleFailures_told :
    (∀ domain world, Quiet ((sampleRegistry domain).run world).1.log) ∧
      let answer := answerWith Store.answer sampleFaults
      let log := ((Sync.run sampleRegistry answer sampleRequest laterTime (0, sampleStore)).run
        ()).1.log
      (errorsOf log).map (fun record => record.fields.lookup "operation") =
        [some (.text "insert_sellers"), some (.text "fetch_registry"),
          some (.text "init_catalog_state")] := by
  have quiet : ∀ domain world, Quiet ((sampleRegistry domain).run world).1.log := by
    intro domain world event told
    change event ∈ (sampleFetch domain).log at told
    unfold sampleFetch at told
    split at told <;> exact absurd told List.not_mem_nil
  refine ⟨quiet, ?_⟩
  obtain ⟨tells, -⟩ := failures_told (answerWith Store.answer sampleFaults) sampleRequest laterTime
    () (0, sampleStore)
  obtain ⟨told, -⟩ := tells sampleRegistry quiet
  have operations := told.imp fun _ _ complains => complains.operation
  rw [← List.forall₂_map_right_iff, ← List.forall₂_map_left_iff,
    List.forall₂_eq_eq_eq] at operations
  exact operations.trans (by decide +kernel)

end SellerDirectory.Sync
