import SellerDirectory.Proofs.Sync.Turn

-- Fetches that fail. A turn whose fetch failed makes no call, so it leaves no trace but its empty
-- summary: all other turns, whatever answers their calls, go as they would without it.

namespace SellerDirectory.Sync

open Registry Store

variable {σ : Type} {answer : σ → (call : Call) → Except Failure call.Reply × σ}
  {turn : Turn} {turns : List Turn} {state : σ}

def Turn.isFetched (turn : Turn) : Bool := turn.fetched.result.isOk

theorem Turn.run_without_snapshot (failed : turn.isFetched = false) (state : σ) :
    (turn.program.run answer state).1.summary = .empty turn.scope.domain ∧
      (turn.program.run answer state).2 = state := by
  unfold Turn.isFetched at failed
  unfold Turn.program
  cases fetched : turn.fetched.result with
  | error failure => exact ⟨rfl, rfl⟩
  | ok snapshot =>
    rw [fetched] at failed
    cases failed

def toldBy (answer : σ → (call : Call) → Except Failure call.Reply × σ) :
    List Turn → σ → List Summary
  | [], _ => []
  | turn :: rest, state =>
    let (outcome, later) := turn.program.run answer state
    outcome.summary :: toldBy answer rest later

theorem told_of_take (turns : List Turn) (run : Run σ) :
    (turns.foldl (Run.take answer) run).summaries =
      run.summaries ++ toldBy answer turns run.store := by
  induction turns generalizing run with
  | nil => exact (List.append_nil _).symm
  | cons turn rest ih =>
    rw [List.foldl_cons, ih]
    exact List.append_assoc _ _ _

theorem toldBy_domains (turns : List Turn) (state : σ) :
    (toldBy answer turns state).map Summary.domain = turns.map (·.scope.domain) := by
  induction turns generalizing state with
  | nil => rfl
  | cons turn rest ih =>
    rw [toldBy, List.map_cons, List.map_cons, ih]
    exact congrArg (· :: _) (syncDomain_domain state)

theorem toldBy_unfetched {summary : Summary}
    (told : (turn, summary) ∈ turns.zip (toldBy answer turns state))
    (failed : turn.isFetched = false) : summary = .empty turn.scope.domain := by
  induction turns generalizing state with
  | nil => exact absurd told List.not_mem_nil
  | cons first rest ih =>
    rcases List.mem_cons.mp told with here | later
    · cases here
      exact (Turn.run_without_snapshot failed state).1
    · exact ih later

theorem leftBy_fetched (turns : List Turn) (state : σ) :
    leftBy answer turns state = leftBy answer (turns.filter Turn.isFetched) state := by
  unfold leftBy
  induction turns generalizing state with
  | nil => rfl
  | cons turn rest ih =>
    cases got : turn.isFetched with
    | true =>
      rw [List.filter_cons_of_pos got, List.foldl_cons, List.foldl_cons, ih]
    | false =>
      rw [List.filter_cons_of_neg (ne_true_of_eq_false got), List.foldl_cons,
        (Turn.run_without_snapshot got state).2, ih]

theorem toldBy_fetched (turns : List Turn) (state : σ) :
    ((turns.zip (toldBy answer turns state)).filter fun told => told.1.isFetched).map Prod.snd =
      toldBy answer (turns.filter Turn.isFetched) state := by
  induction turns generalizing state with
  | nil => rfl
  | cons turn rest ih =>
    rw [toldBy, List.zip_cons_cons]
    cases got : turn.isFetched with
    | true =>
      simp only [List.filter_cons, got, if_true, List.map_cons, ih]
      rfl
    | false =>
      simp only [List.filter_cons, got, Bool.false_eq_true, if_false, ih]
      rw [(Turn.run_without_snapshot got state).2]

-- A registry that gives its answers one after the other, whatever it is asked for.
def scripted (_ : String) : StateM (List Fetched) Fetched
  | [] => (⟨.error (.noResponse "no answer left"), []⟩, [])
  | fetched :: rest => (fetched, rest)

def scriptedRun (answer : σ → (call : Call) → Except Failure call.Reply × σ) (environment : String)
    (now : Time.Instant) (asked : List (String × Fetched)) (state : σ) : Run σ :=
  ((Sync.run scripted answer ⟨environment, asked.map Prod.fst⟩ now state).run
    (asked.map Prod.snd)).1

def turnOf (environment : String) (now : Time.Instant) (ask : String × Fetched) : Turn :=
  ⟨⟨ask.1, environment⟩, now, ask.2⟩

section Scripted

variable (environment : String) (now : Time.Instant) (asked : List (String × Fetched))

theorem turns_scripted :
    ((turnsOf scripted ⟨environment, asked.map Prod.fst⟩ now).run (asked.map Prod.snd)).1 =
      asked.map (turnOf environment now) := by
  unfold turnsOf
  induction asked with
  | nil => rfl
  | cons first rest ih =>
    simp only [List.map_cons, List.mapM_cons, bind_assoc, pure_bind]
    exact congrArg (_ :: ·) ih

theorem fetched_turns :
    (asked.filter fun ask => ask.2.result.isOk).map (turnOf environment now) =
      (asked.map (turnOf environment now)).filter Turn.isFetched := by
  rw [List.filter_map]
  rfl

theorem scriptedRun_eq (state : σ) :
    let turns := asked.map (turnOf environment now)
    let run := scriptedRun answer environment now asked state
    run.store = leftBy answer turns state ∧
      (run.report environment now).domains = toldBy answer turns state := by
  intro turns run
  have same : run = turns.foldl (Run.take answer) (Run.start state) := by
    unfold run scriptedRun
    rw [run_eq, StateT.run_map]
    exact congrArg (List.foldl (Run.take answer) (Run.start state))
      (turns_scripted environment now asked)
  rw [same]
  exact ⟨store_of_take _ _, told_of_take _ _⟩

end Scripted

-- Whatever answers the calls, and for any fetches that succeed or fail at their places: a run tells
-- of each requested domain in order, and of nothing where its fetch failed. The store, and what is
-- told at the other places, are as in the run without the places of failed fetches.
theorem failed_fetches_isolated {σ : Type}
    (answer : σ → (call : Call) → Except Failure call.Reply × σ) (environment : String)
    (now : Time.Instant) (asked : List (String × Fetched)) (state : σ) :
    let whole := scriptedRun answer environment now asked state
    let told := (whole.report environment now).domains
    let reduced := scriptedRun answer environment now (asked.filter fun ask => ask.2.result.isOk)
      state
    told.map Summary.domain = asked.map Prod.fst ∧
      (∀ ask summary, (ask, summary) ∈ asked.zip told → ask.2.result.isOk = false →
        summary = .empty ask.1) ∧
      whole.store = reduced.store ∧
      ((asked.zip told).filter fun place => place.1.2.result.isOk).map Prod.snd =
        (reduced.report environment now).domains := by
  intro whole told reduced
  let turns := asked.map (turnOf environment now)
  obtain ⟨store, domains⟩ : whole.store = leftBy answer turns state ∧
      told = toldBy answer turns state := scriptedRun_eq environment now asked state
  obtain ⟨reducedStore, reducedDomains⟩ :
      reduced.store = leftBy answer (turns.filter Turn.isFetched) state ∧
      (reduced.report environment now).domains =
        toldBy answer (turns.filter Turn.isFetched) state :=
    fetched_turns environment now asked ▸ scriptedRun_eq environment now _ state
  have places : turns.zip told = (asked.zip told).map (Prod.map (turnOf environment now) id) :=
    List.zip_map_left
  rw [store, reducedStore, reducedDomains, ← leftBy_fetched, ← toldBy_fetched, ← domains, places]
  refine ⟨?_, ?_, rfl, ?_⟩
  · rw [domains, toldBy_domains, List.map_map]
    rfl
  · intro ask summary member failed
    have place : (turnOf environment now ask, summary) ∈ turns.zip (toldBy answer turns state) := by
      rw [← domains, places]
      exact List.mem_map_of_mem member
    exact toldBy_unfetched place failed
  · rw [List.filter_map, List.map_map]
    rfl

end SellerDirectory.Sync
