import SellerDirectory.Proofs.Sync.Turn

-- Runs one after the other, each on the store that the one before left, while the registry answers
-- as it likes; and the calls that they make on the way.

namespace SellerDirectory.Sync

open Registry Store

section History

variable {m : Type → Type} [Monad m] {σ : Type}
  {answer : σ → (call : Call) → Except Failure call.Reply × σ}

def history (fetch : String → m Fetched)
    (answer : σ → (call : Call) → Except Failure call.Reply × σ) :
    List (Request × Time.Instant) → σ → m σ
  | [], store => return store
  | (request, now) :: later, store => do
    let run ← Sync.run fetch answer request now store
    history fetch answer later run.store

def allTurns (fetch : String → m Fetched) : List (Request × Time.Instant) → m (List Turn)
  | [] => return []
  | (request, now) :: later => do
    let first ← turnsOf fetch request now
    return first ++ (← allTurns fetch later)

theorem leftBy_append (first later : List Turn) (state : σ) :
    leftBy answer (first ++ later) state = leftBy answer later (leftBy answer first state) :=
  List.foldl_append

theorem history_eq [LawfulMonad m] (fetch : String → m Fetched)
    (rounds : List (Request × Time.Instant)) (state : σ) :
    history fetch answer rounds state = (leftBy answer · state) <$> allTurns fetch rounds := by
  induction rounds generalizing state with
  | nil => simp [history, allTurns, leftBy]
  | cons round later ih =>
    simp [history, allTurns, run_eq, ih, store_of_take, leftBy_append, Run.start]

end History

section Calls

def callsOf : List Turn → Store → List (Call × Option Failure)
  | [], _ => []
  | turn :: rest, store =>
    turn.program.calls Store.answer store ++ callsOf rest (turn.after store)

theorem leftBy_noting (turns : List Turn) (store : Store) (noted : List (Call × Option Failure)) :
    leftBy (noting Store.answer) turns (store, noted) =
      (afterTurns turns store, noted ++ callsOf turns store) := by
  unfold leftBy
  induction turns generalizing store noted with
  | nil => simp [afterTurns, callsOf]
  | cons turn rest ih =>
    rw [List.foldl_cons, Program.run_noting, ih]
    simp [afterTurns, callsOf, Turn.after]

end Calls

section Registry

variable {ω : Type} {registry : String → StateM ω Fetched} {turn : Turn}

theorem mem_turns {request : Request} {now : Time.Instant} {world : ω}
    (member : turn ∈ ((turnsOf registry request now).run world).1) :
    turn.now = now ∧ turn.scope.environment = request.environment ∧
      turn.scope.domain ∈ request.domains := by
  unfold turnsOf at member
  generalize request.domains = domains at member ⊢
  induction domains generalizing world with
  | nil => exact absurd member List.not_mem_nil
  | cons domain rest ih =>
    simp only [List.mapM_cons, bind_assoc, pure_bind] at member
    rcases List.mem_cons.mp member with rfl | later
    · exact ⟨rfl, rfl, List.mem_cons_self⟩
    · obtain ⟨time, environment, asked⟩ := ih later
      exact ⟨time, environment, List.mem_cons_of_mem _ asked⟩

theorem fetched_of_turns {request : Request} {now : Time.Instant} {world : ω}
    (member : turn ∈ ((turnsOf registry request now).run world).1) :
    ∃ reached, turn.fetched = ((registry turn.scope.domain).run reached).1 := by
  unfold turnsOf at member
  generalize request.domains = domains at member
  induction domains generalizing world with
  | nil => exact absurd member List.not_mem_nil
  | cons domain rest ih =>
    simp only [List.mapM_cons, bind_assoc, pure_bind] at member
    rcases List.mem_cons.mp member with rfl | later
    · exact ⟨world, rfl⟩
    · exact ih later

theorem scopes_of_turns (request : Request) (now : Time.Instant) (world : ω) :
    ((turnsOf registry request now).run world).1.map Turn.scope =
      request.domains.map fun domain => ⟨domain, request.environment⟩ := by
  unfold turnsOf
  induction request.domains generalizing world with
  | nil => rfl
  | cons domain rest ih =>
    simp only [List.mapM_cons, bind_assoc, pure_bind]
    exact congrArg (_ :: ·) (ih _)

theorem now_of_turns {request : Request} {now : Time.Instant} {world : ω}
    (member : turn ∈ ((turnsOf registry request now).run world).1) : turn.now = now :=
  (mem_turns member).1

theorem now_of_allTurns {rounds : List (Request × Time.Instant)} {world : ω}
    (member : turn ∈ ((allTurns registry rounds).run world).1) :
    ∃ round ∈ rounds, turn.now = round.2 := by
  induction rounds generalizing world with
  | nil => exact absurd member List.not_mem_nil
  | cons round later ih =>
    rcases List.mem_append.mp member with here | there
    · exact ⟨round, List.mem_cons_self, now_of_turns here⟩
    · obtain ⟨other, inside, same⟩ := ih there
      exact ⟨other, List.mem_cons_of_mem _ inside, same⟩

end Registry

end SellerDirectory.Sync
