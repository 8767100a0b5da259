import SellerDirectory.Store.Call

-- Programs over a store: what a run of one does step by step, what its calls were, and what every
-- run keeps because every call does.

namespace SellerDirectory.Store

def failure? {α : Type} : Except Failure α → Option Failure
  | .ok _ => none
  | .error failure => some failure

theorem failure?_eq_none {α : Type} {reply : Except Failure α} :
    failure? reply = none ↔ ∃ a, reply = .ok a := by
  cases reply <;> simp [failure?]

namespace Program

variable {σ α β : Type} {answer : σ → (call : Call) → Except Failure call.Reply × σ}

@[simp] theorem run_pure (a : α) (state : σ) :
    (pure a : Program α).run answer state = (a, state) := rfl

@[simp] theorem run_perform (call : Call) (state : σ) :
    (perform call).run answer state = answer state call := rfl

@[simp] theorem run_bind (program : Program α) (next : α → Program β) (state : σ) :
    (program >>= next).run answer state =
      (next (program.run answer state).1).run answer (program.run answer state).2 := by
  change (program.bind next).run answer state = _
  induction program generalizing state with
  | done a => rfl
  | call c rest ih => exact ih (answer state c).1 (answer state c).2

theorem run_preserves (Holds : σ → Prop)
    (step : ∀ state call, Holds state → Holds (answer state call).2) (program : Program α)
    {state : σ} (holds : Holds state) : Holds (program.run answer state).2 := by
  induction program generalizing state with
  | done a => exact holds
  | call c rest ih => exact ih (answer state c).1 (step state c holds)

-- Every call that a program may make, whatever it is answered.
def Each (Holds : Call → Prop) : Program α → Prop
  | .done _ => True
  | .call c next => Holds c ∧ ∀ reply, (next reply).Each Holds

section Each

variable {Holds : Call → Prop}

theorem Each.pure (a : α) : (pure a : Program α).Each Holds := trivial

theorem Each.perform {call : Call} (holds : Holds call) : (perform call).Each Holds :=
  ⟨holds, fun _ => trivial⟩

theorem Each.bind {program : Program α} {next : α → Program β} (first : program.Each Holds)
    (rest : ∀ a, (next a).Each Holds) : (program >>= next).Each Holds := by
  change (program.bind next).Each Holds
  induction program with
  | done a => exact rest a
  | call c proceed ih => exact ⟨first.1, fun reply => ih reply (first.2 reply)⟩

theorem Each.run_preserves {program : Program α} (each : program.Each Holds) (Kept : σ → Prop)
    (step : ∀ state call, Holds call → Kept state → Kept (answer state call).2) {state : σ}
    (kept : Kept state) : Kept (program.run answer state).2 := by
  induction program generalizing state with
  | done a => exact kept
  | call c next ih => exact ih _ (each.2 _) (step state c each.1 kept)

end Each

def calls (answer : σ → (call : Call) → Except Failure call.Reply × σ) :
    Program α → σ → List (Call × Option Failure)
  | .done _, _ => []
  | .call c next, state =>
    (c, failure? (answer state c).1)
      :: (next (answer state c).1).calls answer (answer state c).2

@[simp] theorem calls_pure (a : α) (state : σ) :
    (pure a : Program α).calls answer state = [] := rfl

@[simp] theorem calls_perform (call : Call) (state : σ) :
    (perform call).calls answer state = [(call, failure? (answer state call).1)] := rfl

@[simp] theorem calls_bind (program : Program α) (next : α → Program β) (state : σ) :
    (program >>= next).calls answer state =
      program.calls answer state ++
        (next (program.run answer state).1).calls answer (program.run answer state).2 := by
  change (program.bind next).calls answer state = _
  induction program generalizing state with
  | done a => rfl
  | call c rest ih => exact congrArg (_ :: ·) (ih (answer state c).1 (answer state c).2)

def Unfailing (answer : σ → (call : Call) → Except Failure call.Reply × σ)
    (program : Program α) (state : σ) : Prop :=
  ∀ call ∈ program.calls answer state, call.2 = none

structure Does (answer : σ → (call : Call) → Except Failure call.Reply × σ)
    (program : Program α) (state : σ) (result : α) (after : σ) : Prop where
  run : program.run answer state = (result, after)
  unfailing : program.Unfailing answer state

theorem Does.pure (a : α) (state : σ) : (pure a : Program α).Does answer state a state :=
  ⟨rfl, by simp [Unfailing]⟩

theorem Does.perform {call : Call} {state after : σ} {reply : call.Reply}
    (replied : answer state call = (.ok reply, after)) :
    (perform call).Does answer state (.ok reply) after :=
  ⟨replied, by simp [Unfailing, replied, failure?]⟩

theorem Does.bind {program : Program α} {next : α → Program β} {state middle after : σ} {a : α}
    {b : β} (first : program.Does answer state a middle)
    (rest : (next a).Does answer middle b after) :
    (program >>= next).Does answer state b after := by
  refine ⟨?_, ?_⟩
  · rw [run_bind, first.run]
    exact rest.run
  · unfold Unfailing
    rw [calls_bind, List.forall_mem_append, first.run]
    exact ⟨first.unfailing, rest.unfailing⟩

end Program

def noting {σ : Type} (answer : σ → (call : Call) → Except Failure call.Reply × σ)
    (state : σ × List (Call × Option Failure)) (call : Call) :
    Except Failure call.Reply × (σ × List (Call × Option Failure)) :=
  let (reply, after) := answer state.1 call
  (reply, (after, state.2 ++ [(call, failure? reply)]))

theorem Program.run_noting {σ α : Type}
    {answer : σ → (call : Call) → Except Failure call.Reply × σ} (program : Program α)
    (state : σ) (noted : List (Call × Option Failure)) :
    program.run (noting answer) (state, noted) =
      ((program.run answer state).1,
        ((program.run answer state).2, noted ++ program.calls answer state)) := by
  induction program generalizing state noted with
  | done a => simp [run, calls]
  | call c rest ih =>
    have later := ih (answer state c).1 (answer state c).2
      (noted ++ [(c, failure? (answer state c).1)])
    rw [List.append_assoc] at later
    exact later

end SellerDirectory.Store
