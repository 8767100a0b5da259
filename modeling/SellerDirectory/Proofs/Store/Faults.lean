import SellerDirectory.Proofs.Store.Valid

-- Calls that fail. Whether a call fails on its own or never reaches the store, the store stays as it
-- was; so a run among failing calls is told by which of its calls were answered.

namespace SellerDirectory.Store

theorem answer_of_error {store : Store} {call : Call} {failure : Failure}
    (failed : (store.answer call).1 = .error failure) : (store.answer call).2 = store := by
  cases call with
  | active scope => rfl
  | insert sellers => cases failed
  | update sellers =>
    cases ran : store.update sellers with
    | error failure => simp only [answer, ran]
    | ok updated =>
      simp only [answer, ran] at failed
      cases failed
  | addState state =>
    cases ran : store.addState state with
    | error failure => simp only [answer, ran]
    | ok added =>
      simp only [answer, ran] at failed
      cases failed
  | deactivate ids scope now => cases failed

section Faults

variable {σ : Type} {answer : σ → (call : Call) → Except Failure call.Reply × σ} {faults : Faults}
  {state : Nat × σ} {call : Call}

theorem answerWith_of_fault {failure : Failure} (fault : faults state.1 call = some failure) :
    answerWith answer faults state call = (.error failure, state.1 + 1, state.2) := by
  simp only [answerWith, fault]

theorem answerWith_of_reach (reach : faults state.1 call = none) :
    answerWith answer faults state call =
      ((answer state.2 call).1, state.1 + 1, (answer state.2 call).2) := by
  simp only [answerWith, reach]

end Faults

-- A call that fails on the way changes nothing, so a faulty store keeps what the store keeps.
theorem answerWith_keeps (Kept : Store → Prop) (faults : Faults) {state : Nat × Store} {call : Call}
    (kept : Kept state.2) (step : Kept (state.2.answer call).2) :
    Kept (answerWith answer faults state call).2.2 := by
  cases fault : faults state.1 call with
  | some failure => rwa [answerWith_of_fault fault]
  | none => rwa [answerWith_of_reach fault]

namespace Program

variable {α β : Type} {program : Program α} {next : α → Program β} {store after : Store}
  {calls : List (Call × Option Failure)}

def Ends (program : Program α) (store : Store) (calls : List (Call × Option Failure)) (result : α)
    (after : Store) : Prop :=
  ∃ faults place,
    (program.run (answerWith Store.answer faults) (place, store)).1 = result ∧
      (program.run (answerWith Store.answer faults) (place, store)).2.2 = after ∧
      program.calls (answerWith Store.answer faults) (place, store) = calls

theorem Ends.pure {a result : α} (ends : (pure a : Program α).Ends store calls result after) :
    calls = [] ∧ result = a ∧ after = store := by
  obtain ⟨faults, place, rfl, rfl, rfl⟩ := ends
  exact ⟨rfl, rfl, rfl⟩

theorem Ends.bind {result : β} (ends : (program >>= next).Ends store calls result after) :
    ∃ first a middle rest, calls = first ++ rest ∧ program.Ends store first a middle ∧
      (next a).Ends middle rest result after := by
  obtain ⟨faults, place, rfl, rfl, rfl⟩ := ends
  rw [run_bind, calls_bind]
  exact ⟨_, _, _, _, rfl, ⟨faults, place, rfl, rfl, rfl⟩, faults, _, rfl, rfl, rfl⟩

theorem Ends.perform {call : Call} {reply : Except Failure call.Reply}
    (ends : (perform call).Ends store calls reply after) :
    (∃ failure, reply = .error failure ∧ after = store ∧ calls = [(call, some failure)]) ∨
      ∃ r, reply = .ok r ∧ store.answer call = (.ok r, after) ∧ calls = [(call, none)] := by
  obtain ⟨faults, place, rfl, rfl, rfl⟩ := ends
  rw [run_perform, calls_perform]
  cases fault : faults place call with
  | some failure =>
    rw [answerWith_of_fault fault]
    exact .inl ⟨failure, rfl, rfl, rfl⟩
  | none =>
    rw [answerWith_of_reach fault]
    cases replied : (store.answer call).1 with
    | error failure => exact .inl ⟨failure, rfl, answer_of_error replied, rfl⟩
    | ok r => exact .inr ⟨r, rfl, Prod.ext replied rfl, rfl⟩

theorem Ends.valid {result : α} (valid : store.Valid)
    (ends : program.Ends store calls result after) : after.Valid := by
  obtain ⟨faults, place, _, rfl, _⟩ := ends
  exact program.run_preserves (fun state : Nat × Store => state.2.Valid)
    (fun state call valid => answerWith_keeps Valid faults valid
      (change_valid valid (change_of_answer state.2 call))) valid

end Program

end SellerDirectory.Store
