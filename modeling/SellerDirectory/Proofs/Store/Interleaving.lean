import SellerDirectory.Proofs.Store.Parts

-- Two programs that share a store. Each call finds the store as the call before it left it, whichever
-- program made that one; programs that stay within different scopes do not notice each other.

namespace SellerDirectory.Store

variable {α β σ : Type} {answer : σ → (call : Call) → Except Failure call.Reply × σ}

inductive Interleaved (answer : σ → (call : Call) → Except Failure call.Reply × σ) :
    Program α → Program β → σ → α → β → σ → Prop where
  | done (a : α) (b : β) (state : σ) : Interleaved answer (.done a) (.done b) state a b state
  | left {call : Call} {next : Except Failure call.Reply → Program α} {second : Program β}
      {state after : σ} {a : α} {b : β}
      (rest : Interleaved answer (next (answer state call).1) second (answer state call).2 a b
        after) :
      Interleaved answer (.call call next) second state a b after
  | right {first : Program α} {call : Call} {next : Except Failure call.Reply → Program β}
      {state after : σ} {a : α} {b : β}
      (rest : Interleaved answer first (next (answer state call).1) (answer state call).2 a b
        after) :
      Interleaved answer first (.call call next) state a b after

namespace Interleaved

variable {first : Program α} {second : Program β} {state after : σ} {a : α} {b : β}

theorem symm (interleaved : Interleaved answer first second state a b after) :
    Interleaved answer second first state b a after := by
  induction interleaved with
  | done a b state => exact .done b a state
  | left _ ih => exact .right ih
  | right _ ih => exact .left ih

theorem sequential (first : Program α) (second : Program β) (state : σ) :
    Interleaved answer first second state (first.run answer state).1
      (second.run answer (first.run answer state).2).1
      (second.run answer (first.run answer state).2).2 := by
  induction first generalizing state with
  | done a =>
    induction second generalizing state with
    | done b => exact .done a b state
    | call call next ih => exact .right (ih _ _)
  | call call next ih => exact .left (ih _ _)

end Interleaved

section Apart

variable {scope other : Scope} {first : Program α} {second : Program β} {store after : Store}
  {a : α} {b : β}

structure Apart (scope other : Scope) (first : Program α) (second : Program β) (store : Store)
    (a : α) (b : β) (after : Store) : Prop where
  firstResult : a = (first.run Store.answer store).1
  secondResult : b = (second.run Store.answer store).1
  firstPart : after.part scope = (first.run Store.answer store).2.part scope
  secondPart : after.part other = (second.run Store.answer store).2.part other
  elsewhere : ∀ third, scope ≠ third → other ≠ third → after.part third = store.part third

theorem Apart.symm (apart : Apart scope other first second store a b after) :
    Apart other scope second first store b a after :=
  ⟨apart.secondResult, apart.firstResult, apart.secondPart, apart.firstPart,
    fun third inSecond inFirst => apart.elsewhere third inFirst inSecond⟩

theorem Apart.left {call : Call} {next : Except Failure call.Reply → Program α}
    (different : scope ≠ other) (here : call.Within scope)
    (within : second.Each (Call.Within other))
    (apart : Apart scope other (next (store.answer call).1) second (store.answer call).2 a b after) :
    Apart scope other (.call call next) second store a b after := by
  have untouched {third : Scope} (away : scope ≠ third) :
      (store.answer call).2.part third = store.part third :=
    answer_elsewhere here (decide_eq_false away) store
  obtain ⟨result, part⟩ := run_of_part within (untouched different)
  exact ⟨apart.firstResult, apart.secondResult.trans result, apart.firstPart,
    apart.secondPart.trans part,
    fun third away beside => (apart.elsewhere third away beside).trans (untouched away)⟩

theorem Interleaved.apart (different : scope ≠ other)
    (interleaved : Interleaved Store.answer first second store a b after)
    (firstWithin : first.Each (Call.Within scope))
    (secondWithin : second.Each (Call.Within other)) :
    Apart scope other first second store a b after := by
  induction interleaved with
  | done a b state => exact ⟨rfl, rfl, rfl, rfl, fun _ _ _ => rfl⟩
  | left rest ih => exact .left different firstWithin.1 secondWithin (ih (firstWithin.2 _) secondWithin)
  | right rest ih =>
    exact (Apart.left different.symm secondWithin.1 firstWithin
      (ih firstWithin (secondWithin.2 _)).symm).symm

theorem Apart.same {a' : α} {b' : β} {after' : Store}
    (apart : Apart scope other first second store a b after)
    (apart' : Apart scope other first second store a' b' after') :
    a = a' ∧ b = b' ∧ after.Same after' := by
  refine ⟨apart.firstResult.trans apart'.firstResult.symm,
    apart.secondResult.trans apart'.secondResult.symm, same_of_parts fun third => ?_⟩
  by_cases inFirst : scope = third
  · subst inFirst
    rw [apart.firstPart, apart'.firstPart]
  · by_cases inSecond : other = third
    · subst inSecond
      rw [apart.secondPart, apart'.secondPart]
    · rw [apart.elsewhere third inFirst inSecond, apart'.elsewhere third inFirst inSecond]

-- However two programs of different scopes take turns, they come to what they come to when the second
-- one starts after the first one has ended.
theorem interleaved_sequential (different : scope ≠ other)
    (interleaved : Interleaved Store.answer first second store a b after)
    (firstWithin : first.Each (Call.Within scope))
    (secondWithin : second.Each (Call.Within other)) :
    a = (first.run Store.answer store).1 ∧
      b = (second.run Store.answer (first.run Store.answer store).2).1 ∧
      after.Same (second.run Store.answer (first.run Store.answer store).2).2 :=
  (interleaved.apart different firstWithin secondWithin).same
    ((Interleaved.sequential first second store).apart different firstWithin secondWithin)

end Apart

end SellerDirectory.Store
