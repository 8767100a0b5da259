import SellerDirectory.Proofs.Store.Interleaving

-- A program that others disturb: between any two of its calls the store may be called by anybody,
-- as often as they like. All that it can count on is what no call undoes.

namespace SellerDirectory.Store

variable {α β : Type} {store after : Store} {call : Call}

def Call.isWrite : Call → Bool
  | .active _ => false
  | _ => true

theorem answer_extends (store : Store) (call : Call) : Extends store (store.answer call).2 :=
  change_extends (change_of_answer store call)

def amid (store : Store) (calls : List Call) : Store :=
  calls.foldl (fun store call => (store.answer call).2) store

theorem amid_extends (store : Store) (calls : List Call) : Extends store (store.amid calls) := by
  unfold amid
  induction calls generalizing store with
  | nil => exact .refl store
  | cons call rest ih => exact (answer_extends store call).trans (ih (store.answer call).2)

-- Answers a call once others have made the calls that they make before it. What is still to come
-- are their calls before the next ones.
def answerAmid (state : List (List Call) × Store) (call : Call) :
    Except Failure call.Reply × (List (List Call) × Store) :=
  let store := state.2.amid (state.1.headD [])
  ((store.answer call).1, (state.1.tail, (store.answer call).2))

namespace Program

variable {ensures : α → Store → Prop}

def Secures (ensures : α → Store → Prop) : Program α → Store → Prop
  | .done a, store => ensures a store
  | .call c next, store => ∀ later, Extends store later →
    (c.isWrite → ∃ reply, (later.answer c).1 = .ok reply) ∧
      (next (later.answer c).1).Secures ensures (later.answer c).2

theorem Secures.pure {a : α} (holds : ensures a store) :
    (pure a : Program α).Secures ensures store :=
  holds

theorem Secures.perform {ensures : Except Failure call.Reply → Store → Prop}
    (step : ∀ later, Extends store later →
      (call.isWrite → ∃ reply, (later.answer call).1 = .ok reply) ∧
        ensures (later.answer call).1 (later.answer call).2) :
    (perform call).Secures ensures store :=
  step

theorem Secures.bind {program : Program α} {next : α → Program β} {concludes : β → Store → Prop}
    (first : program.Secures ensures store)
    (rest : ∀ a middle, Extends store middle → ensures a middle →
      (next a).Secures concludes middle) :
    (program >>= next).Secures concludes store := by
  change (program.bind next).Secures concludes store
  induction program generalizing store with
  | done a => exact rest a store (.refl store) first
  | call c proceed ih =>
    intro later grown
    obtain ⟨here, there⟩ := first later grown
    have path := grown.trans (answer_extends later c)
    refine ⟨here, ih _ there fun a middle beyond holds => ?_⟩
    exact rest a middle (path.trans beyond) holds

theorem Secures.unfailing {program : Program α} (secures : program.Secures ensures store)
    (others : List (List Call)) :
    ∀ made ∈ program.calls answerAmid (others, store), made.1.isWrite → made.2 = none := by
  induction program generalizing store others with
  | done a => exact fun made member => absurd member List.not_mem_nil
  | call c next ih =>
    obtain ⟨here, there⟩ := secures _ (amid_extends store (others.headD []))
    rintro made member write
    rcases List.mem_cons.mp member with rfl | later
    · exact failure?_eq_none.mpr (here write)
    · exact ih _ there others.tail made later write

end Program

section Interleaved

theorem run_amid_after {program : Program α} (others : List (List Call)) (call : Call)
    (store : Store) :
    (program.run answerAmid ((call :: others.headD []) :: others.tail, store)).1 =
      (program.run answerAmid (others, (store.answer call).2)).1 := by
  cases program with
  | done a => rfl
  | call c next =>
    have same : answerAmid ((call :: others.headD []) :: others.tail, store) c =
        answerAmid (others, (store.answer call).2) c := rfl
    unfold Program.run
    rw [same]

-- What takes turns with a program is, for that program, some schedule of calls in between.
theorem Interleaved.amid {first : Program α} {second : Program β} {a : α} {b : β}
    (interleaved : Interleaved answer first second store a b after) :
    ∃ others, (first.run answerAmid (others, store)).1 = a := by
  induction interleaved with
  | done a b store => exact ⟨[], rfl⟩
  | left rest ih =>
    obtain ⟨others, same⟩ := ih
    exact ⟨[] :: others, same⟩
  | @right first call next store after a b rest ih =>
    obtain ⟨others, same⟩ := ih
    refine ⟨(call :: others.headD []) :: others.tail, ?_⟩
    rw [run_amid_after]
    exact same

end Interleaved

end SellerDirectory.Store
