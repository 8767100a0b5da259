import SellerDirectory.Proofs.Store.Faults
import SellerDirectory.Proofs.Sync.Domain

-- The run for one domain among failing calls. Whatever fails, what is done is a portion of the plan:
-- every batch is written whole or not at all, and states only for sellers that were inserted.

namespace SellerDirectory.Sync

open Registry Store

variable {store after : Store} {scope : Scope} {now : Time.Instant} {domain : String} {step : Step}
  {calls : List (Call × Option Failure)}

def isUpdate : Call → Bool
  | .update _ => true
  | _ => false

def updateDone (calls : List (Call × Option Failure)) : Bool :=
  calls.any fun made => isUpdate made.1 && made.2.isNone

theorem updateDone_append (first rest : List (Call × Option Failure)) :
    updateDone (first ++ rest) = (updateDone first || updateDone rest) :=
  List.any_append

def failedState? : Call × Option Failure → Option Key
  | (.addState state, some _) => some state.key
  | _ => none

def failedStates (calls : List (Call × Option Failure)) : List Key :=
  calls.filterMap failedState?

theorem failedStates_append (first rest : List (Call × Option Failure)) :
    failedStates (first ++ rest) = failedStates first ++ failedStates rest :=
  List.filterMap_append

def isAddState : Call → Bool
  | .addState _ => true
  | _ => false

theorem failedState?_eq_none {call : Call} {failure? : Option Failure}
    (other : isAddState call = false) : failedState? (call, failure?) = none := by
  cases call with
  | addState state => cases other
  | _ => rfl

theorem attempt_ends {call : Call} {result : Option call.Reply × List Event}
    (ends : (attempt domain step call).Ends store calls result after) :
    (∃ failure, result.1 = none ∧ after = store ∧ calls = [(call, some failure)]) ∨
      ∃ reply, result.1 = some reply ∧ store.answer call = (.ok reply, after) ∧
        calls = [(call, none)] := by
  obtain ⟨first, reply, middle, rest, rfl, performed, told⟩ := ends.bind
  rcases performed.perform with ⟨failure, rfl, rfl, rfl⟩ | ⟨given, rfl, answered, rfl⟩
  · obtain ⟨rfl, rfl, rfl⟩ := told.pure
    exact .inl ⟨failure, rfl, rfl, rfl⟩
  · obtain ⟨rfl, rfl, rfl⟩ := told.pure
    exact .inr ⟨given, rfl, answered, rfl⟩

theorem attemptUnless_ends {idle : Bool} {call : Call} {result : Option call.Reply × List Event}
    (ends : (attemptUnless idle domain step call).Ends store calls result after) :
    ((result.1 = none ∧ after = store ∧ updateDone calls = false) ∨
      ∃ reply, result.1 = some reply ∧ store.answer call = (.ok reply, after) ∧
        updateDone calls = isUpdate call) ∧
      (isAddState call = false → failedStates calls = []) := by
  unfold attemptUnless at ends
  split at ends
  · obtain ⟨rfl, rfl, rfl⟩ := ends.pure
    exact ⟨.inl ⟨rfl, rfl, rfl⟩, fun _ => rfl⟩
  · rcases attempt_ends ends with ⟨failure, failed, same, rfl⟩ | ⟨reply, replied, answered, rfl⟩
    · refine ⟨.inl ⟨failed, same, by simp [updateDone]⟩, fun other => ?_⟩
      simp [failedStates, failedState?_eq_none other]
    · refine ⟨.inr ⟨reply, replied, answered, by simp [updateDone]⟩, fun other => ?_⟩
      simp [failedStates, failedState?_eq_none other]

theorem initStates_ends {sellers : List Seller} {log : List Event}
    (ends : (initStates domain now sellers).Ends store calls log after) :
    ∃ stated, stated.Sublist sellers ∧ after = store.withStates now stated ∧
      updateDone calls = false ∧
      (failedStates calls ++ stated.map Seller.key).Perm (sellers.map Seller.key) := by
  induction sellers generalizing store calls log with
  | nil =>
    obtain ⟨rfl, rfl, rfl⟩ := ends.pure
    exact ⟨[], .slnil, rfl, rfl, .refl _⟩
  | cons seller rest ih =>
    obtain ⟨first, result, middle, _, rfl, here, remaining⟩ := ends.bind
    obtain ⟨later, messages, last, _, rfl, there, told⟩ := remaining.bind
    obtain ⟨rfl, rfl, rfl⟩ := told.pure
    obtain ⟨stated, inside, rfl, quiet, parts⟩ := ih there
    have silent : updateDone first = false → updateDone (first ++ (later ++ [])) = false := by
      intro idle
      rw [updateDone_append, updateDone_append, idle, quiet]
      rfl
    rw [List.append_nil, failedStates_append] at *
    rcases attempt_ends here with ⟨failure, _, rfl, rfl⟩ | ⟨added, _, answered, rfl⟩
    · exact ⟨stated, .cons _ inside, rfl, silent rfl, parts.cons _⟩
    · cases answered_addState answered
      exact ⟨seller :: stated, .cons_cons _ inside, rfl, silent rfl,
        List.perm_middle.trans (parts.cons _)⟩

theorem insert_ends {idle : Bool} {sellers : List Seller} {result : Option Nat × List Event}
    (ends : (attemptUnless idle domain step (.insert sellers)).Ends store calls result after) :
    ∃ stored, stored = (if result.1.isSome then sellers else []) ∧
      result.1.getD 0 = stored.length ∧ after = store.insert stored ∧ updateDone calls = false ∧
      failedStates calls = [] := by
  obtain ⟨⟨failed, rfl, quiet⟩ | ⟨count, replied, answered, quiet⟩, silent⟩ := attemptUnless_ends ends
  · exact ⟨[], by simp [failed], by simp [failed], rfl, quiet, silent rfl⟩
  · cases answered
    exact ⟨sellers, by simp [replied], by simp [replied], rfl, quiet, silent rfl⟩

theorem update_ends {idle : Bool} {sellers : List Seller} {result : Option Nat × List Event}
    (ends : (attemptUnless idle domain step (.update sellers)).Ends store calls result after) :
    ∃ stored, stored = (if updateDone calls then sellers else []) ∧
      result.1.getD 0 = stored.length ∧ after = store.insert stored ∧ failedStates calls = [] := by
  obtain ⟨⟨failed, rfl, quiet⟩ | ⟨count, replied, answered, done⟩, silent⟩ := attemptUnless_ends ends
  · exact ⟨[], by simp [quiet], by simp [failed], rfl, silent rfl⟩
  · obtain ⟨rfl, rfl⟩ := answered_update answered
    exact ⟨sellers, by simp [done, isUpdate], by simp [replied], rfl, silent rfl⟩

theorem deactivate_ends {idle : Bool} {ids : List String} {result : Option Nat × List Event}
    (ends : (attemptUnless idle domain step (.deactivate ids scope now)).Ends store calls result
      after) :
    ∃ gone, (gone = ids ∨ gone = []) ∧ result.1.getD 0 = (store.deactivate gone scope now).1 ∧
      after = (store.deactivate gone scope now).2 ∧ updateDone calls = false ∧
      failedStates calls = [] := by
  obtain ⟨⟨failed, rfl, quiet⟩ | ⟨count, replied, answered, quiet⟩, silent⟩ := attemptUnless_ends ends
  · exact ⟨[], .inr rfl, by rw [deactivate_nil, failed]; rfl, by rw [deactivate_nil], quiet, silent rfl⟩
  · cases answered
    exact ⟨ids, .inl rfl, by rw [replied]; rfl, rfl, quiet, silent rfl⟩

theorem states_ends {β : Type} {given : Bool} {sellers stored : List Seller}
    {next : List Event → Program β} {result : β} (known : stored = if given then sellers else [])
    (ends : (if given then initStates domain now sellers >>= next else pure [] >>= next).Ends store
      calls result after) :
    ∃ first log stated rest, calls = first ++ rest ∧ stated.Sublist stored ∧
      updateDone first = false ∧
      (failedStates first ++ stated.map Seller.key).Perm (stored.map Seller.key) ∧
      (next log).Ends (store.withStates now stated) rest result after := by
  cases given with
  | true =>
    obtain ⟨first, log, _, rest, same, ran, later⟩ := ends.bind
    obtain ⟨stated, inside, rfl, quiet, parts⟩ := initStates_ends ran
    subst known
    exact ⟨first, log, stated, rest, same, inside, quiet, parts, later⟩
  | false =>
    obtain ⟨first, log, _, rest, same, ran, later⟩ := ends.bind
    obtain ⟨rfl, rfl, rfl⟩ := ran.pure
    subst known
    exact ⟨[], [], [], rest, same, .slnil, rfl, .refl _, later⟩

-- The part of a plan that is written, with the sellers that get a state.
structure Portion extends Plan where
  stated : List Seller

namespace Portion

variable (portion : Portion)

structure Of (plan : Plan) : Prop where
  toInsert : portion.toInsert = plan.toInsert ∨ portion.toInsert = []
  toUpdate : portion.toUpdate = plan.toUpdate ∨ portion.toUpdate = []
  stated : portion.stated.Sublist portion.toInsert
  toDeactivate : portion.toDeactivate = plan.toDeactivate ∨ portion.toDeactivate = []

def arrived (now : Time.Instant) (store : Store) : Store :=
  ((store.insert portion.toInsert).insert portion.toUpdate).withStates now portion.stated

def written (scope : Scope) (now : Time.Instant) (store : Store) : Store :=
  ((portion.arrived now store).deactivate portion.toDeactivate scope now).2

def summary (scope : Scope) (now : Time.Instant) (listed : Nat) (store : Store) : Summary where
  domain := scope.domain
  inserted := portion.toInsert.length
  updated := portion.toUpdate.length
  deactivated := ((portion.arrived now store).deactivate portion.toDeactivate scope now).1
  listed

end Portion

theorem writePlan_ends {plan : Plan} {listed : Nat} {outcome : Outcome}
    (ends : (writePlan scope now listed plan).Ends store calls outcome after) :
    ∃ portion : Portion, portion.Of plan ∧
      portion.toUpdate = (if updateDone calls then plan.toUpdate else []) ∧
      (failedStates calls ++ portion.stated.map Seller.key).Perm (portion.toInsert.map Seller.key) ∧
      outcome.summary = portion.summary scope now listed store ∧
      after = portion.written scope now store := by
  obtain ⟨first, ⟨inserted, insertLog⟩, _, _, rfl, ran₁, ends⟩ := ends.bind
  obtain ⟨toInsert, whole, insertCount, rfl, quiet₁, silent₁⟩ := insert_ends ran₁
  obtain ⟨second, ⟨updated, updateLog⟩, middle, others, rfl, ran₂, ends⟩ := ends.bind
  obtain ⟨toUpdate, chosen, updateCount, rfl, silent₂⟩ := update_ends ran₂
  dsimp only at ends whole
  obtain ⟨third, stateLog, stated, _, rfl, inside, quiet₃, parts, ends⟩ := states_ends whole ends
  obtain ⟨last, ⟨deactivated, deactivateLog⟩, _, _, rfl, ran₄, told⟩ := ends.bind
  obtain ⟨gone, part, goneCount, rfl, quiet₄, silent₄⟩ := deactivate_ends ran₄
  obtain ⟨rfl, rfl, rfl⟩ := told.pure
  have done : updateDone (first ++ (second ++ (third ++ (last ++ [])))) = updateDone second := by
    rw [List.append_nil]
    simp only [updateDone_append, quiet₁, quiet₃, quiet₄, Bool.false_or, Bool.or_false]
  have missed : failedStates (first ++ (second ++ (third ++ (last ++ [])))) = failedStates third := by
    rw [List.append_nil]
    simp only [failedStates_append, silent₁, silent₂, silent₄, List.nil_append, List.append_nil]
  refine ⟨⟨⟨toInsert, toUpdate, gone⟩, stated⟩, ⟨?_, ?_, inside, part⟩, ?_, ?_, ?_, rfl⟩
  · rw [whole]
    cases inserted.isSome <;> simp
  · rw [chosen]
    cases updateDone second <;> simp
  · rw [done]
    exact chosen
  · rw [missed]
    exact parts
  · simp only [insertCount, updateCount, goneCount]
    rfl

-- All that the run for a domain can come to: the calls that it made, what it reports, and the store.
inductive Ending (scope : Scope) (now : Time.Instant)
    (fetched : Except Failure (List Subscriber)) (store : Store) :
    List (Call × Option Failure) → Summary → Store → Prop where
  | unfetched {failure : Failure} (none_fetched : fetched = .error failure) :
      Ending scope now fetched store [] (.empty scope.domain) store
  | unread {made : List (Call × Option Failure)} {snapshot : List Subscriber}
      (got : fetched = .ok snapshot) (quiet : updateDone made = false)
      (silent : failedStates made = []) :
      Ending scope now fetched store made
        { Summary.empty scope.domain with listed := snapshot.length } store
  | written {made : List (Call × Option Failure)} {snapshot : List Subscriber}
      {active : List Seller} {portion : Portion} (got : fetched = .ok snapshot)
      (read : store.activeSellers scope = .ok active)
      (part : portion.Of (planOf scope now snapshot active))
      (chosen : portion.toUpdate =
        if updateDone made then (planOf scope now snapshot active).toUpdate else [])
      (parts : (failedStates made ++ portion.stated.map Seller.key).Perm
        (portion.toInsert.map Seller.key)) :
      Ending scope now fetched store made (portion.summary scope now snapshot.length store)
        (portion.written scope now store)

theorem syncDomain_ends {fetched : Except Failure (List Subscriber)} {outcome : Outcome}
    (valid : store.Valid) (ends : (syncDomain scope now fetched).Ends store calls outcome after) :
    Ending scope now fetched store calls outcome.summary after := by
  cases fetched with
  | error failure =>
    obtain ⟨rfl, rfl, rfl⟩ := ends.pure
    exact .unfetched rfl
  | ok snapshot =>
    obtain ⟨first, reply, _, rest, rfl, performed, later⟩ := ends.bind
    rcases performed.perform with ⟨failure, rfl, rfl, rfl⟩ | ⟨active, rfl, answered, rfl⟩
    · obtain ⟨rfl, rfl, rfl⟩ := later.pure
      exact .unread rfl rfl rfl
    · have read : store.activeSellers scope = .ok active := congrArg Prod.fst answered
      cases congrArg Prod.snd answered
      have once : lastOfEachId active = active :=
        lastOfEachId_of_single (ids_of_active_distinct valid read)
      dsimp only at later
      rw [once] at later
      obtain ⟨writes, written, _, _, rfl, wrote, told⟩ := later.bind
      obtain ⟨portion, part, chosen, parts, same, rfl⟩ := writePlan_ends wrote
      obtain ⟨rfl, rfl, rfl⟩ := told.pure
      change Ending scope now (.ok snapshot) store _ written.summary _
      rw [same]
      refine .written rfl read part ?_ ?_
      · rw [List.append_nil, updateDone_append]
        exact chosen
      · rw [List.append_nil, failedStates_append]
        exact parts

end SellerDirectory.Sync
