import SellerDirectory.Proofs.Store.Interleaving
import SellerDirectory.Proofs.Sync.History
import SellerDirectory.Proofs.Sync.Idempotence

-- The run for a domain makes no call outside its scope. So it leaves all other rows alone, the turns
-- of a run may be taken in any order, and runs for different scopes may share a store.

namespace SellerDirectory.Sync

open Registry Store

section Each

variable {scope : Scope} {domain : String} {step : Step} {now : Time.Instant}

theorem attempt_each {call : Call} (within : call.Within scope) :
    (attempt domain step call).Each (Call.Within scope) :=
  (Program.Each.perform within).bind fun reply => by
    cases reply <;> exact .pure _

theorem attemptUnless_each {idle : Bool} {call : Call} (within : call.Within scope) :
    (attemptUnless idle domain step call).Each (Call.Within scope) := by
  unfold attemptUnless
  split
  · exact .pure _
  · exact attempt_each within

theorem initStates_each {sellers : List Seller}
    (within : ∀ seller ∈ sellers, seller.scope = scope) :
    (initStates domain now sellers).Each (Call.Within scope) := by
  induction sellers with
  | nil => exact .pure _
  | cons seller rest ih =>
    obtain ⟨here, later⟩ := List.forall_mem_cons.mp within
    have call : Call.Within scope (.addState (.initial seller now)) := here
    exact (attempt_each call).bind fun _ => (ih later).bind fun _ => .pure _

theorem writePlan_each {plan : Plan} {listed : Nat}
    (inserts : ∀ seller ∈ plan.toInsert, seller.scope = scope)
    (updates : ∀ seller ∈ plan.toUpdate, seller.scope = scope) :
    (writePlan scope now listed plan).Each (Call.Within scope) := by
  have insert : Call.Within scope (.insert plan.toInsert) := inserts
  have update : Call.Within scope (.update plan.toUpdate) := updates
  have deactivate : Call.Within scope (.deactivate plan.toDeactivate scope now) := rfl
  refine (attemptUnless_each insert).bind fun inserted => ?_
  refine (attemptUnless_each update).bind fun updated => ?_
  dsimp only
  split
  · exact (initStates_each inserts).bind fun _ => (attemptUnless_each deactivate).bind fun _ => .pure _
  · exact (Program.Each.pure _).bind fun _ => (attemptUnless_each deactivate).bind fun _ => .pure _

theorem syncDomain_each (fetched : Except Failure (List Subscriber)) :
    (syncDomain scope now fetched).Each (Call.Within scope) := by
  cases fetched with
  | error failure => exact .pure _
  | ok snapshot =>
    have read : Call.Within scope (.active scope) := rfl
    refine (Program.Each.perform read).bind fun reply => ?_
    cases reply with
    | error failure => exact .pure _
    | ok active => exact (writePlan_each within_toInsert within_toUpdate).bind fun _ => .pure _

end Each

section Turns

variable {turn : Turn} {turns turns' : List Turn} {store : Store}

theorem Turn.within (turn : Turn) : turn.program.Each (Call.Within turn.scope) :=
  syncDomain_each _

theorem leftBy_elsewhere (faults : Faults) {test : Scope → Bool}
    (outside : ∀ turn ∈ turns, test turn.scope = false) (state : Nat × Store) :
    (leftBy (answerWith Store.answer faults) turns state).2.only test = state.2.only test := by
  unfold leftBy
  induction turns generalizing state with
  | nil => rfl
  | cons turn rest ih =>
    obtain ⟨here, later⟩ := List.forall_mem_cons.mp outside
    rw [List.foldl_cons, ih later]
    exact run_elsewhere_faulty turn.within here faults state

theorem Turn.after_apart {scope : Scope} (apart : turn.scope ≠ scope) (store : Store) :
    (turn.after store).part scope = store.part scope :=
  run_apart turn.within apart store

theorem Turn.of_part {left right : Store} (same : left.part turn.scope = right.part turn.scope) :
    turn.summary left = turn.summary right ∧
      (turn.after left).part turn.scope = (turn.after right).part turn.scope := by
  obtain ⟨outcome, part⟩ := run_of_part turn.within same
  exact ⟨congrArg Outcome.summary outcome, part⟩

theorem afterTurns_apart {scope : Scope} (outside : scope ∉ turns.map Turn.scope) :
    (afterTurns turns store).part scope = store.part scope := by
  induction turns generalizing store with
  | nil => rfl
  | cons first rest ih =>
    have apart : scope ≠ first.scope := List.ne_of_not_mem_cons outside
    rw [afterTurns_cons, ih (List.not_mem_of_not_mem_cons outside), first.after_apart apart.symm]

variable (distinct : (turns.map Turn.scope).Nodup)

include distinct

-- Of several turns in different scopes each one finds its part as it was at first, and leaves it for
-- good.
theorem afterTurns_part (member : turn ∈ turns) :
    (afterTurns turns store).part turn.scope = (turn.after store).part turn.scope := by
  induction turns generalizing store with
  | nil => exact absurd member List.not_mem_nil
  | cons first rest ih =>
    obtain ⟨fresh, distinct⟩ := List.nodup_cons.mp distinct
    rw [afterTurns_cons]
    rcases List.mem_cons.mp member with rfl | later
    · exact afterTurns_apart fresh
    · have apart : first.scope ≠ turn.scope := fun same =>
        fresh (same ▸ List.mem_map_of_mem later)
      rw [ih distinct later]
      exact (Turn.of_part (first.after_apart apart store)).2

theorem summaries_apart :
    summaries turns store = turns.map fun turn => turn.summary store := by
  induction turns generalizing store with
  | nil => rfl
  | cons first rest ih =>
    obtain ⟨fresh, distinct⟩ := List.nodup_cons.mp distinct
    rw [summaries, List.map_cons, ih distinct]
    congr 1
    refine List.map_congr_left fun turn later => ?_
    have apart : first.scope ≠ turn.scope := fun same => fresh (same ▸ List.mem_map_of_mem later)
    exact (Turn.of_part (first.after_apart apart store)).1

theorem afterTurns_perm (perm : turns'.Perm turns) :
    (afterTurns turns store).Same (afterTurns turns' store) := by
  have distinct' : (turns'.map Turn.scope).Nodup := (perm.map _).nodup_iff.mpr distinct
  refine same_of_parts fun scope => ?_
  by_cases taken : scope ∈ turns.map Turn.scope
  · obtain ⟨turn, member, rfl⟩ := List.mem_map.mp taken
    rw [afterTurns_part distinct member, afterTurns_part distinct' (perm.mem_iff.mpr member)]
  · have untaken : scope ∉ turns'.map Turn.scope := fun there =>
      taken ((perm.map _).mem_iff.mp there)
    rw [afterTurns_apart taken, afterTurns_apart untaken]

end Turns

section Run

def Request.asks (request : Request) (scope : Scope) : Bool :=
  scope.environment = request.environment && request.domains.contains scope.domain

def turnAt (fetch : String → Fetched) (environment : String) (now : Time.Instant)
    (domain : String) : Turn :=
  ⟨⟨domain, environment⟩, now, fetch domain⟩

section Fetch

variable {fetch : String → Fetched} {environment : String} {now : Time.Instant}
  {request : Request} {domains : List String} {store : Store}

theorem turnsAt_apart (distinct : domains.Nodup) :
    ((domains.map (turnAt fetch environment now)).map Turn.scope).Nodup := by
  refine List.Nodup.of_map Scope.domain ?_
  simpa [Function.comp_def, turnAt] using distinct

theorem run_of_function :
    (Sync.run (m := Id) fetch Store.answer request now store).run =
      (request.domains.map (turnAt fetch request.environment now)).foldl (Run.take Store.answer)
        (Run.start store) := by
  rw [run_eq]
  exact congrArg (fun turns => List.foldl (Run.take Store.answer) (Run.start store) turns)
    (turns_of_function fetch request now)

theorem store_of_function :
    (Sync.run (m := Id) fetch Store.answer request now store).run.store =
      afterTurns (request.domains.map (turnAt fetch request.environment now)) store := by
  rw [run_of_function]
  exact store_of_take _ _

-- If each domain is asked for once, what is told of it depends on the store at first.
theorem summaries_of_function (distinct : request.domains.Nodup) :
    (Sync.run (m := Id) fetch Store.answer request now store).run.summaries =
      request.domains.map fun domain =>
        (turnAt fetch request.environment now domain).summary store := by
  rw [run_of_function, summaries_of_turns]
  change [] ++ summaries _ store = _
  rw [List.nil_append, summaries_apart (turnsAt_apart distinct), List.map_map]
  rfl

end Fetch

-- A run leaves alone what it is not asked for, whatever the registry answers and whichever calls
-- fail. If it is asked for each domain once, the order of the domains does not matter.
theorem run_isolated (request : Request) (now : Time.Instant) (store : Store) :
    (∀ {ω : Type} (registry : String → StateM ω Fetched) (world : ω) (faults : Faults),
      let final := ((Sync.run registry (answerWith Store.answer faults) request now (0, store)).run
        world).1.store.2
      final.only (fun scope => !request.asks scope) =
        store.only fun scope => !request.asks scope) ∧
      ∀ fetch : String → Fetched, request.domains.Nodup →
        ∀ domains : List String, domains.Perm request.domains →
          let first := (Sync.run (m := Id) fetch Store.answer request now store).run
          let second := (Sync.run (m := Id) fetch Store.answer ⟨request.environment, domains⟩ now
            store).run
          first.store.Same second.store ∧
            ∃ told : String → Summary,
              (first.report request.environment now).domains = request.domains.map told ∧
                (second.report request.environment now).domains = domains.map told := by
  constructor
  · intro ω registry world faults final
    unfold final
    rw [run_store]
    refine leftBy_elsewhere faults (fun turn member => ?_) (0, store)
    obtain ⟨_, environment, asked⟩ := mem_turns member
    simp [Request.asks, environment, asked]
  · intro fetch distinct domains perm first second
    refine ⟨?_, _, summaries_of_function distinct,
      summaries_of_function (perm.nodup_iff.mpr distinct)⟩
    unfold first second
    rw [store_of_function, store_of_function]
    exact afterTurns_perm (turnsAt_apart distinct) (perm.map _)

theorem sampleStore_isolated :
    ["ONDC:RET10", "ONDC:RET11"].Nodup ∧
      ["ONDC:RET11", "ONDC:RET10"].Perm ["ONDC:RET10", "ONDC:RET11"] ∧
      let first := (Sync.run (m := Id) sampleFetch Store.answer
        ⟨"prod", ["ONDC:RET10", "ONDC:RET11"]⟩ laterTime sampleStore).run
      let second := (Sync.run (m := Id) sampleFetch Store.answer
        ⟨"prod", ["ONDC:RET11", "ONDC:RET10"]⟩ laterTime sampleStore).run
      first.store.Same second.store ∧
        (second.report "prod" laterTime).domains =
          (first.report "prod" laterTime).domains.reverse := by
  have distinct : ["ONDC:RET10", "ONDC:RET11"].Nodup := by decide
  have perm : ["ONDC:RET11", "ONDC:RET10"].Perm ["ONDC:RET10", "ONDC:RET11"] := .swap _ _ _
  obtain ⟨same, told, first, second⟩ :=
    (run_isolated ⟨"prod", ["ONDC:RET10", "ONDC:RET11"]⟩ laterTime sampleStore).2 sampleFetch
      distinct _ perm
  refine ⟨distinct, perm, same, ?_⟩
  rw [second, first]
  rfl

end Run

-- Runs for different scopes may share a store: however their calls are mixed, each of them comes to
-- what it comes to when one runs after the other, and so does the store.
theorem runs_interleaved {scope other : Scope} (apart : scope ≠ other) (now now' : Time.Instant)
    (fetched fetched' : Except Failure (List Subscriber)) {store after : Store} {a b : Outcome}
    (interleaved : Interleaved Store.answer (syncDomain scope now fetched)
      (syncDomain other now' fetched') store a b after) :
    let first := (syncDomain scope now fetched).run Store.answer
    let second := (syncDomain other now' fetched').run Store.answer
    (a = (first store).1 ∧ b = (second (first store).2).1 ∧
      after.Same (second (first store).2).2) ∧
      b = (second store).1 ∧ a = (first (second store).2).1 ∧
        after.Same (first (second store).2).2 :=
  ⟨interleaved_sequential apart interleaved (syncDomain_each _) (syncDomain_each _),
    interleaved_sequential apart.symm interleaved.symm (syncDomain_each _) (syncDomain_each _)⟩

theorem sampleRuns_interleaved :
    sampleScope ≠ ⟨"ONDC:RET10", "preprod"⟩ ∧
      ∃ a b after,
        Interleaved Store.answer (syncDomain sampleScope laterTime (.ok sampleSnapshot))
          (syncDomain ⟨"ONDC:RET10", "preprod"⟩ laterTime (.ok [sampleEntry "A" ""])) sampleStore
          a b after ∧
        a.summary = ⟨"ONDC:RET10", 1, 1, 1, 4⟩ ∧ b.summary = ⟨"ONDC:RET10", 1, 0, 0, 1⟩ ∧
        after.sellers.length = 5 := by
  have apart : sampleScope ≠ ⟨"ONDC:RET10", "preprod"⟩ := by decide
  obtain ⟨a, b, after, mixed⟩ : ∃ a b after,
      Interleaved Store.answer (syncDomain sampleScope laterTime (.ok sampleSnapshot))
        (syncDomain ⟨"ONDC:RET10", "preprod"⟩ laterTime (.ok [sampleEntry "A" ""])) sampleStore
        a b after :=
    ⟨_, _, _, .left (.right (.sequential _ _ _))⟩
  obtain ⟨⟨first, _, same⟩, second, _⟩ := runs_interleaved apart laterTime laterTime _ _ mixed
  refine ⟨apart, a, b, after, mixed, ?_, ?_, ?_⟩
  · rw [first]
    decide +kernel
  · rw [second]
    decide +kernel
  · rw [same.sellers.length_eq]
    decide +kernel

end SellerDirectory.Sync
