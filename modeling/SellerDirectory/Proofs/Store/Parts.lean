import SellerDirectory.Proofs.Store.Faults

-- Stores by parts. A part of a store are the rows of some scopes; a call that stays within a scope
-- reads and changes no other part, and the parts together are the store, but for the order of rows.

namespace SellerDirectory.Store

variable {store : Store} {scope : Scope} {test : Scope → Bool}

def only (test : Scope → Bool) (store : Store) : Store where
  sellers := store.sellers.filter fun row => test row.key.scope
  states := store.states.filter fun row => test row.key.scope

def part (scope : Scope) (store : Store) : Store :=
  store.only fun other => other = scope

section Writes

variable {seller : Seller} {sellers : List Seller} {rows : List SellerRow}

theorem filter_putSeller :
    (putSeller rows seller).filter (fun row => test row.key.scope) =
      if test seller.scope then putSeller (rows.filter fun row => test row.key.scope) seller
      else rows.filter fun row => test row.key.scope :=
  Table.filter_put (fun key => test key.scope) key_refreshed

theorem only_insert (store : Store) (sellers : List Seller) :
    (store.insert sellers).only test =
      (store.only test).insert (sellers.filter fun seller => test seller.scope) := by
  unfold only insert
  congr 1
  generalize store.sellers = rows
  induction sellers generalizing rows with
  | nil => rfl
  | cons seller rest ih =>
    rw [List.foldl_cons, ih, filter_putSeller]
    by_cases inside : test seller.scope <;> simp [inside]

theorem refresh_filter (inside : ∀ seller ∈ sellers, test seller.scope) :
    sellers.foldlM refreshSeller (rows.filter fun row => test row.key.scope) =
      (sellers.foldlM refreshSeller rows).map fun rows =>
        rows.filter fun row => test row.key.scope := by
  induction sellers generalizing rows with
  | nil => rfl
  | cons seller rest ih =>
    obtain ⟨here, later⟩ := List.forall_mem_cons.mp inside
    have known : Table.contains seller.key (rows.filter fun row => test row.key.scope) =
        Table.contains seller.key rows :=
      Table.contains_filter (fun key => test key.scope) here
    have put : putSeller (rows.filter fun row => test row.key.scope) seller =
        (putSeller rows seller).filter fun row => test row.key.scope := by
      rw [filter_putSeller, if_pos here]
    rw [List.foldlM_cons, List.foldlM_cons, refreshSeller_eq, refreshSeller_eq, known, put]
    split
    · exact ih later
    · rfl

theorem only_update (store : Store) (inside : ∀ seller ∈ sellers, test seller.scope) :
    (store.only test).update sellers = (store.update sellers).map (only test) := by
  unfold update only
  rw [refresh_filter inside]
  cases sellers.foldlM refreshSeller store.sellers <;> rfl

theorem only_addState (store : Store) (state : Catalog.State) (inside : test state.key.scope) :
    (store.only test).addState state =
      (store.addState state).map fun (added, updated) => (added, updated.only test) := by
  have given : Table.contains state.key (store.only test).states =
      Table.contains state.key store.states :=
    Table.contains_filter (fun key => test key.scope) inside
  have known : Table.contains state.key (store.only test).sellers =
      Table.contains state.key store.sellers :=
    Table.contains_filter (fun key => test key.scope) inside
  have kept : (store.states ++ [StateRow.ofState state]).filter (fun row => test row.key.scope) =
      (store.only test).states ++ [StateRow.ofState state] := by
    have here : test (StateRow.ofState state).key.scope := inside
    rw [List.filter_append, List.filter_cons, if_pos here]
    rfl
  unfold addState
  rw [given, known]
  split
  · rfl
  · split
    · simp only [Except.map, only, kept]
    · rfl

theorem only_withState_elsewhere (state : Catalog.State) (outside : test state.key.scope = false) :
    (store.withState state).only test = store.only test := by
  have dropped : (store.states ++ [StateRow.ofState state]).filter (fun row => test row.key.scope) =
      store.states.filter fun row => test row.key.scope := by
    have apart : ¬test (StateRow.ofState state).key.scope := Bool.eq_false_iff.mp outside
    rw [List.filter_append, List.filter_cons, if_neg apart]
    exact List.append_nil _
  unfold withState
  split
  · rfl
  · simp only [only, dropped]

theorem only_deactivate (ids : List String) (now : Time.Instant) (inside : test scope) :
    (store.only test).deactivate ids scope now =
      ((store.deactivate ids scope now).1, (store.deactivate ids scope now).2.only test) := by
  have among (row : SellerRow) :
      (isAmong scope ids row && test row.key.scope) = isAmong scope ids row := by
    by_cases within : row.key.scope = scope
    · rw [within, inside, Bool.and_true]
    · simp [isAmong, SellerRow.isActiveIn, within]
  have keeps (row : SellerRow) : (row.retiredAmong scope ids now).key = row.key :=
    key_retiredAmong scope ids now row
  simp only [deactivate_eq, only, List.countP_filter, among, List.filter_map, Function.comp_def,
    keeps]

theorem only_deactivate_elsewhere (ids : List String) (now : Time.Instant)
    (outside : test scope = false) :
    (store.deactivate ids scope now).2.only test = store.only test := by
  have keeps (row : SellerRow) : (row.retiredAmong scope ids now).key = row.key :=
    key_retiredAmong scope ids now row
  simp only [deactivate_eq, only, List.filter_map, Function.comp_def, keeps]
  congr 1
  refine (List.map_congr_left fun row member => ?_).trans (List.map_id _)
  have apart : row.key.scope ≠ scope := by
    rintro rfl
    rw [(List.mem_filter.mp member).2] at outside
    cases outside
  simp [SellerRow.retiredAmong, isAmong, SellerRow.isActiveIn, apart]

end Writes

def Call.Within (scope : Scope) : Call → Prop
  | .active other => other = scope
  | .insert sellers => ∀ seller ∈ sellers, seller.scope = scope
  | .update sellers => ∀ seller ∈ sellers, seller.scope = scope
  | .addState state => state.key.scope = scope
  | .deactivate _ other _ => other = scope

section Calls

variable {call : Call} (within : call.Within scope)

include within

theorem answer_only (inside : test scope) (store : Store) :
    (store.only test).answer call = ((store.answer call).1, (store.answer call).2.only test) := by
  cases call with
  | active other =>
    cases within
    have rows : (store.only test).sellers.filter (·.isActiveIn scope) =
        store.sellers.filter (·.isActiveIn scope) := by
      unfold only
      rw [List.filter_filter]
      refine List.filter_congr fun row _ => ?_
      by_cases here : row.key.scope = scope
      · rw [here, inside, Bool.and_true]
      · simp [SellerRow.isActiveIn, here]
    simp only [answer, activeSellers, rows]
  | insert sellers =>
    have all : sellers.filter (fun seller => test seller.scope) = sellers :=
      List.filter_eq_self.mpr fun seller member => (within seller member).symm ▸ inside
    simp only [answer, only_insert, all]
  | update sellers =>
    have all : ∀ seller ∈ sellers, test seller.scope :=
      fun seller member => (within seller member).symm ▸ inside
    have update := only_update store all
    cases ran : store.update sellers with
    | error failure =>
      rw [ran] at update
      simp only [answer, ran, update, Except.map]
    | ok updated =>
      rw [ran] at update
      simp only [answer, ran, update, Except.map]
  | addState state =>
    have here : test state.key.scope := within.symm ▸ inside
    have added := only_addState store state here
    cases ran : store.addState state with
    | error failure =>
      rw [ran] at added
      simp only [answer, ran, added, Except.map]
    | ok result =>
      rw [ran] at added
      simp only [answer, ran, added, Except.map]
  | deactivate ids other now =>
    cases within
    simp only [answer, only_deactivate ids now inside]

theorem answer_elsewhere (outside : test scope = false) (store : Store) :
    (store.answer call).2.only test = store.only test := by
  have insert_elsewhere {sellers : List Seller} (within : ∀ seller ∈ sellers, seller.scope = scope) :
      (store.insert sellers).only test = store.only test := by
    have nobody : sellers.filter (fun seller => test seller.scope) = [] :=
      List.filter_eq_nil_iff.mpr fun seller member => by simp [within seller member, outside]
    rw [only_insert, nobody]
    rfl
  cases call with
  | active other => rfl
  | insert sellers => exact insert_elsewhere within
  | update sellers =>
    cases ran : store.update sellers with
    | error failure => simp only [answer, ran]
    | ok updated =>
      simp only [answer, ran, insert_of_update ran]
      exact insert_elsewhere within
  | addState state =>
    cases ran : store.addState state with
    | error failure => simp only [answer, ran]
    | ok result =>
      simp only [answer, ran, withState_of_addState ran]
      exact only_withState_elsewhere state (within.symm ▸ outside)
  | deactivate ids other now =>
    cases within
    exact only_deactivate_elsewhere ids now outside

end Calls

section Run

variable {α : Type} {program : Program α} (within : program.Each (Call.Within scope))

include within

theorem run_only (inside : test scope) (store : Store) :
    program.run answer (store.only test) =
      ((program.run answer store).1, (program.run answer store).2.only test) := by
  induction program generalizing store with
  | done a => rfl
  | call c next ih =>
    have answered := answer_only within.1 inside store
    unfold Program.run
    rw [answered]
    exact ih _ (within.2 _) _

theorem run_elsewhere (outside : test scope = false) (store : Store) :
    (program.run answer store).2.only test = store.only test :=
  within.run_preserves (fun after => after.only test = store.only test)
    (fun after _ here kept => (answer_elsewhere here outside after).trans kept) rfl

theorem run_elsewhere_faulty (outside : test scope = false) (faults : Faults)
    (state : Nat × Store) :
    (program.run (answerWith answer faults) state).2.2.only test = state.2.only test :=
  within.run_preserves (fun after : Nat × Store => after.2.only test = state.2.only test)
    (fun after _ here kept => answerWith_keeps (fun store => store.only test = state.2.only test)
      faults kept ((answer_elsewhere here outside after.2).trans kept)) rfl

theorem run_apart {other : Scope} (apart : scope ≠ other) (store : Store) :
    (program.run answer store).2.part other = store.part other :=
  run_elsewhere within (decide_eq_false apart) store

theorem run_of_part {left right : Store} (same : left.part scope = right.part scope) :
    (program.run answer left).1 = (program.run answer right).1 ∧
      (program.run answer left).2.part scope = (program.run answer right).2.part scope := by
  have alone (store : Store) : program.run answer (store.part scope) =
      ((program.run answer store).1, (program.run answer store).2.part scope) :=
    run_only within (decide_eq_true rfl) store
  have sides := alone left
  rw [same, alone right] at sides
  exact Prod.mk.inj sides.symm

end Run

structure Same (store other : Store) : Prop where
  sellers : store.sellers.Perm other.sellers
  states : store.states.Perm other.states
  parts : ∀ scope, store.part scope = other.part scope

theorem same_of_parts {other : Store} (same : ∀ scope, store.part scope = other.part scope) :
    store.Same other := by
  refine ⟨List.perm_iff_count.mpr fun row => ?_, List.perm_iff_count.mpr fun row => ?_, same⟩
  · have rows := congrArg (fun part => part.sellers.count row) (same row.key.scope)
    simpa [part, only, List.count_filter] using rows
  · have rows := congrArg (fun part => part.states.count row) (same row.key.scope)
    simpa [part, only, List.count_filter] using rows

end SellerDirectory.Store
