import SellerDirectory.Proofs.Store.Write

-- What every call keeps, and so every run of calls: keys stay distinct, every state has its
-- seller, and no row is removed or moved.

namespace SellerDirectory.Store

variable {store before middle after : Store}

inductive Change (store : Store) : Store → Prop where
  | none : Change store store
  | insert (sellers : List Seller) : Change store (store.insert sellers)
  | deactivate (ids : List String) (scope : Scope) (now : Time.Instant) :
      Change store (store.deactivate ids scope now).2
  | state (state : Catalog.State) (stored : Table.contains state.key store.sellers) :
      Change store (store.withState state)

theorem change_of_answer (store : Store) (call : Call) : Change store (store.answer call).2 := by
  cases call with
  | active scope => exact .none
  | insert sellers => exact .insert sellers
  | update sellers =>
    cases ran : store.update sellers with
    | error failure => simp only [answer, ran]; exact .none
    | ok updated =>
      simp only [answer, ran, insert_of_update ran]
      exact .insert sellers
  | addState state =>
    cases ran : store.addState state with
    | error failure => simp only [answer, ran]; exact .none
    | ok added =>
      simp only [answer, ran]
      have result := withState_of_addState ran
      unfold addState at ran
      split at ran
      · cases ran
        exact .none
      · split at ran
        · rename_i stored
          rw [result]
          exact .state state stored
        · cases ran
  | deactivate ids scope now => exact .deactivate ids scope now

-- No row is removed, and those that are added come after the others.
structure Extends (before after : Store) : Prop where
  sellers : before.sellers.map Keyed.key <+: after.sellers.map Keyed.key
  states : before.states.map Keyed.key <+: after.states.map Keyed.key

theorem Extends.refl (store : Store) : Extends store store :=
  ⟨List.prefix_rfl, List.prefix_rfl⟩

theorem Extends.trans (left : Extends before middle) (right : Extends middle after) :
    Extends before after :=
  ⟨left.sellers.trans right.sellers, left.states.trans right.states⟩

theorem Extends.contains_seller {key : Key} (grown : Extends before after)
    (stored : Table.contains key before.sellers) : Table.contains key after.sellers := by
  rw [Table.contains_iff] at stored ⊢
  exact grown.sellers.subset stored

theorem insert_extends (store : Store) (sellers : List Seller) :
    Extends store (store.insert sellers) := by
  refine ⟨?_, List.prefix_rfl⟩
  unfold insert
  generalize store.sellers = rows
  induction sellers generalizing rows with
  | nil => exact List.prefix_rfl
  | cons seller rest ih => exact keys_putSeller.trans (ih (putSeller rows seller))

theorem contains_insert (store : Store) {sellers : List Seller} {seller : Seller}
    (member : seller ∈ sellers) : Table.contains seller.key (store.insert sellers).sellers := by
  induction sellers generalizing store with
  | nil => exact absurd member List.not_mem_nil
  | cons first rest ih =>
    rcases List.mem_cons.mp member with rfl | later
    · -- it is there once its turn came, and stays
      have here : Table.contains seller.key (putSeller store.sellers seller) := by
        rw [Table.contains, find?_putSeller, if_pos rfl]
        rfl
      exact (insert_extends { store with sellers := putSeller store.sellers seller } rest)
        |>.contains_seller here
    · exact ih { store with sellers := putSeller store.sellers first } later

theorem deactivate_keys (ids : List String) (scope : Scope) (now : Time.Instant) :
    (store.deactivate ids scope now).2.sellers.map Keyed.key = store.sellers.map Keyed.key := by
  rw [deactivate_eq]
  exact Table.keys_map (key_retiredAmong scope ids now)

theorem deactivate_extends (store : Store) (ids : List String) (scope : Scope)
    (now : Time.Instant) : Extends store (store.deactivate ids scope now).2 :=
  ⟨deactivate_keys ids scope now ▸ List.prefix_rfl, List.prefix_rfl⟩

theorem withState_extends (store : Store) (state : Catalog.State) :
    Extends store (store.withState state) := by
  unfold withState
  split
  · exact .refl store
  · exact ⟨List.prefix_rfl, by rw [List.map_append]; exact List.prefix_append _ _⟩

theorem change_extends (change : Change before after) : Extends before after := by
  cases change with
  | none => exact .refl before
  | insert sellers => exact insert_extends before sellers
  | deactivate ids scope now => exact deactivate_extends before ids scope now
  | state state stored => exact withState_extends before state

theorem empty_valid : empty.Valid :=
  ⟨List.nodup_nil, List.nodup_nil, by simp [empty]⟩

theorem insert_valid (valid : store.Valid) (sellers : List Seller) :
    (store.insert sellers).Valid := by
  refine ⟨?_, valid.distinct_states, fun row member =>
    (insert_extends store sellers).contains_seller (valid.seller_of_state row member)⟩
  have distinct := valid.distinct_sellers
  unfold insert
  generalize store.sellers = rows at distinct
  induction sellers generalizing rows with
  | nil => exact distinct
  | cons seller rest ih => exact ih (putSeller rows seller) (Table.put_distinct key_refreshed distinct)

theorem deactivate_valid (valid : store.Valid) (ids : List String) (scope : Scope)
    (now : Time.Instant) : (store.deactivate ids scope now).2.Valid := by
  refine ⟨?_, valid.distinct_states, fun row member =>
    (deactivate_extends store ids scope now).contains_seller (valid.seller_of_state row member)⟩
  unfold Table.Distinct
  rw [deactivate_keys]
  exact valid.distinct_sellers

theorem withState_valid (valid : store.Valid) (state : Catalog.State)
    (stored : Table.contains state.key store.sellers) : (store.withState state).Valid := by
  unfold withState
  split
  · exact valid
  · rename_i unknown
    refine ⟨valid.distinct_sellers, ?_, ?_⟩
    · unfold Table.Distinct
      rw [List.map_append, List.nodup_append]
      refine ⟨valid.distinct_states, List.nodup_singleton _, ?_⟩
      intro known here fresh there equal
      rw [List.map_singleton, List.mem_singleton, key_ofState] at there
      exact unknown (Table.contains_iff.mpr (there ▸ equal ▸ here))
    · intro row member
      rcases List.mem_append.mp member with old | new
      · exact valid.seller_of_state row old
      · rw [List.mem_singleton.mp new]
        exact stored

theorem change_valid (valid : before.Valid) (change : Change before after) : after.Valid := by
  cases change with
  | none => exact valid
  | insert sellers => exact insert_valid valid sellers
  | deactivate ids scope now => exact deactivate_valid valid ids scope now
  | state state stored => exact withState_valid valid state stored

section Run

variable {α : Type} (program : Program α)

theorem run_valid (valid : store.Valid) : (program.run answer store).2.Valid :=
  program.run_preserves Valid (fun state call valid => change_valid valid (change_of_answer state call)) valid

theorem run_extends (store : Store) : Extends store (program.run answer store).2 :=
  program.run_preserves (Extends store)
    (fun state call path => path.trans (change_extends (change_of_answer state call))) (.refl store)

end Run

end SellerDirectory.Store
