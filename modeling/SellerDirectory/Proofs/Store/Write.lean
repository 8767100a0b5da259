import SellerDirectory.Proofs.Except
import SellerDirectory.Proofs.Store.Program
import SellerDirectory.Proofs.Store.Table

-- What each call leaves in the two tables. Every row after a call depends on the row of its key
-- before it and on nothing else in the table; no call removes a row, moves it or breaks the keys.

namespace SellerDirectory.Store

variable {store : Store} {key : Key}

-- The row of a seller that is stored where another row may stand.
def SellerRow.over (stored? : Option SellerRow) (seller : Seller) : SellerRow :=
  { SellerRow.ofSeller seller with
    createdAt := (stored?.map SellerRow.createdAt).getD seller.createdAt.columnText }

theorem over_stored (row : SellerRow) (seller : Seller) (time : Time.Instant) :
    SellerRow.over (some row) { seller with createdAt := time } = .over (some row) seller := rfl

def SellerRow.retiredAmong (scope : Scope) (ids : List String) (now : Time.Instant)
    (row : SellerRow) : SellerRow :=
  if isAmong scope ids row then retire now row else row

-- The store with a state, where its seller has none yet.
def withState (store : Store) (state : Catalog.State) : Store :=
  if Table.contains state.key store.states then store
  else { store with states := store.states ++ [.ofState state] }

def StateRow.unpulled (key : Key) (now : Time.Instant) : StateRow where
  key
  status := Catalog.Status.notSynced.name
  lastPull := none
  lastSuccess := none
  lastError := none
  version := .whole 0
  updatedAt := now.columnText

def withStates (store : Store) (now : Time.Instant) (sellers : List Seller) : Store :=
  sellers.foldl (fun store seller => store.withState (.initial seller now)) store

@[simp] theorem key_refreshed (stored row : SellerRow) :
    Keyed.key (SellerRow.refreshed stored row) = Keyed.key row := rfl

@[simp] theorem key_ofSeller (seller : Seller) : Keyed.key (SellerRow.ofSeller seller) = seller.key :=
  rfl

@[simp] theorem key_ofState (state : Catalog.State) : Keyed.key (StateRow.ofState state) = state.key :=
  rfl

@[simp] theorem key_retiredAmong (scope : Scope) (ids : List String) (now : Time.Instant)
    (row : SellerRow) : Keyed.key (row.retiredAmong scope ids now) = Keyed.key row := by
  unfold SellerRow.retiredAmong
  split <;> rfl

section Insert

variable {rows : List SellerRow} {seller : Seller} {sellers : List Seller}

theorem find?_putSeller :
    Table.find? key (putSeller rows seller) =
      if seller.key = key then some (.over (Table.find? key rows) seller)
      else Table.find? key rows := by
  unfold putSeller
  rw [Table.find?_put key_refreshed, key_ofSeller]
  cases Table.find? key rows <;> rfl

theorem keys_putSeller : rows.map Keyed.key <+: (putSeller rows seller).map Keyed.key :=
  Table.put_keys key_refreshed

theorem keys_putSeller_of_stored (stored : Table.contains seller.key rows) :
    (putSeller rows seller).map Keyed.key = rows.map Keyed.key := by
  unfold putSeller
  rw [Table.keys_put key_refreshed, key_ofSeller, if_pos stored]

theorem contains_putSeller (stored : Table.contains key rows) :
    Table.contains key (putSeller rows seller) := by
  rw [Table.contains_iff] at stored ⊢
  exact keys_putSeller.subset stored

-- Every seller of the key in its turn, each over the row that the one before left.
theorem sellerRow?_insert_all :
    (store.insert sellers).sellerRow? key =
      (sellers.filter (·.key = key)).foldl (fun stored? seller => some (.over stored? seller))
        (store.sellerRow? key) := by
  unfold sellerRow? insert
  generalize store.sellers = rows
  induction sellers generalizing rows with
  | nil => rfl
  | cons seller rest ih =>
    simp only [List.foldl_cons, ih, find?_putSeller]
    by_cases same : seller.key = key <;> simp [same]

theorem sellerRow?_insert (distinct : (sellers.map Seller.key).Nodup) :
    (store.insert sellers).sellerRow? key =
      match sellers.find? (·.key = key) with
      | some seller => some (.over (store.sellerRow? key) seller)
      | none => store.sellerRow? key := by
  rw [sellerRow?_insert_all, filter_by_key distinct]
  cases sellers.find? (·.key = key) <;> rfl

-- Over the row of its own key, an update of a seller writes what a further insertion does.
theorem rewritten_eq {stored : SellerRow} (same : Keyed.key stored = seller.key) :
    stored.rewritten seller = .refreshed stored (.ofSeller seller) := by
  obtain ⟨key⟩ := stored
  cases same
  rfl

-- Refreshing sellers is storing them, where all are stored; otherwise it fails.
theorem refreshSeller_eq :
    refreshSeller rows seller =
      if Table.contains seller.key rows then .ok (putSeller rows seller)
      else .error (.noSuchRow seller.key) := by
  have altered : Table.alter? seller.key (SellerRow.rewritten seller) rows =
      if Table.contains seller.key rows then some (putSeller rows seller) else none :=
    Table.alter?_eq fun _ same => rewritten_eq same
  unfold refreshSeller
  rw [altered]
  by_cases stored : Table.contains seller.key rows <;> simp [stored]

theorem refresh_all (stored : ∀ seller ∈ sellers, Table.contains seller.key rows) :
    sellers.foldlM refreshSeller rows = .ok (sellers.foldl putSeller rows) := by
  induction sellers generalizing rows with
  | nil => rfl
  | cons seller rest ih =>
    have here := stored seller List.mem_cons_self
    rw [List.foldlM_cons, List.foldl_cons, refreshSeller_eq, if_pos here]
    exact ih fun later member =>
      contains_putSeller (stored later (List.mem_cons_of_mem _ member))

theorem refreshed_all {after : List SellerRow}
    (done : sellers.foldlM refreshSeller rows = .ok after) :
    after = sellers.foldl putSeller rows := by
  induction sellers generalizing rows with
  | nil => cases done; rfl
  | cons seller rest ih =>
    rw [List.foldlM_cons, refreshSeller_eq] at done
    split at done
    · exact ih done
    · cases done

theorem stored_all {after : List SellerRow}
    (done : sellers.foldlM refreshSeller rows = .ok after) :
    ∀ seller ∈ sellers, Table.contains seller.key rows := by
  induction sellers generalizing rows with
  | nil => exact fun _ member => absurd member List.not_mem_nil
  | cons seller rest ih =>
    rw [List.foldlM_cons, refreshSeller_eq] at done
    split at done
    · rename_i here
      refine List.forall_mem_cons.mpr ⟨here, fun later member => ?_⟩
      have present := ih done later member
      rwa [Table.contains_iff, keys_putSeller_of_stored here, ← Table.contains_iff] at present
    · cases done

theorem update_of_stored (stored : ∀ seller ∈ sellers, Table.contains seller.key store.sellers) :
    store.update sellers = .ok (store.insert sellers) := by
  unfold update insert
  rw [refresh_all stored]
  rfl

theorem answer_update (stored : ∀ seller ∈ sellers, Table.contains seller.key store.sellers) :
    store.answer (.update sellers) = (.ok sellers.length, store.insert sellers) := by
  simp only [answer, update_of_stored stored]

theorem insert_of_update {after : Store} (done : store.update sellers = .ok after) :
    after = store.insert sellers := by
  unfold update at done
  cases ran : sellers.foldlM refreshSeller store.sellers with
  | error failure => rw [ran] at done; cases done
  | ok rows =>
    rw [ran, refreshed_all ran] at done
    cases done
    rfl

theorem stored_of_update {after : Store} (done : store.update sellers = .ok after) :
    ∀ seller ∈ sellers, Table.contains seller.key store.sellers := by
  unfold update at done
  obtain ⟨rows, ran, _⟩ := bind_ok.mp done
  exact stored_all ran

theorem answered_update {after : Store} {count : Nat}
    (answered : store.answer (.update sellers) = (.ok count, after)) :
    count = sellers.length ∧ after = store.insert sellers := by
  cases ran : store.update sellers with
  | error failure =>
    simp only [answer, ran] at answered
    cases answered
  | ok updated =>
    simp only [answer, ran] at answered
    cases answered
    exact ⟨rfl, insert_of_update ran⟩

end Insert

section Deactivate

variable {scope : Scope} {now : Time.Instant} {ids more : List String} {rows : List SellerRow}

theorem isAmong_append (row : SellerRow) :
    isAmong scope (ids ++ more) row = (isAmong scope ids row || isAmong scope more row) := by
  simp [isAmong, Bool.and_or_distrib_left]

theorem isAmong_nil : isAmong scope [] = fun _ => false := by
  funext row
  simp [isAmong]

theorem isAmong_retire (row : SellerRow) : isAmong scope ids (retire now row) = false := by
  simp [isAmong, retire, SellerRow.isActiveIn]

theorem isAmong_retiredAmong (row : SellerRow) :
    isAmong scope more (row.retiredAmong scope ids now) =
      (!isAmong scope ids row && isAmong scope more row) := by
  unfold SellerRow.retiredAmong
  split
  · rename_i among
    rw [isAmong_retire, among, Bool.not_true, Bool.false_and]
  · rename_i others
    rw [Bool.eq_false_iff.mpr others, Bool.not_false, Bool.true_and]

theorem retiredAmong_append (row : SellerRow) :
    (row.retiredAmong scope ids now).retiredAmong scope more now =
      row.retiredAmong scope (ids ++ more) now := by
  rw [SellerRow.retiredAmong, isAmong_retiredAmong, SellerRow.retiredAmong,
    SellerRow.retiredAmong, isAmong_append]
  cases isAmong scope ids row <;> simp

theorem countP_retiredAmong (rows : List SellerRow) (now : Time.Instant) :
    rows.countP (isAmong scope ids)
        + (rows.map (·.retiredAmong scope ids now)).countP (isAmong scope more) =
      rows.countP (isAmong scope (ids ++ more)) := by
  induction rows with
  | nil => rfl
  | cons row rest ih =>
    simp only [List.map_cons, List.countP_cons, isAmong_retiredAmong, isAmong_append]
    cases isAmong scope ids row <;> cases isAmong scope more row <;> simp at ih ⊢ <;> omega

theorem retireAmong_append (changed : Nat × List SellerRow) :
    retireAmong scope now (retireAmong scope now changed ids) more =
      retireAmong scope now changed (ids ++ more) := by
  refine Prod.ext ?_ ?_
  · simp only [retireAmong]
    rw [Nat.add_assoc]
    exact congrArg (changed.1 + ·) (countP_retiredAmong changed.2 now)
  · simp only [retireAmong, List.map_map]
    exact List.map_congr_left fun row _ => retiredAmong_append row

theorem chunks_flatten (ids : List String) : (chunks ids).flatten = ids := by
  fun_induction chunks ids with
  | case1 => rfl
  | case2 first rest ih => rw [List.flatten_cons, ih, List.take_append_drop]

theorem retire_chunks (parts : List (List String)) (changed : Nat × List SellerRow) :
    parts.foldl (retireAmong scope now) changed = retireAmong scope now changed parts.flatten := by
  induction parts generalizing changed with
  | nil =>
    rw [List.foldl_nil, List.flatten_nil, retireAmong, isAmong_nil]
    simp
  | cons part rest ih => rw [List.foldl_cons, ih, retireAmong_append, List.flatten_cons]

-- However many statements it takes, deactivation changes each row once.
theorem deactivate_eq (store : Store) (ids : List String) (scope : Scope) (now : Time.Instant) :
    store.deactivate ids scope now =
      (store.sellers.countP (isAmong scope ids),
        { store with sellers := store.sellers.map (·.retiredAmong scope ids now) }) := by
  unfold deactivate
  rw [retire_chunks, chunks_flatten]
  simp only [retireAmong, Nat.zero_add]
  rfl

theorem deactivate_nil (store : Store) : store.deactivate [] scope now = (0, store) := by
  rw [deactivate_eq]
  simp [SellerRow.retiredAmong, isAmong_nil]

theorem sellerRow?_deactivate :
    (store.deactivate ids scope now).2.sellerRow? key =
      (store.sellerRow? key).map (·.retiredAmong scope ids now) := by
  rw [deactivate_eq]
  exact Table.find?_map (key_retiredAmong scope ids now)

end Deactivate

section States

variable {state : Catalog.State} {after : Store} {added : Bool}

theorem stateRow?_withState :
    (store.withState state).stateRow? key =
      (store.stateRow? key).or (if state.key = key then some (.ofState state) else none) := by
  unfold withState stateRow?
  split
  · rename_i stored
    by_cases same : state.key = key
    · obtain ⟨row, found⟩ := Option.isSome_iff_exists.mp (same ▸ stored)
      rw [found, Option.some_or]
    · rw [if_neg same, Option.or_none]
  · rw [Table.find?_append, Table.find?_cons, Table.find?_nil, key_ofState]

theorem answer_addState (stored : Table.contains state.key store.sellers) :
    ∃ added, store.answer (.addState state) = (.ok added, store.withState state) := by
  unfold answer addState withState
  by_cases known : Table.contains state.key store.states
  · exact ⟨false, by simp [known]⟩
  · exact ⟨true, by simp [known, stored]⟩

theorem withState_of_addState (done : store.addState state = .ok (added, after)) :
    after = store.withState state := by
  unfold addState at done
  unfold withState
  split at done
  · rename_i known
    cases done
    rw [if_pos known]
  · rename_i unknown
    split at done
    · cases done
      rw [if_neg unknown]
    · cases done

theorem answered_addState (answered : store.answer (.addState state) = (.ok added, after)) :
    after = store.withState state := by
  cases ran : store.addState state with
  | error failure =>
    simp only [answer, ran] at answered
    cases answered
  | ok result =>
    simp only [answer, ran] at answered
    cases answered
    exact withState_of_addState ran

theorem withState_sellers : (store.withState state).sellers = store.sellers := by
  unfold withState
  split <;> rfl

theorem withStates_sellers {now : Time.Instant} {sellers : List Seller} :
    (store.withStates now sellers).sellers = store.sellers := by
  unfold withStates
  induction sellers generalizing store with
  | nil => rfl
  | cons seller rest ih => rw [List.foldl_cons, ih, withState_sellers]

theorem ofState_initial (seller : Seller) (now : Time.Instant) :
    StateRow.ofState (.initial seller now) = .unpulled seller.key now := rfl

theorem stateRow?_withStates {now : Time.Instant} {sellers : List Seller} :
    (store.withStates now sellers).stateRow? key =
      (store.stateRow? key).or
        (if key ∈ sellers.map Seller.key then some (.unpulled key now) else none) := by
  unfold withStates
  induction sellers generalizing store with
  | nil => simp
  | cons seller rest ih =>
    have first : (Catalog.State.initial seller now).key = seller.key := rfl
    rw [List.foldl_cons, ih, stateRow?_withState, Option.or_assoc, ofState_initial, first]
    congr 1
    by_cases same : seller.key = key
    · rw [if_pos same, Option.some_or, if_pos (by simp [same]), same]
    · simp [same, Ne.symm same]

end States

end SellerDirectory.Store
