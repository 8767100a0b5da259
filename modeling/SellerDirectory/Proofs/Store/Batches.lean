import Mathlib.Data.List.Induction
import SellerDirectory.Proofs.Store.Permanence

-- What a batch of sellers leaves in a store. Of several sellers with one key the last one counts,
-- but the time at which the key was first stored stays. An update that misses one of its sellers
-- writes none of them; one that misses none writes what an insertion would.

namespace SellerDirectory.Store

variable {store : Store} {sellers more : List Seller} {key : Key} {rows : List SellerRow}

def lastOf? (sellers : List Seller) (key : Key) : Option Seller :=
  sellers.reverse.find? (·.key = key)

-- A row after a batch: that of the last seller with its key, but stored first when it was.
def SellerRow.refreshedBy (sellers : List Seller) (row : SellerRow) : SellerRow :=
  match lastOf? sellers row.key with
  | some last => { SellerRow.ofSeller last with createdAt := row.createdAt }
  | none => row

theorem lastOf?_snoc (seller : Seller) :
    lastOf? (sellers ++ [seller]) key =
      if seller.key = key then some seller else lastOf? sellers key := by
  unfold lastOf?
  rw [List.reverse_append, List.reverse_singleton, List.singleton_append]
  by_cases same : seller.key = key <;> simp [same]

theorem lastOf?_eq_none : lastOf? sellers key = none ↔ key ∉ sellers.map Seller.key := by
  simp [lastOf?]

theorem key_of_lastOf? {last : Seller} (found : lastOf? sellers key = some last) :
    last.key = key := by
  simpa using List.find?_some found

section Insert

theorem insert_append (store : Store) (sellers more : List Seller) :
    store.insert (sellers ++ more) = (store.insert sellers).insert more := by
  unfold insert
  rw [List.foldl_append]

theorem sellerRow?_insert_snoc (seller : Seller) :
    (store.insert (sellers ++ [seller])).sellerRow? key =
      if seller.key = key then some (.over ((store.insert sellers).sellerRow? key) seller)
      else (store.insert sellers).sellerRow? key := by
  rw [insert_append]
  exact find?_putSeller

theorem other_rows_inserted (store : Store) (sellers : List Seller) :
    ((store.insert sellers).sellers.filter fun row => row.key ∉ sellers.map Seller.key) =
      store.sellers.filter fun row => row.key ∉ sellers.map Seller.key := by
  have untouched : ∀ batch ⊆ sellers, ∀ rows : List SellerRow,
      ((batch.foldl putSeller rows).filter fun row => row.key ∉ sellers.map Seller.key) =
        rows.filter fun row => row.key ∉ sellers.map Seller.key := by
    intro batch among
    induction batch with
    | nil => exact fun rows => rfl
    | cons seller rest ih =>
      intro rows
      obtain ⟨here, later⟩ := List.cons_subset.mp among
      have written : seller.key ∈ sellers.map Seller.key := List.mem_map_of_mem here
      have passed : ((putSeller rows seller).filter fun row => row.key ∉ sellers.map Seller.key) =
          rows.filter fun row => row.key ∉ sellers.map Seller.key :=
        (Table.filter_put (fun key => decide (key ∉ sellers.map Seller.key)) key_refreshed).trans
          (if_neg (by simpa using written))
      exact (ih later (putSeller rows seller)).trans passed
  exact untouched sellers (List.Subset.refl _) store.sellers

-- The row that a batch leaves under a key, told by the last seller of the key and by what was
-- stored first. The induction is on the end of the batch, where the last seller stands.
theorem sellerRow?_insert_last (store : Store) (sellers : List Seller) (key : Key) :
    (store.insert sellers).sellerRow? key =
      match lastOf? sellers key with
      | some last =>
        ((store.firstStored? key).or (firstOf? sellers key)).map fun created =>
          { SellerRow.ofSeller last with createdAt := created }
      | none => store.sellerRow? key := by
  induction sellers using List.reverseRecOn with
  | nil => rfl
  | append_singleton sellers seller ih =>
    rw [sellerRow?_insert_snoc, lastOf?_snoc, firstOf?_append]
    by_cases same : seller.key = key
    · have first : (store.insert sellers).firstStored? key = _ := firstStored?_insert sellers
      have own : firstOf? [seller] key = some seller.createdAt.columnText := by
        simp [firstOf?, same]
      rw [if_pos same, if_pos same, ← Option.or_assoc, ← first, own]
      unfold firstStored? SellerRow.over
      cases (store.insert sellers).sellerRow? key <;> rfl
    · have none_new : firstOf? [seller] key = none := by simp [firstOf?, same]
      rw [if_neg same, if_neg same, ih, none_new, Option.or_none]

end Insert

section Update

theorem keys_of_stored (stored : ∀ seller ∈ sellers, Table.contains seller.key rows) :
    (sellers.foldl putSeller rows).map Keyed.key = rows.map Keyed.key := by
  induction sellers generalizing rows with
  | nil => rfl
  | cons seller rest ih =>
    obtain ⟨here, later⟩ := List.forall_mem_cons.mp stored
    rw [List.foldl_cons, ih fun other member => contains_putSeller (later other member),
      keys_putSeller_of_stored here]

theorem key_refreshedBy (row : SellerRow) : (row.refreshedBy sellers).key = row.key := by
  unfold SellerRow.refreshedBy
  split
  · rename_i last found
    exact key_of_lastOf? found
  · rfl

theorem insert_of_stored (valid : store.Valid)
    (stored : ∀ seller ∈ sellers, Table.contains seller.key store.sellers) :
    store.insert sellers = { store with sellers := store.sellers.map (·.refreshedBy sellers) } := by
  have keys : (store.insert sellers).sellers.map Keyed.key = store.sellers.map Keyed.key :=
    keys_of_stored stored
  have same : (store.insert sellers).sellers = store.sellers.map (·.refreshedBy sellers) := by
    refine Table.eq_of_find? (insert_valid valid sellers).distinct_sellers ⟨[], ?_⟩ fun key => ?_
    · rw [List.append_nil, Table.keys_map key_refreshedBy, keys]
    · rw [Table.find?_map key_refreshedBy]
      refine (sellerRow?_insert_last store sellers key).trans ?_
      unfold firstStored? sellerRow?
      cases found : Table.find? key store.sellers with
      | none =>
        have absent : lastOf? sellers key = none := by
          rw [lastOf?_eq_none]
          intro member
          obtain ⟨seller, there, rfl⟩ := List.mem_map.mp member
          have present := stored seller there
          rw [Table.contains, found] at present
          cases present
        rw [absent]
        rfl
      | some row =>
        have here : row.key = key := Table.key_of_find? found
        rw [Option.map_some, Option.map_some, SellerRow.refreshedBy, here]
        cases lastOf? sellers key <;> rfl
  rw [← same]
  rfl

-- The first seller that is not stored makes the update fail; the writes before it store no key that
-- was not stored already.
theorem refresh_missing {missing : Seller}
    (first : sellers.find? (fun seller => !Table.contains seller.key rows) = some missing) :
    sellers.foldlM refreshSeller rows = .error (.noSuchRow missing.key) := by
  induction sellers generalizing rows with
  | nil => cases first
  | cons seller rest ih =>
    rw [List.foldlM_cons, refreshSeller_eq]
    by_cases here : Table.contains seller.key rows
    · have passed (key : Key) :
          Table.contains key (putSeller rows seller) = Table.contains key rows := by
        rw [Bool.eq_iff_iff, Table.contains_iff, Table.contains_iff, keys_putSeller_of_stored here]
      rw [List.find?_cons_of_neg (by simp [here])] at first
      rw [if_pos here]
      exact ih (by simpa only [passed] using first)
    · rw [List.find?_cons_of_pos (by simp [here])] at first
      cases first
      rw [if_neg here]
      rfl

theorem answer_update_missing {seller : Seller} (member : seller ∈ sellers)
    (absent : store.sellerRow? seller.key = none) :
    ∃ missing ∈ sellers, store.sellerRow? missing.key = none ∧
      store.answer (.update sellers) = (.error (.noSuchRow missing.key), store) := by
  have unknown : (sellers.find? fun seller => !Table.contains seller.key store.sellers).isSome := by
    rw [List.find?_isSome]
    refine ⟨seller, member, ?_⟩
    rw [Table.contains, show Table.find? seller.key store.sellers = none from absent]
    rfl
  obtain ⟨missing, first⟩ := Option.isSome_iff_exists.mp unknown
  have gone : store.sellerRow? missing.key = none := by
    simpa [Table.contains, sellerRow?] using List.find?_some first
  refine ⟨missing, List.mem_of_find?_eq_some first, gone, ?_⟩
  simp only [answer, update, refresh_missing first]
  rfl

end Update

-- A batch that is inserted is written seller after seller: the last one of a key counts, with the
-- time at which the key was first stored, be that before the batch or within it. All other rows stay
-- as they are, and two batches one after the other are one.
theorem insert_in_order {store : Store} (valid : store.Valid) (sellers more : List Seller) :
    let after := (store.answer (.insert sellers)).2
    (store.answer (.insert sellers)).1 = .ok sellers.length ∧
      (∀ key ∈ sellers.map Seller.key, ∃ first last,
        sellers.find? (·.key = key) = some first ∧ lastOf? sellers key = some last ∧
          after.sellerRow? key = some { SellerRow.ofSeller last with
            createdAt := ((store.sellerRow? key).map SellerRow.createdAt).getD
              first.createdAt.columnText }) ∧
      (after.sellers.filter fun row => row.key ∉ sellers.map Seller.key) =
        store.sellers.filter (fun row => row.key ∉ sellers.map Seller.key) ∧
      Table.Distinct after.sellers ∧ after.states = store.states ∧
      (after.answer (.insert more)).2 = (store.answer (.insert (sellers ++ more))).2 := by
  refine ⟨rfl, ?_, other_rows_inserted store sellers, (insert_valid valid sellers).distinct_sellers,
    rfl, (insert_append store sellers more).symm⟩
  intro key member
  obtain ⟨last, found⟩ := Option.ne_none_iff_exists'.mp (mt lastOf?_eq_none.mp (not_not.mpr member))
  have present : (sellers.find? (·.key = key)).isSome := by
    obtain ⟨seller, there, same⟩ := List.mem_map.mp member
    exact List.find?_isSome.mpr ⟨seller, there, decide_eq_true same⟩
  obtain ⟨first, began⟩ := Option.isSome_iff_exists.mp present
  refine ⟨first, last, began, found, (sellerRow?_insert_last store sellers key).trans ?_⟩
  rw [found]
  unfold firstStored? firstOf?
  rw [began]
  cases store.sellerRow? key <;> rfl

def namedSeller (id : String) (hour : Nat) : Seller :=
  { sampleSeller ⟨hour % 24, Nat.mod_lt hour (by decide)⟩ with sellerId := id }

def batchStore : Store where
  sellers := [.ofSeller (namedSeller "A" 1),
    { SellerRow.ofSeller (namedSeller "B" 2) with active := .whole 0 }]
  states := [.unpulled (namedSeller "A" 1).key (namedSeller "A" 1).updatedAt]

theorem batchStore_valid : batchStore.Valid :=
  ⟨by decide, by decide, by decide⟩

def newcomersBatch : List Seller :=
  [namedSeller "C" 3, namedSeller "B" 4, namedSeller "C" 5]

theorem batchStore_inserted :
    batchStore.Valid ∧
      let after := (batchStore.answer (.insert newcomersBatch)).2
      (batchStore.answer (.insert newcomersBatch)).1 = .ok 3 ∧
        after.sellerRow? (namedSeller "C" 3).key = some { SellerRow.ofSeller (namedSeller "C" 5) with
          createdAt := "2025-01-01T03:00:00+00:00" } ∧
        after.sellerRow? (namedSeller "B" 2).key = some { SellerRow.ofSeller (namedSeller "B" 4) with
          createdAt := "2025-01-01T02:00:00+00:00" } := by
  obtain ⟨count, rows, _⟩ := insert_in_order batchStore_valid newcomersBatch []
  refine ⟨batchStore_valid, count, ?_, ?_⟩
  · obtain ⟨first, last, began, found, row⟩ := rows (namedSeller "C" 3).key (by decide)
    cases began.symm.trans (show _ = some (namedSeller "C" 3) by decide)
    cases found.symm.trans (show _ = some (namedSeller "C" 5) by decide)
    rw [row]
    decide +kernel
  · obtain ⟨first, last, began, found, row⟩ := rows (namedSeller "B" 2).key (by decide)
    cases began.symm.trans (show _ = some (namedSeller "B" 4) by decide)
    cases found.symm.trans (show _ = some (namedSeller "B" 4) by decide)
    rw [row]
    decide +kernel

-- An update writes all of its sellers or none: it fails just when one of them is not stored, at
-- whichever place, and then leaves the store as it was.
theorem update_all_or_none {store : Store} (valid : store.Valid) (sellers : List Seller) :
    let (reply, after) := store.answer (.update sellers)
    ((∃ failure, reply = .error failure) ↔
        ∃ seller ∈ sellers, store.sellerRow? seller.key = none) ∧
      (∀ failure, reply = .error failure → after = store ∧
        ∃ missing ∈ sellers, store.sellerRow? missing.key = none ∧ failure = .noSuchRow missing.key) ∧
      ((¬ ∃ seller ∈ sellers, store.sellerRow? seller.key = none) →
        reply = .ok sellers.length ∧
          after = { store with sellers := store.sellers.map (·.refreshedBy sellers) }) := by
  by_cases missed : ∃ seller ∈ sellers, store.sellerRow? seller.key = none
  · obtain ⟨seller, member, absent⟩ := missed
    obtain ⟨missing, among, gone, answered⟩ := answer_update_missing member absent
    rw [answered]
    refine ⟨⟨fun _ => ⟨seller, member, absent⟩, fun _ => ⟨_, rfl⟩⟩, ?_, ?_⟩
    · intro failure failed
      cases failed
      exact ⟨rfl, missing, among, gone, rfl⟩
    · exact fun none_missed => absurd ⟨seller, member, absent⟩ none_missed
  · have stored : ∀ seller ∈ sellers, Table.contains seller.key store.sellers := by
      intro seller member
      rw [Table.contains, Option.isSome_iff_ne_none]
      exact fun absent => missed ⟨seller, member, absent⟩
    rw [answer_update stored]
    refine ⟨⟨?_, fun here => absurd here missed⟩, ?_, fun _ => ⟨rfl, insert_of_stored valid stored⟩⟩
    · rintro ⟨failure, failed⟩
      cases failed
    · intro failure failed
      cases failed

def knownBatch : List Seller :=
  [namedSeller "B" 4, namedSeller "A" 5, namedSeller "B" 6]

def gappedBatch : List Seller :=
  [namedSeller "B" 4, namedSeller "C" 5, namedSeller "A" 6]

theorem batchStore_updated :
    batchStore.Valid ∧ (¬ ∃ seller ∈ knownBatch, batchStore.sellerRow? seller.key = none) ∧
      batchStore.answer (.update knownBatch) =
        (.ok 3, { batchStore with sellers :=
          [{ SellerRow.ofSeller (namedSeller "A" 5) with createdAt := "2025-01-01T01:00:00+00:00" },
            { SellerRow.ofSeller (namedSeller "B" 6) with
              createdAt := "2025-01-01T02:00:00+00:00" }] }) ∧
      batchStore.answer (.update gappedBatch) =
        (.error (.noSuchRow (namedSeller "C" 5).key), batchStore) := by
  have known : ¬ ∃ seller ∈ knownBatch, batchStore.sellerRow? seller.key = none := by
    decide +kernel
  refine ⟨batchStore_valid, known, ?_, ?_⟩
  · obtain ⟨_, _, written⟩ := update_all_or_none batchStore_valid knownBatch
    obtain ⟨count, after⟩ := written known
    refine Prod.ext count (after.trans ?_)
    decide +kernel
  · obtain ⟨fails, refused, _⟩ := update_all_or_none batchStore_valid gappedBatch
    obtain ⟨failure, failed⟩ := fails.mpr (by decide +kernel)
    obtain ⟨unchanged, missing, among, gone, named⟩ := refused failure failed
    have same : missing.key = (namedSeller "C" 5).key := by
      simp only [gappedBatch, List.mem_cons, List.not_mem_nil, or_false] at among
      rcases among with rfl | rfl | rfl
      · cases gone
      · rfl
      · cases gone
    rw [named, same] at failed
    exact Prod.ext failed unchanged

-- Inserting a batch and updating it come to the same, in the reply and in every column of both tables,
-- just where each of its sellers is stored already, active or not.
theorem insert_eq_update_iff (store : Store) (sellers : List Seller) :
    store.answer (.insert sellers) = store.answer (.update sellers) ↔
      ∀ seller ∈ sellers, (store.sellerRow? seller.key).isSome := by
  constructor
  · intro same seller member
    rw [Option.isSome_iff_ne_none]
    intro absent
    obtain ⟨missing, _, _, refused⟩ := answer_update_missing member absent
    rw [refused] at same
    cases same
  · intro stored
    exact (answer_update stored).symm

end SellerDirectory.Store
