import SellerDirectory.Proofs.Except
import SellerDirectory.Proofs.Store.Table
import SellerDirectory.Proofs.Time.ColumnText
import SellerDirectory.Store.Queries

-- When rows read back. A question to the store is answered exactly if every row that it reads
-- stands for a seller, and what it answers with has the keys of those rows.

namespace SellerDirectory.Store

def ReadsTime (text : String) : Prop :=
  ∃ instant, Time.Strict.read text.toList = .ok instant

theorem readTime_isOk (column : Nat) {text : String} :
    (∃ instant, readTime column text = .ok instant) ↔ ReadsTime text := by
  unfold readTime ReadsTime
  cases Time.Strict.read text.toList <;> simp

theorem readTime?_isOk (column : Nat) {text? : Option String} :
    (∃ instant?, readTime? column text? = .ok instant?) ↔ ∀ text ∈ text?, ReadsTime text := by
  cases text? with
  | none => simp [readTime?]
  | some text =>
    simp only [readTime?, Option.mem_some_iff, forall_eq', ← readTime_isOk column]
    cases readTime column text <;> simp [Except.map]

theorem readsTime_columnText (instant : Time.Instant) :
    ReadsTime instant.columnText ↔ instant.Storable :=
  Time.storable_iff_reads.symm

theorem readsTime?_columnText {instant? : Option Time.Instant} :
    (∀ text ∈ instant?.map Time.Instant.columnText, ReadsTime text) ↔
      ∀ instant ∈ instant?, instant.Storable := by
  cases instant? <;> simp [readsTime_columnText]

namespace SellerRow

variable {row : SellerRow} {seller : Seller}

def Reads (row : SellerRow) : Prop :=
  ∃ seller, row.toSeller = .ok seller

structure Readable (row : SellerRow) : Prop where
  validFrom : ∀ text ∈ row.validFrom, ReadsTime text
  validUntil : ∀ text ∈ row.validUntil, ReadsTime text
  active : ∃ n, row.active = .whole n
  lastSeen : ReadsTime row.lastSeen
  createdAt : ReadsTime row.createdAt
  updatedAt : ReadsTime row.updatedAt

theorem reads_iff : row.Reads ↔ row.Readable := by
  have mark : (∃ n, row.active.read 10 "active" = .ok n) ↔ ∃ n, row.active = .whole n := by
    cases row.active <;> simp [Quantity.read]
  unfold Reads toSeller
  simp only [bind_ok]
  constructor
  · rintro ⟨_, _, starts, _, ends, _, active, _, seen, _, created, _, updated, _⟩
    exact ⟨(readTime?_isOk 8).mp ⟨_, starts⟩, (readTime?_isOk 9).mp ⟨_, ends⟩,
      mark.mp ⟨_, active⟩, (readTime_isOk 12).mp ⟨_, seen⟩, (readTime_isOk 13).mp ⟨_, created⟩,
      (readTime_isOk 14).mp ⟨_, updated⟩⟩
  · intro readable
    obtain ⟨_, starts⟩ := (readTime?_isOk 8).mpr readable.validFrom
    obtain ⟨_, ends⟩ := (readTime?_isOk 9).mpr readable.validUntil
    obtain ⟨_, active⟩ := mark.mpr readable.active
    obtain ⟨_, seen⟩ := (readTime_isOk 12).mpr readable.lastSeen
    obtain ⟨_, created⟩ := (readTime_isOk 13).mpr readable.createdAt
    obtain ⟨_, updated⟩ := (readTime_isOk 14).mpr readable.updatedAt
    exact ⟨_, _, starts, _, ends, _, active, _, seen, _, created, _, updated, rfl⟩

-- The row of a seller, whenever it was first stored, reads back where each of its instants does.
theorem reads_refreshed {created : String} :
    Reads { ofSeller seller with createdAt := created } ↔
      (∀ instant ∈ seller.validFrom, instant.Storable)
        ∧ (∀ instant ∈ seller.validUntil, instant.Storable)
        ∧ seller.lastSeen.Storable ∧ ReadsTime created ∧ seller.updatedAt.Storable := by
  rw [reads_iff, ← readsTime?_columnText, ← readsTime?_columnText]
  simp only [← readsTime_columnText]
  constructor
  · exact fun readable => ⟨readable.validFrom, readable.validUntil, readable.lastSeen,
      readable.createdAt, readable.updatedAt⟩
  · exact fun ⟨validFrom, validUntil, lastSeen, createdAt, updatedAt⟩ =>
      ⟨validFrom, validUntil, ⟨_, rfl⟩, lastSeen, createdAt, updatedAt⟩

theorem reads_ofSeller :
    (ofSeller seller).Reads ↔
      (∀ instant ∈ seller.validFrom, instant.Storable)
        ∧ (∀ instant ∈ seller.validUntil, instant.Storable)
        ∧ seller.lastSeen.Storable ∧ seller.createdAt.Storable ∧ seller.updatedAt.Storable := by
  rw [← readsTime_columnText seller.createdAt]
  exact reads_refreshed

theorem Reads.retire {now : Time.Instant} (storable : now.Storable) (reads : row.Reads) :
    Reads { row with active := .whole 0, updatedAt := now.columnText } := by
  rw [reads_iff] at reads ⊢
  exact ⟨reads.validFrom, reads.validUntil, ⟨0, rfl⟩, reads.lastSeen, reads.createdAt,
    (readsTime_columnText _).mpr storable⟩

theorem key_of_toSeller (read : row.toSeller = .ok seller) : seller.key = row.key := by
  unfold toSeller at read
  simp only [bind_ok] at read
  obtain ⟨_, _, _, _, _, _, _, _, _, _, _, _, done⟩ := read
  cases done
  rfl

end SellerRow

variable {store : Store} {scope : Scope} {key : Key} {active : List Seller}

def hasActive (store : Store) (key : Key) : Bool :=
  (store.sellerRow? key).any fun row => row.active = .whole 1

theorem hasActive_of_row {row : SellerRow} (stored : store.sellerRow? key = some row) :
    store.hasActive key = decide (row.active = .whole 1) := by
  unfold hasActive
  rw [stored]
  rfl

theorem hasActive_iff (valid : store.Valid) :
    store.hasActive key ↔ ∃ row ∈ store.sellers, row.key = key ∧ row.isActiveIn key.scope := by
  unfold hasActive sellerRow?
  constructor
  · intro found
    obtain ⟨row, stored, marked⟩ := (Option.any_eq_true _ _).mp found
    have same : row.key = key := Table.key_of_find? stored
    exact ⟨row, Table.mem_of_find? stored, same, by simpa [SellerRow.isActiveIn, same] using marked⟩
  · rintro ⟨row, member, rfl, marked⟩
    have stored : Table.find? row.key store.sellers = some row :=
      Table.find?_of_mem valid.distinct_sellers member
    simpa [stored, SellerRow.isActiveIn] using marked

theorem activeSellers_isOk :
    (∃ active, store.activeSellers scope = .ok active) ↔
      ∀ row ∈ store.sellers, row.isActiveIn scope → row.Reads := by
  unfold activeSellers
  rw [mapM_isOk]
  simp only [List.mem_filter, and_imp]
  rfl

theorem activeSellers_isOk_by_key (valid : store.Valid) :
    (∃ active, store.activeSellers scope = .ok active) ↔
      ∀ key row, key.scope = scope → store.sellerRow? key = some row → row.active = .whole 1 →
        row.Reads := by
  rw [activeSellers_isOk]
  constructor
  · intro reads key row within stored marked
    have same : row.key = key := Table.key_of_find? stored
    exact reads row (Table.mem_of_find? stored) (by simp [SellerRow.isActiveIn, same, within, marked])
  · intro reads row member marked
    obtain ⟨within, marked⟩ : row.key.scope = scope ∧ row.active = .whole 1 := by
      simpa [SellerRow.isActiveIn] using marked
    exact reads row.key row within (Table.find?_of_mem valid.distinct_sellers member) marked

theorem activeSellers_isOk_congr {store' : Store} (valid : store.Valid) (valid' : store'.Valid)
    (same : ∀ key, key.scope = scope → store'.sellerRow? key = store.sellerRow? key) :
    (∃ active, store.activeSellers scope = .ok active) ↔
      ∃ active, store'.activeSellers scope = .ok active := by
  rw [activeSellers_isOk_by_key valid, activeSellers_isOk_by_key valid']
  constructor
  · exact fun reads key row inside stored => reads key row inside (same key inside ▸ stored)
  · exact fun reads key row inside stored => reads key row inside ((same key inside).trans stored)

def activeRows (store : Store) (scope : Scope) : List SellerRow :=
  store.sellers.filter (·.isActiveIn scope)

theorem scope_of_activeRow {row : SellerRow} (member : row ∈ store.activeRows scope) :
    row.key.scope = scope := by
  simpa [SellerRow.isActiveIn] using (Bool.and_eq_true_iff.mp (List.mem_filter.mp member).2).1

theorem mem_activeRows (valid : store.Valid) {id : String} :
    id ∈ (store.activeRows scope).map (·.key.sellerId) ↔ store.hasActive ⟨id, scope⟩ := by
  rw [hasActive_iff valid]
  constructor
  · intro member
    obtain ⟨row, found, rfl⟩ := List.mem_map.mp member
    obtain ⟨stored, marked⟩ := List.mem_filter.mp found
    exact ⟨row, stored, by rw [← scope_of_activeRow found], marked⟩
  · rintro ⟨row, stored, same, marked⟩
    exact List.mem_map.mpr ⟨row, List.mem_filter.mpr ⟨stored, marked⟩, by rw [same]⟩

-- Within a scope an id stands for a key.
theorem activeRows_distinct (valid : store.Valid) (scope : Scope) :
    ((store.activeRows scope).map (·.key.sellerId)).Nodup := by
  have keys : ((store.activeRows scope).map SellerRow.key).Nodup :=
    valid.distinct_sellers.sublist (List.filter_sublist.map _)
  have ids : (store.activeRows scope).map SellerRow.key =
      ((store.activeRows scope).map (·.key.sellerId)).map fun id => ⟨id, scope⟩ := by
    rw [List.map_map]
    refine List.map_congr_left fun row member => ?_
    rw [Function.comp_apply, ← scope_of_activeRow member]
  exact List.Nodup.of_map _ (ids ▸ keys)

theorem keys_of_active (read : store.activeSellers scope = .ok active) :
    active.map Seller.key = (store.activeRows scope).map SellerRow.key :=
  map_of_mapM (fun _ _ => SellerRow.key_of_toSeller) read

theorem stored_of_active (read : store.activeSellers scope = .ok active) {seller : Seller}
    (member : seller ∈ active) :
    seller.scope = scope ∧ Table.contains seller.key store.sellers := by
  have key : seller.key ∈ active.map Seller.key := List.mem_map_of_mem member
  rw [keys_of_active read] at key
  obtain ⟨row, found, same⟩ := List.mem_map.mp key
  constructor
  · have inside := scope_of_activeRow found
    rw [same] at inside
    exact inside
  · rw [Table.contains_iff, ← same]
    exact List.mem_map_of_mem (List.mem_filter.mp found).1

theorem ids_of_active (read : store.activeSellers scope = .ok active) :
    active.map Seller.sellerId = (store.activeRows scope).map (·.key.sellerId) := by
  have keys := congrArg (List.map Key.sellerId) (keys_of_active read)
  rw [List.map_map, List.map_map] at keys
  exact keys

theorem mem_ids_of_active (valid : store.Valid) (read : store.activeSellers scope = .ok active)
    {id : String} : id ∈ active.map Seller.sellerId ↔ store.hasActive ⟨id, scope⟩ := by
  rw [ids_of_active read, mem_activeRows valid]

theorem ids_of_active_distinct (valid : store.Valid)
    (read : store.activeSellers scope = .ok active) : (active.map Seller.sellerId).Nodup := by
  rw [ids_of_active read]
  exact activeRows_distinct valid scope

structure Readable (store : Store) : Prop where
  seller? : ∀ key, ∃ found, store.seller? key = .ok found
  active : ∀ scope, ∃ active, store.activeSellers scope = .ok active
  all : ∃ all, store.allSellers = .ok all

theorem allSellers_isOk :
    (∃ all, store.allSellers = .ok all) ↔ ∀ row ∈ store.sellers, row.Reads := by
  unfold allSellers Table.inKeyOrder
  rw [mapM_isOk]
  simp only [List.mem_mergeSort]
  rfl

theorem seller?_of_reads (reads : ∀ row ∈ store.sellers, row.Reads) (key : Key) :
    ∃ found, store.seller? key = .ok found := by
  unfold seller?
  cases stored : store.sellerRow? key with
  | none => exact ⟨none, rfl⟩
  | some row =>
    obtain ⟨seller, done⟩ := reads row (Table.mem_of_find? stored)
    simp only [done]
    exact ⟨some seller, rfl⟩

theorem readable_iff : Readable store ↔ ∀ row ∈ store.sellers, row.Reads := by
  constructor
  · exact fun readable => allSellers_isOk.mp readable.all
  · exact fun reads => ⟨seller?_of_reads reads,
      fun scope => activeSellers_isOk.mpr fun row member _ => reads row member,
      allSellers_isOk.mpr reads⟩

end SellerDirectory.Store
