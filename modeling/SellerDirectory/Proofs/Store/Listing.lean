import Mathlib.Data.List.Sort
import Mathlib.Data.String.Basic
import SellerDirectory.Proofs.Store.Reading
import SellerDirectory.Store.Listing

-- The listing of waiting sellers as a whole. Every request for a part of it is answered with a
-- slice of one list, which is fixed by its order and by the sellers that belong to it.

namespace SellerDirectory.Store

variable {store : Store} {scope : Scope} {filter : List Catalog.Status}
  {listing other : List Catalog.Entry} {id : String}

-- What a column stands for does not depend on the place that a failure would name.
section Columns

variable {column : Nat} (place : Nat)

theorem readStatus_at {text : String} {status : Catalog.Status}
    (read : readStatus column text = .ok status) : readStatus place text = .ok status := by
  unfold readStatus at read ⊢
  cases named : Catalog.Status.ofText text with
  | error name => simp [named] at read
  | ok found => simpa [named] using read

theorem readTime_at {text : String} {instant : Time.Instant}
    (read : readTime column text = .ok instant) : readTime place text = .ok instant := by
  unfold readTime at read ⊢
  cases parsed : Time.Strict.read text.toList with
  | error fault => simp [parsed] at read
  | ok found => simpa [parsed] using read

theorem readTime?_at {text? : Option String} {instant? : Option Time.Instant}
    (read : readTime? column text? = .ok instant?) : readTime? place text? = .ok instant? := by
  cases text? with
  | none => exact read
  | some text =>
    obtain ⟨instant, found, rfl⟩ := map_ok.mp read
    exact map_ok.mpr ⟨instant, readTime_at place found, rfl⟩

end Columns

namespace StateRow

variable {row : StateRow} {state : Catalog.State}

def Reads (row : StateRow) : Prop :=
  ∃ state, row.toState = .ok state

theorem parts_of_toState (read : row.toState = .ok state) :
    row.key = state.key ∧ readStatus 3 row.status = .ok state.status ∧
      readTime? 4 row.lastPull = .ok state.lastPull ∧
      readTime? 5 row.lastSuccess = .ok state.lastSuccess ∧ row.lastError = state.lastError := by
  unfold toState at read
  simp only [bind_ok] at read
  obtain ⟨status, named, lastPull, pulled, lastSuccess, succeeded, _, _, _, _, done⟩ := read
  cases done
  exact ⟨rfl, named, pulled, succeeded, rfl⟩

theorem toEntry_of_toState (read : row.toState = .ok state) (id : String) :
    toEntry id (some row) =
      .ok ⟨id, state.status, state.lastPull, state.lastSuccess, state.lastError⟩ := by
  obtain ⟨_, named, pulled, succeeded, failed⟩ := parts_of_toState read
  rw [← failed]
  simp only [toEntry, bind_ok]
  exact ⟨_, readStatus_at 1 named, _, readTime?_at 2 pulled, _, readTime?_at 3 succeeded, rfl⟩

theorem id_of_toEntry {row? : Option StateRow} {entry : Catalog.Entry}
    (read : toEntry id row? = .ok entry) : entry.sellerId = id := by
  cases row? with
  | none =>
    cases read
    rfl
  | some row =>
    simp only [toEntry, bind_ok] at read
    obtain ⟨_, _, _, _, _, _, done⟩ := read
    cases done
    rfl

end StateRow

def StatesRead (store : Store) : Prop :=
  ∀ row ∈ store.states, row.Reads

theorem toEntry_isOk (reads : store.StatesRead) (key : Key) :
    ∃ entry, StateRow.toEntry key.sellerId (store.stateRow? key) = .ok entry := by
  cases stored : store.stateRow? key with
  | none => exact ⟨_, rfl⟩
  | some row =>
    obtain ⟨state, read⟩ := reads row (Table.mem_of_find? stored)
    exact ⟨_, StateRow.toEntry_of_toState read key.sellerId⟩

section Waiting

theorem mem_waiting (valid : store.Valid) {state : Option StateRow} :
    (id, state) ∈ store.waiting scope filter ↔
      store.hasActive ⟨id, scope⟩ ∧ store.stateRow? ⟨id, scope⟩ = state ∧
        isWanted filter state := by
  rw [← mem_activeRows valid]
  unfold waiting activeRows
  simp only [List.mem_filter, List.mem_map, List.mem_mergeSort, Prod.mk.injEq]
  constructor
  · rintro ⟨⟨_, active, rfl, rfl⟩, wanted⟩
    exact ⟨active, rfl, wanted⟩
  · rintro ⟨active, rfl, wanted⟩
    exact ⟨⟨id, active, rfl, rfl⟩, wanted⟩

theorem waiting_ascending (valid : store.Valid) :
    (store.waiting scope filter).Pairwise fun a b => a.1 < b.1 := by
  have distinct := activeRows_distinct valid scope
  unfold waiting activeRows at *
  generalize (store.sellers.filter (·.isActiveIn scope)).map (·.key.sellerId) = ids at distinct
  have once : (ids.mergeSort fun a b => decide (a ≤ b)).Nodup :=
    (List.mergeSort_perm ids _).nodup_iff.mpr distinct
  exact List.Pairwise.filter _
    (List.pairwise_map.mpr (List.sortedLE_mergeSort.sortedLT_of_nodup once).pairwise)

end Waiting

section Depth

-- A filter that is not too long to be asked for. A state that was never pulled has the deepest test,
-- which counts only where it is one of the two at the bottom of the chain.
def IsAnswerable (filter : List Catalog.Status) : Prop :=
  filter.length < 996 ∨ filter.length = 996 ∧ .notSynced ∉ filter.take 2

instance (filter : List Catalog.Status) : Decidable (IsAnswerable filter) :=
  inferInstanceAs (Decidable (_ ∨ _ ∧ _))

theorem testDepth_le (status : Catalog.Status) : testDepth status ≤ 4 := by
  cases status <;> decide

theorem foldl_testDepth {depth : Nat} (deep : 4 ≤ depth) :
    filter.foldl (fun depth status => max depth (testDepth status) + 1) depth =
      depth + filter.length := by
  induction filter generalizing depth with
  | nil => rfl
  | cons status rest ih =>
    have shallow : max depth (testDepth status) = depth :=
      Nat.max_eq_left ((testDepth_le status).trans deep)
    rw [List.foldl_cons, shallow, ih (Nat.le_succ_of_le deep), List.length_cons]
    omega

theorem chainDepth_cons_cons (first second : Catalog.Status) (rest : List Catalog.Status) :
    chainDepth (first :: second :: rest) =
      (if .notSynced ∈ [first, second] then 5 else 4) + rest.length := by
  rw [chainDepth, List.foldl_cons, foldl_testDepth]
  · cases first <;> cases second <;> rfl
  · cases first <;> cases second <;> decide

theorem questionDepth_le_iff (filter : List Catalog.Status) :
    questionDepth (effectiveFilter filter) ≤ maxDepth ↔ IsAnswerable filter := by
  match filter with
  | [] => decide
  | [status] => cases status <;> decide
  | first :: second :: rest =>
    unfold questionDepth IsAnswerable maxDepth
    change max (max 5 (chainDepth (first :: second :: rest)) + 1) 5 + 1 ≤ 1000 ↔
      _ ∨ _ ∧ .notSynced ∉ [first, second]
    rw [chainDepth_cons_cons, List.length_cons, List.length_cons]
    by_cases deepest : .notSynced ∈ [first, second]
    · rw [if_pos deepest, or_iff_left fun exact => exact.2 deepest]
      omega
    · rw [if_neg deepest, and_iff_left deepest]
      omega

theorem pendingEntries_answerable (answerable : IsAnswerable filter) (limit offset : Nat) :
    store.pendingEntries scope filter limit offset =
      (slice (signedSize limit + 1) (signedSize offset)
        (store.waiting scope (effectiveFilter filter))).mapM
          fun (id, state) => StateRow.toEntry id state :=
  if_neg (Nat.not_lt.mpr ((questionDepth_le_iff filter).mpr answerable))

theorem pendingEntries_unanswerable (long : ¬ IsAnswerable filter) (limit offset : Nat) :
    store.pendingEntries scope filter limit offset = .error (.tooDeep maxDepth) :=
  if_pos (Nat.not_le.mp (mt (questionDepth_le_iff filter).mp long))

end Depth

structure Lists (store : Store) (scope : Scope) (filter : List Catalog.Status)
    (listing : List Catalog.Entry) : Prop where
  ascending : listing.Pairwise fun a b => a.sellerId < b.sellerId
  complete : ∀ id, id ∈ listing.map Catalog.Entry.sellerId ↔
    store.hasActive ⟨id, scope⟩ ∧
      isWanted (effectiveFilter filter) (store.stateRow? ⟨id, scope⟩)
  told : ∀ entry ∈ listing,
    StateRow.toEntry entry.sellerId (store.stateRow? ⟨entry.sellerId, scope⟩) = .ok entry

def Serves (store : Store) (scope : Scope) (filter : List Catalog.Status)
    (listing : List Catalog.Entry) : Prop :=
  ∀ limit offset, store.pendingEntries scope filter limit offset =
    .ok (slice (signedSize limit + 1) (signedSize offset) listing)

theorem Lists.mem_iff (lists : store.Lists scope filter listing) {entry : Catalog.Entry} :
    entry ∈ listing ↔
      store.hasActive ⟨entry.sellerId, scope⟩ ∧
        isWanted (effectiveFilter filter) (store.stateRow? ⟨entry.sellerId, scope⟩) ∧
        StateRow.toEntry entry.sellerId (store.stateRow? ⟨entry.sellerId, scope⟩) = .ok entry := by
  constructor
  · intro member
    obtain ⟨active, wanted⟩ := (lists.complete _).mp (List.mem_map_of_mem member)
    exact ⟨active, wanted, lists.told entry member⟩
  · rintro ⟨active, wanted, told⟩
    obtain ⟨same, member, equal⟩ := List.mem_map.mp ((lists.complete _).mpr ⟨active, wanted⟩)
    have stated := lists.told same member
    rw [equal, told] at stated
    cases stated
    exact member

theorem isWanted_congr {same : List Catalog.Status}
    (statuses : ∀ status, status ∈ same ↔ status ∈ filter) (state : Option StateRow) :
    isWanted same state = isWanted filter state := by
  unfold isWanted
  rw [Bool.eq_iff_iff, List.any_eq_true, List.any_eq_true]
  simp only [statuses]

-- There is one listing, and neither the order of the statuses nor their number counts.
theorem Lists.unique {same : List Catalog.Status} (lists : store.Lists scope filter listing)
    (relisted : store.Lists scope same other)
    (statuses : ∀ status, status ∈ effectiveFilter same ↔ status ∈ effectiveFilter filter) :
    other = listing := by
  have irreflexive : Std.Irrefl fun a b : Catalog.Entry => a.sellerId < b.sellerId :=
    ⟨fun a => lt_irrefl a.sellerId⟩
  have antisymmetric : Std.Antisymm fun a b : Catalog.Entry => a.sellerId < b.sellerId :=
    ⟨fun a b before after => absurd (before.trans after) (lt_irrefl a.sellerId)⟩
  refine relisted.ascending.eq_of_mem_iff lists.ascending fun entry => ?_
  rw [relisted.mem_iff, lists.mem_iff, isWanted_congr statuses]

theorem forall₂_slice {α β : Type} {R : α → β → Prop} {rows : List α} {lines : List β}
    {limit offset : Int} (each : List.Forall₂ R rows lines) :
    List.Forall₂ R (slice limit offset rows) (slice limit offset lines) := by
  unfold slice
  split
  · exact List.forall₂_drop _ each
  · exact List.forall₂_take _ (List.forall₂_drop _ each)

theorem lines_served (valid : store.Valid) (scope : Scope) (filter : List Catalog.Status)
    (lines : ∀ id, ∃ entry, StateRow.toEntry id (store.stateRow? ⟨id, scope⟩) = .ok entry) :
    ∃ listing, store.Lists scope filter listing ∧
      (IsAnswerable filter → store.Serves scope filter listing) := by
  have read : ∀ line ∈ store.waiting scope (effectiveFilter filter),
      ∃ entry, StateRow.toEntry line.1 line.2 = .ok entry := by
    rintro ⟨id, state⟩ member
    obtain ⟨_, rfl, _⟩ := (mem_waiting valid).mp member
    exact lines id
  obtain ⟨listing, done⟩ := mapM_isOk.mpr read
  have ids : listing.map Catalog.Entry.sellerId =
      (store.waiting scope (effectiveFilter filter)).map Prod.fst :=
    map_of_mapM (fun _ _ => StateRow.id_of_toEntry) done
  refine ⟨listing, ⟨?_, ?_, ?_⟩, fun answerable limit offset => ?_⟩
  · rw [← List.pairwise_map (f := Catalog.Entry.sellerId) (R := (· < ·)), ids, List.pairwise_map]
    exact waiting_ascending valid
  · intro id
    rw [ids, List.mem_map]
    constructor
    · rintro ⟨⟨_, state⟩, member, rfl⟩
      obtain ⟨active, rfl, wanted⟩ := (mem_waiting valid).mp member
      exact ⟨active, wanted⟩
    · rintro ⟨active, wanted⟩
      exact ⟨(id, _), (mem_waiting valid).mpr ⟨active, rfl, wanted⟩, rfl⟩
  · intro entry member
    obtain ⟨⟨id, state⟩, line, told⟩ := mem_of_mapM done member
    obtain ⟨_, rfl, _⟩ := (mem_waiting valid).mp line
    rw [StateRow.id_of_toEntry told]
    exact told
  · rw [pendingEntries_answerable answerable]
    exact mapM_eq_ok.mpr (forall₂_slice (mapM_eq_ok.mp done))

theorem listing_served (valid : store.Valid) (reads : store.StatesRead) (scope : Scope)
    (filter : List Catalog.Status) :
    ∃ listing, store.Lists scope filter listing ∧
      (IsAnswerable filter → store.Serves scope filter listing) :=
  lines_served valid scope filter fun id => toEntry_isOk reads ⟨id, scope⟩

end SellerDirectory.Store
