import SellerDirectory.Proofs.Store.Pages

-- How far the pulls of catalogs have come can be asked seller by seller, and as a listing of all
-- sellers with some statuses. Where the states were written by calls the two agree: a state stands
-- under the very name of its status, so that the statement that compares names finds what reading
-- the name would find.

namespace SellerDirectory

namespace Catalog

def Progress.line (progress : Progress) : Entry :=
  ⟨progress.sellerId, progress.status, progress.lastPull, progress.lastSuccess, progress.lastError⟩

theorem Status.name_inj {a b : Status} : a.name = b.name ↔ a = b := by
  cases a <;> cases b <;> decide

theorem Status.ofText_name (status : Status) : Status.ofText status.name = .ok status := by
  cases status <;> rfl

end Catalog

namespace Store

variable {store before after : Store} {scope : Scope} {filter : List Catalog.Status} {key : Key}

def Named (store : Store) : Prop :=
  ∀ row ∈ store.states, ∃ status : Catalog.Status, row.status = status.name

theorem change_named (named : before.Named) (change : Change before after) : after.Named := by
  cases change with
  | none => exact named
  | insert sellers => exact named
  | deactivate ids scope now => exact named
  | state state stored =>
    unfold withState
    split
    · exact named
    · intro row member
      rcases List.mem_append.mp member with old | new
      · exact named row old
      · rw [List.mem_singleton.mp new]
        exact ⟨state.status, rfl⟩

theorem afterCalls_named (faults : Faults) (calls : List Call) {place : Nat} (named : store.Named) :
    (afterCalls faults calls (place, store)).2.Named :=
  afterCalls_preserves Named
    (fun store call named => change_named named (change_of_answer store call)) named

namespace StateRow

variable {row : StateRow} {state : Catalog.State}

theorem status_of_toState {status : Catalog.Status} (named : row.status = status.name)
    (read : row.toState = .ok state) : state.status = status := by
  obtain ⟨_, found, _⟩ := parts_of_toState read
  rw [named, readStatus, Catalog.Status.ofText_name] at found
  cases found
  rfl

-- Names are compared, and statuses are meant.
theorem isWanted_iff {status : Catalog.Status} (named : row.status = status.name)
    (read : row.toState = .ok state) :
    isWanted filter (some row) ↔ state.status ∈ filter := by
  rw [status_of_toState named read]
  simp [isWanted, named, Catalog.Status.name_inj]

end StateRow

theorem isWanted_none : isWanted filter none ↔ .notSynced ∈ filter := by
  simp [isWanted]

section Asked

variable {row : SellerRow} {seller : Seller}

theorem progress?_unstarted (stored : store.sellerRow? key = some row)
    (read : row.toSeller = .ok seller) (unstated : store.stateRow? key = none) :
    store.progress? key = .ok (some (.unstarted seller)) := by
  unfold progress? seller? state?
  simp only [stored, read, unstated]
  rfl

theorem progress?_ofState {stateRow : StateRow} {state : Catalog.State}
    (stored : store.sellerRow? key = some row) (read : row.toSeller = .ok seller)
    (stated : store.stateRow? key = some stateRow) (read_state : stateRow.toState = .ok state) :
    store.progress? key = .ok (some (.ofState seller state)) := by
  unfold progress? seller? state?
  simp only [stored, read, stated, read_state]
  rfl

end Asked

theorem progress?_agrees (sellers : ∀ row ∈ store.sellers, row.Reads) (states : store.StatesRead)
    (named : store.Named) (active : store.hasActive key) :
    ∃ progress, store.progress? key = .ok (some progress) ∧
      StateRow.toEntry key.sellerId (store.stateRow? key) = .ok progress.line ∧
      ∀ filter, isWanted filter (store.stateRow? key) ↔ progress.status ∈ filter := by
  obtain ⟨row, stored, _⟩ := (Option.any_eq_true _ _).mp active
  obtain ⟨seller, read⟩ := sellers row (Table.mem_of_find? stored)
  cases found : store.stateRow? key with
  | none =>
    have own : seller.key = key :=
      (SellerRow.key_of_toSeller read).trans (Table.key_of_find? stored)
    refine ⟨.unstarted seller, progress?_unstarted stored read found, ?_,
      fun filter => isWanted_none⟩
    rw [← own]
    rfl
  | some stateRow =>
    have member := Table.mem_of_find? found
    obtain ⟨state, read_state⟩ := states stateRow member
    obtain ⟨status, name⟩ := named stateRow member
    have same : key = state.key :=
      (Table.key_of_find? found).symm.trans (StateRow.parts_of_toState read_state).1
    refine ⟨.ofState seller state, progress?_ofState stored read found read_state, ?_,
      fun filter => StateRow.isWanted_iff name read_state⟩
    rw [StateRow.toEntry_of_toState read_state, same]
    rfl

theorem slice_all {limit : Nat} {listing : List Catalog.Entry} (enough : listing.length ≤ limit)
    (low : IsLow limit) : slice (signedSize limit + 1) (signedSize 0) listing = listing := by
  have positive : ¬ (limit : Int) + 1 < 0 := by omega
  have counted : ((limit : Int) + 1).toNat = limit + 1 := by omega
  rw [slice, signedSize_low low, if_neg positive, counted]
  exact List.take_of_length_le (Nat.le_succ_of_le enough)

-- After any calls, of which any may fail: where the rows read back, the listing of a filter, asked
-- for in one piece, consists of the active sellers whose own progress has one of the statuses, by
-- ascending ids, and says of each what its own progress says. Filters with the same statuses have
-- the same listing.
theorem listing_agrees (faults : Faults) (calls : List Call) :
    let store := (afterCalls faults calls (0, empty)).2
    (∀ row ∈ store.sellers, row.Reads) → store.StatesRead → ∀ scope filter,
      ∃ active entries, store.activeSellers scope = .ok active ∧
        (∀ same limit,
          (∀ status, status ∈ effectiveFilter same ↔ status ∈ effectiveFilter filter) →
            IsAnswerable same → entries.length ≤ limit → limit < 2 ^ 63 - 1 →
              store.pendingEntries scope same limit 0 = .ok entries) ∧
        entries.length ≤ store.sellers.length ∧
        entries.Pairwise (fun a b => a.sellerId < b.sellerId) ∧
        (∀ id, id ∈ entries.map Catalog.Entry.sellerId ↔
          id ∈ active.map Seller.sellerId ∧
            ∃ progress, store.progress? ⟨id, scope⟩ = .ok (some progress) ∧
              progress.status ∈ effectiveFilter filter) ∧
        ∀ entry ∈ entries, ∃ progress,
          store.progress? ⟨entry.sellerId, scope⟩ = .ok (some progress) ∧
            entry = progress.line := by
  intro store sellers states scope filter
  have valid : store.Valid := afterCalls_valid empty_valid
  have named : store.Named :=
    afterCalls_named faults calls fun row member => absurd member List.not_mem_nil
  obtain ⟨active, read⟩ := activeSellers_isOk.mpr fun row member (_ : row.isActiveIn scope) =>
    sellers row member
  obtain ⟨entries, lists, -⟩ := listing_served valid states scope filter
  refine ⟨active, entries, read, ?_, lists.length_le valid, lists.ascending, ?_, ?_⟩
  · intro same limit statuses answerable enough below
    obtain ⟨served, alike, serves⟩ := listing_served valid states scope same
    have low : IsLow limit := Nat.lt_of_lt_of_le below (by decide)
    rw [serves answerable, lists.unique alike statuses, slice_all enough low]
  · intro id
    rw [lists.complete, mem_ids_of_active valid read]
    refine and_congr_right fun marked => ?_
    obtain ⟨progress, asked, _, wanted⟩ := progress?_agrees sellers states named marked
    rw [wanted, asked]
    constructor
    · exact fun member => ⟨progress, rfl, member⟩
    · rintro ⟨_, same, member⟩
      cases same
      exact member
  · intro entry member
    obtain ⟨marked, _, told⟩ := lists.mem_iff.mp member
    obtain ⟨progress, asked, line, _⟩ := progress?_agrees sellers states named marked
    refine ⟨progress, asked, ?_⟩
    rw [told] at line
    cases line
    rfl

def pulledCalls : List Call :=
  [.insert [waitingSeller, { waitingSeller with sellerId := "B" },
      { waitingSeller with sellerId := "C", active := false }],
    .addState { Catalog.State.initial waitingSeller waitingSeller.updatedAt with
      status := .failed
      lastPull := some waitingSeller.updatedAt
      lastError := some "timeout" }]

theorem pulledCalls_agree :
    let store := (afterCalls noFaults pulledCalls (0, empty)).2
    (∀ row ∈ store.sellers, row.Reads) ∧ store.StatesRead ∧
      ∃ entries, store.pendingEntries waitingScope [.synced, .failed, .failed] 3 0 = .ok entries ∧
        "A" ∈ entries.map Catalog.Entry.sellerId ∧ "B" ∉ entries.map Catalog.Entry.sellerId := by
  intro store
  have sellers : ∀ row ∈ store.sellers, row.Reads := mapM_isOk.mp ⟨_, by rfl⟩
  have states : store.StatesRead := mapM_isOk.mp ⟨_, by rfl⟩
  obtain ⟨active, entries, read, listed, few, _, ids, _⟩ :=
    listing_agrees noFaults pulledCalls sellers states waitingScope [.failed, .synced]
  have marked : store.hasActive ⟨"A", waitingScope⟩ := by decide +kernel
  refine ⟨sellers, states, entries, ?_, ?_, ?_⟩
  · have same : ∀ status, status ∈ effectiveFilter [.synced, .failed, .failed] ↔
        status ∈ effectiveFilter [.failed, .synced] := fun status => by cases status <;> decide
    exact listed _ 3 same (by decide) (few.trans (by decide)) (by decide)
  · refine (ids "A").mpr ⟨?_, _, rfl, by decide⟩
    exact (mem_ids_of_active (afterCalls_valid empty_valid) read).mpr marked
  · intro member
    obtain ⟨_, progress, asked, wanted⟩ := (ids "B").mp member
    cases asked
    revert wanted
    decide

end Store

end SellerDirectory
