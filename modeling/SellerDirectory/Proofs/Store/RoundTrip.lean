import SellerDirectory.Proofs.Store.Progress
import SellerDirectory.Proofs.Store.WriteOnce

-- What is stored comes back as it was. A row loses nothing of its seller or state: texts and numbers
-- stand in it as they are, and an instant is read back from its text unless its year needs a sign.

namespace SellerDirectory

structure Seller.Storable (seller : Seller) : Prop where
  validFrom : ∀ instant ∈ seller.validFrom, instant.Storable
  validUntil : ∀ instant ∈ seller.validUntil, instant.Storable
  lastSeen : seller.lastSeen.Storable
  createdAt : seller.createdAt.Storable
  updatedAt : seller.updatedAt.Storable

structure Catalog.State.Storable (state : Catalog.State) : Prop where
  lastPull : ∀ instant ∈ state.lastPull, instant.Storable
  lastSuccess : ∀ instant ∈ state.lastSuccess, instant.Storable
  updatedAt : state.updatedAt.Storable

namespace Store

variable {store : Store} {seller : Seller} {state : Catalog.State}

section Columns

variable {column : Nat} {instant : Time.Instant} {instant? : Option Time.Instant}

theorem readTime_columnText (storable : instant.Storable) :
    readTime column instant.columnText = .ok instant := by
  unfold readTime
  rw [Time.read_columnText storable]

theorem readTime?_columnText (storable : ∀ instant ∈ instant?, instant.Storable) :
    readTime? column (instant?.map Time.Instant.columnText) = .ok instant? := by
  cases instant? with
  | none => rfl
  | some instant =>
    rw [Option.map_some, readTime?, readTime_columnText (storable instant rfl)]
    rfl

theorem readStatus_name (status : Catalog.Status) : readStatus column status.name = .ok status := by
  unfold readStatus
  rw [Catalog.Status.ofText_name]

end Columns

theorem toSeller_ofSeller : (SellerRow.ofSeller seller).toSeller = .ok seller ↔ seller.Storable := by
  constructor
  · intro read
    obtain ⟨validFrom, validUntil, lastSeen, createdAt, updatedAt⟩ :=
      SellerRow.reads_ofSeller.mp ⟨seller, read⟩
    exact ⟨validFrom, validUntil, lastSeen, createdAt, updatedAt⟩
  · intro storable
    obtain ⟨validFrom, validUntil, lastSeen, createdAt, updatedAt⟩ := storable
    have mark : decide ((if seller.active then 1 else 0 : Int) ≠ 0) = seller.active := by
      cases seller.active <;> rfl
    simp only [SellerRow.toSeller, bind_ok]
    refine ⟨_, readTime?_columnText validFrom, _, readTime?_columnText validUntil, _, rfl, _,
      readTime_columnText lastSeen, _, readTime_columnText createdAt, _,
      readTime_columnText updatedAt, ?_⟩
    rw [mark]
    rfl

theorem toState_ofState : (StateRow.ofState state).toState = .ok state ↔ state.Storable := by
  constructor
  · intro read
    simp only [StateRow.toState, bind_ok] at read
    obtain ⟨_, _, _, pulled, _, succeeded, _, _, _, updated, _⟩ := read
    exact ⟨readsTime?_columnText.mp ((readTime?_isOk 4).mp ⟨_, pulled⟩),
      readsTime?_columnText.mp ((readTime?_isOk 5).mp ⟨_, succeeded⟩),
      (readsTime_columnText _).mp ((readTime_isOk 8).mp ⟨_, updated⟩)⟩
  · intro storable
    obtain ⟨lastPull, lastSuccess, updatedAt⟩ := storable
    simp only [StateRow.toState, bind_ok]
    exact ⟨_, readStatus_name state.status, _, readTime?_columnText lastPull, _,
      readTime?_columnText lastSuccess, _, rfl, _, readTime_columnText updatedAt, rfl⟩

theorem seller?_inserted (absent : store.sellerRow? seller.key = none) :
    (store.insert [seller]).seller? seller.key = .ok (some seller) ↔ seller.Storable := by
  have stored : (store.insert [seller]).sellerRow? seller.key = some (.ofSeller seller) := by
    refine find?_putSeller.trans ?_
    rw [if_pos rfl, show Table.find? seller.key store.sellers = none from absent]
    rfl
  rw [← toSeller_ofSeller, seller?, stored]
  simp [map_ok]

theorem state?_added (unstated : store.stateRow? state.key = none) :
    (store.withState state).state? state.key = .ok (some state) ↔ state.Storable := by
  have stored : (store.withState state).stateRow? state.key = some (.ofState state) := by
    rw [stateRow?_withState, unstated, if_pos rfl, Option.none_or]
  rw [← toState_ofState, state?, stored]
  simp [map_ok]

-- A seller that is new to a store, and the first state of a stored seller, are read back as they were
-- given, whatever their texts, numbers and missing values are, just where all of their times have a
-- year of four digits.
theorem rows_read_back (store : Store) :
    (∀ seller : Seller, store.sellerRow? seller.key = none →
      let (reply, after) := store.answer (.insert [seller])
      reply = .ok 1 ∧ (after.seller? seller.key = .ok (some seller) ↔ seller.Storable)) ∧
    ∀ state : Catalog.State, (store.sellerRow? state.key).isSome →
      store.stateRow? state.key = none →
      let (reply, after) := store.answer (.addState state)
      reply = .ok true ∧ (after.state? state.key = .ok (some state) ↔ state.Storable) := by
  refine ⟨fun seller absent => ⟨rfl, seller?_inserted absent⟩, fun state known unstated => ?_⟩
  have stateless : Table.contains state.key store.states = false := by
    rw [Table.contains, show Table.find? state.key store.states = none from unstated]
    rfl
  have added : store.answer (.addState state) = (.ok true, store.withState state) := by
    rw [answer_first known stateless, withState, if_neg (Bool.eq_false_iff.mp stateless)]
  rw [added]
  exact ⟨rfl, state?_added unstated⟩

-- Leap seconds in the first minute and in the last one that reads back, one of them with a fraction.
def firstLeap : Time.Instant :=
  ⟨⟨0, 1, 1, by decide⟩, ⟨0, 0, 60, 1, by decide⟩⟩

def lastLeap : Time.Instant :=
  ⟨⟨9999, 12, 31, by decide⟩, ⟨23, 59, 60, 0, by decide⟩⟩

-- No id, a null character, quotes and breaks in the texts, and times in no order.
def oddSeller (validUntil : Option Time.Instant) : Seller :=
  ⟨"", "\x00", "\"|", "", "\n", "\u20ac😀", "", " ", some firstLeap, validUntil, false, "\x7b",
    lastLeap, lastLeap, firstLeap⟩

def oddState : Catalog.State :=
  ⟨"", "\x00", "\"|", .failed, some lastLeap, none, some "", -9223372036854775808, firstLeap⟩

def lateTime : Time.Instant :=
  ⟨⟨10000, 1, 1, by decide⟩, ⟨0, 0, 0, 0, by decide⟩⟩

theorem oddRows_read_back :
    (empty.sellerRow? (oddSeller none).key = none ∧
      (empty.answer (.insert [oddSeller none])).2.seller? (oddSeller none).key =
        .ok (some (oddSeller none))) ∧
    (empty.sellerRow? (oddSeller (some lateTime)).key = none ∧
      (empty.answer (.insert [oddSeller (some lateTime)])).2.seller? (oddSeller (some lateTime)).key ≠
        .ok (some (oddSeller (some lateTime)))) ∧
      let store := empty.insert [oddSeller none]
      (store.sellerRow? oddState.key).isSome ∧ store.stateRow? oddState.key = none ∧
        (store.answer (.addState oddState)).2.state? oddState.key = .ok (some oddState) := by
  obtain ⟨sellers, _⟩ := rows_read_back empty
  obtain ⟨_, states⟩ := rows_read_back (empty.insert [oddSeller none])
  have storable : (oddSeller none).Storable := by
    constructor <;> decide
  have late : ¬ (oddSeller (some lateTime)).Storable := fun storable =>
    absurd (storable.validUntil lateTime rfl) (by decide)
  have pulled : oddState.Storable := by
    constructor <;> decide
  obtain ⟨_, read⟩ := sellers (oddSeller none) rfl
  obtain ⟨_, unread⟩ := sellers (oddSeller (some lateTime)) rfl
  obtain ⟨_, stated⟩ := states oddState rfl rfl
  exact ⟨⟨rfl, read.mpr storable⟩, ⟨rfl, mt unread.mp late⟩, rfl, rfl, stated.mpr pulled⟩

end Store

end SellerDirectory
