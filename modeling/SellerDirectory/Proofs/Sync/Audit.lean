import SellerDirectory.Proofs.Json.Messages
import SellerDirectory.Proofs.Sync.History
import SellerDirectory.Proofs.Sync.Walk

-- Every stored seller holds the entry of the registry that it was made of, and its columns are the
-- ones of that entry. A row is made of one entry as a whole, and only its marks change later: that it
-- is active, and its times.

namespace SellerDirectory.Sync

open Registry Store Text

structure Attests (row : SellerRow) (entry : Subscriber) : Prop where
  held : Subscriber.codec.decode (Utf8.bytes row.entry) = .ok entry
  named : Text.trim entry.subscriberId ≠ ""
  sellerId : row.key.sellerId = entry.subscriberId
  url : row.url = entry.subscriberId
  status : row.status = entry.status
  country : row.country = entry.country
  city : row.city = entry.city
  kind : row.kind = "BPP"
  validFrom : row.validFrom = (instant? entry.validFrom).map Time.Instant.columnText
  validUntil : row.validUntil = (instant? entry.validUntil).map Time.Instant.columnText

def Audited (store : Store) : Prop :=
  ∀ key, ∀ row ∈ store.sellerRow? key, ∃ entry, Attests row entry

variable {store before after : Store} {scope : Scope} {now : Time.Instant} {key : Key}
  {snapshot : List Subscriber} {entry : Subscriber} {turn : Turn} {turns : List Turn}

theorem empty_audited : Audited Store.empty := by
  intro key row stored
  cases stored

theorem Audited.all (audited : Audited store) (valid : store.Valid) :
    ∀ row ∈ store.sellers, ∃ entry, Attests row entry := by
  intro row member
  exact audited row.key row (Table.find?_of_mem valid.distinct_sellers member)

section Rows

theorem attests_over (stored? : Option SellerRow) (named : Text.trim entry.subscriberId ≠ "") :
    Attests (.over stored? (entry.toSeller scope now)) entry where
  held := by
    change Subscriber.codec.ReadsBack entry
    exact entry.restores.readsBack
  named := named
  sellerId := rfl
  url := rfl
  status := rfl
  country := rfl
  city := rfl
  kind := rfl
  validFrom := by simp only [SellerRow.over, SellerRow.ofSeller, Subscriber.toSeller]
  validUntil := by simp only [SellerRow.over, SellerRow.ofSeller, Subscriber.toSeller]

theorem Attests.retire {row : SellerRow} (attests : Attests row entry) (now : Time.Instant) :
    Attests (retire now row) entry :=
  { attests with }

theorem named_of_entryOf? {id : String} (found : entryOf? snapshot id = some entry) :
    Text.trim entry.subscriberId ≠ "" := by
  rw [id_of_entryOf? found]
  rintro blank
  rw [entryOf?, if_pos blank] at found
  cases found

theorem audited_synced {stored? : Option SellerRow}
    (audited : ∀ row ∈ stored?, ∃ entry, Attests row entry) :
    ∀ row ∈ syncedRow? scope now snapshot key stored?, ∃ entry, Attests row entry := by
  intro row made
  by_cases inside : key.scope = scope
  · cases listed : entryOf? snapshot key.sellerId with
    | some entry =>
      rw [syncedRow?_listed inside listed] at made
      cases made
      exact ⟨entry, attests_over stored? (named_of_entryOf? listed)⟩
    | none =>
      rw [syncedRow?, if_pos inside, listed] at made
      obtain ⟨stored, found, rfl⟩ := Option.map_eq_some_iff.mp made
      obtain ⟨entry, attests⟩ := audited stored found
      split
      · exact ⟨entry, attests.retire now⟩
      · exact ⟨entry, attests⟩
  · rw [syncedRow?, if_neg inside] at made
    exact audited row made

end Rows

section Turns

theorem Turn.Moves.audited (moves : turn.Moves before after) (audited : Audited before) :
    Audited after := by
  intro key row stored
  rcases moves key with same | made
  · rw [same] at stored
    exact audited key row stored
  · rw [made, Turn.target] at stored
    cases fetched : turn.fetched.result with
    | error failure =>
      rw [fetched] at stored
      exact audited key row stored
    | ok snapshot =>
      rw [fetched] at stored
      exact audited_synced (audited key) row stored

theorem Walk.audited (walk : Walk turns before after) (audited : Audited before) :
    Audited after := by
  induction walk with
  | done store => exact audited
  | step first later ih => exact ih (first.audited audited)

end Turns

-- Whatever the registry answers, after any runs from the empty store every seller, active or not,
-- has the columns of the entry that it holds; and so it is if any calls of the runs fail.
theorem history_audited {ω : Type} (registry : String → StateM ω Fetched) (world : ω)
    (rounds : List (Request × Time.Instant)) :
    (∀ row ∈ ((history registry Store.answer rounds Store.empty).run world).1.sellers,
      ∃ entry, Attests row entry) ∧
      ∀ faults : Faults,
        let final := ((history registry (answerWith Store.answer faults) rounds
          (0, Store.empty)).run world).1.2
        ∀ row ∈ final.sellers, ∃ entry, Attests row entry := by
  constructor
  · rw [history_eq]
    have walk : Walk ((allTurns registry rounds).run world).1 Store.empty _ :=
      walk_afterTurns empty_valid
    exact (walk.audited empty_audited).all (afterTurns_valid _ empty_valid)
  · intro faults final
    unfold final
    rw [history_eq]
    have fresh : ((0, Store.empty) : Nat × Store).2.Valid := empty_valid
    obtain ⟨walk, valid⟩ := walk_leftBy faults fresh
    exact (walk.audited empty_audited).all valid

end SellerDirectory.Sync
