import Mathlib.Data.List.Induction
import Mathlib.Data.List.Pairwise
import SellerDirectory.Proofs.Sync.History
import SellerDirectory.Proofs.Sync.Walk
import SellerDirectory.Proofs.Time.Order

-- The times in the rows of sellers, when runs are made at times that never go back. A row was first
-- stored before it was last seen, and last seen before it was last written; and the row of a seller
-- who is gone was last written when the seller went.

namespace SellerDirectory.Sync

open Registry Store

variable {faults : Faults} {turns : List Turn} {turn : Turn} {key : Key} {row : SellerRow}

def leftFrom (faults : Faults) (turns : List Turn) : Store :=
  (leftBy (answerWith Store.answer faults) turns (0, Store.empty)).2

theorem leftFrom_moves (faults : Faults) (turns : List Turn) (turn : Turn) :
    turn.Moves (leftFrom faults turns) (leftFrom faults (turns ++ [turn])) := by
  have fresh : ((0, Store.empty) : Nat × Store).2.Valid := empty_valid
  obtain ⟨_, valid⟩ := @walk_leftBy turns faults (0, Store.empty) fresh
  unfold leftFrom
  rw [leftBy_append]
  generalize leftBy (answerWith Store.answer faults) turns (0, Store.empty) = state at valid ⊢
  have ends : turn.program.Ends state.2 _ _ _ := ⟨faults, state.1, rfl, rfl, rfl⟩
  exact Turn.moves_of_ends valid ends

-- A turn at a time took the seller away, and none has brought the seller back since.
def GoneAt (faults : Faults) (turns : List Turn) (key : Key) (time : Time.Instant) : Prop :=
  ∃ earlier turn later, turns = earlier ++ turn :: later ∧ turn.now = time ∧
    (leftFrom faults earlier).hasActive key ∧
      ∀ more, more <+: later → (leftFrom faults (earlier ++ turn :: more)).hasActive key = false

theorem GoneAt.snoc {time : Time.Instant} (gone : GoneAt faults turns key time)
    (still : (leftFrom faults (turns ++ [turn])).hasActive key = false) :
    GoneAt faults (turns ++ [turn]) key time := by
  obtain ⟨earlier, first, later, rfl, same, before, after⟩ := gone
  rw [List.append_assoc, List.cons_append] at still ⊢
  refine ⟨earlier, first, later ++ [turn], rfl, same, before, fun more inside => ?_⟩
  rcases List.prefix_concat_iff.mp inside with rfl | shorter
  · exact still
  · exact after more shorter

structure Stamped (faults : Faults) (turns : List Turn) (key : Key) (row : SellerRow)
    (created seen updated : Time.Instant) : Prop where
  createdAt : row.createdAt = created.columnText
  lastSeen : row.lastSeen = seen.columnText
  updatedAt : row.updatedAt = updated.columnText
  created_of_turn : created ∈ turns.map Turn.now
  seen_of_turn : seen ∈ turns.map Turn.now
  updated_of_turn : updated ∈ turns.map Turn.now
  created_le_seen : created ≤ seen
  seen_le_updated : seen ≤ updated
  active : row.active = .whole 1 → seen = updated
  gone : row.active ≠ .whole 1 → GoneAt faults turns key updated

def StampedAt (faults : Faults) (turns : List Turn) (key : Key) : Prop :=
  ∀ row ∈ (leftFrom faults turns).sellerRow? key,
    ∃ created seen updated, Stamped faults turns key row created seen updated

section Step

variable {created seen updated : Time.Instant}

theorem mem_snoc (turn : Turn) {time : Time.Instant} (member : time ∈ turns.map Turn.now) :
    time ∈ (turns ++ [turn]).map Turn.now := by
  rw [List.map_append]
  exact List.mem_append_left _ member

theorem now_mem_snoc (turns : List Turn) (turn : Turn) :
    turn.now ∈ (turns ++ [turn]).map Turn.now := by
  rw [List.map_append]
  exact List.mem_append_right _ (List.mem_singleton.mpr rfl)

theorem Stamped.kept (stamped : Stamped faults turns key row created seen updated)
    (stored : (leftFrom faults (turns ++ [turn])).sellerRow? key = some row) :
    Stamped faults (turns ++ [turn]) key row created seen updated where
  createdAt := stamped.createdAt
  lastSeen := stamped.lastSeen
  updatedAt := stamped.updatedAt
  created_of_turn := mem_snoc turn stamped.created_of_turn
  seen_of_turn := mem_snoc turn stamped.seen_of_turn
  updated_of_turn := mem_snoc turn stamped.updated_of_turn
  created_le_seen := stamped.created_le_seen
  seen_le_updated := stamped.seen_le_updated
  active := stamped.active
  gone := by
    intro inactive
    refine (stamped.gone inactive).snoc ?_
    rw [hasActive_of_row stored]
    exact decide_eq_false inactive

theorem Stamped.retired (stamped : Stamped faults turns key row created seen updated)
    (ascending : ∀ time ∈ turns.map Turn.now, time ≤ turn.now)
    (before : (leftFrom faults turns).hasActive key)
    (after : (leftFrom faults (turns ++ [turn])).hasActive key = false) :
    Stamped faults (turns ++ [turn]) key (retire turn.now row) created seen turn.now where
  createdAt := stamped.createdAt
  lastSeen := stamped.lastSeen
  updatedAt := rfl
  created_of_turn := mem_snoc turn stamped.created_of_turn
  seen_of_turn := mem_snoc turn stamped.seen_of_turn
  updated_of_turn := now_mem_snoc turns turn
  created_le_seen := stamped.created_le_seen
  seen_le_updated := ascending seen stamped.seen_of_turn
  active := by
    intro marked
    cases marked
  gone := by
    intro _
    refine ⟨turns, turn, [], rfl, rfl, before, fun more inside => ?_⟩
    rw [List.prefix_nil.mp inside]
    exact after

theorem Stamped.missed (stamped : Stamped faults turns key row created seen updated)
    (ascending : ∀ time ∈ turns.map Turn.now, time ≤ turn.now)
    (found : (leftFrom faults turns).sellerRow? key = some row)
    (stored : (leftFrom faults (turns ++ [turn])).sellerRow? key =
      some (if row.active = .whole 1 then retire turn.now row else row)) :
    ∃ updated, Stamped faults (turns ++ [turn]) key
      (if row.active = .whole 1 then retire turn.now row else row) created seen updated := by
  by_cases marked : row.active = .whole 1
  · rw [if_pos marked] at stored ⊢
    refine ⟨turn.now, stamped.retired ascending ?_ ?_⟩
    · rw [hasActive_of_row found]
      exact decide_eq_true marked
    · rw [hasActive_of_row stored]
      rfl
  · rw [if_neg marked] at stored ⊢
    exact ⟨updated, stamped.kept stored⟩

theorem stamped_listed {entry : Subscriber} {stored? : Option SellerRow}
    (ascending : ∀ time ∈ turns.map Turn.now, time ≤ turn.now)
    (stamped : ∀ row ∈ stored?, ∃ created seen updated,
      Stamped faults turns key row created seen updated) :
    ∃ created, Stamped faults (turns ++ [turn]) key
      (.over stored? (entry.toSeller turn.scope turn.now)) created turn.now turn.now := by
  obtain ⟨created, createdAt, of_turn, before⟩ : ∃ created,
      (stored?.map SellerRow.createdAt).getD turn.now.columnText = created.columnText ∧
        created ∈ (turns ++ [turn]).map Turn.now ∧ created ≤ turn.now := by
    cases stored? with
    | none => exact ⟨turn.now, rfl, now_mem_snoc turns turn, le_refl _⟩
    | some row =>
      obtain ⟨created, seen, updated, stamped⟩ := stamped row rfl
      exact ⟨created, stamped.createdAt, mem_snoc turn stamped.created_of_turn,
        ascending created stamped.created_of_turn⟩
  exact ⟨created, {
    createdAt
    lastSeen := rfl
    updatedAt := rfl
    created_of_turn := of_turn
    seen_of_turn := now_mem_snoc turns turn
    updated_of_turn := now_mem_snoc turns turn
    created_le_seen := before
    seen_le_updated := le_refl _
    active := fun _ => rfl
    gone := fun inactive => absurd rfl inactive }⟩

theorem StampedAt.snoc (stamped : StampedAt faults turns key)
    (ascending : ∀ time ∈ turns.map Turn.now, time ≤ turn.now) :
    StampedAt faults (turns ++ [turn]) key := by
  intro row stored
  have stays (same : (leftFrom faults turns).sellerRow? key = some row) :
      ∃ created seen updated, Stamped faults (turns ++ [turn]) key row created seen updated := by
    obtain ⟨created, seen, updated, stamped⟩ := stamped row same
    exact ⟨created, seen, updated, stamped.kept stored⟩
  rcases leftFrom_moves faults turns turn key with same | made
  · exact stays (same.symm.trans stored)
  · have made := made.symm.trans stored
    unfold Turn.target at made
    cases fetched : turn.fetched.result with
    | error failure =>
      rw [fetched] at made
      exact stays made
    | ok snapshot =>
      rw [fetched] at made
      dsimp only at made
      by_cases inside : key.scope = turn.scope
      · cases listed : entryOf? snapshot key.sellerId with
        | some entry =>
          rw [syncedRow?_listed inside listed] at made
          cases made
          obtain ⟨created, stamped⟩ := stamped_listed ascending stamped
          exact ⟨created, turn.now, turn.now, stamped⟩
        | none =>
          rw [syncedRow?, if_pos inside, listed] at made
          obtain ⟨before, found, rfl⟩ := Option.map_eq_some_iff.mp made
          obtain ⟨created, seen, updated, stamped⟩ := stamped before found
          exact ⟨created, seen, stamped.missed ascending found stored⟩
      · rw [syncedRow?, if_neg inside] at made
        exact stays made

end Step

section Runs

theorem stampedAt_of_ascending (faults : Faults) {turns : List Turn}
    (ascending : (turns.map Turn.now).Pairwise (· ≤ ·)) (key : Key) :
    StampedAt faults turns key := by
  induction turns using List.reverseRecOn with
  | nil =>
    intro row stored
    cases stored
  | append_singleton turns turn ih =>
    rw [List.map_append, List.pairwise_append] at ascending
    obtain ⟨before, _, last⟩ := ascending
    exact (ih before).snoc fun time member => last time member turn.now (List.mem_singleton.mpr rfl)

variable {ω : Type} {registry : String → StateM ω Fetched} {rounds : List (Request × Time.Instant)}

theorem nows_ascending (world : ω) (ascending : (rounds.map Prod.snd).Pairwise (· ≤ ·)) :
    (((allTurns registry rounds).run world).1.map Turn.now).Pairwise (· ≤ ·) := by
  induction rounds generalizing world with
  | nil => exact .nil
  | cons round later ih =>
    obtain ⟨first, rest⟩ := List.pairwise_cons.mp ascending
    change ((((turnsOf registry round.1 round.2).run world).1
      ++ ((allTurns registry later).run _).1).map Turn.now).Pairwise (· ≤ ·)
    have same : ∀ time ∈ ((turnsOf registry round.1 round.2).run world).1.map Turn.now,
        time = round.2 := by
      intro time member
      obtain ⟨turn, there, rfl⟩ := List.mem_map.mp member
      exact now_of_turns there
    rw [List.map_append, List.pairwise_append]
    refine ⟨?_, ih _ rest, ?_⟩
    · apply List.pairwise_of_forall_mem_list
      intro time member other otherMember
      rw [same time member, same other otherMember]
    · intro time member other otherMember
      obtain ⟨turn, there, rfl⟩ := List.mem_map.mp otherMember
      obtain ⟨laterRound, inside, now⟩ := now_of_allTurns there
      rw [same time member, now]
      exact first _ (List.mem_map_of_mem inside)

end Runs

-- After any runs from the empty store, at times that do not go back, whatever the registry answers
-- and whichever calls fail: the times of a seller are in order; one who is active was last seen
-- when the row was last written; and the row of one who is not was last written when the seller
-- went.
theorem times_ordered {ω : Type} (registry : String → StateM ω Fetched) (world : ω)
    (faults : Faults) (rounds : List (Request × Time.Instant))
    (storable : ∀ round ∈ rounds, round.2.Storable)
    (ascending : (rounds.map Prod.snd).Pairwise (· ≤ ·)) :
    let turns := ((allTurns registry rounds).run world).1
    let final := ((history registry (answerWith Store.answer faults) rounds (0, Store.empty)).run
      world).1.2
    ∀ row ∈ final.sellers, ∃ created seen updated,
      Time.Strict.read row.createdAt.toList = .ok created ∧
        Time.Strict.read row.lastSeen.toList = .ok seen ∧
        Time.Strict.read row.updatedAt.toList = .ok updated ∧
        (created ≤ seen ∧ seen ≤ updated ∧
          ∃ latest ∈ (rounds.map Prod.snd).getLast?, updated ≤ latest) ∧
        (row.active = .whole 1 → seen = updated) ∧
        (row.active ≠ .whole 1 → GoneAt faults turns row.key updated) := by
  intro turns final row member
  have left : final = leftFrom faults turns := by
    unfold final
    rw [history_eq]
    rfl
  have times : ∀ time ∈ turns.map Turn.now, ∃ round ∈ rounds, time = round.2 := by
    intro time member
    obtain ⟨turn, there, rfl⟩ := List.mem_map.mp member
    exact now_of_allTurns there
  have reads : ∀ time ∈ turns.map Turn.now, Time.Strict.read time.columnText.toList = .ok time := by
    intro time member
    obtain ⟨round, inside, rfl⟩ := times time member
    exact Time.read_columnText (storable round inside)
  have fresh : ((0, Store.empty) : Nat × Store).2.Valid := empty_valid
  obtain ⟨_, valid⟩ := @walk_leftBy turns faults (0, Store.empty) fresh
  rw [left] at member
  have stored : (leftFrom faults turns).sellerRow? row.key = some row :=
    Table.find?_of_mem valid.distinct_sellers member
  obtain ⟨created, seen, updated, stamped⟩ :=
    stampedAt_of_ascending faults (nows_ascending world ascending) row.key row stored
  refine ⟨created, seen, updated, ?_, ?_, ?_,
    ⟨stamped.created_le_seen, stamped.seen_le_updated, ?_⟩, stamped.active, stamped.gone⟩
  · rw [stamped.createdAt]
    exact reads created stamped.created_of_turn
  · rw [stamped.lastSeen]
    exact reads seen stamped.seen_of_turn
  · rw [stamped.updatedAt]
    exact reads updated stamped.updated_of_turn
  · obtain ⟨round, inside, rfl⟩ := times updated stamped.updated_of_turn
    have among : round.2 ∈ rounds.map Prod.snd := List.mem_map_of_mem inside
    exact ⟨_, List.getLast?_eq_some_getLast (List.ne_nil_of_mem among), ascending.rel_getLast among⟩

def changingRegistry (_ : String) : StateM Bool Fetched := fun asked =>
  (⟨.ok [sampleEntry (if asked then "B" else "A") ""], []⟩, true)

def lastTime : Time.Instant :=
  ⟨⟨2025, 1, 3, rfl⟩, laterTime.clock⟩

def changingRounds : List (Request × Time.Instant) :=
  [sampleTime, laterTime, lastTime].map fun now => (⟨"prod", ["ONDC:RET10"]⟩, now)

-- The insertion of the second run.
def secondInsertFails : Faults := fun place _ => if place = 4 then some .lockPoisoned else none

-- The seller who went with the second run is still missing in the third one.
theorem changingRounds_ordered :
    (∀ round ∈ changingRounds, round.2.Storable) ∧
      (changingRounds.map Prod.snd).Pairwise (· ≤ ·) ∧
      let turns := ((allTurns changingRegistry changingRounds).run false).1
      let final := ((history changingRegistry (answerWith Store.answer secondInsertFails)
        changingRounds (0, Store.empty)).run false).1.2
      ∃ row ∈ final.sellers, row.active ≠ .whole 1 ∧ row.createdAt = "2025-01-01T06:00:00+00:00" ∧
        row.updatedAt = "2025-01-02T06:00:00+00:00" ∧
        ∃ updated, Time.Strict.read row.updatedAt.toList = .ok updated ∧
          GoneAt secondInsertFails turns row.key updated := by
  have storable : ∀ round ∈ changingRounds, round.2.Storable := by decide
  have ascending : (changingRounds.map Prod.snd).Pairwise (· ≤ ·) := by decide
  refine ⟨storable, ascending, ?_⟩
  intro turns final
  have ordered :=
    times_ordered changingRegistry false secondInsertFails changingRounds storable ascending
  obtain ⟨row, member, inactive, created, updated⟩ : ∃ row ∈ final.sellers,
      row.active ≠ .whole 1 ∧ row.createdAt = "2025-01-01T06:00:00+00:00" ∧
        row.updatedAt = "2025-01-02T06:00:00+00:00" := by
    unfold final
    decide +kernel
  obtain ⟨_, _, time, _, _, reads, _, _, gone⟩ := ordered row member
  exact ⟨row, member, inactive, created, updated, time, reads, gone inactive⟩

end SellerDirectory.Sync
