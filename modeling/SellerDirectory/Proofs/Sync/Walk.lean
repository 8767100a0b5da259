import SellerDirectory.Proofs.Sync.Counts
import SellerDirectory.Proofs.Sync.Idempotence

-- Turns of which any calls may fail. Whatever fails, each row stays as it was or becomes what a turn
-- without failures makes of it; and what such a turn makes of either of the two is the same.

namespace SellerDirectory.Sync

open Registry Store

variable {store before middle after : Store} {scope : Scope} {now : Time.Instant}
  {snapshot : List Subscriber} {key : Key} {turn : Turn} {turns : List Turn}

section Rows

theorem syncedRow?_listed {entry : Subscriber} {stored? : Option SellerRow} (inside : key.scope = scope)
    (listed : entryOf? snapshot key.sellerId = some entry) :
    syncedRow? scope now snapshot key stored? =
      some (.over stored? (entry.toSeller scope now)) := by
  rw [syncedRow?, if_pos inside, listed]
  rfl

def Toward (scope : Scope) (now : Time.Instant) (snapshot : List Subscriber)
    (before after : Store) : Prop :=
  ∀ key, after.sellerRow? key = before.sellerRow? key ∨
    after.sellerRow? key = syncedRow? scope now snapshot key (before.sellerRow? key)

theorem Toward.refl (store : Store) : Toward scope now snapshot store store :=
  fun _ => .inl rfl

theorem Toward.trans (first : Toward scope now snapshot before middle)
    (rest : Toward scope now snapshot middle after) : Toward scope now snapshot before after := by
  intro key
  rcases rest key with same | made
  · rw [same]
    exact first key
  · right
    rcases first key with same | madeBefore
    · rw [made, same]
    · rw [made, madeBefore, syncedRow?_twice]

theorem toward_of_same (same : after.sellers = before.sellers) :
    Toward scope now snapshot before after := by
  intro key
  left
  unfold Store.sellerRow?
  rw [same]

theorem insert_toward {sellers : List Seller} (single : Single sellers)
    (within : ∀ seller ∈ sellers, seller.scope = scope)
    (listed : ∀ seller ∈ sellers, ∃ entry, entryOf? snapshot seller.sellerId = some entry ∧
      SellerRow.over (store.sellerRow? seller.key) seller =
        .over (store.sellerRow? seller.key) (entry.toSeller scope now)) :
    Toward scope now snapshot store (store.insert sellers) := by
  intro key
  rw [sellerRow?_insert (keys_distinct single)]
  cases found : sellers.find? (·.key = key) with
  | none => exact .inl rfl
  | some seller =>
    right
    have member := List.mem_of_find?_eq_some found
    have same : seller.key = key := by simpa using List.find?_some found
    subst same
    obtain ⟨entry, named, alike⟩ := listed seller member
    have inside : seller.key.scope = scope := within seller member
    rw [syncedRow?_listed inside named]
    exact congrArg some alike

theorem deactivate_toward {ids : List String} (unlisted : ∀ id ∈ ids, entryOf? snapshot id = none) :
    Toward scope now snapshot store (store.deactivate ids scope now).2 := by
  intro key
  rw [sellerRow?_deactivate]
  cases stored : store.sellerRow? key with
  | none => exact .inl rfl
  | some row =>
    have same : row.key = key := Table.key_of_find? stored
    by_cases among : isAmong scope ids row
    · right
      simp only [isAmong, SellerRow.isActiveIn, same, Bool.and_eq_true, decide_eq_true_eq,
        List.contains_iff_mem] at among
      obtain ⟨⟨inside, marked⟩, member⟩ := among
      simp [syncedRow?, SellerRow.retiredAmong, isAmong, SellerRow.isActiveIn, same, inside, marked,
        member, unlisted _ member, retire]
    · left
      rw [Option.map_some, SellerRow.retiredAmong, if_neg among]

variable {active : List Seller} {portion : Portion}

theorem listed_of_mem {seller : Seller} (member : seller ∈ listedSellers scope now snapshot) :
    ∃ entry, entryOf? snapshot seller.sellerId = some entry ∧ seller = entry.toSeller scope now := by
  have found : withId? seller.sellerId (listedSellers scope now snapshot) = some seller :=
    (find?_by_key (listedSellers_single scope now snapshot)).mpr ⟨member, rfl⟩
  rw [withId?_listedSellers] at found
  obtain ⟨entry, named, same⟩ := Option.map_eq_some_iff.mp found
  exact ⟨entry, named, same.symm⟩

theorem Portion.Of.toward (part : portion.Of (planOf scope now snapshot active))
    (valid : store.Valid) (read : store.activeSellers scope = .ok active) :
    Toward scope now snapshot store (portion.written scope now store) := by
  have inserts := (sublist_of_part part.toInsert).subset
  have updates := (sublist_of_part part.toUpdate).subset
  have inserted : Toward scope now snapshot store (store.insert portion.toInsert) := by
    refine insert_toward part.toInsert_single (fun _ member => within_toInsert _ (inserts member)) ?_
    intro seller member
    obtain ⟨entry, named, same⟩ := listed_of_mem (Plan.mem_toInsert (inserts member))
    exact ⟨entry, named, by rw [same]⟩
  have updated : Toward scope now snapshot (store.insert portion.toInsert)
      ((store.insert portion.toInsert).insert portion.toUpdate) := by
    have single : Single portion.toUpdate :=
      (Plan.toUpdate_single (listedSellers_single scope now snapshot)).sublist
        ((sublist_of_part part.toUpdate).map _)
    refine insert_toward single (fun _ member => within_toUpdate _ (updates member)) ?_
    intro seller member
    have stored := (insert_extends store portion.toInsert).contains_seller
      (updates_stored read (List.Subset.refl _) (updates member))
    obtain ⟨row, found⟩ := Option.isSome_iff_exists.mp stored
    have found : (store.insert portion.toInsert).sellerRow? seller.key = some row := found
    obtain ⟨origin, listed, _, _, rfl⟩ := Plan.mem_toUpdate (updates member)
    obtain ⟨entry, named, same⟩ := listed_of_mem listed
    refine ⟨entry, named, ?_⟩
    rw [found, over_stored, same]
  have stated : Toward scope now snapshot ((store.insert portion.toInsert).insert portion.toUpdate)
      (portion.arrived now store) := toward_of_same withStates_sellers
  refine inserted.trans (updated.trans (stated.trans (deactivate_toward fun id member => ?_)))
  exact ((mem_toDeactivate valid read).mp ((sublist_of_part part.toDeactivate).subset member)).2

end Rows

def Turn.target (turn : Turn) (key : Key) (stored? : Option SellerRow) : Option SellerRow :=
  match turn.fetched.result with
  | .ok snapshot => syncedRow? turn.scope turn.now snapshot key stored?
  | .error _ => stored?

theorem Turn.target_twice (stored? : Option SellerRow) :
    turn.target key (turn.target key stored?) = turn.target key stored? := by
  unfold Turn.target
  cases turn.fetched.result with
  | ok snapshot => exact syncedRow?_twice stored?
  | error failure => rfl

theorem Turn.target_elsewhere (outside : key.scope ≠ turn.scope) (stored? : Option SellerRow) :
    turn.target key stored? = stored? := by
  unfold Turn.target
  cases turn.fetched.result with
  | ok snapshot => exact if_neg outside
  | error failure => rfl

def Turn.Moves (turn : Turn) (before after : Store) : Prop :=
  ∀ key, after.sellerRow? key = before.sellerRow? key ∨
    after.sellerRow? key = turn.target key (before.sellerRow? key)

theorem Turn.Moves.elsewhere (moves : turn.Moves before after) (outside : key.scope ≠ turn.scope) :
    after.sellerRow? key = before.sellerRow? key := by
  have kept := moves key
  rwa [Turn.target_elsewhere outside, or_self] at kept

theorem Turn.moves_of_ends {calls : List (Call × Option Failure)} {outcome : Outcome}
    (valid : before.Valid) (ends : turn.program.Ends before calls outcome after) :
    turn.Moves before after := by
  have ending := syncDomain_ends valid ends
  generalize outcome.summary = summary at ending
  cases ending with
  | unfetched none_fetched => exact fun _ => .inl rfl
  | unread got quiet silent => exact fun _ => .inl rfl
  | written got read part chosen parts =>
    unfold Turn.Moves Turn.target
    rw [got]
    exact part.toward valid read

theorem Turn.moves_after (valid : store.Valid) : turn.Moves store (turn.after store) := by
  intro key
  unfold Turn.target
  cases turn.course valid with
  | unfetched failure fetched same => exact .inl (by rw [same])
  | unread snapshot failure fetched read same => exact .inl (by rw [same])
  | synced snapshot active fetched read synced =>
    right
    rw [fetched]
    exact synced.rows key

-- Turns one after the other, whichever calls of them fail.
inductive Walk : List Turn → Store → Store → Prop where
  | done (store : Store) : Walk [] store store
  | step {turn : Turn} {rest : List Turn} {before middle after : Store}
      (first : turn.Moves before middle) (later : Walk rest middle after) :
      Walk (turn :: rest) before after

section Walk

theorem walk_leftBy (faults : Faults) {state : Nat × Store} (valid : state.2.Valid) :
    Walk turns state.2 (leftBy (answerWith Store.answer faults) turns state).2 ∧
      (leftBy (answerWith Store.answer faults) turns state).2.Valid := by
  unfold leftBy
  induction turns generalizing state with
  | nil => exact ⟨.done _, valid⟩
  | cons turn rest ih =>
    have ends : turn.program.Ends state.2 _ _ _ := ⟨faults, state.1, rfl, rfl, rfl⟩
    obtain ⟨later, validAfter⟩ := ih (ends.valid valid)
    exact ⟨.step (Turn.moves_of_ends valid ends) later, validAfter⟩

theorem walk_afterTurns (valid : store.Valid) : Walk turns store (afterTurns turns store) := by
  induction turns generalizing store with
  | nil => exact .done _
  | cons turn rest ih => exact .step (Turn.moves_after valid) (ih (turn.after_valid valid))

theorem Walk.kept (walk : Walk turns before after)
    (settled : ∀ turn ∈ turns, turn.target key (before.sellerRow? key) = before.sellerRow? key) :
    after.sellerRow? key = before.sellerRow? key := by
  induction walk with
  | done store => rfl
  | step first later ih =>
    obtain ⟨here, there⟩ := List.forall_mem_cons.mp settled
    have same := first key
    rw [here, or_self] at same
    rw [ih (same.symm ▸ there), same]

-- What the turn of a scope makes of its rows in the end, it would have made of them at first.
theorem Walk.target (walk : Walk turns before after)
    (steady : ∀ other ∈ turns, other.scope = turn.scope → other = turn)
    (inside : key.scope = turn.scope) :
    turn.target key (after.sellerRow? key) = turn.target key (before.sellerRow? key) := by
  induction walk with
  | done store => rfl
  | @step other rest before middle after first later ih =>
    obtain ⟨here, there⟩ := List.forall_mem_cons.mp steady
    rw [ih there]
    by_cases same : other.scope = turn.scope
    · cases here same
      rcases first key with kept | made
      · rw [kept]
      · rw [made, Turn.target_twice]
    · rw [first.elsewhere fun equal => same (equal.symm.trans inside)]

end Walk

end SellerDirectory.Sync
