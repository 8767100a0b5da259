import SellerDirectory.Proofs.Store.Table
import SellerDirectory.Proofs.Text.Blank
import SellerDirectory.Sync.Domain

-- What a plan says of each id. The parts of a plan are told apart by whether the registry lists the
-- id and whether the store has it active.

namespace SellerDirectory.Sync

open Registry

variable {id : String} {sellers listed active : List Seller}

-- The last entry of a snapshot with an id. A blank id names nobody.
def entryOf? (snapshot : List Subscriber) (id : String) : Option Subscriber :=
  if Text.trim id = "" then none
  else snapshot.reverse.find? fun entry => entry.subscriberId = id

def Single (sellers : List Seller) : Prop :=
  (sellers.map Seller.sellerId).Nodup

theorem withId?_cons (seller : Seller) :
    withId? id (seller :: sellers) =
      if seller.sellerId = id then some seller else withId? id sellers := by
  unfold withId?
  by_cases same : seller.sellerId = id <;> simp [same]

theorem withId?_isSome : (withId? id sellers).isSome ↔ id ∈ sellers.map Seller.sellerId := by
  simp [withId?]

theorem withId?_reverse_isSome :
    (withId? id sellers.reverse).isSome = (withId? id sellers).isSome := by
  rw [Bool.eq_iff_iff, withId?_isSome, withId?_isSome, List.map_reverse, List.mem_reverse]

-- The last one of each id is the first one from behind.
theorem withId?_lastOfEachId : withId? id (lastOfEachId sellers) = withId? id sellers.reverse := by
  induction sellers with
  | nil => rfl
  | cons seller rest ih =>
    have behind : withId? id (seller :: rest).reverse =
        (withId? id rest.reverse).or (if seller.sellerId = id then some seller else none) := by
      rw [List.reverse_cons, withId?, List.find?_append]
      exact congrArg _ (withId?_cons seller)
    rw [behind]
    unfold lastOfEachId
    by_cases again : (withId? seller.sellerId rest).isSome
    · rw [if_pos again, ih]
      by_cases same : seller.sellerId = id
      · rw [← same, if_pos rfl]
        obtain ⟨later, found⟩ := Option.isSome_iff_exists.mp (withId?_reverse_isSome ▸ again)
        rw [found, Option.some_or]
      · rw [if_neg same, Option.or_none]
    · rw [if_neg again, withId?_cons, ih]
      by_cases same : seller.sellerId = id
      · rw [if_pos same, if_pos same]
        rw [← withId?_reverse_isSome, same, Option.not_isSome_iff_eq_none] at again
        rw [again, Option.none_or]
      · rw [if_neg same, if_neg same, Option.or_none]

theorem mem_of_mem_lastOfEachId {seller : Seller} (member : seller ∈ lastOfEachId sellers) :
    seller ∈ sellers := by
  induction sellers with
  | nil => exact member
  | cons first rest ih =>
    unfold lastOfEachId at member
    split at member
    · exact List.mem_cons_of_mem _ (ih member)
    · rcases List.mem_cons.mp member with rfl | later
      · exact List.mem_cons_self
      · exact List.mem_cons_of_mem _ (ih later)

theorem lastOfEachId_single (sellers : List Seller) : Single (lastOfEachId sellers) := by
  induction sellers with
  | nil => exact List.nodup_nil
  | cons first rest ih =>
    unfold lastOfEachId
    split
    · exact ih
    · rename_i fresh
      refine List.nodup_cons.mpr ⟨?_, ih⟩
      intro member
      obtain ⟨seller, later, same⟩ := List.mem_map.mp member
      exact fresh (withId?_isSome.mpr (List.mem_map.mpr ⟨seller, mem_of_mem_lastOfEachId later, same⟩))

theorem lastOfEachId_of_single (single : Single sellers) : lastOfEachId sellers = sellers := by
  induction sellers with
  | nil => rfl
  | cons first rest ih =>
    obtain ⟨fresh, single⟩ := List.nodup_cons.mp single
    unfold lastOfEachId
    rw [if_neg (fun again => fresh (withId?_isSome.mp again)), ih single]

section Listed

variable {scope : Scope} {now : Time.Instant} {snapshot : List Subscriber}

theorem withId?_listedSellers :
    withId? id (listedSellers scope now snapshot) =
      (entryOf? snapshot id).map (·.toSeller scope now) := by
  unfold listedSellers entryOf?
  rw [withId?_lastOfEachId, ← List.map_reverse, ← List.filter_reverse, withId?, List.find?_map,
    List.find?_filter]
  by_cases blank : Text.trim id = ""
  · rw [if_pos blank, Option.map_none, Option.map_eq_none_iff, List.find?_eq_none]
    intro entry _ named
    simp only [Function.comp_apply, decide_eq_true_eq] at named
    obtain ⟨named, same⟩ := named
    have nameless : isNameless entry := by
      unfold isNameless
      rw [← Text.trim_eq_empty, show entry.subscriberId = id from same, blank]
    simp [nameless] at named
  · rw [if_neg blank]
    congr 1
    congr 1
    funext entry
    by_cases same : entry.subscriberId = id
    · have named : isNameless entry = false := by
        unfold isNameless
        rw [same, ← Bool.not_eq_true, ← Text.trim_eq_empty]
        exact blank
      simp [named, same, Subscriber.toSeller]
    · simp [same, Subscriber.toSeller]

theorem id_of_entryOf? {entry : Subscriber} (found : entryOf? snapshot id = some entry) :
    entry.subscriberId = id := by
  unfold entryOf? at found
  split at found
  · cases found
  · simpa using List.find?_some found

theorem mem_of_entryOf? {entry : Subscriber} (found : entryOf? snapshot id = some entry) :
    entry ∈ snapshot := by
  unfold entryOf? at found
  split at found
  · cases found
  · exact List.mem_reverse.mp (List.mem_of_find?_eq_some found)

theorem listedSellers_single (scope : Scope) (now : Time.Instant) (snapshot : List Subscriber) :
    Single (listedSellers scope now snapshot) :=
  lastOfEachId_single _

theorem scope_of_listed {seller : Seller} (member : seller ∈ listedSellers scope now snapshot) :
    seller.scope = scope := by
  obtain ⟨entry, _, rfl⟩ := List.mem_map.mp (mem_of_mem_lastOfEachId member)
  rfl

theorem active_of_listed {seller : Seller} (member : seller ∈ listedSellers scope now snapshot) :
    seller.active := by
  obtain ⟨entry, _, rfl⟩ := List.mem_map.mp (mem_of_mem_lastOfEachId member)
  rfl

end Listed

namespace Plan

theorem ascendingById_single (single : Single sellers) : Single (ascendingById sellers) :=
  ((List.mergeSort_perm _ _).map _).nodup_iff.mpr single

theorem withId?_ascendingById (single : Single sellers) :
    withId? id (ascendingById sellers) = withId? id sellers :=
  Store.find?_of_perm single (List.mergeSort_perm _ _)

theorem inserted_single (single : Single listed) :
    Single (listed.filter fun seller => (withId? seller.sellerId active).isNone) :=
  single.sublist (List.filter_sublist.map _)

theorem updated_single (single : Single listed) :
    Single (listed.filterMap fun seller =>
      (withId? seller.sellerId active).map fun stored =>
        { seller with createdAt := stored.createdAt }) := by
  induction listed with
  | nil => exact List.nodup_nil
  | cons first rest ih =>
    obtain ⟨fresh, single⟩ := List.nodup_cons.mp single
    rw [List.filterMap_cons]
    split
    · exact ih single
    · rename_i refreshed found
      obtain ⟨stored, _, rfl⟩ := Option.map_eq_some_iff.mp found
      refine List.nodup_cons.mpr ⟨?_, ih single⟩
      intro member
      obtain ⟨seller, later, same⟩ := List.mem_map.mp member
      obtain ⟨origin, there, found⟩ := List.mem_filterMap.mp later
      obtain ⟨stored', _, rfl⟩ := Option.map_eq_some_iff.mp found
      exact fresh (List.mem_map.mpr ⟨origin, there, same⟩)

theorem toInsert_single (single : Single listed) : Single (between listed active).toInsert :=
  ascendingById_single (inserted_single single)

theorem toUpdate_single (single : Single listed) : Single (between listed active).toUpdate :=
  ascendingById_single (updated_single single)

theorem withId?_toInsert (single : Single listed) :
    withId? id (between listed active).toInsert =
      if (withId? id active).isSome then none else withId? id listed := by
  unfold between
  rw [withId?_ascendingById (inserted_single single), withId?, List.find?_filter]
  split
  · rename_i known
    rw [List.find?_eq_none]
    intro seller _ found
    simp only [decide_eq_true_eq] at found
    rw [found.2, Option.isNone_iff_eq_none] at found
    simp [found.1] at known
  · rename_i unknown
    unfold withId? at unknown ⊢
    congr 1
    funext seller
    by_cases same : seller.sellerId = id
    · simpa [same, withId?] using unknown
    · simp [same]

theorem withId?_toUpdate (single : Single listed) :
    withId? id (between listed active).toUpdate =
      (withId? id listed).bind fun seller =>
        (withId? id active).map fun stored => { seller with createdAt := stored.createdAt } := by
  unfold between
  rw [withId?_ascendingById (updated_single single)]
  induction listed with
  | nil => rfl
  | cons first rest ih =>
    obtain ⟨fresh, single⟩ := List.nodup_cons.mp single
    rw [List.filterMap_cons, withId?_cons]
    by_cases same : first.sellerId = id
    · subst same
      have absent : withId? first.sellerId rest = none := by
        rw [← Option.not_isSome_iff_eq_none, withId?_isSome]
        exact fresh
      rw [if_pos rfl, Option.bind_some]
      cases withId? first.sellerId active with
      | none => rw [Option.map_none, ih single, absent, Option.bind_none]
      | some stored => rw [Option.map_some, withId?_cons, if_pos rfl]
    · rw [if_neg same, ← ih single]
      cases withId? first.sellerId active with
      | none => rfl
      | some stored => rw [Option.map_some, withId?_cons, if_neg same]

theorem mem_toDeactivate :
    id ∈ (between listed active).toDeactivate ↔
      (withId? id active).isSome ∧ withId? id listed = none := by
  unfold between ascending
  rw [List.mem_mergeSort, withId?_isSome]
  constructor
  · intro member
    obtain ⟨seller, found, rfl⟩ := List.mem_map.mp member
    obtain ⟨there, gone⟩ := List.mem_filter.mp found
    exact ⟨List.mem_map_of_mem there, Option.isNone_iff_eq_none.mp gone⟩
  · rintro ⟨member, gone⟩
    obtain ⟨seller, there, rfl⟩ := List.mem_map.mp member
    exact List.mem_map_of_mem (List.mem_filter.mpr ⟨there, Option.isNone_iff_eq_none.mpr gone⟩)

theorem toDeactivate_nodup (single : Single active) :
    (between listed active).toDeactivate.Nodup :=
  (List.mergeSort_perm _ _).nodup_iff.mpr (single.sublist (List.filter_sublist.map _))

theorem mem_toInsert {seller : Seller} (member : seller ∈ (between listed active).toInsert) :
    seller ∈ listed :=
  List.mem_of_mem_filter (List.mem_mergeSort.mp member)

theorem mem_toUpdate {seller : Seller} (member : seller ∈ (between listed active).toUpdate) :
    ∃ origin ∈ listed, ∃ stored, withId? origin.sellerId active = some stored ∧
      seller = { origin with createdAt := stored.createdAt } := by
  obtain ⟨origin, there, found⟩ := List.mem_filterMap.mp (List.mem_mergeSort.mp member)
  obtain ⟨stored, known, rfl⟩ := Option.map_eq_some_iff.mp found
  exact ⟨origin, there, stored, known, rfl⟩

end Plan

section Scope

variable {scope : Scope} {key : Key}

theorem keys_distinct (single : Single sellers) : (sellers.map Seller.key).Nodup := by
  refine List.Nodup.of_map Key.sellerId ?_
  rw [List.map_map]
  exact single

theorem mem_keys {id : String} (within : ∀ seller ∈ sellers, seller.scope = scope) :
    ⟨id, scope⟩ ∈ sellers.map Seller.key ↔ id ∈ sellers.map Seller.sellerId := by
  simp only [List.mem_map]
  constructor
  · rintro ⟨seller, member, same⟩
    exact ⟨seller, member, congrArg Key.sellerId same⟩
  · rintro ⟨seller, member, rfl⟩
    exact ⟨seller, member, by rw [Seller.key, within seller member]⟩

-- Among the sellers of one scope an id is as good as a key.
theorem find?_within (within : ∀ seller ∈ sellers, seller.scope = scope) :
    sellers.find? (·.key = key) =
      if key.scope = scope then withId? key.sellerId sellers else none := by
  induction sellers with
  | nil => simp [withId?]
  | cons first rest ih =>
    obtain ⟨here, later⟩ := List.forall_mem_cons.mp within
    rw [List.find?_cons, ih later, withId?_cons]
    by_cases inside : key.scope = scope
    · by_cases same : first.sellerId = key.sellerId
      · have keys : first.key = key := by rw [Seller.key, here, same, ← inside]
        simp [keys, inside, same]
      · have keys : first.key ≠ key := fun equal => same (congrArg Key.sellerId equal)
        simp [keys, inside, same]
    · have keys : first.key ≠ key := by
        rintro rfl
        exact inside here
      simp [keys, inside]

end Scope

end SellerDirectory.Sync
