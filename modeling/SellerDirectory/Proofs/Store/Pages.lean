import SellerDirectory.Proofs.Store.Listing
import SellerDirectory.Proofs.Store.Permanence
import SellerDirectory.Text.Numeral

-- Pages of the listing. A page is the slice that its number and its limit stand for, as long as the
-- number of lines before it, taken as a signed word, is still that number; and whoever asks for one
-- page after the other, while there are more, is shown the listing once.

namespace SellerDirectory.Store

open Text.Numeral

variable {store : Store} {scope : Scope} {filter : List Catalog.Status}
  {listing : List Catalog.Entry} {limit page size : Nat}

def IsSize (size : Nat) : Prop :=
  size < 2 ^ 64

def IsLow (size : Nat) : Prop :=
  size < 2 ^ 63

instance (size : Nat) : Decidable (IsSize size) :=
  inferInstanceAs (Decidable (_ < _))

instance (size : Nat) : Decidable (IsLow size) :=
  inferInstanceAs (Decidable (_ < _))

-- How many lines stand before a page. Pages count from one, and none is the first one too.
def pageStart (limit page : Nat) : Nat :=
  (max page 1 - 1) * limit

def pageFrom (start : Nat) (scope : Scope) (filter : List Catalog.Status) (limit page : Nat)
    (listing : List Catalog.Entry) : Catalog.Page where
  domain := scope.domain
  environment := scope.environment
  filter := effectiveFilter filter
  entries := (listing.drop start).take limit
  info := ⟨limit, max page 1, start + limit < listing.length⟩

def pageOf (scope : Scope) (filter : List Catalog.Status) (limit page : Nat)
    (listing : List Catalog.Entry) : Catalog.Page :=
  pageFrom (pageStart limit page) scope filter limit page listing

section Sizes

theorem signedSize_low (low : IsLow size) : signedSize size = size :=
  if_pos low

theorem signedSize_high (high : ¬ IsLow size) : signedSize size = (size : Int) - (2 ^ 64 : Nat) :=
  if_neg high

theorem toNat_signedSize (fits : IsSize size) :
    (signedSize size).toNat = if IsLow size then size else 0 := by
  by_cases low : IsLow size
  · rw [if_pos low, signedSize_low low, Int.toNat_natCast]
  · rw [if_neg low, signedSize_high low]
    unfold IsSize at fits
    omega

-- One line more than the limit is enough to tell whether there are more, and no limit too.
theorem slice_beyond (fits : IsSize limit) (below : limit ≠ maxUnsigned64) (offset : Int)
    (listing : List Catalog.Entry) :
    (slice (signedSize limit + 1) offset listing).take limit =
        (listing.drop offset.toNat).take limit ∧
      (limit < (slice (signedSize limit + 1) offset listing).length ↔
        offset.toNat + limit < listing.length) := by
  unfold slice
  by_cases low : IsLow limit
  · have counted : (signedSize limit + 1).toNat = limit + 1 := by
      rw [signedSize_low low]
      rfl
    have positive : ¬ signedSize limit + 1 < 0 := by
      rw [signedSize_low low]
      omega
    simp only [positive, if_false, counted, List.take_take, List.length_take, List.length_drop]
    constructor
    · rw [Nat.min_eq_left (Nat.le_succ limit)]
    · omega
  · have negative : signedSize limit + 1 < 0 := by
      rw [signedSize_high low]
      unfold IsSize at fits
      simp only [maxUnsigned64] at below
      omega
    simp only [negative, if_true, List.length_drop]
    exact ⟨trivial, by omega⟩

-- The greatest size is one less than nothing.
theorem slice_greatest (offset : Int) :
    slice (signedSize maxUnsigned64 + 1) offset listing = [] := by
  have nothing : signedSize maxUnsigned64 + 1 = 0 := by decide
  rw [nothing]
  simp [slice]

end Sizes

section Pages

variable (serves : store.Serves scope filter listing)

include serves

theorem pendingPage_served (fits : IsSize limit) (below : limit ≠ maxUnsigned64) :
    store.pendingPage scope filter limit page =
      .ok (pageFrom (signedSize (pageStart limit page)).toNat scope filter limit page listing) := by
  obtain ⟨lines, more⟩ := slice_beyond fits below (signedSize (pageStart limit page)) listing
  unfold pendingPage pageFrom pageStart at *
  simp only [serves limit]
  simp only [bind, Except.bind, pure, Except.pure, lines, more]

theorem pendingPage_greatest :
    store.pendingPage scope filter maxUnsigned64 page =
      .ok (pageOf scope filter maxUnsigned64 page []) := by
  unfold pendingPage pageOf pageFrom
  simp only [serves maxUnsigned64, slice_greatest]
  simp [bind, Except.bind, pure, Except.pure]

theorem pendingPage_low (fits : IsSize limit) (below : limit ≠ maxUnsigned64)
    (low : IsLow (pageStart limit page)) :
    store.pendingPage scope filter limit page = .ok (pageOf scope filter limit page listing) := by
  rw [pendingPage_served serves fits below, signedSize_low low]
  rfl

end Pages

theorem pendingPage_unanswerable (long : ¬ IsAnswerable filter) (limit page : Nat) :
    store.pendingPage scope filter limit page = .error (.tooDeep maxDepth) := by
  unfold pendingPage
  simp only [pendingEntries_unanswerable long]
  rfl

section Exact

variable {start : Nat}

theorem Lists.not_mem_drop {first : Catalog.Entry} {rest : List Catalog.Entry}
    (lists : store.Lists scope filter (first :: rest)) (later : 0 < start) :
    first ∉ (first :: rest).drop start := by
  intro again
  obtain ⟨n, rfl⟩ := Nat.exists_eq_succ_of_ne_zero (Nat.ne_of_gt later)
  have after := (List.pairwise_cons.mp lists.ascending).1 first (List.mem_of_mem_drop again)
  exact lt_irrefl _ after

theorem pageFrom_start_iff (lists : store.Lists scope filter listing) (later : 0 < start)
    (positive : 0 < limit) :
    pageFrom 0 scope filter limit page listing = pageFrom start scope filter limit page listing ↔
      listing = [] := by
  constructor
  · intro same
    cases listing with
    | nil => rfl
    | cons first rest =>
      have lines : (first :: rest).take limit = ((first :: rest).drop start).take limit :=
        congrArg Catalog.Page.entries same
      have shown : first ∈ (first :: rest).take limit := by
        cases limit with
        | zero => cases positive
        | succ n => exact List.mem_cons_self
      rw [lines] at shown
      exact absurd (List.mem_of_mem_take shown) (lists.not_mem_drop later)
  · rintro rfl
    simp [pageFrom]

theorem pageOf_nil_iff (positive : 0 < limit) :
    pageOf scope filter limit page [] = pageOf scope filter limit page listing ↔
      listing.length ≤ pageStart limit page := by
  unfold pageOf pageFrom
  constructor
  · intro same
    have none_shown := congrArg (fun shown => shown.entries.length) same
    simp only [List.drop_nil, List.take_nil, List.length_nil, List.length_take,
      List.length_drop] at none_shown
    omega
  · intro past
    have beyond : ¬ pageStart limit page + limit < listing.length := by omega
    simp [List.drop_eq_nil_of_le past, beyond]

-- Whatever is asked for, there is a page; and it is the right one just where the place that it
-- starts at is the same in a signed word. Of the greatest limit nothing is shown at all.
theorem pendingPage_exact (lists : store.Lists scope filter listing)
    (serves : store.Serves scope filter listing) (fits : IsSize limit)
    (start_fits : IsSize (pageStart limit page)) :
    ∃ shown, store.pendingPage scope filter limit page = .ok shown ∧
      (shown = pageOf scope filter limit page listing ↔
        if limit = maxUnsigned64 then listing.length ≤ pageStart limit page
        else IsLow (pageStart limit page) ∨ listing = []) := by
  by_cases greatest : limit = maxUnsigned64
  · subst greatest
    rw [if_pos rfl]
    exact ⟨_, pendingPage_greatest serves, pageOf_nil_iff (by decide)⟩
  · rw [if_neg greatest]
    refine ⟨_, pendingPage_served serves fits greatest, ?_⟩
    rw [toNat_signedSize start_fits]
    by_cases low : IsLow (pageStart limit page)
    · rw [if_pos low]
      exact iff_of_true rfl (.inl low)
    · have later : 0 < pageStart limit page := by
        unfold IsLow at low
        omega
      have positive : 0 < limit := Nat.pos_of_mul_pos_left later
      rw [if_neg low, or_iff_right low]
      exact pageFrom_start_iff lists later positive

end Exact

section Walk

-- The pages from a number on, each of which is asked for because the one before it says that there
-- are more.
inductive Walk (store : Store) (scope : Scope) (filter : List Catalog.Status) (limit : Nat) :
    Nat → List Catalog.Page → Prop where
  | last {number : Nat} {shown : Catalog.Page}
      (asked : store.pendingPage scope filter limit number = .ok shown)
      (ends : shown.info.hasMore = false) : Walk store scope filter limit number [shown]
  | more {number : Nat} {shown : Catalog.Page} {rest : List Catalog.Page}
      (asked : store.pendingPage scope filter limit number = .ok shown)
      (goes_on : shown.info.hasMore = true)
      (walk : Walk store scope filter limit (number + 1) rest) :
      Walk store scope filter limit number (shown :: rest)

variable {number : Nat} {pages others : List Catalog.Page}

theorem Walk.ne_nil (walk : store.Walk scope filter limit number pages) : pages ≠ [] := by
  cases walk <;> exact List.cons_ne_nil _ _

theorem Walk.unique (walk : store.Walk scope filter limit number pages)
    (other : store.Walk scope filter limit number others) : others = pages := by
  induction walk generalizing others with
  | last asked ends =>
    cases other with
    | last again =>
      cases asked.symm.trans again
      rfl
    | more again goes_on =>
      cases asked.symm.trans again
      cases ends.symm.trans goes_on
  | more asked goes_on walk ih =>
    cases other with
    | last again ends =>
      cases asked.symm.trans again
      cases ends.symm.trans goes_on
    | more again _ onward =>
      cases asked.symm.trans again
      rw [ih onward]

theorem pageStart_succ (limit n : Nat) : pageStart limit (n + 1) = n * limit := by
  unfold pageStart
  rw [Nat.max_eq_left (Nat.le_add_left 1 n), Nat.add_sub_cancel]

theorem walk_left (serves : store.Serves scope filter listing) (sized : listing.length ≤ 2 ^ 63)
    (positive : 0 < limit) (below : limit < maxUnsigned64) (n : Nat) (low : IsLow (n * limit)) :
    ∃ pages, store.Walk scope filter limit (n + 1) pages ∧
      pages.flatMap Catalog.Page.entries = listing.drop (n * limit) ∧
      ∀ page ∈ pages.dropLast, page.entries.length = limit := by
  have fits : IsSize limit := Nat.lt_succ_of_lt below
  -- Each page has a line at least, so it leaves less to the next one.
  induction left : listing.length - n * limit using Nat.strongRecOn generalizing n with
  | ind remaining ih =>
    subst left
    have start := pageStart_succ limit n
    have asked := pendingPage_low serves fits (Nat.ne_of_lt below) (start ▸ low)
    have shown : (pageOf scope filter limit (n + 1) listing).entries =
        (listing.drop (n * limit)).take limit := by
      rw [← start]
      rfl
    have told : (pageOf scope filter limit (n + 1) listing).info.hasMore =
        decide (n * limit + limit < listing.length) := by
      rw [← start]
      rfl
    by_cases more : n * limit + limit < listing.length
    · have next : (n + 1) * limit = n * limit + limit := Nat.succ_mul n limit
      obtain ⟨rest, walk, lines, full⟩ := ih (listing.length - (n + 1) * limit) (by omega) (n + 1)
        (by unfold IsLow; omega) rfl
      refine ⟨_ :: rest, .more asked (told.trans (decide_eq_true more)) walk, ?_, ?_⟩
      · rw [List.flatMap_cons, lines, shown, next, ← List.drop_drop]
        exact List.take_append_drop limit _
      · rw [List.dropLast_cons_of_ne_nil walk.ne_nil]
        intro page member
        rcases List.mem_cons.mp member with rfl | later
        · rw [shown, List.length_take, List.length_drop]
          omega
        · exact full page later
    · refine ⟨[_], .last asked (told.trans (decide_eq_false more)), ?_, ?_⟩
      · rw [List.flatMap_singleton, shown]
        exact List.take_of_length_le (by rw [List.length_drop]; omega)
      · intro page member
        cases member

theorem Serves.walked (serves : store.Serves scope filter listing)
    (sized : listing.length ≤ 2 ^ 63) (positive : 0 < limit) (below : limit < maxUnsigned64) :
    ∃ pages, store.Walk scope filter limit 1 pages ∧
      (∀ others, store.Walk scope filter limit 1 others → others = pages) ∧
      pages.flatMap Catalog.Page.entries = listing ∧
      ∀ page ∈ pages.dropLast, page.entries.length = limit := by
  obtain ⟨pages, walk, lines, full⟩ := walk_left serves sized positive below 0 (by
    rw [Nat.zero_mul]
    decide)
  rw [Nat.zero_mul, List.drop_zero] at lines
  exact ⟨pages, walk, fun others other => walk.unique other, lines, full⟩

end Walk

theorem Lists.length_le (lists : store.Lists scope filter listing) (valid : store.Valid) :
    listing.length ≤ store.sellers.length := by
  have distinct : (listing.map Catalog.Entry.sellerId).Nodup :=
    (List.pairwise_map.mpr lists.ascending).imp ne_of_lt
  have active : listing.map Catalog.Entry.sellerId ⊆
      (store.activeRows scope).map (·.key.sellerId) := by
    intro id member
    exact (mem_activeRows valid).mpr ((lists.complete id).mp member).1
  calc listing.length
    _ = (listing.map Catalog.Entry.sellerId).length := (List.length_map _).symm
    _ ≤ ((store.activeRows scope).map (·.key.sellerId)).length :=
      (List.subperm_of_subset distinct active).length_le
    _ = (store.activeRows scope).length := List.length_map _
    _ ≤ store.sellers.length := List.length_filter_le _ _

-- Whoever asks for the pages one after the other while there are more comes to an end, and has
-- seen all that wait, each once and by ascending ids; all pages but the last one are full. A table
-- numbers its rows by positive signed words, so it has no more of them. A filter that is too long
-- has no first page.
theorem pages_walked {store : Store} (valid : store.Valid) (reads : store.StatesRead)
    (sized : store.sellers.length ≤ 2 ^ 63) (scope : Scope) (filter : List Catalog.Status)
    {limit : Nat} (least : 1 ≤ limit) (most : limit ≤ 1000) :
    (IsAnswerable filter → ∃ pages, store.Walk scope filter limit 1 pages ∧
      (∀ others, store.Walk scope filter limit 1 others → others = pages) ∧
      store.Lists scope filter (pages.flatMap Catalog.Page.entries) ∧
      ∀ page ∈ pages.dropLast, page.entries.length = limit) ∧
    (¬ IsAnswerable filter → ∀ page, IsSize (pageStart limit page) →
      store.pendingPage scope filter limit page = .error (.tooDeep maxDepth)) := by
  refine ⟨fun answerable => ?_, fun long page _ => pendingPage_unanswerable long limit page⟩
  obtain ⟨listing, lists, serves⟩ := listing_served valid reads scope filter
  have below : limit < maxUnsigned64 := Nat.lt_of_le_of_lt most (by decide)
  have short : listing.length ≤ 2 ^ 63 := (lists.length_le valid).trans sized
  obtain ⟨pages, walk, only, lines, full⟩ := (serves answerable).walked short least below
  exact ⟨pages, walk, only, lines.symm ▸ lists, full⟩

def waitingSeller : Seller := sampleSeller (Fin.last 23)

def waitingScope : Scope := waitingSeller.scope

def waitingStore : Store where
  sellers := ["A", "B", "C"].map fun id => .ofSeller { waitingSeller with sellerId := id }
  states := [.ofState { Catalog.State.initial waitingSeller waitingSeller.updatedAt with
    status := .failed }]

theorem waitingStore_valid : waitingStore.Valid :=
  ⟨by decide, by decide, by decide⟩

theorem waitingStore_reads : waitingStore.StatesRead := by
  intro row member
  rw [List.mem_singleton.mp member]
  exact ⟨_, by rfl⟩

def waitingLine (id : String) (status : Catalog.Status) : Catalog.Entry :=
  ⟨id, status, none, none, none⟩

theorem waitingStore_lists :
    waitingStore.Lists waitingScope []
      [waitingLine "A" .failed, waitingLine "B" .notSynced, waitingLine "C" .notSynced] := by
  constructor
  · decide
  · intro id
    constructor
    · intro member
      have each : ∀ id ∈ ["A", "B", "C"], waitingStore.hasActive ⟨id, waitingScope⟩ ∧
          isWanted (effectiveFilter []) (waitingStore.stateRow? ⟨id, waitingScope⟩) := by
        decide +kernel
      exact each id member
    · rintro ⟨active, _⟩
      obtain ⟨row, member, same, _⟩ := (hasActive_iff waitingStore_valid).mp active
      have each : ∀ row ∈ waitingStore.sellers, row.key.sellerId ∈ ["A", "B", "C"] := by
        decide +kernel
      have named := each row member
      rwa [same] at named
  · intro entry member
    simp only [List.mem_cons, List.not_mem_nil, or_false] at member
    rcases member with rfl | rfl | rfl <;> rfl

def longFilter : List Catalog.Status := List.replicate 1000 .failed

theorem longFilter_unanswerable : ¬ IsAnswerable longFilter := by
  decide +kernel

theorem waitingStore_walked :
    waitingStore.Valid ∧ waitingStore.StatesRead ∧ waitingStore.sellers.length ≤ 2 ^ 63 ∧
      ∃ pages, waitingStore.Walk waitingScope [] 2 1 pages ∧
        pages.flatMap Catalog.Page.entries =
          [waitingLine "A" .failed, waitingLine "B" .notSynced, waitingLine "C" .notSynced] ∧
        (∀ page ∈ pages.dropLast, page.entries.length = 2) ∧
        waitingStore.pendingPage waitingScope longFilter 2 1 = .error (.tooDeep maxDepth) := by
  have sized : waitingStore.sellers.length ≤ 2 ^ 63 := by decide
  have least : 1 ≤ 2 := by decide
  obtain ⟨walked, -⟩ :=
    pages_walked waitingStore_valid waitingStore_reads sized waitingScope [] least (by decide)
  obtain ⟨-, refused⟩ := pages_walked waitingStore_valid waitingStore_reads sized waitingScope
    longFilter least (by decide)
  obtain ⟨pages, walk, _, lists, full⟩ := walked (by decide)
  exact ⟨waitingStore_valid, waitingStore_reads, sized, pages, walk,
    waitingStore_lists.unique lists fun _ => Iff.rfl, full,
    refused longFilter_unanswerable 1 (by decide)⟩

theorem longFilter_unwalked :
    ¬ ∀ (store : Store) (scope : Scope) (filter : List Catalog.Status) (limit : Nat),
      store.Valid → store.StatesRead → store.sellers.length ≤ 2 ^ 63 → 1 ≤ limit → limit ≤ 1000 →
        ∃ pages, store.Walk scope filter limit 1 pages ∧
          store.Lists scope filter (pages.flatMap Catalog.Page.entries) ∧
          ∀ page ∈ pages.dropLast, page.entries.length = limit := by
  intro always
  obtain ⟨pages, walk, -⟩ := always waitingStore waitingScope longFilter 1 waitingStore_valid
    waitingStore_reads (by decide) (by decide) (by decide)
  have refused : waitingStore.pendingPage waitingScope longFilter 1 1 = .error (.tooDeep maxDepth) :=
    pendingPage_unanswerable longFilter_unanswerable 1 1
  cases walk with
  | last asked => cases refused.symm.trans asked
  | more asked => cases refused.symm.trans asked

end SellerDirectory.Store
