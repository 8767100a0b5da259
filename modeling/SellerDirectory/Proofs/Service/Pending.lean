import SellerDirectory.Proofs.Store.Pages
import SellerDirectory.Service.Handler

-- The pages that the service answers with. The number of a page is passed on as it was sent, so a
-- far page can start at a place that is negative in a signed word; what is shown then is the first
-- page.

namespace SellerDirectory.Service

open Store Text.Numeral

variable {store : Store} {scope : Scope} {filter : List Catalog.Status}
  {listing : List Catalog.Entry} {environment : String} {request : Request} {query : PendingQuery}

def PendingQuery.lines (query : PendingQuery) : Nat :=
  min (max (query.limit.getD 100) 1) 1000

def PendingQuery.number (query : PendingQuery) : Nat :=
  query.page.getD 1

theorem lines_bounds (query : PendingQuery) : 1 ≤ query.lines ∧ query.lines ≤ 1000 := by
  unfold PendingQuery.lines
  omega

structure Asks (environment : String) (request : Request) (query : PendingQuery) (scope : Scope)
    (filter : List Catalog.Status) : Prop where
  read : PendingQuery.ofPairs? request.query = some query
  domain : query.domain = some scope.domain
  named : scope.domain ≠ ""
  environment : query.environment.getD environment = scope.environment
  statuses : statuses? (query.statuses.getD "") = some filter

theorem pending_asked (asks : Asks environment request query scope filter) :
    pending environment (.ofStore store) request =
      match store.pendingPage scope filter query.lines query.number with
      | .ok shown =>
        (.success "Pending catalog sync sellers retrieved successfully" Catalog.Page.codec shown, [])
      | .error failure =>
        (.refusal 500 "Failed to get pending sellers",
          [.listingUnavailable scope.domain failure]) := by
  have named : scope.domain.isEmpty = false := by simpa using asks.named
  unfold pending
  simp only [asks.read, asks.domain, asks.environment, asks.statuses, Option.getD_some, named,
    Bool.false_eq_true, if_false]
  rfl

theorem pending_of_page (asks : Asks environment request query scope filter) {shown : Catalog.Page}
    (page : store.pendingPage scope filter query.lines query.number = .ok shown) :
    pending environment (.ofStore store) request =
      (.success "Pending catalog sync sellers retrieved successfully" Catalog.Page.codec shown,
        []) := by
  rw [pending_asked asks, page]

theorem pending_of_refused (asks : Asks environment request query scope filter) {failure : Failure}
    (refused : store.pendingPage scope filter query.lines query.number = .error failure) :
    pending environment (.ofStore store) request =
      (.refusal 500 "Failed to get pending sellers",
        [.listingUnavailable scope.domain failure]) := by
  rw [pending_asked asks, refused]

-- Every page that words of 64 bits can ask for is answered, unless the filter is too long, and it
-- shows its slice of the listing exactly if the place that it starts at is the same in a signed
-- word, or nobody waits; of the greatest limit it shows nothing. Nothing is said of the limit to
-- which no line can be added in a signed word. The service answers with these pages, with 1 to 1000
-- lines, or tells that it has none.
theorem pages_sliced {store : Store} (valid : store.Valid) (reads : store.StatesRead)
    (scope : Scope) (filter : List Catalog.Status) :
    ∃ listing, store.Lists scope filter listing ∧
      (∀ limit page, IsSize limit → limit ≠ 2 ^ 63 - 1 → IsSize (pageStart limit page) →
        (IsAnswerable filter → ∃ shown, store.pendingPage scope filter limit page = .ok shown ∧
          (shown = pageOf scope filter limit page listing ↔
            if limit = maxUnsigned64 then listing.length ≤ pageStart limit page
            else IsLow (pageStart limit page) ∨ listing = [])) ∧
        (¬ IsAnswerable filter →
          store.pendingPage scope filter limit page = .error (.tooDeep maxDepth))) ∧
      ∀ environment request query, Asks environment request query scope filter →
        1 ≤ query.lines ∧ query.lines ≤ 1000 ∧
          (IsSize (pageStart query.lines query.number) →
            (IsAnswerable filter →
              ∃ shown, store.pendingPage scope filter query.lines query.number = .ok shown ∧
                pending environment (.ofStore store) request =
                  (.success "Pending catalog sync sellers retrieved successfully"
                    Catalog.Page.codec shown, []) ∧
                (shown = pageOf scope filter query.lines query.number listing ↔
                  IsLow (pageStart query.lines query.number) ∨ listing = [])) ∧
            (¬ IsAnswerable filter →
              pending environment (.ofStore store) request =
                (.refusal 500 "Failed to get pending sellers",
                  [.listingUnavailable scope.domain (.tooDeep maxDepth)]))) := by
  obtain ⟨listing, lists, serves⟩ := listing_served valid reads scope filter
  refine ⟨listing, lists, ?_, ?_⟩
  · intro limit page fits _ start_fits
    exact ⟨fun answerable => pendingPage_exact lists (serves answerable) fits start_fits,
      fun long => pendingPage_unanswerable long limit page⟩
  intro environment request query asks
  obtain ⟨least, most⟩ := lines_bounds query
  refine ⟨least, most, fun start_fits => ⟨fun answerable => ?_, fun long => ?_⟩⟩
  · have below : query.lines ≠ maxUnsigned64 :=
      Nat.ne_of_lt (Nat.lt_of_le_of_lt most (by decide))
    have fits : IsSize query.lines := Nat.lt_of_le_of_lt most (by decide)
    obtain ⟨shown, page, agrees⟩ := pendingPage_exact lists (serves answerable) fits start_fits
    rw [if_neg below] at agrees
    exact ⟨shown, page, pending_of_page asks page, agrees⟩
  · exact pending_of_refused asks (pendingPage_unanswerable long _ _)

theorem waitingStore_waits (lists : waitingStore.Lists waitingScope [] listing) : listing ≠ [] := by
  rw [waitingStore_lists.unique lists fun _ => Iff.rfl]
  exact List.cons_ne_nil _ _

def secondPage : Request where
  method := "GET"
  target := "/v1/catalog-sync/pending?domain=ONDC:RET10&limit=1&page=2"
  contentType := none
  body := []

def secondQuery : PendingQuery := ⟨some "ONDC:RET10", none, none, some 1, some 2⟩

-- A page whose start is the least place that is negative in a signed word.
def farPage : Nat := 2 ^ 63 + 1

theorem secondPage_sliced :
    waitingStore.Valid ∧ waitingStore.StatesRead ∧
      Asks "prod" secondPage secondQuery waitingScope [] ∧
      ∃ listing, waitingStore.Lists waitingScope [] listing ∧
        pending "prod" (.ofStore waitingStore) secondPage =
          (.success "Pending catalog sync sellers retrieved successfully" Catalog.Page.codec
            (pageOf waitingScope [] 1 2 listing), []) ∧
        ∃ shown, waitingStore.pendingPage waitingScope [] 1 farPage = .ok shown ∧
          shown ≠ pageOf waitingScope [] 1 farPage listing := by
  have asks : Asks "prod" secondPage secondQuery waitingScope [] := by
    constructor
    · decide +kernel
    · decide
    · decide
    · decide
    · decide +kernel
  obtain ⟨listing, lists, pages, service⟩ :=
    pages_sliced waitingStore_valid waitingStore_reads waitingScope []
  refine ⟨waitingStore_valid, waitingStore_reads, asks, listing, lists, ?_, ?_⟩
  · obtain ⟨_, _, answered⟩ := service "prod" secondPage secondQuery asks
    obtain ⟨shown, _, response, agrees⟩ := (answered (by decide)).1 (by decide)
    have right := agrees.mpr (.inl (by decide))
    exact right ▸ response
  · obtain ⟨shown, page, agrees⟩ :=
      (pages 1 farPage (by decide) (by decide) (by decide)).1 (by decide)
    refine ⟨shown, page, fun right => ?_⟩
    rcases agrees.mp right with low | nobody
    · exact absurd low (by decide)
    · exact waitingStore_waits lists nobody

theorem farPage_unsliced :
    ¬ ∀ (store : Store) (scope : Scope) (filter : List Catalog.Status) (limit page : Nat),
      store.Valid → store.StatesRead → IsSize limit → IsSize page →
        IsSize (pageStart limit page) → limit ≠ 2 ^ 63 - 1 →
          ∃ listing, store.Lists scope filter listing ∧
            store.pendingPage scope filter limit page =
              .ok (pageOf scope filter limit page listing) := by
  intro always
  have fits : IsSize 1 := by decide
  have start_fits : IsSize (pageStart 1 farPage) := by decide
  obtain ⟨listing, lists, page⟩ := always waitingStore waitingScope [] 1 farPage
    waitingStore_valid waitingStore_reads fits (by decide) start_fits (by decide)
  obtain ⟨_, relisted, serves⟩ := listing_served waitingStore_valid waitingStore_reads waitingScope []
  cases lists.unique relisted fun _ => Iff.rfl
  obtain ⟨shown, asked, agrees⟩ := pendingPage_exact lists (serves (by decide)) fits start_fits
  rw [page] at asked
  cases asked
  rcases agrees.mp rfl with low | nobody
  · exact absurd low (by decide)
  · exact waitingStore_waits lists nobody

end SellerDirectory.Service
