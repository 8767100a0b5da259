import SellerDirectory.Failure

-- What is worth telling an operator: events, and the records of a log that they become.

namespace SellerDirectory

-- A step of the run for one domain that can fail without ending the run.
inductive Step where
  | fetchRegistry
  | fetchLocal
  | insertSellers
  | updateSellers
  | initState (sellerId : String)
  | deactivateSellers
  deriving DecidableEq

namespace Step

def name : Step → String
  | fetchRegistry => "fetch_registry"
  | fetchLocal => "fetch_local"
  | insertSellers => "insert_sellers"
  | updateSellers => "update_sellers"
  | initState _ => "init_catalog_state"
  | deactivateSellers => "deactivate_sellers"

def complaint : Step → String
  | fetchRegistry => "Failed to fetch sellers from registry"
  | fetchLocal => "Failed to fetch sellers from store"
  | insertSellers => "Failed to insert new sellers"
  | updateSellers => "Failed to update existing sellers"
  | initState _ => "Failed to insert catalog state"
  | deactivateSellers => "Failed to deactivate sellers"

end Step

inductive Event where
  -- An attempt of a lookup that failed and that another one may follow.
  | attemptFailed (domain : String) (number attempts : Nat) (failure : Failure)
  | entrySkipped (domain : String)
  | stepFailed (domain : String) (step : Step) (failure : Failure)
  | statusUnavailable (sellerId domain : String) (failure : Failure)
  | listingUnavailable (domain : String) (failure : Failure)

inductive Level where
  | warning
  | error
  deriving DecidableEq

inductive FieldValue where
  | text (value : String)
  | count (value : Nat)
  deriving DecidableEq

structure Record where
  level : Level
  message : String
  fields : List (String × FieldValue)
  deriving DecidableEq

namespace Event

def record : Event → Record
  | attemptFailed domain number attempts failure =>
    ⟨.warning, "registry lookup attempt failed",
      [("domain", .text domain), ("attempt", .count number), ("max_attempts", .count attempts),
        ("error", .text failure.message)]⟩
  | entrySkipped domain =>
    ⟨.warning, "skipping registry entry without subscriber_id", [("domain", .text domain)]⟩
  | stepFailed domain step failure =>
    let seller := match step with
      | .initState sellerId => [("seller_id", .text sellerId)]
      | _ => []
    ⟨.error, step.complaint,
      [("domain", .text domain), ("operation", .text step.name)] ++ seller
        ++ [("kind", .text failure.kind.name), ("error", .text failure.message)]⟩
  | statusUnavailable sellerId domain failure =>
    ⟨.error, "Error getting sync status",
      [("seller_id", .text sellerId), ("domain", .text domain), ("error", .text failure.message)]⟩
  | listingUnavailable domain failure =>
    ⟨.error, "Error getting pending sellers",
      [("domain", .text domain), ("error", .text failure.message)]⟩

end Event

end SellerDirectory
