import SellerDirectory.Seller

-- What a run has to write for one domain: the sellers that the registry lists, set against the
-- active ones of the store. Sellers are told apart by their ids, and every part of a plan is in
-- ascending order of ids, so that the order in which sellers were met does not matter.

namespace SellerDirectory.Sync

structure Plan where
  toInsert : List Seller
  toUpdate : List Seller
  toDeactivate : List String
  deriving DecidableEq

def withId? (id : String) (sellers : List Seller) : Option Seller :=
  sellers.find? fun seller => seller.sellerId = id

def lastOfEachId : List Seller → List Seller
  | [] => []
  | seller :: rest =>
    if (withId? seller.sellerId rest).isSome then lastOfEachId rest
    else seller :: lastOfEachId rest

def ascendingById (sellers : List Seller) : List Seller :=
  sellers.mergeSort fun a b => decide (a.sellerId ≤ b.sellerId)

def ascending (ids : List String) : List String :=
  ids.mergeSort fun a b => decide (a ≤ b)

namespace Plan

-- The plan for listed and active sellers, each of them once. An update keeps the time at which the
-- seller was first stored.
def between (listed active : List Seller) : Plan where
  toInsert := ascendingById
    (listed.filter fun seller => (withId? seller.sellerId active).isNone)
  toUpdate := ascendingById
    (listed.filterMap fun seller =>
      (withId? seller.sellerId active).map fun stored =>
        { seller with createdAt := stored.createdAt })
  toDeactivate := ascending
    ((active.filter fun seller => (withId? seller.sellerId listed).isNone).map Seller.sellerId)

def isEmpty (plan : Plan) : Bool :=
  plan.toInsert.isEmpty && plan.toUpdate.isEmpty && plan.toDeactivate.isEmpty

end Plan

end SellerDirectory.Sync
