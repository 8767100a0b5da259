import SellerDirectory.Seller

-- Tables whose rows are told apart by their keys. Rows stand in the order in which they were first
-- stored; nothing removes a row.

namespace SellerDirectory.Store

class Keyed (Row : Type) where
  key : Row → Key

namespace Table

variable {Row : Type} [Keyed Row]

def find? (key : Key) (rows : List Row) : Option Row :=
  rows.find? fun row => Keyed.key row = key

def contains (key : Key) (rows : List Row) : Bool :=
  (find? key rows).isSome

def Distinct (rows : List Row) : Prop :=
  (rows.map Keyed.key).Nodup

def alter? (key : Key) (change : Row → Row) : List Row → Option (List Row)
  | [] => none
  | stored :: rest =>
    if Keyed.key stored = key then some (change stored :: rest)
    else (alter? key change rest).map (stored :: ·)

-- Merges a row into the one of its key, or adds it as the last one.
def put (merge : Row → Row → Row) (row : Row) : List Row → List Row
  | [] => [row]
  | stored :: rest =>
    if Keyed.key stored = Keyed.key row then merge stored row :: rest
    else stored :: put merge row rest

-- Before in the order by environment, then domain, then id.
def before (a b : Key) : Bool :=
  if a.scope.environment = b.scope.environment then
    if a.scope.domain = b.scope.domain then decide (a.sellerId ≤ b.sellerId)
    else decide (a.scope.domain ≤ b.scope.domain)
  else decide (a.scope.environment ≤ b.scope.environment)

def inKeyOrder (rows : List Row) : List Row :=
  rows.mergeSort fun a b => before (Keyed.key a) (Keyed.key b)

end Table

end SellerDirectory.Store
