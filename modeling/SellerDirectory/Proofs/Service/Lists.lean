import SellerDirectory.Proofs.Config.Environment
import SellerDirectory.Proofs.Store.Progress
import SellerDirectory.Service.Handler

-- The lists that stand in one text each: the domains of a configuration, and the statuses that a
-- listing is asked for.

namespace SellerDirectory.Service

open Catalog Text

theorem name_isElement (status : Status) : IsElement status.name := by
  cases status <;> decide +kernel

theorem statuses?_names {text : String} {filter : List Status}
    (read : parts text = filter.map Status.name) : statuses? text = some filter := by
  unfold statuses?
  rw [read]
  clear read
  induction filter with
  | nil => rfl
  | cons status filter ih =>
    rw [List.map_cons, List.mapM_cons, Status.ofText_name, ih]
    rfl

theorem domains_given {lookup : String → Option String} {config : Config} {text : String}
    (reads : config.Reads lookup) (found : lookup "DOMAINS" = some text)
    (dark : ¬ isBlankText text) : config.domains = parts text := by
  rw [← reads.domains.of_given found dark, parts_trim]

-- What is read from a list are elements, and elements are read from it however they are written;
-- so what was read reads as itself. The domains of a configuration and the statuses of a filter
-- are read so.
theorem lists_read_back :
    (∀ text, ∀ part ∈ parts text, IsElement part) ∧
    (∀ elements written, (∀ element ∈ elements, IsElement element) → Spread elements written →
      parts (",".intercalate written) = elements) ∧
    (∀ text, parts (",".intercalate (parts text)) = parts text) ∧
    (∀ lookup config elements written, (∀ element ∈ elements, IsElement element) →
      Spread elements written → lookup "DOMAINS" = some (",".intercalate written) →
        ¬ isBlankText (",".intercalate written) → Config.ofLookup lookup = .ok config →
          config.domains = elements) ∧
    ∀ filter written, Spread (filter.map Status.name) written →
      statuses? (",".intercalate written) = some filter := by
  refine ⟨fun _ _ => isElement_of_mem_parts, fun _ _ => parts_spread, fun text => ?_, ?_, ?_⟩
  · exact parts_spread (fun _ => isElement_of_mem_parts) (spread_self _)
  · intro lookup config elements written all spread found dark made
    rw [domains_given (Config.reads_of_ofLookup made) found dark, parts_spread all spread]
  · intro filter written spread
    refine statuses?_names (parts_spread ?_ spread)
    exact List.forall_mem_map.mpr fun status _ => name_isElement status

def looseElements : List String := ["ONDC:RET10", "a \u2003b", "ONDC:RET10"]

-- The loose elements with white space around them, and blank pieces at both ends and in between.
def loosePieces : List String :=
  ["", "\u3000ONDC:RET10\t", " ", "\n", "a \u2003b", " ONDC:RET10", ""]

def looseVariables (name : String) : Option String :=
  if name = "DOMAINS" then some (",".intercalate loosePieces) else none

theorem looseElements_read_back :
    (∀ element ∈ looseElements, IsElement element) ∧ Spread looseElements loosePieces ∧
      parts (",".intercalate loosePieces) = looseElements ∧
      (∃ config, Config.ofLookup looseVariables = .ok config ∧ config.domains = looseElements) ∧
      statuses? (",".intercalate [" FAILED", "", "NOT_SYNCED\n"]) = some [.failed, .notSynced] := by
  have all : ∀ element ∈ looseElements, IsElement element := by decide +kernel
  have spread : Spread looseElements loosePieces := by
    have found : elementsOf loosePieces = looseElements := by decide +kernel
    exact found ▸ spread_elementsOf loosePieces
  have names : Spread ([.failed, .notSynced].map Status.name) [" FAILED", "", "NOT_SYNCED\n"] := by
    have found : elementsOf [" FAILED", "", "NOT_SYNCED\n"] =
        [.failed, .notSynced].map Status.name := by
      decide +kernel
    exact found ▸ spread_elementsOf _
  obtain ⟨config, made⟩ : ∃ config, Config.ofLookup looseVariables = .ok config := ⟨_, rfl⟩
  obtain ⟨_, read, _, domains, statuses⟩ := lists_read_back
  exact ⟨all, spread, read _ _ all spread,
    ⟨config, made, domains _ _ _ _ all spread rfl (by decide +kernel) made⟩, statuses _ _ names⟩

end SellerDirectory.Service
