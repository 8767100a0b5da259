import SellerDirectory.Catalog.Listing
import SellerDirectory.Proofs.Json.Record
import SellerDirectory.Registry.LookupRequest
import SellerDirectory.Sync.Report

-- The messages of the service and the entries of a registry: whatever one of them holds, the JSON
-- text that is written for it is read back as the same.

namespace SellerDirectory

open Json Codec Fields.Restore Text Numeral

namespace Registry

theorem Subscriber.restores (subscriber : Subscriber) : codec.Restores subscriber := by
  refine record_restores rfl (by decide) ?_
  exact cons (lenientText_restores _) <| cons (lenientText_restores _) <|
    cons (lenientText_restores _) <| cons (lenientText_restores _) <|
    cons (lenientText_restores _) <| cons (lenientText_restores _) <|
    cons (lenientText_restores _) <| cons (lenientText_restores _) <|
    cons (lenientText_restores _) <| cons (lenientText_restores _) <|
    cons (lenientText_restores _) <| cons (lenientText_restores _) <|
    cons (lenientText_restores _) nil

theorem LookupRequest.restores (request : LookupRequest) : codec.Restores request :=
  record_restores rfl (by decide) <| cons (text_restores _) <| cons (text_restores _) <|
    cons (text_restores _) nil

end Registry

theorem Seller.restores (seller : Seller) : codec.Restores seller := by
  refine record_restores rfl (by decide) ?_
  exact cons (text_restores _) <| cons (text_restores _) <| cons (text_restores _) <|
    cons (text_restores _) <| cons (text_restores _) <| cons (text_restores _) <|
    cons (text_restores _) <| cons (text_restores _) <| cons (optionalTime_restores _) <|
    cons (optionalTime_restores _) <| cons (boolean_restores _) <| cons (text_restores _) <|
    cons (time_restores _) <| cons (time_restores _) <| cons (time_restores _) nil

namespace Catalog

theorem Status.restores (status : Status) : codec.Restores status :=
  variant_restores (by cases status <;> decide)

theorem State.restores {state : State} (fits : IsSigned64 state.version) :
    codec.Restores state := by
  refine record_restores rfl (by decide) ?_
  exact cons (text_restores _) <| cons (text_restores _) <| cons (text_restores _) <|
    cons (Status.restores _) <| cons (optionalTime_restores _) <|
    cons (optionalTime_restores _) <| cons (optionalText_restores _) <|
    cons (signed64_restores fits) <| cons (time_restores _) nil

theorem Progress.restores {progress : Progress} (fits : IsSigned64 progress.version) :
    codec.Restores progress := by
  refine record_restores rfl (by decide) ?_
  exact cons (text_restores _) <| cons (text_restores _) <| cons (text_restores _) <|
    cons (Status.restores _) <| cons (optionalTime_restores _) <|
    cons (optionalTime_restores _) <| cons (optionalText_restores _) <|
    cons (signed64_restores fits) <| cons (time_restores _) nil

theorem Entry.restores (entry : Entry) : codec.Restores entry := by
  refine record_restores rfl (by decide) ?_
  exact cons (text_restores _) <| cons (Status.restores _) <| cons (optionalTime_restores _) <|
    cons (optionalTime_restores _) <| cons (optionalText_restores _) nil

def PageInfo.Fits (info : PageInfo) : Prop :=
  info.limit ≤ maxUnsigned64 ∧ info.page ≤ maxUnsigned64

theorem PageInfo.restores {info : PageInfo} (fits : info.Fits) : codec.Restores info :=
  record_restores rfl (by decide) <| cons (size_restores fits.1) <|
    cons (size_restores fits.2) <| cons (boolean_restores _) nil

theorem Page.restores {page : Page} (fits : page.info.Fits) : codec.Restores page := by
  refine record_restores rfl (by decide) ?_
  exact cons (text_restores _) <| cons (text_restores _) <|
    cons (list_restores fun status _ => status.restores) <|
    cons (list_restores fun entry _ => entry.restores) <| cons (PageInfo.restores fits) nil

end Catalog

namespace Sync

theorem Request.restores (request : Request) : codec.Restores request :=
  record_restores rfl (by decide) <| cons (text_restores _) <|
    cons (list_restores fun domain _ => text_restores domain) nil

def Summary.Fits (summary : Summary) : Prop :=
  summary.inserted ≤ maxUnsigned64 ∧ summary.updated ≤ maxUnsigned64 ∧
    summary.deactivated ≤ maxUnsigned64 ∧ summary.listed ≤ maxUnsigned64

theorem Summary.restores {summary : Summary} (fits : summary.Fits) : codec.Restores summary := by
  obtain ⟨inserted, updated, deactivated, listed⟩ := fits
  exact record_restores rfl (by decide) <| cons (text_restores _) <|
    cons (size_restores inserted) <| cons (size_restores updated) <|
    cons (size_restores deactivated) <| cons (size_restores listed) nil

theorem Report.restores {report : Report} (fits : ∀ summary ∈ report.domains, summary.Fits) :
    codec.Restores report :=
  record_restores rfl (by decide) <| cons (text_restores _) <| cons (text_restores _) <|
    cons (list_restores fun summary member => Summary.restores (fits summary member)) nil

end Sync

-- Every message is read back as it was, whatever its texts and times are, with or without the values
-- that it may leave out. Its numbers are words of 64 bits, signed or not.
theorem messages_read_back :
    (∀ subscriber, Registry.Subscriber.codec.ReadsBack subscriber) ∧
      (∀ request, Registry.LookupRequest.codec.ReadsBack request) ∧
      (∀ seller, Seller.codec.ReadsBack seller) ∧
      (∀ state, IsSigned64 state.version → Catalog.State.codec.ReadsBack state) ∧
      (∀ progress, IsSigned64 progress.version → Catalog.Progress.codec.ReadsBack progress) ∧
      (∀ entry, Catalog.Entry.codec.ReadsBack entry) ∧
      (∀ page, page.info.Fits → Catalog.Page.codec.ReadsBack page) ∧
      (∀ request, Sync.Request.codec.ReadsBack request) ∧
      ∀ report, (∀ summary ∈ report.domains, summary.Fits) →
        Sync.Report.codec.ReadsBack report := by
  refine ⟨?_, ?_, ?_, ?_, ?_, ?_, ?_, ?_, ?_⟩
  · intro subscriber
    exact subscriber.restores.readsBack
  · intro request
    exact request.restores.readsBack
  · intro seller
    exact seller.restores.readsBack
  · intro state fits
    exact (Catalog.State.restores fits).readsBack
  · intro progress fits
    exact (Catalog.Progress.restores fits).readsBack
  · intro entry
    exact entry.restores.readsBack
  · intro page fits
    exact (Catalog.Page.restores fits).readsBack
  · intro request
    exact request.restores.readsBack
  · intro report fits
    exact (Sync.Report.restores fits).readsBack

-- Quotes, escapes and control characters, the first year with a leap second in it, and the numbers
-- at both ends.
def hardText : String := "\"\\\x00\x1f\n\u2028 \x7b\x7d,:null"

def hardTime : Time.Instant :=
  ⟨⟨Time.firstYear, 12, 31, by decide⟩, ⟨23, 59, 60, 999999999, by decide⟩⟩

def hardState : Catalog.State :=
  ⟨hardText, "", hardText, .syncing, some hardTime, none, some hardText, minSigned64, hardTime⟩

def hardProgress : Catalog.Progress :=
  ⟨hardText, "", hardText, .failed, none, some hardTime, none, maxSigned64, hardTime⟩

def hardPage : Catalog.Page where
  domain := hardText
  environment := ""
  filter := [.notSynced, .failed]
  entries := [⟨hardText, .synced, none, some hardTime, none⟩, ⟨"", .failed, some hardTime, none, some ""⟩]
  info := ⟨maxUnsigned64, 0, true⟩

def hardReport : Sync.Report :=
  ⟨hardText, "", [.empty hardText, ⟨"", maxUnsigned64, 1, maxUnsigned64, 0⟩]⟩

theorem hard_messages_read_back :
    (IsSigned64 hardState.version ∧ Catalog.State.codec.ReadsBack hardState) ∧
      (IsSigned64 hardProgress.version ∧ Catalog.Progress.codec.ReadsBack hardProgress) ∧
      (hardPage.info.Fits ∧ Catalog.Page.codec.ReadsBack hardPage) ∧
      (∀ summary ∈ hardReport.domains, summary.Fits) ∧ Sync.Report.codec.ReadsBack hardReport := by
  obtain ⟨_, _, _, states, progresses, _, pages, _, reports⟩ := messages_read_back
  have least : IsSigned64 hardState.version := by decide
  have greatest : IsSigned64 hardProgress.version := by decide
  have counts : hardPage.info.Fits := ⟨Nat.le_refl _, Nat.zero_le _⟩
  have sums : ∀ summary ∈ hardReport.domains, summary.Fits := by
    unfold Sync.Summary.Fits
    decide
  exact ⟨⟨least, states _ least⟩, ⟨greatest, progresses _ greatest⟩, ⟨counts, pages _ counts⟩, sums,
    reports _ sums⟩

end SellerDirectory
