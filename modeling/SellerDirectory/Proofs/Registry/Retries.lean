import SellerDirectory.Proofs.Base64
import SellerDirectory.Proofs.Json.Messages
import SellerDirectory.Proofs.Text.Numeral
import SellerDirectory.Registry.Client

-- How often a lookup is tried. An outcome that may pass is followed by another attempt, up to the
-- number that the policy allows; the first other outcome is what the lookup comes to.

namespace SellerDirectory.Registry

open Signing Text

section Outcomes

variable {domain : String} {outcome : Except String Response}

-- Outcomes that may pass: no response, a snapshot that ends early, a busy or a broken registry. With
-- any other status an early end of the body does not count.
inductive Transient : Except String Response → Prop where
  | unanswered (reason : String) : Transient (.error reason)
  | cutShort (reason : String) : Transient (.ok ⟨200, .error reason⟩)
  | busy (body : Except String (List UInt8)) : Transient (.ok ⟨429, body⟩)
  | broken {status : Nat} (least : 500 ≤ status) (most : status ≤ 599)
      (body : Except String (List UInt8)) : Transient (.ok ⟨status, body⟩)

def refusal (status : Nat) (body : Except String (List UInt8)) : Failure :=
  .refused status (String.ofList (Utf8.repair (body.toOption.getD [])))

def troubleOf : Except String Response → Failure
  | .error reason => .noResponse reason
  | .ok ⟨200, .error reason⟩ => .cutShort reason
  | .ok ⟨status, body⟩ => refusal status body

inductive Settles (domain : String) :
    Except String Response → Except Failure (List Subscriber) → Prop where
  | listed {body : List UInt8} {snapshot : List Subscriber}
      (read : snapshotCodec.decode body = .ok snapshot) :
      Settles domain (.ok ⟨200, .ok body⟩) (.ok snapshot)
  | unreadable {body : List UInt8} {error : Json.DecodeError}
      (unread : snapshotCodec.decode body = .error error) :
      Settles domain (.ok ⟨200, .ok body⟩)
        (.error (.during ("lookup " ++ domain) (.badSnapshot error)))
  | refused {status : Nat} {body : Except String (List UInt8)} (other : status ≠ 200) :
      Settles domain (.ok ⟨status, body⟩)
        (.error (.during ("lookup " ++ domain) (refusal status body)))

section Refused

variable {status : Nat} {body : Except String (List UInt8)}

theorem judge_other (other : status ≠ 200) :
    judge (.ok ⟨status, body⟩) =
      if isPassing status then .again (refusal status body)
      else .settled (.error (refusal status body)) := by
  unfold judge refusal
  split
  · next same => cases same
  · next same =>
    cases same
    exact absurd rfl other
  · next same =>
    cases same
    exact absurd rfl other
  · next same =>
    cases same
    rfl

theorem troubleOf_other (other : status ≠ 200) :
    troubleOf (.ok ⟨status, body⟩) = refusal status body := by
  unfold troubleOf
  split
  · next same => cases same
  · next same =>
    cases same
    exact absurd rfl other
  · next same =>
    cases same
    rfl

end Refused

theorem judge_transient (transient : Transient outcome) :
    judge outcome = .again (troubleOf outcome) := by
  cases transient with
  | unanswered reason => rfl
  | cutShort reason => rfl
  | busy body => rfl
  | @broken status least most body =>
    have other : status ≠ 200 := by omega
    have passing : isPassing status := by simp [isPassing, least, most]
    rw [judge_other other, if_pos passing, troubleOf_other other]

theorem judge_final (domain : String) (final : ¬ Transient outcome) :
    ∃ result, judge outcome = .settled result ∧
      Settles domain outcome (result.mapError (·.within ("lookup " ++ domain))) := by
  match outcome with
  | .error reason => exact absurd (.unanswered reason) final
  | .ok ⟨status, body⟩ =>
    by_cases success : status = 200
    · subst success
      cases body with
      | error reason => exact absurd (.cutShort reason) final
      | ok body =>
        refine ⟨_, rfl, ?_⟩
        cases decoded : snapshotCodec.decode body with
        | ok snapshot => exact .listed decoded
        | error error => exact .unreadable decoded
    · have lasting : ¬ isPassing status := by
        intro passing
        simp only [isPassing, Bool.or_eq_true, beq_iff_eq, Bool.and_eq_true,
          decide_eq_true_eq] at passing
        rcases passing with rfl | ⟨least, most⟩
        · exact final (.busy body)
        · exact final (.broken least most body)
      exact ⟨.error (refusal status body), by rw [judge_other success, if_neg lasting],
        .refused success⟩

theorem message_lookup {failure : Failure} (registry : failure.kind = .registry)
    {reason : String} (told : failure.detail = "lookup " ++ domain ++ ": " ++ reason) :
    failure.message = "upstream error: lookup " ++ domain ++ ": " ++ reason := by
  have opening : "upstream" ++ " error: " ++ "lookup " = "upstream error: lookup " := by decide
  rw [Failure.message, registry, told, ← opening, FailureKind.name]
  simp only [String.append_assoc]

theorem Settles.failure {failure : Failure} (settles : Settles domain outcome (.error failure)) :
    failure.kind = .registry ∧
      ∃ reason, failure.message = "upstream error: lookup " ++ domain ++ ": " ++ reason := by
  cases settles with
  | unreadable unread => exact ⟨rfl, _, message_lookup rfl rfl⟩
  | refused other => exact ⟨rfl, _, message_lookup rfl rfl⟩

theorem Settles.read {body : List UInt8} {result : Except Failure (List Subscriber)}
    (settles : Settles domain (.ok ⟨200, .ok body⟩) result) {snapshot : List Subscriber}
    (readable : snapshotCodec.decode body = .ok snapshot) : result = .ok snapshot := by
  cases settles with
  | listed read => exact congrArg Except.ok (Except.ok.inj (read.symm.trans readable))
  | unreadable unread => exact absurd (readable.symm.trans unread) nofun
  | refused other => exact absurd rfl other

theorem detail_gaveUp (domain : String) (attempts : Nat) (last : Failure) :
    (Failure.gaveUp domain attempts last).detail =
      "lookup " ++ domain ++ ": "
        ++ ("giving up after " ++ toString attempts ++ " attempts: " ++ last.message) := by
  have told : (Failure.gaveUp domain attempts last).detail =
      s!"lookup {domain}: giving up after {attempts} attempts: {last.kind.name} error: "
        ++ last.detail := rfl
  have middle : ": giving up after " = ": " ++ "giving up after " := by decide
  rw [told, Failure.message]
  simp only [toString, middle, String.append_assoc]

theorem message_gaveUp (domain : String) (attempts : Nat) (last : Failure) :
    (Failure.gaveUp domain attempts last).message =
      "upstream error: lookup " ++ domain ++ ": "
        ++ ("giving up after " ++ toString attempts ++ " attempts: " ++ last.message) :=
  message_lookup rfl (detail_gaveUp domain attempts last)

theorem failure_of_gaveUp {result : Except Failure (List Subscriber)} {attempts : Nat}
    {last failure : Failure} (gaveUp : result = .error (.gaveUp domain attempts last))
    (failed : result = .error failure) : failure.kind = .registry ∧
      ∃ reason, failure.message = "upstream error: lookup " ++ domain ++ ": " ++ reason := by
  cases failed.symm.trans gaveUp
  exact ⟨rfl, _, message_gaveUp domain attempts last⟩

end Outcomes

section HeaderText

def Sendable (signer : Signer) : Prop :=
  isHeaderText signer.subscriberId ∧ isHeaderText signer.uniqueKeyId

instance (signer : Signer) : Decidable (Sendable signer) :=
  inferInstanceAs (Decidable (_ ∧ _))

def isHeaderChar (c : Char) : Bool :=
  (c.toNat ≥ 0x20 && c.toNat ≠ 0x7F) || c == '\t'

theorem number_sendable (number : Int) : (Numeral.ofInt number).all isHeaderChar := by
  rw [List.all_eq_true]
  intro c member
  rcases Numeral.isDigit_of_mem_ofInt member with digit | rfl
  · simp only [Numeral.isDigit, Bool.and_eq_true, decide_eq_true_eq] at digit
    have least : 48 ≤ c.toNat := digit.1
    have most : c.toNat ≤ 57 := digit.2
    simp only [isHeaderChar, Bool.or_eq_true, Bool.and_eq_true, decide_eq_true_eq]
    omega
  · decide

theorem base64_sendable (bytes : List UInt8) : (Base64.encode bytes).all isHeaderChar := by
  have all : Base64.characters.all isHeaderChar := by decide +kernel
  rw [List.all_eq_true]
  exact fun c member => List.all_eq_true.mp all c (Base64.mem_of_mem_encode bytes c member)

theorem item_sendable {name : String} (known : name.toList.all isHeaderChar) (value : List Char) :
    (Header.item name value).all isHeaderChar = value.all isHeaderChar := by
  have equals : isHeaderChar '=' := by decide
  have quote : isHeaderChar '"' := by decide
  simp [Header.item, known, equals, quote]

-- Only the two ids decide whether the header of a signer can be sent.
theorem header_sendable_iff (scheme : Scheme) (signer : Signer) (body : List UInt8)
    (created lifetime : Int) :
    isHeaderText (signer.header scheme body created lifetime).text ↔ Sendable signer := by
  have opening : Header.scheme.all isHeaderChar := by decide +kernel
  have names : ∀ name ∈ ["keyId", "algorithm", "created", "expires", "headers", "signature"],
      name.toList.all isHeaderChar := by
    decide +kernel
  have algorithm : algorithmName.toList.all isHeaderChar := by decide +kernel
  have signed : signedNames.toList.all isHeaderChar := by decide +kernel
  have comma : isHeaderChar ',' := by decide
  have bar : isHeaderChar '|' := by decide
  change (String.ofList _).toList.all isHeaderChar ↔
    signer.subscriberId.toList.all isHeaderChar ∧ signer.uniqueKeyId.toList.all isHeaderChar
  rw [String.toList_ofList]
  simp only [List.forall_mem_cons] at names
  obtain ⟨keyId, named, starts, ends, headers, signature, _⟩ := names
  simp only [Header.chars, Header.keyIdText, Signer.header, signatureText, Base64.text,
    String.toList_ofList, List.all_append, List.all_cons, item_sendable keyId, item_sendable named,
    item_sendable starts, item_sendable ends, item_sendable headers, item_sendable signature,
    opening, algorithm, signed, comma, bar, number_sendable, base64_sendable, Bool.and_true,
    Bool.true_and, Bool.and_eq_true]

end HeaderText

section Loop

variable {ω : Type} {scheme : Scheme} {transport : Transport (StateM ω)} {client : Client}
  {domain : String} {number more : Nat} {log : List Event} {world later : ω} {failure : Failure}

def lookupBytes (domain : String) : List UInt8 :=
  Utf8.bytes (LookupRequest.body domain)

theorem decode_lookupBytes (domain : String) :
    LookupRequest.codec.decode (lookupBytes domain) = .ok ⟨"IND", "BPP", domain⟩ :=
  (LookupRequest.restores (.forDomain domain)).readsBack

theorem attempt_sent {body : List UInt8} {created : Int} {read : ω}
    {outcome : Except String Response}
    (clock : transport.now.run world = (created, read))
    (sent : isHeaderText (client.signer.header scheme body created lifetime).text)
    (answered : (transport.send ⟨client.url, body,
      (client.signer.header scheme body created lifetime).text⟩).run read = (outcome, later)) :
    (client.attempt scheme transport body).run world = (judge outcome, later) := by
  unfold Client.attempt
  rw [StateT.run_bind, clock]
  change (if isHeaderText _ then _ else _ : StateM ω Verdict).run read = _
  rw [if_pos sent, StateT.run_bind, answered]
  rfl

theorem attempt_unsent {body : List UInt8} {created : Int}
    (clock : transport.now.run world = (created, later))
    (unsent : ¬ isHeaderText (client.signer.header scheme body created lifetime).text) :
    (client.attempt scheme transport body).run world = (.again .unsendable, later) := by
  unfold Client.attempt
  rw [StateT.run_bind, clock]
  change (if isHeaderText _ then _ else _ : StateM ω Verdict).run later = _
  rw [if_neg unsent]
  rfl

theorem attemptsFrom_settled {result : Except Failure (List Subscriber)}
    (judged : (client.attempt scheme transport (lookupBytes domain)).run world =
      (.settled result, later)) :
    (client.attemptsFrom scheme transport domain number log more).run world =
      (⟨result.mapError (·.within ("lookup " ++ domain)), log⟩, later) := by
  unfold lookupBytes at judged
  unfold Client.attemptsFrom
  rw [StateT.run_bind, judged]
  cases more <;> rfl

theorem attemptsFrom_last
    (judged : (client.attempt scheme transport (lookupBytes domain)).run world =
      (.again failure, later)) :
    (client.attemptsFrom scheme transport domain number log 0).run world =
      (⟨.error (.gaveUp domain client.policy.attempts failure),
        log ++ [.attemptFailed domain number client.policy.attempts failure]⟩, later) := by
  unfold lookupBytes at judged
  unfold Client.attemptsFrom
  rw [StateT.run_bind, judged]
  rfl

theorem attemptsFrom_again
    (judged : (client.attempt scheme transport (lookupBytes domain)).run world =
      (.again failure, later)) :
    (client.attemptsFrom scheme transport domain number log (more + 1)).run world =
      (client.attemptsFrom scheme transport domain (number + 1)
        (log ++ [.attemptFailed domain number client.policy.attempts failure]) more).run
          (transport.pause.run later).2 := by
  unfold lookupBytes at judged
  rw [Client.attemptsFrom, StateT.run_bind, judged]
  rfl

end Loop

-- What a transport has seen: how often its clock was read, the requests, and the pauses.
structure Exchange where
  readings : Nat
  requests : List Request
  pauses : Nat

def Exchange.start : Exchange := ⟨0, [], 0⟩

-- A transport with a clock that shows one time after the other and a registry that answers with one
-- outcome after the other.
def scripted (clock : Nat → Int) (outcomes : Nat → Except String Response) :
    Transport (StateM Exchange) where
  now := modifyGet fun seen => (clock seen.readings, { seen with readings := seen.readings + 1 })
  send request := modifyGet fun seen =>
    (outcomes seen.requests.length, { seen with requests := seen.requests ++ [request] })
  pause := modify fun seen => { seen with pauses := seen.pauses + 1 }

section Scripted

variable (scheme : Scheme) (client : Client) (domain : String) (clock : Nat → Int)
  (outcomes : Nat → Except String Response)

def requestAt (i : Nat) : Request :=
  ⟨client.url, lookupBytes domain,
    (client.signer.header scheme (lookupBytes domain) (clock i) lifetime).text⟩

-- What the transport has seen after some attempts, with a pause after each but the last ones.
def seenAfter (attempts pauses : Nat) : Exchange :=
  ⟨attempts, (List.range attempts).map (requestAt scheme client domain clock), pauses⟩

theorem length_seenAfter (attempts pauses : Nat) :
    (seenAfter scheme client domain clock attempts pauses).requests.length = attempts := by
  rw [seenAfter, List.length_map, List.length_range]

theorem body_of_mem_seenAfter {attempts pauses : Nat} {request : Request}
    (member : request ∈ (seenAfter scheme client domain clock attempts pauses).requests) :
    request.body = lookupBytes domain := by
  rw [seenAfter, List.mem_map] at member
  obtain ⟨i, -, sent⟩ := member
  rw [← sent, requestAt]

theorem attempt_scripted (sendable : Sendable client.signer) (k pauses : Nat) :
    (client.attempt scheme (scripted clock outcomes) (lookupBytes domain)).run
        (seenAfter scheme client domain clock k pauses) =
      (judge (outcomes k), seenAfter scheme client domain clock (k + 1) pauses) := by
  refine attempt_sent rfl ((header_sendable_iff scheme client.signer _ _ _).mpr sendable) ?_
  have grown : seenAfter scheme client domain clock (k + 1) pauses =
      ⟨k + 1, (List.range k).map (requestAt scheme client domain clock)
        ++ [requestAt scheme client domain clock k], pauses⟩ := by
    rw [seenAfter, List.range_succ, List.map_append]
    rfl
  change (outcomes ((List.range k).map _).length, _) = _
  rw [grown, List.length_map, List.length_range]
  rfl

theorem attempt_unsendable (unsendable : ¬ Sendable client.signer) (seen : Exchange) :
    (client.attempt scheme (scripted clock outcomes) (lookupBytes domain)).run seen =
      (.again .unsendable, { seen with readings := seen.readings + 1 }) := by
  exact attempt_unsent rfl (mt (header_sendable_iff scheme client.signer _ _ _).mp unsendable)

-- The attempts of a lookup, after some that failed: they go on while their outcomes are transient,
-- and end with the first that is not or with the last that is allowed.
theorem attemptsFrom_ends (sendable : Sendable client.signer) (more k number : Nat)
    (log : List Event) :
    ∃ passed ≤ more, (∀ i < passed, Transient (outcomes (k + i))) ∧ ∃ fetched,
      (client.attemptsFrom scheme (scripted clock outcomes) domain number log more).run
          (seenAfter scheme client domain clock k k) =
        (fetched, seenAfter scheme client domain clock (k + passed + 1) (k + passed)) ∧
      (¬ Transient (outcomes (k + passed)) ∧
          Settles domain (outcomes (k + passed)) fetched.result ∨
        passed = more ∧ Transient (outcomes (k + passed)) ∧
          fetched.result = .error (.gaveUp domain client.policy.attempts
            (troubleOf (outcomes (k + passed))))) := by
  have attempted := attempt_scripted scheme client domain clock outcomes sendable k k
  induction more generalizing k number log with
  | zero =>
    refine ⟨0, Nat.le_refl 0, fun i few => absurd few (Nat.not_lt_zero i), ?_⟩
    rw [Nat.add_zero]
    by_cases transient : Transient (outcomes k)
    · rw [judge_transient transient] at attempted
      exact ⟨_, attemptsFrom_last attempted, .inr ⟨rfl, transient, rfl⟩⟩
    · obtain ⟨result, judged, settles⟩ := judge_final domain transient
      rw [judged] at attempted
      exact ⟨_, attemptsFrom_settled attempted, .inl ⟨transient, settles⟩⟩
  | succ more ih =>
    by_cases transient : Transient (outcomes k)
    · rw [judge_transient transient] at attempted
      rw [attemptsFrom_again attempted]
      obtain ⟨passed, few, before, fetched, ran, ended⟩ := ih (k + 1) (number + 1)
        (log ++ [.attemptFailed domain number client.policy.attempts
          (troubleOf (outcomes k))])
        (attempt_scripted scheme client domain clock outcomes sendable (k + 1) (k + 1))
      have shift : k + (passed + 1) = k + 1 + passed := by omega
      refine ⟨passed + 1, Nat.succ_le_succ few, ?_, fetched, ?_, ?_⟩
      · intro i early
        cases i with
        | zero => exact transient
        | succ i =>
          have earlier := before i (Nat.lt_of_succ_lt_succ early)
          rwa [Nat.add_right_comm, Nat.add_assoc] at earlier
      · rw [shift]
        exact ran
      · rw [shift]
        rcases ended with settles | ⟨last, gaveUp⟩
        · exact .inl settles
        · exact .inr ⟨congrArg (· + 1) last, gaveUp⟩
    · obtain ⟨result, judged, settles⟩ := judge_final domain transient
      rw [judged] at attempted
      exact ⟨0, Nat.zero_le _, fun i few => absurd few (Nat.not_lt_zero i), _,
        attemptsFrom_settled attempted, .inl ⟨transient, settles⟩⟩

-- Without a header that can be sent nothing goes out, and every attempt that is allowed is made.
theorem attemptsFrom_unsendable (unsendable : ¬ Sendable client.signer) (more number : Nat)
    (log : List Event) (seen : Exchange) :
    ∃ fetched later,
      (client.attemptsFrom scheme (scripted clock outcomes) domain number log more).run seen =
        (fetched, later) ∧
      later.readings = seen.readings + (more + 1) ∧ later.requests = seen.requests ∧
      fetched.result = .error (.gaveUp domain client.policy.attempts .unsendable) := by
  have attempted := attempt_unsendable scheme client domain clock outcomes unsendable seen
  induction more generalizing number log seen with
  | zero => exact ⟨_, _, attemptsFrom_last attempted, rfl, rfl, rfl⟩
  | succ more ih =>
    rw [attemptsFrom_again attempted]
    obtain ⟨fetched, later, ran, readings, requests, gaveUp⟩ := ih (number + 1)
      (log ++ [.attemptFailed domain number client.policy.attempts .unsendable])
      ⟨seen.readings + 1, seen.requests, seen.pauses + 1⟩
      (attempt_unsendable scheme client domain clock outcomes unsendable _)
    refine ⟨fetched, later, ran, ?_, requests, gaveUp⟩
    rw [Nat.add_comm (more + 1) 1, ← Nat.add_assoc]
    exact readings

theorem attempts_pos (policy : RetryPolicy) : 0 < policy.attempts :=
  Nat.lt_min.mpr ⟨Nat.succ_pos _, by decide⟩

theorem fetch_ends (sendable : Sendable client.signer) :
    ∃ k < client.policy.attempts, (∀ i < k, Transient (outcomes i)) ∧ ∃ fetched,
      (client.fetch scheme (scripted clock outcomes) domain).run .start =
        (fetched, seenAfter scheme client domain clock (k + 1) k) ∧
      (¬ Transient (outcomes k) ∧ Settles domain (outcomes k) fetched.result ∨
        k + 1 = client.policy.attempts ∧ Transient (outcomes k) ∧
          fetched.result = .error (.gaveUp domain client.policy.attempts
            (troubleOf (outcomes k)))) := by
  have least := attempts_pos client.policy
  obtain ⟨k, few, before, fetched, ran, ended⟩ := attemptsFrom_ends scheme client domain clock
    outcomes sendable (client.policy.attempts - 1) 0 1 []
  simp only [Nat.zero_add] at before ran ended
  refine ⟨k, Nat.lt_of_le_pred least few, before, fetched, ran, ?_⟩
  rcases ended with settles | ⟨last, gaveUp⟩
  · exact .inl settles
  · exact .inr ⟨by rw [last, Nat.sub_add_cancel least], gaveUp⟩

theorem fetch_unsendable (unsendable : ¬ Sendable client.signer) :
    ∃ fetched later,
      (client.fetch scheme (scripted clock outcomes) domain).run .start = (fetched, later) ∧
      later.readings = client.policy.attempts ∧ later.requests = [] ∧
      fetched.result = .error (.gaveUp domain client.policy.attempts .unsendable) := by
  obtain ⟨fetched, later, ran, readings, unsent⟩ := attemptsFrom_unsendable scheme client domain
    clock outcomes unsendable (client.policy.attempts - 1) 1 [] .start
  refine ⟨fetched, later, ran, ?_, unsent⟩
  rw [readings, Nat.sub_add_cancel (attempts_pos client.policy)]
  exact Nat.zero_add _

end Scripted

-- A lookup sends requests up to the first outcome that is not transient, which it comes to, or else
-- as many as the policy allows, and then tells that it gave up and why at last. A signer that cannot
-- be named in a header makes every attempt fail before anything is sent.
theorem lookup_retried (scheme : Scheme) (client : Client) (domain : String) (clock : Nat → Int)
    (outcomes : Nat → Except String Response) :
    let n := min (client.policy.retries + 1) 4294967295
    let (fetched, exchange) :=
      (client.fetch scheme (scripted clock outcomes) domain).run .start
    (Sendable client.signer →
      (∀ k < n, (∀ i < k, Transient (outcomes i)) → ¬ Transient (outcomes k) →
        exchange.requests.length = k + 1 ∧ Settles domain (outcomes k) fetched.result) ∧
      ((∀ i < n, Transient (outcomes i)) →
        exchange.requests.length = n ∧ ∃ failure, fetched.result = .error failure ∧
          failure.kind = .registry ∧ failure.message =
            "upstream error: lookup " ++ domain ++ ": " ++ ("giving up after " ++ toString n
              ++ " attempts: " ++ (troubleOf (outcomes (n - 1))).message))) ∧
    (¬ Sendable client.signer →
      exchange.readings = n ∧ exchange.requests = [] ∧
        fetched.result = .error (.gaveUp domain n .unsendable)) ∧
    (∀ failure, fetched.result = .error failure → failure.kind = .registry ∧
      ∃ reason, failure.message = "upstream error: lookup " ++ domain ++ ": " ++ reason) ∧
    ∃ body, LookupRequest.codec.decode body = .ok ⟨"IND", "BPP", domain⟩ ∧
      ∀ request ∈ exchange.requests, request.body = body := by
  have allowed : min (client.policy.retries + 1) 4294967295 = client.policy.attempts := rfl
  rw [allowed]
  intro n
  by_cases sendable : Sendable client.signer
  · obtain ⟨last, reached, before, fetched, ran, ended⟩ :=
      fetch_ends scheme client domain clock outcomes sendable
    have sent := length_seenAfter scheme client domain clock (last + 1) last
    rw [ran]
    refine ⟨fun _ => ⟨?_, ?_⟩, absurd sendable, ?_, lookupBytes domain, decode_lookupBytes domain,
      fun _ => body_of_mem_seenAfter scheme client domain clock⟩
    · intro k few early final
      obtain rfl : k = last := by
        rcases Nat.lt_trichotomy k last with less | same | more
        · exact absurd (before k less) final
        · exact same
        · rcases ended with ⟨settled, -⟩ | ⟨exhausted, -⟩
          · exact absurd (early last more) settled
          · omega
      rcases ended with ⟨-, settles⟩ | ⟨-, transient, -⟩
      · exact ⟨sent, settles⟩
      · exact absurd transient final
    · intro transient
      rcases ended with ⟨settled, -⟩ | ⟨exhausted, -, gaveUp⟩
      · exact absurd (transient last reached) settled
      · have final : n - 1 = last := by omega
        rw [final]
        exact ⟨sent.trans exhausted, _, gaveUp, rfl, message_gaveUp domain _ _⟩
    · intro failure failed
      rcases ended with ⟨-, settles⟩ | ⟨-, -, gaveUp⟩
      · rw [failed] at settles
        exact settles.failure
      · exact failure_of_gaveUp gaveUp failed
  · obtain ⟨fetched, later, ran, readings, unsent, gaveUp⟩ :=
      fetch_unsendable scheme client domain clock outcomes sendable
    rw [ran]
    refine ⟨fun sent => absurd sent sendable, fun _ => ⟨readings, unsent, gaveUp⟩,
      fun _ failed => failure_of_gaveUp gaveUp failed, lookupBytes domain,
      decode_lookupBytes domain, ?_⟩
    intro request member
    rw [unsent] at member
    cases member

def patientClient : Client where
  url := "https://preprod.registry.ondc.org/v2.0/lookup"
  signer := ⟨"buyer.example", "key-1", List.replicate 32 0⟩
  policy := ⟨30, 2, 5⟩

def unreachable : String :=
  "error sending request for url (" ++ patientClient.url ++ ")"

def slowRegistry : Nat → Except String Response
  | 0 => .ok ⟨503, .error "error decoding response body"⟩
  | 1 => .error unreachable
  | _ => .ok ⟨200, .ok (Utf8.bytes "[]")⟩

def silentRegistry : Nat → Except String Response := fun _ => .error unreachable

theorem slowRegistry_retried :
    (let (fetched, exchange) :=
      (patientClient.fetch ed25519 (scripted Int.ofNat slowRegistry) "ONDC:RET10").run .start
    exchange.requests.length = 3 ∧ fetched.result = .ok []) ∧
    let (fetched, exchange) :=
      (patientClient.fetch ed25519 (scripted Int.ofNat silentRegistry) "ONDC:RET10").run .start
    exchange.requests.length = 3 ∧ ∃ failure, fetched.result = .error failure ∧ failure.message =
      "upstream error: lookup ONDC:RET10: giving up after 3 attempts: upstream error: "
        ++ "request failed: error sending request for url "
        ++ "(https://preprod.registry.ondc.org/v2.0/lookup)" := by
  have sendable : Sendable patientClient.signer := by decide +kernel
  -- Neither run is computed: that would be to compute signatures.
  constructor
  · have retried := lookup_retried ed25519 patientClient "ONDC:RET10" Int.ofNat slowRegistry
    generalize (patientClient.fetch ed25519 (scripted Int.ofNat slowRegistry) "ONDC:RET10").run
      .start = ran at retried ⊢
    obtain ⟨fetched, exchange⟩ := ran
    obtain ⟨sent, -⟩ := retried
    have early : ∀ i < 2, Transient (slowRegistry i) := by
      intro i less
      match i with
      | 0 => exact .broken (by decide) (by decide) _
      | 1 => exact .unanswered _
    have final : ¬ Transient (slowRegistry 2) := by
      intro transient
      cases transient with
      | broken least => exact absurd least (by decide)
    obtain ⟨requests, settles⟩ := (sent sendable).1 2 (by decide) early final
    have listed : snapshotCodec.decode (Utf8.bytes "[]") = .ok [] := by rfl
    exact ⟨requests, settles.read listed⟩
  · have retried := lookup_retried ed25519 patientClient "ONDC:RET10" Int.ofNat silentRegistry
    generalize (patientClient.fetch ed25519 (scripted Int.ofNat silentRegistry) "ONDC:RET10").run
      .start = ran at retried ⊢
    obtain ⟨fetched, exchange⟩ := ran
    obtain ⟨sent, -⟩ := retried
    obtain ⟨requests, failure, failed, -, told⟩ := (sent sendable).2 fun _ _ => .unanswered _
    refine ⟨requests, failure, failed, ?_⟩
    rw [told]
    decide +kernel

end SellerDirectory.Registry
