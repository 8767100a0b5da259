import SellerDirectory.Proofs.Store.Interference
import SellerDirectory.Proofs.Sync.FailureLog
import SellerDirectory.Proofs.Sync.Portion

-- Runs that share the store with others. What a run writes, it writes for sellers that it has seen
-- or stored before; and since nobody can remove a seller, no write of it fails, whoever else calls
-- the store in the meantime.

namespace SellerDirectory.Sync

open Registry Store

variable {store after : Store} {scope : Scope} {now : Time.Instant} {domain : String} {step : Step}

section Attempt

variable {call : Call} {ensures : Option call.Reply × List Event → Store → Prop}

theorem attempt_secures
    (succeeds : ∀ later, Extends store later →
      (call.isWrite → ∃ reply, (later.answer call).1 = .ok reply) ∧
        ∀ result, ensures result (later.answer call).2) :
    (attempt domain step call).Secures ensures store := by
  have performed : (Program.perform call).Secures (fun _ middle => ∀ result, ensures result middle)
      store :=
    .perform succeeds
  refine performed.bind fun reply middle _ ensured => ?_
  cases reply with
  | ok reply => exact .pure (ensured _)
  | error failure => exact .pure (ensured _)

theorem attemptUnless_secures {idle : Bool}
    (succeeds : idle = false → ∀ later, Extends store later →
      (call.isWrite → ∃ reply, (later.answer call).1 = .ok reply) ∧
        ∀ result, ensures result (later.answer call).2)
    (rests : idle = true → ensures (none, []) store) :
    (attemptUnless idle domain step call).Secures ensures store := by
  cases idle with
  | true => exact .pure (rests rfl)
  | false => exact attempt_secures (succeeds rfl)

end Attempt

def Stored (sellers : List Seller) (store : Store) : Prop :=
  ∀ seller ∈ sellers, Table.contains seller.key store.sellers

theorem Stored.extends {sellers : List Seller} (stored : Stored sellers store)
    (grown : Extends store after) : Stored sellers after :=
  fun seller member => grown.contains_seller (stored seller member)

section Writes

variable {sellers : List Seller}

theorem insert_secures :
    (attemptUnless sellers.isEmpty domain step (.insert sellers)).Secures
      (fun _ middle => Stored sellers middle) store := by
  apply attemptUnless_secures
  · intro _ later _
    exact ⟨fun _ => ⟨_, rfl⟩, fun _ seller member => contains_insert later member⟩
  · intro idle seller member
    rw [List.isEmpty_iff.mp idle] at member
    exact absurd member List.not_mem_nil

theorem update_secures (stored : Stored sellers store) :
    (attemptUnless sellers.isEmpty domain step (.update sellers)).Secures (fun _ _ => True)
      store := by
  apply attemptUnless_secures
  · intro _ later grown
    have answered := answer_update (stored.extends grown)
    exact ⟨fun _ => ⟨_, congrArg Prod.fst answered⟩, fun _ => trivial⟩
  · exact fun _ => trivial

theorem deactivate_secures {ids : List String} :
    (attemptUnless ids.isEmpty domain step (.deactivate ids scope now)).Secures (fun _ _ => True)
      store := by
  apply attemptUnless_secures
  · exact fun _ later _ => ⟨fun _ => ⟨_, rfl⟩, fun _ => trivial⟩
  · exact fun _ => trivial

theorem initStates_secures (stored : Stored sellers store) :
    (initStates domain now sellers).Secures (fun _ _ => True) store := by
  induction sellers generalizing store with
  | nil => exact .pure trivial
  | cons seller rest ih =>
    obtain ⟨here, there⟩ := List.forall_mem_cons.mp stored
    have added : (attempt domain (.initState seller.sellerId)
        (.addState (.initial seller now))).Secures (fun _ _ => True) store := by
      apply attempt_secures
      intro later grown
      have present : Table.contains (Catalog.State.initial seller now).key later.sellers :=
        grown.contains_seller here
      obtain ⟨added, answered⟩ := answer_addState present
      exact ⟨fun _ => ⟨added, congrArg Prod.fst answered⟩, fun _ => trivial⟩
    refine added.bind fun result middle grown _ => ?_
    have restStored : Stored rest store := there
    refine (ih (restStored.extends grown)).bind fun log last _ _ => ?_
    exact .pure trivial

theorem writePlan_secures {plan : Plan} {listed : Nat} (known : Stored plan.toUpdate store) :
    (writePlan scope now listed plan).Secures (fun _ _ => True) store := by
  refine insert_secures.bind fun inserted middle grown arrived => ?_
  refine (update_secures (known.extends grown)).bind fun updated next grown _ => ?_
  have present : Stored plan.toInsert next := arrived.extends grown
  dsimp only
  split
  · refine (initStates_secures present).bind fun log last _ _ => ?_
    refine deactivate_secures.bind fun deactivated last _ _ => ?_
    exact .pure trivial
  · have silent : (pure [] : Program (List Event)).Secures (fun _ _ => True) next := .pure trivial
    refine silent.bind fun log last _ _ => ?_
    refine deactivate_secures.bind fun deactivated last _ _ => ?_
    exact .pure trivial

end Writes

theorem syncDomain_secures (scope : Scope) (now : Time.Instant)
    (fetched : Except Failure (List Subscriber)) (store : Store) :
    (syncDomain scope now fetched).Secures (fun _ _ => True) store := by
  cases fetched with
  | error failure => exact .pure trivial
  | ok snapshot =>
    have seen : (Program.perform (.active scope)).Secures
        (fun reply middle => middle.activeSellers scope = reply) store := by
      refine .perform fun later _ => ⟨fun write => ?_, rfl⟩
      exact absurd write Bool.false_ne_true
    refine seen.bind fun reply middle _ read => ?_
    cases reply with
    | error failure => exact .pure trivial
    | ok active =>
      have among : lastOfEachId active ⊆ active := fun _ => mem_of_mem_lastOfEachId
      have known : Stored (planOf scope now snapshot (lastOfEachId active)).toUpdate middle :=
        fun seller member => updates_stored read among member
      refine (writePlan_secures known).bind fun outcome last _ _ => ?_
      exact .pure trivial

def isWriteFailure : Event → Bool
  | .stepFailed _ .fetchRegistry _ => false
  | .stepFailed _ .fetchLocal _ => false
  | .stepFailed .. => true
  | _ => false

theorem complaint_of_unfailing {calls : List (Call × Option Failure)}
    (unfailing : ∀ made ∈ calls, made.1.isWrite → made.2 = none) {event : Event}
    (told : event ∈ complaints (madeOf domain calls)) : isWriteFailure event = false := by
  obtain ⟨made, member, complained⟩ := List.mem_filterMap.mp told
  obtain ⟨⟨call, failure⟩, called, rfl⟩ := List.mem_map.mp member
  obtain ⟨failure, failed, rfl⟩ := Option.map_eq_some_iff.mp complained
  cases call with
  | active scope => rfl
  | insert sellers | update sellers | addState state | deactivate ids scope time =>
    cases failed.symm.trans (unfailing _ called rfl)

-- Whatever calls others make between those of a run, no write of the run fails: no update finds a
-- row missing, and no state its seller. So it is beside any other program, another run or several.
theorem writes_unfailing (scope : Scope) (now : Time.Instant)
    (fetched : Except Failure (List Subscriber)) (store : Store) :
    (∀ others, ∀ made ∈ (syncDomain scope now fetched).calls answerAmid (others, store),
      made.1.isWrite → made.2 = none) ∧
      ∀ {β : Type} (other : Program β) (outcome : Outcome) (b : β) (after : Store),
        Interleaved Store.answer (syncDomain scope now fetched) other store outcome b after →
          outcome.log.filter isWriteFailure = [] := by
  have unfailing (others : List (List Call)) :=
    (syncDomain_secures scope now fetched store).unfailing others
  refine ⟨unfailing, ?_⟩
  intro β other outcome b after interleaved
  obtain ⟨others, rfl⟩ := interleaved.amid
  rw [List.filter_eq_nil_iff]
  intro event told
  rw [Bool.not_eq_true]
  let turn : Turn := ⟨scope, now, ⟨fetched, []⟩⟩
  obtain ⟨skipped, log⟩ := turn.log_made answerAmid (others, store)
  change event ∈ (turn.program.run answerAmid (others, store)).1.log at told
  rw [log] at told
  rcases List.mem_append.mp told with skip | complaint
  · obtain ⟨entry, _, rfl⟩ := List.mem_map.mp skip
    rfl
  · unfold Turn.made complaints at complaint
    cases fetched with
    | error failure =>
      cases List.mem_singleton.mp complaint
      rfl
    | ok snapshot => exact complaint_of_unfailing (unfailing others) complaint

-- After the run has read, others deactivate everybody and bring back one seller.
def sampleOthers : List (List Call) :=
  [[], [.deactivate ["A", "B"] sampleScope laterTime],
    [.insert [(sampleEntry "B" "").toSeller sampleScope laterTime]]]

theorem sampleStore_undisturbed :
    (∃ made ∈ (syncDomain sampleScope laterTime (.ok sampleSnapshot)).calls answerAmid
        (sampleOthers, sampleStore),
      isUpdate made.1 ∧ made.1.isWrite ∧ made.2 = none) ∧
      ∃ outcome other after,
        Interleaved Store.answer (syncDomain sampleScope laterTime (.ok sampleSnapshot))
          (syncDomain sampleScope laterTime (.ok [])) sampleStore outcome other after ∧
        outcome.log.filter isWriteFailure = [] := by
  obtain ⟨alone, beside⟩ :=
    writes_unfailing sampleScope laterTime (.ok sampleSnapshot) sampleStore
  constructor
  · obtain ⟨made, member, update, write⟩ :
        ∃ made ∈ (syncDomain sampleScope laterTime (.ok sampleSnapshot)).calls answerAmid
          (sampleOthers, sampleStore), isUpdate made.1 ∧ made.1.isWrite := by
      decide +kernel
    exact ⟨made, member, update, write, alone sampleOthers made member write⟩
  · obtain ⟨outcome, other, after, mixed⟩ : ∃ outcome other after,
        Interleaved Store.answer (syncDomain sampleScope laterTime (.ok sampleSnapshot))
          (syncDomain sampleScope laterTime (.ok [])) sampleStore outcome other after :=
      ⟨_, _, _, .left (.right (.sequential _ _ _))⟩
    exact ⟨outcome, other, after, mixed, beside _ outcome other after mixed⟩

end SellerDirectory.Sync
