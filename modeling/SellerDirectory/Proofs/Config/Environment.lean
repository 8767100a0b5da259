import SellerDirectory.Proofs.Config.Variable
import SellerDirectory.Proofs.Signing.PrivateKey
import SellerDirectory.Proofs.Text.Parts
import SellerDirectory.Signing.Signer

-- Which environments make a configuration, what it is made of, and what is wrong with the others.

namespace SellerDirectory.Config

open Signing Text Text.Numeral

section Environments

variable {lookup other : String → Option String} {config config' : Config}

def countLimits : List (String × Nat) :=
  [("REGISTRY_TIMEOUT_SECS", maxUnsigned64), ("REGISTRY_MAX_RETRIES", maxUnsigned32),
    ("REGISTRY_BACKOFF_SECS", maxUnsigned64), ("SYNC_INTERVAL_SECS", maxUnsigned64)]

def AllReadable (lookup : String → Option String) (limits : List (String × Nat)) : Prop :=
  ∀ count ∈ limits, IsReadable lookup count.1 count.2

instance (lookup : String → Option String) (limits : List (String × Nat)) :
    Decidable (AllReadable lookup limits) :=
  inferInstanceAs (Decidable (∀ _ ∈ _, _))

structure Reads (lookup : String → Option String) (config : Config) : Prop where
  databasePath : Settles lookup "DATABASE_PATH" "registry_sync.db" Eq config.databasePath
  registryUrl : Settles lookup "REGISTRY_URL" "https://preprod.registry.ondc.org/v2.0/lookup" Eq
    config.registryUrl
  privateKey : Settles lookup "PRIVATE_KEY" none (some · = ·) config.privateKey
  subscriberId : Settles lookup "SUBSCRIBER_ID" none (some · = ·) config.subscriberId
  uniqueKeyId : Settles lookup "UNIQUE_KEY_ID" none (some · = ·) config.uniqueKeyId
  environment : Settles lookup "REGISTRY_ENV" "preprod" Eq config.environment
  domains : Settles lookup "DOMAINS" defaultDomains (parts · = ·) config.domains
  timeoutSeconds : Settles lookup "REGISTRY_TIMEOUT_SECS" 30 (IsCount maxUnsigned64)
    config.retry.timeoutSeconds
  retries : Settles lookup "REGISTRY_MAX_RETRIES" 3 (IsCount maxUnsigned32) config.retry.retries
  backoffSeconds : Settles lookup "REGISTRY_BACKOFF_SECS" 5 (IsCount maxUnsigned64)
    config.retry.backoffSeconds
  intervalSeconds : Settles lookup "SYNC_INTERVAL_SECS" 21600 (IsCount maxUnsigned64)
    config.intervalSeconds
  bindAddress : Settles lookup "BIND_ADDR" "0.0.0.0:8080" Eq config.bindAddress

def FirstUnreadable (lookup : String → Option String) (name text : String) : Prop :=
  ∃ before limit after, countLimits = before ++ (name, limit) :: after ∧
    AllReadable lookup before ∧ ¬ IsReadable lookup name limit ∧ lookup name = some text

inductive Verdict (lookup : String → Option String) : Except Failure Config → Prop where
  | refused {name text : String} (first : FirstUnreadable lookup name text) :
      Verdict lookup (.error (.notACount name (trim text)))
  | zero (readable : AllReadable lookup countLimits)
      (zero : SetsZero lookup "SYNC_INTERVAL_SECS") : Verdict lookup (.error .zeroInterval)
  | made {config : Config} (readable : AllReadable lookup countLimits)
      (nonzero : ¬ SetsZero lookup "SYNC_INTERVAL_SECS") (reads : config.Reads lookup) :
      Verdict lookup (.ok config)

theorem Verdict.of_error {before after : List (String × Nat)} {name : String} {limit default : Nat}
    {failure : Failure} (earlier : AllReadable lookup before)
    (order : countLimits = before ++ (name, limit) :: after)
    (refused : count lookup name limit default = .error failure) :
    Verdict lookup (.error failure) := by
  obtain ⟨text, found, unreadable, rfl⟩ := count_eq_error refused
  exact .refused ⟨before, limit, after, order, earlier, unreadable, found⟩

theorem FirstUnreadable.not_readable {name text : String}
    (first : FirstUnreadable lookup name text) :
    ¬ AllReadable lookup countLimits := by
  intro readable
  obtain ⟨before, limit, after, order, _, unreadable, _⟩ := first
  refine unreadable (readable (name, limit) ?_)
  rw [order]
  exact List.mem_append_right _ List.mem_cons_self

theorem settles_text (lookup : String → Option String) (name default : String) :
    Settles lookup name default Eq ((setting? lookup name).getD default) :=
  .of_setting? (fun unset => by rw [unset]; rfl) fun text given => by rw [given]; rfl

theorem settles_setting? (lookup : String → Option String) (name : String) :
    Settles lookup name none (some · = ·) (setting? lookup name) :=
  .of_setting? id fun _ given => given.symm

theorem settles_domains (lookup : String → Option String) :
    Settles lookup "DOMAINS" defaultDomains (parts · = ·)
      (((setting? lookup "DOMAINS").map parts).getD defaultDomains) :=
  .of_setting? (fun unset => by rw [unset]; rfl) fun text given => by rw [given]; rfl

theorem AllReadable.append {before : List (String × Nat)} {name : String} {limit default n : Nat}
    (earlier : AllReadable lookup before)
    (settles : Settles lookup name default (IsCount limit) n) :
    AllReadable lookup (before ++ [(name, limit)]) :=
  List.forall_mem_append.mpr ⟨earlier, List.forall_mem_singleton.mpr settles.readable⟩

-- The counts are read in order, and the first one that is refused ends the reading.
theorem verdict (lookup : String → Option String) : Verdict lookup (ofLookup lookup) := by
  have none : AllReadable lookup [] := List.forall_mem_nil _
  unfold ofLookup
  dsimp only
  cases first : count lookup "REGISTRY_TIMEOUT_SECS" maxUnsigned64
      RetryPolicy.standard.timeoutSeconds with
  | error failure => exact .of_error none rfl first
  | ok timeoutSeconds =>
  have timeout := count_eq_ok first
  have one := AllReadable.append none timeout
  cases second : count lookup "REGISTRY_MAX_RETRIES" maxUnsigned32 RetryPolicy.standard.retries with
  | error failure => exact .of_error one rfl second
  | ok retryCount =>
  have retries := count_eq_ok second
  have two := one.append retries
  cases third : count lookup "REGISTRY_BACKOFF_SECS" maxUnsigned64
      RetryPolicy.standard.backoffSeconds with
  | error failure => exact .of_error two rfl third
  | ok backoffSeconds =>
  have backoff := count_eq_ok third
  have three := two.append backoff
  cases fourth : count lookup "SYNC_INTERVAL_SECS" maxUnsigned64 21600 with
  | error failure => exact .of_error three rfl fourth
  | ok intervalSeconds =>
  have interval := count_eq_ok fourth
  have all := three.append interval
  have zero := interval.eq_zero (by decide)
  change Verdict lookup (if intervalSeconds = 0 then _ else _)
  split
  · next nothing => exact .zero all (zero.mp nothing)
  · next nonzero =>
    exact .made all (mt zero.mpr nonzero)
      { databasePath := settles_text _ _ _
        registryUrl := settles_text _ _ _
        privateKey := settles_setting? _ _
        subscriberId := settles_setting? _ _
        uniqueKeyId := settles_setting? _ _
        environment := settles_text _ _ _
        domains := settles_domains _
        timeoutSeconds := timeout
        retries := retries
        backoffSeconds := backoff
        intervalSeconds := interval
        bindAddress := settles_text _ _ _ }

theorem reads_of_ofLookup (made : ofLookup lookup = .ok config) : config.Reads lookup := by
  have fate := verdict lookup
  rw [made] at fate
  cases fate with
  | made _ _ reads => exact reads

structure Tidy (config : Config) : Prop where
  databasePath : IsTidy config.databasePath
  registryUrl : IsTidy config.registryUrl
  privateKey : ∀ text ∈ config.privateKey, IsTidy text
  subscriberId : ∀ text ∈ config.subscriberId, IsTidy text
  uniqueKeyId : ∀ text ∈ config.uniqueKeyId, IsTidy text
  environment : IsTidy config.environment
  domains : ∀ domain ∈ config.domains, IsTidy domain
  bindAddress : IsTidy config.bindAddress

theorem Settles.tidy {name default value : String}
    (settles : Settles lookup name default Eq value) (tidy : IsTidy default) : IsTidy value := by
  cases settles with
  | unset => exact tidy
  | given _ dark read => exact read ▸ isTidy_trim dark

theorem Settles.tidy_of_some {name : String} {value : Option String}
    (settles : Settles lookup name none (some · = ·) value) : ∀ text ∈ value, IsTidy text := by
  cases settles with
  | unset => exact fun _ none => absurd none (Option.not_mem_none _)
  | given _ dark read =>
    intro text there
    cases read.trans there
    exact isTidy_trim dark

theorem defaultDomains_tidy : ∀ domain ∈ defaultDomains, IsTidy domain := by
  decide +kernel

theorem Reads.tidy (reads : config.Reads lookup) : config.Tidy where
  databasePath := reads.databasePath.tidy (by decide +kernel)
  registryUrl := reads.registryUrl.tidy (by decide +kernel)
  privateKey := reads.privateKey.tidy_of_some
  subscriberId := reads.subscriberId.tidy_of_some
  uniqueKeyId := reads.uniqueKeyId.tidy_of_some
  environment := reads.environment.tidy (by decide +kernel)
  domains := by
    rcases unset_or_given lookup "DOMAINS" with unset | ⟨text, found, dark⟩
    · rw [reads.domains.of_unset unset]
      exact defaultDomains_tidy
    · rw [← reads.domains.of_given found dark]
      exact fun _ member => (isElement_of_mem_parts member).tidy
  bindAddress := reads.bindAddress.tidy (by decide +kernel)

-- Each setting is the same in two configurations if its own variable is.
structure Separate (lookup other : String → Option String) (config config' : Config) : Prop where
  databasePath : Alike lookup other "DATABASE_PATH" → config.databasePath = config'.databasePath
  registryUrl : Alike lookup other "REGISTRY_URL" → config.registryUrl = config'.registryUrl
  privateKey : Alike lookup other "PRIVATE_KEY" → config.privateKey = config'.privateKey
  subscriberId : Alike lookup other "SUBSCRIBER_ID" → config.subscriberId = config'.subscriberId
  uniqueKeyId : Alike lookup other "UNIQUE_KEY_ID" → config.uniqueKeyId = config'.uniqueKeyId
  environment : Alike lookup other "REGISTRY_ENV" → config.environment = config'.environment
  domains : Alike lookup other "DOMAINS" → config.domains = config'.domains
  timeoutSeconds : Alike lookup other "REGISTRY_TIMEOUT_SECS" →
    config.retry.timeoutSeconds = config'.retry.timeoutSeconds
  retries : Alike lookup other "REGISTRY_MAX_RETRIES" →
    config.retry.retries = config'.retry.retries
  backoffSeconds : Alike lookup other "REGISTRY_BACKOFF_SECS" →
    config.retry.backoffSeconds = config'.retry.backoffSeconds
  intervalSeconds : Alike lookup other "SYNC_INTERVAL_SECS" →
    config.intervalSeconds = config'.intervalSeconds
  bindAddress : Alike lookup other "BIND_ADDR" → config.bindAddress = config'.bindAddress

section Same

variable {α : Type} {name : String}

theorem Settles.same {default value value' : α} {f : String → α}
    (settles : Settles lookup name default (f · = ·) value)
    (settles' : Settles other name default (f · = ·) value') (alike : Alike lookup other name) :
    value = value' :=
  (settles.alike alike).once settles' fun _ _ _ first second => first.symm.trans second

theorem Settles.same_count {limit default n n' : Nat}
    (settles : Settles lookup name default (IsCount limit) n)
    (settles' : Settles other name default (IsCount limit) n') (alike : Alike lookup other name) :
    n = n' :=
  (settles.alike alike).once settles' (IsCount.once limit)

end Same

theorem Reads.separate (reads : config.Reads lookup) (reads' : config'.Reads other) :
    Separate lookup other config config' where
  databasePath := reads.databasePath.same reads'.databasePath
  registryUrl := reads.registryUrl.same reads'.registryUrl
  privateKey := reads.privateKey.same reads'.privateKey
  subscriberId := reads.subscriberId.same reads'.subscriberId
  uniqueKeyId := reads.uniqueKeyId.same reads'.uniqueKeyId
  environment := reads.environment.same reads'.environment
  domains := reads.domains.same reads'.domains
  timeoutSeconds := reads.timeoutSeconds.same_count reads'.timeoutSeconds
  retries := reads.retries.same_count reads'.retries
  backoffSeconds := reads.backoffSeconds.same_count reads'.backoffSeconds
  intervalSeconds := reads.intervalSeconds.same_count reads'.intervalSeconds
  bindAddress := reads.bindAddress.same reads'.bindAddress

-- Only the variables that are named are looked at, and what is blank is as good as absent.
theorem ofLookup_alike (alike : ∀ name ∈ variableNames, Alike lookup other name) :
    ofLookup lookup = ofLookup other := by
  have same : ∀ name ∈ variableNames, setting? lookup name = setting? other name :=
    fun name member => setting?_alike (alike name member)
  simp (disch := decide) only [ofLookup, count, same]

end Environments

section Signing

variable {scheme : Scheme} {lookup : String → Option String} {config : Config}

theorem ofConfig_eq_ok {signer : Signer} :
    Signer.ofConfig scheme config = .ok signer ↔
      config.subscriberId = some signer.subscriberId ∧
        config.uniqueKeyId = some signer.uniqueKeyId ∧
          ∃ key, config.privateKey = some key ∧ seedOfText scheme key = .ok signer.seed := by
  unfold Signer.ofConfig Signer.ofKey
  constructor
  · intro made
    split at made
    · cases made
    · cases made
    · next subscriberId uniqueKeyId subscriber unique =>
      split at made
      · cases made
      · next key given =>
        obtain ⟨seed, read, rfl⟩ := map_ok.mp made
        exact ⟨subscriber, unique, key, given, read⟩
  · rintro ⟨subscriber, unique, key, given, read⟩
    rw [subscriber, unique, given]
    exact map_ok.mpr ⟨_, read, rfl⟩

theorem Settles.isSome {name : String} {value : Option String}
    (settles : Settles lookup name none (some · = ·) value) :
    (∃ text, value = some text) ↔ ¬ IsUnset lookup name := by
  rcases unset_or_given lookup name with unset | ⟨text, found, dark⟩
  · rw [settles.of_unset unset]
    exact iff_of_false (by rintro ⟨_, ⟨⟩⟩) (not_not_intro unset)
  · exact iff_of_true ⟨_, (settles.of_given found dark).symm⟩ (not_unset found dark)

theorem Settles.exists_key {name : String} {value : Option String}
    (settles : Settles lookup name none (some · = ·) value) :
    (∃ key seed, value = some key ∧ seedOfText scheme key = .ok seed) ↔
      ∃ key, lookup name = some key ∧ ¬ isBlankText key ∧
        ∃ seed, seedOfText scheme key = .ok seed := by
  rcases unset_or_given lookup name with unset | ⟨text, found, dark⟩
  · rw [settles.of_unset unset]
    refine iff_of_false (by rintro ⟨_, _, ⟨⟩, _⟩) ?_
    rintro ⟨key, found, dark, _⟩
    exact not_unset found dark unset
  · rw [← settles.of_given found dark]
    constructor
    · rintro ⟨_, seed, ⟨⟩, read⟩
      exact ⟨text, found, dark, seed, (seedOfText_trim text).symm.trans read⟩
    · rintro ⟨key, there, _, seed, read⟩
      cases found.symm.trans there
      exact ⟨_, seed, rfl, (seedOfText_trim text).trans read⟩

theorem Reads.signs (reads : config.Reads lookup) (scheme : Scheme) (body : List UInt8)
    (created lifetime : Int) :
    (∃ signer, Signer.ofConfig scheme config = .ok signer) ↔
      ¬ IsUnset lookup "SUBSCRIBER_ID" ∧ ¬ IsUnset lookup "UNIQUE_KEY_ID" ∧
        ∃ key, lookup "PRIVATE_KEY" = some key ∧ ¬ isBlankText key ∧
          ∃ signature, signBody scheme key body created lifetime = .ok signature := by
  simp only [signBody_accepts, ← reads.subscriberId.isSome, ← reads.uniqueKeyId.isSome,
    ← reads.privateKey.exists_key, ofConfig_eq_ok]
  constructor
  · rintro ⟨signer, subscriber, unique, key, given, read⟩
    exact ⟨⟨_, subscriber⟩, ⟨_, unique⟩, key, signer.seed, given, read⟩
  · rintro ⟨⟨subscriberId, subscriber⟩, ⟨uniqueKeyId, unique⟩, key, seed, given, read⟩
    exact ⟨⟨subscriberId, uniqueKeyId, seed⟩, subscriber, unique, key, given, read⟩

end Signing

-- An environment makes a configuration if each count that it gives reads, and the interval is not
-- zero; otherwise it is refused for the first count that does not read, or else for the interval.
-- What is made is tidy, and each setting hangs on its own variable only, whether that is blank or
-- absent. It has a signer if both ids are given and a key that signs.
theorem ofLookup_settled (lookup : String → Option String) :
    ((∃ config, ofLookup lookup = .ok config) ↔
      AllReadable lookup countLimits ∧ ¬ SetsZero lookup "SYNC_INTERVAL_SECS") ∧
    (¬ AllReadable lookup countLimits →
      ∃ name text failure, FirstUnreadable lookup name text ∧
        ofLookup lookup = .error failure ∧ failure.kind = .configuration ∧
        failure.detail =
          name ++ " must be a non-negative integer, got " ++ quoted (trim text)) ∧
    (AllReadable lookup countLimits →
      SetsZero lookup "SYNC_INTERVAL_SECS" →
        ∃ failure, ofLookup lookup = .error failure ∧ failure.kind = .configuration ∧
          failure.detail = "SYNC_INTERVAL_SECS must be greater than zero") ∧
    (∀ config, ofLookup lookup = .ok config →
      config.Reads lookup ∧ config.Tidy ∧
        (∀ other config', ofLookup other = .ok config' → Separate lookup other config config') ∧
        ∀ scheme body created lifetime,
          (∃ signer, Signer.ofConfig scheme config = .ok signer) ↔
            ¬ IsUnset lookup "SUBSCRIBER_ID" ∧ ¬ IsUnset lookup "UNIQUE_KEY_ID" ∧
              ∃ key, lookup "PRIVATE_KEY" = some key ∧ ¬ isBlankText key ∧
                ∃ signature, signBody scheme key body created lifetime = .ok signature) ∧
    ∀ other, (∀ name ∈ variableNames, Alike lookup other name) →
      ofLookup lookup = ofLookup other := by
  have fate := verdict lookup
  generalize made : ofLookup lookup = result at fate
  refine ⟨?_, ?_, ?_, ?_, fun other alike => made ▸ ofLookup_alike alike⟩
  · cases fate with
    | refused first => exact iff_of_false (by rintro ⟨_, ⟨⟩⟩) fun both => first.not_readable both.1
    | zero _ zero => exact iff_of_false (by rintro ⟨_, ⟨⟩⟩) fun both => both.2 zero
    | made readable nonzero _ => exact iff_of_true ⟨_, rfl⟩ ⟨readable, nonzero⟩
  · intro unreadable
    cases fate with
    | refused first => exact ⟨_, _, _, first, rfl, rfl, rfl⟩
    | zero readable _ => exact absurd readable unreadable
    | made readable _ _ => exact absurd readable unreadable
  · intro readable zero
    cases fate with
    | refused first => exact absurd readable first.not_readable
    | zero _ _ => exact ⟨_, rfl, rfl, rfl⟩
    | made _ nonzero _ => exact absurd zero nonzero
  · intro config found
    have reads := reads_of_ofLookup (made.trans found)
    exact ⟨reads, reads.tidy, fun other config' made' => reads.separate (reads_of_ofLookup made'),
      reads.signs⟩

-- A count with a sign and zeros in front, one at its limit, one that is blank, and a loose list.
def paddedVariables (name : String) : Option String :=
  [("REGISTRY_TIMEOUT_SECS", "\u2003+007\n"), ("REGISTRY_MAX_RETRIES", "4294967295"),
    ("REGISTRY_BACKOFF_SECS", "\t"), ("DOMAINS", " ONDC:RET10 , ,ONDC:RET12"),
    ("SUBSCRIBER_ID", " buyer.example "), ("UNIQUE_KEY_ID", "key-1"),
    ("PRIVATE_KEY", risingSeedText)].lookup name

def paddedConfig : Config where
  databasePath := "registry_sync.db"
  registryUrl := "https://preprod.registry.ondc.org/v2.0/lookup"
  privateKey := some (trim risingSeedText)
  subscriberId := some "buyer.example"
  uniqueKeyId := some "key-1"
  environment := "preprod"
  domains := ["ONDC:RET10", "ONDC:RET12"]
  retry := ⟨7, 4294967295, 5⟩
  intervalSeconds := 21600
  bindAddress := "0.0.0.0:8080"

def bareVariables (name : String) : Option String :=
  if name = "REGISTRY_BACKOFF_SECS" then none
  else if name = "LOG_LEVEL" then some "debug"
  else paddedVariables name

-- One more than the limit, in front of an interval that would be refused as well.
def excessiveVariables (name : String) : Option String :=
  [("REGISTRY_MAX_RETRIES", " 4294967296"), ("SYNC_INTERVAL_SECS", "-1")].lookup name

def idleVariables (name : String) : Option String :=
  [("REGISTRY_BACKOFF_SECS", "0"), ("SYNC_INTERVAL_SECS", "+00")].lookup name

theorem paddedVariables_settled :
    ofLookup paddedVariables = .ok paddedConfig ∧ paddedConfig.Reads paddedVariables ∧
      (∃ signer, Signer.ofConfig ed25519 paddedConfig = .ok signer) ∧
      ofLookup paddedVariables = ofLookup bareVariables ∧
      (∃ name text failure, FirstUnreadable excessiveVariables name text ∧
        ofLookup excessiveVariables = .error failure ∧ failure.kind = .configuration ∧
        failure.detail =
          name ++ " must be a non-negative integer, got " ++ quoted (trim text)) ∧
      (∃ failure, ofLookup idleVariables = .error failure ∧ failure.kind = .configuration ∧
        failure.detail = "SYNC_INTERVAL_SECS must be greater than zero") := by
  have made : ofLookup paddedVariables = .ok paddedConfig := rfl
  have accepted : ∃ signature, signBody ed25519 risingSeedText [] 1700000000 30 = .ok signature :=
    signBody_accepts.mpr ⟨risingSeed, seedOfText_eq_ok.mpr ⟨_, by decide +kernel, .alone rfl⟩⟩
  obtain ⟨_, _, _, settled, blank⟩ := ofLookup_settled paddedVariables
  obtain ⟨reads, _, _, signs⟩ := settled paddedConfig made
  have given := (signs ed25519 [] 1700000000 30).mpr
    ⟨by decide +kernel, by decide +kernel, risingSeedText, rfl, by decide +kernel, accepted⟩
  obtain ⟨_, unreadable, _⟩ := ofLookup_settled excessiveVariables
  obtain ⟨_, _, zero, _⟩ := ofLookup_settled idleVariables
  exact ⟨made, reads, given, blank bareVariables (by decide +kernel),
    unreadable (by decide +kernel), zero (by decide +kernel) (by decide +kernel)⟩

end SellerDirectory.Config
