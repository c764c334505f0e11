/-
Module: TallyKeep.Proofs.PollingGate
Layer: Proofs
Purpose: What the lock of the backend and the gate of the poller keep apart and bring together,
  whatever is lost between them and in whatever order they move.
Trusted boundary: none
Main exports: KeyAfter, AdmittedUnlocked, polls_unlocked_of_reached, gateAfter, Announced,
  gate_of_reached, Due, Polls, Calm, CallsFor, polled_of_callsFor
-/
import TallyKeep.PollingSystem
import TallyKeep.Proofs.PollCycles
import TallyKeep.Proofs.SecretStore

namespace TallyKeep

open Stepwise Transition

variable {Key : Type} {cryptography : Cryptography Key}

/-! ### The key in memory -/

/-- A call leaves the key in memory as it was. -/
def KeepsKey {α : Type} (call : StoreCall Key α) : Prop :=
  ∀ key, Ensures (fun store => store.key = key) call (fun _ store => store.key = key)
    fun store => store.key = key

/-- A call holds a key where it returns, and leaves the one that was held where it raises. -/
def KeyAfter (call : StoreCall Key PUnit) : Prop :=
  ∀ key, Ensures (fun store => store.key = key) call (fun _ store => store.key.isSome = true)
    fun store => store.key = key

namespace KeepsKey

variable {α β : Type}

theorem raise (error : PyError) : KeepsKey (Stepwise.raise error : StoreCall Key α) :=
  fun _ => Ensures.raise fun _ held => held

theorem pure (a : α) : KeepsKey (Pure.pure a : StoreCall Key α) :=
  fun _ => Ensures.pure fun _ held => held

theorem lift (outcome : Except PyError α) : KeepsKey (Stepwise.lift outcome : StoreCall Key α) :=
  fun _ => Ensures.lift (fun _ held _ _ => held) fun _ held => held

theorem read (seen : SecretStore Key → α) : KeepsKey (Stepwise.read seen : StoreCall Key α) :=
  fun _ => Ensures.read fun _ held => held

/-- What changes the tables only keeps the key. -/
theorem write {change : SecretStore Key → SecretStore Key}
    (keeps : ∀ store, (change store).key = store.key) :
    KeepsKey (Stepwise.write change : StoreCall Key PUnit) :=
  fun _ => Ensures.write fun store held => (keeps store).trans held

/-- A sequence keeps the key when its parts do. -/
theorem bind {first : StoreCall Key α} {next : α → StoreCall Key β} (keeps : KeepsKey first)
    (later : ∀ a, KeepsKey (next a)) : KeepsKey (first >>= next) :=
  fun key => Ensures.bind (fun _ store => store.key = key) (keeps key) fun a => later a key

/-- What keeps the key, followed by what holds one, holds one. -/
theorem keyAfter {first : StoreCall Key α} {next : α → StoreCall Key PUnit}
    (keeps : KeepsKey first) (holds : ∀ a, KeyAfter (next a)) : KeyAfter (first >>= next) :=
  fun key => Ensures.bind (fun _ store => store.key = key) (keeps key) fun a => holds a key

end KeepsKey

/-- An error leaves the key as it was. -/
theorem keyAfter_raise (error : PyError) : KeyAfter (raise error : StoreCall Key PUnit) :=
  fun _ => Ensures.raise fun _ held => held

/-- A key that is held is there after. -/
theorem keyAfter_holdKey (key : Key) : KeyAfter (holdKey (some key) : StoreCall Key PUnit) :=
  fun _ => Ensures.write fun _ _ => rfl

theorem keepsKey_readKdfParameters :
    KeepsKey (readKdfParameters : StoreCall Key (Option KdfParameters)) :=
  (KeepsKey.read _).bind fun loaded => KeepsKey.lift loaded

theorem keepsKey_storeKdfParameters (parameters : KdfParameters) :
    KeepsKey (storeKdfParameters parameters : StoreCall Key PUnit) := by
  apply (KeepsKey.read _).bind
  intro stored
  cases stored with
  | some row => exact KeepsKey.raise _
  | none => exact KeepsKey.write fun _ => rfl

theorem keepsKey_storeEncrypted (reference : String) (secret : EncryptedSecret) :
    KeepsKey (storeEncrypted reference secret : StoreCall Key PUnit) := KeepsKey.write fun _ => rfl

/-- Reading the canary derives a key and keeps none. -/
theorem keepsKey_readCanary (passphrase : String) :
    KeepsKey (readCanary cryptography passphrase) := by
  apply keepsKey_readKdfParameters.bind
  intro parameters
  cases parameters with
  | none => exact KeepsKey.raise _
  | some parameters =>
      apply (KeepsKey.lift _).bind
      intro derived
      apply (KeepsKey.read _).bind
      intro canary
      cases canary with
      | none => exact KeepsKey.raise _
      | some canary => exact KeepsKey.pure _

/-- Initialising the store ends with the key held. -/
theorem keyAfter_initializeStore (salt : Salt) (nonce : Nonce) (passphrase : String) :
    KeyAfter (initializeStore cryptography salt nonce passphrase) := by
  apply (keepsKey_readKdfParameters.bind fun _ => KeepsKey.pure _).keyAfter
  intro initialized
  cases initialized with
  | true => exact keyAfter_raise _
  | false =>
      apply (KeepsKey.lift _).keyAfter
      intro key
      apply (keepsKey_storeKdfParameters _).keyAfter
      intro _
      apply (KeepsKey.lift _).keyAfter
      intro canary
      apply (keepsKey_storeEncrypted _ _).keyAfter
      exact fun _ => keyAfter_holdKey key

/-- Unlocking the store ends with the key held. -/
theorem keyAfter_unlock (passphrase : String) : KeyAfter (unlock cryptography passphrase) := by
  apply (keepsKey_readCanary passphrase).keyAfter
  rintro ⟨key, canary⟩
  dsimp only
  cases decrypt cryptography canary key with
  | error error =>
      by_cases wrong : error.cls = .invalidTag
      · simp only [if_pos wrong]
        exact keyAfter_raise _
      · simp only [if_neg wrong]
        exact keyAfter_raise _
  | ok decrypted =>
      by_cases other : decrypted ≠ canaryPlaintext
      · simp only [if_pos other]
        exact keyAfter_raise _
      · simp only [if_neg other]
        exact keyAfter_holdKey key

/-- A call that returns has unlocked the store. -/
theorem KeyAfter.unlocked {call : StoreCall Key PUnit} (holds : KeyAfter call)
    {store : SecretStore Key} {done : PUnit} (returned : result call store = .ok done) :
    (final call store).isUnlocked = true := (holds store.key store rfl).1 done returned

/-- A call that raises leaves the lock as it was. -/
theorem KeyAfter.isUnlocked_of_error {call : StoreCall Key PUnit} (holds : KeyAfter call)
    {store : SecretStore Key} {error : PyError} (raised : result call store = .error error) :
    (final call store).isUnlocked = store.isUnlocked :=
  congrArg Option.isSome ((holds store.key store rfl).2 error raised)

/-! ### The endpoints that unlock -/

/-- The first-run setup unlocks where it says so, and otherwise leaves the lock as it was. -/
theorem postUnlockInitialize_isUnlocked (store : SecretStore Key) (salt : Salt) (nonce : Nonce)
    (passphrase : String) :
    (postUnlockInitialize cryptography store salt nonce passphrase).1.isUnlocked =
      (decide ((postUnlockInitialize cryptography store salt nonce passphrase).2 = .initialized) ||
        store.isUnlocked) := by
  rw [postUnlockInitialize]
  split
  · rfl
  · cases outcome : result (initializeStore cryptography salt nonce passphrase) store with
    | ok done =>
        exact (keyAfter_initializeStore salt nonce passphrase).unlocked outcome
    | error error =>
        have refused : concludeInitialize (.error error) ≠ .initialized := by
          rw [concludeInitialize]
          split <;> exact fun same => by cases same
        rw [decide_eq_false refused, Bool.false_or]
        exact (keyAfter_initializeStore salt nonce passphrase).isUnlocked_of_error outcome

/-- So does the unlock by phone. -/
theorem postPassphraseValidate_isUnlocked (limits : RateLimits) (request : ValidateRequest Key) :
    (postPassphraseValidate cryptography limits request).store.isUnlocked =
      (decide ((postPassphraseValidate cryptography limits request).answer = .valid) ||
        request.store.isUnlocked) := by
  rw [postPassphraseValidate]
  split
  · rfl
  · dsimp only
    split
    · rfl
    · cases outcome : result (unlock cryptography request.passphrase) request.store with
      | ok done => exact (keyAfter_unlock request.passphrase).unlocked outcome
      | error error =>
          have refused : ∀ (limits : RateLimits) (client : String),
              (concludeTry limits client (.error error)).2 ≠ .valid := by
            intro limits client
            rw [concludeTry]
            split
            · exact fun same => by cases same
            · split <;> exact fun same => by cases same
          rw [decide_eq_false (refused _ _), Bool.false_or]
          exact (keyAfter_unlock request.passphrase).isUnlocked_of_error outcome

/-- The store is unlocked after the route when it answers so, or was before. -/
theorem unlockInitialize_isUnlocked (s : PollingState Key) (salt : Salt) (nonce : Nonce)
    (passphrase : String) (announced : Bool) :
    (s.unlockInitialize cryptography salt nonce passphrase announced).store.isUnlocked =
      (decide ((postUnlockInitialize cryptography s.store salt nonce passphrase).2 =
        .initialized) || s.store.isUnlocked) :=
  postUnlockInitialize_isUnlocked s.store salt nonce passphrase

/-- The store is unlocked after the route when it answers `valid`, or was before. -/
theorem passphraseValidate_isUnlocked (s : PollingState Key) (request : ValidateRequest Key)
    (announced : Bool) :
    (s.passphraseValidate cryptography request announced).store.isUnlocked =
      (decide ((postPassphraseValidate cryptography s.limits
        { request with store := s.store }).answer = .valid) || s.store.isUnlocked) :=
  postPassphraseValidate_isUnlocked s.limits { request with store := s.store }

/-! ### Cycles and the lock -/

/-- A request is passed on only where the store is unlocked. -/
theorem mem_post {s : PollingState Key} {providerId posted : Uuid} {sent : Bool}
    (member : providerId ∈ (s.post posted sent).admitted) :
    providerId ∈ s.admitted ∨ s.store.isUnlocked = true := by
  rw [PollingState.post, workerAdmitted_eq] at member
  split at member
  · next passed => exact .inr (Bool.and_eq_true_iff.mp passed).2
  · exact .inl member

/-- What was admitted stays admitted when more is posted. -/
theorem mem_post_of_mem {s : PollingState Key} {providerId : Uuid} (posted : Uuid) (sent : Bool)
    (passed : providerId ∈ s.admitted) : providerId ∈ (s.post posted sent).admitted := by
  rw [PollingState.post]
  split
  · exact List.mem_append_left _ passed
  · exact passed

/-- The requests that were passed on find the store unlocked. -/
def AdmittedUnlocked (s : PollingState Key) : Prop := s.admitted ≠ [] → s.store.isUnlocked = true

/-- A posted poll was admitted by an unlocked store. -/
theorem AdmittedUnlocked.post {s : PollingState Key} (holds : AdmittedUnlocked s)
    (providerId : Uuid) (sent : Bool) : AdmittedUnlocked (s.post providerId sent) := by
  intro waiting
  obtain ⟨admitted, member⟩ := List.exists_mem_of_ne_nil _ waiting
  rcases mem_post member with before | unlocked
  · exact holds (List.ne_nil_of_mem before)
  · exact unlocked

/-- Every step keeps that polls are admitted by an unlocked store. -/
theorem AdmittedUnlocked.step {s : PollingState Key} (holds : AdmittedUnlocked s)
    (label : PollingLabel Key) : AdmittedUnlocked (pollingNext cryptography s label) := by
  cases label with
  | restart announced => exact fun waiting => absurd rfl waiting
  | unlockInitialize salt nonce passphrase announced =>
      intro waiting
      exact (unlockInitialize_isUnlocked s salt nonce passphrase announced).trans
        (by rw [holds waiting, Bool.or_true])
  | passphraseValidate request announced =>
      intro waiting
      exact (passphraseValidate_isUnlocked s request announced).trans
        (by rw [holds waiting, Bool.or_true])
  | tick listed =>
      rw [pollingNext]
      split <;> exact holds
  | emit announced =>
      rw [pollingNext]
      split <;> exact holds
  | deliver =>
      rw [pollingNext]
      split <;> exact holds
  | lose => exact holds
  | burst listed =>
      rw [pollingNext]
      split <;> exact holds
  | dispatch providerId sent =>
      rw [pollingNext]
      split
      · exact AdmittedUnlocked.post (by exact holds) providerId sent
      · exact holds
  | oneShot providerId sent => exact holds.post providerId sent
  | serve env providerId =>
      rw [pollingNext]
      split
      · next member => exact fun _ => holds (List.ne_nil_of_mem member)
      · exact holds
  | restartWorker => exact holds
  | elsewhere db secrets => exact holds

/-! ### Reading credentials -/

/-- What an unlocked store raises for a reference: that it has not got it, or that the reference or
    what is stored under it is not sound. -/
theorem readSecretText_error {store : SecretStore Key} (unlocked : store.isUnlocked = true)
    {reference : String} {error : PyError}
    (raised : readSecretText cryptography store reference = .error error) :
    error.cls = .keyError ∧ loadEncrypted store.database reference = none ∨
      error.cls = .valueError ∨ error.cls = .invalidTag := by
  obtain ⟨key, held⟩ := Option.isSome_iff_exists.mp unlocked
  rw [readSecretText] at raised
  by_cases reserved : reference = canaryReference
  · rw [reserved, result, getSecret, bind_apply_of_refuses (refuseReserved_canary store)] at raised
    cases raised
    exact .inr (.inl rfl)
  · rw [result, getSecret_apply held reserved] at raised
    cases stored : loadEncrypted store.database reference with
    | none =>
        rw [stored] at raised
        cases raised
        exact .inl ⟨rfl, rfl⟩
    | some encrypted =>
        rw [stored] at raised
        dsimp only at raised
        rw [decrypt] at raised
        split at raised
        · cases raised
          exact .inr (.inr rfl)
        · change decodeText _ = _ at raised
          rw [decodeText] at raised
          split at raised
          · cases raised
            exact .inr (.inl rfl)
          · cases raised

/-- Credentials that cannot be read fail on one of the references of the provider. -/
theorem readCredentials_error {custody : Custody} {provider : CustodialProviderRow}
    {error : PyError} (raised : readCredentials custody provider = .error error) :
    ∃ reference, (reference = provider.apiCredentialReference ∨
        reference = provider.apiSecretReference ∨
        provider.apiPassphraseReference = some reference) ∧
      custody.getSecret reference = .error error := by
  rw [readCredentials] at raised
  cases key : custody.getSecret provider.apiCredentialReference with
  | error first =>
      rw [key] at raised
      cases raised
      exact ⟨_, .inl rfl, key⟩
  | ok apiKey =>
      rw [key] at raised
      cases secret : custody.getSecret provider.apiSecretReference with
      | error second =>
          rw [secret] at raised
          cases raised
          exact ⟨_, .inr (.inl rfl), secret⟩
      | ok apiSecret =>
          rw [secret] at raised
          cases named : provider.apiPassphraseReference with
          | none =>
              rw [named] at raised
              cases raised
          | some reference =>
              rw [named] at raised
              change (if reference = "" then _ else _) = _ at raised
              split at raised
              · cases raised
              · cases passphrase : custody.getSecret reference with
                | error third =>
                    rw [passphrase] at raised
                    cases raised
                    exact ⟨reference, .inr (.inr rfl), passphrase⟩
                | ok apiPassphrase =>
                    rw [passphrase] at raised
                    cases raised

/-- In an unlocked process, secrets are reported as unavailable only where one is missing. -/
theorem missing_of_unavailable {store : SecretStore Key} (unlocked : store.isUnlocked = true)
    {env : PollEnv} {provider : ConnectedProviderRow}
    (unavailable : pollCredentials (env.onStore cryptography store) provider =
      .error ⟨.httpException, "Secrets unavailable"⟩) :
    ∃ reference, (reference = provider.apiCredentialReference ∨
        reference = provider.apiSecretReference ∨
        provider.apiPassphraseReference = some reference) ∧
      loadEncrypted store.database reference = none := by
  rw [pollCredentials] at unavailable
  split at unavailable
  · cases unavailable
  · next error raised =>
      obtain ⟨reference, own, failed⟩ := readCredentials_error raised
      rcases readSecretText_error unlocked failed with ⟨_, missing⟩ | value | tag
      · exact ⟨reference, own, missing⟩
      · rw [if_neg (by rw [value]; decide)] at unavailable
        rw [Except.error.injEq] at unavailable
        rw [unavailable] at value
        cases value
      · rw [if_neg (by rw [tag]; decide)] at unavailable
        rw [Except.error.injEq] at unavailable
        rw [unavailable] at tag
        cases tag

/-! ### The gate -/

/-- The gate of the poller once it has the events that are on their way. -/
def gateAfter (enabled : Bool) (channel : List PollerEvent) : Bool :=
  channel.foldl (fun enabled event => event.gate enabled) enabled

@[simp] theorem gateAfter_nil (enabled : Bool) : gateAfter enabled [] = enabled := rfl

@[simp] theorem gateAfter_cons (enabled : Bool) (event : PollerEvent)
    (channel : List PollerEvent) :
    gateAfter enabled (event :: channel) = gateAfter (event.gate enabled) channel := rfl

/-- The last event of the channel has the last word on the gate. -/
@[simp] theorem gateAfter_concat (enabled : Bool) (channel : List PollerEvent)
    (event : PollerEvent) :
    gateAfter enabled (channel ++ [event]) = event.gate (gateAfter enabled channel) := by
  rw [gateAfter, List.foldl_append]
  rfl

/-- A tick that is lost does not matter for the gate. -/
theorem gateAfter_tail (enabled : Bool) {channel : List PollerEvent}
    (tick : ∀ event ∈ channel.head?, ∃ providerId, event = .pollTick providerId) :
    gateAfter enabled channel.tail = gateAfter enabled channel := by
  cases channel with
  | nil => rfl
  | cons event rest =>
      obtain ⟨providerId, same⟩ := tick event rfl
      rw [same]
      rfl

/-- The gate the poller is heading for. -/
def PollingState.gate (s : PollingState Key) : Bool :=
  gateAfter s.poller.dispatchEnabled s.channel

/-- An event sets the gate when it is announced. -/
theorem gate_publish (s : PollingState Key) (event : PollerEvent) (announced : Bool) :
    (s.publish event announced).gate = if announced then event.gate s.gate else s.gate := by
  cases announced with
  | true => exact gateAfter_concat _ _ _
  | false => rfl

/-- A tick leaves the gate as it is. -/
theorem gate_publish_tick (s : PollingState Key) (providerId : Uuid) (announced : Bool) :
    (s.publish (.pollTick providerId) announced).gate = s.gate := by
  rw [gate_publish]
  cases announced <;> rfl

/-- No event about the lock fails to reach the poller: what the bus loses are ticks. -/
def Announced (s : PollingState Key) : PollingLabel Key → Prop
  | .restart announced => announced = true
  | .unlockInitialize _ _ _ announced => announced = true
  | .passphraseValidate _ announced => announced = true
  | .lose => ∀ event ∈ s.channel.head?, ∃ providerId, event = .pollTick providerId
  | .restartWorker => False
  | _ => True

/-- The states that are reached without one of them getting lost. -/
def PollingReached (cryptography : Cryptography Key) (s : PollingState Key) : Prop :=
  Reachable (fun s => ∃ secrets db, s = .initial secrets db)
    (guarded (PollingStep cryptography) Announced) s

/-- An event about a success moves the gate as the success moves the lock. -/
theorem gate_publish_unlocked {s : PollingState Key} (agrees : s.gate = s.store.isUnlocked)
    (store : SecretStore Key) (limits : RateLimits) {success : Bool}
    (moved : store.isUnlocked = (success || s.store.isUnlocked)) :
    ({ s with store := store, limits := limits }.publish .systemUnlocked success).gate =
      store.isUnlocked := by
  have before : { s with store := store, limits := limits }.gate = s.store.isUnlocked := agrees
  rw [gate_publish, moved, before]
  cases success <;> rfl

/-- One step moves both. -/
theorem gate_step {s : PollingState Key} (agrees : s.gate = s.store.isUnlocked)
    {label : PollingLabel Key} (announced : Announced s label) :
    (pollingNext cryptography s label).gate =
      (pollingNext cryptography s label).store.isUnlocked := by
  cases label with
  | restart told =>
      have told : told = true := announced
      rw [told]
      exact gateAfter_concat _ _ _
  | unlockInitialize salt nonce passphrase told =>
      have told : told = true := announced
      rw [told, pollingNext, PollingState.unlockInitialize, Bool.and_true]
      exact gate_publish_unlocked agrees _ _
        (postUnlockInitialize_isUnlocked s.store salt nonce passphrase)
  | passphraseValidate request told =>
      have told : told = true := announced
      rw [told, pollingNext, PollingState.passphraseValidate, Bool.and_true]
      exact gate_publish_unlocked agrees _ _
        (postPassphraseValidate_isUnlocked s.limits { request with store := s.store })
  | tick listed =>
      rw [pollingNext]
      split <;> exact agrees
  | emit told =>
      rw [pollingNext]
      split
      · exact agrees
      · rw [gate_publish_tick]
        exact agrees
  | deliver =>
      rw [pollingNext]
      split
      · exact agrees
      · next event rest queued =>
          rw [PollingState.gate, queued] at agrees
          exact agrees
  | lose => exact (gateAfter_tail _ announced).trans agrees
  | burst listed =>
      rw [pollingNext]
      split <;> exact agrees
  | dispatch providerId sent =>
      rw [pollingNext]
      split <;> exact agrees
  | oneShot providerId sent => exact agrees
  | serve env providerId =>
      rw [pollingNext]
      split <;> exact agrees
  | restartWorker => cases announced
  | elsewhere db secrets => exact agrees

/-- The gate is open exactly when the store is unlocked. -/
theorem gate_eq_isUnlocked {s : PollingState Key} (reached : PollingReached cryptography s) :
    s.gate = s.store.isUnlocked := by
  refine Reachable.invariant (I := fun s : PollingState Key => s.gate = s.store.isUnlocked) ?_ ?_
    reached
  · intro s start
    obtain ⟨secrets, db, same⟩ := start
    rw [same]
    rfl
  · intro s label t agrees taken
    rw [taken.2]
    exact gate_step agrees taken.1

/-! ### A cycle that is due -/

/-- A cycle of the provider is on its way: a burst is due, or one of its own ticks will pass the
    gate, or the request for it is being made or has been passed on. -/
def Due (providerId : Uuid) (s : PollingState Key) : Prop :=
  .systemUnlocked ∈ s.channel ∨ .catchUpBurst ∈ s.poller.threads ∨
    .dispatchCycle providerId ∈ s.poller.threads ∨ providerId ∈ s.admitted ∨
      ∃ before after, s.channel = before ++ .pollTick providerId :: after ∧
        gateAfter s.poller.dispatchEnabled before = true

/-- The cycle of the provider runs, in an unlocked process. -/
def Polls (providerId : Uuid) (s : PollingState Key) (label : PollingLabel Key) : Prop :=
  (∃ env, label = .serve env providerId) ∧ providerId ∈ s.admitted ∧ s.store.isUnlocked = true

/-- The backend and the worker stay up, the bus loses nothing, a burst lists the provider, and the
    request for it gets through. -/
def Calm (providerId : Uuid) (s : PollingState Key) : PollingLabel Key → Prop
  | .restart _ => False
  | .lose => False
  | .burst listed => providerId ∈ listedProviders listed s.db
  | .dispatch posted sent => posted = providerId → sent = true
  | .restartWorker => False
  | _ => True

/-- Nothing is on its way to a handler. -/
structure PollingState.Idle (s : PollingState Key) : Prop where
  channel : s.channel = []
  threads : s.poller.threads = []
  admitted : s.admitted = []

/-- Nothing is due in an idle system. -/
theorem PollingState.Idle.not_due {s : PollingState Key} (idle : s.Idle) {providerId : Uuid} :
    ¬Due providerId s := by
  rw [Due, idle.channel, idle.threads, idle.admitted]
  simp

/-- An event that is published changes nothing that was on its way before it. -/
theorem Due.of_channel {s t : PollingState Key} {providerId : Uuid} (due : Due providerId s)
    (later : List PollerEvent) (channel : t.channel = s.channel ++ later)
    (poller : t.poller = s.poller) (admitted : t.admitted = s.admitted) : Due providerId t := by
  rw [Due, channel, poller, admitted]
  rcases due with queued | burst | cycle | passed | ⟨before, after, queued, opens⟩
  · exact .inl (List.mem_append_left later queued)
  · exact .inr (.inl burst)
  · exact .inr (.inr (.inl cycle))
  · exact .inr (.inr (.inr (.inl passed)))
  · refine .inr (.inr (.inr (.inr ⟨before, after ++ later, ?_, opens⟩)))
    rw [queued, List.append_assoc, List.cons_append]

/-- What is due stays due when an event is published. -/
theorem Due.publish {s : PollingState Key} {providerId : Uuid} (due : Due providerId s)
    (event : PollerEvent) (announced : Bool) : Due providerId (s.publish event announced) := by
  cases announced with
  | true => exact due.of_channel [event] rfl rfl rfl
  | false => exact due

/-- Delivering an event turns what it stands for into a thread. -/
theorem Due.deliver {s : PollingState Key} {providerId : Uuid} (due : Due providerId s)
    {event : PollerEvent} {rest : List PollerEvent} (queued : s.channel = event :: rest) :
    Due providerId { s with channel := rest, poller := onPollerEvent s.poller event } := by
  rcases due with unlocked | burst | cycle | passed | ⟨before, after, ticked, opens⟩
  · rw [queued] at unlocked
    rcases List.mem_cons.mp unlocked with rfl | later
    · exact .inr (.inl (List.mem_append_right _ List.mem_cons_self))
    · exact .inl later
  · exact .inr (.inl (List.mem_append_left _ burst))
  · exact .inr (.inr (.inl (List.mem_append_left _ cycle)))
  · exact .inr (.inr (.inr (.inl passed)))
  · rw [queued] at ticked
    cases before with
    | nil =>
        cases ticked
        refine .inr (.inr (.inl (List.mem_append_right _ ?_)))
        rw [PollerEvent.starts, if_pos (by simpa using opens)]
        exact List.mem_cons_self
    | cons first before =>
        cases ticked
        exact .inr (.inr (.inr (.inr ⟨before, after, rfl, opens⟩)))

/-- A burst that lists the provider turns into a cycle of it. -/
theorem Due.burst {s : PollingState Key} {providerId : Uuid} (due : Due providerId s)
    {cycles : List PollerThread} (listed : .dispatchCycle providerId ∈ cycles) :
    Due providerId { s with
      poller := { s.poller with threads := s.poller.threads.erase .catchUpBurst ++ cycles } } := by
  rcases due with unlocked | burst | cycle | passed | ticked
  · exact .inl unlocked
  · exact .inr (.inr (.inl (List.mem_append_right _ listed)))
  · exact .inr (.inr (.inl (List.mem_append_right _ listed)))
  · exact .inr (.inr (.inr (.inl passed)))
  · exact .inr (.inr (.inr (.inr ticked)))

/-- A thread that posts for the provider gets its request passed on; the others change nothing. -/
theorem Due.dispatch {s : PollingState Key} {providerId posted : Uuid} {sent : Bool}
    (due : Due providerId s) (unlocked : s.store.isUnlocked = true)
    (gets : posted = providerId → sent = true) :
    Due providerId ({ s with
      poller := { s.poller with
        threads := s.poller.threads.erase (.dispatchCycle posted) } }.post posted sent) := by
  rcases due with queued | burst | cycle | passed | ticked
  · exact .inl queued
  · exact .inr (.inl ((List.mem_erase_of_ne fun same => by cases same).mpr burst))
  · by_cases own : posted = providerId
    · refine .inr (.inr (.inr (.inl ?_)))
      rw [PollingState.post, workerAdmitted_eq, gets own, unlocked, own]
      exact List.mem_append_right _ List.mem_cons_self
    · refine .inr (.inr (.inl ((List.mem_erase_of_ne ?_).mpr cycle)))
      exact fun same => own (PollerThread.dispatchCycle.inj same).symm
  · exact .inr (.inr (.inr (.inl (mem_post_of_mem posted sent (by exact passed)))))
  · exact .inr (.inr (.inr (.inr ticked)))

/-- What is due stays due when a poll is posted. -/
theorem Due.oneShot {s : PollingState Key} {providerId : Uuid} (due : Due providerId s)
    (posted : Uuid) (sent : Bool) : Due providerId (s.post posted sent) := by
  rcases due with queued | burst | cycle | passed | ticked
  · exact .inl queued
  · exact .inr (.inl burst)
  · exact .inr (.inr (.inl cycle))
  · exact .inr (.inr (.inr (.inl (mem_post_of_mem posted sent passed))))
  · exact .inr (.inr (.inr (.inr ticked)))

/-- The handler that serves another provider changes nothing. -/
theorem Due.serve {s : PollingState Key} {providerId served : Uuid} (due : Due providerId s)
    (other : served ≠ providerId) (db : CustodialDatabase) :
    Due providerId { s with admitted := s.admitted.erase served, db := db } := by
  rcases due with queued | burst | cycle | passed | ticked
  · exact .inl queued
  · exact .inr (.inl burst)
  · exact .inr (.inr (.inl cycle))
  · exact .inr (.inr (.inr (.inl ((List.mem_erase_of_ne other.symm).mpr passed))))
  · exact .inr (.inr (.inr (.inr ticked)))

/-- One step of a calm run: the cycle runs, or it stays on its way. -/
theorem Due.step (cryptography : Cryptography Key) {s : PollingState Key} {providerId : Uuid}
    (due : Due providerId s)
    (unlocked : s.store.isUnlocked = true) {label : PollingLabel Key}
    (calm : Calm providerId s label) :
    Polls providerId s label ∨
      Due providerId (pollingNext cryptography s label) ∧
        (pollingNext cryptography s label).store.isUnlocked = true := by
  cases label with
  | restart announced => cases calm
  | unlockInitialize salt nonce passphrase announced =>
      refine .inr ⟨?_, ?_⟩
      · exact Due.publish (due.of_channel [] (List.append_nil _).symm rfl rfl) _ _
      · exact (unlockInitialize_isUnlocked s salt nonce passphrase announced).trans
          (by rw [unlocked, Bool.or_true])
  | passphraseValidate request announced =>
      refine .inr ⟨?_, ?_⟩
      · exact Due.publish (due.of_channel [] (List.append_nil _).symm rfl rfl) _ _
      · exact (passphraseValidate_isUnlocked s request announced).trans
          (by rw [unlocked, Bool.or_true])
  | tick listed =>
      rw [pollingNext]
      split
      · exact .inr ⟨due, unlocked⟩
      · exact .inr ⟨due, unlocked⟩
  | emit announced =>
      rw [pollingNext]
      split
      · exact .inr ⟨due, unlocked⟩
      · exact .inr ⟨Due.publish due _ _, unlocked⟩
  | deliver =>
      rw [pollingNext]
      split
      · exact .inr ⟨due, unlocked⟩
      · next event rest queued => exact .inr ⟨due.deliver queued, unlocked⟩
  | lose => cases calm
  | burst listed =>
      rw [pollingNext]
      split
      · exact .inr ⟨due.burst (List.mem_map_of_mem calm), unlocked⟩
      · exact .inr ⟨due, unlocked⟩
  | dispatch posted sent =>
      rw [pollingNext]
      split
      · exact .inr ⟨due.dispatch unlocked calm, unlocked⟩
      · exact .inr ⟨due, unlocked⟩
  | oneShot posted sent => exact .inr ⟨due.oneShot posted sent, unlocked⟩
  | serve env served =>
      rw [pollingNext]
      split
      · next member =>
          by_cases own : served = providerId
          · rw [own] at member ⊢
            exact .inl ⟨⟨env, rfl⟩, member, unlocked⟩
          · exact .inr ⟨due.serve own _, unlocked⟩
      · exact .inr ⟨due, unlocked⟩
  | restartWorker => cases calm
  | elsewhere db secrets => exact .inr ⟨due, unlocked⟩

/-- What was due when a calm run began has run by the time nothing is on its way. -/
theorem Due.visits {s u : PollingState Key} {providerId : Uuid} {labels : List (PollingLabel Key)}
    (due : Due providerId s) (unlocked : s.store.isUnlocked = true)
    (run : Run (guarded (PollingStep cryptography) (Calm providerId)) s labels u) (idle : u.Idle) :
    Visits (guarded (PollingStep cryptography) (Calm providerId)) (Polls providerId) s labels
      u := by
  induction run with
  | stop s => exact absurd due idle.not_due
  | cons taken rest inductionHypothesis =>
      rcases due.step cryptography unlocked taken.1 with polls | ⟨later, stays⟩
      · exact .here polls taken rest
      · rw [← taken.2] at later stays
        exact .later taken (inductionHypothesis later stays idle)

/-- A step that calls for a cycle of the provider: an unlock, or a tick for it that is published
    while the store is unlocked. -/
def CallsFor (cryptography : Cryptography Key) (providerId : Uuid) (s : PollingState Key) :
    PollingLabel Key → Prop
  | .unlockInitialize salt nonce passphrase announced =>
      announced = true ∧
        (postUnlockInitialize cryptography s.store salt nonce passphrase).2 = .initialized
  | .passphraseValidate request announced =>
      announced = true ∧ (postPassphraseValidate cryptography s.limits
        { request with store := s.store }).answer = .valid
  | .emit announced =>
      announced = true ∧ s.ticking.head? = some providerId ∧ s.store.isUnlocked = true
  | _ => False

/-- What such a step calls for is due: a tick that the gate will drop stands behind an unlock that
    the poller has not seen. -/
theorem due_of_callsFor {s : PollingState Key} {providerId : Uuid} {label : PollingLabel Key}
    (agrees : s.gate = s.store.isUnlocked) (calls : CallsFor cryptography providerId s label) :
    Due providerId (pollingNext cryptography s label) ∧
      (pollingNext cryptography s label).store.isUnlocked = true := by
  cases label with
  | unlockInitialize salt nonce passphrase announced =>
      obtain ⟨told, success⟩ := calls
      refine ⟨.inl ?_, ?_⟩
      · rw [pollingNext, PollingState.unlockInitialize, decide_eq_true success, told]
        exact List.mem_append_right _ List.mem_cons_self
      · exact (unlockInitialize_isUnlocked s salt nonce passphrase announced).trans
          (by rw [decide_eq_true success, Bool.true_or])
  | passphraseValidate request announced =>
      obtain ⟨told, success⟩ := calls
      refine ⟨.inl ?_, ?_⟩
      · rw [pollingNext, PollingState.passphraseValidate, decide_eq_true success, told]
        exact List.mem_append_right _ List.mem_cons_self
      · exact (passphraseValidate_isUnlocked s request announced).trans
          (by rw [decide_eq_true success, Bool.true_or])
  | emit announced =>
      obtain ⟨told, next, unlocked⟩ := calls
      rw [pollingNext]
      split
      · next none =>
          rw [none] at next
          cases next
      · next ticked rest queued =>
          rw [queued] at next
          cases next
          rw [told]
          refine ⟨.inr (.inr (.inr (.inr ⟨s.channel, [], rfl, ?_⟩))), unlocked⟩
          exact agrees.trans unlocked
  | _ => cases calls

/-! ### Main results -/

/-- Where no request was passed on, only another part of the program changes the database. -/
theorem db_pollingNext {s : PollingState Key} (idle : s.admitted = [])
    (label : PollingLabel Key) :
    (pollingNext cryptography s label).db = s.db ∨
      ∃ db secrets, label = .elsewhere db secrets := by
  cases label with
  | elsewhere db secrets => exact .inr ⟨db, secrets, rfl⟩
  | serve env providerId =>
      rw [pollingNext, idle, if_neg List.not_mem_nil]
      exact .inl rfl
  | restart announced => exact .inl rfl
  | unlockInitialize salt nonce passphrase announced => exact .inl rfl
  | passphraseValidate request announced => exact .inl rfl
  | tick listed =>
      rw [pollingNext]
      split <;> exact .inl rfl
  | emit announced =>
      rw [pollingNext]
      split <;> exact .inl rfl
  | deliver =>
      rw [pollingNext]
      split <;> exact .inl rfl
  | lose => exact .inl rfl
  | burst listed =>
      rw [pollingNext]
      split <;> exact .inl rfl
  | dispatch providerId sent =>
      rw [pollingNext]
      split <;> exact .inl rfl
  | oneShot providerId sent => exact .inl rfl
  | restartWorker => exact .inl rfl

/-- Whatever gets lost and whoever restarts: while the store is locked, the worker brings about no
    change of the database; and a request that was passed on finds the store unlocked when it is
    handled, so that it reports secrets as unavailable only where one is missing. -/
theorem polls_unlocked_of_reached {s : PollingState Key}
    (reached : Reachable (fun s => s.admitted = []) (PollingStep cryptography) s) :
    (s.store.isUnlocked = false → ∀ label t, PollingStep cryptography s label t →
      t.db = s.db ∨ ∃ db secrets, label = .elsewhere db secrets) ∧
    ∀ providerId ∈ s.admitted, s.store.isUnlocked = true ∧
      ∀ env (provider : ConnectedProviderRow),
        pollCredentials (PollEnv.onStore cryptography env s.store) provider =
          .error ⟨.httpException, "Secrets unavailable"⟩ →
        ∃ reference, (reference = provider.apiCredentialReference ∨
            reference = provider.apiSecretReference ∨
            provider.apiPassphraseReference = some reference) ∧
          loadEncrypted s.store.database reference = none := by
  have holds : AdmittedUnlocked s := by
    refine Reachable.invariant (I := AdmittedUnlocked) ?_ ?_ reached
    · exact fun s none waiting => absurd none waiting
    · intro s label t holds taken
      rw [show t = pollingNext cryptography s label from taken]
      exact holds.step label
  constructor
  · intro locked label t taken
    have none : s.admitted = [] := by
      by_contra waiting
      rw [holds waiting] at locked
      cases locked
    rw [show t = pollingNext cryptography s label from taken]
    exact db_pollingNext none label
  · intro providerId member
    have unlocked := holds (List.ne_nil_of_mem member)
    exact ⟨unlocked, fun env provider unavailable => missing_of_unavailable unlocked unavailable⟩

/-- Where the poller hears of every start and of every unlock, the events on their way lead its gate
    to where the lock is, and the gate is there once it has them all. -/
theorem gate_of_reached {s : PollingState Key} (reached : PollingReached cryptography s) :
    gateAfter s.poller.dispatchEnabled s.channel = s.store.isUnlocked ∧
      (s.channel = [] → s.poller.dispatchEnabled = s.store.isUnlocked) := by
  have agrees := gate_eq_isUnlocked reached
  refine ⟨agrees, fun none => ?_⟩
  rw [PollingState.gate, none] at agrees
  exact agrees

/-- No provider is passed over: after an unlock, and after a tick that is published while the store
    is unlocked, its cycle runs in an unlocked process by the time nothing is on its way, though the
    gate may drop the tick. -/
theorem polled_of_callsFor {s t u : PollingState Key} {providerId : Uuid}
    {label : PollingLabel Key} {labels : List (PollingLabel Key)}
    (reached : PollingReached cryptography s) (calls : CallsFor cryptography providerId s label)
    (taken : PollingStep cryptography s label t)
    (run : Run (guarded (PollingStep cryptography) (Calm providerId)) t labels u)
    (idle : u.Idle) :
    Visits (guarded (PollingStep cryptography) (Calm providerId)) (Polls providerId) t labels
      u := by
  obtain ⟨due, unlocked⟩ := due_of_callsFor (gate_eq_isUnlocked reached) calls
  rw [show t = pollingNext cryptography s label from taken] at run ⊢
  exact due.visits unlocked run idle

/-! ### A sample run -/

/-- The sample provider, with a backend that was just set up: the events of its start and of its
    unlock are still to be delivered. -/
def samplePolling : PollingState Bytes :=
  pollingNext sampleCryptography (.initial .empty (sampleConnectedTo sampleTreasury))
    (.unlockInitialize sampleSalt sampleNonce "phrase" true)

/-- What brings its first cycle about. -/
def samplePolled : List (PollingLabel Bytes) :=
  [.deliver, .deliver, .burst true, .dispatch 1 true]

def samplePassedOn : PollingState Bytes :=
  samplePolled.foldl (pollingNext sampleCryptography) samplePolling

theorem samplePassedOn_reached : PollingReached sampleCryptography samplePassedOn :=
  ⟨.initial .empty (sampleConnectedTo sampleTreasury),
    .unlockInitialize sampleSalt sampleNonce "phrase" true :: samplePolled, ⟨_, _, rfl⟩,
    .cons ⟨rfl, rfl⟩ (.cons ⟨trivial, rfl⟩ (.cons ⟨trivial, rfl⟩ (.cons ⟨trivial, rfl⟩
      (.cons ⟨trivial, rfl⟩ (.stop samplePassedOn)))))⟩

/-- The request of the sample run was passed on, and finds the store unlocked. -/
theorem polls_unlocked_of_setup :
    samplePassedOn.admitted = [1] ∧ samplePassedOn.store.isUnlocked = true :=
  ⟨by decide +kernel,
    ((polls_unlocked_of_reached (s := samplePassedOn)
      ⟨.initial .empty (sampleConnectedTo sampleTreasury), _, rfl,
        Run.of_steps (pollingNext sampleCryptography)
          (.unlockInitialize sampleSalt sampleNonce "phrase" true :: samplePolled) _⟩).2 1
      (by decide +kernel)).1⟩

/-- The gate of the poller is open by then. -/
theorem gate_of_setup :
    samplePassedOn.channel = [] ∧
      samplePassedOn.poller.dispatchEnabled = samplePassedOn.store.isUnlocked :=
  ⟨by decide +kernel, (gate_of_reached samplePassedOn_reached).2 (by decide +kernel)⟩

/-- The setup of the sample run calls for the cycle, which runs. -/
theorem polled_of_setup :
    ∃ u : PollingState Bytes, u.Idle ∧
      Visits (guarded (PollingStep sampleCryptography) (Calm 1)) (Polls 1) samplePolling
        [.deliver, .deliver, .burst true, .dispatch 1 true,
          .serve (samplePollEnv (sampleExchange [])) 1] u := by
  have first : PollingReached sampleCryptography
      (.initial .empty (sampleConnectedTo sampleTreasury) : PollingState Bytes) :=
    Reachable.of_initial ⟨_, _, rfl⟩
  have idle : (pollingNext sampleCryptography samplePassedOn
      (.serve (samplePollEnv (sampleExchange [])) 1)).Idle :=
    ⟨by decide +kernel, by decide +kernel, by decide +kernel⟩
  have calls : CallsFor sampleCryptography 1
      (.initial .empty (sampleConnectedTo sampleTreasury) : PollingState Bytes)
      (.unlockInitialize sampleSalt sampleNonce "phrase" true) := ⟨rfl, by decide +kernel⟩
  refine ⟨_, idle, polled_of_callsFor first calls rfl ?_ idle⟩
  refine .cons ⟨trivial, rfl⟩ (.cons ⟨trivial, rfl⟩ (.cons ⟨?_, rfl⟩
    (.cons ⟨fun _ => rfl, rfl⟩ (.cons ⟨trivial, rfl⟩ (.stop _)))))
  change 1 ∈ listedProviders true _
  decide +kernel

end TallyKeep
