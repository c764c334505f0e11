/-
Module: TallyKeep.Proofs.SecretContract
Layer: Proofs
Purpose: After any calls the secret store answers as their history says.
Trusted boundary: none
Main exports: SecretHistory, initialPassphrase, unlockedBy, lastValue, SecretLog, afterCalls, SecretContract,
  secretContract_afterCalls
-/
import TallyKeep.Proofs.SecretStore

namespace TallyKeep

open Relational Stepwise

/-! ### Histories -/

/-- The calls made so far with what each returned or raised, the last call first. -/
abbrev SecretHistory := List (SecretOperation × Except PyError SecretAnswer)

/-- The passphrase given to the initialization that succeeded. -/
def initialPassphrase : SecretHistory → Option String
  | [] => none
  | (.initializeStore _ _ passphrase, .ok _) :: _ => some passphrase
  | _ :: earlier => initialPassphrase earlier

/-- The last setup or unlocking that succeeded came after the last locking. -/
def unlockedBy : SecretHistory → Bool
  | [] => false
  | (.initializeStore _ _ _, .ok _) :: _ => true
  | (.unlock _, .ok _) :: _ => true
  | (.lock, .ok _) :: _ => false
  | _ :: earlier => unlockedBy earlier

/-- The last value set for a reference since its last deletion. -/
def lastValue (reference : String) : SecretHistory → Option Bytes
  | [] => none
  | (.setSecret _ target value, .ok _) :: earlier =>
      if target = reference then some value else lastValue reference earlier
  | (.deleteSecret target, .ok _) :: earlier =>
      if target = reference then none else lastValue reference earlier
  | _ :: earlier => lastValue reference earlier

/-- The secret an operation sets, reads or deletes. -/
def SecretOperation.reference? : SecretOperation → Option String
  | setSecret _ reference _ => some reference
  | getSecret reference => some reference
  | deleteSecret reference => some reference
  | _ => none

/-- A store, with the history of the calls made to it. -/
structure SecretLog (Key : Type) where
  store : SecretStore Key
  history : SecretHistory

section Log

variable {Key : Type} (cryptography : Cryptography Key)

def SecretLog.call (log : SecretLog Key) (operation : SecretOperation) : SecretLog Key :=
  ⟨final (operation.perform cryptography) log.store,
    (operation, result (operation.perform cryptography) log.store) :: log.history⟩

/-- Some calls, from an empty store. -/
def afterCalls (operations : List SecretOperation) : SecretLog Key :=
  operations.foldl (SecretLog.call cryptography) ⟨.start .empty, []⟩

/-- What the store promises after some calls, where reads are promised for some references only. -/
structure SecretContract (readable : String → Prop) (log : SecretLog Key) : Prop where
  unlocks : ∀ passphrase, result (unlock cryptography passphrase) log.store = .ok ⟨⟩ ↔
    initialPassphrase log.history = some passphrase
  validates : ∀ passphrase,
    result (validatePassphrase cryptography passphrase) log.store = .ok true ↔
      result (unlock cryptography passphrase) log.store = .ok ⟨⟩
  validationKeeps : ∀ passphrase, stops (validatePassphrase cryptography passphrase) log.store =
    [log.store]
  lockState : log.store.isUnlocked = unlockedBy log.history
  reads : log.store.isUnlocked = true → ∀ reference, readable reference → ∀ value,
    lastValue reference log.history = some value →
      result (getSecret cryptography reference) log.store = .ok value
  readsNothing : log.store.isUnlocked = true → ∀ reference, readable reference →
    ((∃ message, result (getSecret cryptography reference) log.store =
        .error ⟨.keyError, message⟩) ↔ lastValue reference log.history = none)
  lockedRaises : log.store.isUnlocked = false → ∀ operation : SecretOperation, ∀ reference,
    operation.reference? = some reference →
      ∃ error, result (operation.perform cryptography) log.store = .error error ∧
        error.cls = if reference = canaryReference then .valueError else .lockedError
  lockedKeeps : log.store.isUnlocked = false → ∀ operation : SecretOperation,
    operation.reference?.isSome →
      stops (operation.perform cryptography) log.store = [log.store]
  setupKept : initialPassphrase log.history ≠ none → ∀ later : List SecretOperation,
    let after := (later.foldl (SecretLog.call cryptography) log).store.database
    after.cryptoParameters = log.store.database.cryptoParameters ∧
      loadEncrypted after canaryReference = loadEncrypted log.store.database canaryReference

/-! ### What ties the store to its history -/

/-- A reference holds the value the history gives it, encrypted under the key. -/
def Holds (key : Key) : Option Bytes → Option EncryptedSecret → Prop
  | none, none => True
  | some value, some secret => Seals cryptography key value secret
  | _, _ => False

/-- The key is held exactly if the history left the store unlocked. -/
def KeyHeld (key : Key) (store : SecretStore Key) (history : SecretHistory) : Prop :=
  (store.key = none ∧ unlockedBy history = false) ∨
    (store.key = some key ∧ unlockedBy history = true)

/-- The store before its setup is empty and locked.  After it, the tables were set up under the
    passphrase of the history, the key is held as the history says, and every reference holds its
    last value. -/
inductive Consistent : SecretLog Key → Prop where
  | blank {history : SecretHistory} (never : initialPassphrase history = none)
      (locked : unlockedBy history = false)
      (nothing : ∀ reference, lastValue reference history = none) :
      Consistent ⟨.start .empty, history⟩
  | ready {store : SecretStore Key} {history : SecretHistory} {passphrase : String}
      {parameters : KdfParameters} (initially : initialPassphrase history = some passphrase)
      (setUp : SetUp cryptography store.database parameters passphrase)
      (held : KeyHeld (cryptography.hashSecretRaw passphrase parameters) store history)
      (values : ∀ reference, reference ≠ canaryReference →
        Holds cryptography (cryptography.hashSecretRaw passphrase parameters)
          (lastValue reference history) (loadEncrypted store.database reference)) :
      Consistent ⟨store, history⟩

end Log

section Histories

variable {history : SecretHistory} {operation : SecretOperation} {error : PyError}

/-- A call that raises sets no passphrase. -/
@[simp] theorem initialPassphrase_error :
    initialPassphrase ((operation, .error error) :: history) = initialPassphrase history := by
  cases operation <;> rfl

/-- A call that raises changes nothing about the lock. -/
@[simp] theorem unlockedBy_error :
    unlockedBy ((operation, .error error) :: history) = unlockedBy history := by
  cases operation <;> rfl

/-- A call that raises sets no value. -/
@[simp] theorem lastValue_error (reference : String) :
    lastValue reference ((operation, .error error) :: history) = lastValue reference history := by
  cases operation <;> rfl

end Histories

section Calls

variable {Key : Type} {cryptography : Cryptography Key} {log : SecretLog Key}
  {operation : SecretOperation}

/-- A call appends itself to the history, and leaves its last state. -/
theorem SecretLog.call_of_apply {states : List (SecretStore Key)}
    {outcome : Except PyError SecretAnswer}
    (went : operation.perform cryptography log.store = (states, outcome)) :
    log.call cryptography operation =
      ⟨states.getLastD log.store, (operation, outcome) :: log.history⟩ := by
  rw [SecretLog.call, final_of_states went, result, went]

/-- A call answers with what the method it makes returns. -/
theorem SecretLog.call_of_returns {α : Type} {x : StoreCall Key α} {answer : α → SecretAnswer}
    {states : List (SecretStore Key)} {a : α}
    (performs : operation.perform cryptography = x >>= fun a => pure (answer a))
    (went : x log.store = (states, .ok a)) :
    log.call cryptography operation =
      ⟨states.getLastD log.store, (operation, .ok (answer a)) :: log.history⟩ := by
  apply SecretLog.call_of_apply
  rw [performs, bind_pure_apply, went]
  rfl

/-- A call that is refused at once changes nothing. -/
theorem Consistent.refused {error : PyError} (holds : Consistent cryptography log)
    (went : operation.perform cryptography log.store = ([], .error error)) :
    Consistent cryptography (log.call cryptography operation) := by
  rw [SecretLog.call_of_apply went]
  cases holds with
  | blank never locked nothing =>
      exact .blank (by simpa using never) (by simpa using locked) (by simpa using nothing)
  | ready initially setUp held values =>
      refine .ready (by simpa using initially) setUp ?_ (by simpa using values)
      simpa [KeyHeld] using held

/-- A call whose method raises at once changes nothing. -/
theorem Consistent.raised {α : Type} {x : StoreCall Key α} {answer : α → SecretAnswer}
    {error : PyError} (holds : Consistent cryptography log)
    (performs : operation.perform cryptography = x >>= fun a => pure (answer a))
    (went : x log.store = ([], .error error)) :
    Consistent cryptography (log.call cryptography operation) := by
  have refused : operation.perform cryptography log.store = ([], .error error) := by
    rw [performs, bind_pure_apply, went]
    rfl
  exact holds.refused refused

/-- What a locked store answers to the operations on secrets. -/
theorem perform_of_locked (locked : log.store.key = none) {reference : String}
    (targets : operation.reference? = some reference) :
    operation.perform cryptography log.store = ([], .error (lockedRefusal reference)) := by
  cases operation with
  | setSecret nonce target value =>
      cases targets
      rw [SecretOperation.perform, bind_pure_apply, setSecret, refuses_of_locked _ locked]
      rfl
  | getSecret target =>
      cases targets
      rw [SecretOperation.perform, bind_pure_apply, getSecret, refuses_of_locked _ locked]
      rfl
  | deleteSecret target =>
      cases targets
      rw [SecretOperation.perform, bind_pure_apply, deleteSecret, refuses_of_locked _ locked]
      rfl
  | initializeStore salt nonce passphrase => cases targets
  | unlock passphrase => cases targets
  | lock => cases targets
  | validatePassphrase passphrase => cases targets

/-- The answer to a read of a reference with this value, if it has any. -/
def recalled (reference : String) : Option Bytes → Except PyError Bytes
  | none => .error ⟨.keyError, reference⟩
  | some value => .ok value

/-- Read with the key, a reference gives the value it holds. -/
theorem getSecret_of_holds (ideal : cryptography.Ideal) {store : SecretStore Key} {key : Key}
    {reference : String} {held : Option Bytes} (unlocked : store.key = some key)
    (own : reference ≠ canaryReference)
    (holds : Holds cryptography key held (loadEncrypted store.database reference)) :
    getSecret cryptography reference store = ([], recalled reference held) := by
  rw [getSecret_apply unlocked own]
  cases found : loadEncrypted store.database reference with
  | none =>
      rw [found] at holds
      cases held with
      | none => rfl
      | some value => exact holds.elim
  | some secret =>
      rw [found] at holds
      cases held with
      | none => exact holds.elim
      | some value => exact congrArg (Prod.mk []) (Seals.decrypt ideal holds)

/-! ### One call -/

/-- Before its setup the store refuses everything but `initialize` and `lock`. -/
theorem Consistent.call_blank (ideal : cryptography.Ideal) {history : SecretHistory}
    (never : initialPassphrase history = none) (locked : unlockedBy history = false)
    (nothing : ∀ reference, lastValue reference history = none) (operation : SecretOperation) :
    Consistent cryptography (SecretLog.call cryptography ⟨.start .empty, history⟩ operation) := by
  have holds : Consistent cryptography ⟨.start .empty, history⟩ :=
    .blank never locked nothing
  have missing : (SecretStore.start .empty : SecretStore Key).database.cryptoParameters = none :=
    rfl
  cases operation with
  | initializeStore salt nonce passphrase =>
      by_cases empty : passphrase = ""
      · rw [empty]
        exact holds.raised rfl (initializeStore_empty missing salt nonce)
      · obtain ⟨canary, sealed, went⟩ :=
          initializeStore_of_none ideal missing salt nonce empty
        rw [SecretLog.call_of_returns rfl went]
        have setUp : SetUp cryptography ((SecretDatabase.empty.addParameters
            (freshParameters salt)).putSecret canaryReference canary) (freshParameters salt)
            passphrase :=
          ⟨empty, rfl, canary, loadEncrypted_putSecret.trans (if_pos rfl), sealed⟩
        apply Consistent.ready rfl setUp (.inr ⟨rfl, rfl⟩)
        intro reference own
        have absent : loadEncrypted ((SecretDatabase.empty.addParameters
            (freshParameters salt)).putSecret canaryReference canary) reference = none :=
          loadEncrypted_putSecret.trans (if_neg own)
        change Holds _ _ (lastValue reference history) (loadEncrypted _ reference)
        rw [nothing reference]
        exact absent ▸ trivial
  | unlock passphrase => exact holds.raised rfl (unlock_of_none missing passphrase)
  | lock => exact .blank never rfl nothing
  | validatePassphrase passphrase =>
      exact holds.raised rfl (validatePassphrase_of_none missing passphrase)
  | setSecret nonce reference value => exact holds.refused (perform_of_locked rfl rfl)
  | getSecret reference => exact holds.refused (perform_of_locked rfl rfl)
  | deleteSecret reference => exact holds.refused (perform_of_locked rfl rfl)

section Ready

variable {store : SecretStore Key} {history : SecretHistory} {passphrase : String}
  {parameters : KdfParameters} {reference : String}

/-- Setting and deleting a secret leave the setup and the other secrets alone. -/
theorem Consistent.stored {database : SecretDatabase} {later : SecretHistory}
    (initially : initialPassphrase later = some passphrase)
    (setUp : SetUp cryptography store.database parameters passphrase)
    (held : KeyHeld (cryptography.hashSecretRaw passphrase parameters) store later)
    (values : ∀ reference, reference ≠ canaryReference →
      Holds cryptography (cryptography.hashSecretRaw passphrase parameters)
        (lastValue reference history) (loadEncrypted store.database reference))
    (sameParameters : database.cryptoParameters = store.database.cryptoParameters)
    (own : reference ≠ canaryReference)
    (changed : Holds cryptography (cryptography.hashSecretRaw passphrase parameters)
      (lastValue reference later) (loadEncrypted database reference))
    (others : ∀ other, other ≠ reference → lastValue other later = lastValue other history ∧
      loadEncrypted database other = loadEncrypted store.database other) :
    Consistent cryptography ⟨store.withDatabase database, later⟩ := by
  have setUpAfter : SetUp cryptography (store.withDatabase database).database parameters
      passphrase := setUp.of_canary sameParameters (others canaryReference own.symm).2
  apply Consistent.ready initially setUpAfter held
  intro other apart
  by_cases same : other = reference
  · rw [same]
    exact changed
  · change Holds _ _ _ (loadEncrypted database other)
    rw [(others other same).1, (others other same).2]
    exact values other apart

/-- A call of a store that is set up keeps it consistent with its history. -/
theorem Consistent.call_ready (ideal : cryptography.Ideal)
    (initially : initialPassphrase history = some passphrase)
    (setUp : SetUp cryptography store.database parameters passphrase)
    (held : KeyHeld (cryptography.hashSecretRaw passphrase parameters) store history)
    (values : ∀ reference, reference ≠ canaryReference →
      Holds cryptography (cryptography.hashSecretRaw passphrase parameters)
        (lastValue reference history) (loadEncrypted store.database reference))
    (operation : SecretOperation) :
    Consistent cryptography (SecretLog.call cryptography ⟨store, history⟩ operation) := by
  have holds : Consistent cryptography ⟨store, history⟩ := .ready initially setUp held values
  cases operation with
  | initializeStore salt nonce attempted =>
      exact holds.raised rfl (initializeStore_of_stored setUp.stored salt nonce attempted)
  | unlock attempted =>
      by_cases same : attempted = passphrase
      · rw [same, SecretLog.call_of_returns rfl (setUp.unlock_apply ideal)]
        exact .ready initially setUp (.inr ⟨rfl, rfl⟩) values
      · obtain ⟨error, went⟩ := setUp.unlock_foreign ideal same
        exact holds.raised rfl went
  | lock => exact .ready initially setUp (.inl ⟨rfl, rfl⟩) values
  | validatePassphrase attempted =>
      by_cases empty : attempted = ""
      · rw [empty]
        exact holds.raised rfl setUp.validatePassphrase_empty
      · rw [SecretLog.call_of_returns rfl (setUp.validatePassphrase_apply ideal empty)]
        exact .ready initially setUp held values
  | setSecret nonce reference value =>
      by_cases reserved : reference = canaryReference
      · rw [reserved]
        exact holds.raised rfl (bind_apply_of_refuses (refuseReserved_canary store))
      · rcases held with locked | unlocked
        · exact holds.refused (perform_of_locked locked.1 rfl)
        · obtain ⟨secret, sealed, went⟩ := setSecret_apply ideal unlocked.1 reserved nonce value
          rw [SecretLog.call_of_returns rfl went]
          refine .stored initially setUp (.inr unlocked) values rfl reserved ?_ ?_
          · rw [loadEncrypted_putSecret, if_pos rfl, lastValue, if_pos rfl]
            exact sealed
          · intro other apart
            rw [loadEncrypted_putSecret, if_neg apart, lastValue, if_neg apart.symm]
            exact ⟨rfl, rfl⟩
  | getSecret reference =>
      by_cases reserved : reference = canaryReference
      · rw [reserved]
        exact holds.raised rfl (bind_apply_of_refuses (refuseReserved_canary store))
      · rcases held with locked | unlocked
        · exact holds.refused (perform_of_locked locked.1 rfl)
        · have went := getSecret_of_holds ideal unlocked.1 reserved (values reference reserved)
          cases last : lastValue reference history with
          | none =>
              rw [last] at went
              exact holds.raised rfl went
          | some value =>
              rw [last] at went
              rw [SecretLog.call_of_returns rfl went]
              exact .ready initially setUp (.inr unlocked) values
  | deleteSecret reference =>
      by_cases reserved : reference = canaryReference
      · rw [reserved]
        exact holds.raised rfl (bind_apply_of_refuses (refuseReserved_canary store))
      · rcases held with locked | unlocked
        · exact holds.refused (perform_of_locked locked.1 rfl)
        · rw [SecretLog.call_of_returns rfl (deleteSecret_apply unlocked.1 reserved)]
          refine .stored initially setUp (.inr unlocked) values rfl reserved ?_ ?_
          · rw [loadEncrypted_dropSecret, if_pos rfl, lastValue, if_pos rfl]
            trivial
          · intro other apart
            rw [loadEncrypted_dropSecret, if_neg apart, lastValue, if_neg apart.symm]
            exact ⟨rfl, rfl⟩

end Ready

/-- Every call keeps the store consistent with its history. -/
theorem Consistent.call (ideal : cryptography.Ideal) (holds : Consistent cryptography log)
    (operation : SecretOperation) :
    Consistent cryptography (log.call cryptography operation) := by
  cases holds with
  | blank never locked nothing => exact .call_blank ideal never locked nothing operation
  | ready initially setUp held values =>
      exact .call_ready ideal initially setUp held values operation

/-- Every run of calls keeps the store consistent with its history. -/
theorem Consistent.calls (ideal : cryptography.Ideal) (holds : Consistent cryptography log)
    (operations : List SecretOperation) :
    Consistent cryptography (operations.foldl (SecretLog.call cryptography) log) := by
  induction operations generalizing log with
  | nil => exact holds
  | cons operation later inductionHypothesis =>
      exact inductionHypothesis (holds.call ideal operation)

/-- A store is consistent with its history after any calls. -/
theorem consistent_afterCalls (ideal : cryptography.Ideal) (operations : List SecretOperation) :
    Consistent cryptography (afterCalls cryptography operations) :=
  Consistent.calls ideal (.blank rfl rfl fun _ => rfl) operations

end Calls

/-! ### What no call changes -/

section Kept

variable {Key : Type} {cryptography : Cryptography Key}

/-- Once there are parameters, they and the canary are the same. -/
def SetupKept (before after : SecretStore Key) : Prop :=
  before.database.cryptoParameters.isSome = true →
    after.database.cryptoParameters = before.database.cryptoParameters ∧
      loadEncrypted after.database canaryReference =
        loadEncrypted before.database canaryReference

theorem SetupKept.refl (store : SecretStore Key) : SetupKept store store := fun _ => ⟨rfl, rfl⟩

/-- A setup that each of two stretches keeps is kept. -/
theorem SetupKept.trans (first second third : SecretStore Key) (early : SetupKept first second)
    (late : SetupKept second third) : SetupKept first third := by
  intro present
  obtain ⟨parameters, canary⟩ := early present
  obtain ⟨laterParameters, laterCanary⟩ := late (by rw [parameters]; exact present)
  exact ⟨laterParameters.trans parameters, laterCanary.trans canary⟩

theorem setupKept_holdKey (key : Option Key) : Keeps SetupKept (holdKey key : StoreCall Key PUnit) :=
  Keeps.write SetupKept.refl fun _ _ => ⟨rfl, rfl⟩

/-- Reading the canary keeps the setup. -/
theorem setupKept_readCanary (passphrase : String) :
    Keeps SetupKept (readCanary cryptography passphrase) := by
  apply Keeps.bind SetupKept.trans
  · exact Keeps.bind SetupKept.trans (.read SetupKept.refl _) fun _ => .lift SetupKept.refl _
  · intro parameters
    cases parameters with
    | none => exact .raise SetupKept.refl _
    | some parameters =>
        apply Keeps.bind SetupKept.trans (.lift SetupKept.refl _)
        intro key
        apply Keeps.bind SetupKept.trans (.read SetupKept.refl _)
        intro canary
        cases canary with
        | none => exact .raise SetupKept.refl _
        | some canary => exact .pure SetupKept.refl _

/-- Unlocking keeps the setup. -/
theorem setupKept_unlock (passphrase : String) :
    Keeps SetupKept (unlock cryptography passphrase) := by
  apply Keeps.bind SetupKept.trans (setupKept_readCanary passphrase)
  intro ⟨key, canary⟩
  dsimp only
  split
  · split
    · exact .raise SetupKept.refl _
    · exact .raise SetupKept.refl _
  · split
    · exact .raise SetupKept.refl _
    · exact setupKept_holdKey _

/-- Validating a passphrase keeps the setup. -/
theorem setupKept_validatePassphrase (passphrase : String) :
    Keeps SetupKept (validatePassphrase cryptography passphrase) := by
  apply Keeps.bind SetupKept.trans (setupKept_readCanary passphrase)
  intro ⟨key, canary⟩
  dsimp only
  split
  · split
    · exact .pure SetupKept.refl _
    · exact .raise SetupKept.refl _
  · exact .pure SetupKept.refl _

/-- Where there are parameters `initialize` is refused; elsewhere there is nothing to keep. -/
theorem setupKept_initializeStore (salt : Salt) (nonce : Nonce) (passphrase : String) :
    Keeps SetupKept (initializeStore cryptography salt nonce passphrase) := by
  intro store after cut present
  obtain ⟨row, stored⟩ := Option.isSome_iff_exists.mp present
  have refused : ∃ error, initializeStore cryptography salt nonce passphrase store =
      ([], .error error) := by
    by_cases known : row.kdfAlgorithm = kdfAlgorithm
    · have loaded : loadKdfParameters store.database = .ok (some row.parameters) := by
        rw [loadKdfParameters, stored]
        exact if_pos known
      rw [initializeStore, bind_apply_of_reads (isInitialized_apply loaded)]
      exact ⟨_, rfl⟩
    · have unknown : isInitialized store = ([], .error ⟨.runtimeError,
          "Unsupported KDF algorithm in database: '" ++ row.kdfAlgorithm ++ "'"⟩) := by
        apply bind_apply_of_refuses
        rw [readKdfParameters_apply, loadKdfParameters, stored]
        exact congrArg (Prod.mk []) (if_neg known)
      rw [initializeStore, bind_apply_of_refuses unknown]
      exact ⟨_, rfl⟩
  obtain ⟨error, went⟩ := refused
  rw [stops, went, List.mem_singleton] at cut
  rw [cut]
  exact ⟨rfl, rfl⟩

/-- An operation on a secret touches no other reference than its own, and never the canary. -/
theorem setupKept_secret {α : Type} {reference : String} {next : Key → StoreCall Key α}
    (keeps : reference ≠ canaryReference → ∀ key, Keeps SetupKept (next key)) :
    Keeps SetupKept
      (do refuseReserved reference; let key ← requireUnlocked; next key : StoreCall Key α) := by
  by_cases reserved : reference = canaryReference
  · apply Keeps.of_states_nil SetupKept.refl
    intro store
    rw [reserved, bind_apply_of_refuses (refuseReserved_canary store)]
  · apply Keeps.bind SetupKept.trans
    · rw [refuseReserved, if_neg reserved]
      exact .pure SetupKept.refl _
    · intro _
      apply Keeps.bind SetupKept.trans
      · apply Keeps.bind SetupKept.trans (.read SetupKept.refl _)
        intro held
        cases held with
        | none => exact .raise SetupKept.refl _
        | some key => exact .pure SetupKept.refl _
      · exact keeps reserved

/-- Every call keeps the setup. -/
theorem setupKept_perform (operation : SecretOperation) :
    Keeps SetupKept (operation.perform cryptography) := by
  cases operation with
  | initializeStore salt nonce passphrase =>
      exact .bind SetupKept.trans (setupKept_initializeStore salt nonce passphrase)
        fun _ => .pure SetupKept.refl _
  | unlock passphrase =>
      exact .bind SetupKept.trans (setupKept_unlock passphrase) fun _ => .pure SetupKept.refl _
  | lock => exact .bind SetupKept.trans (setupKept_holdKey none) fun _ => .pure SetupKept.refl _
  | validatePassphrase passphrase =>
      exact .bind SetupKept.trans (setupKept_validatePassphrase passphrase)
        fun _ => .pure SetupKept.refl _
  | setSecret nonce reference value =>
      apply Keeps.bind SetupKept.trans _ fun _ => .pure SetupKept.refl _
      apply setupKept_secret
      intro own key
      apply Keeps.bind SetupKept.trans (.lift SetupKept.refl _)
      intro secret
      apply Keeps.write SetupKept.refl
      intro store _
      exact ⟨rfl, loadEncrypted_putSecret.trans (if_neg own.symm)⟩
  | getSecret reference =>
      apply Keeps.bind SetupKept.trans _ fun _ => .pure SetupKept.refl _
      apply setupKept_secret
      intro own key
      apply Keeps.bind SetupKept.trans (.read SetupKept.refl _)
      intro found
      cases found with
      | none => exact .raise SetupKept.refl _
      | some encrypted => exact .lift SetupKept.refl _
  | deleteSecret reference =>
      apply Keeps.bind SetupKept.trans _ fun _ => .pure SetupKept.refl _
      apply setupKept_secret
      intro own key
      apply Keeps.write SetupKept.refl
      intro store _
      exact ⟨rfl, loadEncrypted_dropSecret.trans (if_neg own.symm)⟩

/-- Every run of calls keeps the setup. -/
theorem setupKept_calls (operations : List SecretOperation) (log : SecretLog Key) :
    SetupKept log.store (operations.foldl (SecretLog.call cryptography) log).store := by
  induction operations generalizing log with
  | nil => exact SetupKept.refl log.store
  | cons operation later inductionHypothesis =>
      exact SetupKept.trans _ _ _ ((setupKept_perform operation).final log.store)
        (inductionHypothesis (log.call cryptography operation))

end Kept

/-! ### The contract -/

section Contract

variable {Key : Type} {cryptography : Cryptography Key} {log : SecretLog Key}

/-- A store unlocks with its first passphrase, and with no other. -/
theorem Consistent.unlock_ok_iff (ideal : cryptography.Ideal) (holds : Consistent cryptography log)
    (attempted : String) :
    result (unlock cryptography attempted) log.store = .ok ⟨⟩ ↔
      initialPassphrase log.history = some attempted := by
  cases holds with
  | blank never _ _ =>
      have went : unlock cryptography attempted (.start .empty) = _ := unlock_of_none rfl attempted
      simp [result, went, never]
  | @ready _ _ passphrase _ initially setUp _ _ =>
      rw [initially, Option.some.injEq]
      by_cases same : passphrase = attempted
      · rw [← same, result, setUp.unlock_apply ideal]
        exact iff_of_true rfl rfl
      · obtain ⟨error, refused⟩ := setUp.unlock_foreign ideal (Ne.symm same)
        rw [result, refused]
        exact iff_of_false (by simp) same

/-- Validation never changes the store, and is affirmed where unlocking would succeed. -/
theorem Consistent.validates (ideal : cryptography.Ideal) (holds : Consistent cryptography log)
    (attempted : String) :
    stops (validatePassphrase cryptography attempted) log.store = [log.store] ∧
      (result (validatePassphrase cryptography attempted) log.store = .ok true ↔
        initialPassphrase log.history = some attempted) := by
  cases holds with
  | blank never _ _ =>
      have went : validatePassphrase cryptography attempted (.start .empty) = _ :=
        validatePassphrase_of_none rfl attempted
      exact ⟨by rw [stops, went], by simp [result, went, never]⟩
  | @ready _ _ passphrase _ initially setUp _ _ =>
      rw [initially, Option.some.injEq]
      by_cases empty : attempted = ""
      · have went := setUp.validatePassphrase_empty
        rw [empty, stops, result, went]
        exact ⟨rfl, iff_of_false (by simp) setUp.given⟩
      · have went := setUp.validatePassphrase_apply ideal empty
        rw [stops, result, went]
        exact ⟨rfl, by simp [eq_comm]⟩

/-- The store is unlocked exactly if its history left it so. -/
theorem Consistent.isUnlocked_eq (holds : Consistent cryptography log) :
    log.store.isUnlocked = unlockedBy log.history := by
  cases holds with
  | blank _ locked => exact locked.symm
  | ready _ _ held _ =>
      rw [SecretStore.isUnlocked]
      rcases held with ⟨key, left⟩ | ⟨key, left⟩
      · rw [key, left]
        rfl
      · rw [key, left]
        rfl

/-- While the store is unlocked, every reference but the reserved one is read as the history
    says. -/
theorem Consistent.reads (ideal : cryptography.Ideal) (holds : Consistent cryptography log)
    (unlocked : log.store.isUnlocked = true) {reference : String}
    (own : reference ≠ canaryReference) :
    result (getSecret cryptography reference) log.store =
      recalled reference (lastValue reference log.history) := by
  cases holds with
  | blank => cases unlocked
  | ready initially setUp held values =>
      rcases held with locked | held
      · rw [SecretStore.isUnlocked, locked.1] at unlocked
        cases unlocked
      · rw [result, getSecret_of_holds ideal held.1 own (values reference own)]

/-- A value is missing exactly when a key error recalls it. -/
theorem recalled_keyError_iff {reference : String} {value : Option Bytes} :
    (∃ message, recalled reference value = .error ⟨.keyError, message⟩) ↔ value = none := by
  cases value with
  | none => exact iff_of_true ⟨reference, rfl⟩ rfl
  | some value => simp [recalled]

/-- What a locked store refuses with. -/
theorem lockedRefusal_cls (reference : String) :
    (lockedRefusal reference).cls =
      if reference = canaryReference then .valueError else .lockedError := by
  rw [lockedRefusal]
  split <;> rfl

/-- A store that had a first passphrase has its parameters. -/
theorem Consistent.parameters_isSome (holds : Consistent cryptography log)
    (initially : initialPassphrase log.history ≠ none) :
    log.store.database.cryptoParameters.isSome = true := by
  cases holds with
  | blank never => exact absurd never initially
  | ready _ setUp _ _ =>
      rw [setUp.stored]
      rfl

/-- A store that is not unlocked refuses every call about a reference. -/
theorem perform_of_not_unlocked {operation : SecretOperation} {reference : String}
    (locked : log.store.isUnlocked = false) (targets : operation.reference? = some reference) :
    operation.perform cryptography log.store = ([], .error (lockedRefusal reference)) := by
  apply perform_of_locked _ targets
  cases held : log.store.key with
  | none => rfl
  | some key =>
      rw [SecretStore.isUnlocked, held] at locked
      cases locked

/-- The contract holds after any calls, with reads promised for all references but the reserved
    one. -/
theorem secretContract_afterCalls (ideal : cryptography.Ideal)
    (operations : List SecretOperation) :
    SecretContract cryptography (fun reference => reference ≠ canaryReference)
      (afterCalls cryptography operations) := by
  have holds := consistent_afterCalls ideal operations
  constructor
  case unlocks => exact holds.unlock_ok_iff ideal
  case validates =>
    intro passphrase
    rw [(holds.validates ideal passphrase).2, holds.unlock_ok_iff ideal]
  case validationKeeps => exact fun passphrase => (holds.validates ideal passphrase).1
  case lockState => exact holds.isUnlocked_eq
  case reads =>
    intro unlocked reference own value last
    rw [holds.reads ideal unlocked own, last]
    rfl
  case readsNothing =>
    intro unlocked reference own
    rw [holds.reads ideal unlocked own]
    exact recalled_keyError_iff
  case lockedRaises =>
    intro locked operation reference targets
    refine ⟨lockedRefusal reference, ?_, lockedRefusal_cls reference⟩
    rw [result, perform_of_not_unlocked locked targets]
  case lockedKeeps =>
    intro locked operation targets
    obtain ⟨reference, targets⟩ := Option.isSome_iff_exists.mp targets
    rw [stops, perform_of_not_unlocked locked targets]
  case setupKept =>
    intro initially later
    exact setupKept_calls later _ (holds.parameters_isSome initially)

/-- A store that is set up, locked, and unlocked again is unlocked, and promises the secret set before.
    -/
theorem secretContract_sample :
    ∃ log : SecretLog Bytes,
      log = afterCalls sampleCryptography
        [.initializeStore sampleSalt sampleNonce "phrase", .setSecret sampleNonce "key" [1, 2],
          .lock, .unlock "wrong", .unlock "phrase"] ∧
      unlockedBy log.history = true ∧ lastValue "key" log.history = some [1, 2] ∧
      SecretContract sampleCryptography (fun reference => reference ≠ canaryReference) log := by
  refine ⟨_, rfl, ?_, ?_, secretContract_afterCalls sampleCryptography_ideal _⟩
  · decide +kernel
  · decide +kernel

/-- Right after its setup an unlocked store has no value for the reserved reference, and answers a
    read of it with a `ValueError`. -/
theorem not_secretContract_of_reserved :
    ¬SecretContract sampleCryptography (fun _ => True)
      (afterCalls sampleCryptography [.initializeStore sampleSalt sampleNonce "phrase"]) := by
  intro contract
  have missing : (SecretStore.start .empty : SecretStore Bytes).database.cryptoParameters = none :=
    rfl
  have given : "phrase" ≠ "" := by decide
  obtain ⟨canary, _, went⟩ :=
    initializeStore_of_none sampleCryptography_ideal missing sampleSalt sampleNonce given
  have log : SecretLog.call sampleCryptography ⟨.start .empty, []⟩
      (.initializeStore sampleSalt sampleNonce "phrase") = ⟨_, _ :: []⟩ :=
    SecretLog.call_of_returns rfl went
  obtain ⟨message, raised⟩ := (contract.readsNothing
    (congrArg (SecretStore.isUnlocked ∘ SecretLog.store) log) canaryReference trivial).mpr
    (congrArg (lastValue canaryReference ∘ SecretLog.history) log)
  rw [result, getSecret, bind_apply_of_refuses (refuseReserved_canary _)] at raised
  cases raised

end Contract

end TallyKeep
