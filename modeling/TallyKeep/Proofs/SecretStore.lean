/-
Module: TallyKeep.Proofs.SecretStore
Layer: Proofs
Purpose: What each call of the secret store does, by the state of the tables it finds.
Trusted boundary: none
Main exports: Seals, Seals.decrypt, Seals.decrypt_foreign, encrypt_ok, loadEncrypted_putSecret,
  loadEncrypted_dropSecret, SetUp, SetUp.unlock_apply, SetUp.unlock_foreign,
  SetUp.validatePassphrase_apply, initializeStore_of_none
-/
import TallyKeep.Infrastructure.Secrets

namespace TallyKeep

open Relational Stepwise

section Cipher

variable {Key : Type} {cryptography : Cryptography Key} {key other : Key} {plaintext : Bytes}
  {secret : EncryptedSecret}

/-- The secret is this plaintext, encrypted under this key. -/
def Seals (cryptography : Cryptography Key) (key : Key) (plaintext : Bytes)
    (secret : EncryptedSecret) : Prop :=
  ∃ nonce, encrypt cryptography nonce plaintext key = .ok secret

/-- Cut into ciphertext and tag, and put together again, what the cipher returned is unchanged. -/
theorem Seals.parts (sealed : Seals cryptography key plaintext secret) :
    secret.ciphertext ++ secret.authenticationTag =
      cryptography.aesgcmEncrypt key secret.nonce plaintext := by
  obtain ⟨nonce, encrypted⟩ := sealed
  simp only [encrypt] at encrypted
  split at encrypted
  · cases encrypted
    exact List.take_append_drop _ _
  · cases encrypted

/-- An ideal cipher encrypts everything. -/
theorem encrypt_ok (ideal : cryptography.Ideal) (nonce : Nonce) (plaintext : Bytes) (key : Key) :
    ∃ secret, encrypt cryptography nonce plaintext key = .ok secret := by
  have long := ideal.tagged key nonce.val plaintext
  simp only [encrypt]
  rw [dif_pos (by rw [List.length_drop]; omega)]
  exact ⟨_, rfl⟩

/-- What a key seals it opens again. -/
theorem Seals.decrypt (ideal : cryptography.Ideal)
    (sealed : Seals cryptography key plaintext secret) :
    TallyKeep.decrypt cryptography secret key = .ok plaintext := by
  rw [TallyKeep.decrypt, sealed.parts, ideal.opens]

/-- What a key seals no other key opens. -/
theorem Seals.decrypt_foreign (ideal : cryptography.Ideal)
    (sealed : Seals cryptography key plaintext secret) (foreign : other ≠ key) :
    TallyKeep.decrypt cryptography secret other = .error ⟨.invalidTag, ""⟩ := by
  rw [TallyKeep.decrypt, sealed.parts, ideal.refuses key other _ _ foreign]

end Cipher

/-! ### Tables -/

section Tables

variable {database : SecretDatabase} {reference other : String} {secret : EncryptedSecret}

/-- A secret that is put is read back, and the others are as they were. -/
theorem loadEncrypted_putSecret :
    loadEncrypted (database.putSecret reference secret) other =
      if other = reference then some secret else loadEncrypted database other := by
  simp only [loadEncrypted, SecretDatabase.putSecret]
  split
  case h_1 absent =>
      have fresh : database.secrets.get? (key (⟨reference, secret⟩ : SecretRow)) = none := absent
      rw [Table.get?_insert_of_fresh fresh]
      change Option.map _ (if other = reference then _ else _) = _
      split <;> rfl
  case h_2 row found =>
      rw [Table.get?_update]
      split
      · rw [found]
        rfl
      · rfl

/-- A secret that is dropped is gone, and the others are as they were. -/
theorem loadEncrypted_dropSecret :
    loadEncrypted (database.dropSecret reference) other =
      if other = reference then none else loadEncrypted database other := by
  rw [loadEncrypted, SecretDatabase.dropSecret, Table.get?_delete]
  cases found : database.secrets.get? other with
  | none => simp [loadEncrypted, found]
  | some row =>
      have stored : row.reference = other := Table.key_of_get? found
      by_cases same : other = reference
      · simp [stored, same, Option.filter]
      · simp [stored, same, loadEncrypted, found, Option.filter]

end Tables

/-! ### Calls -/

section Calls

variable {Key : Type} {cryptography : Cryptography Key} {store : SecretStore Key}
  {reference : String}

theorem readKdfParameters_apply (store : SecretStore Key) :
    readKdfParameters store = ([], loadKdfParameters store.database) := rfl

/-- Stored parameters are loaded as they were stored. -/
theorem loadKdfParameters_ofParameters {database : SecretDatabase} {parameters : KdfParameters}
    (stored : database.cryptoParameters = some (.ofParameters parameters)) :
    loadKdfParameters database = .ok (some parameters) := by
  rw [loadKdfParameters, stored]
  exact if_pos rfl

theorem loadKdfParameters_none {database : SecretDatabase}
    (missing : database.cryptoParameters = none) : loadKdfParameters database = .ok none := by
  rw [loadKdfParameters, missing]

/-- What `is_initialized` answers decides whether `initialize` goes on. -/
theorem isInitialized_apply {parameters : Option KdfParameters}
    (loaded : loadKdfParameters store.database = .ok parameters) :
    isInitialized store = ([], .ok parameters.isSome) := by
  rw [isInitialized, bind_apply_of_reads (a := parameters)]
  · rfl
  · rw [readKdfParameters_apply, loaded]

/-! #### Before the first run -/

/-- Without parameters there is no canary to read. -/
theorem readCanary_of_none (missing : store.database.cryptoParameters = none)
    (passphrase : String) :
    readCanary cryptography passphrase store =
      ([], .error ⟨.notInitializedError, "Secret store has not been initialized"⟩) := by
  rw [readCanary, bind_apply_of_reads (a := none)]
  · rfl
  · rw [readKdfParameters_apply, loadKdfParameters_none missing]

/-- A store that was not initialised can't be unlocked. -/
theorem unlock_of_none (missing : store.database.cryptoParameters = none) (passphrase : String) :
    unlock cryptography passphrase store =
      ([], .error ⟨.notInitializedError, "Secret store has not been initialized"⟩) := by
  rw [unlock, bind_apply_of_refuses (readCanary_of_none missing passphrase)]

/-- A store that was not initialised validates nothing. -/
theorem validatePassphrase_of_none (missing : store.database.cryptoParameters = none)
    (passphrase : String) :
    validatePassphrase cryptography passphrase store =
      ([], .error ⟨.notInitializedError, "Secret store has not been initialized"⟩) := by
  rw [validatePassphrase, bind_apply_of_refuses (readCanary_of_none missing passphrase)]

/-- A store is not initialised with an empty passphrase. -/
theorem initializeStore_empty (missing : store.database.cryptoParameters = none) (salt : Salt)
    (nonce : Nonce) :
    initializeStore cryptography salt nonce "" store =
      ([], .error ⟨.valueError, "passphrase cannot be empty"⟩) := by
  rw [initializeStore, bind_apply_of_reads (isInitialized_apply (loadKdfParameters_none missing))]
  rfl

/-- The first run: the parameters are committed, then the canary, then the key is held. -/
theorem initializeStore_of_none (ideal : cryptography.Ideal)
    (missing : store.database.cryptoParameters = none) (salt : Salt) (nonce : Nonce)
    {passphrase : String} (given : passphrase ≠ "") :
    ∃ canary,
      Seals cryptography (cryptography.hashSecretRaw passphrase (freshParameters salt))
        canaryPlaintext canary ∧
      initializeStore cryptography salt nonce passphrase store =
        ([store.withDatabase (store.database.addParameters (freshParameters salt)),
          store.withDatabase ((store.database.addParameters (freshParameters salt)).putSecret
            canaryReference canary),
          (store.withDatabase ((store.database.addParameters (freshParameters salt)).putSecret
            canaryReference canary)).withKey
              (some (cryptography.hashSecretRaw passphrase (freshParameters salt)))], .ok ⟨⟩) := by
  obtain ⟨canary, encrypted⟩ := encrypt_ok ideal nonce canaryPlaintext
    (cryptography.hashSecretRaw passphrase (freshParameters salt))
  refine ⟨canary, ⟨nonce, encrypted⟩, ?_⟩
  have derived : deriveKey cryptography passphrase (freshParameters salt) =
      .ok (cryptography.hashSecretRaw passphrase (freshParameters salt)) := if_neg given
  have added : storeKdfParameters (freshParameters salt) store =
      ([store.withDatabase (store.database.addParameters (freshParameters salt))], .ok ⟨⟩) := by
    rw [storeKdfParameters, read_bind_apply, missing]
    rfl
  rw [initializeStore, bind_apply_of_reads (isInitialized_apply (loadKdfParameters_none missing))]
  simp only [Option.isSome_none, Bool.false_eq_true, if_false, derived, lift_ok_bind_apply]
  rw [bind_apply_of_returns added, encrypted]
  rfl

/-! #### After setup -/

/-- The tables were set up under a passphrase: the parameters are there, and the canary is sealed by
    the key they derive from it. -/
structure SetUp (cryptography : Cryptography Key) (database : SecretDatabase)
    (parameters : KdfParameters) (passphrase : String) : Prop where
  given : passphrase ≠ ""
  stored : database.cryptoParameters = some (.ofParameters parameters)
  canary : ∃ canary, loadEncrypted database canaryReference = some canary ∧
    Seals cryptography (cryptography.hashSecretRaw passphrase parameters) canaryPlaintext canary

variable {parameters : KdfParameters} {passphrase : String}

/-- Setup survives whatever is stored under other references. -/
theorem SetUp.of_canary {database after : SecretDatabase}
    (setUp : SetUp cryptography database parameters passphrase)
    (sameParameters : after.cryptoParameters = database.cryptoParameters)
    (sameCanary : loadEncrypted after canaryReference = loadEncrypted database canaryReference) :
    SetUp cryptography after parameters passphrase := by
  obtain ⟨given, stored, canary⟩ := setUp
  exact ⟨given, sameParameters.trans stored, by rw [sameCanary]; exact canary⟩

/-- A store whose canary is missing refuses every passphrase. -/
theorem readCanary_of_missing (stored : store.database.cryptoParameters =
    some (.ofParameters parameters)) (missing : loadEncrypted store.database canaryReference = none)
    (attempted : String) : ∃ error, readCanary cryptography attempted store = ([], .error error) := by
  have loaded : readKdfParameters store = ([], .ok (some parameters)) := by
    rw [readKdfParameters_apply, loadKdfParameters_ofParameters stored]
  rw [readCanary, bind_apply_of_reads loaded]
  by_cases empty : attempted = ""
  · simp only [deriveKey, if_pos empty, lift_error_bind_apply]
    exact ⟨_, rfl⟩
  · simp only [deriveKey, if_neg empty, lift_ok_bind_apply, read_bind_apply, missing]
    exact ⟨_, rfl⟩

/-- A store is not initialised twice. -/
theorem initializeStore_of_stored (stored : store.database.cryptoParameters =
    some (.ofParameters parameters)) (salt : Salt) (nonce : Nonce) (attempted : String) :
    initializeStore cryptography salt nonce attempted store =
      ([], .error ⟨.alreadyInitializedError, "Secret store already initialized"⟩) := by
  rw [initializeStore,
    bind_apply_of_reads (isInitialized_apply (loadKdfParameters_ofParameters stored))]
  rfl

namespace SetUp

variable (setUp : SetUp cryptography store.database parameters passphrase)

include setUp

/-- No canary is read with an empty passphrase. -/
theorem readCanary_empty :
    readCanary cryptography "" store =
      ([], .error ⟨.valueError, "passphrase cannot be empty"⟩) := by
  have loaded : readKdfParameters store = ([], .ok (some parameters)) := by
    rw [readKdfParameters_apply, loadKdfParameters_ofParameters setUp.stored]
  rw [readCanary, bind_apply_of_reads loaded]
  rfl

/-- The canary is read with the key that the attempted passphrase derives. -/
theorem readCanary_apply {attempted : String} (nonempty : attempted ≠ "") :
    ∃ canary,
      Seals cryptography (cryptography.hashSecretRaw passphrase parameters) canaryPlaintext
        canary ∧
      readCanary cryptography attempted store =
        ([], .ok (cryptography.hashSecretRaw attempted parameters, canary)) := by
  obtain ⟨canary, found, sealed⟩ := setUp.canary
  have loaded : readKdfParameters store = ([], .ok (some parameters)) := by
    rw [readKdfParameters_apply, loadKdfParameters_ofParameters setUp.stored]
  refine ⟨canary, sealed, ?_⟩
  rw [readCanary, bind_apply_of_reads loaded]
  simp only [deriveKey, if_neg nonempty, lift_ok_bind_apply, read_bind_apply, found]
  rfl

/-- The passphrase of the setup unlocks. -/
theorem unlock_apply (ideal : cryptography.Ideal) :
    unlock cryptography passphrase store =
      ([store.withKey (some (cryptography.hashSecretRaw passphrase parameters))], .ok ⟨⟩) := by
  obtain ⟨canary, sealed, read⟩ := setUp.readCanary_apply setUp.given
  rw [unlock, bind_apply_of_reads read]
  simp only [sealed.decrypt ideal, ne_eq, not_true_eq_false, if_false]
  rfl

/-- Any other passphrase is refused, and leaves the store as it was. -/
theorem unlock_foreign (ideal : cryptography.Ideal) {attempted : String}
    (foreign : attempted ≠ passphrase) :
    ∃ error, unlock cryptography attempted store = ([], .error error) := by
  by_cases empty : attempted = ""
  · rw [empty, unlock, bind_apply_of_refuses setUp.readCanary_empty]
    exact ⟨_, rfl⟩
  · obtain ⟨canary, sealed, read⟩ := setUp.readCanary_apply empty
    have apart := (ideal.derivesApart parameters).ne foreign
    rw [unlock, bind_apply_of_reads read]
    simp only [sealed.decrypt_foreign ideal apart, if_true]
    exact ⟨_, rfl⟩

/-- Validation answers whether the passphrase is the one of the store. -/
theorem validatePassphrase_apply (ideal : cryptography.Ideal) {attempted : String}
    (nonempty : attempted ≠ "") :
    validatePassphrase cryptography attempted store =
      ([], .ok (decide (attempted = passphrase))) := by
  obtain ⟨canary, sealed, read⟩ := setUp.readCanary_apply nonempty
  rw [validatePassphrase, bind_apply_of_reads read]
  by_cases same : attempted = passphrase
  · rw [same]
    simp only [sealed.decrypt ideal, decide_true]
    rfl
  · have apart := (ideal.derivesApart parameters).ne same
    simp only [sealed.decrypt_foreign ideal apart, if_true, decide_eq_false same]
    rfl

/-- An empty passphrase is refused before anything is derived. -/
theorem validatePassphrase_empty :
    validatePassphrase cryptography "" store =
      ([], .error ⟨.valueError, "passphrase cannot be empty"⟩) := by
  rw [validatePassphrase, bind_apply_of_refuses setUp.readCanary_empty]

end SetUp

/-! #### Secrets -/

/-- References other than the canary's are free to use. -/
theorem refuseReserved_apply (store : SecretStore Key) (own : reference ≠ canaryReference) :
    refuseReserved reference store = ([], .ok ⟨⟩) := by
  rw [refuseReserved, if_neg own]
  rfl

theorem refuseReserved_canary (store : SecretStore Key) :
    refuseReserved canaryReference store =
      ([], .error ⟨.valueError, "Reference '" ++ canaryReference ++ "' is reserved"⟩) := rfl

/-- A locked store refuses. -/
theorem requireUnlocked_locked (locked : store.key = none) :
    requireUnlocked store = ([], .error ⟨.lockedError, "Secret store is locked"⟩) := by
  rw [requireUnlocked, read_bind_apply, locked]
  rfl

/-- An unlocked store hands out its key. -/
theorem requireUnlocked_apply {key : Key} (held : store.key = some key) :
    requireUnlocked store = ([], .ok key) := by
  rw [requireUnlocked, read_bind_apply, held]
  rfl

/-- A secret is put sealed with the key of the store. -/
theorem setSecret_apply (ideal : cryptography.Ideal) {key : Key} (held : store.key = some key)
    (own : reference ≠ canaryReference) (nonce : Nonce) (value : Bytes) :
    ∃ secret, Seals cryptography key value secret ∧
      setSecret cryptography nonce reference value store =
        ([store.withDatabase (store.database.putSecret reference secret)], .ok ⟨⟩) := by
  obtain ⟨secret, encrypted⟩ := encrypt_ok ideal nonce value key
  refine ⟨secret, ⟨nonce, encrypted⟩, ?_⟩
  rw [setSecret, bind_apply_of_reads (refuseReserved_apply store own),
    bind_apply_of_reads (requireUnlocked_apply held), encrypted, lift_ok_bind_apply]
  rfl

/-- A secret is read and decrypted with the key of the store. -/
theorem getSecret_apply {key : Key} (held : store.key = some key)
    (own : reference ≠ canaryReference) :
    getSecret cryptography reference store =
      ([], match loadEncrypted store.database reference with
        | none => .error ⟨.keyError, reference⟩
        | some encrypted => decrypt cryptography encrypted key) := by
  rw [getSecret, bind_apply_of_reads (refuseReserved_apply store own),
    bind_apply_of_reads (requireUnlocked_apply held), read_bind_apply]
  cases loadEncrypted store.database reference with
  | none => rfl
  | some encrypted => rfl

/-- A secret is deleted from an unlocked store. -/
theorem deleteSecret_apply {key : Key} (held : store.key = some key)
    (own : reference ≠ canaryReference) :
    deleteSecret reference store =
      ([store.withDatabase (store.database.dropSecret reference)], .ok ⟨⟩) := by
  rw [deleteSecret, bind_apply_of_reads (refuseReserved_apply store own),
    bind_apply_of_reads (requireUnlocked_apply held)]
  rfl

/-- What a locked store answers to an operation on a secret. -/
def lockedRefusal (reference : String) : PyError :=
  if reference = canaryReference then
    ⟨.valueError, "Reference '" ++ canaryReference ++ "' is reserved"⟩
  else ⟨.lockedError, "Secret store is locked"⟩

/-- Reserved references are refused first, and a locked store refuses every other one. -/
theorem refuses_of_locked {α : Type} (next : Key → StoreCall Key α) (locked : store.key = none)
    (reference : String) :
    (do refuseReserved reference; let key ← requireUnlocked; next key : StoreCall Key α) store =
      ([], .error (lockedRefusal reference)) := by
  by_cases reserved : reference = canaryReference
  · rw [reserved, bind_apply_of_refuses (refuseReserved_canary store)]
    rfl
  · rw [bind_apply_of_reads (refuseReserved_apply store reserved),
      bind_apply_of_refuses (requireUnlocked_locked locked), lockedRefusal, if_neg reserved]

end Calls

/-! ### An ideal cipher -/

/-- A key written so that no key begins another. -/
def sampleHeader : Bytes → Bytes
  | [] => [0]
  | byte :: rest => 1 :: byte :: sampleHeader rest

/-- What follows a key, where the text begins with it. -/
def sampleBody : Bytes → Bytes → Option Bytes
  | [], 0 :: text => some text
  | byte :: key, 1 :: first :: text => if byte = first then sampleBody key text else none
  | _, _ => none

/-- A cipher that writes the key in front and sixteen bytes behind, with the passphrase as key. -/
def sampleCryptography : Cryptography Bytes where
  hashSecretRaw passphrase _ := passphrase.toUTF8.data.toList
  aesgcmEncrypt key _ plaintext := sampleHeader key ++ (plaintext ++ List.replicate gcmTagSize 0)
  aesgcmDecrypt key _ text :=
    (sampleBody key text).map fun body => body.take (body.length - gcmTagSize)

/-- The sample cipher opens what has the header of the key. -/
theorem sampleBody_header (key text : Bytes) : sampleBody key (sampleHeader key ++ text) = some text := by
  induction key with
  | nil => rfl
  | cons byte rest inductionHypothesis =>
      change (if byte = byte then sampleBody rest (sampleHeader rest ++ text) else none) = _
      rw [if_pos rfl, inductionHypothesis]

/-- The sample cipher refuses a foreign header. -/
theorem sampleBody_foreign {key other : Bytes} (foreign : other ≠ key) (text : Bytes) :
    sampleBody other (sampleHeader key ++ text) = none := by
  induction key generalizing other with
  | nil =>
      cases other with
      | nil => exact absurd rfl foreign
      | cons byte rest => rfl
  | cons byte rest inductionHypothesis =>
      cases other with
      | nil => rfl
      | cons first later =>
          change (if first = byte then sampleBody later (sampleHeader rest ++ text) else none) = _
          split
          · next same => exact inductionHypothesis fun equal => foreign (by rw [same, equal])
          · rfl

/-- The sample cipher is an ideal one. -/
theorem sampleCryptography_ideal : sampleCryptography.Ideal where
  derivesApart := by
    intro _ passphrase other same
    have bytes : passphrase.toUTF8.data.toList = other.toUTF8.data.toList := same
    rw [Array.toList_inj, String.toUTF8_eq_toByteArray, String.toUTF8_eq_toByteArray] at bytes
    exact String.toByteArray_inj.mp (ByteArray.ext bytes)
  tagged := by
    intro key nonce plaintext
    simp only [sampleCryptography, List.length_append, List.length_replicate]
    omega
  opens := by
    intro key nonce plaintext
    simp only [sampleCryptography, sampleBody_header, Option.map_some, List.length_append,
      List.length_replicate, Nat.add_sub_cancel]
    rw [List.take_left]
  refuses := by
    intro key other nonce plaintext foreign
    simp only [sampleCryptography, sampleBody_foreign foreign, Option.map_none]

def sampleSalt : Salt := ⟨List.replicate 16 7, rfl⟩

def sampleNonce : Nonce := ⟨List.replicate 12 9, rfl⟩

end TallyKeep
