/-
Module: TallyKeep.Infrastructure.Secrets
Layer: Infrastructure
Purpose: The secret store over the database, with the cryptography it calls.
Trusted boundary: translation of `infrastructure/secrets.py` and of
  `infrastructure/cryptography.py`.  Argon2id and AES-256-GCM are parameters; a key is opaque, so its
  32 bytes are not checked.  Random salts and nonces are arguments.  The in-memory test double is
  left out
Main exports: KdfParameters, EncryptedSecret, Cryptography, Cryptography.Ideal, SecretDatabase,
  SecretStore, initializeStore, unlock, lock, validatePassphrase, setSecret, getSecret, deleteSecret,
  SecretOperation, SecretOperation.perform
-/
import TallyKeep.Domain
import TallyKeep.Library.Stepwise
import TallyKeep.Library.Table

namespace TallyKeep

open Relational

abbrev Bytes := List UInt8

/-! ### Cryptography -/

def kdfAlgorithm : String := "argon2id"

def encryptionAlgorithm : String := "aes-256-gcm"

def kdfSaltSize : Nat := 16

def gcmNonceSize : Nat := 12

def gcmTagSize : Nat := 16

def defaultKdfMemoryCostKib : Nat := 65536

def defaultKdfTimeCost : Nat := 3

def defaultKdfParallelism : Nat := 4

/-- Argon2id parameters, as `KdfParameters.__post_init__` accepts them. -/
structure KdfParameters where
  salt : Bytes
  memoryCostKib : Nat
  timeCost : Nat
  parallelism : Nat
  saltSize : salt.length = kdfSaltSize
  memoryCostBound : 8 ≤ memoryCostKib
  timeCostBound : 1 ≤ timeCost
  parallelismBound : 1 ≤ parallelism
deriving DecidableEq

/-- An encrypted secret, as `EncryptedSecret.__post_init__` accepts it. -/
structure EncryptedSecret where
  ciphertext : Bytes
  nonce : Bytes
  authenticationTag : Bytes
  nonceSize : nonce.length = gcmNonceSize
  tagSize : authenticationTag.length = gcmTagSize
deriving DecidableEq

/-- What `generate_salt` returns. -/
abbrev Salt := { salt : Bytes // salt.length = kdfSaltSize }

/-- What `secrets.token_bytes(GCM_NONCE_SIZE)` returns. -/
abbrev Nonce := { nonce : Bytes // nonce.length = gcmNonceSize }

/-- `argon2.hash_secret_raw`, and `AESGCM(key)` with its two methods: `encrypt` returns the
    ciphertext with the tag behind it, `decrypt` raises `InvalidTag` where there is no plaintext. -/
structure Cryptography (Key : Type) where
  hashSecretRaw : String → KdfParameters → Key
  aesgcmEncrypt : Key → Bytes → Bytes → Bytes
  aesgcmDecrypt : Key → Bytes → Bytes → Option Bytes

/-- An ideal cipher, which only the key it encrypted with opens, and an injective derivation. -/
structure Cryptography.Ideal {Key : Type} (cryptography : Cryptography Key) : Prop where
  derivesApart : ∀ parameters, Function.Injective fun passphrase =>
    cryptography.hashSecretRaw passphrase parameters
  tagged : ∀ key nonce plaintext,
    gcmTagSize ≤ (cryptography.aesgcmEncrypt key nonce plaintext).length
  opens : ∀ key nonce plaintext,
    cryptography.aesgcmDecrypt key nonce (cryptography.aesgcmEncrypt key nonce plaintext) =
      some plaintext
  refuses : ∀ key other nonce plaintext, other ≠ key →
    cryptography.aesgcmDecrypt other nonce (cryptography.aesgcmEncrypt key nonce plaintext) = none

section Primitives

variable {Key : Type} (cryptography : Cryptography Key)

def deriveKey (passphrase : String) (parameters : KdfParameters) : Except PyError Key :=
  if passphrase = "" then .error ⟨.valueError, "passphrase cannot be empty"⟩
  else .ok (cryptography.hashSecretRaw passphrase parameters)

/-- `encrypt`: the tag is cut off from the end of what the cipher returns. -/
def encrypt (nonce : Nonce) (plaintext : Bytes) (key : Key) : Except PyError EncryptedSecret :=
  let ciphertextAndTag := cryptography.aesgcmEncrypt key nonce.val plaintext
  let ciphertext := ciphertextAndTag.take (ciphertextAndTag.length - gcmTagSize)
  let tag := ciphertextAndTag.drop (ciphertextAndTag.length - gcmTagSize)
  if tagSize : tag.length = gcmTagSize then
    .ok ⟨ciphertext, nonce.val, tag, nonce.property, tagSize⟩
  else .error ⟨.valueError, "GCM authentication tag must be 16 bytes"⟩

def decrypt (secret : EncryptedSecret) (key : Key) : Except PyError Bytes :=
  match cryptography.aesgcmDecrypt key secret.nonce
      (secret.ciphertext ++ secret.authenticationTag) with
  | none => .error ⟨.invalidTag, ""⟩
  | some plaintext => .ok plaintext

end Primitives

/-! ### The store -/

def canaryReference : String := "__canary__"

def canaryPlaintext : Bytes := "tallykeep canary v1".toUTF8.data.toList

structure CryptoParametersRow where
  kdfAlgorithm : String
  parameters : KdfParameters
  encryptionAlgorithm : String
deriving DecidableEq

structure SecretRow where
  reference : String
  secret : EncryptedSecret
deriving DecidableEq

instance : Keyed SecretRow String := ⟨SecretRow.reference⟩

/-- The committed tables.  `crypto_parameters` holds one row at most, under a fixed id. -/
structure SecretDatabase where
  cryptoParameters : Option CryptoParametersRow
  secrets : Table SecretRow

/-- The tables before first-run setup. -/
def SecretDatabase.empty : SecretDatabase := ⟨none, .empty⟩

/-- The store of one process: the key in memory, and the database. -/
structure SecretStore (Key : Type) where
  key : Option Key
  database : SecretDatabase

/-- The store of a process that was just started. -/
def SecretStore.start {Key : Type} (database : SecretDatabase) : SecretStore Key := ⟨none, database⟩

section Store

variable {Key : Type}

def SecretStore.isUnlocked (store : SecretStore Key) : Bool := store.key.isSome

def SecretStore.withKey (store : SecretStore Key) (key : Option Key) : SecretStore Key :=
  { store with key := key }

def SecretStore.withDatabase (store : SecretStore Key) (database : SecretDatabase) :
    SecretStore Key :=
  { store with database := database }

def loadKdfParameters (database : SecretDatabase) : Except PyError (Option KdfParameters) :=
  match database.cryptoParameters with
  | none => .ok none
  | some row =>
      if row.kdfAlgorithm = kdfAlgorithm then .ok (some row.parameters)
      else
        .error ⟨.runtimeError,
          "Unsupported KDF algorithm in database: '" ++ row.kdfAlgorithm ++ "'"⟩

/-- The row `_store_kdf_parameters` adds. -/
def CryptoParametersRow.ofParameters (parameters : KdfParameters) : CryptoParametersRow :=
  ⟨TallyKeep.kdfAlgorithm, parameters, TallyKeep.encryptionAlgorithm⟩

def SecretDatabase.addParameters (database : SecretDatabase) (parameters : KdfParameters) :
    SecretDatabase :=
  { database with cryptoParameters := some (.ofParameters parameters) }

/-- The row under a reference is added, or its columns are set. -/
def SecretDatabase.putSecret (database : SecretDatabase) (reference : String)
    (secret : EncryptedSecret) : SecretDatabase :=
  { database with
    secrets :=
      match database.secrets.get? reference with
      | none => database.secrets.insert ⟨reference, secret⟩
      | some _ => database.secrets.update reference fun row => { row with secret := secret } }

def SecretDatabase.dropSecret (database : SecretDatabase) (reference : String) : SecretDatabase :=
  { database with secrets := database.secrets.delete fun row => decide (row.reference = reference) }

def loadEncrypted (database : SecretDatabase) (reference : String) : Option EncryptedSecret :=
  (database.secrets.get? reference).map SecretRow.secret

/-- A call of the store: its steps are the commits and the changes of the key in memory. -/
abbrev StoreCall (Key α : Type) := Stepwise (SecretStore Key) PyError α

/-- Set the key in memory. -/
def holdKey (key : Option Key) : StoreCall Key PUnit := .write fun store => store.withKey key

/-- Parameters that are there already violate the key of their table. -/
def storeKdfParameters (parameters : KdfParameters) : StoreCall Key PUnit := do
  match ← Stepwise.read fun store => store.database.cryptoParameters with
  | some _ => Stepwise.raise ⟨.integrityError, "crypto_parameters_pkey"⟩
  | none =>
      Stepwise.write fun store => store.withDatabase (store.database.addParameters parameters)

def storeEncrypted (reference : String) (secret : EncryptedSecret) : StoreCall Key PUnit :=
  .write fun store => store.withDatabase (store.database.putSecret reference secret)

def deleteEncrypted (reference : String) : StoreCall Key PUnit :=
  .write fun store => store.withDatabase (store.database.dropSecret reference)

/-- The parameters, read in a session of its own. -/
def readKdfParameters : StoreCall Key (Option KdfParameters) := do
  let loaded ← Stepwise.read fun store => loadKdfParameters store.database
  Stepwise.lift loaded

def isInitialized : StoreCall Key Bool := do
  let parameters ← readKdfParameters
  return parameters.isSome

def requireUnlocked : StoreCall Key Key := do
  match ← Stepwise.read SecretStore.key with
  | none => Stepwise.raise ⟨.lockedError, "Secret store is locked"⟩
  | some key => return key

/-- The parameters `initialize` makes. -/
def freshParameters (salt : Salt) : KdfParameters where
  salt := salt.val
  memoryCostKib := defaultKdfMemoryCostKib
  timeCost := defaultKdfTimeCost
  parallelism := defaultKdfParallelism
  saltSize := salt.property
  memoryCostBound := by decide
  timeCostBound := by decide
  parallelismBound := by decide

variable (cryptography : Cryptography Key)

/-- `initialize`. -/
def initializeStore (salt : Salt) (nonce : Nonce) (passphrase : String) : StoreCall Key PUnit := do
  if ← isInitialized then
    Stepwise.raise ⟨.alreadyInitializedError, "Secret store already initialized"⟩
  else
    let key ← Stepwise.lift (deriveKey cryptography passphrase (freshParameters salt))
    storeKdfParameters (freshParameters salt)
    let canary ← Stepwise.lift (encrypt cryptography nonce canaryPlaintext key)
    storeEncrypted canaryReference canary
    holdKey (some key)

/-- The first lines of `unlock` and of `validate_passphrase`: the key a passphrase derives, and the
    canary to try it on. -/
def readCanary (passphrase : String) : StoreCall Key (Key × EncryptedSecret) := do
  match ← readKdfParameters with
  | none => Stepwise.raise ⟨.notInitializedError, "Secret store has not been initialized"⟩
  | some parameters =>
      let key ← Stepwise.lift (deriveKey cryptography passphrase parameters)
      match ← Stepwise.read fun store => loadEncrypted store.database canaryReference with
      | none =>
          Stepwise.raise ⟨.notInitializedError,
            "Crypto parameters are present but the canary is missing"⟩
      | some canary => return (key, canary)

def unlock (passphrase : String) : StoreCall Key PUnit := do
  let (key, canary) ← readCanary cryptography passphrase
  match decrypt cryptography canary key with
  | .error error =>
      if error.cls = .invalidTag then
        Stepwise.raise ⟨.wrongPassphraseError, "Passphrase failed canary verification"⟩
      else Stepwise.raise error
  | .ok decrypted =>
      if decrypted ≠ canaryPlaintext then
        Stepwise.raise ⟨.wrongPassphraseError, "Canary plaintext mismatch"⟩
      else holdKey (some key)

def validatePassphrase (passphrase : String) : StoreCall Key Bool := do
  let (key, canary) ← readCanary cryptography passphrase
  match decrypt cryptography canary key with
  | .error error => if error.cls = .invalidTag then return false else Stepwise.raise error
  | .ok decrypted => return decide (decrypted = canaryPlaintext)

def lock : StoreCall Key PUnit := holdKey none

/-- The check every operation on a secret starts with. -/
def refuseReserved (reference : String) : StoreCall Key PUnit :=
  if reference = canaryReference then
    Stepwise.raise ⟨.valueError, "Reference '" ++ canaryReference ++ "' is reserved"⟩
  else pure ⟨⟩

def setSecret (nonce : Nonce) (reference : String) (value : Bytes) : StoreCall Key PUnit := do
  refuseReserved reference
  let key ← requireUnlocked
  let secret ← Stepwise.lift (encrypt cryptography nonce value key)
  storeEncrypted reference secret

def getSecret (reference : String) : StoreCall Key Bytes := do
  refuseReserved reference
  let key ← requireUnlocked
  match ← Stepwise.read fun store => loadEncrypted store.database reference with
  | none => Stepwise.raise ⟨.keyError, reference⟩
  | some encrypted => Stepwise.lift (decrypt cryptography encrypted key)

def deleteSecret (reference : String) : StoreCall Key PUnit := do
  refuseReserved reference
  let _ ← requireUnlocked
  deleteEncrypted reference

/-! ### Runs of the store -/

/-- A call with its arguments, and the random bytes it draws. -/
inductive SecretOperation where
  | initializeStore (salt : Salt) (nonce : Nonce) (passphrase : String)
  | unlock (passphrase : String)
  | lock
  | validatePassphrase (passphrase : String)
  | setSecret (nonce : Nonce) (reference : String) (value : Bytes)
  | getSecret (reference : String)
  | deleteSecret (reference : String)
deriving DecidableEq

/-- What a call returns. -/
inductive SecretAnswer where
  | done
  | valid (correct : Bool)
  | secret (value : Bytes)
deriving DecidableEq

/-- One call. -/
def SecretOperation.perform : SecretOperation → StoreCall Key SecretAnswer
  | .initializeStore salt nonce passphrase => do
      TallyKeep.initializeStore cryptography salt nonce passphrase
      return .done
  | .unlock passphrase => do
      TallyKeep.unlock cryptography passphrase
      return .done
  | .lock => do
      TallyKeep.lock
      return .done
  | .validatePassphrase passphrase => do
      let correct ← TallyKeep.validatePassphrase cryptography passphrase
      return .valid correct
  | .setSecret nonce reference value => do
      TallyKeep.setSecret cryptography nonce reference value
      return .done
  | .getSecret reference => do
      let value ← TallyKeep.getSecret cryptography reference
      return .secret value
  | .deleteSecret reference => do
      TallyKeep.deleteSecret reference
      return .done

end Store

end TallyKeep
