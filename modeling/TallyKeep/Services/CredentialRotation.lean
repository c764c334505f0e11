/-
Module: TallyKeep.Services.CredentialRotation
Layer: Services
Purpose: The credentials a patch of a custodial provider rotates, commit by commit.
Trusted boundary: translation of `patch_provider` in `services/treasury_service.py`
  and of the commit of its endpoint.  The constructors of the registry and `get_permissions` are
  parameters, the random parts of new references are arguments; the statuses the endpoint answers
  with are left out
Main exports: encodeText, decodeText, ProviderPermissions, CredentialPatch, ReferenceSuffixes,
  CredentialReferences, TreasuryProcess, validateCredentials, patchProvider, patchProviderRoute
-/
import TallyKeep.Services.Treasury
import TallyKeep.Infrastructure.Secrets

namespace TallyKeep

open Relational

/-! ### Values of secrets -/

/-- `str.encode`. -/
def encodeText (text : String) : Bytes := text.toUTF8.data.toList

/-- `bytes.decode`. -/
def decodeText (value : Bytes) : Except PyError String :=
  match String.fromUTF8? ⟨value.toArray⟩ with
  | none => .error ⟨.valueError, "'utf-8' codec can't decode bytes"⟩
  | some text => .ok text

/-! ### References -/

/-- `uuid4().hex[:8]`. -/
structure ReferenceSuffix where
  text : String
  length : text.length = 8
  hexadecimal : ∀ c ∈ text.toList, c ∈ "0123456789abcdef".toList

/-- The random parts of the references one rotation makes. -/
structure ReferenceSuffixes where
  apiKey : ReferenceSuffix
  apiSecret : ReferenceSuffix
  apiPassphrase : ReferenceSuffix

/-- `f"provider:{provider_id}:{part}:{uuid4().hex[:8]}"`. -/
def newReference (providerId : Uuid) (part : String) (suffix : ReferenceSuffix) : String :=
  "provider:" ++ toString providerId ++ ":" ++ part ++ ":" ++ suffix.text

/-- The three columns with references of a provider. -/
structure CredentialReferences where
  apiCredential : String
  apiSecret : String
  apiPassphrase : Option String
deriving DecidableEq

def CustodialProviderRow.references (row : CustodialProviderRow) : CredentialReferences :=
  ⟨row.apiCredentialReference, row.apiSecretReference, row.apiPassphraseReference⟩

def CustodialProviderRow.withReferences (row : CustodialProviderRow)
    (references : CredentialReferences) : CustodialProviderRow :=
  { row with
    apiCredentialReference := references.apiCredential
    apiSecretReference := references.apiSecret
    apiPassphraseReference := references.apiPassphrase }

theorem CustodialProviderRow.withReferences_id (references : CredentialReferences)
    (row : CustodialProviderRow) : (row.withReferences references).id = row.id := rfl

namespace CustodialProviderRepo

/-- `update_credentials`. -/
def updateCredentials (db : TreasuryDatabase) (providerId : Uuid)
    (references : CredentialReferences) :
    Except PyError (TreasuryDatabase × Option CustodialProviderRow) :=
  match db.custodialProviders.get? providerId with
  | none => .ok (db, none)
  | some row =>
      (row.withReferences references).postInit.map fun provider =>
        ({ db with
          custodialProviders := db.custodialProviders.update providerId
            (fun row => row.withReferences references)
            (CustodialProviderRow.withReferences_id references) }, some provider)

end CustodialProviderRepo

/-! ### Rotation -/

structure ProviderPermissions where
  canRead : Bool
  canTrade : Bool
  canWithdraw : Bool
  overage : List String := []
  underage : List String := []
deriving DecidableEq

/-- The fields of the patch that concern credentials. -/
structure CredentialPatch where
  apiKey : Option String
  apiSecret : Option String
  apiPassphrase : Option String

/-- What one process works on: the secret store, and the committed tables. -/
structure TreasuryProcess (Key : Type) where
  store : SecretStore Key
  db : TreasuryDatabase

section Rotation

variable {Key : Type}

/-- A call whose steps are commits, of the secret store or of the tables. -/
abbrev ProcessCall (Key α : Type) := Stepwise (TreasuryProcess Key) PyError α

/-- The secret store opens a session for each of its calls, and commits it. -/
def onStore {α : Type} (call : StoreCall Key α) : ProcessCall Key α :=
  call.within TreasuryProcess.store fun process store => { process with store := store }

/-- `session.commit()`. -/
def commitSession (db : TreasuryDatabase) : ProcessCall Key PUnit :=
  .write fun process => { process with db := db }

variable (cryptography : Cryptography Key) (custody : Custody)
  (getPermissions : String → Credentials → Except PyError ProviderPermissions)

/-- `given or secret_store.get_secret(reference).decode()`. -/
def givenOrStored (given : Option String) (reference : String) : ProcessCall Key String :=
  match given with
  | some value =>
      if value = "" then do
        let stored ← onStore (getSecret cryptography reference)
        Stepwise.lift (decodeText stored)
      else pure value
  | none => do
      let stored ← onStore (getSecret cryptography reference)
      Stepwise.lift (decodeText stored)

/-- What `build_adapter` and `get_permissions` answer to new credentials. -/
def newPermissions (adapterId : String) (credentials : Credentials) :
    Except PyError ProviderPermissions := do
  buildAdapter custody adapterId credentials
  getPermissions adapterId credentials

/-- The new credentials are tried on the provider. -/
def validateCredentials (adapterId : String) (credentials : Credentials) : Except PyError Unit :=
  match newPermissions custody getPermissions adapterId credentials with
  | .error error =>
      if error.cls = .providerAuthError then
        .error ⟨.treasuryServiceError, "New credentials are invalid: " ++ error.message⟩
      else if error.cls = .providerError then .error ⟨.providerConnectionError, error.message⟩
      else .error error
  | .ok permissions =>
      if permissions.canTrade then
        .error ⟨.tradePermissionsDetected,
          "New credential still has trade permissions. Use a read+withdraw-only key."⟩
      else .ok ()

/-- The old secrets are purged; a reference that is falsy is skipped. -/
def purgeSecrets (references : CredentialReferences) : ProcessCall Key PUnit := do
  onStore (deleteSecret references.apiCredential)
  onStore (deleteSecret references.apiSecret)
  match references.apiPassphrase with
  | none => pure ⟨⟩
  | some reference =>
      if reference = "" then pure ⟨⟩
      else onStore (deleteSecret reference)

/-- `except KeyError: pass`. -/
def passKeyError (call : ProcessCall Key PUnit) : ProcessCall Key PUnit := do
  match ← call.attempt with
  | .ok _ => pure ⟨⟩
  | .error error => if error.cls = .keyError then pure ⟨⟩ else Stepwise.raise error

/-- The random bytes of the nonces one rotation draws. -/
structure RotationNonces where
  apiKey : Nonce
  apiSecret : Nonce
  apiPassphrase : Nonce

/-- The references a rotation makes. -/
def newReferences (providerId : Uuid) (suffixes : ReferenceSuffixes)
    (apiPassphrase : Option String) : CredentialReferences :=
  ⟨newReference providerId "api_key" suffixes.apiKey,
    newReference providerId "api_secret" suffixes.apiSecret,
    apiPassphrase.map fun _ => newReference providerId "api_passphrase" suffixes.apiPassphrase⟩

/-- The new secrets are stored. -/
def storeSecrets (nonces : RotationNonces) (references : CredentialReferences)
    (credentials : Credentials) : ProcessCall Key PUnit := do
  onStore (setSecret cryptography nonces.apiKey references.apiCredential
    (encodeText credentials.apiKey))
  onStore (setSecret cryptography nonces.apiSecret references.apiSecret
    (encodeText credentials.apiSecret))
  match references.apiPassphrase, credentials.apiPassphrase with
  | some reference, some apiPassphrase =>
      onStore (setSecret cryptography nonces.apiPassphrase reference (encodeText apiPassphrase))
  | _, _ => pure ⟨⟩

/-- `patch_provider`: the session's tables, which the endpoint commits, and the provider. -/
def patchProvider (providerId : Uuid) (patch : CredentialPatch) (hasSecretStore : Bool)
    (suffixes : ReferenceSuffixes) (nonces : RotationNonces) :
    ProcessCall Key (TreasuryDatabase × CustodialProviderRow) := do
  let db ← Stepwise.read TreasuryProcess.db
  match ← Stepwise.lift (CustodialProviderRepo.get db providerId) with
  | none =>
      Stepwise.raise ⟨.providerNotFound,
        "CustodialProvider " ++ toString providerId ++ " not found"⟩
  | some provider =>
      if patch.apiKey = none ∧ patch.apiSecret = none then return (db, provider)
      else if hasSecretStore = false then
        Stepwise.raise ⟨.treasuryServiceError,
          "secret_store is required for credential rotation"⟩
      else
        let newKey ← givenOrStored cryptography patch.apiKey provider.apiCredentialReference
        let newSecret ← givenOrStored cryptography patch.apiSecret provider.apiSecretReference
        let credentials : Credentials := ⟨newKey, newSecret, patch.apiPassphrase⟩
        Stepwise.lift (validateCredentials custody getPermissions provider.adapterId credentials)
        passKeyError (purgeSecrets provider.references)
        let references := newReferences providerId suffixes patch.apiPassphrase
        storeSecrets cryptography nonces references credentials
        let (updatedDb, updated) ←
          Stepwise.lift (CustodialProviderRepo.updateCredentials db providerId references)
        return (updatedDb, updated.getD provider)

/-- A given value that is not empty. -/
def truthy (given : Option String) : Bool := given.any fun value => decide (value ≠ "")

/-- The endpoint: the store is passed where a key or a secret is given, and the session is committed
    at the end. -/
def patchProviderRoute (providerId : Uuid) (patch : CredentialPatch)
    (suffixes : ReferenceSuffixes) (nonces : RotationNonces) :
    ProcessCall Key CustodialProviderRow := do
  let (db, provider) ← patchProvider cryptography custody getPermissions providerId patch
    (truthy patch.apiKey || truthy patch.apiSecret) suffixes nonces
  commitSession db
  return provider

end Rotation

end TallyKeep
