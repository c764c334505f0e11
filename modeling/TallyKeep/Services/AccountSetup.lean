/-
Module: TallyKeep.Services.AccountSetup
Layer: Services
Purpose: The calls that put credentials of a provider into the secret store: validation, which hands
  out setup tokens, creation of an account, with or without one, and rotation; with a record of what
  they asked the provider and what they stored.
Trusted boundary: translation of `_new_setup_token`, `_consume_setup_token` and the
  two account endpoints of `api/v1/holdings.py`, and of `validate_account_credentials`,
  `create_account_holding` and `patch_provider` in `services/treasury_service.py`.  The statuses the
  endpoints answer with and the rows of ledger entries are left out
Main exports: ProviderAnswers, AccountPreview, SetupEntry, CredentialEvent, AccountSetup,
  newSetupToken, consumeSetupToken, validateAccountCredentials, createAccountHolding,
  patchCredentials, SetupOperation, setupStep
-/
import TallyKeep.Adapters.Kraken
import TallyKeep.Services.CredentialRotation
import TallyKeep.Services.Holding

namespace TallyKeep

open Relational

/-! ### The provider -/

/-- What the adapter of a provider answers, for each adapter and each credentials. -/
structure ProviderAnswers where
  custody : Custody
  getPermissions : String → Credentials → Except PyError ProviderPermissions
  getBalance : String → Credentials → Except PyError Int
  getOtherBalances : String → Credentials → Except PyError (List (String × String))
  fetchLedger : String → Credentials → Except PyError (List CustodialLedgerEntry)

/-- What validation returns. -/
structure AccountPreview where
  btcBalanceSats : Int
  otherBalances : List (String × String)
  allEntries : List CustodialLedgerEntry
  totalCount : Nat

/-! ### The process -/

/-- `_SETUP_TOKEN_TTL`. -/
def setupTokenTtl : Timestamp := 15 * 60000000

/-- What `_SETUP_CACHE` holds under a token. -/
structure SetupEntry where
  expiresAt : Timestamp
  adapterId : String
  preview : AccountPreview

/-- What a call does with credentials. -/
inductive CredentialEvent where
  | asked (adapterId : String) (credentials : Credentials)
      (answer : Except PyError ProviderPermissions)
  | issued (token : String) (adapterId : String) (credentials : Credentials)
  | stored (providerId : Uuid) (adapterId : String) (credentials : Credentials)

/-- What one process works on.  The journal is no part of the program: it records what was done. -/
structure AccountSetup (Key : Type) where
  store : SecretStore Key
  db : HoldingDatabase
  setupCache : String → Option SetupEntry
  journal : List CredentialEvent

namespace AccountSetup

variable {Key : Type}

/-- The part of it that a rotation works on. -/
def treasury (setup : AccountSetup Key) : TreasuryProcess Key :=
  ⟨setup.store, setup.db.toTreasuryDatabase⟩

def withTreasury (setup : AccountSetup Key) (process : TreasuryProcess Key) : AccountSetup Key :=
  { setup with
    store := process.store
    db := { setup.db with toTreasuryDatabase := process.db } }

def withCache (setup : AccountSetup Key) (cache : String → Option SetupEntry) : AccountSetup Key :=
  { setup with setupCache := cache }

/-- One more entry in the journal. -/
def noting (setup : AccountSetup Key) (event : CredentialEvent) : AccountSetup Key :=
  { setup with journal := setup.journal ++ [event] }

@[simp] theorem treasury_withTreasury (setup : AccountSetup Key) (process : TreasuryProcess Key) :
    (setup.withTreasury process).treasury = process := rfl

@[simp] theorem treasury_noting (setup : AccountSetup Key) (event : CredentialEvent) :
    (setup.noting event).treasury = setup.treasury := rfl

end AccountSetup

/-- A call: its steps are commits, changes of the cache and entries in the journal. -/
abbrev SetupCall (Key α : Type) := Stepwise (AccountSetup Key) PyError α

section Calls

variable {Key : Type}

def onTreasury {α : Type} (call : ProcessCall Key α) : SetupCall Key α :=
  call.within AccountSetup.treasury AccountSetup.withTreasury

def note (event : CredentialEvent) : SetupCall Key PUnit := .write fun setup => setup.noting event

/-! ### Setup tokens -/

/-- The entry under a token is set, then the expired ones are evicted. -/
def cacheWith (cache : String → Option SetupEntry) (token : String) (entry : SetupEntry)
    (now : Timestamp) : String → Option SetupEntry := fun key =>
  (if key = token then some entry else cache key).filter fun entry =>
    !decide (entry.expiresAt < now)

/-- `_new_setup_token`, which reads the clock twice. -/
def newSetupToken (token : String) (createdAt evictedAt : Timestamp) (adapterId : String)
    (preview : AccountPreview) : SetupCall Key PUnit :=
  .write fun setup => setup.withCache
    (cacheWith setup.setupCache token ⟨createdAt + setupTokenTtl, adapterId, preview⟩ evictedAt)

/-- What a token is good for: its entry has not expired and is for the adapter. -/
def prefetchedBy (cache : String → Option SetupEntry) (token : String) (adapterId : String)
    (now : Timestamp) : Option AccountPreview :=
  ((cache token).filter fun entry =>
    !decide (entry.expiresAt < now ∨ entry.adapterId ≠ adapterId)).map SetupEntry.preview

/-- `_consume_setup_token`: the entry is popped in any case. -/
def consumeSetupToken (token : String) (adapterId : String) (now : Timestamp) :
    SetupCall Key (Option AccountPreview) := do
  let prefetched ← Stepwise.read fun setup => prefetchedBy setup.setupCache token adapterId now
  Stepwise.write fun setup => setup.withCache fun key =>
    if key = token then none else setup.setupCache key
  return prefetched

/-! ### Validation -/

/-- `CredentialPermissionMismatch`. -/
def permissionMismatch (permissions : ProviderPermissions) : PyError :=
  let overage :=
    if permissions.overage = [] then []
    else ["overage: " ++ ", ".intercalate permissions.overage]
  let underage :=
    if permissions.underage = [] then []
    else ["underage: " ++ ", ".intercalate permissions.underage]
  ⟨.credentialPermissionMismatch,
    "Credential permission mismatch — " ++ "; ".intercalate (overage ++ underage)⟩

variable (answers : ProviderAnswers)

/-- The balances, which are empty where the provider fails, and the ledger, which is empty where
    anything fails. -/
def fetchPreview (adapterId : String) (credentials : Credentials) : Except PyError AccountPreview :=
  let balances := do
    let btcBalanceSats ← answers.getBalance adapterId credentials
    let otherBalances ← answers.getOtherBalances adapterId credentials
    return (btcBalanceSats, otherBalances)
  let allEntries := (answers.fetchLedger adapterId credentials).toOption.getD []
  match balances with
  | .ok (btcBalanceSats, otherBalances) =>
      .ok ⟨btcBalanceSats, otherBalances, allEntries, allEntries.length⟩
  | .error error =>
      if error.cls = .providerError then .ok ⟨0, [], allEntries, allEntries.length⟩
      else .error error

/-- The errors of `get_permissions`, as validation reports them. -/
def validationError (error : PyError) : PyError :=
  if error.cls = .providerAuthError then
    ⟨.treasuryServiceError, "Provider authentication failed: " ++ error.message⟩
  else if error.cls = .providerError then
    ⟨.providerConnectionError, "Could not reach provider: " ++ error.message⟩
  else error

/-- `validate_account_credentials`. -/
def validateAccountCredentials (adapterId : String) (credentials : Credentials) :
    SetupCall Key AccountPreview :=
  match buildAdapter answers.custody adapterId credentials with
  | .error error =>
      if error.cls = .unsupportedAdapterError then
        Stepwise.raise ⟨.treasuryServiceError, error.message⟩
      else Stepwise.raise error
  | .ok _ => do
      note (.asked adapterId credentials (answers.getPermissions adapterId credentials))
      match answers.getPermissions adapterId credentials with
      | .error error => Stepwise.raise (validationError error)
      | .ok permissions =>
          if permissions.overage ≠ [] ∨ permissions.underage ≠ [] then
            Stepwise.raise (permissionMismatch permissions)
          else Stepwise.lift (fetchPreview answers adapterId credentials)

/-- `POST /holdings/account/validate`. -/
def validateRoute (token : String) (createdAt evictedAt : Timestamp) (adapterId : String)
    (credentials : Credentials) : SetupCall Key (AccountPreview × String) := do
  let preview ← validateAccountCredentials answers adapterId credentials
  newSetupToken token createdAt evictedAt adapterId preview
  note (.issued token adapterId credentials)
  return (preview, token)

/-! ### Creation -/

/-- The body of `POST /holdings/account`. -/
structure AccountCreate where
  details : HoldingDetails
  displayName : String
  adapterId : String
  credentials : Credentials
  setupToken : Option String

variable (cryptography : Cryptography Key)

/-- Prefetched data stand for the round-trip to the provider. -/
def previewOf (body : AccountCreate) : Option AccountPreview → SetupCall Key AccountPreview
  | some preview => pure preview
  | none => validateAccountCredentials answers body.adapterId body.credentials

/-- The credentials are stored, under references made from the provider's id. -/
def storeAccount (body : AccountCreate) (nonces : RotationNonces) (providerId : Uuid)
    (references : CredentialReferences) : SetupCall Key PUnit := do
  match ← (onTreasury (storeSecrets cryptography nonces references body.credentials)).attempt with
  | .error error =>
      if error.cls = .lockedError then
        Stepwise.raise ⟨.treasuryServiceError,
          "Secret store is locked; unlock before registering a provider"⟩
      else Stepwise.raise error
  | .ok _ => note (.stored providerId body.adapterId body.credentials)

/-- `create_account_holding`: the holding and its provider, in the session's tables. -/
def createAccountHolding (body : AccountCreate) (nonces : RotationNonces)
    (prefetched : Option AccountPreview) : SetupCall Key (HoldingDatabase × LoadedHolding) := do
  let preview ← previewOf answers body prefetched
  let db ← Stepwise.read AccountSetup.db
  let providerId := db.custodialProviders.freshKey
  let provider : AccountProvider :=
    ⟨body.displayName, body.adapterId, body.credentials.apiPassphrase.isSome,
      preview.btcBalanceSats⟩
  storeAccount cryptography body nonces providerId
    (provider.row providerId db.freshHoldingId).references
  Stepwise.lift (createAccountRows db body.details provider)

/-- A token that is not empty is consumed. -/
def prefetchedFor (body : AccountCreate) (now : Timestamp) :
    SetupCall Key (Option AccountPreview) :=
  match body.setupToken with
  | none => pure none
  | some token => if token = "" then pure none else consumeSetupToken token body.adapterId now

/-- `POST /holdings/account`. -/
def createRoute (body : AccountCreate) (now : Timestamp) (nonces : RotationNonces) :
    SetupCall Key LoadedHolding := do
  let prefetched ← prefetchedFor body now
  let (db, holding) ← createAccountHolding answers cryptography body nonces prefetched
  Stepwise.write fun setup => { setup with db := db }
  return holding

/-! ### Rotation -/

/-- The first lines of `patch_provider`: the provider and the credentials to try, where any are
    given. -/
def rotationCredentials (providerId : Uuid) (patch : CredentialPatch) :
    ProcessCall Key (CustodialProviderRow × Option Credentials) := do
  let db ← Stepwise.read TreasuryProcess.db
  match ← Stepwise.lift (CustodialProviderRepo.get db providerId) with
  | none =>
      Stepwise.raise ⟨.providerNotFound,
        "CustodialProvider " ++ toString providerId ++ " not found"⟩
  | some provider =>
      if patch.apiKey = none ∧ patch.apiSecret = none then return (provider, none)
      else if (truthy patch.apiKey || truthy patch.apiSecret) = false then
        Stepwise.raise ⟨.treasuryServiceError,
          "secret_store is required for credential rotation"⟩
      else
        let newKey ← givenOrStored cryptography patch.apiKey provider.apiCredentialReference
        let newSecret ← givenOrStored cryptography patch.apiSecret provider.apiSecretReference
        return (provider, some ⟨newKey, newSecret, patch.apiPassphrase⟩)

/-- The provider is asked for the permissions of new credentials, where their adapter is built. -/
def noteAsked (adapterId : String) (credentials : Credentials) : SetupCall Key PUnit :=
  match buildAdapter answers.custody adapterId credentials with
  | .ok _ => note (.asked adapterId credentials (answers.getPermissions adapterId credentials))
  | .error _ => pure ⟨⟩

/-- The rest of `patch_provider`, and the commit of its endpoint. -/
def patchCredentials (providerId : Uuid) (patch : CredentialPatch) (suffixes : ReferenceSuffixes)
    (nonces : RotationNonces) : SetupCall Key CustodialProviderRow := do
  let db ← Stepwise.read fun setup => setup.treasury.db
  let (provider, tried) ← onTreasury (rotationCredentials cryptography providerId patch)
  match tried with
  | none => do
      onTreasury (commitSession db)
      return provider
  | some credentials => do
      noteAsked answers provider.adapterId credentials
      Stepwise.lift (validateCredentials answers.custody answers.getPermissions provider.adapterId
        credentials)
      onTreasury (passKeyError (purgeSecrets provider.references))
      let references := newReferences providerId suffixes patch.apiPassphrase
      onTreasury (storeSecrets cryptography nonces references credentials)
      note (.stored providerId provider.adapterId credentials)
      let (updatedDb, updated) ←
        Stepwise.lift (CustodialProviderRepo.updateCredentials db providerId references)
      onTreasury (commitSession updatedDb)
      return updated.getD provider

/-! ### Runs -/

/-- One call, with what the provider answers to it, the clock and the random parts. -/
inductive SetupOperation where
  | validate (answers : ProviderAnswers) (token : String) (createdAt evictedAt : Timestamp)
      (adapterId : String) (credentials : Credentials)
  | create (answers : ProviderAnswers) (body : AccountCreate) (now : Timestamp)
      (nonces : RotationNonces)
  | patch (answers : ProviderAnswers) (providerId : Uuid) (patch : CredentialPatch)
      (suffixes : ReferenceSuffixes) (nonces : RotationNonces)

/-- The process after a call. -/
def setupStep (setup : AccountSetup Key) : SetupOperation → AccountSetup Key
  | .validate answers token createdAt evictedAt adapterId credentials =>
      (validateRoute answers token createdAt evictedAt adapterId credentials).final setup
  | .create answers body now nonces =>
      (createRoute answers cryptography body now nonces).final setup
  | .patch answers providerId patch suffixes nonces =>
      (patchCredentials answers cryptography providerId patch suffixes nonces).final setup

end Calls

end TallyKeep
