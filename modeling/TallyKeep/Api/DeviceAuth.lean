/-
Module: TallyKeep.Api.DeviceAuth
Layer: Api
Purpose: Pairing of devices, their revocation, and the middleware that lets their requests through.
Trusted boundary: translation of `api/auth_middleware.py` and `api/v1/pairing.py` and
  of `delete_device` in `api/v1/auth.py`.  The password hasher is a parameter, random tokens,
  credentials, salts and ids are arguments; an operation reads the clock once.  The flag that tests
  set, a missing database and the bounds on the fields of a body are left out
Main exports: CredentialHasher, PairingToken, PairedDeviceRow, DeviceCredential, AuthProcess,
  postPairingIssue, postPairingRedeem, dispatch, deleteDevice, AuthOperation, authStep
-/
import TallyKeep.Domain
import TallyKeep.Library.Table

namespace TallyKeep

open Relational

/-! ### State -/

/-- `argon2.PasswordHasher`: `hash` draws a salt, `verify` raises where the hash is not of the
    password. -/
structure CredentialHasher where
  hash : String → String → String
  verify : String → String → Bool

/-- An ideal hash: only the password it was made of passes. -/
def CredentialHasher.Ideal (hasher : CredentialHasher) : Prop :=
  ∀ salt password other, hasher.verify (hasher.hash salt password) other = true ↔ other = password

/-- `PAIRING_TOKEN_TTL_SECONDS`. -/
def pairingTokenTtl : Timestamp := 60 * 1000000

/-- `_CREDENTIAL_CACHE_TTL_SECONDS`. -/
def credentialCacheTtl : Timestamp := 300 * 1000000

/-- What is stored under a pairing token. -/
structure PairingToken where
  expiresAt : Timestamp
  redeemed : Bool
deriving DecidableEq

structure PairedDeviceRow where
  id : Uuid
  credentialHash : String
  label : Option String
  createdAt : Timestamp
  lastSeenAt : Timestamp
  revokedAt : Option Timestamp
deriving DecidableEq

instance : Keyed PairedDeviceRow Uuid := ⟨PairedDeviceRow.id⟩

/-- What is stored under a credential. -/
structure CachedCredential where
  deviceId : Uuid
  expiresAt : Timestamp
deriving DecidableEq

/-- 32 random bytes in unpadded base64. -/
structure DeviceCredential where
  text : String
  length : text.length = 43
deriving DecidableEq

/-- The process: its clock, `app.state`, and the table of devices. -/
structure AuthProcess where
  clock : Timestamp
  pairingTokens : String → Option PairingToken
  devices : Table PairedDeviceRow
  credentialCache : String → Option CachedCredential

/-! ### Pairing -/

/-- `_purge_expired`. -/
def purgeExpired (tokens : String → Option PairingToken) (now : Timestamp) :
    String → Option PairingToken := fun token =>
  (tokens token).filter fun entry => !decide (entry.expiresAt < now)

/-- The entry under a token is set. -/
def withToken (tokens : String → Option PairingToken) (token : String) (entry : PairingToken) :
    String → Option PairingToken := fun key => if key = token then some entry else tokens key

/-- `post_pairing_issue`: the token and when it expires. -/
def postPairingIssue (process : AuthProcess) (token : String) : AuthProcess × String × Timestamp :=
  let tokens := purgeExpired process.pairingTokens process.clock
  let expiresAt := process.clock + pairingTokenTtl
  ({ process with pairingTokens := withToken tokens token ⟨expiresAt, false⟩ }, token, expiresAt)

/-- What a redeem draws at random. -/
structure PairingDraws where
  salt : String
  credential : DeviceCredential
  deviceId : Uuid
deriving DecidableEq

/-- The row of a device that is paired. -/
def pairedRow (hasher : CredentialHasher) (deviceLabel : Option String) (draws : PairingDraws)
    (now : Timestamp) : PairedDeviceRow :=
  ⟨draws.deviceId, hasher.hash draws.salt draws.credential.text, deviceLabel, now, now, none⟩

/-- `post_pairing_redeem`: the device and its credential, or 401. -/
def postPairingRedeem (hasher : CredentialHasher) (process : AuthProcess) (pairingToken : String)
    (deviceLabel : Option String) (draws : PairingDraws) :
    AuthProcess × Except PyError (Uuid × String) :=
  let tokens := purgeExpired process.pairingTokens process.clock
  let refused := ({ process with pairingTokens := tokens },
    .error ⟨.httpException, "Invalid, expired, or already-redeemed pairing token"⟩)
  match tokens pairingToken with
  | none => refused
  | some entry =>
      if entry.redeemed = true ∨ entry.expiresAt < process.clock then refused
      else
        ({ process with
          pairingTokens := withToken tokens pairingToken { entry with redeemed := true }
          devices := process.devices.insert (pairedRow hasher deviceLabel draws process.clock) },
          .ok (draws.deviceId, draws.credential.text))

/-! ### The middleware -/

def authExemptPrefixes : List String :=
  ["/api/v1/health", "/api/v1/unlock", "/api/v1/server/info", "/api/v1/pairing",
    "/api/v1/auth/passphrase-validate", "/api/v1/internal", "/openapi.json", "/docs"]

/-- `_is_exempt`. -/
def isExempt (path : String) : Bool :=
  authExemptPrefixes.any fun exempt =>
    decide (path = exempt) || (exempt ++ "/").toList.isPrefixOf path.toList

/-- What the middleware reads of a request; a header or a query parameter that is missing is
    empty. -/
structure ApiRequest where
  path : String
  authorization : String
  tokenParameter : String
deriving DecidableEq

def bearerPrefix : List Char := "Bearer ".toList

/-- The credential behind `Bearer`, or else the query parameter. -/
def ApiRequest.credential (request : ApiRequest) : String :=
  if bearerPrefix.isPrefixOf request.authorization.toList then
    String.ofList (request.authorization.toList.drop bearerPrefix.length)
  else request.tokenParameter

/-- `_cache_lookup`: an expired entry is deleted. -/
def cacheLookup (cache : String → Option CachedCredential) (credential : String)
    (now : Timestamp) : (String → Option CachedCredential) × Option Uuid :=
  match cache credential with
  | none => (cache, none)
  | some entry =>
      if entry.expiresAt < now then (fun key => if key = credential then none else cache key, none)
      else (cache, some entry.deviceId)

/-- `_cache_store`. -/
def cacheStore (cache : String → Option CachedCredential) (credential : String) (deviceId : Uuid)
    (now : Timestamp) : String → Option CachedCredential := fun key =>
  if key = credential then some ⟨deviceId, now + credentialCacheTtl⟩ else cache key

/-- `_validate_credential_against_db`: the first device that is not revoked and whose hash
    verifies. -/
def validateCredential (hasher : CredentialHasher) (devices : Table PairedDeviceRow)
    (credential : String) (now : Timestamp) : Table PairedDeviceRow × Option Uuid :=
  match (devices.select fun row => decide (row.revokedAt = none)).find? fun row =>
      hasher.verify row.credentialHash credential with
  | none => (devices, none)
  | some row => (devices.update row.id fun row => { row with lastSeenAt := now }, some row.id)

/-- `AuthMiddleware.dispatch` up to `call_next`: the device where one is known, or 401. -/
def dispatch (hasher : CredentialHasher) (process : AuthProcess) (request : ApiRequest) :
    AuthProcess × Except PyError (Option Uuid) :=
  if isExempt request.path then (process, .ok none)
  else if request.credential = "" then
    (process, .error ⟨.httpException, "Missing or malformed Authorization header"⟩)
  else
    match cacheLookup process.credentialCache request.credential process.clock with
    | (cache, some deviceId) => ({ process with credentialCache := cache }, .ok (some deviceId))
    | (cache, none) =>
        match validateCredential hasher process.devices request.credential process.clock with
        | (devices, none) =>
            ({ process with devices := devices, credentialCache := cache },
              .error ⟨.httpException, "Invalid or revoked credential"⟩)
        | (devices, some deviceId) =>
            ({ process with
              devices := devices
              credentialCache := cacheStore cache request.credential deviceId process.clock },
              .ok (some deviceId))

/-! ### Revocation -/

/-- `delete_device`: a device that is revoked stays revoked. -/
def deleteDevice (process : AuthProcess) (deviceId : Uuid) : AuthProcess × Except PyError Unit :=
  match process.devices.get? deviceId with
  | none => (process, .error ⟨.httpException, "Device not found"⟩)
  | some row =>
      match row.revokedAt with
      | some _ => (process, .ok ())
      | none =>
          ({ process with
            devices := process.devices.update deviceId fun row =>
              { row with revokedAt := some process.clock } }, .ok ())

/-! ### Operations -/

/-- One call, with what it draws at random. -/
inductive AuthOperation where
  | issue (token : String)
  | redeem (pairingToken : String) (deviceLabel : Option String) (draws : PairingDraws)
  | request (request : ApiRequest)
  | deleteDevice (authorization tokenParameter : String) (deviceId : Uuid)
  | advance (elapsed : Timestamp)
deriving DecidableEq

/-- What a call answers. -/
inductive AuthAnswer where
  | issued (token : String) (expiresAt : Timestamp)
  | redeemed (deviceId : Uuid) (credential : String)
  | passed (deviceId : Option Uuid)
  | deleted
  | notFound
  | unauthorized (detail : String)
  | waited
deriving DecidableEq

/-- The path of a device. -/
def devicePath (deviceId : Uuid) : String := "/api/v1/devices/" ++ toString deviceId

/-- The request an operation puts through the middleware. -/
def AuthOperation.request? : AuthOperation → Option ApiRequest
  | .request sent => some sent
  | .deleteDevice authorization tokenParameter deviceId =>
      some ⟨devicePath deviceId, authorization, tokenParameter⟩
  | _ => none

/-- One call on the process. -/
def authStep (hasher : CredentialHasher) (process : AuthProcess) :
    AuthOperation → AuthProcess × AuthAnswer
  | .issue token =>
      let (after, token, expiresAt) := postPairingIssue process token
      (after, .issued token expiresAt)
  | .redeem pairingToken deviceLabel draws =>
      match postPairingRedeem hasher process pairingToken deviceLabel draws with
      | (after, .ok (deviceId, credential)) => (after, .redeemed deviceId credential)
      | (after, .error error) => (after, .unauthorized error.message)
  | .request request =>
      match dispatch hasher process request with
      | (after, .ok deviceId) => (after, .passed deviceId)
      | (after, .error error) => (after, .unauthorized error.message)
  | .deleteDevice authorization tokenParameter deviceId =>
      match dispatch hasher process ⟨devicePath deviceId, authorization, tokenParameter⟩ with
      | (after, .error error) => (after, .unauthorized error.message)
      | (after, .ok _) =>
          match TallyKeep.deleteDevice after deviceId with
          | (revoked, .ok _) => (revoked, .deleted)
          | (_, .error _) => (after, .notFound)
  | .advance elapsed => ({ process with clock := process.clock + elapsed }, .waited)

/-- The process before any device is paired. -/
def AuthProcess.start (clock : Timestamp) : AuthProcess :=
  ⟨clock, fun _ => none, .empty, fun _ => none⟩

end TallyKeep
