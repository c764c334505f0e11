/-
Module: TallyKeep.Api.PassphraseValidate
Layer: Api
Purpose: The unlock by phone, and the limit on the attempts of one client.
Trusted boundary: translation of `post_passphrase_validate` and of its rate limit in
  `api/v1/auth.py`.  A request carries the readings of the clock and the store it finds, which other
  calls may have changed.  The event that is published in the end, whose errors are swallowed, is
  left out
Main exports: RateLimitEntry, RateLimits, checkRateLimit, ValidateRequest, ValidateAnswer, Handling,
  postPassphraseValidate, limitsAfter, handledAll
-/
import TallyKeep.Infrastructure.Secrets

namespace TallyKeep

open Stepwise

/-! ### The limit -/

/-- `_RATE_LIMIT_MAX_FAILURES`. -/
def rateLimitMaxFailures : Nat := 10

/-- `_RATE_LIMIT_WINDOW_SECONDS`. -/
def rateLimitWindow : Timestamp := 900 * 1000000

/-- What is kept of one client. -/
structure RateLimitEntry where
  failures : Nat
  windowStart : Timestamp
deriving DecidableEq

/-- `app.state.passphrase_rate_limits`: without an entry until the first request. -/
abbrev RateLimits := String → Option RateLimitEntry

def withEntry (limits : RateLimits) (client : String) (entry : RateLimitEntry) : RateLimits :=
  fun other => if other = client then some entry else limits other

/-- The entry that a check leaves: a new one where there is none, and a window that is over starts
    anew. -/
def checkedEntry (entry : Option RateLimitEntry) (created now : Timestamp) : RateLimitEntry :=
  let entry := entry.getD ⟨0, created⟩
  if rateLimitWindow < now - entry.windowStart then ⟨0, now⟩ else entry

/-- `_check_rate_limit`, with whether it raises. -/
def checkRateLimit (limits : RateLimits) (client : String) (created now : Timestamp) :
    RateLimits × Bool :=
  let entry := checkedEntry (limits client) created now
  (withEntry limits client entry, decide (rateLimitMaxFailures ≤ entry.failures))

/-- `rate_limits[client_ip]["failures"]` is set. -/
def setFailures (limits : RateLimits) (client : String) (failures : Nat → Nat) : RateLimits :=
  fun other =>
    if other = client then
      (limits other).map fun entry => { entry with failures := failures entry.failures }
    else limits other

/-! ### The endpoint -/

/-- A request: its body and where it comes from, what the clock shows when an entry is made, when the
    window is checked and when the passphrase is tried, and the store at that time. -/
structure ValidateRequest (Key : Type) where
  host : Option String
  passphrase : String
  created : Timestamp
  now : Timestamp
  tried : Timestamp
  store : SecretStore Key

/-- `client_ip`. -/
def ValidateRequest.client {Key : Type} (request : ValidateRequest Key) : String :=
  request.host.getD "unknown"

inductive ValidateAnswer where
  | valid
  | unprocessable
  | httpException (statusCode : Nat) (detail : String)
  | serverError (error : PyError)
deriving DecidableEq

def tooManyAttempts : ValidateAnswer :=
  .httpException 429 "Too many failed attempts. Try again later."

/-- What a request leaves behind: the entries, how the call of `unlock` went where there was one, the
    store and the answer. -/
structure Handling (Key : Type) where
  limits : RateLimits
  unlocked : Option (Except PyError PUnit)
  store : SecretStore Key
  answer : ValidateAnswer

variable {Key : Type} (cryptography : Cryptography Key)

/-- How `post_passphrase_validate` takes what `unlock` returns or raises. -/
def concludeTry (limits : RateLimits) (client : String) :
    Except PyError PUnit → RateLimits × ValidateAnswer
  | .error error =>
      if error.cls = .notInitializedError then (limits, .httpException 503 error.message)
      else if error.cls = .wrongPassphraseError then
        (setFailures limits client (· + 1), .httpException 401 "Wrong passphrase")
      else (limits, .serverError error)
  | .ok _ => (setFailures limits client fun _ => 0, .valid)

/-- `post_passphrase_validate`, with the bounds on its body. -/
def postPassphraseValidate (limits : RateLimits) (request : ValidateRequest Key) : Handling Key :=
  if request.passphrase.length < 1 ∨ 4096 < request.passphrase.length then
    ⟨limits, none, request.store, .unprocessable⟩
  else
    let (limits, raises) := checkRateLimit limits request.client request.created request.now
    if raises then ⟨limits, none, request.store, tooManyAttempts⟩
    else
      let outcome := result (unlock cryptography request.passphrase) request.store
      let store := final (unlock cryptography request.passphrase) request.store
      let (limits, answer) := concludeTry limits request.client outcome
      ⟨limits, some outcome, store, answer⟩

/-! ### One request after another -/

def limitsAfter (limits : RateLimits) (requests : List (ValidateRequest Key)) : RateLimits :=
  requests.foldl (fun limits request => (postPassphraseValidate cryptography limits request).limits)
    limits

/-- The requests with what each was answered. -/
def handledAll (limits : RateLimits) :
    List (ValidateRequest Key) → List (ValidateRequest Key × Handling Key)
  | [] => []
  | request :: later =>
      let done := postPassphraseValidate cryptography limits request
      (request, done) :: handledAll done.limits later

end TallyKeep
