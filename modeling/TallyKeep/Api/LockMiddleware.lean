/-
Module: TallyKeep.Api.LockMiddleware
Layer: Api
Purpose: The lock in front of the endpoints, the first-run setup that opens it, and how a request of
  the worker fares with both middlewares.
Trusted boundary: translation of `api/lock_middleware.py` and of
  `post_unlock_initialize` in `api/v1/unlock.py`.  The event that is published in the end is left to
  the system around it; the body of the 423 is left out
Main exports: alwaysAllowed, lockAdmits, InitializeAnswer, postUnlockInitialize, pollCyclePath,
  workerAdmitted, workerAdmitted_eq
-/
import TallyKeep.Api.DeviceAuth
import TallyKeep.Infrastructure.Secrets

namespace TallyKeep

open Stepwise

/-! ### The middleware -/

/-- `ALWAYS_ALLOWED_PREFIXES`. -/
def alwaysAllowedPrefixes : List String :=
  ["/api/v1/health", "/api/v1/unlock", "/api/v1/auth/passphrase-validate", "/api/v1/server/info",
    "/api/v1/pairing", "/openapi.json", "/docs"]

/-- A path that works regardless of the lock. -/
def alwaysAllowed (path : String) : Bool :=
  alwaysAllowedPrefixes.any fun allowed =>
    decide (path = allowed) || (allowed ++ "/").toList.isPrefixOf path.toList

variable {Key : Type}

/-- Whether `dispatch` passes a request on, or answers 423: without a store everything is locked. -/
def lockAdmits (store : Option (SecretStore Key)) (path : String) : Bool :=
  alwaysAllowed path || store.any SecretStore.isUnlocked

/-! ### First-run setup -/

inductive InitializeAnswer where
  | initialized
  | unprocessable
  | httpException (statusCode : Nat) (detail : String)
  | serverError (error : PyError)
deriving DecidableEq

/-- How `post_unlock_initialize` takes what `initialize` returns or raises. -/
def concludeInitialize : Except PyError PUnit → InitializeAnswer
  | .ok _ => .initialized
  | .error error =>
      if error.cls = .alreadyInitializedError then .httpException 409 error.message
      else .serverError error

/-- `post_unlock_initialize`, with the bounds on its body. -/
def postUnlockInitialize (cryptography : Cryptography Key) (store : SecretStore Key) (salt : Salt)
    (nonce : Nonce) (passphrase : String) : SecretStore Key × InitializeAnswer :=
  if passphrase.length < 1 ∨ 4096 < passphrase.length then (store, .unprocessable)
  else
    (final (initializeStore cryptography salt nonce passphrase) store,
      concludeInitialize (result (initializeStore cryptography salt nonce passphrase) store))

/-! ### Requests of the worker -/

/-- Where the worker posts a cycle, below the address of the backend. -/
def pollCyclePath (providerId : Uuid) : String :=
  "/api/v1/internal/custodial/" ++ toString providerId ++ "/poll-cycle"

/-- Both middlewares pass a cycle on: the outer one asks for the lock, and the inner one for a
    credential, which the worker has not got. -/
def workerAdmitted (store : SecretStore Key) (providerId : Uuid) : Bool :=
  lockAdmits (some store) (pollCyclePath providerId) && isExempt (pollCyclePath providerId)

/-- What every path of the worker begins with. -/
def custodialPrefix : List Char := "/api/v1/internal/custodial/".toList

theorem toList_prefix_append (first second third : String) :
    first.toList <+: (first ++ second ++ third).toList := by
  rw [String.toList_append, String.toList_append, List.append_assoc]
  exact List.prefix_append _ _

theorem custodialPrefix_isPrefix (providerId : Uuid) :
    custodialPrefix <+: (pollCyclePath providerId).toList :=
  toList_prefix_append _ _ _

/-- What is always allowed lies beside the paths of the worker. -/
theorem alwaysAllowed_apart : ∀ allowed ∈ alwaysAllowedPrefixes,
    ¬custodialPrefix <+: allowed.toList ∧ ¬custodialPrefix <+: (allowed ++ "/").toList ∧
      ¬(allowed ++ "/").toList <+: custodialPrefix := by
  decide +kernel

theorem alwaysAllowed_pollCyclePath (providerId : Uuid) :
    alwaysAllowed (pollCyclePath providerId) = false := by
  have path := custodialPrefix_isPrefix providerId
  rw [alwaysAllowed, List.any_eq_false]
  intro allowed member
  obtain ⟨beside, beyond, above⟩ := alwaysAllowed_apart allowed member
  rw [Bool.or_eq_true, decide_eq_true_eq, List.isPrefixOf_iff_prefix, not_or]
  constructor
  · intro same
    rw [same] at path
    exact beside path
  · intro below
    rcases List.prefix_or_prefix_of_prefix path below with longer | shorter
    · exact beyond longer
    · exact above shorter

theorem isExempt_pollCyclePath (providerId : Uuid) :
    isExempt (pollCyclePath providerId) = true := by
  have exempt : ("/api/v1/internal" ++ "/").toList <+: custodialPrefix := by decide +kernel
  rw [isExempt, List.any_eq_true]
  refine ⟨"/api/v1/internal", by decide, ?_⟩
  rw [Bool.or_eq_true, List.isPrefixOf_iff_prefix]
  exact .inr (exempt.trans (custodialPrefix_isPrefix providerId))

/-- The lock alone decides. -/
theorem workerAdmitted_eq (store : SecretStore Key) (providerId : Uuid) :
    workerAdmitted store providerId = store.isUnlocked := by
  rw [workerAdmitted, lockAdmits, alwaysAllowed_pollCyclePath, isExempt_pollCyclePath,
    Bool.and_true]
  rfl

end TallyKeep
