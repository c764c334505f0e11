/-
Module: TallyKeep.PollingSystem
Layer: System
Purpose: The backend with its lock, the event bus, and the worker that has the backend poll: what
  each of them does, in any order.
Trusted boundary: translation of the wiring in `main.py` and `worker.py`.  The bus
  hands the poller its events in the order of their publication, and may lose some; a handler that
  has started ends before another changes the key in memory; a shutdown drops the requests that are
  waiting
Main exports: PollEnv.onStore, PollingState, PollingState.initial, PollingLabel, pollingNext,
  PollingStep
-/
import TallyKeep.Api.InternalCustodial
import TallyKeep.Api.LockMiddleware
import TallyKeep.Api.PassphraseValidate
import TallyKeep.Library.Transition
import TallyKeep.Services.CredentialRotation
import TallyKeep.Workers.CustodialPoller

namespace TallyKeep

open Stepwise Transition

variable {Key : Type} (cryptography : Cryptography Key)

/-! ### State -/

/-- `secret_store.get_secret(reference).decode()`. -/
def readSecretText (store : SecretStore Key) (reference : String) : Except PyError String :=
  (result (getSecret cryptography reference) store).bind decodeText

/-- A cycle reads its credentials from the store of the process. -/
def PollEnv.onStore (env : PollEnv) (store : SecretStore Key) : PollEnv :=
  { env with custody := { env.custody with getSecret := readSecretText cryptography store } }

/-- The process of the backend with the requests for a cycle that were passed on to the handler;
    the database; what the bus still has to deliver to the poller; and in the worker the providers
    a tick is still to be published for, and the poller. -/
structure PollingState (Key : Type) where
  store : SecretStore Key
  limits : RateLimits
  admitted : List Uuid
  db : CustodialDatabase
  channel : List PollerEvent
  ticking : List Uuid
  poller : CustodialPoller

/-- The worker was there first, and the backend has just announced its start. -/
def PollingState.initial (secrets : SecretDatabase) (db : CustodialDatabase) :
    PollingState Key where
  store := .start secrets
  limits := fun _ => none
  admitted := []
  db := db
  channel := [.systemLocked]
  ticking := []
  poller := .started

/-- An event is handed to the bus, if the publish does not fail. -/
def PollingState.publish (s : PollingState Key) (event : PollerEvent) (announced : Bool) :
    PollingState Key :=
  { s with channel := if announced then s.channel ++ [event] else s.channel }

/-- A request for a cycle reaches the backend: it is passed on, or answered 423. -/
def PollingState.post (s : PollingState Key) (providerId : Uuid) (sent : Bool) : PollingState Key :=
  { s with
    admitted :=
      if sent && workerAdmitted s.store providerId then s.admitted ++ [providerId] else s.admitted }

/-! ### Steps -/

/-- What happens, with what the world adds: whether a publish, a query or a request gets through. -/
inductive PollingLabel (Key : Type) where
  | restart (announced : Bool)
  | unlockInitialize (salt : Salt) (nonce : Nonce) (passphrase : String) (announced : Bool)
  | passphraseValidate (request : ValidateRequest Key) (announced : Bool)
  | tick (listed : Bool)
  | emit (announced : Bool)
  | deliver
  | lose
  | burst (listed : Bool)
  | dispatch (providerId : Uuid) (sent : Bool)
  | oneShot (providerId : Uuid) (sent : Bool)
  | serve (env : PollEnv) (providerId : Uuid)
  | restartWorker
  | elsewhere (db : CustodialDatabase) (secrets : SecretDatabase)

/-- `lifespan` of the backend, from its shutdown to the announcement of its next start. -/
def PollingState.restart (s : PollingState Key) (announced : Bool) : PollingState Key :=
  { s with
    store := .start s.store.database
    limits := fun _ => none
    admitted := [] }.publish .systemLocked announced

/-- `post_unlock_initialize` with the event of a success. -/
def PollingState.unlockInitialize (s : PollingState Key) (salt : Salt) (nonce : Nonce)
    (passphrase : String) (announced : Bool) : PollingState Key :=
  let done := postUnlockInitialize cryptography s.store salt nonce passphrase
  { s with store := done.1 }.publish .systemUnlocked
    (decide (done.2 = InitializeAnswer.initialized) && announced)

/-- `post_passphrase_validate` with the event of a success. -/
def PollingState.passphraseValidate (s : PollingState Key) (request : ValidateRequest Key)
    (announced : Bool) : PollingState Key :=
  let handling := postPassphraseValidate cryptography s.limits { request with store := s.store }
  { s with
    store := handling.store
    limits := handling.limits }.publish .systemUnlocked
      (decide (handling.answer = ValidateAnswer.valid) && announced)

/-- One step.  The scheduler has one thread, which publishes the ticks of one round after another;
    every thread of the poller runs by itself; a job posts past the gate. -/
def pollingNext (s : PollingState Key) : PollingLabel Key → PollingState Key
  | .restart announced => s.restart announced
  | .unlockInitialize salt nonce passphrase announced =>
      s.unlockInitialize cryptography salt nonce passphrase announced
  | .passphraseValidate request announced =>
      s.passphraseValidate cryptography request announced
  | .tick listed =>
      match s.ticking with
      | [] => { s with ticking := tickedProviders listed s.db }
      | _ :: _ => s
  | .emit announced =>
      match s.ticking with
      | [] => s
      | providerId :: rest => { s with ticking := rest }.publish (.pollTick providerId) announced
  | .deliver =>
      match s.channel with
      | [] => s
      | event :: rest => { s with channel := rest, poller := onPollerEvent s.poller event }
  | .lose => { s with channel := s.channel.tail }
  | .burst listed =>
      if .catchUpBurst ∈ s.poller.threads then
        { s with
          poller := { s.poller with
            threads := s.poller.threads.erase .catchUpBurst ++ catchUpBurst listed s.db } }
      else s
  | .dispatch providerId sent =>
      if .dispatchCycle providerId ∈ s.poller.threads then
        { s with
          poller := { s.poller with
            threads := s.poller.threads.erase (.dispatchCycle providerId) } }.post providerId sent
      else s
  | .oneShot providerId sent => s.post providerId sent
  | .serve env providerId =>
      if providerId ∈ s.admitted then
        { s with
          admitted := s.admitted.erase providerId
          db := (pollCycle (env.onStore cryptography s.store) s.db providerId).db }
      else s
  | .restartWorker => { s with channel := [], ticking := [], poller := .started }
  | .elsewhere db secrets => { s with store := s.store.withDatabase secrets, db := db }

/-- One step of the backend, of the bus or of the worker. -/
def PollingStep : PollingState Key → PollingLabel Key → PollingState Key → Prop :=
  stepOf (pollingNext cryptography)

end TallyKeep
