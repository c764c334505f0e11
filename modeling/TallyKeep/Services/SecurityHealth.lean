/-
Module: TallyKeep.Services.SecurityHealth
Layer: Services
Purpose: The items of the security health list: how they are emitted, resolved and revived.
Trusted boundary: translation of `services/security_health_service.py`,
  `repositories/security_health.py` (the reads and writes the service uses), and of the profile's
  acknowledgement in `repositories/user_profile.py`.  The random ids are arguments, an operation
  reads the clock once, and a raise rolls the session back.  A publish that fails is passed over
Main exports: HealthItemType, HealthItemState, SecurityHealthItem, HealthDatabase, HealthOutcome,
  emitSeedBackupItem, emitMissingSigningMetadataItem, emitPrinciplesAckItemIfNeeded, resolveItem,
  reviveItem, resolveMissingMetadataItemsForHolding, acknowledgePrinciples, HealthOperation,
  healthStep
-/
import TallyKeep.Domain
import TallyKeep.Library.Table

namespace TallyKeep

open Relational

/-! ### Items -/

inductive HealthItemType where
  | seedBackup
  | missingSigningMetadata
  | principlesAck
deriving Repr, DecidableEq

/-- `ITEM_STATE_*`; `opened` is the state `open`. -/
inductive HealthItemState where
  | opened
  | resolvedByFix
  | dismissedIntentional
  | acknowledged
deriving Repr, DecidableEq

/-- The wire value of a state, as error messages quote it. -/
def HealthItemState.value : HealthItemState → String
  | .opened => "open"
  | .resolvedByFix => "resolved_by_fix"
  | .dismissedIntentional => "dismissed_intentional"
  | .acknowledged => "acknowledged"

inductive HealthItemSeverity where
  | critical
  | warning
  | notification
deriving Repr, DecidableEq

structure SecurityHealthItem where
  id : Uuid
  itemType : HealthItemType
  holdingId : Option Uuid
  state : HealthItemState
  severity : HealthItemSeverity
  createdAt : Timestamp
  resolvedAt : Option Timestamp
  dismissalReason : Option String
  rawContext : List (String × String)
deriving DecidableEq

instance : Keyed SecurityHealthItem Uuid := ⟨SecurityHealthItem.id⟩

/-- The items, the names of the holdings there are, and the acknowledgement of the profile. -/
structure HealthDatabase where
  items : Table SecurityHealthItem
  holdingName : Uuid → Option String
  principlesAcknowledgedAt : Option Timestamp

/-- `_publish_item_*`: the topic and the item of the payload. -/
structure HealthEvent where
  topic : String
  item : SecurityHealthItem
deriving DecidableEq

/-- What an operation leaves, returns and publishes. -/
structure HealthOutcome (α : Type) where
  db : HealthDatabase
  result : α
  published : List HealthEvent

/-! ### Repository -/

namespace SecurityHealthRepo

/-- Whether an item is an open one of a type and a holding. -/
def isOpenOf (itemType : HealthItemType) (holdingId : Option Uuid) (item : SecurityHealthItem) :
    Bool :=
  decide (item.state = .opened ∧ item.itemType = itemType ∧ item.holdingId = holdingId)

/-- `has_open_item_of_type`. -/
def hasOpenItemOfType (db : HealthDatabase) (itemType : HealthItemType) (holdingId : Option Uuid) :
    Bool := db.items.rows.any (isOpenOf itemType holdingId)

/-- `insert`: a second row of an id, or one of a holding that is not there, is refused. -/
def insert (db : HealthDatabase) (id : Uuid) (itemType : HealthItemType) (holdingId : Option Uuid)
    (severity : HealthItemSeverity) (rawContext : List (String × String)) (now : Timestamp) :
    Except PyError (HealthDatabase × SecurityHealthItem) :=
  let item : SecurityHealthItem :=
    ⟨id, itemType, holdingId, .opened, severity, now, none, none, rawContext⟩
  if (db.items.get? id).isSome then .error ⟨.integrityError, "security_health_item_pkey"⟩
  else if holdingId.any fun holding => (db.holdingName holding).isNone then
    .error ⟨.integrityError, "security_health_item_holding_id_fkey"⟩
  else .ok ({ db with items := db.items.insert item }, item)

/-- An item in a terminal state. -/
def resolved (newState : HealthItemState) (dismissalReason : Option String) (now : Timestamp)
    (item : SecurityHealthItem) : SecurityHealthItem :=
  { item with
    state := newState
    resolvedAt := some now
    dismissalReason := dismissalReason.or item.dismissalReason }

/-- An item that is open again. -/
def revived (item : SecurityHealthItem) : SecurityHealthItem :=
  { item with state := .opened, resolvedAt := none, dismissalReason := none }

/-- `resolve_open_items_for_holding`; a comparison with `None` is `IS NULL`. -/
def resolveOpenItemsForHolding (db : HealthDatabase) (holdingId : Option Uuid)
    (itemType : HealthItemType) (newState : HealthItemState) (now : Timestamp) :
    HealthDatabase × List SecurityHealthItem :=
  let flip := resolved newState none now
  ({ db with
    items := db.items.updateAll
      (fun item => if isOpenOf itemType holdingId item then flip item else item)
      (by intro item; split <;> rfl) },
    (db.items.select (isOpenOf itemType holdingId)).map flip)

end SecurityHealthRepo

/-- `user_profile.update(principles_acknowledged=True)`: the first acknowledgement stays. -/
def HealthDatabase.acknowledged (db : HealthDatabase) (now : Timestamp) : HealthDatabase :=
  { db with principlesAcknowledgedAt := db.principlesAcknowledgedAt.or (some now) }

/-! ### Items are emitted -/

/-- An item is inserted and published, unless one of its type is open for the holding. -/
def emitItem (db : HealthDatabase) (id : Uuid) (itemType : HealthItemType) (holdingId : Option Uuid)
    (severity : HealthItemSeverity) (rawContext : List (String × String)) (now : Timestamp) :
    Except PyError (HealthOutcome (Option SecurityHealthItem)) :=
  if SecurityHealthRepo.hasOpenItemOfType db itemType holdingId then .ok ⟨db, none, []⟩
  else do
    let (db, item) ← SecurityHealthRepo.insert db id itemType holdingId severity rawContext now
    return ⟨db, some item, [⟨"security_health.item_added", item⟩]⟩

/-- The holding's name as the context keeps it. -/
def contextName (db : HealthDatabase) (holdingId : Uuid) : String × String :=
  ("holding_name", (db.holdingName holdingId).getD "")

/-- `emit_seed_backup_item`. -/
def emitSeedBackupItem (db : HealthDatabase) (holdingId : Uuid) (purseMode : String) (id : Uuid)
    (now : Timestamp) : Except PyError (HealthOutcome (Option SecurityHealthItem)) :=
  emitItem db id .seedBackup (some holdingId) .critical
    [("purse_mode", purseMode), contextName db holdingId] now

/-- `emit_missing_signing_metadata_item`. -/
def emitMissingSigningMetadataItem (db : HealthDatabase) (holdingId : Uuid)
    (vendor : Option String) (id : Uuid) (now : Timestamp) :
    Except PyError (HealthOutcome (Option SecurityHealthItem)) :=
  let named := (vendor.filter fun vendor => decide (vendor ≠ "")).toList.map fun vendor =>
    ("vendor", vendor)
  emitItem db id .missingSigningMetadata (some holdingId) .warning
    (contextName db holdingId :: named) now

/-- `emit_principles_ack_item_if_needed`. -/
def emitPrinciplesAckItemIfNeeded (db : HealthDatabase) (id : Uuid) (now : Timestamp) :
    Except PyError (HealthOutcome (Option SecurityHealthItem)) :=
  emitItem db id .principlesAck none .warning [] now

/-! ### Items are resolved and revived -/

/-- `_VALID_TRANSITIONS`. -/
def validTransition (state newState : HealthItemState) : Bool :=
  decide (state = .opened ∧ newState ≠ .opened)

/-- `resolve_item`. -/
def resolveItem (db : HealthDatabase) (itemId : Uuid) (newState : HealthItemState)
    (dismissalReason : Option String) (now : Timestamp) :
    Except PyError (HealthOutcome SecurityHealthItem) :=
  match db.items.get? itemId with
  | none => .error ⟨.securityHealthServiceError, "Item " ++ toString itemId ++ " not found"⟩
  | some item =>
      if validTransition item.state newState = false then
        .error ⟨.invalidStateTransition,
          "Cannot transition from '" ++ item.state.value ++ "' to '" ++ newState.value ++ "'"⟩
      else
        let flip := SecurityHealthRepo.resolved newState dismissalReason now
        let db := { db with items := db.items.update itemId flip }
        let db :=
          if item.itemType = .principlesAck ∧ newState = .acknowledged then db.acknowledged now
          else db
        .ok ⟨db, flip item, [⟨"security_health.item_resolved", flip item⟩]⟩

/-- `revive_item`: only an item that was dismissed on purpose is revived. -/
def reviveItem (db : HealthDatabase) (itemId : Uuid) :
    Except PyError (HealthOutcome SecurityHealthItem) :=
  match db.items.get? itemId with
  | none => .error ⟨.securityHealthServiceError, "Item " ++ toString itemId ++ " not found"⟩
  | some item =>
      if item.state ≠ .dismissedIntentional then
        .error ⟨.reviveNotAllowed,
          "revive_not_allowed_on_system_verified: only user-attested items can be revived"⟩
      else
        let item' := SecurityHealthRepo.revived item
        .ok ⟨{ db with items := db.items.update itemId SecurityHealthRepo.revived }, item',
          [⟨"security_health.item_revived", item'⟩]⟩

/-- `resolve_missing_metadata_items_for_holding`. -/
def resolveMissingMetadataItemsForHolding (db : HealthDatabase) (holdingId : Uuid)
    (now : Timestamp) : HealthOutcome (List SecurityHealthItem) :=
  let (db, resolved) := SecurityHealthRepo.resolveOpenItemsForHolding db (some holdingId)
    .missingSigningMetadata .resolvedByFix now
  ⟨db, resolved, resolved.map fun item => ⟨"security_health.item_resolved", item⟩⟩

/-- `acknowledge_principles`. -/
def acknowledgePrinciples (db : HealthDatabase) (now : Timestamp) :
    HealthOutcome (List SecurityHealthItem) :=
  let (db, resolved) := SecurityHealthRepo.resolveOpenItemsForHolding (db.acknowledged now) none
    .principlesAck .acknowledged now
  ⟨db, resolved, resolved.map fun item => ⟨"security_health.item_resolved", item⟩⟩

/-! ### Operations -/

inductive HealthOperation where
  | emitSeedBackup (holdingId : Uuid) (purseMode : String) (id : Uuid) (now : Timestamp)
  | emitMissingSigningMetadata (holdingId : Uuid) (vendor : Option String) (id : Uuid)
      (now : Timestamp)
  | emitPrinciplesAck (id : Uuid) (now : Timestamp)
  | resolve (itemId : Uuid) (newState : HealthItemState) (dismissalReason : Option String)
      (now : Timestamp)
  | revive (itemId : Uuid)
  | resolveMissingMetadata (holdingId : Uuid) (now : Timestamp)
  | acknowledgePrinciples (now : Timestamp)
deriving DecidableEq

/-- What an operation leaves: a raise leaves what was there. -/
def afterOutcome {α : Type} (db : HealthDatabase) :
    Except PyError (HealthOutcome α) → HealthDatabase
  | .ok outcome => outcome.db
  | .error _ => db

def healthStep (db : HealthDatabase) : HealthOperation → HealthDatabase
  | .emitSeedBackup holdingId purseMode id now =>
      afterOutcome db (emitSeedBackupItem db holdingId purseMode id now)
  | .emitMissingSigningMetadata holdingId vendor id now =>
      afterOutcome db (emitMissingSigningMetadataItem db holdingId vendor id now)
  | .emitPrinciplesAck id now => afterOutcome db (emitPrinciplesAckItemIfNeeded db id now)
  | .resolve itemId newState dismissalReason now =>
      afterOutcome db (resolveItem db itemId newState dismissalReason now)
  | .revive itemId => afterOutcome db (reviveItem db itemId)
  | .resolveMissingMetadata holdingId now =>
      (resolveMissingMetadataItemsForHolding db holdingId now).db
  | .acknowledgePrinciples now => (TallyKeep.acknowledgePrinciples db now).db

end TallyKeep
