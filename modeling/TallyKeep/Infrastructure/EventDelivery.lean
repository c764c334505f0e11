/-
Module: TallyKeep.Infrastructure.EventDelivery
Layer: Infrastructure
Purpose: The two event buses: their subscriptions, and the handler calls one published event leads
  to on each.
Trusted boundary: translation of `InMemoryEventBus` and `RedisEventBus` in
  `infrastructure/event_bus.py`.  Which channels a Redis pattern matches is a parameter; a message
  carries the event it was made of, and none is lost.  A closed bus is left out
Main exports: BusSubscription, RedisBus, BusOperation, inMemoryAfter, redisAfter, dispatchEvent,
  redisMessages, readLoop, redisPublish
-/
import TallyKeep.Domain
import TallyKeep.Infrastructure.EventBus
import TallyKeep.Library.Table

namespace TallyKeep

open Relational

variable {Payload : Type}

/-! ### Subscriptions -/

/-- An item of `_subs`. -/
structure BusSubscription where
  id : Uuid
  patterns : List String
deriving DecidableEq

instance : Keyed BusSubscription Uuid := ⟨BusSubscription.id⟩

/-- `_subs` and `_active_patterns` of a `RedisEventBus`. -/
structure RedisBus where
  subs : Table BusSubscription
  activePatterns : List String

/-- `subscribe`, as far as both buses do it. -/
def addSubscription (subs : Table BusSubscription) (subId : Uuid) (patterns : List String) :
    Except PyError (Table BusSubscription) :=
  if patterns = [] then .error ⟨.valueError, "subscribe requires at least one pattern"⟩
  else .ok (subs.insert ⟨subId, patterns⟩)

/-- `_remove_subscription`. -/
def removeSubscription (subs : Table BusSubscription) (subId : Uuid) : Table BusSubscription :=
  subs.delete fun sub => decide (sub.id = subId)

/-- A pattern becomes active once. -/
def activate (activePatterns : List String) (pattern : String) : List String :=
  if pattern ∈ activePatterns then activePatterns else activePatterns ++ [pattern]

/-- `RedisEventBus.subscribe`: each pattern that was not active is subscribed with `psubscribe`. -/
def RedisBus.subscribe (bus : RedisBus) (subId : Uuid) (patterns : List String) :
    Except PyError RedisBus :=
  (addSubscription bus.subs subId patterns).map fun subs =>
    ⟨subs, patterns.foldl activate bus.activePatterns⟩

/-- What is done to a bus before a publish. -/
inductive BusOperation where
  | subscribe (subId : Uuid) (patterns : List String)
  | unsubscribe (subId : Uuid)
deriving DecidableEq

/-- A call that raises leaves what was there. -/
def inMemoryStep (subs : Table BusSubscription) : BusOperation → Table BusSubscription
  | .subscribe subId patterns => (addSubscription subs subId patterns).toOption.getD subs
  | .unsubscribe subId => removeSubscription subs subId

/-- A pattern stays active when its last subscription is removed. -/
def redisStep (bus : RedisBus) : BusOperation → RedisBus
  | .subscribe subId patterns => (bus.subscribe subId patterns).toOption.getD bus
  | .unsubscribe subId => { bus with subs := removeSubscription bus.subs subId }

def inMemoryAfter (operations : List BusOperation) : Table BusSubscription :=
  operations.foldl inMemoryStep .empty

def redisAfter (operations : List BusOperation) : RedisBus :=
  operations.foldl redisStep ⟨.empty, []⟩

/-! ### Delivery -/

/-- The handlers that are called, with the event: `_dispatch`, and the loop of
    `InMemoryEventBus.publish`.  What a handler raises is logged. -/
def dispatchEvent (subs : Table BusSubscription) (event : Event Payload) :
    List (Uuid × Event Payload) :=
  (subs.select fun sub => anyMatches sub.patterns event.topic).map fun sub => (sub.id, event)

/-- `_CONTROL_CHANNEL`. -/
def controlChannel : String := "_tallykeep_control"

/-- `_pattern_to_redis`. -/
def patternToRedis (pattern : String) : String := pattern

/-- What Redis sends a process: the channel, and the event of the envelope. -/
structure RedisMessage (Payload : Type) where
  channel : String
  event : Event Payload

/-- The messages of one publish: one for the control channel, which is subscribed itself, and one
    for each active pattern that matches the channel. -/
def redisMessages (globMatches : String → String → Bool) (bus : RedisBus)
    (event : Event Payload) : List (RedisMessage Payload) :=
  (if event.topic = controlChannel then [⟨event.topic, event⟩] else []) ++
    (bus.activePatterns.filter fun pattern => globMatches (patternToRedis pattern) event.topic).map
      fun _ => ⟨event.topic, event⟩

/-- `_read_loop` over messages. -/
def readLoop (bus : RedisBus) (messages : List (RedisMessage Payload)) :
    List (Uuid × Event Payload) :=
  messages.flatMap fun message =>
    if message.channel = controlChannel then [] else dispatchEvent bus.subs message.event

/-- What a publish on Redis leads to in a process. -/
def redisPublish (globMatches : String → String → Bool) (bus : RedisBus) (event : Event Payload) :
    List (Uuid × Event Payload) := readLoop bus (redisMessages globMatches bus event)

end TallyKeep
