/-
Module: TallyKeep.Proofs.DeviceAuthorisation
Layer: Proofs
Purpose: Which requests the middleware lets through, against what pairing and revocation say.
Trusted boundary: none
Main exports: AuthEvent, Redeemable, Granted, LetThroughExactly, Fresh, AuthorisationExact, Stale,
  authorisationExact_iff
-/
import TallyKeep.Api.DeviceAuth
import TallyKeep.Library.Transition

namespace TallyKeep

open Relational Transition

variable {hasher : CredentialHasher} {process after : AuthProcess} {history : List AuthEvent}

/-! ### Histories -/

/-- One call of a run: when it was made, and what it answered. -/
structure AuthEvent where
  now : Timestamp
  operation : AuthOperation
  answer : AuthAnswer
deriving DecidableEq

/-- The steps of the process, labelled with what happened. -/
def authTransition (hasher : CredentialHasher) (process : AuthProcess) (event : AuthEvent)
    (after : AuthProcess) : Prop :=
  event.now = process.clock ∧ authStep hasher process event.operation = (after, event.answer)

/-- A token was exchanged for the credential of a new device. -/
structure Redemption where
  token : String
  deviceId : Uuid
  credential : String
deriving DecidableEq

namespace AuthEvent

/-- The token a call issued. -/
def issuance? (event : AuthEvent) : Option String :=
  match event.operation with
  | .issue token => some token
  | _ => none

/-- The redemption a call answered with. -/
def redemption? (event : AuthEvent) : Option Redemption :=
  match event.operation, event.answer with
  | .redeem token _ _, .redeemed deviceId credential => some ⟨token, deviceId, credential⟩
  | _, _ => none

/-- The device a call revoked. -/
def deletion? (event : AuthEvent) : Option Uuid :=
  match event.operation, event.answer with
  | .deleteDevice _ _ deviceId, .deleted => some deviceId
  | _, _ => none

/-- The middleware let the request of a call through. -/
def isLetThrough (event : AuthEvent) : Bool :=
  match event.answer with
  | .unauthorized _ => false
  | _ => true

end AuthEvent

/-! ### The law -/

/-- A token that was issued, has not expired, and was not redeemed. -/
def Redeemable (history : List AuthEvent) (token : String) (now : Timestamp) : Prop :=
  (∃ event ∈ history, event.issuance? = some token ∧ now ≤ event.now + pairingTokenTtl) ∧
    ∀ event ∈ history, ∀ redemption, event.redemption? = some redemption → redemption.token ≠ token

/-- The credential was returned for a token that was redeemable then, for a device that was not
    revoked since. -/
def Granted (history : List AuthEvent) (credential : String) : Prop :=
  ∃ earlier event later redemption, history = earlier ++ event :: later ∧
    event.redemption? = some redemption ∧ redemption.credential = credential ∧
      Redeemable earlier redemption.token event.now ∧
        ∀ other ∈ history, other.deletion? ≠ some redemption.deviceId

/-- A request to a path that is not exempt is let through exactly when its credential is granted. -/
def LetThroughExactly (history : List AuthEvent) (event : AuthEvent) : Prop :=
  ∀ request, event.operation.request? = some request → isExempt request.path = false →
    (event.isLetThrough = true ↔ Granted history request.credential)

/-- Device authorisation is exact. -/
structure AuthorisationExact (events : List AuthEvent) : Prop where
  letThrough : Along LetThroughExactly [] events
  once : ∀ event ∈ events, ∀ other ∈ events, ∀ redemption redemption',
    event.redemption? = some redemption → other.redemption? = some redemption' →
      redemption.token = redemption'.token → redemption.deviceId = redemption'.deviceId

/-- Random tokens, credentials and ids are none that were drawn before. -/
def Fresh (history : List AuthEvent) (event : AuthEvent) : Prop :=
  (∀ token, event.issuance? = some token →
      ∀ other ∈ history, other.issuance? ≠ some token) ∧
    ∀ redemption, event.redemption? = some redemption →
      ∀ other ∈ history, ∀ redemption', other.redemption? = some redemption' →
        redemption'.credential ≠ redemption.credential ∧
          redemption'.deviceId ≠ redemption.deviceId

/-! ### Where it fails -/

/-- The cache still vouches for the credential of a request, for a device that is revoked. -/
def Stale (process : AuthProcess) (operation : AuthOperation) : Prop :=
  ∃ request entry row, operation.request? = some request ∧ isExempt request.path = false ∧
    request.credential ≠ "" ∧ process.credentialCache request.credential = some entry ∧
      process.clock ≤ entry.expiresAt ∧ process.devices.get? entry.deviceId = some row ∧
        row.revokedAt ≠ none

/-! ### What the state says about the history -/

/-- The state of the process, as the history of its calls explains it. -/
structure Describes (hasher : CredentialHasher) (process : AuthProcess)
    (history : List AuthEvent) : Prop where
  earlier : ∀ event ∈ history, event.now ≤ process.clock
  tokens : ∀ token entry, process.pairingTokens token = some entry →
    (∃ event ∈ history, event.issuance? = some token ∧
        entry.expiresAt = event.now + pairingTokenTtl) ∧
      (entry.redeemed = false → ∀ event ∈ history, ∀ redemption,
        event.redemption? = some redemption → redemption.token ≠ token)
  issued : ∀ event ∈ history, ∀ redemption, event.redemption? = some redemption →
    ∃ other ∈ history, other.issuance? = some redemption.token
  redeemed : ∀ before event later redemption, history = before ++ event :: later →
    event.redemption? = some redemption → Redeemable before redemption.token event.now
  nonempty : ∀ event ∈ history, ∀ redemption, event.redemption? = some redemption →
    redemption.credential ≠ ""
  distinct : ∀ event ∈ history, ∀ other ∈ history, ∀ redemption redemption',
    event.redemption? = some redemption → other.redemption? = some redemption' →
      redemption.token = redemption'.token ∨ redemption.credential = redemption'.credential ∨
          redemption.deviceId = redemption'.deviceId → redemption = redemption'
  devices : ∀ event ∈ history, ∀ redemption, event.redemption? = some redemption →
    ∃ row, process.devices.get? redemption.deviceId = some row
  rows : ∀ deviceId row, process.devices.get? deviceId = some row →
    ∃ event ∈ history, ∃ redemption, event.redemption? = some redemption ∧
      redemption.deviceId = deviceId ∧
        ∀ credential, hasher.verify row.credentialHash credential = true ↔
          credential = redemption.credential
  revoked : ∀ deviceId row, process.devices.get? deviceId = some row →
    (row.revokedAt ≠ none ↔ ∃ event ∈ history, event.deletion? = some deviceId)
  deletions : ∀ event ∈ history, ∀ deviceId, event.deletion? = some deviceId →
    ∃ row, process.devices.get? deviceId = some row
  cached : ∀ credential entry, process.credentialCache credential = some entry →
    ∃ event ∈ history, ∃ redemption, event.redemption? = some redemption ∧
      redemption.credential = credential ∧ redemption.deviceId = entry.deviceId

namespace Describes

theorem start (hasher : CredentialHasher) (clock : Timestamp) :
    Describes hasher (.start clock) [] := by
  constructor <;> simp [AuthProcess.start]

/-- A credential is granted exactly when a device that is not revoked has it. -/
theorem granted_iff (describes : Describes hasher process history) (credential : String) :
    Granted history credential ↔ ∃ deviceId row, process.devices.get? deviceId = some row ∧
      row.revokedAt = none ∧ hasher.verify row.credentialHash credential = true := by
  constructor
  · rintro ⟨before, event, later, redemption, split, redeemed, rfl, -, kept⟩
    have member : event ∈ history := by
      rw [split]
      exact List.mem_append_right before List.mem_cons_self
    obtain ⟨row, found⟩ := describes.devices event member redemption redeemed
    obtain ⟨other, present, redemption', redeemed', sameDevice, verifies⟩ :=
      describes.rows redemption.deviceId row found
    have same := describes.distinct event member other present redemption redemption' redeemed
      redeemed' (.inr (.inr sameDevice.symm))
    refine ⟨redemption.deviceId, row, found, ?_, ?_⟩
    · by_contra revoked
      obtain ⟨deleting, deleted, deletion⟩ := (describes.revoked _ row found).mp revoked
      exact kept deleting deleted deletion
    · rw [verifies, same]
  · rintro ⟨deviceId, row, found, active, verified⟩
    obtain ⟨event, member, redemption, redeemed, rfl, verifies⟩ :=
      describes.rows deviceId row found
    obtain ⟨before, later, split⟩ := List.append_of_mem member
    refine ⟨before, event, later, redemption, split, redeemed,
      ((verifies credential).mp verified).symm,
      describes.redeemed before event later redemption split redeemed, ?_⟩
    intro other present deletion
    exact (describes.revoked _ row found).mpr ⟨other, present, deletion⟩ active

/-! ### An event that redeems nothing -/

section NoRedemption

variable {event : AuthEvent}

/-- The tokens of before are explained as before. -/
theorem tokens_of_noRedemption (describes : Describes hasher process history)
    (nothing : event.redemption? = none) {token : String} {entry : PairingToken}
    (held : process.pairingTokens token = some entry) :
    (∃ issuing ∈ history ++ [event], issuing.issuance? = some token ∧
        entry.expiresAt = issuing.now + pairingTokenTtl) ∧
      (entry.redeemed = false → ∀ other ∈ history ++ [event], ∀ redemption,
        other.redemption? = some redemption → redemption.token ≠ token) := by
  obtain ⟨⟨issuing, member, issued⟩, unused⟩ := describes.tokens token entry held
  refine ⟨⟨issuing, List.mem_append_left _ member, issued⟩, fun active => ?_⟩
  simpa [or_imp, forall_and, nothing] using unused active

/-- What was redeemed was issued before. -/
theorem issued_of_noRedemption (describes : Describes hasher process history)
    (nothing : event.redemption? = none) :
    ∀ other ∈ history ++ [event], ∀ redemption, other.redemption? = some redemption →
      ∃ issuing ∈ history ++ [event], issuing.issuance? = some redemption.token := by
  intro other member redemption redeemed
  rcases List.mem_append.mp member with before | last
  · obtain ⟨issuing, present, issued⟩ := describes.issued other before redemption redeemed
    exact ⟨issuing, List.mem_append_left _ present, issued⟩
  · rw [List.mem_singleton.mp last, nothing] at redeemed
    cases redeemed

/-- What was redeemed was redeemable then. -/
theorem redeemed_of_noRedemption (describes : Describes hasher process history)
    (nothing : event.redemption? = none) :
    ∀ before other later redemption, history ++ [event] = before ++ other :: later →
      other.redemption? = some redemption → Redeemable before redemption.token other.now := by
  intro before other later redemption split redeemed
  rcases append_singleton_eq_split.mp split with ⟨-, rfl, -⟩ | ⟨init, -, inner⟩
  · rw [nothing] at redeemed
    cases redeemed
  · exact describes.redeemed before other init redemption inner redeemed

end NoRedemption

/-- An event that issues, redeems and revokes nothing. -/
structure IsSilent (event : AuthEvent) : Prop where
  issuance : event.issuance? = none
  redemption : event.redemption? = none
  deletion : event.deletion? = none

/-- An event that leaves the process as it is. -/
theorem silent (describes : Describes hasher process history) {event : AuthEvent}
    (present : event.now ≤ process.clock) (silent : IsSilent event) :
    Describes hasher process (history ++ [event]) where
  earlier := List.forall_mem_append.mpr ⟨describes.earlier, by simpa using present⟩
  tokens _ _ cached := describes.tokens_of_noRedemption silent.redemption cached
  issued := describes.issued_of_noRedemption silent.redemption
  redeemed := describes.redeemed_of_noRedemption silent.redemption
  nonempty := by simpa [or_imp, forall_and, silent.redemption] using describes.nonempty
  distinct := by simpa [or_imp, forall_and, silent.redemption] using describes.distinct
  devices := by simpa [or_imp, forall_and, silent.redemption] using describes.devices
  rows := by simpa [or_and_right, exists_or, silent.redemption] using describes.rows
  revoked := by simpa [or_and_right, exists_or, silent.deletion] using describes.revoked
  deletions := by simpa [or_imp, forall_and, silent.deletion] using describes.deletions
  cached := by simpa [or_and_right, exists_or, silent.redemption] using describes.cached

/-- A token that was never issued before. -/
theorem issue (describes : Describes hasher process history) {event : AuthEvent} {token : String}
    (now : event.now = process.clock) (issuance : event.issuance? = some token)
    (redemption : event.redemption? = none) (deletion : event.deletion? = none)
    (fresh : ∀ other ∈ history, other.issuance? ≠ some token) :
    Describes hasher
      { process with
        pairingTokens := withToken (purgeExpired process.pairingTokens process.clock) token
          ⟨process.clock + pairingTokenTtl, false⟩ }
      (history ++ [event]) where
  earlier := List.forall_mem_append.mpr ⟨describes.earlier, by simp [now]⟩
  tokens key entry cached := by
    change (if key = token then _ else _) = some entry at cached
    split at cached
    · next same =>
        cases cached
        refine ⟨⟨event, by simp, by rw [same, issuance], by rw [now]⟩, fun _ => ?_⟩
        simp only [List.mem_append, List.mem_singleton, or_imp, forall_and, forall_eq, redemption,
          reduceCtorEq, false_implies, implies_true, and_true]
        intro other member redemption' redeemed sameToken
        obtain ⟨issuing, present, issued⟩ := describes.issued other member redemption' redeemed
        exact fresh issuing present (by rw [issued, sameToken, same])
    · obtain ⟨held, -⟩ := Option.filter_eq_some_iff.mp cached
      exact describes.tokens_of_noRedemption redemption held
  issued := describes.issued_of_noRedemption redemption
  redeemed := describes.redeemed_of_noRedemption redemption
  nonempty := by simpa [or_imp, forall_and, redemption] using describes.nonempty
  distinct := by simpa [or_imp, forall_and, redemption] using describes.distinct
  devices := by simpa [or_imp, forall_and, redemption] using describes.devices
  rows := by simpa [or_and_right, exists_or, redemption] using describes.rows
  revoked := by simpa [or_and_right, exists_or, deletion] using describes.revoked
  deletions := by simpa [or_imp, forall_and, deletion] using describes.deletions
  cached := by simpa [or_and_right, exists_or, redemption] using describes.cached

/-! ### A redemption -/

section Redeeming

variable {event : AuthEvent} {redemption : Redemption}

/-- A redemption of the longer history is one of before or the last one. -/
theorem redemption_snoc (last : event.redemption? = some redemption) {other : AuthEvent}
    {found : Redemption} (member : other ∈ history ++ [event])
    (redeemed : other.redemption? = some found) : other ∈ history ∨ found = redemption := by
  rcases List.mem_append.mp member with before | added
  · exact .inl before
  · rw [List.mem_singleton.mp added, last, Option.some.injEq] at redeemed
    exact .inr redeemed.symm

/-- What holds of the redemptions of before and of the last one holds of all. -/
theorem forall_redemption_snoc (last : event.redemption? = some redemption)
    {law : Redemption → Prop} (new : law redemption)
    (before : ∀ other ∈ history, ∀ earlier, other.redemption? = some earlier → law earlier) :
    ∀ other ∈ history ++ [event], ∀ earlier, other.redemption? = some earlier → law earlier := by
  intro other member earlier redeemed
  rcases redemption_snoc last member redeemed with present | rfl
  · exact before other present earlier redeemed
  · exact new

/-- The token that is redeemed is spent, and the other tokens are none of its redemptions. -/
theorem tokens_of_redemption (describes : Describes hasher process history)
    (last : event.redemption? = some redemption) {entry : PairingToken}
    (held : process.pairingTokens redemption.token = some entry) {key : String}
    {found : PairingToken}
    (cached : withToken (purgeExpired process.pairingTokens process.clock) redemption.token
      { entry with redeemed := true } key = some found) :
    (∃ issuing ∈ history ++ [event], issuing.issuance? = some key ∧
        found.expiresAt = issuing.now + pairingTokenTtl) ∧
      (found.redeemed = false → ∀ other ∈ history ++ [event], ∀ earlier,
        other.redemption? = some earlier → earlier.token ≠ key) := by
  change (if key = redemption.token then _ else _) = some found at cached
  split at cached
  · next same =>
      cases cached
      obtain ⟨⟨issuing, member, issued⟩, -⟩ := describes.tokens redemption.token entry held
      refine ⟨⟨issuing, List.mem_append_left _ member, same ▸ issued⟩, ?_⟩
      intro impossible
      cases impossible
  · next other =>
      obtain ⟨cached, -⟩ := Option.filter_eq_some_iff.mp cached
      obtain ⟨⟨issuing, member, issued⟩, unused⟩ := describes.tokens key found cached
      exact ⟨⟨issuing, List.mem_append_left _ member, issued⟩, fun idle =>
        forall_redemption_snoc last (fun same => other same.symm) (unused idle)⟩

/-- Every token that was redeemed was issued, the last one too. -/
theorem issued_of_redemption (describes : Describes hasher process history)
    (last : event.redemption? = some redemption)
    (issued : ∃ issuing ∈ history, issuing.issuance? = some redemption.token) :
    ∀ other ∈ history ++ [event], ∀ earlier, other.redemption? = some earlier →
      ∃ issuing ∈ history ++ [event], issuing.issuance? = some earlier.token := by
  have longer : ∀ {token}, (∃ issuing ∈ history, issuing.issuance? = some token) →
      ∃ issuing ∈ history ++ [event], issuing.issuance? = some token := by
    rintro token ⟨issuing, member, same⟩
    exact ⟨issuing, List.mem_append_left _ member, same⟩
  exact forall_redemption_snoc last (longer issued) fun other member earlier redeemed =>
    longer (describes.issued other member earlier redeemed)

/-- Every token was redeemable when it was redeemed, the last one too. -/
theorem redeemed_of_redemption (describes : Describes hasher process history)
    (last : event.redemption? = some redemption)
    (redeemable : Redeemable history redemption.token event.now) :
    ∀ before other later earlier, history ++ [event] = before ++ other :: later →
      other.redemption? = some earlier → Redeemable before earlier.token other.now := by
  intro before other later earlier split redeemed
  rcases append_singleton_eq_split.mp split with ⟨rfl, rfl, -⟩ | ⟨init, -, inner⟩
  · rw [last, Option.some.injEq] at redeemed
    exact redeemed ▸ redeemable
  · exact describes.redeemed before other init earlier inner redeemed

/-- A redemption that shares nothing with the ones of before keeps them apart. -/
theorem distinct_of_redemption (describes : Describes hasher process history)
    (last : event.redemption? = some redemption)
    (apart : ∀ other ∈ history, ∀ earlier, other.redemption? = some earlier →
      earlier.token ≠ redemption.token ∧ earlier.credential ≠ redemption.credential ∧
        earlier.deviceId ≠ redemption.deviceId) :
    ∀ other ∈ history ++ [event], ∀ other' ∈ history ++ [event], ∀ first second,
      other.redemption? = some first → other'.redemption? = some second →
        first.token = second.token ∨ first.credential = second.credential ∨
            first.deviceId = second.deviceId → first = second := by
  have apartLast : ∀ other ∈ history, ∀ earlier, other.redemption? = some earlier →
      ¬(earlier.token = redemption.token ∨ earlier.credential = redemption.credential ∨
        earlier.deviceId = redemption.deviceId) := by
    intro other member earlier redeemed
    obtain ⟨token, credential, deviceId⟩ := apart other member earlier redeemed
    simp [token, credential, deviceId]
  intro other member other' member' first second redeemed redeemed' shared
  rcases redemption_snoc last member redeemed with present | rfl <;>
    rcases redemption_snoc last member' redeemed' with present' | rfl
  · exact describes.distinct other present other' present' first second redeemed redeemed' shared
  · exact absurd shared (apartLast other present first redeemed)
  · refine absurd ?_ (apartLast other' present' second redeemed')
    simpa only [eq_comm] using shared
  · rfl

/-- Every row stands for a redemption, the new one for the last. -/
theorem rows_of_redemption (describes : Describes hasher process history) (ideal : hasher.Ideal)
    (deviceLabel : Option String) {draws : PairingDraws} {token : String}
    (last : event.redemption? = some ⟨token, draws.deviceId, draws.credential.text⟩)
    (free : process.devices.get? draws.deviceId = none) {deviceId : Uuid} {row : PairedDeviceRow}
    (found : (process.devices.insert
      (pairedRow hasher deviceLabel draws process.clock)).get? deviceId = some row) :
    ∃ other ∈ history ++ [event], ∃ redemption, other.redemption? = some redemption ∧
      redemption.deviceId = deviceId ∧
        ∀ credential, hasher.verify row.credentialHash credential = true ↔
          credential = redemption.credential := by
  rw [Table.get?_insert_of_fresh free] at found
  split at found
  · next same =>
      cases found
      refine ⟨event, by simp, _, last, same.symm, fun credential => ?_⟩
      exact ideal draws.salt draws.credential.text credential
  · obtain ⟨past, member, earlier, redeemed, rest⟩ := describes.rows deviceId row found
    exact ⟨past, List.mem_append_left _ member, earlier, redeemed, rest⟩

/-- A new device is not revoked, and the others are as they were. -/
theorem revoked_of_redemption (describes : Describes hasher process history)
    (deviceLabel : Option String) {draws : PairingDraws} (deletion : event.deletion? = none)
    (free : process.devices.get? draws.deviceId = none) {deviceId : Uuid} {row : PairedDeviceRow}
    (found : (process.devices.insert
      (pairedRow hasher deviceLabel draws process.clock)).get? deviceId = some row) :
    row.revokedAt ≠ none ↔ ∃ other ∈ history ++ [event], other.deletion? = some deviceId := by
  have silent : (∃ other ∈ history ++ [event], other.deletion? = some deviceId) ↔
      ∃ other ∈ history, other.deletion? = some deviceId := by
    simp [or_and_right, exists_or, deletion]
  rw [silent]
  rw [Table.get?_insert_of_fresh free] at found
  split at found
  · next same =>
      cases found
      refine iff_of_false (fun revoked => revoked rfl) ?_
      rintro ⟨past, member, deleted⟩
      obtain ⟨row, present⟩ := describes.deletions past member deviceId deleted
      rw [same] at present
      cases free.symm.trans present
  · exact describes.revoked deviceId row found

end Redeeming

/-- A fresh device id is in use nowhere. -/
theorem unused_id (describes : Describes hasher process history) {deviceId : Uuid}
    (fresh : ∀ other ∈ history, ∀ redemption, other.redemption? = some redemption →
      redemption.deviceId ≠ deviceId) : process.devices.get? deviceId = none := by
  cases found : process.devices.get? deviceId with
  | none => rfl
  | some row =>
      obtain ⟨other, member, redemption, redeemed, same, -⟩ := describes.rows deviceId row found
      exact absurd same (fresh other member redemption redeemed)

/-- A token that is redeemed for a new device. -/
theorem redeem (describes : Describes hasher process history) (ideal : hasher.Ideal)
    {event : AuthEvent} {token : String} {entry : PairingToken} (deviceLabel : Option String)
    (draws : PairingDraws) (now : event.now = process.clock)
    (held : process.pairingTokens token = some entry) (active : entry.redeemed = false)
    (unexpired : process.clock ≤ entry.expiresAt)
    (deletion : event.deletion? = none)
    (redemption : event.redemption? = some ⟨token, draws.deviceId, draws.credential.text⟩)
    (fresh : Fresh history event) :
    Describes hasher
      { process with
        pairingTokens := withToken (purgeExpired process.pairingTokens process.clock) token
          { entry with redeemed := true }
        devices := process.devices.insert (pairedRow hasher deviceLabel draws process.clock) }
      (history ++ [event]) := by
  obtain ⟨⟨issuing, issuedBefore, issued, expiry⟩, unused⟩ := describes.tokens token entry held
  have free := describes.unused_id fun other member earlier redeemed =>
    (fresh.2 _ redemption other member earlier redeemed).2
  have redeemable : Redeemable history token event.now := by
    refine ⟨⟨issuing, issuedBefore, issued, ?_⟩, unused active⟩
    rw [now, ← expiry]
    exact unexpired
  refine
    { earlier := List.forall_mem_append.mpr ⟨describes.earlier, by simp [now]⟩
      tokens := fun key found cached => describes.tokens_of_redemption redemption held cached
      issued := describes.issued_of_redemption redemption ⟨issuing, issuedBefore, issued⟩
      redeemed := describes.redeemed_of_redemption redemption redeemable
      nonempty := forall_redemption_snoc redemption ?nonempty describes.nonempty
      distinct := describes.distinct_of_redemption redemption fun other member earlier redeemed =>
        ⟨unused active other member earlier redeemed,
          fresh.2 _ redemption other member earlier redeemed⟩
      devices := forall_redemption_snoc redemption ?paired ?others
      rows := fun _ _ found => describes.rows_of_redemption ideal deviceLabel redemption free found
      revoked := fun _ _ found => describes.revoked_of_redemption deviceLabel deletion free found
      deletions := ?deletions
      cached := ?cached }
  case nonempty =>
    intro empty
    have length := draws.credential.length
    rw [show draws.credential.text = "" from empty] at length
    cases length
  case paired =>
    exact ⟨_, (Table.get?_insert_of_fresh free _).trans (if_pos rfl)⟩
  case others =>
    intro past present earlier redeemed
    obtain ⟨row, found⟩ := describes.devices past present earlier redeemed
    exact ⟨row, Table.get?_insert_of_get? found⟩
  case deletions =>
    intro past present deviceId deleted
    rcases List.mem_append.mp present with before | last
    · obtain ⟨row, found⟩ := describes.deletions past before deviceId deleted
      exact ⟨row, Table.get?_insert_of_get? found⟩
    · rw [List.mem_singleton.mp last, deletion] at deleted
      cases deleted
  case cached =>
    intro credential found cached
    obtain ⟨past, member, rest⟩ := describes.cached credential found cached
    exact ⟨past, List.mem_append_left _ member, rest⟩

/-! ### A revocation -/

section Revoking

variable {event : AuthEvent} {deviceId : Uuid} {row : PairedDeviceRow} {revokedAt : Timestamp}
  {devices : Table PairedDeviceRow}

/-- No device is lost by the revocation of one. -/
theorem present_of_revocation
    (updated : ∀ other, devices.get? other =
      if other = deviceId then some { row with revokedAt := some revokedAt }
      else process.devices.get? other) {other : Uuid}
    (present : ∃ old, process.devices.get? other = some old) :
    ∃ device, devices.get? other = some device := by
  rw [updated]
  split
  · exact ⟨_, rfl⟩
  · exact present

/-- Every row keeps its credential hash. -/
theorem hash_of_revocation (found : process.devices.get? deviceId = some row)
    (updated : ∀ other, devices.get? other =
      if other = deviceId then some { row with revokedAt := some revokedAt }
      else process.devices.get? other) {other : Uuid} {device : PairedDeviceRow}
    (seen : devices.get? other = some device) :
    ∃ old, process.devices.get? other = some old ∧ old.credentialHash = device.credentialHash := by
  rw [updated] at seen
  split at seen
  · next same =>
      cases seen
      exact ⟨row, same ▸ found, rfl⟩
  · exact ⟨device, seen, rfl⟩

/-- Exactly one device more is revoked. -/
theorem revoked_of_revocation (describes : Describes hasher process history)
    (deletion : event.deletion? = some deviceId)
    (updated : ∀ other, devices.get? other =
      if other = deviceId then some { row with revokedAt := some revokedAt }
      else process.devices.get? other) {other : Uuid} {device : PairedDeviceRow}
    (seen : devices.get? other = some device) :
    device.revokedAt ≠ none ↔ ∃ past ∈ history ++ [event], past.deletion? = some other := by
  rw [updated] at seen
  split at seen
  · next same =>
      cases seen
      refine iff_of_true (Option.some_ne_none revokedAt) ⟨event, by simp, ?_⟩
      rw [same, deletion]
  · next apart =>
      rw [describes.revoked other device seen]
      simp only [List.mem_append, List.mem_singleton, or_and_right, exists_or, exists_eq_left,
        deletion, Option.some.injEq]
      exact (or_iff_left fun same => apart same.symm).symm

end Revoking

/-- A device that is there is revoked from now on. -/
theorem revoke (describes : Describes hasher process history) {event : AuthEvent}
    {deviceId : Uuid} {row : PairedDeviceRow} (revokedAt : Timestamp)
    {devices : Table PairedDeviceRow} (present : event.now ≤ process.clock)
    (found : process.devices.get? deviceId = some row)
    (redemption : event.redemption? = none) (deletion : event.deletion? = some deviceId)
    (updated : ∀ other, devices.get? other =
      if other = deviceId then some { row with revokedAt := some revokedAt }
      else process.devices.get? other) :
    Describes hasher { process with devices := devices } (history ++ [event]) where
  earlier := List.forall_mem_append.mpr ⟨describes.earlier, by simpa using present⟩
  tokens _ _ cached := describes.tokens_of_noRedemption redemption cached
  issued := describes.issued_of_noRedemption redemption
  redeemed := describes.redeemed_of_noRedemption redemption
  nonempty := by simpa [or_imp, forall_and, redemption] using describes.nonempty
  distinct := by simpa [or_imp, forall_and, redemption] using describes.distinct
  devices past member earlier redeemed := by
    rcases List.mem_append.mp member with before | last
    · exact present_of_revocation updated (describes.devices past before earlier redeemed)
    · rw [List.mem_singleton.mp last, redemption] at redeemed
      cases redeemed
  rows other device seen := by
    obtain ⟨old, held, sameHash⟩ := hash_of_revocation found updated seen
    obtain ⟨past, member, rest⟩ := describes.rows other old held
    rw [← sameHash]
    exact ⟨past, List.mem_append_left _ member, rest⟩
  revoked _ _ seen := describes.revoked_of_revocation deletion updated seen
  deletions past member other deleted := by
    rcases List.mem_append.mp member with before | last
    · exact present_of_revocation updated (describes.deletions past before other deleted)
    · rw [List.mem_singleton.mp last, deletion, Option.some.injEq] at deleted
      rw [updated, if_pos deleted.symm]
      exact ⟨_, rfl⟩
  cached credential entry cached := by
    obtain ⟨past, member, rest⟩ := describes.cached credential entry cached
    exact ⟨past, List.mem_append_left _ member, rest⟩

end Describes

/-! ### Changes that need no event -/

/-- What a row says of its device, apart from when it was seen last. -/
def PairedDeviceRow.essentials (row : PairedDeviceRow) : String × Option Timestamp :=
  (row.credentialHash, row.revokedAt)

/-- Tokens and cached credentials are dropped, devices are seen, and credentials that verify are
    cached. -/
structure Quiet (hasher : CredentialHasher) (process after : AuthProcess) : Prop where
  clock : process.clock ≤ after.clock
  tokens : ∀ token entry, after.pairingTokens token = some entry →
    process.pairingTokens token = some entry
  devices : ∀ deviceId, (after.devices.get? deviceId).map PairedDeviceRow.essentials =
    (process.devices.get? deviceId).map PairedDeviceRow.essentials
  cached : ∀ credential entry, after.credentialCache credential = some entry →
    process.credentialCache credential = some entry ∨
      ∃ row, process.devices.get? entry.deviceId = some row ∧
        hasher.verify row.credentialHash credential = true

/-- A row that is there before and after. -/
theorem Quiet.row {row : PairedDeviceRow} {deviceId : Uuid} (quiet : Quiet hasher process after)
    (found : after.devices.get? deviceId = some row) :
    ∃ old, process.devices.get? deviceId = some old ∧ old.essentials = row.essentials := by
  have same := quiet.devices deviceId
  rw [found] at same
  exact Option.map_eq_some_iff.mp same.symm

theorem Quiet.row_kept {row : PairedDeviceRow} {deviceId : Uuid}
    (quiet : Quiet hasher process after) (found : process.devices.get? deviceId = some row) :
    ∃ new, after.devices.get? deviceId = some new ∧ new.essentials = row.essentials := by
  have same := quiet.devices deviceId
  rw [found] at same
  exact Option.map_eq_some_iff.mp same

theorem Describes.quiet (describes : Describes hasher process history)
    (quiet : Quiet hasher process after) : Describes hasher after history where
  earlier event member := (describes.earlier event member).trans quiet.clock
  tokens token entry held := describes.tokens token entry (quiet.tokens token entry held)
  issued := describes.issued
  redeemed := describes.redeemed
  nonempty := describes.nonempty
  distinct := describes.distinct
  devices event member redemption redeemed := by
    obtain ⟨row, found⟩ := describes.devices event member redemption redeemed
    obtain ⟨new, seen, -⟩ := quiet.row_kept found
    exact ⟨new, seen⟩
  rows deviceId row found := by
    obtain ⟨old, held, same⟩ := quiet.row found
    rw [← show old.credentialHash = row.credentialHash from congrArg Prod.fst same]
    exact describes.rows deviceId old held
  revoked deviceId row found := by
    obtain ⟨old, held, same⟩ := quiet.row found
    rw [← show old.revokedAt = row.revokedAt from congrArg Prod.snd same]
    exact describes.revoked deviceId old held
  deletions event member deviceId deleted := by
    obtain ⟨row, found⟩ := describes.deletions event member deviceId deleted
    obtain ⟨new, seen, -⟩ := quiet.row_kept found
    exact ⟨new, seen⟩
  cached credential entry held := by
    rcases quiet.cached credential entry held with before | ⟨row, found, verified⟩
    · exact describes.cached credential entry before
    · obtain ⟨event, member, redemption, redeemed, same, verifies⟩ :=
        describes.rows entry.deviceId row found
      exact ⟨event, member, redemption, redeemed, ((verifies credential).mp verified).symm, same⟩

/-! ### The middleware -/

/-- The cache vouches for a credential. -/
def Vouches (process : AuthProcess) (credential : String) : Prop :=
  ∃ entry, process.credentialCache credential = some entry ∧ process.clock ≤ entry.expiresAt

/-- A device that is not revoked has the credential. -/
def Valid (hasher : CredentialHasher) (process : AuthProcess) (credential : String) : Prop :=
  ∃ deviceId row, process.devices.get? deviceId = some row ∧ row.revokedAt = none ∧
    hasher.verify row.credentialHash credential = true

theorem cacheLookup_subset {cache : String → Option CachedCredential} {credential key : String}
    {now : Timestamp} {entry : CachedCredential}
    (held : (cacheLookup cache credential now).1 key = some entry) : cache key = some entry := by
  rw [cacheLookup] at held
  split at held
  · exact held
  · split at held
    · change (if key = credential then none else cache key) = some entry at held
      split at held
      · cases held
      · exact held
    · exact held

theorem cacheLookup_isSome_iff {process : AuthProcess} {credential : String} :
    (cacheLookup process.credentialCache credential process.clock).2.isSome = true ↔
      Vouches process credential := by
  rw [cacheLookup, Vouches]
  cases process.credentialCache credential with
  | none => simp
  | some entry =>
      dsimp only
      split
      · next expired => simpa using expired
      · next live => simpa using live

theorem validateCredential_isSome_iff {process : AuthProcess} {credential : String} :
    (validateCredential hasher process.devices credential process.clock).2.isSome = true ↔
      Valid hasher process credential := by
  rw [validateCredential, Valid]
  cases found : (process.devices.select fun row => decide (row.revokedAt = none)).find? fun row =>
      hasher.verify row.credentialHash credential with
  | none =>
      refine iff_of_false Bool.false_ne_true ?_
      rintro ⟨deviceId, row, held, active, verified⟩
      have member : row ∈ process.devices.select fun row => decide (row.revokedAt = none) :=
        Table.mem_select.mpr ⟨Table.mem_of_get? held, decide_eq_true active⟩
      exact List.find?_eq_none.mp found row member verified
  | some row =>
      obtain ⟨member, active⟩ := Table.mem_select.mp (List.mem_of_find?_eq_some found)
      have verified := List.find?_some found
      exact iff_of_true rfl
        ⟨row.id, row, Table.get?_of_mem member, of_decide_eq_true active, verified⟩

/-- Validation only notes when a device was seen, and names one whose hash verifies. -/
theorem validateCredential_quiet (devices : Table PairedDeviceRow) (credential : String)
    (now : Timestamp) :
    (∀ deviceId, ((validateCredential hasher devices credential now).1.get? deviceId).map
        PairedDeviceRow.essentials = (devices.get? deviceId).map PairedDeviceRow.essentials) ∧
      ∀ deviceId, (validateCredential hasher devices credential now).2 = some deviceId →
        ∃ row, devices.get? deviceId = some row ∧
          hasher.verify row.credentialHash credential = true := by
  rw [validateCredential]
  cases found : (devices.select fun row => decide (row.revokedAt = none)).find? fun row =>
      hasher.verify row.credentialHash credential with
  | none =>
      refine ⟨fun deviceId => rfl, fun deviceId named => ?_⟩
      cases named
  | some row =>
      obtain ⟨member, -⟩ := Table.mem_select.mp (List.mem_of_find?_eq_some found)
      have held : devices.get? row.id = some row := Table.get?_of_mem member
      constructor
      · intro deviceId
        dsimp only
        rw [Table.get?_update]
        split
        · next same =>
            rw [same, held]
            rfl
        · rfl
      · intro deviceId named
        cases named
        have verified := List.find?_some found
        exact ⟨row, held, verified⟩

theorem dispatch_quiet (process : AuthProcess) (request : ApiRequest) :
    Quiet hasher process (dispatch hasher process request).1 := by
  have unchanged : Quiet hasher process process :=
    ⟨le_rfl, fun _ _ held => held, fun _ => rfl, fun _ _ held => .inl held⟩
  rw [dispatch]
  split
  · exact unchanged
  · split
    · exact unchanged
    · obtain ⟨seen, named⟩ :=
        @validateCredential_quiet hasher process.devices request.credential process.clock
      cases looked : cacheLookup process.credentialCache request.credential process.clock with
      | mk cache cached =>
          have smaller : ∀ key entry, cache key = some entry →
              process.credentialCache key = some entry := by
            intro key entry held
            have kept : (cacheLookup process.credentialCache request.credential process.clock).1
                key = some entry := by
              rw [looked]
              exact held
            exact cacheLookup_subset kept
          cases cached with
          | some deviceId =>
              exact ⟨le_rfl, fun _ _ held => held, fun _ => rfl,
                fun key entry held => .inl (smaller key entry held)⟩
          | none =>
              dsimp only
              cases validated : validateCredential hasher process.devices request.credential
                  process.clock with
              | mk devices valid =>
                  rw [validated] at seen named
                  cases valid with
                  | none =>
                      exact ⟨le_rfl, fun _ _ held => held, seen,
                        fun key entry held => .inl (smaller key entry held)⟩
                  | some deviceId =>
                      refine ⟨le_rfl, fun _ _ held => held, seen, fun key entry held => ?_⟩
                      change (if key = request.credential then _ else cache key) =
                        some entry at held
                      split at held
                      · next same =>
                          cases held
                          rw [same]
                          exact .inr (named deviceId rfl)
                      · exact .inl (smaller key entry held)

/-- What the middleware lets through. -/
theorem dispatch_isOk_iff {process : AuthProcess} {request : ApiRequest}
    (guarded : isExempt request.path = false) :
    (dispatch hasher process request).2.isOk = true ↔
      request.credential ≠ "" ∧
        (Vouches process request.credential ∨ Valid hasher process request.credential) := by
  rw [dispatch, if_neg (by simp [guarded]), ← cacheLookup_isSome_iff,
    ← validateCredential_isSome_iff]
  split
  · next empty => exact iff_of_false Bool.false_ne_true fun given => given.1 empty
  · next given =>
      cases cacheLookup process.credentialCache request.credential process.clock with
      | mk cache cached =>
          cases cached with
          | some deviceId => exact iff_of_true rfl ⟨given, .inl rfl⟩
          | none =>
              cases validateCredential hasher process.devices request.credential
                  process.clock with
              | mk devices valid =>
                  cases valid with
                  | none => simp [Except.isOk, Except.toBool]
                  | some deviceId => exact iff_of_true rfl ⟨given, .inr rfl⟩

/-! ### One call -/

/-- Dropping the expired tokens is nothing that the history tells. -/
theorem quiet_purgeExpired (hasher : CredentialHasher) (process : AuthProcess) :
    Quiet hasher process
      { process with pairingTokens := purgeExpired process.pairingTokens process.clock } :=
  ⟨le_rfl, fun _ _ held => (Option.filter_eq_some_iff.mp held).1, fun _ => rfl,
    fun _ _ held => .inl held⟩

/-- Waiting is nothing that the history tells. -/
theorem quiet_advance (hasher : CredentialHasher) (process : AuthProcess) (elapsed : Timestamp) :
    Quiet hasher process { process with clock := process.clock + elapsed } :=
  ⟨Nat.le_add_right _ _, fun _ _ held => held, fun _ => rfl, fun _ _ held => .inl held⟩

/-- After a redemption, granted or refused, the history describes the process. -/
theorem Describes.step_redeem (describes : Describes hasher process history) (ideal : hasher.Ideal)
    {now : Timestamp} {token : String} {deviceLabel : Option String} {draws : PairingDraws}
    {answer : AuthAnswer} (fresh : Fresh history ⟨now, .redeem token deviceLabel draws, answer⟩)
    (taken : authTransition hasher process ⟨now, .redeem token deviceLabel draws, answer⟩ after) :
    Describes hasher after (history ++ [⟨now, .redeem token deviceLabel draws, answer⟩]) := by
  obtain ⟨present, stepped⟩ := taken
  have purged := describes.quiet (quiet_purgeExpired hasher process)
  rw [authStep, postPairingRedeem] at stepped
  dsimp only at stepped
  cases cached : purgeExpired process.pairingTokens process.clock token with
  | none =>
      rw [cached] at stepped
      cases stepped
      exact purged.silent present.le ⟨rfl, rfl, rfl⟩
  | some entry =>
      rw [cached] at stepped
      dsimp only at stepped
      by_cases refused : entry.redeemed = true ∨ entry.expiresAt < process.clock
      · rw [if_pos refused] at stepped
        cases stepped
        exact purged.silent present.le ⟨rfl, rfl, rfl⟩
      · rw [if_neg refused] at stepped
        cases stepped
        rw [not_or, not_lt] at refused
        exact describes.redeem ideal deviceLabel draws present
          (Option.filter_eq_some_iff.mp cached).1 (Bool.eq_false_of_not_eq_true refused.1)
          refused.2 rfl rfl fresh

/-- After a request the history describes the process. -/
theorem Describes.step_request (describes : Describes hasher process history) {now : Timestamp}
    {request : ApiRequest} {answer : AuthAnswer}
    (taken : authTransition hasher process ⟨now, .request request, answer⟩ after) :
    Describes hasher after (history ++ [⟨now, .request request, answer⟩]) := by
  obtain ⟨present, stepped⟩ := taken
  have quiet := @dispatch_quiet hasher process request
  rw [authStep] at stepped
  cases dispatched : dispatch hasher process request with
  | mk served outcome =>
      rw [dispatched] at stepped quiet
      have described := describes.quiet quiet
      cases outcome with
      | ok deviceId =>
          cases stepped
          exact described.silent (present.le.trans quiet.clock) ⟨rfl, rfl, rfl⟩
      | error error =>
          cases stepped
          exact described.silent (present.le.trans quiet.clock) ⟨rfl, rfl, rfl⟩

/-- The deletion of a device that is there raises nothing. -/
theorem deleteDevice_returns {deviceId : Uuid} {row : PairedDeviceRow}
    (found : process.devices.get? deviceId = some row) :
    deleteDevice process deviceId = ((deleteDevice process deviceId).1, .ok ()) := by
  simp only [deleteDevice, found]
  split <;> rfl

/-- After a deletion that was let through the history describes the process: a device that is there
    is revoked, also when it was before. -/
theorem Describes.deleteDevice (describes : Describes hasher process history) {event : AuthEvent}
    {deviceId : Uuid} {row : PairedDeviceRow} (present : event.now ≤ process.clock)
    (found : process.devices.get? deviceId = some row) (redemption : event.redemption? = none)
    (deletion : event.deletion? = some deviceId) :
    Describes hasher (TallyKeep.deleteDevice process deviceId).1 (history ++ [event]) := by
  simp only [TallyKeep.deleteDevice, found]
  cases stamp : row.revokedAt with
  | none =>
      refine describes.revoke process.clock present found redemption deletion fun other => ?_
      rw [Table.get?_update, found]
      rfl
  | some revokedAt =>
      refine describes.revoke revokedAt present found redemption deletion fun other => ?_
      split
      · next same => rw [same, found, ← stamp]
      · rfl

/-- After a call of the deletion route the history describes the process. -/
theorem Describes.step_deleteDevice (describes : Describes hasher process history)
    {now : Timestamp} {authorization tokenParameter : String} {deviceId : Uuid}
    {answer : AuthAnswer}
    (taken : authTransition hasher process
      ⟨now, .deleteDevice authorization tokenParameter deviceId, answer⟩ after) :
    Describes hasher after
      (history ++ [⟨now, .deleteDevice authorization tokenParameter deviceId, answer⟩]) := by
  obtain ⟨present, stepped⟩ := taken
  have quiet := @dispatch_quiet hasher process
    ⟨devicePath deviceId, authorization, tokenParameter⟩
  rw [authStep] at stepped
  cases dispatched : dispatch hasher process
      ⟨devicePath deviceId, authorization, tokenParameter⟩ with
  | mk served outcome =>
      rw [dispatched] at stepped quiet
      have described := describes.quiet quiet
      have recent : now ≤ served.clock := present.le.trans quiet.clock
      cases outcome with
      | error error =>
          cases stepped
          exact described.silent recent ⟨rfl, rfl, rfl⟩
      | ok letThrough =>
          cases found : served.devices.get? deviceId with
          | none =>
              simp only [TallyKeep.deleteDevice, found] at stepped
              cases stepped
              exact described.silent recent ⟨rfl, rfl, rfl⟩
          | some row =>
              dsimp only at stepped
              rw [deleteDevice_returns found] at stepped
              cases stepped
              exact described.deleteDevice recent found rfl rfl

/-- The history goes on describing the process. -/
theorem Describes.step (describes : Describes hasher process history) (ideal : hasher.Ideal)
    {event : AuthEvent} (fresh : Fresh history event)
    (taken : authTransition hasher process event after) :
    Describes hasher after (history ++ [event]) := by
  obtain ⟨now, operation, answer⟩ := event
  cases operation with
  | issue token =>
      obtain ⟨present, stepped⟩ := taken
      cases stepped
      exact describes.issue present rfl rfl rfl (fresh.1 token rfl)
  | redeem token deviceLabel draws => exact describes.step_redeem ideal fresh taken
  | request request => exact describes.step_request taken
  | deleteDevice authorization tokenParameter deviceId => exact describes.step_deleteDevice taken
  | advance elapsed =>
      obtain ⟨present, stepped⟩ := taken
      cases stepped
      have quiet := quiet_advance hasher process elapsed
      exact (describes.quiet quiet).silent (present.le.trans quiet.clock) ⟨rfl, rfl, rfl⟩

/-- A call lets its request through exactly when the middleware does. -/
theorem isLetThrough_iff {event : AuthEvent} {request : ApiRequest}
    (taken : authTransition hasher process event after)
    (sent : event.operation.request? = some request) :
    event.isLetThrough = true ↔ (dispatch hasher process request).2.isOk = true := by
  obtain ⟨now, operation, answer⟩ := event
  obtain ⟨-, stepped⟩ := taken
  cases operation with
  | issue token | redeem token deviceLabel draws | advance elapsed => cases sent
  | request inner =>
      cases sent
      rw [authStep] at stepped
      cases dispatched : dispatch hasher process request with
      | mk served outcome =>
          rw [dispatched] at stepped
          cases outcome with
          | ok deviceId =>
              cases stepped
              exact iff_of_true rfl rfl
          | error error =>
              cases stepped
              exact iff_of_false Bool.false_ne_true Bool.false_ne_true
  | deleteDevice authorization tokenParameter deviceId =>
      cases sent
      rw [authStep] at stepped
      cases dispatched : dispatch hasher process
          ⟨devicePath deviceId, authorization, tokenParameter⟩ with
      | mk served outcome =>
          rw [dispatched] at stepped
          cases outcome with
          | error error =>
              cases stepped
              exact iff_of_false Bool.false_ne_true Bool.false_ne_true
          | ok letThrough =>
              dsimp only at stepped
              split at stepped
              · cases stepped
                exact iff_of_true rfl rfl
              · cases stepped
                exact iff_of_true rfl rfl

namespace Describes

/-- Only credentials that were returned are valid, and they are not empty. -/
theorem ne_empty_of_valid (describes : Describes hasher process history) {credential : String}
    (valid : Valid hasher process credential) : credential ≠ "" := by
  obtain ⟨deviceId, row, found, -, verified⟩ := valid
  obtain ⟨event, member, redemption, redeemed, -, verifies⟩ := describes.rows deviceId row found
  rw [(verifies credential).mp verified]
  exact describes.nonempty event member redemption redeemed

/-- What the cache vouches for is valid exactly when its device is not revoked. -/
theorem valid_iff_of_cached (describes : Describes hasher process history) {credential : String}
    {entry : CachedCredential} (held : process.credentialCache credential = some entry) :
    Valid hasher process credential ↔
      ¬∃ row, process.devices.get? entry.deviceId = some row ∧ row.revokedAt ≠ none := by
  obtain ⟨event, member, redemption, redeemed, sameCredential, sameDevice⟩ :=
    describes.cached credential entry held
  obtain ⟨row, found⟩ := describes.devices event member redemption redeemed
  rw [sameDevice] at found
  have own : ∀ deviceId other, process.devices.get? deviceId = some other →
      (hasher.verify other.credentialHash credential = true ↔ deviceId = entry.deviceId) := by
    intro deviceId other seen
    obtain ⟨past, present, redemption', redeemed', device, verifies⟩ :=
      describes.rows deviceId other seen
    rw [verifies]
    constructor
    · intro same
      rw [← describes.distinct event member past present redemption redemption' redeemed redeemed'
        (.inr (.inl (sameCredential.trans same)))] at device
      rw [← device, sameDevice]
    · intro same
      rw [describes.distinct past present event member redemption' redemption redeemed' redeemed
        (.inr (.inr (by rw [device, same, sameDevice]))), sameCredential]
  constructor
  · rintro ⟨deviceId, other, seen, active, verified⟩ ⟨revokedRow, sameRow, revoked⟩
    rw [(own deviceId other seen).mp verified, sameRow, Option.some.injEq] at seen
    rw [seen] at revoked
    exact revoked active
  · intro kept
    refine ⟨entry.deviceId, row, found, ?_, (own entry.deviceId row found).mpr rfl⟩
    by_contra revoked
    exact kept ⟨row, found, revoked⟩

/-- One call is exact exactly when the cache does not vouch for a revoked device. -/
theorem exact_iff (describes : Describes hasher process history) {event : AuthEvent}
    (taken : authTransition hasher process event after) :
    LetThroughExactly history event ↔ ¬Stale process event.operation := by
  have settled : ∀ request, event.operation.request? = some request →
      isExempt request.path = false →
        ((event.isLetThrough = true ↔ Granted history request.credential) ↔
          ¬(request.credential ≠ "" ∧ ∃ entry row,
            process.credentialCache request.credential = some entry ∧
              process.clock ≤ entry.expiresAt ∧
                process.devices.get? entry.deviceId = some row ∧ row.revokedAt ≠ none)) := by
    intro request sent guarded
    rw [isLetThrough_iff taken sent, dispatch_isOk_iff guarded, describes.granted_iff]
    change (_ ∧ _ ↔ Valid hasher process request.credential) ↔ _
    have given := @ne_empty_of_valid hasher process history describes request.credential
    by_cases vouches : Vouches process request.credential
    · obtain ⟨entry, held, live⟩ := vouches
      have valid := describes.valid_iff_of_cached held
      constructor
      · rintro same ⟨nonempty, other, row, cached, -, found, revoked⟩
        rw [held, Option.some.injEq] at cached
        rw [← cached] at found
        exact valid.mp (same.mp ⟨nonempty, .inl ⟨entry, held, live⟩⟩) ⟨row, found, revoked⟩
      · intro kept
        refine ⟨fun through => valid.mpr ?_, fun valid => ⟨given valid, .inr valid⟩⟩
        rintro ⟨row, found, revoked⟩
        exact kept ⟨through.1, entry, row, held, live, found, revoked⟩
    · refine iff_of_true ⟨fun through => ?_, fun valid => ⟨given valid, .inr valid⟩⟩ ?_
      · exact through.2.resolve_left vouches
      · rintro ⟨-, entry, row, held, live, -⟩
        exact vouches ⟨entry, held, live⟩
  constructor
  · rintro law ⟨request, entry, row, sent, guarded, nonempty, rest⟩
    exact (settled request sent guarded).mp (law request sent guarded)
      ⟨nonempty, entry, row, rest⟩
  · intro fine request sent guarded
    rw [settled request sent guarded]
    rintro ⟨nonempty, entry, row, rest⟩
    exact fine ⟨request, entry, row, sent, guarded, nonempty, rest⟩

end Describes

/-! ### Runs -/

/-- Device authorisation is exact in a run exactly when no request is made with a credential that
    the cache still vouches for after its device was revoked. -/
theorem authorisationExact_iff (ideal : hasher.Ideal) {clock : Timestamp}
    {events : List AuthEvent} (fresh : Along Fresh [] events)
    (run : Run (authTransition hasher) (.start clock) events process) :
    AuthorisationExact events ↔
      Run (guarded (authTransition hasher) fun process event => ¬Stale process event.operation)
        (.start clock) events process := by
  have kept : ∀ process earlier event after, Describes hasher process earlier →
      Fresh earlier event → authTransition hasher process event after →
        Describes hasher after (earlier ++ [event]) :=
    fun _ _ _ _ describes fresh taken => describes.step ideal fresh taken
  have exact : Along LetThroughExactly [] events ↔
      Run (guarded (authTransition hasher) fun process event => ¬Stale process event.operation)
        (.start clock) events process := by
    refine run.along_iff ?_ kept (fun _ _ _ _ describes taken => describes.exact_iff taken) fresh
      (.start hasher clock)
    rintro process event after other ⟨-, stepped⟩ ⟨-, again⟩
    rw [stepped] at again
    exact (Prod.mk.inj again).1.symm
  rw [← exact]
  refine ⟨AuthorisationExact.letThrough, fun letThrough => ⟨letThrough, ?_⟩⟩
  have describes : Describes hasher process ([] ++ events) :=
    run.invariant_labels kept fresh (.start hasher clock)
  intro event member other present redemption redemption' redeemed redeemed' same
  rw [describes.distinct event member other present redemption redemption' redeemed redeemed'
    (.inl same)]

/-- A hasher that keeps the password. -/
def plainHasher : CredentialHasher := ⟨fun _ password => password, fun hash other => hash == other⟩

theorem plainHasher_ideal : plainHasher.Ideal := by
  intro salt password other
  exact beq_iff_eq.trans eq_comm

def phoneCredential : DeviceCredential := ⟨String.ofList (List.replicate 43 'a'), by decide⟩

/-- A device is paired, and asks for the list of holdings. -/
def pairedEvents : List AuthEvent :=
  [⟨0, .issue "token", .issued "token" pairingTokenTtl⟩,
    ⟨0, .redeem "token" none ⟨"salt", phoneCredential, 1⟩, .redeemed 1 phoneCredential.text⟩,
    ⟨0, .request ⟨"/api/v1/holdings", "Bearer " ++ phoneCredential.text, ""⟩, .passed (some 1)⟩]

/-- Then the device is deleted, and asks again. -/
def revokedEvents : List AuthEvent :=
  pairedEvents ++
    [⟨0, .deleteDevice ("Bearer " ++ phoneCredential.text) "" 1, .deleted⟩,
      ⟨0, .request ⟨"/api/v1/holdings", "Bearer " ++ phoneCredential.text, ""⟩, .passed (some 1)⟩]

/-- The process after some calls. -/
def authRun (events : List AuthEvent) : AuthProcess :=
  events.foldl (fun process event => (authStep plainHasher process event.operation).1) (.start 0)

theorem fresh_pairedEvents : Along Fresh [] pairedEvents := by
  refine ⟨?_, ?_, ?_, trivial⟩ <;>
    simp [Fresh, AuthEvent.issuance?, AuthEvent.redemption?]

theorem run_pairedEvents :
    Run (authTransition plainHasher) (.start 0) pairedEvents (authRun pairedEvents) :=
  .cons ⟨rfl, Prod.ext rfl (by decide)⟩ (.cons ⟨rfl, Prod.ext rfl (by decide)⟩
    (.cons ⟨rfl, Prod.ext rfl (by decide)⟩ (.stop _)))

/-- The equivalence for the paired device. -/
theorem authorisationExact_pairedEvents :
    AuthorisationExact pairedEvents ↔
      Run (guarded (authTransition plainHasher) fun process event => ¬Stale process event.operation)
        (.start 0) pairedEvents (authRun pairedEvents) :=
  authorisationExact_iff plainHasher_ideal fresh_pairedEvents run_pairedEvents

/-- The deleted device is let through. -/
theorem revoked_device_let_through :
    ¬∀ hasher clock events process, CredentialHasher.Ideal hasher → Along Fresh [] events →
      Run (authTransition hasher) (.start clock) events process → AuthorisationExact events := by
  intro law
  have fresh : Along Fresh [] revokedEvents := by
    refine ⟨?_, ?_, ?_, ?_, ?_, trivial⟩ <;>
      simp [Fresh, AuthEvent.issuance?, AuthEvent.redemption?]
  have run : Run (authTransition plainHasher) (.start 0) revokedEvents (authRun revokedEvents) :=
    .cons ⟨rfl, Prod.ext rfl (by decide)⟩ (.cons ⟨rfl, Prod.ext rfl (by decide)⟩
      (.cons ⟨rfl, Prod.ext rfl (by decide)⟩
        (.cons ⟨rfl, Prod.ext rfl (by decide)⟩
          (.cons ⟨rfl, Prod.ext rfl (by decide)⟩ (.stop _)))))
  have exact := (law plainHasher 0 revokedEvents _ plainHasher_ideal fresh run).letThrough
  obtain ⟨before, event, later, redemption, split, redeemed, -, -, kept⟩ :=
    (exact.2.2.2.2.1 _ rfl (by decide)).mp rfl
  have member : event ∈ before ++ event :: later := List.mem_append_right _ List.mem_cons_self
  rw [← split] at member
  have device : redemption.deviceId = 1 := by
    simp only [List.nil_append, List.cons_append, List.mem_cons, List.not_mem_nil,
      or_false] at member
    rcases member with rfl | rfl | rfl | rfl <;> cases redeemed
    rfl
  exact kept _ (.tail _ (.tail _ (.tail _ (.head _)))) (by rw [device]; rfl)

end TallyKeep
