/-
Module: TallyKeep.Proofs.CredentialRotation
Layer: Proofs
Purpose: At which of its commits a rotation of credentials leaves a provider with credentials.
Trusted boundary: none
Main exports: readText, readReferences, Provisioned, UnusedReferences, rotationCommits,
  patchProviderRoute_refused_or_followed, provisioned_iff_of_stop
-/
import TallyKeep.Services.CredentialRotation
import TallyKeep.Proofs.SecretStore
import TallyKeep.Proofs.DryRuns

namespace TallyKeep

open Relational Stepwise

variable {Key : Type}

/-! ### What references resolve to -/

/-- The text under a reference, read by a process that was unlocked with the key. -/
def readText (cryptography : Cryptography Key) (key : Key) (process : TreasuryProcess Key)
    (reference : String) : Except PyError String := do
  let value ← result (getSecret cryptography reference) (process.store.withKey (some key))
  decodeText value

/-- The credentials three references resolve to. -/
def readReferences (cryptography : Cryptography Key) (key : Key) (process : TreasuryProcess Key)
    (references : CredentialReferences) : Except PyError Credentials := do
  let apiKey ← readText cryptography key process references.apiCredential
  let apiSecret ← readText cryptography key process references.apiSecret
  match references.apiPassphrase with
  | none => return ⟨apiKey, apiSecret, none⟩
  | some reference =>
      let apiPassphrase ← readText cryptography key process reference
      return ⟨apiKey, apiSecret, some apiPassphrase⟩

/-- The references of the committed row all resolve, to the credentials the provider had or to
    credentials that passed the validation together. -/
def Provisioned (cryptography : Cryptography Key) (custody : Custody)
    (getPermissions : String → Credentials → Except PyError ProviderPermissions) (key : Key)
    (providerId : Uuid) (old : Credentials) (process : TreasuryProcess Key) : Prop :=
  ∃ row, process.db.custodialProviders.get? providerId = some row ∧
    ∃ credentials, readReferences cryptography key process row.references = .ok credentials ∧
      (credentials = old ∨
        validateCredentials custody getPermissions row.adapterId credentials = .ok ())

/-- The references a rotation makes up are in use nowhere, as `uuid4` draws them. -/
def UnusedReferences (database : SecretDatabase) (providerId : Uuid)
    (suffixes : ReferenceSuffixes) : Prop :=
  loadEncrypted database (newReference providerId "api_key" suffixes.apiKey) = none ∧
    loadEncrypted database (newReference providerId "api_secret" suffixes.apiSecret) = none ∧
      loadEncrypted database (newReference providerId "api_passphrase" suffixes.apiPassphrase) =
        none

/-- The references `patch_provider` deletes. -/
def CredentialReferences.purged (references : CredentialReferences) : List String :=
  [references.apiCredential, references.apiSecret] ++
    references.apiPassphrase.toList.filter fun reference => decide (reference ≠ "")

/-- How many commits a patch takes: one for each old secret, one for each new one, and one for the
    row; none where no credential is given. -/
def rotationCommits (row : CustodialProviderRow) (patch : CredentialPatch) : Nat :=
  if patch.apiKey = none ∧ patch.apiSecret = none then 0
  else row.references.purged.length + (2 + patch.apiPassphrase.toList.length) + 1

/-! ### Text -/

/-- A text that is encoded is decoded again. -/
theorem decodeText_encodeText (text : String) : decodeText (encodeText text) = .ok text := by
  have valid : text.toUTF8.IsValidUTF8 := text.isValidUTF8
  have decoded : String.fromUTF8? ⟨(encodeText text).toArray⟩ = some text := by
    rw [encodeText, Array.toArray_toList, String.fromUTF8?, dif_pos valid]
    rfl
  rw [decodeText, decoded]

section References

variable {providerId : Uuid} {part other : String} {suffix suffix' : ReferenceSuffix}

/-- The characters of a new reference. -/
theorem newReference_toList :
    (newReference providerId part suffix).toList =
      "provider:".toList ++ (toString providerId).toList ++ ":".toList ++ part.toList ++
        ":".toList ++ suffix.text.toList := by
  simp [newReference, String.toList_append]

/-- No new reference is the canary's. -/
theorem newReference_ne_canary : newReference providerId part suffix ≠ canaryReference := by
  intro same
  have lists := congrArg String.toList same
  rw [newReference_toList] at lists
  simp [canaryReference] at lists

theorem newReference_ne_empty : newReference providerId part suffix ≠ "" := by
  intro same
  have lists := congrArg String.toList same
  rw [newReference_toList] at lists
  simp at lists

/-- References of different parts differ, whatever the random parts are. -/
theorem newReference_parts_ne
    (apart : ∀ tail tail', part.toList ++ ':' :: tail ≠ other.toList ++ ':' :: tail') :
    newReference providerId part suffix ≠ newReference providerId other suffix' := by
  intro same
  have lists := congrArg String.toList same
  rw [newReference_toList, newReference_toList] at lists
  simp only [List.append_assoc, List.append_cancel_left_eq] at lists
  exact apart _ _ lists

/-- No reference looks like a credential value. -/
theorem brace_not_mem_newReference (plain : '\x7b' ∉ part.toList) :
    '\x7b' ∉ (newReference providerId part suffix).toList := by
  rw [newReference_toList]
  have digits : '\x7b' ∉ Nat.toDigits 10 providerId := by
    intro member
    have digit := Nat.isDigit_of_mem_toDigits (by decide) (by decide) member
    revert digit
    decide
  have hexadecimal : '\x7b' ∉ suffix.text.toList := by
    intro member
    have among := suffix.hexadecimal _ member
    revert among
    decide
  simp [digits, hexadecimal, plain]

end References

/-! ### Commits -/

/-- The process after a secret is deleted, and after one is stored. -/
def TreasuryProcess.dropping (process : TreasuryProcess Key) (reference : String) :
    TreasuryProcess Key :=
  { process with
    store := process.store.withDatabase (process.store.database.dropSecret reference) }

def TreasuryProcess.putting (process : TreasuryProcess Key) (reference : String)
    (secret : EncryptedSecret) : TreasuryProcess Key :=
  { process with
    store := process.store.withDatabase (process.store.database.putSecret reference secret) }

section Steps

variable {cryptography : Cryptography Key} {custody : Custody}
  {getPermissions : String → Credentials → Except PyError ProviderPermissions}
  {process : TreasuryProcess Key} {key : Key} {reference : String}

/-- A secret is deleted on the store of the process. -/
theorem onStore_deleteSecret (held : process.store.key = some key)
    (own : reference ≠ canaryReference) :
    onStore (deleteSecret reference) process = ([process.dropping reference], .ok ⟨⟩) := by
  change (_, _) = _
  rw [result, deleteSecret_apply held own]
  rfl

/-- A secret is put, sealed, on the store of the process. -/
theorem onStore_setSecret (ideal : cryptography.Ideal) (held : process.store.key = some key)
    (own : reference ≠ canaryReference) (nonce : Nonce) (value : Bytes) :
    ∃ secret, Seals cryptography key value secret ∧
      onStore (setSecret cryptography nonce reference value) process =
        ([process.putting reference secret], .ok ⟨⟩) := by
  obtain ⟨secret, sealed, went⟩ := setSecret_apply ideal held own nonce value
  refine ⟨secret, sealed, ?_⟩
  change (_, _) = _
  rw [result, went]
  rfl

/-- Reading a secret commits nothing. -/
theorem onStore_getSecret (process : TreasuryProcess Key) (reference : String) :
    ∃ outcome, onStore (getSecret cryptography reference) process = ([], outcome) := by
  have silent : (getSecret cryptography reference process.store).1 = [] := by
    by_cases reserved : reference = canaryReference
    · rw [reserved, getSecret, bind_apply_of_refuses (refuseReserved_canary _)]
    · cases held : process.store.key with
      | none => rw [getSecret, refuses_of_locked _ held]
      | some key => rw [getSecret_apply held reserved]
  refine ⟨result (getSecret cryptography reference) process.store, ?_⟩
  change (_, _) = _
  rw [silent]
  rfl

/-- Reading a credential that is given or stored writes nothing. -/
theorem givenOrStored_apply (process : TreasuryProcess Key) (given : Option String)
    (reference : String) :
    ∃ outcome, givenOrStored cryptography given reference process = ([], outcome) := by
  obtain ⟨outcome, went⟩ : ∃ outcome,
      onStore (getSecret cryptography reference) process = ([], outcome) :=
    onStore_getSecret process reference
  have stored : ∃ outcome, (do
      let stored ← onStore (getSecret cryptography reference)
      Stepwise.lift (decodeText stored) : ProcessCall Key String) process = ([], outcome) := by
    cases outcome with
    | error error => exact ⟨_, bind_apply_of_refuses went⟩
    | ok value => exact ⟨_, bind_apply_of_reads went⟩
  cases given with
  | none => exact stored
  | some value =>
      rw [givenOrStored]
      split
      · exact stored
      · exact ⟨_, rfl⟩

/-- One after another the old secrets are gone. -/
theorem purgeSecrets_apply {references : CredentialReferences}
    (held : process.store.key = some key)
    (own : ∀ reference ∈ references.purged, reference ≠ canaryReference) :
    purgeSecrets references process =
      (followed (references.purged.map fun reference process => process.dropping reference)
        process, .ok ⟨⟩) := by
  obtain ⟨apiCredential, apiSecret, apiPassphrase⟩ := references
  have first := onStore_deleteSecret held (own apiCredential (by simp [CredentialReferences.purged]))
  have heldThen : (process.dropping apiCredential).store.key = some key := held
  have second :=
    onStore_deleteSecret heldThen (own apiSecret (by simp [CredentialReferences.purged]))
  rw [purgeSecrets, bind_apply_of_returns first]
  change ([_] ++ ((onStore (deleteSecret apiSecret) >>= _) (process.dropping apiCredential)).1,
    ((onStore (deleteSecret apiSecret) >>= _) (process.dropping apiCredential)).2) = _
  rw [bind_apply_of_returns second]
  cases apiPassphrase with
  | none => rfl
  | some reference =>
      by_cases empty : reference = ""
      · simp [empty, CredentialReferences.purged, followed]
      · have heldLast : ((process.dropping apiCredential).dropping apiSecret).store.key =
            some key := held
        have third := onStore_deleteSecret heldLast
          (own reference (by simp [CredentialReferences.purged, empty]))
        simp [empty, CredentialReferences.purged, followed, third]

/-- The writes of the new secrets. -/
def CredentialReferences.puts (references : CredentialReferences)
    (apiKey apiSecret apiPassphrase : EncryptedSecret) :
    List (TreasuryProcess Key → TreasuryProcess Key) :=
  [fun process => process.putting references.apiCredential apiKey,
    fun process => process.putting references.apiSecret apiSecret] ++
      references.apiPassphrase.toList.map fun reference process =>
        process.putting reference apiPassphrase

/-- The secrets of some credentials, each encrypted under the key. -/
structure SealedCredentials (cryptography : Cryptography Key) (key : Key)
    (credentials : Credentials) where
  apiKey : EncryptedSecret
  apiSecret : EncryptedSecret
  apiPassphrase : EncryptedSecret
  apiKeySealed : Seals cryptography key (encodeText credentials.apiKey) apiKey
  apiSecretSealed : Seals cryptography key (encodeText credentials.apiSecret) apiSecret
  apiPassphraseSealed : ∀ text ∈ credentials.apiPassphrase,
    Seals cryptography key (encodeText text) apiPassphrase

/-- One after another the new secrets are there. -/
theorem storeSecrets_apply (ideal : cryptography.Ideal) (held : process.store.key = some key)
    (nonces : RotationNonces) (providerId : Uuid) (suffixes : ReferenceSuffixes)
    (credentials : Credentials) :
    ∃ sealed : SealedCredentials cryptography key credentials,
      storeSecrets cryptography nonces
          (newReferences providerId suffixes credentials.apiPassphrase) credentials process =
        (followed ((newReferences providerId suffixes credentials.apiPassphrase).puts sealed.apiKey
          sealed.apiSecret sealed.apiPassphrase) process, .ok ⟨⟩) := by
  obtain ⟨apiKey, apiSecret, apiPassphrase⟩ := credentials
  have own : ∀ part suffix, newReference providerId part suffix ≠ canaryReference :=
    fun _ _ => newReference_ne_canary
  obtain ⟨first, firstSealed, firstWent⟩ :=
    onStore_setSecret ideal held (own "api_key" suffixes.apiKey) nonces.apiKey (encodeText apiKey)
  have heldThen : (process.putting (newReference providerId "api_key" suffixes.apiKey)
      first).store.key = some key := held
  obtain ⟨second, secondSealed, secondWent⟩ := onStore_setSecret ideal heldThen
    (own "api_secret" suffixes.apiSecret) nonces.apiSecret (encodeText apiSecret)
  have heldLast : ((process.putting (newReference providerId "api_key" suffixes.apiKey)
      first).putting (newReference providerId "api_secret" suffixes.apiSecret)
        second).store.key = some key := held
  cases apiPassphrase with
  | none =>
      refine ⟨⟨first, second, first, firstSealed, secondSealed, by simp⟩, ?_⟩
      simp only [storeSecrets, newReferences]
      rw [bind_apply_of_returns firstWent]
      change ([_] ++ ((onStore _ >>= _) (process.putting _ first)).1,
        ((onStore _ >>= _) (process.putting _ first)).2) = _
      rw [bind_apply_of_returns secondWent]
      rfl
  | some text =>
      obtain ⟨third, thirdSealed, thirdWent⟩ := onStore_setSecret ideal heldLast
        (own "api_passphrase" suffixes.apiPassphrase) nonces.apiPassphrase (encodeText text)
      refine ⟨⟨first, second, third, firstSealed, secondSealed, by simpa using thirdSealed⟩, ?_⟩
      simp only [storeSecrets, newReferences, Option.map_some]
      rw [bind_apply_of_returns firstWent]
      change ([_] ++ ((onStore _ >>= _) (process.putting _ first)).1,
        ((onStore _ >>= _) (process.putting _ first)).2) = _
      rw [bind_apply_of_returns secondWent]
      change ([_] ++ ([_] ++ (onStore _ ((process.putting _ first).putting _ second)).1),
        (onStore _ ((process.putting _ first).putting _ second)).2) = _
      rw [thirdWent]
      rfl

/-- A provider row loads exactly when its checks pass. -/
theorem CustodialProviderRow.postInit_ok_iff {row loaded : CustodialProviderRow} :
    row.postInit = .ok loaded ↔
      row.adapterId ≠ "" ∧
        ¬(row.apiCredentialReference = "" ∨ row.apiSecretReference = "") ∧
        ¬('\x7b' ∈ row.apiCredentialReference.toList ∨ '\x7b' ∈ row.apiSecretReference.toList) ∧
        ¬(row.lastKnownBalanceSats.any fun balance => decide (balance < 0)) = true ∧
        row = loaded := by
  rw [CustodialProviderRow.postInit]
  split
  next unnamed => simp [unnamed]
  split
  next named missing => simp [missing]
  split
  next named present brace => simp [brace]
  split
  next named present plain negative => simp [negative]
  next named present plain balance => simp [named, present, plain, balance]

/-- A row that passes its checks passes them with the new references. -/
theorem postInit_withReferences {row : CustodialProviderRow} (loads : row.postInit = .ok row)
    (providerId : Uuid) (suffixes : ReferenceSuffixes) (apiPassphrase : Option String) :
    (row.withReferences (newReferences providerId suffixes apiPassphrase)).postInit =
      .ok (row.withReferences (newReferences providerId suffixes apiPassphrase)) := by
  obtain ⟨named, _, _, balance, _⟩ :=
    CustodialProviderRow.postInit_ok_iff.mp loads
  refine CustodialProviderRow.postInit_ok_iff.mpr ⟨named, ?_, ?_, balance, rfl⟩
  · rintro (empty | empty)
    · exact newReference_ne_empty empty
    · exact newReference_ne_empty empty
  · rintro (brace | brace)
    · exact brace_not_mem_newReference (by decide) brace
    · exact brace_not_mem_newReference (by decide) brace

end Steps

/-! ### The whole patch -/

section Route

variable {cryptography : Cryptography Key} {custody : Custody}
  {getPermissions : String → Credentials → Except PyError ProviderPermissions}
  {start : TreasuryProcess Key} {key : Key} {providerId : Uuid} {row : CustodialProviderRow}

/-- The row of the provider is rewritten. -/
def TreasuryProcess.referring (providerId : Uuid) (references : CredentialReferences)
    (process : TreasuryProcess Key) : TreasuryProcess Key :=
  { process with
    db := { process.db with
      custodialProviders := process.db.custodialProviders.update providerId
        (fun row => row.withReferences references)
        (CustodialProviderRow.withReferences_id references) } }

/-- The commits of the secret store: the old secrets go, the new ones come. -/
def secretWrites {credentials : Credentials} (old new : CredentialReferences)
    (sealed : SealedCredentials cryptography key credentials) :
    List (TreasuryProcess Key → TreasuryProcess Key) :=
  (old.purged.map fun reference process => process.dropping reference) ++
    new.puts sealed.apiKey sealed.apiSecret sealed.apiPassphrase

/-- The commits of a rotation: those of the secret store, and the row. -/
def rotationWrites {credentials : Credentials} (providerId : Uuid) (old new : CredentialReferences)
    (sealed : SealedCredentials cryptography key credentials) :
    List (TreasuryProcess Key → TreasuryProcess Key) :=
  secretWrites old new sealed ++ [TreasuryProcess.referring providerId new]

/-- Purging and storing leave the tables and the key alone. -/
theorem led_dropping (references : List String) (process : TreasuryProcess Key) :
    (led (references.map fun reference process => process.dropping reference) process).db =
        process.db ∧
      (led (references.map fun reference process => process.dropping reference) process).store.key =
        process.store.key := by
  apply led_keeps (I := fun after : TreasuryProcess Key =>
    after.db = process.db ∧ after.store.key = process.store.key) _ ⟨rfl, rfl⟩
  intro f member after same
  obtain ⟨reference, _, rfl⟩ := List.mem_map.mp member
  exact same

/-- Putting the credentials leaves the tables of the treasury. -/
theorem led_puts (references : CredentialReferences)
    (apiKey apiSecret apiPassphrase : EncryptedSecret) (process : TreasuryProcess Key) :
    (led (references.puts apiKey apiSecret apiPassphrase) process).db = process.db := by
  apply led_keeps (I := fun after : TreasuryProcess Key => after.db = process.db) _ rfl
  intro f member after same
  simp only [CredentialReferences.puts, List.cons_append, List.nil_append, List.mem_cons,
    List.mem_map] at member
  rcases member with rfl | rfl | ⟨reference, _, rfl⟩
  · exact same
  · exact same
  · exact same

/-- The new references are written to the row of the provider. -/
theorem updateCredentials_apply {db : TreasuryDatabase}
    (found : db.custodialProviders.get? providerId = some row) (loads : row.postInit = .ok row)
    (suffixes : ReferenceSuffixes) (apiPassphrase : Option String) :
    CustodialProviderRepo.updateCredentials db providerId
        (newReferences providerId suffixes apiPassphrase) =
      .ok ({ db with
        custodialProviders := db.custodialProviders.update providerId
          (fun row => row.withReferences (newReferences providerId suffixes apiPassphrase))
          fun _ => rfl },
        some (row.withReferences (newReferences providerId suffixes apiPassphrase))) := by
  rw [CustodialProviderRepo.updateCredentials, found]
  simp only [postInit_withReferences loads]
  rfl

/-- How a patch goes: it is refused before anything is committed, or it concerns no credential, or
    it commits a whole rotation to credentials that passed the validation. -/
inductive RouteOutcome (cryptography : Cryptography Key) (custody : Custody)
    (getPermissions : String → Credentials → Except PyError ProviderPermissions) (key : Key)
    (start : TreasuryProcess Key) (row : CustodialProviderRow) (providerId : Uuid)
    (patch : CredentialPatch) (suffixes : ReferenceSuffixes) :
    List (TreasuryProcess Key) × Except PyError CustodialProviderRow → Prop where
  | refused (error : PyError) :
      RouteOutcome cryptography custody getPermissions key start row providerId patch suffixes
        ([], .error error)
  | unchanged (none : patch.apiKey = none ∧ patch.apiSecret = none) :
      RouteOutcome cryptography custody getPermissions key start row providerId patch suffixes
        ([start], .ok row)
  | rotated {newKey newSecret : String}
      (given : ¬(patch.apiKey = none ∧ patch.apiSecret = none))
      (validated : validateCredentials custody getPermissions row.adapterId
        ⟨newKey, newSecret, patch.apiPassphrase⟩ = .ok ())
      (sealed : SealedCredentials cryptography key ⟨newKey, newSecret, patch.apiPassphrase⟩) :
      RouteOutcome cryptography custody getPermissions key start row providerId patch suffixes
        (followed (rotationWrites providerId row.references
          (newReferences providerId suffixes patch.apiPassphrase) sealed) start,
        .ok (row.withReferences (newReferences providerId suffixes patch.apiPassphrase)))

/-- A call that returns passes as it is. -/
theorem passKeyError_of_returns {call : ProcessCall Key PUnit} {process : TreasuryProcess Key}
    {states : List (TreasuryProcess Key)} (went : call process = (states, .ok ⟨⟩)) :
    passKeyError call process = (states, .ok ⟨⟩) := by
  have tried : call.attempt process = (states, .ok (.ok ⟨⟩)) := by
    rw [Stepwise.attempt, went]
  rw [passKeyError, bind_apply_of_returns tried]
  simp

/-- A refusal that is no key error passes as it is. -/
theorem passKeyError_of_refuses {call : ProcessCall Key PUnit} {process : TreasuryProcess Key}
    {error : PyError} (went : call process = ([], .error error)) (passed : error.cls ≠ .keyError) :
    passKeyError call process = ([], .error error) := by
  have tried : call.attempt process = ([], .ok (.error error)) := by
    rw [Stepwise.attempt, went]
  rw [passKeyError, bind_apply_of_reads tried]
  simp [passed]

/-- A locked store refuses the first deletion. -/
theorem purgeSecrets_locked {references : CredentialReferences} {process : TreasuryProcess Key}
    (locked : process.store.key = none) :
    purgeSecrets references process = ([], .error (lockedRefusal references.apiCredential)) := by
  have refused : onStore (deleteSecret references.apiCredential) process =
      ([], .error (lockedRefusal references.apiCredential)) := by
    change (_, _) = _
    rw [result, deleteSecret, refuses_of_locked _ locked]
    rfl
  rw [purgeSecrets, bind_apply_of_refuses refused]

/-- A locked store refuses with no key error. -/
theorem lockedRefusal_ne_keyError (reference : String) :
    (lockedRefusal reference).cls ≠ .keyError := by
  rw [lockedRefusal]
  split <;> decide

/-- The rotation proper, once the new credentials are read. -/
theorem rotate_apply (ideal : cryptography.Ideal) (credentials : Credentials)
    (held : start.store.key = some key)
    (own : ∀ reference ∈ row.references.purged, reference ≠ canaryReference)
    (providerId : Uuid) (suffixes : ReferenceSuffixes) (nonces : RotationNonces) :
    ∃ sealed : SealedCredentials cryptography key credentials, ∀ {α : Type}
      (next : ProcessCall Key α),
      (do
        passKeyError (purgeSecrets row.references)
        storeSecrets cryptography nonces
          (newReferences providerId suffixes credentials.apiPassphrase) credentials
        next : ProcessCall Key α) start =
      (followed (secretWrites row.references
          (newReferences providerId suffixes credentials.apiPassphrase) sealed) start ++
        (next (led (secretWrites row.references
          (newReferences providerId suffixes credentials.apiPassphrase) sealed) start)).1,
      (next (led (secretWrites row.references
        (newReferences providerId suffixes credentials.apiPassphrase) sealed) start)).2) := by
  have purged := passKeyError_of_returns (purgeSecrets_apply held own)
  have heldThen : (led (row.references.purged.map fun reference process =>
      process.dropping reference) start).store.key = some key :=
    (led_dropping row.references.purged start).2.trans held
  obtain ⟨sealed, stored⟩ :=
    storeSecrets_apply ideal heldThen nonces providerId suffixes credentials
  refine ⟨sealed, ?_⟩
  intro α next
  rw [bind_apply_of_returns purged, getLastD_followed, bind_apply_of_returns stored,
    getLastD_followed]
  simp only [secretWrites, followed_append, led_append, List.append_assoc]

section Outcome

variable {patch : CredentialPatch} {suffixes : ReferenceSuffixes} {nonces : RotationNonces}

/-- A route that is refused before it writes leaves everything as it was. -/
theorem routeOutcome_of_refused {error : PyError}
    (refused : patchProvider cryptography custody getPermissions providerId patch
      (truthy patch.apiKey || truthy patch.apiSecret) suffixes nonces start = ([], .error error)) :
    RouteOutcome cryptography custody getPermissions key start row providerId patch suffixes
      (patchProviderRoute cryptography custody getPermissions providerId patch suffixes nonces
        start) := by
  rw [patchProviderRoute, bind_apply_of_refuses refused]
  exact .refused error

/-- A patch that gives a credential reads what it does not give, and validates, before anything is
    committed; then it rotates. -/
theorem routeOutcome_of_given (ideal : cryptography.Ideal)
    (found : start.db.custodialProviders.get? providerId = some row)
    (loads : row.postInit = .ok row)
    (held : start.store.key = none ∨ start.store.key = some key)
    (own : ∀ reference ∈ row.references.purged, reference ≠ canaryReference)
    (given : ¬(patch.apiKey = none ∧ patch.apiSecret = none)) :
    RouteOutcome cryptography custody getPermissions key start row providerId patch suffixes
      (patchProviderRoute cryptography custody getPermissions providerId patch suffixes nonces
        start) := by
  have got : CustodialProviderRepo.get start.db providerId = .ok (some row) := by
    simp only [CustodialProviderRepo.get, found, loads]
    rfl
  by_cases stored : (truthy patch.apiKey || truthy patch.apiSecret) = false
  · apply routeOutcome_of_refused
    rw [patchProvider, read_bind_apply, got, lift_ok_bind_apply]
    simp only [if_neg given, if_pos stored]
    exact raise_apply _ _
  obtain ⟨keyOutcome, keyRead⟩ : ∃ outcome, givenOrStored cryptography patch.apiKey
      row.apiCredentialReference start = ([], outcome) := givenOrStored_apply _ _ _
  obtain ⟨secretOutcome, secretRead⟩ : ∃ outcome, givenOrStored cryptography patch.apiSecret
      row.apiSecretReference start = ([], outcome) := givenOrStored_apply _ _ _
  cases keyOutcome with
  | error error =>
      apply routeOutcome_of_refused
      rw [patchProvider, read_bind_apply, got, lift_ok_bind_apply]
      simp only [if_neg given, if_neg stored]
      exact bind_apply_of_refuses keyRead
  | ok newKey =>
  cases secretOutcome with
  | error error =>
      apply routeOutcome_of_refused
      rw [patchProvider, read_bind_apply, got, lift_ok_bind_apply]
      simp only [if_neg given, if_neg stored]
      rw [bind_apply_of_reads keyRead, bind_apply_of_refuses secretRead]
  | ok newSecret =>
  cases validated : validateCredentials custody getPermissions row.adapterId
      ⟨newKey, newSecret, patch.apiPassphrase⟩ with
  | error error =>
      apply routeOutcome_of_refused
      rw [patchProvider, read_bind_apply, got, lift_ok_bind_apply]
      simp only [if_neg given, if_neg stored]
      rw [bind_apply_of_reads keyRead, bind_apply_of_reads secretRead, validated,
        lift_error_bind_apply]
  | ok _ =>
  rcases held with locked | held
  · apply routeOutcome_of_refused
    have refused := passKeyError_of_refuses (purgeSecrets_locked locked)
      (lockedRefusal_ne_keyError row.references.apiCredential)
    rw [patchProvider, read_bind_apply, got, lift_ok_bind_apply]
    simp only [if_neg given, if_neg stored]
    rw [bind_apply_of_reads keyRead, bind_apply_of_reads secretRead, validated,
      lift_ok_bind_apply, bind_apply_of_refuses refused]
  · have updated := updateCredentials_apply found loads suffixes patch.apiPassphrase
    obtain ⟨sealed, rotated⟩ := rotate_apply ideal
      ⟨newKey, newSecret, patch.apiPassphrase⟩ held own providerId suffixes nonces
    have went : patchProvider cryptography custody getPermissions providerId patch
        (truthy patch.apiKey || truthy patch.apiSecret) suffixes nonces start =
          (followed (secretWrites row.references
            (newReferences providerId suffixes patch.apiPassphrase) sealed) start,
          .ok ((start.referring providerId
              (newReferences providerId suffixes patch.apiPassphrase)).db,
            row.withReferences (newReferences providerId suffixes patch.apiPassphrase))) := by
      rw [patchProvider, read_bind_apply, got, lift_ok_bind_apply]
      simp only [if_neg given, if_neg stored]
      rw [bind_apply_of_reads keyRead, bind_apply_of_reads secretRead, validated,
        lift_ok_bind_apply, rotated, updated, lift_ok_bind_apply]
      exact congrArg (Prod.mk · _) (List.append_nil _)
    have kept : (led (secretWrites row.references
        (newReferences providerId suffixes patch.apiPassphrase) sealed) start).db = start.db := by
      rw [secretWrites, led_append, led_puts, (led_dropping row.references.purged start).1]
    have route : patchProviderRoute cryptography custody getPermissions providerId patch suffixes
        nonces start =
          (followed (rotationWrites providerId row.references
            (newReferences providerId suffixes patch.apiPassphrase) sealed) start,
          .ok (row.withReferences (newReferences providerId suffixes patch.apiPassphrase))) := by
      rw [patchProviderRoute, bind_apply_of_returns went, getLastD_followed, rotationWrites,
        followed_append]
      simp only [followed, TreasuryProcess.referring, kept]
      rfl
    rw [route]
    exact .rotated given validated sealed

/-- What a rotation does, outcome by outcome. -/
theorem routeOutcome (ideal : cryptography.Ideal)
    (found : start.db.custodialProviders.get? providerId = some row)
    (held : start.store.key = none ∨ start.store.key = some key)
    (own : ∀ reference ∈ row.references.purged, reference ≠ canaryReference) :
    RouteOutcome cryptography custody getPermissions key start row providerId patch suffixes
      (patchProviderRoute cryptography custody getPermissions providerId patch suffixes nonces
        start) := by
  cases checked : row.postInit with
  | error error =>
      have got : CustodialProviderRepo.get start.db providerId = .error error := by
        simp only [CustodialProviderRepo.get, found, checked]
        rfl
      apply routeOutcome_of_refused
      rw [patchProvider, read_bind_apply, got, lift_error_bind_apply]
  | ok loaded =>
      obtain ⟨_, _, _, _, rfl⟩ := CustodialProviderRow.postInit_ok_iff.mp checked
      by_cases none : patch.apiKey = none ∧ patch.apiSecret = none
      · have got : CustodialProviderRepo.get start.db providerId = .ok (some row) := by
          simp only [CustodialProviderRepo.get, found, checked]
          rfl
        have went : patchProvider cryptography custody getPermissions providerId patch
            (truthy patch.apiKey || truthy patch.apiSecret) suffixes nonces start =
              ([], .ok (start.db, row)) := by
          rw [patchProvider, read_bind_apply, got, lift_ok_bind_apply]
          simp only [if_pos none]
          rfl
        rw [patchProviderRoute, bind_apply_of_reads went]
        exact .unchanged none
      · exact routeOutcome_of_given ideal found checked held own none

end Outcome

end Route

/-! ### Where a patch can be cut off -/

section Stops

variable {cryptography : Cryptography Key} {custody : Custody}
  {getPermissions : String → Credentials → Except PyError ProviderPermissions}
  {process start : TreasuryProcess Key} {key : Key} {reference text : String}
  {secret : EncryptedSecret} {references : CredentialReferences} {credentials : Credentials}

/-- A text is read through its secret. -/
theorem readText_apply (own : reference ≠ canaryReference) :
    readText cryptography key process reference =
      (match loadEncrypted process.store.database reference with
        | none => .error ⟨.keyError, reference⟩
        | some encrypted => decrypt cryptography encrypted key) >>= decodeText := by
  have held : (process.store.withKey (some key)).key = some key := rfl
  rw [readText, result, getSecret_apply held own]
  rfl

/-- A sealed text is read back. -/
theorem readText_of_seals (ideal : cryptography.Ideal) (own : reference ≠ canaryReference)
    (found : loadEncrypted process.store.database reference = some secret)
    (sealed : Seals cryptography key (encodeText text) secret) :
    readText cryptography key process reference = .ok text := by
  rw [readText_apply own, found]
  simp only [sealed.decrypt ideal]
  exact decodeText_encodeText text

/-- Without its secret a text is not read. -/
theorem readText_of_missing (missing : loadEncrypted process.store.database reference = none) :
    ∃ error, readText cryptography key process reference = .error error := by
  by_cases reserved : reference = canaryReference
  · rw [reserved, readText, result, getSecret, bind_apply_of_refuses (refuseReserved_canary _)]
    exact ⟨_, rfl⟩
  · rw [readText_apply reserved, missing]
    exact ⟨_, rfl⟩

/-- A text that is read has a secret, under a free reference. -/
theorem stored_of_readText (read : readText cryptography key process reference = .ok text) :
    reference ≠ canaryReference ∧ loadEncrypted process.store.database reference ≠ none := by
  constructor
  · intro reserved
    rw [reserved, readText, result, getSecret, bind_apply_of_refuses (refuseReserved_canary _)]
      at read
    cases read
  · intro missing
    obtain ⟨error, raised⟩ : ∃ error,
        readText cryptography key process reference = .error error := readText_of_missing missing
    rw [raised] at read
    cases read

/-- References that are read are read one by one. -/
theorem readReferences_ok (read : readReferences cryptography key process references =
    .ok credentials) :
    readText cryptography key process references.apiCredential = .ok credentials.apiKey ∧
      readText cryptography key process references.apiSecret = .ok credentials.apiSecret ∧
      ∀ reference ∈ references.apiPassphrase, ∃ text,
        readText cryptography key process reference = .ok text := by
  rw [readReferences, bind_ok_iff] at read
  obtain ⟨apiKey, first, read⟩ := read
  rw [bind_ok_iff] at read
  obtain ⟨apiSecret, second, read⟩ := read
  cases passphrase : references.apiPassphrase with
  | none =>
      rw [passphrase] at read
      cases read
      exact ⟨first, second, by simp⟩
  | some reference =>
      simp only [passphrase] at read
      rw [bind_ok_iff] at read
      obtain ⟨text, third, read⟩ := read
      cases read
      exact ⟨first, second, by simpa using ⟨text, third⟩⟩

/-- What is read of a provider before a rotation is under references of its own. -/
theorem own_of_readReferences (read : readReferences cryptography key process references =
    .ok credentials) : ∀ reference ∈ references.purged, reference ≠ canaryReference := by
  obtain ⟨first, second, third⟩ := readReferences_ok read
  intro reference member
  simp only [CredentialReferences.purged, List.cons_append, List.nil_append, List.mem_cons,
    List.mem_filter, Option.mem_toList] at member
  rcases member with rfl | rfl | ⟨present, _⟩
  · exact (stored_of_readText first).1
  · exact (stored_of_readText second).1
  · obtain ⟨text, read⟩ := third reference present
    exact (stored_of_readText read).1

/-- No new secret is stored under the reference of the old key. -/
def KeyApart (old new : CredentialReferences) : Prop :=
  old.apiCredential ≠ new.apiCredential ∧ old.apiCredential ≠ new.apiSecret ∧
    ∀ reference ∈ new.apiPassphrase, old.apiCredential ≠ reference

/-- Once the key is purged, neither a further deletion nor a new secret under another reference
    brings it back. -/
theorem led_secretWrites_prefix {old new : CredentialReferences}
    (sealed : SealedCredentials cryptography key credentials) (apart : KeyApart old new)
    (start : TreasuryProcess Key) (n : Nat) :
    (led ((secretWrites old new sealed).take (n + 1)) start).db = start.db ∧
      loadEncrypted (led ((secretWrites old new sealed).take (n + 1)) start).store.database
        old.apiCredential = none := by
  change (led (_ :: List.take n _) start).db = _ ∧ loadEncrypted
    (led (_ :: List.take n _) start).store.database _ = none
  rw [led_cons]
  apply led_keeps (I := fun stop : TreasuryProcess Key => stop.db = start.db ∧
    loadEncrypted stop.store.database old.apiCredential = none)
  · intro f member stop ⟨same, missing⟩
    have among := List.mem_of_mem_take member
    have dropped : ∀ reference, (stop.dropping reference).db = start.db ∧
        loadEncrypted (stop.dropping reference).store.database old.apiCredential = none := by
      intro reference
      refine ⟨same, loadEncrypted_dropSecret.trans ?_⟩
      rw [missing, ite_self]
    have put : ∀ reference secret, old.apiCredential ≠ reference →
        (stop.putting reference secret).db = start.db ∧
        loadEncrypted (stop.putting reference secret).store.database old.apiCredential = none := by
      intro reference secret other
      exact ⟨same, loadEncrypted_putSecret.trans ((if_neg other).trans missing)⟩
    simp only [CredentialReferences.puts, List.append_eq, List.mem_append, List.mem_map,
      List.mem_cons, List.not_mem_nil, or_false, Option.mem_toList] at among
    rcases among with ⟨reference, _, rfl⟩ | (rfl | rfl) | ⟨reference, present, rfl⟩
    · exact dropped reference
    · exact put _ _ apart.1
    · exact put _ _ apart.2.1
    · exact put _ _ (apart.2.2 reference present)
  · exact ⟨rfl, loadEncrypted_dropSecret.trans (if_pos rfl)⟩

/-- The secret store has no part in a rewrite of the row. -/
theorem readReferences_referring (providerId : Uuid) (new : CredentialReferences) :
    readReferences cryptography key (process.referring providerId new) references =
      readReferences cryptography key process references := rfl

/-- The row of the provider after it refers to new secrets. -/
theorem get?_referring {providerId : Uuid} {row : CustodialProviderRow}
    (found : process.db.custodialProviders.get? providerId = some row)
    (new : CredentialReferences) :
    (process.referring providerId new).db.custodialProviders.get? providerId =
      some (row.withReferences new) := by
  have updated := Table.get?_update process.db.custodialProviders providerId providerId
    (fun row => row.withReferences new) fun _ => rfl
  rw [if_pos rfl, found] at updated
  exact updated

/-- New secrets under references that differ are found again. -/
theorem readReferences_puts (ideal : cryptography.Ideal) (providerId : Uuid)
    (suffixes : ReferenceSuffixes) (sealed : SealedCredentials cryptography key credentials)
    (process : TreasuryProcess Key) :
    readReferences cryptography key
      (led ((newReferences providerId suffixes credentials.apiPassphrase).puts sealed.apiKey
        sealed.apiSecret sealed.apiPassphrase) process)
      (newReferences providerId suffixes credentials.apiPassphrase) = .ok credentials := by
  obtain ⟨apiKey, apiSecret, apiPassphrase⟩ := credentials
  have keySecret : newReference providerId "api_key" suffixes.apiKey ≠
      newReference providerId "api_secret" suffixes.apiSecret :=
    newReference_parts_ne (by simp)
  have keyPassphrase : newReference providerId "api_key" suffixes.apiKey ≠
      newReference providerId "api_passphrase" suffixes.apiPassphrase :=
    newReference_parts_ne (by simp)
  have secretPassphrase : newReference providerId "api_secret" suffixes.apiSecret ≠
      newReference providerId "api_passphrase" suffixes.apiPassphrase :=
    newReference_parts_ne (by simp)
  cases apiPassphrase with
  | none =>
      have first : readText cryptography key (led ((newReferences providerId suffixes none).puts
          sealed.apiKey sealed.apiSecret sealed.apiPassphrase) process)
          (newReference providerId "api_key" suffixes.apiKey) = .ok apiKey := by
        refine readText_of_seals ideal newReference_ne_canary ?_ sealed.apiKeySealed
        exact loadEncrypted_putSecret.trans ((if_neg keySecret).trans
          (loadEncrypted_putSecret.trans (if_pos rfl)))
      have second : readText cryptography key (led ((newReferences providerId suffixes none).puts
          sealed.apiKey sealed.apiSecret sealed.apiPassphrase) process)
          (newReference providerId "api_secret" suffixes.apiSecret) = .ok apiSecret := by
        refine readText_of_seals ideal newReference_ne_canary ?_ sealed.apiSecretSealed
        exact loadEncrypted_putSecret.trans (if_pos rfl)
      simp only [readReferences, newReferences, Option.map_none] at first second ⊢
      rw [first, second]
      rfl
  | some text =>
      have first : readText cryptography key (led ((newReferences providerId suffixes
          (some text)).puts sealed.apiKey sealed.apiSecret sealed.apiPassphrase) process)
          (newReference providerId "api_key" suffixes.apiKey) = .ok apiKey := by
        refine readText_of_seals ideal newReference_ne_canary ?_ sealed.apiKeySealed
        exact loadEncrypted_putSecret.trans ((if_neg keyPassphrase).trans
          (loadEncrypted_putSecret.trans ((if_neg keySecret).trans
            (loadEncrypted_putSecret.trans (if_pos rfl)))))
      have second : readText cryptography key (led ((newReferences providerId suffixes
          (some text)).puts sealed.apiKey sealed.apiSecret sealed.apiPassphrase) process)
          (newReference providerId "api_secret" suffixes.apiSecret) = .ok apiSecret := by
        refine readText_of_seals ideal newReference_ne_canary ?_ sealed.apiSecretSealed
        exact loadEncrypted_putSecret.trans ((if_neg secretPassphrase).trans
          (loadEncrypted_putSecret.trans (if_pos rfl)))
      have third : readText cryptography key (led ((newReferences providerId suffixes
          (some text)).puts sealed.apiKey sealed.apiSecret sealed.apiPassphrase) process)
          (newReference providerId "api_passphrase" suffixes.apiPassphrase) = .ok text := by
        refine readText_of_seals ideal newReference_ne_canary ?_
          (sealed.apiPassphraseSealed text rfl)
        exact loadEncrypted_putSecret.trans (if_pos rfl)
      simp only [readReferences, newReferences, Option.map_some] at first second third ⊢
      rw [first, second]
      change readText _ _ _ _ >>= _ = _
      rw [third]
      rfl

variable {providerId : Uuid} {row : CustodialProviderRow} {old : Credentials}
  {suffixes : ReferenceSuffixes} {stop : TreasuryProcess Key} {point : Nat}

/-- While the committed row is the old one and its key is gone, the provider is stranded. -/
theorem not_provisioned_of_missing
    (found : stop.db.custodialProviders.get? providerId = some row)
    (missing : loadEncrypted stop.store.database row.apiCredentialReference = none) :
    ¬Provisioned cryptography custody getPermissions key providerId old stop := by
  rintro ⟨committed, foundNow, credentials, read, _⟩
  rw [found] at foundNow
  cases foundNow
  exact (stored_of_readText (readReferences_ok read).1).2 missing

/-- The references of a provider that had credentials are none of the new ones. -/
theorem keyApart_newReferences
    (read : readReferences cryptography key start row.references = .ok old)
    (unused : UnusedReferences start.store.database providerId suffixes)
    (apiPassphrase : Option String) :
    KeyApart row.references (newReferences providerId suffixes apiPassphrase) := by
  have stored := (stored_of_readText (readReferences_ok read).1).2
  refine ⟨fun same => stored (same ▸ unused.1), fun same => stored (same ▸ unused.2.1), ?_⟩
  intro reference member same
  obtain ⟨text, _, rfl⟩ := Option.mem_map.mp member
  exact stored (same ▸ unused.2.2)

/-- A rotation deletes the old secrets and puts two or three new ones. -/
theorem length_secretWrites {new : CredentialReferences}
    (sealed : SealedCredentials cryptography key credentials) :
    (secretWrites row.references new sealed).length =
      row.references.purged.length + (2 + new.apiPassphrase.toList.length) := by
  simp [secretWrites, CredentialReferences.puts]
  omega

/-- A rotation leaves the provider with credentials before its first commit and after its last. -/
theorem provisioned_iff_of_rotation (ideal : cryptography.Ideal) {patch : CredentialPatch}
    {newKey newSecret : String}
    (found : start.db.custodialProviders.get? providerId = some row)
    (read : readReferences cryptography key start row.references = .ok old)
    (unused : UnusedReferences start.store.database providerId suffixes)
    (validated : validateCredentials custody getPermissions row.adapterId
      ⟨newKey, newSecret, patch.apiPassphrase⟩ = .ok ())
    (sealed : SealedCredentials cryptography key ⟨newKey, newSecret, patch.apiPassphrase⟩)
    (bounded : point ≤ (rotationWrites providerId row.references
      (newReferences providerId suffixes patch.apiPassphrase) sealed).length) :
    Provisioned cryptography custody getPermissions key providerId old
        (led ((rotationWrites providerId row.references
          (newReferences providerId suffixes patch.apiPassphrase) sealed).take point) start) ↔
      point = 0 ∨
        row.references.purged.length + (2 + patch.apiPassphrase.toList.length) + 1 ≤ point := by
  have length : (secretWrites row.references
      (newReferences providerId suffixes patch.apiPassphrase) sealed).length =
        row.references.purged.length + (2 + patch.apiPassphrase.toList.length) := by
    rw [length_secretWrites]
    cases patch.apiPassphrase <;> rfl
  rw [rotationWrites, List.length_append, length, List.length_singleton] at bounded
  match point with
  | 0 => exact iff_of_true ⟨row, found, old, read, .inl rfl⟩ (.inl rfl)
  | n + 1 =>
      by_cases last : row.references.purged.length + (2 + patch.apiPassphrase.toList.length) ≤ n
      · refine iff_of_true ?_ (.inr (Nat.succ_le_succ last))
        rw [rotationWrites, List.take_of_length_le (by
          rw [List.length_append, length]
          exact Nat.succ_le_succ last), led_append, secretWrites, led_append, led_cons, led_nil]
        have renewed := readReferences_puts ideal providerId suffixes sealed
          (led (row.references.purged.map fun reference process => process.dropping reference)
            start)
        rw [← readReferences_referring providerId] at renewed
        refine ⟨row.withReferences (newReferences providerId suffixes patch.apiPassphrase), ?_,
          ⟨newKey, newSecret, patch.apiPassphrase⟩, renewed, .inr validated⟩
        apply get?_referring
        rw [led_puts, (led_dropping _ start).1]
        exact found
      · refine iff_of_false ?_ (by omega)
        rw [rotationWrites, List.take_append_of_le_length (by omega)]
        have apart := keyApart_newReferences read unused patch.apiPassphrase
        obtain ⟨same, missing⟩ := led_secretWrites_prefix sealed apart start n
        exact not_provisioned_of_missing (by rw [same]; exact found) missing

/-- Cut off anywhere, a patch leaves the provider with credentials exactly when none of its commits
    was made, or all of them; and a patch that is refused made none. -/
theorem provisioned_iff_of_stop (ideal : cryptography.Ideal)
    (found : start.db.custodialProviders.get? providerId = some row)
    (read : readReferences cryptography key start row.references = .ok old)
    (held : start.store.key = none ∨ start.store.key = some key)
    (unused : UnusedReferences start.store.database providerId suffixes)
    (patch : CredentialPatch) (nonces : RotationNonces) :
    let route := patchProviderRoute cryptography custody getPermissions providerId patch suffixes
      nonces
    (∀ point stop, (stops route start)[point]? = some stop →
      (Provisioned cryptography custody getPermissions key providerId old stop ↔
        point = 0 ∨ rotationCommits row patch ≤ point)) ∧
    ∀ error, result route start = .error error → ∀ stop ∈ stops route start,
      stop.db = start.db ∧ readReferences cryptography key stop row.references = .ok old := by
  intro route
  have outcome : RouteOutcome cryptography custody getPermissions key start row providerId patch
      suffixes (route start) := routeOutcome ideal found held (own_of_readReferences read)
  have before : Provisioned cryptography custody getPermissions key providerId old start :=
    ⟨row, found, old, read, .inl rfl⟩
  generalize went : route start = run at outcome
  constructor
  · intro point stop cut
    cases outcome with
    | refused error =>
        rw [stops, went] at cut
        rcases point with _ | point
        · cases cut
          exact iff_of_true before (.inl rfl)
        · cases cut
    | unchanged none =>
        rw [stops, went] at cut
        rw [rotationCommits, if_pos none]
        refine iff_of_true ?_ (.inr (Nat.zero_le point))
        rcases point with _ | _ | point
        · cases cut
          exact before
        · cases cut
          exact before
        · cases cut
    | rotated given validated sealed =>
        obtain ⟨bounded, rfl⟩ := stop_of_followed (congrArg Prod.fst went) cut
        rw [rotationCommits, if_neg given]
        exact provisioned_iff_of_rotation ideal found read unused validated sealed bounded
  · intro error raised stop cut
    rw [result, went] at raised
    rw [stops, went] at cut
    cases outcome with
    | refused _ =>
        rw [List.mem_singleton.mp cut]
        exact ⟨rfl, read⟩
    | unchanged _ => cases raised
    | rotated _ _ _ => cases raised

end Stops

/-! ### A rotation of both credentials -/

/-- What the sample cipher makes of a value. -/
def sampleSecret (value : Bytes) : EncryptedSecret where
  ciphertext := sampleHeader (encodeText "phrase") ++ value
  nonce := List.replicate 12 9
  authenticationTag := List.replicate 16 0
  nonceSize := sampleNonce.property
  tagSize := rfl

/-- An unlocked process whose provider has a key and a secret. -/
def sampleProcess : TreasuryProcess Bytes where
  store :=
    { key := some (encodeText "phrase")
      database :=
        { cryptoParameters := some (.ofParameters (freshParameters sampleSalt))
          secrets := ⟨[⟨canaryReference, sampleSecret canaryPlaintext⟩,
            ⟨"kraken key", sampleSecret (encodeText "old key")⟩,
            ⟨"kraken secret", sampleSecret (encodeText "old secret")⟩], by decide⟩ } }
  db := sampleTreasury

def sampleSuffix : ReferenceSuffix :=
  ⟨"0123abcd", by decide, show "0123abcd".toList ⊆ "0123456789abcdef".toList by decide⟩

def sampleSuffixes : ReferenceSuffixes := ⟨sampleSuffix, sampleSuffix, sampleSuffix⟩

def sampleNonces : RotationNonces := ⟨sampleNonce, sampleNonce, sampleNonce⟩

/-- A new key and a new secret. -/
def samplePatch : CredentialPatch := ⟨some "new key", some "new secret", none⟩

/-- Permissions to read and to withdraw. -/
def samplePermissions : String → Credentials → Except PyError ProviderPermissions :=
  fun _ _ => .ok { canRead := true, canTrade := false, canWithdraw := true }

/-- The sample rotation. -/
def sampleRotation : ProcessCall Bytes CustodialProviderRow :=
  patchProviderRoute sampleCryptography sampleCustody samplePermissions 1 samplePatch sampleSuffixes
    sampleNonces

theorem provisioned_iff_of_stop_sample :
    (∀ point stop, (stops sampleRotation sampleProcess)[point]? = some stop →
      (Provisioned sampleCryptography sampleCustody samplePermissions (encodeText "phrase") 1
          ⟨"old key", "old secret", none⟩ stop ↔
        point = 0 ∨ rotationCommits sampleProvider samplePatch ≤ point)) ∧
    ∀ error, result sampleRotation sampleProcess = .error error →
      ∀ stop ∈ stops sampleRotation sampleProcess,
        stop.db = sampleProcess.db ∧
          readReferences sampleCryptography (encodeText "phrase") stop sampleProvider.references =
            .ok ⟨"old key", "old secret", none⟩ :=
  provisioned_iff_of_stop sampleCryptography_ideal (by decide) (by decide)
    (.inr rfl) ⟨by decide, by decide, by decide⟩ samplePatch sampleNonces

/-- Cut off after the old key is deleted, the sample rotation leaves the provider without one. -/
theorem not_provisioned_everywhere :
    ¬∀ stop ∈ stops sampleRotation sampleProcess,
      Provisioned sampleCryptography sampleCustody samplePermissions (encodeText "phrase") 1
        ⟨"old key", "old secret", none⟩ stop := by
  intro everywhere
  have cut : ((stops sampleRotation sampleProcess).any fun stop =>
      decide (stop.db.custodialProviders.get? 1 = some sampleProvider ∧
        loadEncrypted stop.store.database sampleProvider.apiCredentialReference = none)) = true := by
    decide
  obtain ⟨stop, member, stranded⟩ := List.any_eq_true.mp cut
  obtain ⟨found, missing⟩ := of_decide_eq_true stranded
  exact not_provisioned_of_missing found missing (everywhere stop member)

end TallyKeep
