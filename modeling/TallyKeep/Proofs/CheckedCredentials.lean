/-
Module: TallyKeep.Proofs.CheckedCredentials
Layer: Proofs
Purpose: Which credentials are stored without having been checked.
Trusted boundary: none
Main exports: CheckedIn, StoredChecked, issuedFor, Vouched, patchCredentials_shows,
  storedChecked_of_run
-/
import TallyKeep.HoldingSystem
import TallyKeep.Library.Transition
import TallyKeep.Proofs.CredentialRotation
import TallyKeep.Services.AccountSetup

namespace TallyKeep

open Relational Stepwise Transition

variable {Key : Type} {cryptography : Cryptography Key} {journal : List CredentialEvent}
  {event : CredentialEvent} {setup : AccountSetup Key} {answers : ProviderAnswers}
  {adapterId : String} {credentials : Credentials}

/-! ### The law -/

/-- The provider was asked for the permissions of exactly these credentials, and named none that is
    too many or missing. -/
def CheckedIn (journal : List CredentialEvent) (adapterId : String) (credentials : Credentials) :
    Prop :=
  ∃ permissions, .asked adapterId credentials (.ok permissions) ∈ journal ∧
    permissions.overage = [] ∧ permissions.underage = []

/-- Whatever is stored was checked before. -/
def StoredChecked (journal : List CredentialEvent) : Prop :=
  ∀ earlier providerId adapterId credentials later,
    journal = earlier ++ .stored providerId adapterId credentials :: later →
      CheckedIn earlier adapterId credentials

/-! ### Where it is kept -/

/-- What a token is issued for, after one more event. -/
def issuedNext (token : String) (found : Option (String × Credentials)) :
    CredentialEvent → Option (String × Credentials)
  | .issued other adapterId credentials =>
      if other = token then some (adapterId, credentials) else found
  | .asked _ _ _ => found
  | .stored _ _ _ => found

/-- The adapter and the credentials a token was last issued for. -/
def issuedFor (token : String) (journal : List CredentialEvent) : Option (String × Credentials) :=
  journal.foldl (issuedNext token) none

/-- A locked store takes nothing.  Otherwise a live token comes with the credentials it was issued
    for; and new credentials that the provider answers for may trade, which is refused, or have no
    permission too many or missing. -/
def Vouched (cryptography : Cryptography Key) (setup : AccountSetup Key) : SetupOperation → Prop
  | .validate _ _ _ _ _ _ => True
  | .create _ body now _ =>
      setup.store.key = none ∨
        ∀ token, body.setupToken = some token → token ≠ "" →
          (prefetchedBy setup.setupCache token body.adapterId now).isSome = true →
            issuedFor token setup.journal = some (body.adapterId, body.credentials)
  | .patch answers providerId patch _ _ =>
      setup.store.key = none ∨
        ∀ provider credentials permissions,
          result (rotationCredentials cryptography providerId patch) setup.treasury =
              .ok (provider, some credentials) →
            newPermissions answers.custody answers.getPermissions provider.adapterId credentials =
                .ok permissions →
              permissions.canTrade = true ∨
                (permissions.overage = [] ∧ permissions.underage = [])

/-! ### The journal -/

/-- What was checked stays checked. -/
theorem CheckedIn.append (checked : CheckedIn journal adapterId credentials)
    (later : List CredentialEvent) : CheckedIn (journal ++ later) adapterId credentials := by
  obtain ⟨permissions, asked, overage, underage⟩ := checked
  exact ⟨permissions, List.mem_append_left later asked, overage, underage⟩

/-- One event more keeps what is stored checked, if what it stores is. -/
theorem storedChecked_append_singleton :
    StoredChecked (journal ++ [event]) ↔
      StoredChecked journal ∧ ∀ providerId adapterId credentials,
        event = .stored providerId adapterId credentials →
          CheckedIn journal adapterId credentials := by
  constructor
  · intro checked
    constructor
    · intro earlier providerId adapterId credentials later split
      exact checked earlier providerId adapterId credentials (later ++ [event]) (by simp [split])
    · rintro providerId adapterId credentials rfl
      exact checked journal providerId adapterId credentials [] rfl
  · rintro ⟨checked, last⟩ earlier providerId adapterId credentials later split
    rcases List.eq_nil_or_concat later with rfl | ⟨init, final, rfl⟩
    · obtain ⟨same, stored⟩ := List.append_inj' split rfl
      rw [← same]
      exact last providerId adapterId credentials (List.singleton_inj.mp stored)
    · rw [List.concat_eq_append, ← List.cons_append, ← List.append_assoc] at split
      exact checked earlier providerId adapterId credentials init (List.append_inj' split rfl).1

/-- The credentials of a token after one event more. -/
theorem issuedFor_append_singleton (token : String) :
    issuedFor token (journal ++ [event]) = issuedNext token (issuedFor token journal) event := by
  rw [issuedFor, List.foldl_append]
  rfl

/-! ### What every call keeps -/

/-- The law, and that every cached token was issued for checked credentials. -/
structure AccountSetup.Sound (setup : AccountSetup Key) : Prop where
  checked : StoredChecked setup.journal
  vouched : ∀ token entry, setup.setupCache token = some entry → ∃ credentials,
    issuedFor token setup.journal = some (entry.adapterId, credentials) ∧
      CheckedIn setup.journal entry.adapterId credentials

namespace AccountSetup.Sound

/-- Other changes of the process keep the setup sound. -/
theorem withTreasury (sound : setup.Sound) (process : TreasuryProcess Key) :
    (setup.withTreasury process).Sound :=
  ⟨sound.checked, sound.vouched⟩

/-- A question and a write change nothing about the tokens. -/
theorem noting (sound : setup.Sound)
    (unissued : ∀ token, issuedFor token (setup.journal ++ [event]) = issuedFor token setup.journal)
    (stored : ∀ providerId adapterId credentials, event = .stored providerId adapterId credentials →
      CheckedIn setup.journal adapterId credentials) : (setup.noting event).Sound := by
  refine ⟨storedChecked_append_singleton.mpr ⟨sound.checked, stored⟩, ?_⟩
  intro token entry cached
  obtain ⟨credentials, issued, checked⟩ := sound.vouched token entry cached
  exact ⟨credentials, (unissued token).trans issued, checked.append [event]⟩

/-- An answer of the exchange keeps the setup sound. -/
theorem noting_asked (sound : setup.Sound) (answer : Except PyError ProviderPermissions) :
    (setup.noting (.asked adapterId credentials answer)).Sound := by
  apply sound.noting
  · intro token
    exact issuedFor_append_singleton token
  · intro providerId adapterId credentials same
    cases same

/-- Storing checked credentials keeps the setup sound. -/
theorem noting_stored (sound : setup.Sound) (providerId : Uuid)
    (checked : CheckedIn setup.journal adapterId credentials) :
    (setup.noting (.stored providerId adapterId credentials)).Sound := by
  apply sound.noting
  · intro token
    exact issuedFor_append_singleton token
  · intro otherId otherAdapter otherCredentials same
    cases same
    exact checked

/-- Popping a token leaves the others. -/
theorem pop (sound : setup.Sound) (token : String) :
    (setup.withCache fun key => if key = token then none else setup.setupCache key).Sound := by
  refine ⟨sound.checked, ?_⟩
  intro key entry cached
  change (if key = token then none else setup.setupCache key) = some entry at cached
  split at cached
  · cases cached
  · exact sound.vouched key entry cached

/-- A token that is issued for checked credentials. -/
theorem issue (sound : setup.Sound) (checked : CheckedIn setup.journal adapterId credentials)
    (token : String) (expiresAt now : Timestamp) (preview : AccountPreview) :
    ((setup.withCache (cacheWith setup.setupCache token ⟨expiresAt, adapterId, preview⟩ now)).noting
      (.issued token adapterId credentials)).Sound := by
  refine ⟨storedChecked_append_singleton.mpr ⟨sound.checked, ?_⟩, ?_⟩
  · intro providerId otherAdapter otherCredentials same
    cases same
  · intro key entry cached
    change cacheWith setup.setupCache token _ now key = some entry at cached
    obtain ⟨found, -⟩ := Option.filter_eq_some_iff.mp cached
    change ∃ held, issuedFor key (setup.journal ++ [_]) = some (entry.adapterId, held) ∧
      CheckedIn (setup.journal ++ [_]) entry.adapterId held
    rw [issuedFor_append_singleton, issuedNext]
    by_cases same : key = token
    · rw [if_pos same, Option.some.injEq] at found
      rw [← found, if_pos same.symm]
      exact ⟨credentials, rfl, checked.append _⟩
    · rw [if_neg same] at found
      rw [if_neg fun backwards => same backwards.symm]
      obtain ⟨held, issued, checked⟩ := sound.vouched key entry found
      exact ⟨held, issued, checked.append _⟩

end AccountSetup.Sound

/-- Validation returns only for credentials it has checked. -/
theorem validateAccountCredentials_ensures :
    Ensures AccountSetup.Sound
      (validateAccountCredentials answers adapterId credentials : SetupCall Key AccountPreview)
      (fun _ setup => setup.Sound ∧ CheckedIn setup.journal adapterId credentials)
      AccountSetup.Sound := by
  rw [validateAccountCredentials]
  cases buildAdapter answers.custody adapterId credentials with
  | error error =>
      dsimp only
      split
      · exact .raise fun _ sound => sound
      · exact .raise fun _ sound => sound
  | ok _ =>
      let asked : CredentialEvent :=
        .asked adapterId credentials (answers.getPermissions adapterId credentials)
      refine .bind (fun _ (setup : AccountSetup Key) => setup.Sound ∧ asked ∈ setup.journal)
        (.write ?_) fun _ => ?_
      · intro setup sound
        exact ⟨sound.noting_asked _, List.mem_append_right _ List.mem_cons_self⟩
      · cases answer : answers.getPermissions adapterId credentials with
        | error error => exact .raise fun _ start => start.1
        | ok permissions =>
            dsimp only
            split
            · exact .raise fun _ start => start.1
            · next exact =>
                rw [not_or, not_not, not_not] at exact
                refine .lift ?_ fun _ start => start.1
                rintro setup ⟨sound, member⟩ preview -
                refine ⟨sound, permissions, ?_, exact⟩
                rw [← answer]
                exact member

/-- The store is locked, so that nothing is stored, or the credentials are checked. -/
def AccountSetup.Admits (setup : AccountSetup Key) (adapterId : String)
    (credentials : Credentials) : Prop :=
  setup.store.key = none ∨ CheckedIn setup.journal adapterId credentials

/-- The validation of credentials keeps the setup sound. -/
theorem validateRoute_ensures (token : String) (createdAt evictedAt : Timestamp) :
    Ensures AccountSetup.Sound
      (validateRoute answers token createdAt evictedAt adapterId credentials :
        SetupCall Key (AccountPreview × String))
      (fun _ setup => setup.Sound) AccountSetup.Sound := by
  rw [validateRoute]
  refine .bind _ validateAccountCredentials_ensures fun preview => ?_
  -- Between the two writes the cache is ahead of the journal.
  refine .bind (fun _ (setup : AccountSetup Key) => ∃ earlier : AccountSetup Key, earlier.Sound ∧
    CheckedIn earlier.journal adapterId credentials ∧
      setup = earlier.withCache (cacheWith earlier.setupCache token
        ⟨createdAt + setupTokenTtl, adapterId, preview⟩ evictedAt)) (.write ?_) fun _ => ?_
  · rintro setup ⟨sound, checked⟩
    exact ⟨setup, sound, checked, rfl⟩
  · refine .bind (fun _ (setup : AccountSetup Key) => setup.Sound) (.write ?_)
      fun _ => .pure fun _ sound => sound
    rintro _ ⟨earlier, sound, checked, rfl⟩
    exact sound.issue checked token _ evictedAt preview

/-- A call that a locked store refuses returns only after the check. -/
theorem refusing_ensures {α : Type} {call : ProcessCall Key α}
    (refuses : ∀ process, process.store.key = none → ∃ error, call process = ([], .error error)) :
    Ensures
      (fun setup : AccountSetup Key => setup.Sound ∧
        setup.Admits adapterId credentials)
      (onTreasury call)
      (fun _ setup => setup.Sound ∧ CheckedIn setup.journal adapterId credentials)
      AccountSetup.Sound := by
  rintro setup ⟨sound, locked | checked⟩
  · obtain ⟨error, refused⟩ := refuses setup.treasury locked
    have raised : result (onTreasury call) setup = .error error := congrArg Prod.snd refused
    have stayed : final (onTreasury call) setup = setup := by
      change ((call setup.treasury).1.map setup.withTreasury).getLastD setup = setup
      rw [refused]
      rfl
    rw [raised, stayed]
    refine ⟨fun a returned => ?_, fun _ _ => sound⟩
    cases returned
  · let held : AccountSetup Key → Prop := fun setup =>
      setup.Sound ∧ CheckedIn setup.journal adapterId credentials
    have kept : Ensures held (onTreasury call) (fun _ => held) held :=
      .within (fun _ process start => ⟨start.1.withTreasury process, start.2⟩) call
    obtain ⟨returns, raises⟩ := kept setup ⟨sound, checked⟩
    exact ⟨returns, fun error raised => (raises error raised).1⟩

/-- A locked store stores no secrets. -/
theorem storeSecrets_locked {process : TreasuryProcess Key} (locked : process.store.key = none)
    (nonces : RotationNonces) (references : CredentialReferences) (credentials : Credentials) :
    ∃ error, storeSecrets cryptography nonces references credentials process =
      ([], .error error) := by
  have refused : onStore (setSecret cryptography nonces.apiKey references.apiCredential
      (encodeText credentials.apiKey)) process =
        ([], .error (lockedRefusal references.apiCredential)) := by
    change (_, _) = _
    rw [result, setSecret, refuses_of_locked _ locked]
    rfl
  exact ⟨_, by rw [storeSecrets, bind_apply_of_refuses refused]⟩

/-! ### Creation -/

/-- What a live token was issued for is checked. -/
theorem AccountSetup.Sound.checked_of_prefetched (sound : setup.Sound) {token : String}
    {now : Timestamp}
    (live : (prefetchedBy setup.setupCache token adapterId now).isSome = true)
    (issued : issuedFor token setup.journal = some (adapterId, credentials)) :
    CheckedIn setup.journal adapterId credentials := by
  rw [prefetchedBy, Option.isSome_map, Option.isSome_iff_exists] at live
  obtain ⟨entry, kept⟩ := live
  obtain ⟨cached, valid⟩ := Option.filter_eq_some_iff.mp kept
  obtain ⟨held, issuedHeld, checked⟩ := sound.vouched token entry cached
  rw [issued, Option.some.injEq, Prod.mk.injEq] at issuedHeld
  rw [issuedHeld.1, issuedHeld.2]
  exact checked

/-- A preview admits the credentials of its request. -/
theorem previewOf_ensures (body : AccountCreate) (prefetched : Option AccountPreview) :
    Ensures
      (fun setup : AccountSetup Key => setup.Sound ∧
        (prefetched.isSome = true → setup.Admits body.adapterId body.credentials))
      (previewOf answers body prefetched)
      (fun _ setup => setup.Sound ∧
        setup.Admits body.adapterId body.credentials)
      AccountSetup.Sound := by
  cases prefetched with
  | some preview => exact .pure fun setup start => ⟨start.1, start.2 rfl⟩
  | none =>
      intro setup start
      obtain ⟨returns, raises⟩ := validateAccountCredentials_ensures setup start.1
      refine ⟨fun preview returned => ?_, raises⟩
      obtain ⟨sound, checked⟩ := returns preview returned
      exact ⟨sound, .inr checked⟩

/-- Storing an account keeps the setup sound when its credentials are admitted. -/
theorem storeAccount_ensures (body : AccountCreate) (nonces : RotationNonces) (providerId : Uuid)
    (references : CredentialReferences) :
    Ensures
      (fun setup => setup.Sound ∧
        setup.Admits body.adapterId body.credentials)
      (storeAccount cryptography body nonces providerId references)
      (fun _ setup => setup.Sound) AccountSetup.Sound := by
  rw [storeAccount]
  refine .bind (fun outcome (setup : AccountSetup Key) => setup.Sound ∧
    ∀ stored, outcome = .ok stored →
      CheckedIn setup.journal body.adapterId body.credentials) ?_ fun outcome => ?_
  · apply Ensures.attempt (refusing_ensures fun process locked =>
      storeSecrets_locked locked nonces references body.credentials)
    · intro stored setup start
      exact ⟨start.1, fun _ _ => start.2⟩
    · intro error setup sound
      refine ⟨sound, fun stored same => ?_⟩
      cases same
  · cases outcome with
    | error error =>
        dsimp only
        split
        · exact .raise fun _ start => start.1
        · exact .raise fun _ start => start.1
    | ok stored =>
        apply Ensures.write
        intro setup start
        exact start.1.noting_stored _ (start.2 stored rfl)

/-- Creation stores what was checked, where prefetched data stand for a check or the store is
    locked. -/
theorem createAccountHolding_ensures (body : AccountCreate) (nonces : RotationNonces)
    (prefetched : Option AccountPreview) :
    Ensures
      (fun setup => setup.Sound ∧
        (prefetched.isSome = true → setup.Admits body.adapterId body.credentials))
      (createAccountHolding answers cryptography body nonces prefetched)
      (fun _ setup => setup.Sound) AccountSetup.Sound := by
  rw [createAccountHolding]
  refine .bind _ (previewOf_ensures body prefetched) fun preview => ?_
  refine .bind (fun _ (setup : AccountSetup Key) => setup.Sound ∧
    setup.Admits body.adapterId body.credentials)
    (.read fun _ start => start) fun db => ?_
  refine .bind _ (storeAccount_ensures body nonces _ _) fun _ => ?_
  exact .lift (fun _ sound _ _ => sound) fun _ sound => sound

/-- What consuming a token leaves. -/
theorem prefetchedFor_ensures (body : AccountCreate) (now : Timestamp) (nonces : RotationNonces) :
    Ensures
      (fun setup => setup.Sound ∧ Vouched cryptography setup (.create answers body now nonces))
      (prefetchedFor body now)
      (fun prefetched setup => setup.Sound ∧
        (prefetched.isSome = true → setup.Admits body.adapterId body.credentials))
      AccountSetup.Sound := by
  have without : Ensures
      (fun setup => setup.Sound ∧ Vouched cryptography setup (.create answers body now nonces))
      (pure none : SetupCall Key (Option AccountPreview))
      (fun prefetched setup => setup.Sound ∧
        (prefetched.isSome = true → setup.Admits body.adapterId body.credentials))
      AccountSetup.Sound :=
    .pure fun _ start => ⟨start.1, fun impossible => absurd impossible Bool.false_ne_true⟩
  rw [prefetchedFor]
  cases given : body.setupToken with
  | none => exact without
  | some token =>
      dsimp only
      split
      · exact without
      · next nonempty =>
          refine .bind (fun prefetched (setup : AccountSetup Key) => setup.Sound ∧
            (prefetched.isSome = true → setup.Admits body.adapterId body.credentials)) (.read ?_)
            fun _ => ?_
          · rintro setup ⟨sound, locked | vouched⟩
            · exact ⟨sound, fun _ => .inl locked⟩
            · refine ⟨sound, fun live => .inr ?_⟩
              exact sound.checked_of_prefetched live (vouched token given nonempty live)
          · refine .bind (fun _ (setup : AccountSetup Key) => _) (.write fun setup start => ?_)
              fun _ => .pure fun _ start => start
            exact ⟨start.1.pop token, start.2⟩

/-- The creation of an account keeps the setup sound. -/
theorem createRoute_ensures (body : AccountCreate) (now : Timestamp) (nonces : RotationNonces) :
    Ensures
      (fun setup => setup.Sound ∧ Vouched cryptography setup (.create answers body now nonces))
      (createRoute answers cryptography body now nonces)
      (fun _ setup => setup.Sound) AccountSetup.Sound := by
  rw [createRoute]
  refine .bind _ (prefetchedFor_ensures body now nonces) fun prefetched => ?_
  refine .bind _ (createAccountHolding_ensures body nonces prefetched) fun created => ?_
  refine .bind (fun _ (setup : AccountSetup Key) => setup.Sound) (.write fun setup sound => ?_)
    fun _ => .pure fun _ sound => sound
  exact ⟨sound.checked, sound.vouched⟩

/-! ### Rotation -/

/-- Reading the credentials of a rotation writes nothing. -/
theorem rotationCredentials_quiet (providerId : Uuid) (patch : CredentialPatch)
    (process : TreasuryProcess Key) :
    (rotationCredentials cryptography providerId patch process).1 = [] := by
  have silent : ∀ given reference,
      (givenOrStored cryptography given reference process).1 = [] := by
    intro given reference
    obtain ⟨outcome, went⟩ := @givenOrStored_apply Key cryptography process given reference
    rw [went]
  refine states_bind_nil rfl fun db => states_bind_nil rfl fun found => ?_
  cases found with
  | none => rfl
  | some provider =>
      dsimp only
      split
      · rfl
      · split
        · rfl
        · exact states_bind_nil (silent _ _) fun _ => states_bind_nil (silent _ _) fun _ => rfl

/-- What `patch_provider` and its endpoint do once the credentials to try are known. -/
def rotateKnown (answers : ProviderAnswers) (cryptography : Cryptography Key) (providerId : Uuid)
    (patch : CredentialPatch) (suffixes : ReferenceSuffixes) (nonces : RotationNonces)
    (db : TreasuryDatabase) :
    CustodialProviderRow × Option Credentials → ProcessCall Key CustodialProviderRow
  | (provider, none) => do
      commitSession db
      return provider
  | (provider, some credentials) => do
      Stepwise.lift (validateCredentials answers.custody answers.getPermissions provider.adapterId
        credentials)
      passKeyError (purgeSecrets provider.references)
      let references := newReferences providerId suffixes patch.apiPassphrase
      storeSecrets cryptography nonces references credentials
      let (updatedDb, updated) ←
        Stepwise.lift (CustodialProviderRepo.updateCredentials db providerId references)
      commitSession updatedDb
      return updated.getD provider

theorem patchProviderRoute_eq (answers : ProviderAnswers) (providerId : Uuid)
    (patch : CredentialPatch) (suffixes : ReferenceSuffixes) (nonces : RotationNonces) :
    patchProviderRoute cryptography answers.custody answers.getPermissions providerId patch suffixes
        nonces =
      Stepwise.read TreasuryProcess.db >>= fun db =>
        rotationCredentials cryptography providerId patch >>= fun found =>
          rotateKnown answers cryptography providerId patch suffixes nonces db found := by
  funext process
  simp only [patchProviderRoute, patchProvider, rotationCredentials, bind_assoc_eq,
    read_bind_apply]
  cases found : CustodialProviderRepo.get process.db providerId with
  | error error => rfl
  | ok row =>
      simp only [lift_ok_bind_apply]
      cases row with
      | none => rfl
      | some provider =>
          dsimp only
          split
          · rfl
          · split
            · rfl
            · simp only [bind_assoc_eq]
              rfl

/-- Apart from its journal, rotation is the one of the treasury. -/
theorem patchCredentials_shows (answers : ProviderAnswers) (providerId : Uuid)
    (patch : CredentialPatch) (suffixes : ReferenceSuffixes) (nonces : RotationNonces) :
    Shows AccountSetup.treasury
      (patchCredentials answers cryptography providerId patch suffixes nonces)
      (patchProviderRoute cryptography answers.custody answers.getPermissions providerId patch
        suffixes nonces) := by
  have onPart : ∀ {α : Type} (call : ProcessCall Key α),
      Shows AccountSetup.treasury (onTreasury call) call :=
    fun call => .within (fun _ _ => rfl) call
  rw [patchCredentials, patchProviderRoute_eq]
  refine .bind (.read TreasuryProcess.db) fun db => .bind (onPart _) fun found => ?_
  obtain ⟨provider, tried⟩ := found
  cases tried with
  | none => exact .bind (onPart _) fun _ => .pure provider
  | some credentials =>
      have asked : ∀ {α : Type} {next : SetupCall Key α} {shown : ProcessCall Key α},
          Shows AccountSetup.treasury next shown → Shows AccountSetup.treasury
            (noteAsked answers provider.adapterId credentials >>= fun _ => next) shown := by
        intro α next shown shows
        rw [noteAsked]
        cases buildAdapter answers.custody provider.adapterId credentials with
        | ok _ => exact .hidden (fun _ => rfl) shows
        | error error => exact shows
      refine asked (.bind (.lift _) fun _ => .bind (onPart _) fun _ => .bind (onPart _) fun _ => ?_)
      refine .hidden (fun _ => rfl) (.bind (.lift _) fun updated => ?_)
      exact .bind (onPart _) fun _ => .pure _

/-- The exchange grants valid credentials no trading. -/
theorem validateCredentials_ok
    (valid : validateCredentials answers.custody answers.getPermissions adapterId credentials =
      .ok ()) :
    ∃ permissions,
      newPermissions answers.custody answers.getPermissions adapterId credentials =
          .ok permissions ∧ permissions.canTrade = false := by
  rw [validateCredentials] at valid
  cases asked : newPermissions answers.custody answers.getPermissions adapterId credentials with
  | error error =>
      rw [asked] at valid
      dsimp only at valid
      split at valid
      · cases valid
      · split at valid <;> cases valid
  | ok permissions =>
      rw [asked] at valid
      dsimp only at valid
      split at valid
      · cases valid
      · next refuses => exact ⟨permissions, rfl, Bool.eq_false_of_not_eq_true refuses⟩

/-- After the question, credentials that pass the validation are checked or find the store
    locked. -/
theorem noteAsked_ensures (sound : setup.Sound)
    (vouched : setup.store.key = none ∨ ∀ permissions,
      newPermissions answers.custody answers.getPermissions adapterId credentials =
          .ok permissions →
        permissions.canTrade = true ∨ (permissions.overage = [] ∧ permissions.underage = [])) :
    Ensures (fun start => start = setup) (noteAsked answers adapterId credentials)
      (fun _ setup => setup.Sound ∧
        (validateCredentials answers.custody answers.getPermissions adapterId credentials = .ok () →
          setup.Admits adapterId credentials))
      AccountSetup.Sound := by
  rw [noteAsked]
  cases build : buildAdapter answers.custody adapterId credentials with
  | error error =>
      apply Ensures.pure
      rintro _ rfl
      refine ⟨sound, fun valid => ?_⟩
      obtain ⟨permissions, asked, -⟩ := validateCredentials_ok valid
      rw [newPermissions, build] at asked
      cases asked
  | ok _ =>
      apply Ensures.write
      rintro _ rfl
      refine ⟨sound.noting_asked _, fun valid => ?_⟩
      obtain ⟨permissions, asked, trades⟩ := validateCredentials_ok valid
      rcases vouched with locked | exact
      · exact .inl locked
      · rcases exact permissions asked with impossible | exact
        · rw [trades] at impossible
          cases impossible
        · rw [newPermissions, build] at asked
          refine .inr ⟨permissions, List.mem_append_right _ ?_, exact⟩
          rw [show answers.getPermissions adapterId credentials = .ok permissions from asked]
          exact List.mem_cons_self

/-- A rotation of checked credentials keeps the setup sound. -/
theorem patchCredentials_ensures {providerId : Uuid} {patch : CredentialPatch}
    {suffixes : ReferenceSuffixes} {nonces : RotationNonces} (sound : setup.Sound)
    (vouched : Vouched cryptography setup (.patch answers providerId patch suffixes nonces)) :
    Ensures (fun start => start = setup)
      (patchCredentials answers cryptography providerId patch suffixes nonces)
      (fun _ setup => setup.Sound) AccountSetup.Sound := by
  have onStore : ∀ {α : Type} (call : ProcessCall Key α),
      Ensures AccountSetup.Sound (onTreasury call) (fun _ setup => setup.Sound)
        AccountSetup.Sound :=
    fun call => .within (fun _ process sound => sound.withTreasury process) call
  rw [patchCredentials]
  refine .bind (fun _ (start : AccountSetup Key) => start = setup) (.read fun _ start => start)
    fun db => ?_
  refine .bind _ (.reads (s := setup) ?_ sound) fun found => ?_
  · change (rotationCredentials cryptography providerId patch setup.treasury).1.map _ = []
    rw [rotationCredentials_quiet]
    rfl
  obtain ⟨provider, tried⟩ := found
  cases tried with
  | none =>
      refine .bind _ (.weaken (onStore _) ?_) fun _ => .pure fun _ sound => sound
      rintro _ ⟨rfl, -⟩
      exact sound
  | some credentials =>
      by_cases resolved : result (rotationCredentials cryptography providerId patch)
          setup.treasury = .ok (provider, some credentials)
      · have permitted : setup.store.key = none ∨ ∀ permissions,
            newPermissions answers.custody answers.getPermissions provider.adapterId credentials =
                .ok permissions →
              permissions.canTrade = true ∨
                (permissions.overage = [] ∧ permissions.underage = []) :=
          vouched.imp_right fun all permissions => all provider credentials permissions resolved
        refine .bind _ (.weaken (noteAsked_ensures sound permitted) fun _ start => start.1)
          fun _ => ?_
        refine .bind (fun _ (setup : AccountSetup Key) => setup.Sound ∧
          setup.Admits provider.adapterId credentials) (.lift ?_ fun _ start => start.1)
          fun _ => ?_
        · rintro setup ⟨sound, admits⟩ _ valid
          exact ⟨sound, admits valid⟩
        refine .bind _ (refusing_ensures fun process locked => ?_) fun _ => ?_
        · exact ⟨_, passKeyError_of_refuses (purgeSecrets_locked locked)
            (lockedRefusal_ne_keyError _)⟩
        refine .bind (fun _ (setup : AccountSetup Key) => setup.Sound ∧
          CheckedIn setup.journal provider.adapterId credentials)
          (.weaken (refusing_ensures fun process locked =>
            storeSecrets_locked locked nonces _ credentials) ?_) fun _ => ?_
        · rintro setup ⟨sound, checked⟩
          exact ⟨sound, .inr checked⟩
        refine .bind (fun _ (setup : AccountSetup Key) => setup.Sound)
          (.write fun setup start => ?_) fun _ => ?_
        · exact start.1.noting_stored providerId start.2
        refine .bind (fun _ (setup : AccountSetup Key) => setup.Sound)
          (.lift (fun _ sound _ _ => sound) fun _ sound => sound) fun updated => ?_
        exact .bind _ (onStore _) fun _ => .pure fun _ sound => sound
      · rintro _ ⟨-, same⟩
        exact absurd same resolved

/-! ### Runs -/

/-- One call keeps it, where its condition holds. -/
theorem setupStep_sound (sound : setup.Sound) (operation : SetupOperation)
    (vouched : Vouched cryptography setup operation) :
    (setupStep cryptography setup operation).Sound := by
  have ends : ∀ {α : Type} {before : AccountSetup Key → Prop} {call : SetupCall Key α},
      Ensures before call (fun _ setup => setup.Sound) AccountSetup.Sound → before setup →
        (call.final setup).Sound := by
    intro α before call ensured start
    obtain ⟨returns, raises⟩ := ensured setup start
    cases outcome : result call setup with
    | ok a => exact returns a outcome
    | error error => exact raises error outcome
  cases operation with
  | validate answers token createdAt evictedAt adapterId credentials =>
      exact ends (validateRoute_ensures token createdAt evictedAt) sound
  | create answers body now nonces =>
      exact ends (createRoute_ensures body now nonces) ⟨sound, vouched⟩
  | patch answers providerId patch suffixes nonces =>
      exact ends (patchCredentials_ensures sound vouched) rfl

/-- A run whose calls all meet the condition stores nothing that was not checked. -/
theorem storedChecked_of_run {start setup : AccountSetup Key} {operations : List SetupOperation}
    (noTokens : ∀ token, start.setupCache token = none) (noEvents : start.journal = [])
    (run : Run (guarded (stepOf (setupStep cryptography)) (Vouched cryptography)) start operations
      setup) :
    StoredChecked setup.journal := by
  have begins : start.Sound := by
    constructor
    · intro earlier providerId adapterId credentials later split
      rw [noEvents] at split
      exact absurd split (by simp)
    · intro token entry cached
      rw [noTokens token] at cached
      cases cached
  refine (run.invariant ?_ begins).checked
  rintro setup operation _ sound ⟨vouched, rfl⟩
  exact setupStep_sound sound operation vouched

/-- The answers of a provider that finds every key exactly scoped. -/
def exactAnswers : ProviderAnswers where
  custody := sampleCustody
  getPermissions _ _ := .ok { canRead := true, canTrade := false, canWithdraw := false }
  getBalance _ _ := .ok 1000
  getOtherBalances _ _ := .ok []
  fetchLedger _ _ := .ok []

/-- An unlocked process before any call. -/
def sampleSetup : AccountSetup Bytes where
  store := sampleProcess.store
  db := { HoldingDatabase.empty with toTreasuryDatabase := sampleProcess.db }
  setupCache := fun _ => none
  journal := []

def observingKey : Credentials := ⟨"observing key", "observing secret", none⟩

def tradingKey : Credentials := ⟨"trading key", "trading secret", none⟩

/-- A creation with a setup token. -/
def tokenCreation (credentials : Credentials) : AccountCreate where
  details :=
    { name := "Exchange"
      description := none
      purpose := .transit
      declaredSecurity := ⟨.thirdParty, .notApplicable, false, false, none⟩
      displayColor := "#3b82f6"
      displayOrder := 0 }
  displayName := "Kraken"
  adapterId := "kraken"
  credentials := credentials
  setupToken := some "token"

/-- Validation of a key, then creation with its token. -/
def sampleWizard (created : Credentials) : List SetupOperation :=
  [.validate exactAnswers "token" 0 0 "kraken" observingKey,
    .create exactAnswers (tokenCreation created) 0 sampleNonces]

/-- After the wizard is run with the key it validated. -/
theorem storedChecked_sampleWizard :
    StoredChecked ((sampleWizard observingKey).foldl (setupStep sampleCryptography)
      sampleSetup).journal := by
  have run : Run (guarded (stepOf (setupStep sampleCryptography)) (Vouched sampleCryptography))
      sampleSetup (sampleWizard observingKey)
      ((sampleWizard observingKey).foldl (setupStep sampleCryptography) sampleSetup) := by
    refine .cons ⟨trivial, rfl⟩ (.cons ⟨.inr fun token given _ _ => ?_, rfl⟩ (.stop _))
    cases given
    decide
  exact storedChecked_of_run (fun _ => rfl) rfl run

/-- What was done with certain credentials. -/
def CredentialEvent.concerns (credentials : Credentials) : CredentialEvent → Bool
  | .asked _ held _ => decide (held = credentials)
  | .issued _ _ held => decide (held = credentials)
  | .stored _ _ held => decide (held = credentials)

def CredentialEvent.isStored : CredentialEvent → Bool
  | .stored _ _ _ => true
  | _ => false

/-- With the token of one key another one is stored, which the provider is never asked about. -/
theorem tradingKey_unchecked :
    ¬∀ cryptography (start setup : AccountSetup Bytes) operations,
      (∀ token, start.setupCache token = none) → start.journal = [] →
        Run (stepOf (setupStep cryptography)) start operations setup →
          StoredChecked setup.journal := by
  intro law
  let journal :=
    ((sampleWizard tradingKey).foldl (setupStep sampleCryptography) sampleSetup).journal
  have checked : StoredChecked journal :=
    law sampleCryptography sampleSetup _ (sampleWizard tradingKey) (fun _ => rfl) rfl
      (.of_steps _ _ _)
  have stored : (journal.any fun event => event.isStored && event.concerns tradingKey) = true := by
    decide
  have only : (journal.all fun event => event.isStored || !event.concerns tradingKey) = true := by
    decide
  obtain ⟨event, member, found⟩ := List.any_eq_true.mp stored
  obtain ⟨earlier, later, split⟩ := List.append_of_mem member
  cases event with
  | asked _ _ _ | issued _ _ _ => cases found
  | stored providerId adapterId credentials =>
      have same : credentials = tradingKey := of_decide_eq_true found
      obtain ⟨permissions, asked, -⟩ := checked earlier providerId adapterId credentials later split
      have early : CredentialEvent.asked adapterId credentials (.ok permissions) ∈ journal := by
        rw [split]
        exact List.mem_append_left _ asked
      have impossible := List.all_eq_true.mp only _ early
      simp [same, CredentialEvent.isStored, CredentialEvent.concerns] at impossible

end TallyKeep
