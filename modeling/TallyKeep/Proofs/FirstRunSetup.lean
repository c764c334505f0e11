/-
Module: TallyKeep.Proofs.FirstRunSetup
Layer: Proofs
Purpose: Which points of the first-run setup can be recovered from.  A commit that fails leaves the
  tables as a process that stops before it does.
Trusted boundary: none
Main exports: FirstRun, Uninitialized, Unlockable, Recoverable, recoverable_iff_of_stop
-/
import TallyKeep.Proofs.SecretStore

namespace TallyKeep

open Relational Stepwise

variable {Key : Type}

/-- Neither write of the setup was ever committed. -/
structure FirstRun (database : SecretDatabase) : Prop where
  parameters : database.cryptoParameters = none
  canary : loadEncrypted database canaryReference = none

/-- Whatever key a process holds, `initialize` succeeds with every passphrase that derives a key. -/
def Uninitialized (cryptography : Cryptography Key) (database : SecretDatabase) : Prop :=
  ∀ key salt nonce passphrase, passphrase ≠ "" →
    result (initializeStore cryptography salt nonce passphrase) ⟨key, database⟩ = .ok ⟨⟩

/-- Whatever key a process holds, `unlock` succeeds with the passphrase. -/
def Unlockable (cryptography : Cryptography Key) (database : SecretDatabase)
    (passphrase : String) : Prop :=
  ∀ key, result (unlock cryptography passphrase) ⟨key, database⟩ = .ok ⟨⟩

/-- What a failed or interrupted setup has to leave behind. -/
def Recoverable (cryptography : Cryptography Key) (database : SecretDatabase)
    (passphrase : String) : Prop :=
  Uninitialized cryptography database ∨ Unlockable cryptography database passphrase

variable {cryptography : Cryptography Key} {database : SecretDatabase} {passphrase : String}
  {parameters : KdfParameters}

theorem uninitialized_of_none (ideal : cryptography.Ideal)
    (missing : database.cryptoParameters = none) : Uninitialized cryptography database := by
  intro key salt nonce passphrase given
  have missingHere : (⟨key, database⟩ : SecretStore Key).database.cryptoParameters = none := missing
  obtain ⟨canary, _, went⟩ := initializeStore_of_none ideal missingHere salt nonce given
  rw [result, went]

theorem unlockable_of_setUp (ideal : cryptography.Ideal)
    (setUp : SetUp cryptography database parameters passphrase) :
    Unlockable cryptography database passphrase := by
  intro key
  have setUpHere : SetUp cryptography (⟨key, database⟩ : SecretStore Key).database parameters
      passphrase := setUp
  rw [result, setUpHere.unlock_apply ideal]

/-- With the parameters committed and the canary not, `initialize` finds the store initialized and
    `unlock` finds it uninitialized. -/
theorem not_recoverable_of_missing
    (stored : database.cryptoParameters = some (.ofParameters parameters))
    (missing : loadEncrypted database canaryReference = none) (passphrase : String) :
    ¬Recoverable cryptography database passphrase := by
  have storedHere : (⟨none, database⟩ : SecretStore Key).database.cryptoParameters =
      some (.ofParameters parameters) := stored
  rintro (uninitialized | unlockable)
  · have accepted := uninitialized none sampleSalt sampleNonce "phrase" (by decide)
    rw [result, initializeStore_of_stored storedHere] at accepted
    cases accepted
  · obtain ⟨error, refused⟩ : ∃ error,
        readCanary cryptography passphrase ⟨none, database⟩ = ([], .error error) :=
      readCanary_of_missing storedHere missing passphrase
    have accepted := unlockable none
    rw [result, unlock, bind_apply_of_refuses refused] at accepted
    cases accepted

/-- A setup that stops can be recovered from exactly when it does not stop after the commit of the
    parameters and before the commit of the canary. -/
theorem recoverable_iff_of_stop (ideal : cryptography.Ideal) {store stop : SecretStore Key}
    (first : FirstRun store.database) (salt : Salt) (nonce : Nonce) (passphrase : String)
    {point : Nat}
    (cut : (stops (initializeStore cryptography salt nonce passphrase) store)[point]? =
      some stop) :
    Recoverable cryptography stop.database passphrase ↔ point ≠ 1 := by
  have before : Recoverable cryptography store.database passphrase :=
    .inl (uninitialized_of_none ideal first.parameters)
  by_cases empty : passphrase = ""
  · rw [empty, stops, initializeStore_empty first.parameters] at cut
    rcases point with _ | point
    · cases cut
      exact iff_of_true before (by decide)
    · cases cut
  · obtain ⟨canary, sealed, went⟩ :=
      initializeStore_of_none ideal first.parameters salt nonce empty
    have setUp : SetUp cryptography ((store.database.addParameters
        (freshParameters salt)).putSecret canaryReference canary) (freshParameters salt)
        passphrase :=
      ⟨empty, rfl, canary, loadEncrypted_putSecret.trans (if_pos rfl), sealed⟩
    have after := unlockable_of_setUp ideal setUp
    have noCanary : loadEncrypted (store.database.addParameters (freshParameters salt))
        canaryReference = none := first.canary
    have stuck : ¬Recoverable cryptography
        (store.database.addParameters (freshParameters salt)) passphrase :=
      not_recoverable_of_missing rfl noCanary passphrase
    rw [stops, went] at cut
    rcases point with _ | _ | _ | _ | point
    · cases cut
      exact iff_of_true before (by decide)
    · cases cut
      exact iff_of_false stuck fun apart => apart rfl
    · cases cut
      exact iff_of_true (.inr after) (by decide)
    · cases cut
      exact iff_of_true (.inr after) (by decide)
    · cases cut

/-- The setup of an empty store, stopped when both writes are committed and the key is not held yet: a
    new process unlocks it with the passphrase given, and refuses to set it up again. -/
theorem recoverable_sample :
    ∃ stop : SecretStore Bytes,
      (stops (initializeStore sampleCryptography sampleSalt sampleNonce "phrase")
        (.start .empty))[2]? = some stop ∧ stop.isUnlocked = false ∧
      result (unlock sampleCryptography "phrase") (.start stop.database) = .ok ⟨⟩ ∧
      (result (initializeStore sampleCryptography sampleSalt sampleNonce "other")
        (.start stop.database)).toOption = none ∧
      Recoverable sampleCryptography stop.database "phrase" := by
  have cut : ∃ stop : SecretStore Bytes,
      (stops (initializeStore sampleCryptography sampleSalt sampleNonce "phrase")
        (.start .empty))[2]? = some stop := ⟨_, rfl⟩
  obtain ⟨stop, cut⟩ := cut
  have recoverable := (recoverable_iff_of_stop sampleCryptography_ideal ⟨rfl, rfl⟩ sampleSalt
    sampleNonce "phrase" cut).mpr (by decide)
  refine ⟨stop, cut, ?_, ?_, ?_, recoverable⟩
  · cases cut
    rfl
  · cases cut
    rfl
  · cases cut
    rfl

/-- The setup of an empty store can stop where neither call is accepted any more. -/
theorem not_recoverable_everywhere :
    ¬∀ stop ∈ stops (initializeStore sampleCryptography sampleSalt sampleNonce "phrase")
        (.start .empty), Recoverable sampleCryptography stop.database "phrase" := by
  intro everywhere
  have missing : (SecretStore.start .empty : SecretStore Bytes).database.cryptoParameters = none :=
    rfl
  obtain ⟨canary, _, went⟩ := initializeStore_of_none sampleCryptography_ideal missing sampleSalt
    sampleNonce (by decide : "phrase" ≠ "")
  rw [stops, went] at everywhere
  have stuck : ¬Recoverable sampleCryptography
      (SecretDatabase.empty.addParameters (freshParameters sampleSalt)) "phrase" :=
    not_recoverable_of_missing rfl rfl "phrase"
  exact stuck (everywhere _ (List.mem_cons_of_mem _ List.mem_cons_self))

end TallyKeep
