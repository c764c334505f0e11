/-
Module: TallyKeep.Proofs.CoinOwners
Layer: Proofs
Purpose: The holding that owns a coin keeps it until the holding is deleted.
Trusted boundary: none
Main exports: Owned, owned_of_step, holding_of_step
-/
import TallyKeep.Proofs.RequestSteps

namespace TallyKeep

open Relational Transition

/-- The coin belongs to a descriptor of the holding. -/
def Owned (db : Database) (outpoint : Outpoint) (holdingId : Uuid) : Prop :=
  ∃ row, db.coinAt outpoint = some row ∧ db.holdingOf row.descriptorId = some holdingId

/-- A coin has one owner. -/
theorem Owned.unique {db : Database} {outpoint : Outpoint} {first second : Uuid}
    (one : Owned db outpoint first) (two : Owned db outpoint second) : first = second := by
  obtain ⟨row, found, held⟩ := one
  obtain ⟨row', found', held'⟩ := two
  rw [found, Option.some.injEq] at found'
  rw [← found', held, Option.some.injEq] at held'
  exact held'

/-- Descriptors keep their holdings and coins keep their descriptors. -/
structure OwnersKept (db db' : Database) : Prop where
  holders : ∀ descriptorId holdingId, db.holdingOf descriptorId = some holdingId →
    db'.holdingOf descriptorId = some holdingId
  coins : ∀ outpoint row, db.coinAt outpoint = some row →
    ∃ row', db'.coinAt outpoint = some row' ∧ row'.descriptorId = row.descriptorId

namespace OwnersKept

variable {db db' db'' : Database}

theorem of_tables (sameDescriptors : db'.descriptors = db.descriptors)
    (sameUtxos : db'.utxos = db.utxos) : OwnersKept db db' := by
  refine ⟨?_, ?_⟩
  · intro descriptorId holdingId held
    rw [Database.holdingOf, sameDescriptors]
    exact held
  · intro outpoint row found
    rw [Database.coinAt, sameUtxos]
    exact ⟨row, found, rfl⟩

theorem trans (first : OwnersKept db db') (second : OwnersKept db' db'') : OwnersKept db db'' := by
  refine ⟨fun descriptorId holdingId held => second.holders _ _ (first.holders _ _ held), ?_⟩
  intro outpoint row found
  obtain ⟨row', found', same⟩ := first.coins outpoint row found
  obtain ⟨row'', found'', same'⟩ := second.coins outpoint row' found'
  exact ⟨row'', found'', same'.trans same⟩

theorem owned (kept : OwnersKept db db') {outpoint : Outpoint} {holdingId : Uuid}
    (owned : Owned db outpoint holdingId) : Owned db' outpoint holdingId := by
  obtain ⟨row, found, held⟩ := owned
  obtain ⟨row', found', same⟩ := kept.coins outpoint row found
  refine ⟨row', found', ?_⟩
  rw [same]
  exact kept.holders _ _ held

end OwnersKept

/-! ### One operation -/

theorem registerDescriptor_owners {db db' : Database} {holdingId : Uuid} {spec : DescriptorSpec}
    (run : registerDescriptor db holdingId spec = .ok db') : OwnersKept db db' := by
  simp only [registerDescriptor] at run
  split at run
  · cases run
  · split at run
    · cases run
    · cases run
      refine ⟨?_, fun outpoint row found => ⟨row, found, rfl⟩⟩
      intro descriptorId owner held
      have fresh := Table.get?_freshKey db.descriptors
      simp only [Database.holdingOf] at held ⊢
      rw [Table.get?_insert_of_fresh fresh]
      split
      · rename_i same
        have absent : db.descriptors.get? descriptorId = none := by
          rw [same]
          exact fresh
        rw [absent] at held
        cases held
      · exact held

theorem initialScan_owners {node : ScanNode} {db db' : Database} {descriptor : DescriptorRow}
    {report : ScanReport} (run : initialScan node db descriptor = .ok (db', report)) :
    OwnersKept db db' := by
  have records : RecordKeeps (OwnersKept db) node descriptor := by
    intro before address unspent after kept unknown _ run
    have recorded := recorded_of_ok unknown run
    apply kept.trans
    refine ⟨?_, ?_⟩
    · intro other owner held
      rw [recorded.holdingOf]
      exact held
    · intro outpoint row known
      rw [recorded.coins]
      split
      · rename_i here
        rw [Database.coinAt, here, unknown] at known
        cases known
      · exact ⟨row, known, rfl⟩
  obtain ⟨scanned, height, kept, rfl⟩ := initialScan_invariant records run (.of_tables rfl rfl)
  apply kept.trans
  refine ⟨?_, fun outpoint row known => ⟨row, known, rfl⟩⟩
  intro other owner held
  simp only [Database.holdingOf, Table.get?_update] at held ⊢
  split
  · rename_i same
    rw [same] at held
    simpa using held
  · exact held

theorem createInvoice_owners {db db' : Database} {order : InvoiceOrder}
    (run : createInvoice db order = .ok db') : OwnersKept db db' := by
  rw [createInvoice, bind_ok_iff] at run
  obtain ⟨address, -, run⟩ := run
  rw [bind_ok_iff] at run
  obtain ⟨invoice, -, run⟩ := run
  cases run
  exact .of_tables rfl rfl

theorem Processed.owners {db db' : Database} {tx : DecodedTx} {ctx : TxContext}
    {result : TxProcessingResult} {direction : Direction} {postings : List Posting}
    (processed : Processed db tx ctx db' result direction postings) : OwnersKept db db' := by
  refine ⟨?_, ?_⟩
  · intro descriptorId holdingId held
    rw [processed.tables]
    exact held
  · intro outpoint row found
    rw [processed.coins, found, coinAfter, recordedAt]
    split
    · exact ⟨row.markSpent tx.txid, rfl, by simp⟩
    · split
      · exact ⟨row, rfl, rfl⟩
      · exact ⟨_, rfl, by simp [DiscoveredOutput.recorded]⟩

theorem Handled.owners {db db' : Database} {tx : DecodedTx} {ctx : TxContext}
    {direction : Direction} {postings : List Posting}
    (handled : Handled db tx ctx db' direction postings) : OwnersKept db db' := by
  obtain ⟨chainDb, result, processed, tables⟩ := handled.processed
  rw [tables]
  exact processed.owners.trans (.of_tables rfl rfl)

/-- The coins of the other holdings stay when a holding is deleted. -/
theorem Owned.deletionResult {db : Database} {outpoint : Outpoint} {holdingId deleted : Uuid}
    (owned : Owned db outpoint holdingId) (other : holdingId ≠ deleted) (policyIds : List Uuid) :
    Owned (TallyKeep.deletionResult db deleted policyIds) outpoint holdingId := by
  obtain ⟨row, found, held⟩ := owned
  have notHeld : db.heldBy deleted row.descriptorId = false := by
    rw [Database.heldBy, held]
    simpa using other
  refine ⟨row, ?_, ?_⟩
  · obtain ⟨stored, here, rfl⟩ := Option.map_eq_some_iff.mp found
    rw [UtxoRow.core_descriptorId] at notHeld
    simp only [Database.coinAt, TallyKeep.deletionResult, Table.get?_delete, here,
      Option.filter_some, notHeld, Bool.not_false, if_true, Option.map_some]
  · rw [holdingOf_deletionResult, notHeld]
    exact held

variable {Psbt Tx : Type} {bdk : Bdk Psbt Tx}

/-- A coin stays with its holding, unless the operation deletes that. -/
theorem owned_of_step (bdk : Bdk Psbt Tx) {db : Database} (wellFormed : ChainWellFormed db)
    (operation : Operation) {outpoint : Outpoint} {holdingId : Uuid}
    (owned : Owned db outpoint holdingId) :
    Owned (step bdk db operation) outpoint holdingId ∨
      ∃ policyIds, step bdk db operation = deletionResult db holdingId policyIds := by
  have effect := chainEffect_of_step bdk wellFormed operation
  generalize step bdk db operation = db' at effect
  cases effect with
  | kept descriptors _ utxos => exact Or.inl ((OwnersKept.of_tables descriptors utxos).owned owned)
  | registered run => exact Or.inl ((registerDescriptor_owners run).owned owned)
  | deleted deleted policyIds =>
      by_cases own : holdingId = deleted
      · rw [own]
        exact Or.inr ⟨policyIds, rfl⟩
      · exact Or.inl (owned.deletionResult own policyIds)
  | scanned found run => exact Or.inl ((initialScan_owners run).owned owned)
  | frozen frozenAt frozen =>
      have kept : OwnersKept db (UtxoRepo.freeze db frozenAt frozen) := by
        refine ⟨fun _ _ => id, ?_⟩
        intro outpoint row found
        rw [coinAt_freeze, found]
        split
        · exact ⟨{ row with isFrozen := frozen }, rfl, rfl⟩
        · exact ⟨row, rfl, rfl⟩
      exact Or.inl (kept.owned owned)
  | invoiced run => exact Or.inl ((createInvoice_owners run).owned owned)
  | handled handled => exact Or.inl (handled.owners.owned owned)

/-- A holding that is there after an operation was there before, or is the one it registers. -/
theorem holding_of_step (bdk : Bdk Psbt Tx) {db : Database} (wellFormed : ChainWellFormed db)
    (operation : Operation) {holdingId : Uuid}
    (there : ((step bdk db operation).holdings.get? holdingId).isSome) :
    (db.holdings.get? holdingId).isSome ∨
      ∃ row, operation = .registerHolding row ∧ row.id = holdingId := by
  have same : (step bdk db operation).holdings = db.holdings →
      (db.holdings.get? holdingId).isSome := by
    intro unchanged
    rw [← unchanged]
    exact there
  by_cases leaves : operation.LeavesRoster
  · exact Or.inl (same (roster_of_step bdk db leaves).1)
  · cases operation with
    | registerHolding row =>
        by_cases own : row.id = holdingId
        · exact Or.inr ⟨row, rfl, own⟩
        · apply Or.inl
          rw [Table.get?_isSome_iff] at there ⊢
          simp only [step, perform, Table.insert] at there
          split at there
          · exact there
          · simp only [List.map_append, List.map_cons, List.map_nil, List.mem_append,
              List.mem_singleton] at there
            rcases there with old | new
            · exact old
            · exact absurd new.symm own
    | changeHolding changed holdingType purpose declaredSigningModel =>
        apply Or.inl
        simp only [step, perform, changeHolding, Table.get?_update] at there
        split at there
        · rename_i here
          rw [here]
          simpa using there
        · exact there
    | deleteHolding deleted policyIds =>
        apply Or.inl
        cases run : deleteHolding db deleted policyIds with
        | error error =>
            simp only [step, perform, run, commitOrRollback] at there
            exact there
        | ok db' =>
            simp only [step, perform, run, commitOrRollback, deleteHolding_ok run, deletionResult,
              Table.get?_delete] at there
            cases found : db.holdings.get? holdingId with
            | none =>
                rw [found] at there
                cases there
            | some row => rfl
    | createSweepExecution row => exact Or.inl there
    | updateSweepExecution executionId status withdrawalId expectedTxid confirmedTxid error
        completedAt => exact Or.inl there
    | handleTx tx ctx =>
        refine Or.inl (same ?_)
        apply commitOrRollback_invariant (I := fun db' => db'.holdings = db.holdings) rfl
        intro db' run
        obtain ⟨events, run⟩ := map_fst_ok run
        obtain ⟨-, direction, postings, handled⟩ := handled_of_ok wellFormed run
        obtain ⟨chainDb, result, processed, tables⟩ := handled.processed
        rw [tables, processed.tables]
    | _ => exact absurd trivial leaves

end TallyKeep
