/-
Module: TallyKeep.Proofs.Heights
Layer: Proofs
Purpose: The two places where the height of a transaction is stored, and the calls after which they
  still agree.
Trusted boundary: none
Main exports: OneHeight, ChainCall, ChainStep, DeliveryAgrees, ScanAgreesOn, AgreesAt,
  oneHeight_of_run, oneHeight_processed_iff
-/
import TallyKeep.Proofs.Confirmation

namespace TallyKeep

open Relational Transition

/-- The height that the transaction row has, if there is a row. -/
def recordedHeight (db : Database) (txid : Txid) : Option (Option Nat) :=
  (db.onchainTransactions.get? txid).map OnChainTransactionRow.confirmationHeight

/-- Every coin has a transaction row, and its height. -/
def OneHeight (db : Database) : Prop :=
  ∀ coin ∈ db.utxos.rows, recordedHeight db coin.outpoint.txid = some coin.confirmationHeight

theorem oneHeight_iff {db : Database} :
    OneHeight db ↔ ∀ outpoint coin, db.coinAt outpoint = some coin →
      recordedHeight db outpoint.txid = some coin.confirmationHeight := by
  constructor
  · intro agree outpoint coin found
    obtain ⟨row, here, rfl⟩ := Option.map_eq_some_iff.mp found
    rw [← Database.outpoint_of_get? here]
    exact agree row (Table.mem_of_get? here)
  · intro agree coin stored
    exact agree coin.outpoint coin.core (Database.coinAt_of_mem stored)

/-! ### The calls -/

/-- An operation of the program, or a bare call of `process_decoded_transaction` that is
    committed. -/
inductive ChainCall where
  | operate (operation : Operation)
  | deliver (delivery : Delivery)

variable {Psbt Tx : Type}

/-- The committed database after a call. -/
def chainCall (bdk : Bdk Psbt Tx) (db : Database) : ChainCall → Database
  | .operate operation => step bdk db operation
  | .deliver delivery => (commitOrRollback db (deliver db delivery)).1

/-- bitcoind tells the truth. -/
def ChainCall.Truthful (chain : Chain) : ChainCall → Prop
  | .operate operation => Legal chain operation
  | .deliver delivery => delivery.tx = chain.txOf delivery.tx.txid

/-- One call with a truthful node. -/
def ChainStep (bdk : Bdk Psbt Tx) (chain : Chain) : Database → ChainCall → Database → Prop :=
  guarded (stepOf (chainCall bdk)) fun _ call => call.Truthful chain

/-! ### The condition -/

/-- A transaction whose row has a height is delivered at this height, or at another one while it has
    no coin, or for the mempool without a coin that is new. -/
def DeliveryAgrees (db : Database) (tx : DecodedTx) (confirmationHeight : Option Nat) : Prop :=
  Touches db tx → ∀ before, recordedHeight db tx.txid = some (some before) →
    match confirmationHeight with
    | some height => height = before ∨ ∀ coin ∈ db.utxos.rows, coin.outpoint.txid ≠ tx.txid
    | none => ¬DiscoversCoin db tx

/-- A coin that the scan reports and that is not known has the height of every coin of its
    transaction, known or newly reported. -/
def ScanAgreesOn (db : Database) (node : ScanNode) (descriptor : DescriptorRow) : Prop :=
  ∀ unspent address, Reported db node descriptor unspent address →
    db.utxos.get? ⟨unspent.txid, unspent.vout⟩ = none →
      (∀ coin ∈ db.utxos.rows, coin.outpoint.txid = unspent.txid →
        coin.confirmationHeight = unspent.confirmationHeight) ∧
      ∀ other address', Reported db node descriptor other address' →
        db.utxos.get? ⟨other.txid, other.vout⟩ = none → other.txid = unspent.txid →
          other.confirmationHeight = unspent.confirmationHeight

/-- The condition on one call.  A phase of the listener that raises writes nothing. -/
def AgreesAt (db : Database) : ChainCall → Prop
  | .deliver delivery => DeliveryAgrees db delivery.tx delivery.ctx.confirmationHeight
  | .operate (.handleTx tx ctx) =>
      LookupsUnique db tx ctx.confirmationHeight.isSome →
        DeliveryAgrees db tx ctx.confirmationHeight
  | .operate (.scanDescriptor node descriptorId) =>
      ∀ descriptor, db.descriptors.get? descriptorId = some descriptor →
        ScanAgreesOn db node descriptor
  | .operate _ => True

/-! ### The transaction row -/

theorem recordedHeight_upsert (db : Database) (txid : Txid) (rawHex : Option String)
    (height : Option Nat) (blockTime : Option Timestamp) (other : Txid) :
    recordedHeight (OnchainRepo.upsert db txid rawHex height blockTime) other =
      if other = txid then some (height.or (recordedHeight db txid).join)
      else recordedHeight db other := by
  rw [recordedHeight, recordedHeight, recordedHeight, OnchainRepo.upsert]
  cases known : db.onchainTransactions.get? txid with
  | none =>
      have fresh : db.onchainTransactions.get?
          (key (OnChainTransactionRow.mk txid rawHex height blockTime)) = none := known
      simp only [Table.get?_insert_of_fresh fresh]
      change Option.map _ (if other = txid then _ else _) = _
      split <;> simp
  | some row =>
      simp only [Table.get?_update, known, Option.map_some]
      split <;> rfl

theorem recordedHeight_congr {db db' : Database}
    (same : db'.onchainTransactions = db.onchainTransactions) (txid : Txid) :
    recordedHeight db' txid = recordedHeight db txid := by
  rw [recordedHeight, same, recordedHeight]

/-- Coins that stay, possibly fewer, next to transaction rows that stay. -/
theorem OneHeight.of_coins {db db' : Database} (agree : OneHeight db)
    (onchain : db'.onchainTransactions = db.onchainTransactions)
    (coins : ∀ outpoint coin, db'.coinAt outpoint = some coin →
      ∃ before, db.coinAt outpoint = some before ∧
        coin.confirmationHeight = before.confirmationHeight) : OneHeight db' := by
  rw [oneHeight_iff] at agree ⊢
  intro outpoint coin found
  obtain ⟨before, known, same⟩ := coins outpoint coin found
  rw [recordedHeight_congr onchain, same]
  exact agree outpoint before known

theorem OneHeight.of_tables {db db' : Database} (agree : OneHeight db)
    (onchain : db'.onchainTransactions = db.onchainTransactions) (utxos : db'.utxos = db.utxos) :
    OneHeight db' := by
  apply agree.of_coins onchain
  intro outpoint coin found
  rw [Database.coinAt, utxos] at found
  exact ⟨coin, found, rfl⟩

/-! ### Deliveries -/

section Deliveries

variable {chain : Chain} {db db' : Database} {tx : DecodedTx} {ctx : TxContext}
  {result : TxProcessingResult} {direction : Direction} {postings : List Posting}

/-- The height of a transaction row after a delivery that touches the wallet. -/
theorem Processed.recordedHeight_of_touches
    (processed : Processed db tx ctx db' result direction postings) (touched : Touches db tx)
    (txid : Txid) :
    recordedHeight db' txid =
      if txid = tx.txid then some (ctx.confirmationHeight.or (recordedHeight db tx.txid).join)
      else recordedHeight db txid := by
  rw [← recordedHeight_upsert db tx.txid tx.rawHex ctx.confirmationHeight ctx.blockTime txid]
  exact recordedHeight_congr (processed.onchainTouched touched) txid

/-- Transaction rows of other transactions keep their height. -/
theorem Processed.recordedHeight_of_other
    (processed : Processed db tx ctx db' result direction postings) {txid : Txid}
    (other : txid ≠ tx.txid) : recordedHeight db' txid = recordedHeight db txid := by
  by_cases touched : Touches db tx
  · rw [processed.recordedHeight_of_touches touched, if_neg other]
  · exact recordedHeight_congr (processed.onchainUntouched touched) txid

/-- A coin of another transaction keeps its height. -/
theorem Processed.height_of_other (processed : Processed db tx ctx db' result direction postings)
    {outpoint : Outpoint} (other : outpoint.txid ≠ tx.txid) {coin : UtxoRow}
    (found : db'.coinAt outpoint = some coin) :
    ∃ before, db.coinAt outpoint = some before ∧
      coin.confirmationHeight = before.confirmationHeight := by
  rw [processed.coins, coinAfter] at found
  split at found
  · obtain ⟨before, known, rfl⟩ := Option.map_eq_some_iff.mp found
    refine ⟨before, known, ?_⟩
    rw [UtxoRow.markSpent]
    split <;> rfl
  · have elsewhere : (discoverOutputs db ctx.rowOrder tx).find? (fun output =>
        (⟨tx.txid, output.vout⟩ : Outpoint) = outpoint) = none := by
      apply List.find?_eq_none.mpr
      intro output _ same
      exact other (congrArg Outpoint.txid (of_decide_eq_true same)).symm
    rw [recordedAt, elsewhere] at found
    exact ⟨coin, found, rfl⟩

/-- A coin of the transaction, from the coin before: found again or not, or new. -/
theorem Processed.height_of_own (processed : Processed db tx ctx db' result direction postings)
    {vout : Nat} {coin : UtxoRow} (found : db'.coinAt ⟨tx.txid, vout⟩ = some coin) :
    (db.coinAt ⟨tx.txid, vout⟩ = some coin ∧
        ∀ output ∈ watchedOutputs db tx, output.vout ≠ vout) ∨
      (∃ output ∈ watchedOutputs db tx, output.vout = vout) ∧
        ((db.coinAt ⟨tx.txid, vout⟩ = none ∧ coin.confirmationHeight = ctx.confirmationHeight) ∨
          ∃ before, db.coinAt ⟨tx.txid, vout⟩ = some before ∧
            coin.confirmationHeight = before.confirmationHeight.or ctx.confirmationHeight) := by
  rw [processed.coins, coinAfter, if_neg (tx.own_not_mem_prevouts vout), recordedAt] at found
  cases here : (discoverOutputs db ctx.rowOrder tx).find? fun output =>
      (⟨tx.txid, output.vout⟩ : Outpoint) = ⟨tx.txid, vout⟩ with
  | none =>
      rw [here] at found
      refine .inl ⟨found, ?_⟩
      intro output watched same
      have listed := (discoverOutputs_perm db ctx.rowOrder tx).mem_iff.mpr watched
      exact List.find?_eq_none.mp here output listed (decide_eq_true (by rw [same]))
  | some output =>
      rw [here] at found
      have place : (⟨tx.txid, output.vout⟩ : Outpoint) = ⟨tx.txid, vout⟩ := by
        simpa using List.find?_some here
      have watched := (discoverOutputs_perm db ctx.rowOrder tx).mem_iff.mp
        (List.mem_of_find?_eq_some here)
      refine .inr ⟨⟨output, watched, congrArg Outpoint.vout place⟩, ?_⟩
      cases known : db.coinAt ⟨tx.txid, vout⟩ with
      | none =>
          rw [known] at found
          exact .inl ⟨rfl, congrArg UtxoRow.confirmationHeight (Option.some.inj found).symm⟩
      | some before =>
          rw [known] at found
          refine .inr ⟨before, rfl, ?_⟩
          rw [← before.refreshHeight_confirmationHeight]
          exact congrArg UtxoRow.confirmationHeight (Option.some.inj found).symm

/-- A coin of the transaction is a stored one. -/
theorem exists_coin_of_own {vout : Nat} {coin : UtxoRow}
    (known : db.coinAt ⟨tx.txid, vout⟩ = some coin) :
    ∃ row ∈ db.utxos.rows, row.outpoint.txid = tx.txid := by
  obtain ⟨row, stored, -⟩ := Option.map_eq_some_iff.mp known
  exact ⟨row, Table.mem_of_get? stored,
    congrArg Outpoint.txid (Database.outpoint_of_get? stored)⟩

/-- Where an agreeing delivery finds a coin of the transaction with a height, it has no other
    one. -/
theorem DeliveryAgrees.or_eq (agrees : DeliveryAgrees db tx ctx.confirmationHeight)
    (touched : Touches db tx) {vout old : Nat} {coin : UtxoRow}
    (known : db.coinAt ⟨tx.txid, vout⟩ = some coin)
    (recorded : recordedHeight db tx.txid = some (some old)) :
    ctx.confirmationHeight.or (some old) = some old := by
  have condition := agrees touched old recorded
  cases delivered : ctx.confirmationHeight with
  | none => rfl
  | some height =>
      rw [delivered] at condition
      rcases condition with same | nothing
      · rw [same]
        rfl
      · obtain ⟨row, stored, own⟩ := exists_coin_of_own known
        exact absurd own (nothing row stored)

/-- A delivery that agrees keeps one height per transaction. -/
theorem OneHeight.processed (agree : OneHeight db) (sound : Sound chain db)
    (told : tx = chain.txOf tx.txid)
    (processed : Processed db tx ctx db' result direction postings)
    (agrees : DeliveryAgrees db tx ctx.confirmationHeight) : OneHeight db' := by
  rw [oneHeight_iff] at agree ⊢
  intro outpoint coin found
  by_cases own : outpoint.txid = tx.txid
  · obtain ⟨txid, vout⟩ := outpoint
    simp only at own
    subst own
    by_cases touched : Touches db tx
    · rw [processed.recordedHeight_of_touches touched, if_pos rfl]
      rcases processed.height_of_own found with ⟨known, nowhere⟩ |
        ⟨⟨output, watched, place⟩, ⟨new, same⟩ | ⟨before, known, same⟩⟩
      · -- The coin was there and is not found again, so it had a height already.
        have recorded : recordedHeight db tx.txid = some coin.confirmationHeight := agree _ _ known
        cases height : coin.confirmationHeight with
        | none =>
            obtain ⟨output, watched, place⟩ := sound.mem_watchedOutputs told known height
            exact absurd place (nowhere output watched)
        | some old =>
            rw [height] at recorded
            rw [recorded, Option.join_some, agrees.or_eq touched known recorded]
      · -- The coin is new.
        rw [same]
        cases delivered : ctx.confirmationHeight with
        | some height => rfl
        | none =>
            rcases recorded : recordedHeight db tx.txid with _ | _ | old
            · rfl
            · rfl
            · have condition := agrees touched old recorded
              rw [delivered] at condition
              rw [← place] at new
              exact absurd ⟨output, watched, new⟩ condition
      · -- The coin was there and is found again.
        have recorded : recordedHeight db tx.txid = some before.confirmationHeight :=
          agree _ _ known
        rw [same, recorded, Option.join_some]
        cases height : before.confirmationHeight with
        | none => simp
        | some old =>
            rw [height] at recorded
            rw [agrees.or_eq touched known recorded]
            rfl
    · rcases processed.height_of_own found with ⟨known, -⟩ | ⟨⟨output, watched, -⟩, -⟩
      · rw [recordedHeight_congr (processed.onchainUntouched touched)]
        exact agree _ _ known
      · exact absurd (Or.inr (List.ne_nil_of_mem watched)) touched
  · obtain ⟨before, known, same⟩ := processed.height_of_other own found
    rw [processed.recordedHeight_of_other own, same]
    exact agree outpoint before known

/-- The coins of the transaction afterwards: those before, and those found. -/
theorem Processed.own_isSome_iff (processed : Processed db tx ctx db' result direction postings)
    (vout : Nat) :
    (db'.coinAt ⟨tx.txid, vout⟩).isSome ↔
      (db.coinAt ⟨tx.txid, vout⟩).isSome ∨ ∃ output ∈ watchedOutputs db tx, output.vout = vout := by
  rw [processed.coins, coinAfter, if_neg (tx.own_not_mem_prevouts vout), recordedAt]
  cases here : (discoverOutputs db ctx.rowOrder tx).find? fun output =>
      (⟨tx.txid, output.vout⟩ : Outpoint) = ⟨tx.txid, vout⟩ with
  | none =>
      simp only [iff_self_or, forall_exists_index, and_imp]
      intro output watched same
      have listed := (discoverOutputs_perm db ctx.rowOrder tx).mem_iff.mpr watched
      exact absurd (decide_eq_true (by rw [same])) (List.find?_eq_none.mp here output listed)
  | some output =>
      have place : (⟨tx.txid, output.vout⟩ : Outpoint) = ⟨tx.txid, vout⟩ := by
        simpa using List.find?_some here
      have watched := (discoverOutputs_perm db ctx.rowOrder tx).mem_iff.mp
        (List.mem_of_find?_eq_some here)
      simp only [Option.isSome_some, true_iff]
      exact .inr ⟨output, watched, congrArg Outpoint.vout place⟩

/-- A delivery keeps one height per transaction exactly when it agrees. -/
theorem oneHeight_processed_iff (agree : OneHeight db) (sound : Sound chain db)
    (told : tx = chain.txOf tx.txid)
    (processed : Processed db tx ctx db' result direction postings) :
    OneHeight db' ↔ DeliveryAgrees db tx ctx.confirmationHeight := by
  constructor
  · intro after touched old recorded
    rw [oneHeight_iff] at agree after
    have written := processed.recordedHeight_of_touches touched tx.txid
    rw [if_pos rfl, recorded, Option.join_some] at written
    cases delivered : ctx.confirmationHeight with
    | none =>
        intro ⟨output, watched, new⟩
        obtain ⟨coin, found⟩ := Option.isSome_iff_exists.mp
          ((processed.own_isSome_iff output.vout).mpr (.inr ⟨output, watched, rfl⟩))
        have height := after _ _ found
        rw [written, delivered, Option.none_or, Option.some.injEq] at height
        rcases processed.height_of_own found with ⟨known, -⟩ | ⟨-, ⟨-, same⟩ | ⟨before, known, -⟩⟩
        · rw [new] at known
          cases known
        · rw [same, delivered] at height
          cases height
        · rw [new] at known
          cases known
    | some height =>
        by_cases bare : ∀ coin ∈ db.utxos.rows, coin.outpoint.txid ≠ tx.txid
        · exact .inr bare
        · simp only [not_forall, not_not] at bare
          obtain ⟨row, stored, own⟩ := bare
          have known := Database.coinAt_of_mem stored
          have place : row.outpoint = ⟨tx.txid, row.outpoint.vout⟩ := by rw [← own]
          rw [place] at known
          have oldHeight := agree _ _ known
          rw [recorded, Option.some.injEq] at oldHeight
          obtain ⟨coin, found⟩ := Option.isSome_iff_exists.mp
            ((processed.own_isSome_iff row.outpoint.vout).mpr (.inl (by rw [known]; rfl)))
          have newHeight := after _ _ found
          rw [written, delivered, Option.some_or, Option.some.injEq] at newHeight
          have kept : coin.confirmationHeight = some old := by
            rcases processed.height_of_own found with ⟨same, -⟩ |
              ⟨-, ⟨new, -⟩ | ⟨before, same, heights⟩⟩
            · rw [known, Option.some.injEq] at same
              rw [← same, ← oldHeight]
            · rw [known] at new
              cases new
            · rw [known, Option.some.injEq] at same
              rw [heights, ← same, ← oldHeight]
              rfl
          rw [kept] at newHeight
          exact .inl (Option.some.inj newHeight)
  · exact agree.processed sound told processed

end Deliveries

/-! ### Scans -/

/-- A scan that agrees keeps one height per transaction. -/
theorem OneHeight.initialScan {db db' : Database} {node : ScanNode} {descriptor : DescriptorRow}
    {report : ScanReport} (agree : OneHeight db)
    (positive : ∀ expression result, node.scanDescriptors expression = .ok result →
      ∀ unspent ∈ result.utxos, 0 < unspent.height)
    (agrees : ScanAgreesOn db node descriptor)
    (run : TallyKeep.initialScan node db descriptor = .ok (db', report)) : OneHeight db' := by
  -- Beside the heights, the loop keeps that what it may still record agrees with what is there.
  let invariant : Database → Prop := fun current =>
    OneHeight current ∧
      (∀ outpoint, current.coinAt outpoint = none → db.coinAt outpoint = none) ∧
      ∀ unspent address, Reported db node descriptor unspent address →
        db.utxos.get? ⟨unspent.txid, unspent.vout⟩ = none →
          ∀ outpoint coin, current.coinAt outpoint = some coin → outpoint.txid = unspent.txid →
            coin.confirmationHeight = unspent.confirmationHeight
  have records : ReportKeeps invariant db node descriptor := by
    intro current address unspent after ⟨heights, known, awaiting⟩ unknown reported run
    have recorded := recorded_of_ok unknown run
    have new : db.utxos.get? ⟨unspent.txid, unspent.vout⟩ = none :=
      Database.coinAt_eq_none_iff.mp (known _ (Database.coinAt_eq_none_iff.mpr unknown))
    have confirmed : unspent.confirmationHeight = some unspent.height := by
      obtain ⟨branch, -, result, answer, listed, -⟩ := reported
      exact if_neg (positive _ result answer unspent listed).ne'
    refine ⟨?_, ?_, ?_⟩
    · rw [oneHeight_iff] at heights ⊢
      intro outpoint coin found
      rw [recordedHeight_congr recorded.onchainTransactions, recordedHeight_upsert]
      rw [recorded.coins] at found
      split at found
      · rename_i here
        cases found
        rw [if_pos (congrArg Outpoint.txid here), confirmed]
        rfl
      · split
        · rename_i same
          rw [awaiting unspent address reported new outpoint coin found same, confirmed]
          rfl
        · exact heights outpoint coin found
    · intro outpoint absent
      rw [recorded.coins] at absent
      split at absent
      · cases absent
      · exact known outpoint absent
    · intro other address' otherReported otherNew outpoint coin found same
      rw [recorded.coins] at found
      split at found
      · rename_i here
        cases found
        have sameTx : other.txid = unspent.txid := by
          rw [← same, here]
        exact ((agrees unspent address reported new).2 other address' otherReported otherNew
          sameTx).symm
      · exact awaiting other address' otherReported otherNew outpoint coin found same
  have start : invariant db := by
    refine ⟨agree, fun _ => id, ?_⟩
    intro unspent address reported new outpoint coin found same
    obtain ⟨row, stored, rfl⟩ := Option.map_eq_some_iff.mp found
    apply (agrees unspent address reported new).1 row (Table.mem_of_get? stored)
    rw [Database.outpoint_of_get? stored]
    exact same
  obtain ⟨scanned, height, kept, rfl⟩ := initialScan_reports records run start
  exact kept.1.of_tables rfl rfl

/-! ### Every call -/

theorem OneHeight.handled {chain : Chain} {db db' : Database} {tx : DecodedTx} {ctx : TxContext}
    {direction : Direction} {postings : List Posting} (agree : OneHeight db)
    (sound : Sound chain db) (told : tx = chain.txOf tx.txid)
    (handled : Handled db tx ctx db' direction postings)
    (agrees : DeliveryAgrees db tx ctx.confirmationHeight) : OneHeight db' := by
  obtain ⟨chainDb, result, processed, tables⟩ := handled.processed
  rw [tables]
  exact (agree.processed sound told processed agrees).of_tables rfl rfl

variable {bdk : Bdk Psbt Tx} {chain : Chain}

theorem OneHeight.operate {db : Database} (agree : OneHeight db) (sound : Sound chain db)
    {operation : Operation} (legal : Legal chain operation)
    (agrees : AgreesAt db (.operate operation)) : OneHeight (step bdk db operation) := by
  have effect := chainEffect_of_step bdk sound.wellFormed operation
  have completes : ∀ tx ctx, operation = .handleTx tx ctx →
      step bdk db operation = db ∨ LookupsUnique db tx ctx.confirmationHeight.isSome := by
    rintro tx ctx rfl
    cases run : handleTxDb db tx ctx with
    | error error =>
        apply Or.inl
        simp only [step, perform, run, Except.map, commitOrRollback]
    | ok out =>
        exact .inr ((handleTxDb_completes_iff sound.wellFormed tx ctx).mp ⟨out, run⟩)
  generalize step bdk db operation = db' at effect completes
  cases effect with
  | kept _ _ utxos onchain => exact agree.of_tables onchain utxos
  | registered run =>
      simp only [registerDescriptor] at run
      split at run
      · cases run
      · split at run
        · cases run
        · cases run
          exact agree.of_tables rfl rfl
  | deleted holdingId policyIds =>
      have onchain : (deletionResult db holdingId policyIds).onchainTransactions =
          db.onchainTransactions := rfl
      apply agree.of_coins onchain
      intro outpoint coin found
      exact ⟨coin, (coinAt_deletionResult found).1, rfl⟩
  | @scanned node descriptor _ _ found run =>
      exact agree.initialScan legal (agrees descriptor found) run
  | frozen frozenAt frozen =>
      have onchain : (UtxoRepo.freeze db frozenAt frozen).onchainTransactions =
          db.onchainTransactions := rfl
      apply agree.of_coins onchain
      intro outpoint coin found
      rw [coinAt_freeze] at found
      split at found
      · obtain ⟨before, known, rfl⟩ := Option.map_eq_some_iff.mp found
        exact ⟨before, known, rfl⟩
      · exact ⟨coin, found, rfl⟩
  | invoiced run =>
      rw [createInvoice, bind_ok_iff] at run
      obtain ⟨address, -, run⟩ := run
      rw [bind_ok_iff] at run
      obtain ⟨invoice, -, run⟩ := run
      cases run
      exact agree.of_tables rfl rfl
  | @handled tx ctx _ _ _ handled =>
      rcases completes tx ctx rfl with same | unique
      · rw [same]
        exact agree
      · exact agree.handled sound legal handled (agrees unique)

theorem Sound.chainCall {db : Database} (sound : Sound chain db) {call : ChainCall}
    (truthful : call.Truthful chain) : Sound chain (chainCall bdk db call) := by
  cases call with
  | operate operation =>
      have taken : SystemStep bdk chain db operation (step bdk db operation) := ⟨truthful, rfl⟩
      exact sound_step db operation _ sound taken
  | deliver delivery =>
      apply commitOrRollback_invariant sound
      intro db' run
      obtain ⟨after, result, direction, postings, returns, processed⟩ :=
        processDecodedTransaction_spec sound.wellFormed delivery.tx delivery.ctx
      rw [deliver, returns] at run
      cases run
      exact sound.processed processed truthful

theorem OneHeight.chainCall {db : Database} (agree : OneHeight db) (sound : Sound chain db)
    {call : ChainCall} (truthful : call.Truthful chain) (agrees : AgreesAt db call) :
    OneHeight (chainCall bdk db call) := by
  cases call with
  | operate operation => exact agree.operate sound truthful agrees
  | deliver delivery =>
      apply commitOrRollback_invariant agree
      intro db' run
      obtain ⟨after, result, direction, postings, returns, processed⟩ :=
        processDecodedTransaction_spec sound.wellFormed delivery.tx delivery.ctx
      rw [deliver, returns] at run
      cases run
      exact agree.processed sound truthful processed agrees

/-- In every run whose calls all agree, from an empty database on, every coin has the height of its
    transaction row. -/
theorem oneHeight_of_run {calls : List ChainCall} {db : Database}
    (run : Run (guarded (ChainStep bdk chain) AgreesAt) Database.empty calls db) :
    OneHeight db := by
  have both : Sound chain db ∧ OneHeight db := by
    apply run.invariant
    · intro db call db' ⟨sound, agree⟩ ⟨agrees, truthful, taken⟩
      rw [taken]
      exact ⟨sound.chainCall truthful, agree.chainCall sound truthful agrees⟩
    · refine ⟨.ofEmpty chain, ?_⟩
      intro coin stored
      cases stored
  exact both.2

/-! ### A payment that is confirmed once, and one that is confirmed again -/

/-- The setup of the sample holdings, and then deliveries of the sample payment. -/
def paymentCalls (heights : List (Option Nat)) : List ChainCall :=
  (setupOperations 10 20).map .operate ++
    heights.map fun height => .deliver ⟨samplePayment, sampleCall height⟩

/-- The database after them. -/
def paymentHeights (heights : List (Option Nat)) : Database :=
  (paymentCalls heights).foldl (chainCall sampleBdk) Database.empty

theorem paymentCalls_truthful (heights : List (Option Nat)) :
    ∀ call ∈ paymentCalls heights, call.Truthful sampleChain := by
  intro call member
  rcases List.mem_append.mp member with setup | delivery
  · simp only [setupOperations, List.map_cons, List.map_nil, List.mem_cons, List.not_mem_nil,
      or_false] at setup
    rcases setup with rfl | rfl | rfl | rfl <;> exact trivial
  · obtain ⟨height, -, rfl⟩ := List.mem_map.mp delivery
    exact sampleChain_payment

/-- Nothing is asked of the setup. -/
theorem paymentHeights_setup : Run (guarded (ChainStep sampleBdk sampleChain) AgreesAt)
    Database.empty (paymentCalls []) (paymentHeights []) := by
  have agrees : ∀ call ∈ paymentCalls [],
      call.Truthful sampleChain ∧ ∀ db, AgreesAt db call := by
    intro call member
    refine ⟨paymentCalls_truthful [] call member, ?_⟩
    simp only [paymentCalls, setupOperations, List.map_cons, List.map_nil, List.append_nil,
      List.mem_cons, List.not_mem_nil, or_false] at member
    rcases member with rfl | rfl | rfl | rfl <;> exact fun _ => trivial
  apply Run.mono _ (Run.of_guarded (chainCall sampleBdk) agrees Database.empty)
  rintro db call db' ⟨⟨truthful, agrees⟩, taken⟩
  exact ⟨agrees db, truthful, taken⟩

/-- From the mempool into a block: one height. -/
theorem oneHeight_of_run_confirmed : OneHeight (paymentHeights [none, some 100]) := by
  have seen : DeliveryAgrees (paymentHeights []) samplePayment none := by
    intro _ before recorded
    have unrecorded : recordedHeight (paymentHeights []) samplePayment.txid = none := by
      decide
    rw [unrecorded] at recorded
    cases recorded
  have confirmed : DeliveryAgrees (paymentHeights [none]) samplePayment (some 100) := by
    intro _ before recorded
    have waits : recordedHeight (paymentHeights [none]) samplePayment.txid = some none := by
      decide +kernel
    rw [waits] at recorded
    cases recorded
  have first : guarded (ChainStep sampleBdk sampleChain) AgreesAt (paymentHeights [])
      (.deliver ⟨samplePayment, sampleCall none⟩) (paymentHeights [none]) :=
    ⟨seen, sampleChain_payment, rfl⟩
  have second : guarded (ChainStep sampleBdk sampleChain) AgreesAt (paymentHeights [none])
      (.deliver ⟨samplePayment, sampleCall (some 100)⟩) (paymentHeights [none, some 100]) :=
    ⟨confirmed, sampleChain_payment, rfl⟩
  apply oneHeight_of_run
  exact paymentHeights_setup.append (.cons first (.single second))

/-- Confirmed at 100 and after a reorganisation at 101: the row has 101 and the coin still 100. -/
theorem not_oneHeight_of_reconfirmation :
    Run (ChainStep sampleBdk sampleChain) Database.empty (paymentCalls [some 100, some 101])
        (paymentHeights [some 100, some 101]) ∧
      ¬OneHeight (paymentHeights [some 100, some 101]) := by
  refine ⟨Run.of_guarded (chainCall sampleBdk) (paymentCalls_truthful _) Database.empty, ?_⟩
  intro agree
  have differs : ∃ coin ∈ (paymentHeights [some 100, some 101]).utxos.rows,
      recordedHeight (paymentHeights [some 100, some 101]) coin.outpoint.txid ≠
        some coin.confirmationHeight := by
    decide +kernel
  obtain ⟨coin, stored, different⟩ := differs
  exact different (agree coin stored)

end TallyKeep
