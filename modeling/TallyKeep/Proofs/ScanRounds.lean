/-
Module: TallyKeep.Proofs.ScanRounds
Layer: Proofs
Purpose: A snapshot scan as one loop over the coins that the node reports: what every round keeps in
  terms of the coins seen so far, the scan keeps, and it returns when every round does.
Trusted boundary: none
Main exports: Answers, reportedCoins, withScannedHeight, scannedHeight, ScanInvariant,
  initialScan_processed, initialScan_returns_of_rounds
-/
import TallyKeep.Proofs.ChainScan

namespace TallyKeep

open Relational

/-- The node gives an answer for every branch, be it that it refuses the descriptor. -/
def Answers (node : ScanNode) (descriptor : DescriptorRow) : Prop :=
  ∀ branch ∈ descriptor.branches, ∀ message,
    node.scanDescriptors branch.2 ≠ .error (.unavailable message)

/-- The coins of the answer for an expression. -/
def answeredCoins (node : ScanNode) (expression : String) : List ScanUtxo :=
  match node.scanDescriptors expression with
  | .error _ => []
  | .ok result => result.utxos

/-- The coins of one branch, with the branch. -/
def coinsOfBranch (node : ScanNode) (branch : Bool × String) : List (Bool × ScanUtxo) :=
  (answeredCoins node branch.2).map (Prod.mk branch.1)

/-- The reported coins in scan order, each with the branch that it is reported for. -/
def reportedCoins (node : ScanNode) (descriptor : DescriptorRow) : List (Bool × ScanUtxo) :=
  descriptor.branches.flatMap (coinsOfBranch node)

/-- The descriptor as the scan leaves it. -/
def withScannedHeight (db : Database) (descriptorId : Uuid) (height : Nat) : Database :=
  { db with
    descriptors := db.descriptors.update descriptorId fun row =>
      { row with lastScannedHeight := max row.lastScannedHeight height } }

/-- The height that the answer for a branch counts for. -/
def branchHeight (node : ScanNode) (branch : Bool × String) : Nat :=
  match node.scanDescriptors branch.2 with
  | .error _ => 1
  | .ok result => result.heightAtScan

/-- The chain height that the answers come to. -/
def scannedHeight (node : ScanNode) (branches : List (Bool × String)) : Nat :=
  (branches.map (branchHeight node)).foldl max 0

/-- What holds of the progress after some of the reported coins, whatever the height. -/
structure ScanInvariant (I : List (Bool × ScanUtxo) → ScanProgress → Prop) (db : Database) :
    Prop where
  start : I [] ⟨db, 0, 0, 0, 0⟩
  height : ∀ seen progress height, I seen progress → I seen { progress with heightAtScan := height }

section Rounds

variable {I : List (Bool × ScanUtxo) → ScanProgress → Prop} {node : ScanNode} {db db' : Database}
  {descriptor : DescriptorRow} {report : ScanReport}

theorem coinsOfBranch_ok {branch : Bool × String} {result : ScanResult}
    (answer : node.scanDescriptors branch.2 = .ok result) :
    coinsOfBranch node branch = result.utxos.map (Prod.mk branch.1) := by
  rw [coinsOfBranch, answeredCoins, answer]

theorem coinsOfBranch_error {branch : Bool × String} {error : NodeError}
    (answer : node.scanDescriptors branch.2 = .error error) :
    coinsOfBranch node branch = [] := by
  rw [coinsOfBranch, answeredCoins, answer]
  rfl

theorem flatMap_coinsOfBranch_concat (branches : List (Bool × String)) (branch : Bool × String) :
    (branches ++ [branch]).flatMap (coinsOfBranch node) =
      branches.flatMap (coinsOfBranch node) ++ coinsOfBranch node branch := by
  rw [List.flatMap_append, List.flatMap_singleton]

theorem ScanInvariant.noBranch (invariant : ScanInvariant I db) :
    I (([] : List (Bool × String)).flatMap (coinsOfBranch node)) ⟨db, 0, 0, 0, 0⟩ :=
  invariant.start

theorem scanUnspent_height {isChange : Bool} {unspent : ScanUtxo} {progress progress' : ScanProgress}
    (run : scanUnspent node db descriptor isChange progress unspent = .ok progress') :
    progress'.heightAtScan = progress.heightAtScan := by
  rw [scanUnspent] at run
  split at run
  · cases run
    rfl
  · split at run
    · cases run
      rfl
    · rw [bind_ok_iff] at run
      obtain ⟨db', -, run⟩ := run
      cases run
      rfl

theorem scanBranch_height {branch : Bool × String} {progress progress' : ScanProgress}
    (run : scanBranch node db descriptor progress branch = .ok progress') :
    progress'.heightAtScan = max progress.heightAtScan (branchHeight node branch) := by
  rw [scanBranch] at run
  rw [branchHeight]
  split at run
  · rename_i answer
    cases run
    rw [answer]
  · cases run
  · rename_i result answer
    rw [answer]
    exact foldlM_invariant (I := fun s => s.heightAtScan = max progress.heightAtScan
      result.heightAtScan)
      (fun s unspent _ s' step held => (scanUnspent_height held).trans step) run rfl

theorem scannedHeight_concat (branches : List (Bool × String)) (branch : Bool × String) :
    scannedHeight node (branches ++ [branch]) =
      max (scannedHeight node branches) (branchHeight node branch) := by
  rw [scannedHeight, List.map_append, List.foldl_append]
  rfl

/-- One branch, when every round keeps the invariant. -/
theorem scanBranch_processed (invariant : ScanInvariant I db)
    (round : ∀ seen isChange unspent progress progress', I seen progress →
      scanUnspent node db descriptor isChange progress unspent = .ok progress' →
        I (seen ++ [(isChange, unspent)]) progress')
    {seen : List (Bool × ScanUtxo)} {branch : Bool × String} {progress progress' : ScanProgress}
    (before : I seen progress)
    (run : scanBranch node db descriptor progress branch = .ok progress') :
    I (seen ++ coinsOfBranch node branch) progress' := by
  rw [scanBranch] at run
  split at run
  · rename_i answer
    cases run
    rw [coinsOfBranch_error answer, List.append_nil]
    exact invariant.height seen progress _ before
  · cases run
  · rename_i result answer
    rw [coinsOfBranch_ok answer]
    have processed := foldlM_processed
      (I := fun utxos progress => I (seen ++ utxos.map (Prod.mk branch.1)) progress)
      (fun utxos s unspent s' held step => by
        rw [List.map_append, ← List.append_assoc]
        exact round _ branch.1 unspent s s' held step)
      (by
        rw [List.map_nil, List.append_nil]
        exact invariant.height seen progress _ before) run
    exact processed

/-- What every round keeps, a scan keeps. -/
theorem initialScan_processed (invariant : ScanInvariant I db)
    (round : ∀ seen isChange unspent progress progress', I seen progress →
      scanUnspent node db descriptor isChange progress unspent = .ok progress' →
        I (seen ++ [(isChange, unspent)]) progress')
    (run : initialScan node db descriptor = .ok (db', report)) :
    ∃ progress : ScanProgress, I (reportedCoins node descriptor) progress ∧
      db' = withScannedHeight progress.db descriptor.id
        (max (scannedHeight node descriptor.branches) 1) ∧
      report.utxosDiscovered = progress.utxosDiscovered ∧
      report.ledgerEntriesCreated = progress.ledgerEntriesCreated := by
  rw [initialScan, bind_ok_iff] at run
  obtain ⟨progress, scanned, run⟩ := run
  cases run
  have processed := foldlM_processed
    (I := fun branches progress => I (branches.flatMap (coinsOfBranch node)) progress ∧
      progress.heightAtScan = scannedHeight node branches)
    (fun branches s branch s' held step => by
      rw [flatMap_coinsOfBranch_concat, scannedHeight_concat, ← held.2]
      exact ⟨scanBranch_processed invariant round held.1 step, scanBranch_height step⟩)
    ⟨invariant.noBranch, rfl⟩ scanned
  obtain ⟨held, height⟩ := processed
  rw [List.nil_append] at held height
  exact ⟨progress, held, by rw [← height]; rfl, rfl, rfl⟩

/-- The loop over the coins of a branch returns when every round returns. -/
theorem utxos_return {seen : List (Bool × ScanUtxo)} {isChange : Bool}
    {utxos : List ScanUtxo} {progress : ScanProgress}
    (round : ∀ done unspent more s, utxos = done ++ unspent :: more →
      I (seen ++ done.map (Prod.mk isChange)) s →
        ∃ s', scanUnspent node db descriptor isChange s unspent = .ok s' ∧
          I (seen ++ (done ++ [unspent]).map (Prod.mk isChange)) s')
    (before : I seen progress) :
    ∃ progress', utxos.foldlM (scanUnspent node db descriptor isChange) progress = .ok progress' ∧
      I (seen ++ utxos.map (Prod.mk isChange)) progress' := by
  have started : I (seen ++ ([] : List ScanUtxo).map (Prod.mk isChange)) progress := by
    rw [List.map_nil, List.append_nil]
    exact before
  exact foldlM_returns (I := fun done s => I (seen ++ done.map (Prod.mk isChange)) s) round
    (List.nil_append utxos).symm started

/-- A scan returns when the node answers and every round returns where the rounds before it lead. -/
theorem initialScan_returns_of_rounds (answers : Answers node descriptor)
    (invariant : ScanInvariant I db)
    (round : ∀ seen isChange unspent later progress,
      reportedCoins node descriptor = seen ++ (isChange, unspent) :: later → I seen progress →
        ∃ progress', scanUnspent node db descriptor isChange progress unspent = .ok progress' ∧
          I (seen ++ [(isChange, unspent)]) progress') :
    ∃ db' report, initialScan node db descriptor = .ok (db', report) := by
  have step : ∀ done branch later s, descriptor.branches = done ++ branch :: later →
      I (done.flatMap (coinsOfBranch node)) s →
        ∃ s', scanBranch node db descriptor s branch = .ok s' ∧
          I ((done ++ [branch]).flatMap (coinsOfBranch node)) s' := by
    intro done branch later s split held
    have coins : reportedCoins node descriptor =
        done.flatMap (coinsOfBranch node) ++
          (coinsOfBranch node branch ++ later.flatMap (coinsOfBranch node)) := by
      rw [reportedCoins, split, List.flatMap_append, List.flatMap_cons]
    have listed : branch ∈ descriptor.branches := by
      rw [split]
      exact List.mem_append_right _ List.mem_cons_self
    rw [flatMap_coinsOfBranch_concat, scanBranch]
    cases answer : node.scanDescriptors branch.2 with
    | error error =>
        rw [coinsOfBranch_error answer, List.append_nil]
        cases error with
        | unavailable message => exact absurd answer (answers branch listed message)
        | rpc code message => exact ⟨_, rfl, invariant.height _ s _ held⟩
    | ok result =>
        rw [coinsOfBranch_ok answer] at coins ⊢
        refine utxos_return (fun utxos unspent more s' splitUtxos held' => ?_)
          (invariant.height _ s _ held)
        rw [List.map_append, ← List.append_assoc]
        refine round _ branch.1 unspent
          (more.map (Prod.mk branch.1) ++ later.flatMap (coinsOfBranch node)) s' ?_ held'
        rw [coins, splitUtxos, List.map_append, List.map_cons, List.append_assoc,
          List.append_assoc]
        rfl
  obtain ⟨progress, run, -⟩ := foldlM_returns
    (I := fun branches progress => I (branches.flatMap (coinsOfBranch node)) progress) step
    (List.nil_append descriptor.branches).symm invariant.noBranch
  rw [initialScan, run]
  exact ⟨_, _, rfl⟩

end Rounds

end TallyKeep
