/-
Module: TallyKeep.Services.ChainScan
Layer: Services
Purpose: `ChainScanService`: the snapshot of a descriptor's unspent coins that the node reports.
Trusted boundary: translation of `services/chain_scan_service.py`.  The node's
  `scantxoutset` and fee estimate are parameters; a failed scan leaves the database as it was, since
  the endpoint rolls back
Main exports: ScanUtxo, ScanResult, ScanNode, parseDerivationIndex, initialScan, scanAll
-/
import TallyKeep.Repositories
import TallyKeep.Services.UtxoHygiene

namespace TallyKeep

open Relational

/-- One coin that `scantxoutset` returns. -/
structure ScanUtxo where
  txid : Txid
  vout : Nat
  amountSats : Nat
  height : Nat
  descriptor : String
deriving DecidableEq

structure ScanResult where
  heightAtScan : Nat
  utxos : List ScanUtxo

/-- What the scan asks of the node, and the clock. -/
structure ScanNode where
  scanDescriptors : String → Except NodeError ScanResult
  feeRate : ℚ
  now : Timestamp

structure ScanReport where
  descriptorId : Uuid
  utxosDiscovered : Nat
  utxosPreExisting : Nat
  ledgerEntriesCreated : Nat
  heightAtScan : Nat
deriving DecidableEq

/-! ### `_parse_derivation_index` -/

/-- The characters `[0-9a-fA-F]`. -/
def isHexChar (c : Char) : Bool :=
  c.isDigit || ('a' ≤ c && c ≤ 'f') || ('A' ≤ c && c ≤ 'F')

/-- The match of `\[[^\]]*?/(\d+)\][0-9a-fA-F]+` that starts right after an opening bracket.  The
    text up to the first closing bracket must end in a slash and digits, and a hexadecimal digit
    must follow; node output is ASCII, so digits are the ASCII ones. -/
def leafIndex (afterBracket : List Char) : Option Nat :=
  let inside := afterBracket.takeWhile (· ≠ ']')
  let outside := (afterBracket.dropWhile (· ≠ ']')).drop 1
  let digits := inside.reverse.takeWhile Char.isDigit
  if (outside.head?.any isHexChar) && !digits.isEmpty &&
      (inside.reverse.dropWhile Char.isDigit).head? = some '/' then
    some (digits.foldr (fun c value => 10 * value + (c.toNat - '0'.toNat)) 0)
  else none

/-- The leftmost match decides. -/
def searchLeafIndex : List Char → Option Nat
  | [] => none
  | c :: rest =>
      if c = '[' then (leafIndex rest).or (searchLeafIndex rest) else searchLeafIndex rest

/-- `_parse_derivation_index`. -/
def parseDerivationIndex (descriptor : String) : Option Nat := searchLeafIndex descriptor.toList

example : parseDerivationIndex "wpkh([6834a63c/0/15]02ab)#abcdwxyz" = some 15 := by decide

/-! ### One reported coin -/

/-- The `address_index` entry of a branch and index; `uq_address_descriptor_branch_index` makes it
    unique. -/
def addressAt (db : Database) (descriptor : DescriptorRow) (isChange : Bool) (index : Nat) :
    Option AddressRow :=
  (db.addresses.select fun row => decide (row.descriptorId = descriptor.id)).find? fun row =>
    decide (row.isChange = isChange ∧ row.derivationIndex = index)

/-- The address row a reported coin belongs to, if it lies within the gap limit. -/
def addressOfUnspent (db : Database) (descriptor : DescriptorRow) (isChange : Bool)
    (unspent : ScanUtxo) : Option AddressRow :=
  (parseDerivationIndex unspent.descriptor).bind (addressAt db descriptor isChange)

/-- `_maybe_create_ledger_entry`. -/
def maybeCreateLedgerEntry (db : Database) (descriptor : DescriptorRow) (txid : Txid)
    (valueSats : Nat) (now : Timestamp) : Except PyError Database := do
  match ← LedgerEntryRepo.getBySource db txid with
  | some existing =>
      if (db.ledgerLinks.get? (existing.id, descriptor.holdingId)).isSome then
        return db
      -- The entry stays as it is; only a link to this holding is added.
      return { db with
        ledgerLinks := db.ledgerLinks.insert ⟨existing.id, descriptor.holdingId, valueSats⟩ }
  | none =>
      let entryId := db.ledgerEntries.freshKey
      let entry ← LedgerEntryRow.postInit
        ⟨entryId, .incoming, valueSats, now, .onchainTransaction, txid.text⟩
      return LedgerEntryRepo.insert db entry ⟨entryId, descriptor.holdingId, valueSats⟩

/-- `unspent.height or None`. -/
def ScanUtxo.confirmationHeight (unspent : ScanUtxo) : Option Nat :=
  if unspent.height = 0 then none else some unspent.height

/-- The writes for a coin that was not known. -/
def recordUnspent (node : ScanNode) (descriptor : DescriptorRow) (address : AddressRow)
    (unspent : ScanUtxo) (db : Database) : Except PyError Database :=
  let row := UtxoRow.discovered (UtxoRepo.freshId db) descriptor.id address.id
    ⟨unspent.txid, unspent.vout⟩ unspent.amountSats unspent.confirmationHeight
  let db := UtxoRepo.upsertUnspent db row
  let db := OnchainRepo.upsert db unspent.txid none unspent.confirmationHeight none
  let db := applyFlagsAndPropagateReuse db row ⟨none, descriptor.addressType, node.feeRate⟩
  maybeCreateLedgerEntry db descriptor unspent.txid unspent.amountSats node.now

/-! ### `initial_scan` -/

/-- What the scan has done and counted so far. -/
structure ScanProgress where
  db : Database
  utxosDiscovered : Nat
  utxosPreExisting : Nat
  ledgerEntriesCreated : Nat
  heightAtScan : Nat

/-- One round of the loop over reported coins; the address index is read once, at the start. -/
def scanUnspent (node : ScanNode) (start : Database) (descriptor : DescriptorRow) (isChange : Bool)
    (progress : ScanProgress) (unspent : ScanUtxo) : Except PyError ScanProgress :=
  match addressOfUnspent start descriptor isChange unspent with
  | none => .ok progress
  | some address =>
      match progress.db.utxos.get? ⟨unspent.txid, unspent.vout⟩ with
      | some _ => .ok { progress with utxosPreExisting := progress.utxosPreExisting + 1 }
      | none => do
          let db ← recordUnspent node descriptor address unspent progress.db
          return { progress with
            db := db
            utxosDiscovered := progress.utxosDiscovered + 1
            ledgerEntriesCreated := progress.ledgerEntriesCreated + 1 }

/-- The branches of a descriptor with their expressions. -/
def DescriptorRow.branches (descriptor : DescriptorRow) : List (Bool × String) :=
  (false, descriptor.expression) ::
    match descriptor.changeExpression with
    | none => []
    | some expression => [(true, expression)]

/-- One branch: a refused descriptor counts as scanned, an unreachable node ends the scan. -/
def scanBranch (node : ScanNode) (start : Database) (descriptor : DescriptorRow)
    (progress : ScanProgress) (branch : Bool × String) : Except PyError ScanProgress :=
  match node.scanDescriptors branch.2 with
  | .error (.rpc _ _) => .ok { progress with heightAtScan := max progress.heightAtScan 1 }
  | .error (.unavailable message) => .error ⟨.nodeUnavailable, message⟩
  | .ok result =>
      result.utxos.foldlM (scanUnspent node start descriptor branch.1)
        { progress with heightAtScan := max progress.heightAtScan result.heightAtScan }

/-- `initial_scan`. -/
def initialScan (node : ScanNode) (db : Database) (descriptor : DescriptorRow) :
    Except PyError (Database × ScanReport) := do
  let progress ← descriptor.branches.foldlM (scanBranch node db descriptor) ⟨db, 0, 0, 0, 0⟩
  let effectiveHeight := max progress.heightAtScan 1
  let scanned :=
    { progress.db with
      descriptors := progress.db.descriptors.update descriptor.id fun row =>
        { row with lastScannedHeight := max row.lastScannedHeight effectiveHeight } }
  return (scanned,
    ⟨descriptor.id, progress.utxosDiscovered, progress.utxosPreExisting,
      progress.ledgerEntriesCreated, effectiveHeight⟩)

/-- Scans of several descriptors, each committed by its endpoint. -/
def scanAll (node : ScanNode) (db : Database) (descriptors : List DescriptorRow) :
    Except PyError Database :=
  descriptors.foldlM (fun db descriptor => (initialScan node db descriptor).map Prod.fst) db

end TallyKeep
