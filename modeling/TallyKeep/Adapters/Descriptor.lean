/-
Module: TallyKeep.Adapters.Descriptor
Layer: Adapters
Purpose: `DescriptorAdapter.build_psbt` over the wallet library.
Trusted boundary: translation of `build_psbt` in `adapters/descriptor_adapter.py`.
  `bdkpython` is a parameter: what it parses, which scripts a wallet knows, and what the builder
  selects.  The time transactions were last seen at and the next change index are read by nobody
  and left out
Main exports: WalletTransaction, WalletKeys, WalletCoin, WalletLibrary, TxBuilder, TxBuilder.Lawful,
  coinSet, openWallet, DescriptorAdapter.buildPsbt, Bdk.withWallet
-/
import TallyKeep.Services.Banking
import TallyKeep.Library.Binary64
import Mathlib.Data.List.Dedup

namespace TallyKeep

open Binary64

/-! ### The wallet library -/

structure WalletOutput where
  valueSats : Nat
  script : String
deriving DecidableEq

/-- A transaction as the library parses it; outputs are numbered by their position. -/
structure WalletTransaction where
  txid : Txid
  inputs : List Outpoint
  outputs : List WalletOutput
deriving DecidableEq

/-- What a wallet is made from. -/
structure WalletKeys where
  externalDescriptor : String
  changeDescriptor : String
  network : Network
  lookahead : Nat
  maxExternalIndex : Nat
  maxChangeIndex : Nat
deriving DecidableEq

structure WalletCoin where
  outpoint : Outpoint
  valueSats : Nat
deriving DecidableEq

/-- What `TxBuilder` is told before `finish`; without an amount it drains the wallet. -/
structure BuilderOrder where
  recipientScript : String
  amountSats : Option Nat
  feeRateSatPerVbyte : Nat
deriving DecidableEq

/-- The unsigned transaction of a PSBT: what it spends, and what it was built for. -/
structure UnsignedPsbt where
  inputs : List Outpoint
  order : BuilderOrder
deriving DecidableEq

/-- The operations of `bdkpython` behind a wallet; an error carries the exception's text.  The
    inputs of a PSBT are read off its text. -/
structure WalletLibrary where
  parseDescriptor : String → Network → Except String Unit
  newWallet : WalletKeys → Except String Unit
  knowsScript : WalletKeys → String → Bool
  parseTransaction : String → Except String WalletTransaction
  scriptPubkey : String → Network → Except String String
  serialize : UnsignedPsbt → String
  psbtInputs : String → List Outpoint
  psbtInputs_serialize : ∀ psbt, psbtInputs (serialize psbt) = psbt.inputs

/-- `TxBuilder.finish`: the coins it selects from the wallet's. -/
abbrev TxBuilder := List WalletCoin → BuilderOrder → Except String (List WalletCoin)

/-- The builder selects coins of the wallet that cover the amount; a drain selects all of them. -/
def TxBuilder.Lawful (builder : TxBuilder) : Prop :=
  ∀ coins order selected, builder coins order = .ok selected →
    selected.Subperm coins ∧
      match order.amountSats with
      | none => selected = coins
      | some amount => amount ≤ (selected.map WalletCoin.valueSats).sum

/-- The outputs of a transaction that pay a script the wallet knows. -/
def WalletTransaction.ownCoins (knows : String → Bool) (tx : WalletTransaction) :
    List WalletCoin :=
  tx.outputs.zipIdx.filterMap fun (output, vout) =>
    if knows output.script then some ⟨⟨tx.txid, vout⟩, output.valueSats⟩ else none

/-- The wallet's coin set: its outputs of the transactions applied to it, less those that one of
    these transactions spends. -/
def coinSet (knows : String → Bool) (applied : List WalletTransaction) : List WalletCoin :=
  ((applied.flatMap (WalletTransaction.ownCoins knows)).filter fun coin =>
    decide (coin.outpoint ∉ applied.flatMap WalletTransaction.inputs)).dedup

/-! ### `build_psbt` -/

/-- A number the library takes as an unsigned integer of 64 bits. -/
def asU64 (n : Int) : Except String Nat :=
  if 0 ≤ n ∧ n < 2 ^ 64 then .ok n.toNat else .error "OverflowError"

/-- The change descriptor; without one, the external descriptor serves for both keychains. -/
def changeOf (order : PsbtOrder) : String := order.changeDescriptor.getD order.externalDescriptor

/-- The wallet `build_psbt` makes. -/
def walletKeys (order : PsbtOrder) : WalletKeys where
  externalDescriptor := order.externalDescriptor
  changeDescriptor := changeOf order
  network := order.network
  lookahead := max order.maxExternalIndex order.maxChangeIndex + 25
  maxExternalIndex := order.maxExternalIndex
  maxChangeIndex := order.maxChangeIndex

/-- `seen_hex`: each parent transaction once, in the order of the coins. -/
def parentHexes (utxos : List UtxoForBuild) : List String :=
  (utxos.map UtxoForBuild.parentRawHex).eraseDups

/-- `build_psbt` up to `finish`: the coins of the wallet, and what the builder is told. -/
def openWallet (library : WalletLibrary) (order : PsbtOrder) :
    Except String (List WalletCoin × BuilderOrder) := do
  library.parseDescriptor order.externalDescriptor order.network
  match order.changeDescriptor with
  | none => pure ()
  | some change => library.parseDescriptor change order.network
  library.newWallet (walletKeys order)
  let unconfirmed ← (parentHexes order.utxos).mapM library.parseTransaction
  let script ← library.scriptPubkey order.recipientAddress order.network
  let amount ← order.amountSats.mapM asU64
  let feeRate ← asU64 (roundHalfEven order.feeRateSatPerVbyte)
  return (coinSet (library.knowsScript (walletKeys order)) unconfirmed, ⟨script, amount, feeRate⟩)

/-- `build_psbt`. -/
def DescriptorAdapter.buildPsbt (library : WalletLibrary) (builder : TxBuilder) (order : PsbtOrder) :
    Except String String := do
  let (coins, builderOrder) ← openWallet library order
  let selected ← builder coins builderOrder
  return library.serialize ⟨selected.map WalletCoin.outpoint, builderOrder⟩

/-- The library of the banking service, with the wallet behind `build_psbt`. -/
def Bdk.withWallet {Psbt Tx : Type} (bdk : Bdk Psbt Tx) (library : WalletLibrary)
    (builder : TxBuilder) : Bdk Psbt Tx :=
  { bdk with buildPsbt := DescriptorAdapter.buildPsbt library builder }

/-- The inputs of the PSBT of a request. -/
def PaymentRequestRow.psbtInputs (library : WalletLibrary) (request : PaymentRequestRow) :
    List Outpoint :=
  (request.psbtBase64.map library.psbtInputs).getD []

end TallyKeep
