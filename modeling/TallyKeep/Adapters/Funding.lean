/-
Module: TallyKeep.Adapters.Funding
Layer: Adapters
Purpose: The transaction builder of the wallet library with the fee it pays and the orders it cannot
  fund.
Trusted boundary: `TxBuilder.finish` of `bdkpython` is a parameter.  A payment may leave more than
  the fee its transaction needs (change too small for an output goes to the fee), so the fee that
  is paid is part of its answer
Main exports: Funding, BuilderError, FundedBuilder, FundedBuilder.Lawful,
  FundedBuilder.toTxBuilder, PaymentOrder.terms, spendableCoins
-/
import TallyKeep.Adapters.Descriptor

namespace TallyKeep

variable {Psbt Tx : Type}

/-- What `TxBuilder.finish` settles: the coins that are spent and the fee they leave. -/
structure Funding where
  selected : List WalletCoin
  feeSats : Nat
deriving DecidableEq

/-- `CreateTxError`: the coins do not suffice, or anything else. -/
inductive BuilderError where
  | insufficientFunds (text : String)
  | other (text : String)
deriving DecidableEq

/-- `str` of the exception. -/
def BuilderError.text : BuilderError → String
  | insufficientFunds text => text
  | other text => text

/-- The coins cover the amount and a fee. -/
def BuilderOrder.CoveredBy (order : BuilderOrder) (coins : List WalletCoin) (feeSats : Nat) :
    Prop :=
  order.amountSats.getD 0 + feeSats ≤ (coins.map WalletCoin.valueSats).sum

/-- The builder: the checks of an order that come before the selection, such as the one for dust,
    the fee of a transaction that spends given coins, and what `finish` answers. -/
structure FundedBuilder where
  accepts : BuilderOrder → Bool
  neededFee : List WalletCoin → BuilderOrder → Nat
  finish : List WalletCoin → BuilderOrder → Except BuilderError Funding

/-- The builder lacks funds for an order it accepts exactly when no coins of the wallet cover the
    amount with the fee for spending them. -/
def FundedBuilder.Lawful (builder : FundedBuilder) : Prop :=
  ∀ coins order, (∃ text, builder.finish coins order = .error (.insufficientFunds text)) ↔
    builder.accepts order = true ∧
      ∀ selected, selected.Subperm coins →
        ¬order.CoveredBy selected (builder.neededFee selected order)

/-- The builder as `build_psbt` uses it. -/
def FundedBuilder.toTxBuilder (builder : FundedBuilder) : TxBuilder := fun coins order =>
  match builder.finish coins order with
  | .error error => .error error.text
  | .ok funding => .ok funding.selected

/-! ### Orders of the service -/

/-- What the builder is told for an order of the banking service: the script of the address, the
    amount, and the fee rate as a whole number. -/
def PaymentOrder.terms (library : WalletLibrary) (node : PaymentNode) (network : Network)
    (order : PaymentOrder) : Option BuilderOrder := do
  let feeRate ← (resolveFeeRate node order.feeStrategy order.feeSatPerVbyte).toOption
  let script ← (library.scriptPubkey order.destinationAddress network).toOption
  let amount ← (order.amountSats.mapM asU64).toOption
  let wholeRate ← (asU64 (Binary64.roundHalfEven feeRate)).toOption
  return ⟨script, amount, wholeRate⟩

/-- The coins of a descriptor that a payment may spend, as coins of a wallet. -/
def spendableCoins (db : Database) (descriptorId : Uuid) : List WalletCoin :=
  (gatherSpendableUtxos db descriptorId).map fun row => ⟨row.outpoint, row.valueSats⟩

end TallyKeep
