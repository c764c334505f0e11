/-
Module: TallyKeep.Models.Custodial
Layer: Models
Purpose: The rows of custodial providers and of their ledger mirror, and the database with them.
Trusted boundary: translation of `models/custodial_provider.py` and
  `models/custodial_ledger_entry.py`.  Amounts of the provider are the values of its floats; the
  widths of columns are not modelled
Main exports: CustodialLedgerKind, ConnectionStatus, RawFee, RawLedgerItem, RawPayload,
  CustodialLedgerEntryRow, ConnectedProviderRow, LedgerMirror, CustodialDatabase
-/
import TallyKeep.Models
import TallyKeep.Library.IndexedTable

namespace TallyKeep

open Relational

/-! ### Enumerations -/

inductive CustodialLedgerKind where
  | trade
  | deposit
  | withdrawal
  | transfer
  | fee
  | reward
  | other
deriving Repr, DecidableEq

inductive ConnectionStatus where
  | healthy
  | degraded
  | unreachable
  | authFailed
deriving Repr, DecidableEq

/-! ### What a provider reports -/

/-- The fee of a ledger item: a dict with its cost, or a plain number. -/
inductive RawFee where
  | record (cost : Option ℚ)
  | plain (amount : ℚ)
deriving DecidableEq

/-- One item of `fetch_ledger` in the unified shape of ccxt.  The keys that are only stored are one
    text. -/
structure RawLedgerItem where
  id : Option String
  referenceId : Option String
  currency : Option String
  type : Option String
  direction : Option String
  amount : Option ℚ
  fee : Option RawFee
  timestamp : Option Nat
  status : Option String
  others : String
deriving DecidableEq

/-- The column `raw_payload`: the item, and under `fiat_leg_raw` the legs of a trade in other
    currencies when there are any. -/
structure RawPayload where
  item : RawLedgerItem
  fiatLegRaw : List RawLedgerItem
deriving DecidableEq

/-! ### Rows -/

/-- One entry of a provider's ledger feed. -/
structure CustodialLedgerEntryRow where
  id : Uuid
  holdingId : Uuid
  custodialProviderId : Uuid
  providerEntryId : String
  kind : CustodialLedgerKind
  asset : String
  amountSats : Int
  feeSats : Option Int
  status : String
  timestamp : Timestamp
  rawPayload : RawPayload
  linkedSweepExecutionId : Option Uuid
  linkedCounterpartyHoldingId : Option Uuid
  linkedChainLedgerEntryId : Option Uuid
  reconciledAt : Option Timestamp
deriving DecidableEq

instance : Keyed CustodialLedgerEntryRow Uuid := ⟨CustodialLedgerEntryRow.id⟩

/-- What `uq_custodial_ledger_entry_provider_entry` tells entries apart by. -/
def CustodialLedgerEntryRow.refid (row : CustodialLedgerEntryRow) : Uuid × String :=
  (row.custodialProviderId, row.providerEntryId)

/-- The table `custodial_ledger_entry`. -/
abbrev LedgerMirror := IndexedTable CustodialLedgerEntryRow CustodialLedgerEntryRow.refid

/-- A custodial provider with the columns of its connection. -/
structure ConnectedProviderRow extends CustodialProviderRow where
  isActive : Bool
  lastPolledAt : Option Timestamp
  lastError : Option String
  connectionStatus : ConnectionStatus
  consecutiveErrorCount : Nat
  ledgerCursorAt : Option Timestamp
  nonBtcBalances : List (String × String)
deriving DecidableEq

instance : Keyed ConnectedProviderRow Uuid := ⟨fun row => row.id⟩

/-- The committed database with the tables of sweeps and of custody. -/
structure CustodialDatabase extends Database where
  sweepPolicies : Table SweepPolicyRow
  custodialProviders : Table ConnectedProviderRow
  custodialLedger : LedgerMirror

/-- The tables as the treasury reads them. -/
def CustodialDatabase.treasury (db : CustodialDatabase) : TreasuryDatabase where
  toDatabase := db.toDatabase
  sweepPolicies := db.sweepPolicies
  custodialProviders :=
    ⟨db.custodialProviders.rows.map ConnectedProviderRow.toCustodialProviderRow, by
      have keys := db.custodialProviders.keysNodup
      rw [List.map_map]
      exact keys⟩

end TallyKeep
