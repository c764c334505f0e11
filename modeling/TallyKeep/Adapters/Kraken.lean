/-
Module: TallyKeep.Adapters.Kraken
Layer: Adapters
Purpose: `KrakenAdapter` as a poll cycle uses it: from the answers of ccxt to balances, ledger
  entries and withdrawals.
Trusted boundary: translation of `adapters/kraken_adapter.py`.  The answers of ccxt
  are parameters in its unified shape; floats are the values they stand for, rounded after each
  operation.  `datetime.fromtimestamp` keeps milliseconds exactly
Main exports: CcxtError, Exchange, Kraken.call, satsOf, sinceMs, CustodialLedgerEntry, Withdrawal,
  Kraken.getBalance, Kraken.getOtherBalances, Kraken.getRecentWithdrawals, Kraken.fetchLedgerSince
-/
import Mathlib.Data.List.Sort
import TallyKeep.Library.Binary64
import TallyKeep.Models.Custodial

namespace TallyKeep

open Binary64

/-! ### ccxt -/

/-- The exceptions of a ccxt call, as far as `_call` tells them apart. -/
inductive CcxtError where
  | authenticationError (text : String)
  | rateLimitExceeded (text : String)
  | networkError (text : String)
  | exchangeError (text : String)
  | valueError (text : String)
  | other (error : PyError)

/-- A balance of `fetch_balance`: its number, and how Python writes it. -/
structure AssetTotal where
  asset : String
  amount : ℚ
  text : String

/-- An item of `fetch_transactions`. -/
structure RawWithdrawal where
  id : Option String
  txid : Option String

/-- What one instance of `ccxt.kraken` answers during one cycle. -/
structure Exchange where
  fetchFreeBtc : Except CcxtError (Option ℚ)
  fetchTotals : Except CcxtError (List AssetTotal)
  fetchLedger : Option Nat → Nat → Except CcxtError (Option (List RawLedgerItem))
  fetchTransactions : Nat → Nat → Except CcxtError (Option (List RawWithdrawal))

/-! ### Numbers and times -/

/-- `int(round(amount * 100_000_000))`. -/
def satsOf (amount : ℚ) : Int := roundHalfEven (toDouble (amount * 100000000))

/-- `int(since.timestamp() * 1000)`. -/
def sinceMs (since : Timestamp) : Nat :=
  ⌊toDouble (toDouble ((since : ℚ) / 1000000) * 1000)⌋.toNat

/-- `datetime(2020, 1, 1, tzinfo=UTC)`. -/
def year2020 : Timestamp := 1577836800000000

/-- `_ts_to_dt`. -/
def tsToDt (tsMs : Option Nat) (fallback : Timestamp) : Timestamp :=
  match tsMs with
  | none => fallback
  | some ms => 1000 * ms

/-! ### Texts -/

/-- What `or` passes over: no text, and the empty one. -/
def nonEmpty (text : Option String) : Option String := text.filter fun value => decide (value ≠ "")

/-- `str.lower` of one character, as far as it is compared: of the characters outside ASCII only
    the Kelvin sign becomes one of ASCII. -/
def lowerChar (c : Char) : Char := if c = '\u212a' then 'k' else c.toLower

/-- `_is_btc_currency`. -/
def isBtcCurrency (asset : String) : Bool :=
  let base := (asset.toList.takeWhile fun c => decide (c ≠ '.')).map Char.toUpper
  decide (base = "BTC".toList ∨ base = "XBT".toList ∨ base = "XXBT".toList)

/-- `_KIND_MAP`, with `other` for every kind it has not got. -/
def kindOf (rawKind : List Char) : CustodialLedgerKind :=
  if rawKind ∈ ["trade", "margin", "receive", "spend"].map String.toList then .trade
  else if rawKind = "deposit".toList then .deposit
  else if rawKind = "withdrawal".toList then .withdrawal
  else if rawKind ∈ ["fee", "rollover"].map String.toList then .fee
  else if rawKind = "transfer".toList then .transfer
  else if rawKind ∈ ["earn", "staking", "reward", "dividend"].map String.toList then .reward
  else .other

/-- `_normalise_kind`. -/
def normaliseKind (rawKind : List Char) (direction : String) : CustodialLedgerKind :=
  if rawKind = "transaction".toList then if direction = "in" then .deposit else .withdrawal
  else kindOf rawKind

namespace RawLedgerItem

def refid (item : RawLedgerItem) : String :=
  ((nonEmpty item.referenceId).or (nonEmpty item.id)).getD ""

def asset (item : RawLedgerItem) : String := item.currency.getD ""

def directionText (item : RawLedgerItem) : String := item.direction.getD ""

def kind (item : RawLedgerItem) : CustodialLedgerKind :=
  normaliseKind ((item.type.getD "").toList.map lowerChar) item.directionText

def isBtc (item : RawLedgerItem) : Bool := isBtcCurrency item.asset

/-- The amount with the sign of its direction: a positive one that goes out is negated. -/
def signedAmount (item : RawLedgerItem) : ℚ :=
  let amount := item.amount.getD 0
  if item.directionText = "out" ∧ 0 < amount then -amount else amount

/-- The fee; in a record, one of zero is none. -/
def feeAmount (item : RawLedgerItem) : Option ℚ :=
  match item.fee with
  | none => none
  | some (.plain amount) => some amount
  | some (.record cost) => cost.filter fun amount => decide (amount ≠ 0)

def providerEntryId (item : RawLedgerItem) : String := (nonEmpty item.id).getD item.refid

def statusText (item : RawLedgerItem) : String := (nonEmpty item.status).getD "success"

end RawLedgerItem

/-! ### What the adapter returns -/

/-- The data class `CustodialLedgerEntry` of the adapters. -/
structure CustodialLedgerEntry where
  providerEntryId : String
  kind : CustodialLedgerKind
  asset : String
  amount : ℚ
  fee : Option ℚ
  status : String
  timestamp : Timestamp
  raw : RawPayload
deriving DecidableEq

/-- The data class `Withdrawal`, in the fields a poll cycle reads. -/
structure Withdrawal where
  id : Option String
  txid : Option String

/-- The state of the loop over the items. -/
structure LedgerScan where
  entries : List CustodialLedgerEntry
  newestTs : Option Timestamp
  seenRefids : List String

namespace Kraken

/-- `_call`. -/
def call {α : Type} : Except CcxtError α → Except PyError α
  | .ok answer => .ok answer
  | .error (.authenticationError text) => .error ⟨.providerAuthError, text⟩
  | .error (.rateLimitExceeded text) => .error ⟨.providerRateLimitError, text⟩
  | .error (.networkError text) => .error ⟨.providerError, text⟩
  | .error (.exchangeError text) => .error ⟨.providerError, text⟩
  | .error (.valueError text) =>
      .error ⟨.providerAuthError, "Invalid credentials format: " ++ text⟩
  | .error (.other error) => .error error

variable (exchange : Exchange)

/-- `get_balance`. -/
def getBalance : Except PyError Int :=
  (call exchange.fetchFreeBtc).map fun free => satsOf (free.getD 0)

/-- `get_other_balances`. -/
def getOtherBalances : Except PyError (List (String × String)) :=
  (call exchange.fetchTotals).map fun totals =>
    (totals.filter fun total => decide (total.asset ≠ "BTC" ∧ 0 < total.amount)).map fun total =>
      (total.asset, total.text)

/-- `get_recent_withdrawals`. -/
def getRecentWithdrawals (since : Timestamp) : Except PyError (List Withdrawal) :=
  (call (exchange.fetchTransactions (sinceMs since) 50)).map fun answer =>
    (answer.getD []).map fun tx => ⟨tx.id, tx.txid⟩

/-- `fiat_legs`: the items of the same refid in other currencies. -/
def fiatLegs (raw : List RawLedgerItem) (item : RawLedgerItem) : List RawLedgerItem :=
  raw.filter fun leg => decide (leg.refid = item.refid) && !leg.isBtc

/-- The time of an item. -/
def itemTime (since : Option Timestamp) (item : RawLedgerItem) : Timestamp :=
  tsToDt item.timestamp (since.getD year2020)

/-- The entry an item becomes. -/
def materialise (since : Option Timestamp) (raw : List RawLedgerItem) (item : RawLedgerItem) :
    CustodialLedgerEntry where
  providerEntryId := item.providerEntryId
  kind := item.kind
  asset := "BTC"
  amount := item.signedAmount
  fee := item.feeAmount
  status := item.statusText
  timestamp := itemTime since item
  raw := ⟨item, if item.kind = .trade then fiatLegs raw item else []⟩

/-- `newest_ts` after an entry. -/
def newer (newestTs : Option Timestamp) (ts : Timestamp) : Timestamp :=
  match newestTs with
  | none => ts
  | some newest => if newest < ts then ts else newest

/-- One round of the loop over the items: other currencies, and trades whose refid was met, are
    dropped. -/
def scanItem (since : Option Timestamp) (raw : List RawLedgerItem) (scan : LedgerScan)
    (item : RawLedgerItem) : LedgerScan :=
  if item.isBtc = false then scan
  else if item.kind = .trade ∧ item.refid ∈ scan.seenRefids then scan
  else
    ⟨scan.entries ++ [materialise since raw item],
      some (newer scan.newestTs (itemTime since item)), item.refid :: scan.seenRefids⟩

/-- The loop over the items of one page. -/
def scanPage (since : Option Timestamp) (raw : List RawLedgerItem) : LedgerScan :=
  raw.foldl (scanItem since raw) ⟨[], none, []⟩

/-- `fetch_ledger_since`: a page of at most 200 items; a failed fetch is logged and taken for an
    empty page. -/
def fetchLedgerSince (since : Option Timestamp) :
    Except PyError (List CustodialLedgerEntry × Option Timestamp) :=
  match call (exchange.fetchLedger (since.map sinceMs) 200) with
  | .error error => if error.cls = .providerError then .ok ([], since) else .error error
  | .ok answer =>
      let scan := scanPage since (answer.getD [])
      .ok (scan.entries.insertionSort fun entry later => entry.timestamp ≤ later.timestamp,
        scan.newestTs)

end Kraken

end TallyKeep
