/-
Module: TallyKeep.Api.AccountLedger
Layer: Api
Purpose: The ledger on the page of an account, and the walk of a client through its pages.
Trusted boundary: translation of `list_paginated` and of the ledger in `get_holding`
  of `api/v1/holdings.py`.  The timestamp a client passes on is text that reads back as it was; the
  columns of the provider that the page shows besides are left out
Main exports: LedgerListing, CustodialLedgerEntryRepo.listPaginated, LedgerEntryOut, LedgerPage,
  accountLedger, ledgerWalk
-/
import TallyKeep.Library.KeysetPages
import TallyKeep.Models.Custodial

namespace TallyKeep

open Relational

/-- `ORDER BY timestamp DESC`, which leaves the order of equal times to the database. -/
abbrev LedgerListing := Paging.Arrangement CustodialLedgerEntryRow.timestamp

/-- The rows of one provider. -/
def LedgerMirror.ofProvider (ledger : LedgerMirror) (providerId : Uuid) :
    List CustodialLedgerEntryRow :=
  ledger.rows.filter fun row => decide (row.custodialProviderId = providerId)

/-- `list_paginated`. -/
def CustodialLedgerEntryRepo.listPaginated (listing : LedgerListing) (ledger : LedgerMirror)
    (providerId : Uuid) (limit : Nat) (beforeTimestamp : Option Timestamp) :
    List CustodialLedgerEntryRow :=
  let selected := (ledger.ofProvider providerId).filter fun row =>
    beforeTimestamp.all fun before => decide (row.timestamp < before)
  (listing.arrange selected).take limit

/-- `CustodialLedgerEntryOut`. -/
structure LedgerEntryOut where
  id : Uuid
  providerEntryId : String
  kind : CustodialLedgerKind
  asset : String
  amountSats : Int
  status : String
  timestamp : Timestamp
deriving DecidableEq

def LedgerEntryOut.ofRow (row : CustodialLedgerEntryRow) : LedgerEntryOut :=
  ⟨row.id, row.providerEntryId, row.kind, row.asset, row.amountSats, row.status, row.timestamp⟩

/-- The ledger in `AccountDetailOut`. -/
structure LedgerPage where
  ledgerEntries : List LedgerEntryOut
  ledgerHasMore : Bool

/-- The ledger part of `get_holding`: one row more than is shown says whether there are more. -/
def accountLedger (listing : LedgerListing) (ledger : LedgerMirror) (providerId : Uuid)
    (before : Option Timestamp) : LedgerPage :=
  let limit := 51
  let rows := CustodialLedgerEntryRepo.listPaginated listing ledger providerId limit before
  ⟨(rows.take 50).map LedgerEntryOut.ofRow, decide (rows.length = limit)⟩

/-- All pages from one on, each asked for with the timestamp of the last entry before it; the
    database may order the rows for each request anew. -/
def ledgerWalk (listings : Nat → LedgerListing) (ledger : LedgerMirror) (providerId : Uuid) :
    Nat → Nat → Option Timestamp → Option (List LedgerEntryOut)
  | 0, _, _ => none
  | fuel + 1, request, before =>
      let page := accountLedger (listings request) ledger providerId before
      if page.ledgerHasMore then
        (ledgerWalk listings ledger providerId fuel (request + 1)
          (page.ledgerEntries.getLast?.map LedgerEntryOut.timestamp)).map
            fun later => page.ledgerEntries ++ later
      else some page.ledgerEntries

end TallyKeep
