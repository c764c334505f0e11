/-
Module: TallyKeep.Api.FixMetadata
Layer: Api
Purpose: The two endpoints that fix the key-origin metadata of a holding, with the items of the
  security health list they resolve.
Trusted boundary: translation of `fix_metadata_reexport`, `fix_metadata_manual` and
  the end of `_apply_fix_metadata` in `api/v1/security_health.py`.  The items are rows of the same
  database; what is published of them is left out
Main exports: MetadataBook, FixRequest, fixMetadata, afterFix, reportsSuccess
-/
import TallyKeep.Services.Holding
import TallyKeep.Services.SecurityHealth

namespace TallyKeep

open Regex

/-- The holdings with the items of the security health list. -/
structure MetadataBook where
  db : HoldingDatabase
  health : HealthDatabase

/-- What is submitted: another export of the descriptor, or the fingerprint and the path of its
    key. -/
inductive FixRequest where
  | reexport (expression : String)
  | manual (masterFingerprint derivationPath : String)
deriving DecidableEq

variable (classes : CharClasses) (library : DescriptorLibrary)

/-- The endpoints: a fix that succeeds resolves the items of the holding. -/
def fixMetadata (book : MetadataBook) (holdingId : Uuid) (request : FixRequest)
    (network : Option Network) (now : Timestamp) :
    Except PyError (MetadataBook × FixMetadataResponse) := do
  let (db, response) ←
    match request with
    | .reexport expression =>
        applyFixMetadata classes library book.db holdingId expression network
    | .manual masterFingerprint derivationPath =>
        fixMetadataManual classes library book.db holdingId masterFingerprint derivationPath network
  let health :=
    if response.success then (resolveMissingMetadataItemsForHolding book.health holdingId now).db
    else book.health
  return (⟨db, health⟩, response)

/-- What is committed: an exception leaves everything as it was. -/
def afterFix (book : MetadataBook) :
    Except PyError (MetadataBook × FixMetadataResponse) → MetadataBook
  | .ok (after, _) => after
  | .error _ => book

/-- Whether success is reported; an exception is an answer of failure. -/
def reportsSuccess : Except PyError (MetadataBook × FixMetadataResponse) → Bool
  | .ok (_, response) => response.success
  | .error _ => false

end TallyKeep
