import FirmQuant.Domain.Facts

/-!
# Decision snapshots

The record of `strategy/snapshots.py` that one strategy decision leaves.
-/

namespace FirmQuant

/-- A `DecisionSnapshot`.  The constructor also compares the payload with the other fields. -/
structure DecisionSnapshot where
  strategySession : Date
  decisionId : String
  requestFingerprint : Digest
  inputFingerprint : Digest
  firmquantCommit : String
  uquantCommit : String
  uquantCodeFingerprint : Digest
  uquantConfigFingerprint : Digest
  dataManifestSha256 : Digest
  universeManifestSha256 : Digest
  brokerSnapshotSha256 : Digest
  accountBeforeSha256 : Digest
  accountAfterSha256 : Digest
  payloadJson : String
  payloadSha256 : Digest
  createdAt : DateTime
  supersedesDecisionId : Option String
  deriving DecidableEq

end FirmQuant
