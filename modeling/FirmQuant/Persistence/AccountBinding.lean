import FirmQuant.Domain.Facts

/-!
# The account binding

The record of `persistence/account_authority.py` that ties the installation to one broker account.
-/

namespace FirmQuant

/-- An `AccountBinding`.  Its id and its payload are functions of these fields. -/
structure AccountBinding where
  accountIdHash : Digest
  accountType : AccountType
  brokerSnapshotSha256 : Digest
  accountStateSha256 : Digest
  uquantCommit : String
  uquantCodeFingerprint : Digest
  dataHash : Digest
  dataAsOf : String
  dataSymbols : List String
  createdAt : DateTime
  deriving DecidableEq

end FirmQuant
