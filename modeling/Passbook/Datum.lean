import Passbook.Binary64
import Passbook.Decimal.Reader

/-!
# Loosely typed values

Callers send amounts, rates and the fields of requests as values of any type. Lists and records
are never accepted, so nothing is kept of them.
-/

namespace Passbook

/-- A value as a caller sent it. -/
inductive Datum where
  /-- No value. -/
  | absent
  | flag (value : Bool)
  | whole (value : Int)
  | binary (value : Binary64)
  | decimal (value : Decimal)
  | text (value : String)
  /-- A list or a record. -/
  | compound
  deriving DecidableEq, Repr, Inhabited

end Passbook
