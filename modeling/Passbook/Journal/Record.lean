import Passbook.Decimal.Printer
import Passbook.Limit

/-!
# Records and counters

What happens is noted in two ways: a record with a level, a message and named values, and
counters that rise by one. An operation returns its notes beside its result.
-/

namespace Passbook

namespace Journal

/-- How grave a record is. -/
inductive Level where
  /-- Below every level of a record. -/
  | unset
  | debug
  | info
  | warning
  | failure
  | critical
  deriving DecidableEq, Repr, Inhabited

namespace Level

/-- The rank of a level. -/
def rank : Level → Nat
  | unset => 0
  | debug => 10
  | info => 20
  | warning => 30
  | failure => 40
  | critical => 50

/-- The written name. -/
def name : Level → String
  | unset => "NOTSET"
  | debug => "DEBUG"
  | info => "INFO"
  | warning => "WARNING"
  | failure => "ERROR"
  | critical => "CRITICAL"

/-- All levels. -/
def all : List Level := [unset, debug, info, warning, failure, critical]

/-- The level of a name, letter by letter; two levels have a second name. -/
def ofName? (s : String) : Option Level :=
  if s = "WARN" then some warning
  else if s = "FATAL" then some critical
  else all.find? fun level => level.name = s

theorem ofName?_name (level : Level) : ofName? level.name = some level := by
  cases level <;> decide

end Level

/-- A named value of a record. -/
inductive Value where
  | text (value : Option String)
  | whole (value : Option Int)
  | flag (value : Bool)
  | texts (value : List String)
  deriving DecidableEq, Repr, Inhabited

/-- A record: its level, its message and its named values. -/
structure Record where
  level : Level
  message : String
  values : List (String × Value) := []
  deriving DecidableEq, Repr, Inhabited

namespace Record

/-- A settled charge. -/
def chargeSettled (transaction : String) (charge : Option String) (fee tax : Decimal)
    (splits : Int) (backdated : Bool) : Record :=
  { level := .info
    message := "Charge settled"
    values := [
      ("transaction_ref", .text (some transaction)),
      ("charge_ref", .text charge),
      ("step", .text (some "charge_settled")),
      ("fee_amount", .text (some fee.toText)),
      ("vat_amount", .text (some tax.toText)),
      ("split_count", .whole (some splits)),
      ("backdated", .flag backdated)] }

/-- A generated account number with the sequence number it was made from. -/
def accountNumberGenerated (productType : String) (product sequence : Int) (number : String) :
    Record :=
  { level := .info
    message := "Account number generated"
    values := [
      ("step", .text (some "account_number_generated")),
      ("product_type", .text (some productType)),
      ("product_id", .whole (some product)),
      ("sequence", .whole (some sequence)),
      ("account_number", .text (some number))] }

/-- A deposit that breaks limits. -/
def limitsBroken (classification : Option Int) (limits : List String) (amount : Decimal) :
    Record :=
  { level := .warning
    message := "Deposit exceeds classification limits"
    values := [
      ("step", .text (some "limit_check")),
      ("classification_ref", .whole classification),
      ("breached_limits", .texts limits),
      ("transaction_amount", .text (some amount.toText))] }

/-- A sequence number that was not allocated. -/
def allocationFailed (productType : String) (product : Int) : Record :=
  { level := .failure
    message := "Sequence allocation failed"
    values := [
      ("step", .text (some "sequence_allocation")),
      ("product_type", .text (some productType)),
      ("product_id", .whole (some product))] }

end Record

/-- A counter that rises by one. -/
inductive Counter where
  /-- A charge was settled, with tax or without. -/
  | chargeSettled (taxed : Bool)
  /-- No slab contained an amount. -/
  | unmatchedSlab
  /-- A deposit breaks a limit. -/
  | limitBroken (limit : LimitBreach)
  /-- An account number was generated for a type of product. -/
  | accountNumber (productType : String)
  /-- A sequence number was not allocated. -/
  | allocationFailed
  /-- The time of an allocation was taken, failed or not. -/
  | allocationTimed
  deriving DecidableEq, Repr, Inhabited

end Journal

/-- The notes of an operation: its records in order, and the counters that rose, one entry for
each time. -/
structure Journal where
  records : List Journal.Record := []
  counters : List Journal.Counter := []
  deriving DecidableEq, Repr, Inhabited

namespace Journal

/-- The notes of two operations, one after the other. -/
def append (first second : Journal) : Journal :=
  ⟨first.records ++ second.records, first.counters ++ second.counters⟩

instance : Append Journal := ⟨append⟩

/-- How often a counter rose. -/
def count (journal : Journal) (counter : Counter) : Nat := journal.counters.count counter

@[simp] theorem records_append (a b : Journal) : (a ++ b).records = a.records ++ b.records := rfl

@[simp] theorem counters_append (a b : Journal) :
    (a ++ b).counters = a.counters ++ b.counters := rfl

@[simp] theorem count_append (a b : Journal) (c : Counter) :
    (a ++ b).count c = a.count c + b.count c := by
  simp [count]

end Journal

end Passbook
