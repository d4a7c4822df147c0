import Passbook.Connection.Part
import Passbook.Request.Rejection
import Passbook.Slab
import Passbook.Split
import Passbook.Text.Quoted
import Passbook.Text.Utf8

/-!
# Errors

Every operation that can fail says why with one of these causes. The text of an error, and for
errors of configuration the field at fault and its context, are functions of the cause.
-/

namespace Passbook

/-- Why no sequence number was allocated. -/
inductive AllocationFailure where
  /-- The database cannot increment and return a number in one step. -/
  | unsupportedDatabase (dialect : String)
  /-- The increment returned no number. -/
  | noNumber (productType : String) (product : Int)
  /-- The database refused the increment or its commit, and reports why. -/
  | refused (report : String)
  deriving DecidableEq, Repr, Inhabited

/-- Whether the failure is one of allocating, which is noted. What the database reports itself is
passed on. -/
def AllocationFailure.isNoted : AllocationFailure → Bool
  | refused _ => false
  | _ => true

/-- Why an operation failed. -/
inductive Error where
  /-- Decimal arithmetic, comparison or reading has no result. -/
  | arithmetic (fault : Decimal.Fault)
  /-- An amount was sent as a binary floating-point number. -/
  | binaryAmount
  /-- A text names no kind of split. -/
  | unknownSplitKind (name : String)
  /-- No slab of the schedule contains the amount. -/
  | noMatchingSlab (amount : Decimal)
  /-- Two amounts of one calculation have different currencies. -/
  | currencyMismatch (expected actual : String)
  /-- A schedule has conflicts. -/
  | invalidSchedule (conflicts : List Slab.Conflict)
  /-- Splits cannot be taken out of a fee. -/
  | invalidSplits (findings : List Split.Finding)
  /-- A flat split is larger than the fee. -/
  | splitExceedsFee (split : Split) (fee : Decimal)
  /-- A rate of tax is negative. -/
  | negativeRate (rate : Decimal)
  /-- The rate of a tax component is negative. -/
  | negativeComponentRate (component : String) (rate : Decimal)
  /-- The institution's code is not five digits. -/
  | institutionCodeMissing (code : Option String)
  /-- The product has no account series of two digits. -/
  | accountSeriesMissing (product : Int) (series : Option String)
  /-- A base of the check digit is not fifteen digits. -/
  | checksumBase (base : String)
  /-- A sequence number is below one. -/
  | sequenceNotPositive (sequence : Int)
  /-- A sequence number has more digits than the serial leaves it. -/
  | sequenceOverflow (product sequence width : Int)
  /-- The serial leaves the sequence number a negative width. -/
  | negativeWidth (width : Int)
  /-- A classification is mapped to a limit setting that does not exist. -/
  | limitSettingMissing (classification setting : Int)
  /-- No sequence number was allocated. -/
  | allocation (failure : AllocationFailure)
  /-- A row breaks a constraint of its table. -/
  | constraintViolated
  /-- A value cannot be stored in its column at all. -/
  | unstorableValue
  /-- An integer has no room in its column. -/
  | unstorableInteger
  /-- Fields of a request were rejected. -/
  | requestRejected (rejections : List Request.Rejection)
  /-- A position lies outside the list. -/
  | positionOutOfRange
  /-- A position has no room in a machine word. -/
  | positionTooLarge
  /-- A text names no level of the journal. -/
  | unknownLevel (name : String)
  /-- A text is no address of a database. -/
  | malformedAddress
  /-- A text in an address is no integer. -/
  | malformedInteger (text : String)
  /-- An integer has this number of digits, which is too large to read it or to write it out. -/
  | longInteger (digits : Nat)
  /-- A text in an address is no real number. -/
  | malformedReal (text : String)
  /-- A text in an address is no truth value. -/
  | malformedFlag (text : String)
  /-- A parameter that holds one real number has several values. -/
  | severalReals
  /-- A parameter that holds one integer has several values. -/
  | severalIntegers
  /-- An integer in an address has no room in half a machine word. -/
  | integerTooLarge
  /-- An address asks for several isolation levels at once. -/
  | severalLevels
  /-- A pair in an address, of names or of host and port, has more than two members. -/
  | tooManyMembers
  /-- The hosts and the ports in an address do not belong together. -/
  | mismatchedHosts
  /-- The address of a file database names a server or a user. -/
  | serverOfFileDatabase
  /-- A file database needs a path and has none, not even where parameters follow it. -/
  | missingPath (followed : Bool)
  /-- The path of a file database holds a null character. -/
  | nullInPath
  /-- The file of a database cannot be opened. -/
  | unopenableFile
  /-- The file of a database is none. -/
  | foreignFile
  /-- The report of an error is no text. -/
  | undecodable (fault : Text.OctetFault)
  /-- No extension has this name. -/
  | unknownPlugin (name : String)
  /-- No database of this name can be reached by the driver. -/
  | unknownDatabase (database : String)
  /-- An address names a part of a database's support that is no driver. -/
  | notDriver (part : Part)
  /-- A driver needs a library that is not there. -/
  | missingLibrary (library : String)
  deriving DecidableEq, Repr, Inhabited

/-- A fault of decimal arithmetic stops the operation that met it. -/
instance : MonadLift (Except Decimal.Fault) (Except Error) where
  monadLift
    | .ok a => .ok a
    | .error fault => .error (.arithmetic fault)

@[simp] theorem liftM_ok {α : Type} (a : α) :
    (liftM (Except.ok a : Except Decimal.Fault α) : Except Error α) = .ok a := rfl

@[simp] theorem liftM_error {α : Type} (f : Decimal.Fault) :
    (liftM (Except.error f : Except Decimal.Fault α) : Except Error α) =
      .error (.arithmetic f) := rfl

/-- A value in the context of an error. -/
inductive Detail where
  | decimal (value : Decimal)
  | text (value : Option String)
  | whole (value : Int)
  deriving DecidableEq, Repr, Inhabited

namespace Error

/-- The text of a list of validation errors, each with its parameter. -/
def validationMessage (errors : List (String × String)) : String :=
  "Validation errors exist: " ++ "; ".intercalate (errors.map fun e => e.1 ++ ": " ++ e.2)

/-- Number of digits that the base of a check digit has. -/
def checksumDigits : Nat := 15

/-- The text of an error. -/
def message : Error → String
  | arithmetic .malformed => "Not a decimal numeral"
  | arithmetic .invalidOperation => "Decimal operation without result"
  | arithmetic .overflow => "Decimal result out of range"
  | binaryAmount => "Monetary values must not be floats"
  | unknownSplitKind name => s!"{Text.quoted name} is not a valid SplitKind"
  | noMatchingSlab amount => s!"No fee slab covers amount {amount}"
  | currencyMismatch expected actual =>
    s!"Currency mismatch: expected {expected}, got {actual}"
  | invalidSchedule conflicts =>
    validationMessage (conflicts.map fun c => (c.parameter, c.message))
  | invalidSplits findings => validationMessage (findings.map fun f => (f.parameter, f.message))
  | splitExceedsFee split fee =>
    let finding := Split.Finding.shareExceedsFee split fee
    validationMessage [(finding.parameter, finding.message)]
  | negativeRate rate => s!"VAT percentage cannot be negative, got: {rate}"
  | negativeComponentRate component rate =>
    s!"Tax component {component} has a negative rate: {rate}"
  | institutionCodeMissing _ => "Institution code not available"
  | accountSeriesMissing product _ => s!"Account number prefix not set for product {product}"
  | checksumBase _ =>
    s!"Account number checksum base length is invalid, expected {checksumDigits} digits"
  | sequenceNotPositive sequence => s!"Sequence must be positive, got: {sequence}"
  | sequenceOverflow product sequence width =>
    s!"Sequence {sequence} for product {product} exceeds {width} digits"
  | negativeWidth width =>
    s!"Invalid format specifier '0{width}d' for object of type 'int'"
  | limitSettingMissing classification setting =>
    s!"Transaction limit setting {setting} mapped to classification {classification} not found"
  | allocation (.unsupportedDatabase dialect) =>
    s!"Database dialect {dialect} has no atomic upsert for sequence allocation"
  | allocation (.noNumber productType product) =>
    s!"Failed to allocate next account number sequence for {productType} product {product}"
  | allocation (.refused report) => report
  | constraintViolated => "Row breaks a constraint of its table"
  | unstorableValue => "Value cannot be stored"
  | unstorableInteger => "Integer cannot be stored"
  | requestRejected rejections =>
    validationMessage (rejections.map fun r => (r.key, r.reason.message))
  | positionOutOfRange => "list index out of range"
  | positionTooLarge => "cannot fit 'int' into an index-sized integer"
  | unknownLevel name => s!"Unknown level: {Text.quoted name}"
  | malformedAddress => "Not the address of a database"
  | malformedInteger text =>
    "invalid literal for int() with base 10: " ++ Text.shortened 200 (Text.quoted text)
  | longInteger digits => s!"The integer has {digits} digits"
  | malformedReal text => s!"could not convert string to float: {Text.quoted text}"
  | malformedFlag text => s!"String is not true/false: {Text.quoted text}"
  | severalReals => "Not a real number but several values"
  | severalIntegers => "Not an integer but several values"
  | integerTooLarge => "The integer is too large"
  | severalLevels =>
    "isolation_level string must be '', 'DEFERRED', 'IMMEDIATE', or 'EXCLUSIVE'"
  | tooManyMembers => "too many values to unpack (expected 2)"
  | mismatchedHosts => "Hosts and ports do not belong together"
  | serverOfFileDatabase => "A file database has no server"
  | missingPath _ => "A file database needs a path"
  | nullInPath => "embedded null byte"
  | unopenableFile => "The file cannot be opened"
  | foreignFile => "The file is no database"
  | undecodable fault => s!"No text at octet {fault.position}"
  | unknownPlugin name => s!"No extension {name}"
  | unknownDatabase database => s!"No database {database}"
  | notDriver _ => "A part that is no driver"
  | missingLibrary library => s!"No module named {Text.quoted library}"

/-- The field that an error of configuration is about. -/
def field? : Error → Option String
  | noMatchingSlab _ => some "chartSlabs"
  | institutionCodeMissing _ => some "institutionCode"
  | accountSeriesMissing .. => some "accountNumberPrefix"
  | checksumBase _ => some "checksumBase"
  | currencyMismatch .. => some "currency"
  | limitSettingMissing .. => some "globalLimitId"
  | _ => none

/-- The values that an error of configuration names. -/
def context : Error → List (String × Detail)
  | noMatchingSlab amount => [("amount", .decimal amount)]
  | institutionCodeMissing code => [("value", .text code)]
  | accountSeriesMissing product series =>
    [("product_id", .whole product), ("prefix", .text series)]
  | checksumBase base => [("base", .text (some base)), ("expected", .whole checksumDigits)]
  | currencyMismatch expected actual =>
    [("expected", .text (some expected)), ("actual", .text (some actual))]
  | limitSettingMissing classification setting =>
    [("classification_ref", .whole classification), ("limit_setting_id", .whole setting)]
  | _ => []

end Error

end Passbook
