import Passbook.Binary64
import Passbook.Limit
import Passbook.MachineWord
import Passbook.Store.Sequences

/-!
# The store

The store holds the sequences, the products with their account series, the limit settings, and
the settings that classifications are mapped to. A row that breaks a constraint of its table is
refused and nothing is stored.

Ids and classifications are integers that have room in their columns: they are those of rows, and
a caller who asks for a row has its id from another one. A number of decimal places is sent with
its setting and is checked.

Limits are kept as binary numbers and come back with two decimals.
-/

namespace Passbook

/-- A savings product. -/
structure Product where
  id : Int
  name : String
  /-- The digits that the product's account numbers start with. -/
  series : Option String
  deriving DecidableEq, Repr, Inhabited

/-- A named pair of deposit limits. -/
structure LimitSetting where
  id : Int
  name : String
  maxSingleDeposit : Decimal
  cumulativeBalance : Decimal
  currency : Currency
  deriving DecidableEq, Repr, Inhabited

/-- The limit setting of a classification. -/
structure LimitMapping where
  classification : Int
  setting : Option Int
  deriving DecidableEq, Repr, Inhabited

/-- All stored rows. -/
structure Store where
  sequences : Sequences := {}
  products : List Product := []
  settings : List LimitSetting := []
  mappings : List LimitMapping := []
  deriving DecidableEq, Repr, Inhabited

namespace Store

/-- A limit as it comes back from the store: the nearest binary number with two decimals, and
zero without its sign. A value that is no number is stored as no value. -/
def storedAmount (d : Decimal) : Except Error (Option Decimal) :=
  match Binary64.ofDecimal? d with
  | none => .error .unstorableValue
  | some (.finite negative m q) => .ok (Binary64.finite (negative && m != 0) m q).toCents?
  | some b => .ok b.toCents?

/-- A required amount as it comes back from the store. -/
def storedAmount? : Option Decimal → Except Error (Option Decimal)
  | none => .ok none
  | some d => storedAmount d

/-- The store with one more product. -/
def addProduct (store : Store) (id : Int) (name series : Option String) : Except Error Store :=
  match name with
  | none => .error .constraintViolated
  | some name =>
    if store.products.any (·.id == id) then .error .constraintViolated
    else .ok { store with products := store.products ++ [⟨id, name, series⟩] }

/-- The store with one more limit setting. Without a number of decimal places the currency has
two; the number needs room in a machine word. -/
def addSetting (store : Store) (id : Int) (name : Option String)
    (maxSingleDeposit cumulativeBalance : Option Decimal) (currencyCode : Option String)
    (decimalPlaces : Option Int) : Except Error Store := do
  let single ← storedAmount? maxSingleDeposit
  let cumulative ← storedAmount? cumulativeBalance
  let decimalPlaces := decimalPlaces.getD 2
  if !fitsWord decimalPlaces then throw .unstorableInteger
  match name, single, cumulative, currencyCode with
  | some name, some single, some cumulative, some code =>
    if store.settings.any (·.id == id) then .error .constraintViolated
    else
      let currency : Currency := ⟨code, decimalPlaces⟩
      return { store with settings := store.settings ++ [⟨id, name, single, cumulative, currency⟩] }
  | _, _, _, _ => .error .constraintViolated

/-- The store with one more mapping, whose setting need not exist. -/
def addMapping (store : Store) (classification setting : Option Int) : Except Error Store :=
  match classification with
  | none => .error .constraintViolated
  | some classification =>
    if store.mappings.any (·.classification == classification) then .error .constraintViolated
    else .ok { store with mappings := store.mappings ++ [⟨classification, setting⟩] }

/-- The account series of a product. -/
def series? (store : Store) (product : Int) : Option String :=
  (store.products.find? fun p => p.id == product).bind (·.series)

/-- Reads the account series of a product. A read of stored rows does not fail. -/
def readSeries (store : Store) (product : Int) : Except Error (Option String) :=
  .ok (store.series? product)

/-- The limit profile of a classification. A classification without mapping or without setting
has none; a setting that does not exist is an error. -/
def profile? (store : Store) : ProfileLookup := fun classification =>
  match store.mappings.find? fun m => m.classification == classification with
  | none => .ok none
  | some mapping =>
    match mapping.setting with
    | none => .ok none
    | some id =>
      match store.settings.find? fun s => s.id == id with
      | none => .error (.limitSettingMissing classification id)
      | some s =>
        .ok (some {
          classification
          maxSingleDeposit := s.maxSingleDeposit
          cumulativeBalance := s.cumulativeBalance
          currency := s.currency
          name := s.name })

end Store

end Passbook
