import Passbook.AccountNumber
import Passbook.Store

/-!
# Account numbers and deposit checks from the store

An account number is generated in two steps: a sequence number is allocated for good, then the
number is put together from the product's series. A number that cannot be put together leaves
its sequence number used. A deposit is checked against the limits of the client's classification,
and nothing is stored. Both read rows, and the error of a read that fails is theirs.
-/

namespace Passbook

namespace Allocator

/-- What is noted about putting an account number together. -/
def numberJournal (key : SequenceKey) (sequence : Int) : Except Error String → Journal
  | .ok number =>
    { records := [.accountNumberGenerated key.productType key.product sequence number]
      counters := [.accountNumber key.productType] }
  | .error _ => {}

/-- Generates the next account number of a product, whose series the given function reads. -/
def generate {σ : Type} (allocator : Allocator σ) (institution : Option String)
    (readSeries : Int → Except Error (Option String)) (key : SequenceKey) (state : σ) :
    (Except Error String × Journal) × σ :=
  match allocator.nextSequence key state with
  | ((.error e, journal), state) => ((.error e, journal), state)
  | ((.ok sequence, journal), state) =>
    let number := AccountNumber.synthesize institution readSeries key.product sequence >>= id
    ((number, journal ++ numberJournal key sequence number), state)

end Allocator

namespace Store

/-- Allocates the next sequence number of a product. -/
def nextSequence (store : Store) (key : SequenceKey) : (Except Error Int × Journal) × Store :=
  let (outcome, sequences) := Allocator.ofSequences.nextSequence key store.sequences
  (outcome, { store with sequences })

/-- Generates the next account number of a product. -/
def generate (store : Store) (institution : Option String) (key : SequenceKey) :
    (Except Error String × Journal) × Store :=
  let (outcome, sequences) :=
    Allocator.ofSequences.generate institution store.readSeries key store.sequences
  (outcome, { store with sequences })

/-- Allocates several sequence numbers in one transaction, which is committed or undone. -/
def allocate (store : Store) (key : SequenceKey) (times : Nat) (commit : Bool) :
    Except Error (List Int) × Store :=
  let (outcome, sequences) := Allocator.ofSequences.nextMany key times store.sequences
  (outcome.mapError .allocation, if commit then { store with sequences } else store)

end Store

namespace ProfileLookup

/-- What is noted about a deposit check. -/
def checkJournal (classification : Option Int) (amount : Money) :
    Except Error (List LimitBreach) → Journal
  | .ok [] => {}
  | .ok broken =>
    { records := [.limitsBroken classification (broken.map (·.label)) amount.amount]
      counters := broken.map .limitBroken }
  | .error _ => {}

/-- Checks a deposit against the limits of a classification, whose profile is looked up. -/
def checkDeposit (profile? : ProfileLookup) (classification : Option Int) (balance amount : Money) :
    Except Error (List LimitBreach) × Journal :=
  let outcome := profile?.breaches classification balance amount
  (outcome, checkJournal classification amount outcome)

end ProfileLookup

namespace Store

/-- Checks a deposit against the stored limits of a classification. -/
def checkDeposit (store : Store) (classification : Option Int) (balance amount : Money) :
    Except Error (List LimitBreach) × Journal :=
  store.profile?.checkDeposit classification balance amount

end Store

end Passbook
