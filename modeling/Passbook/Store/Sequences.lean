import Passbook.Error
import Passbook.Journal.Record

/-!
# Sequence numbers

Each product of each type has a sequence of its own, counted from one. A number is allocated by
incrementing the sequence and returning it in one step, which needs a database that can do so. The
database may refuse the step, for instance while another one writes or where an id has no room in
its column.
-/

namespace Passbook

/-- The product whose accounts a sequence numbers. Its id is that of a row and has room in the
column, so it is not checked again. -/
structure SequenceKey where
  productType : String
  product : Int
  deriving DecidableEq, Repr, Inhabited

/-- The last allocated number of each sequence, the latest first. -/
structure Sequences where
  rows : List (SequenceKey × Nat) := []
  deriving DecidableEq, Repr, Inhabited

namespace Sequences

/-- The last allocated number of a sequence. -/
def current? (s : Sequences) (key : SequenceKey) : Option Nat :=
  (s.rows.find? fun row => row.1 == key).map (·.2)

/-- Sets the last allocated number of a sequence. -/
def set (s : Sequences) (key : SequenceKey) (n : Nat) : Sequences :=
  ⟨(key, n) :: s.rows.filter fun row => row.1 != key⟩

/-- Increments a sequence. -/
def increment (s : Sequences) (key : SequenceKey) : Nat × Sequences :=
  let n := (s.current? key).getD 0 + 1
  (n, s.set key n)

@[simp] theorem current?_set_self (s : Sequences) (key : SequenceKey) (n : Nat) :
    (s.set key n).current? key = some n := by
  simp [current?, set]

theorem current?_set_of_ne (s : Sequences) {key other : SequenceKey} (n : Nat)
    (h : other ≠ key) : (s.set key n).current? other = s.current? other := by
  simp only [current?, set]
  rw [List.find?_cons_of_neg (by simpa using Ne.symm h), List.find?_filter]
  congr 2
  funext row
  by_cases hrow : row.1 = other <;> simp [hrow, h]

end Sequences

/-- A database that sequence numbers are allocated from: its dialect, and the statement that
increments a sequence, which may return nothing or be refused with a report. -/
structure Allocator (σ : Type) where
  dialect : String
  upsert : SequenceKey → σ → Except String (Option Int) × σ

namespace Allocator

/-- The dialects that increment and return in one statement. -/
def dialects : List String := ["postgresql", "sqlite"]

/-- Allocates the next number of a sequence. In an unsupported dialect no statement is run. -/
def next {σ : Type} (allocator : Allocator σ) (key : SequenceKey) (state : σ) :
    Except AllocationFailure Int × σ :=
  if dialects.contains allocator.dialect then
    match allocator.upsert key state with
    | (.ok (some n), state) => (.ok n, state)
    | (.ok none, state) => (.error (.noNumber key.productType key.product), state)
    | (.error report, state) => (.error (.refused report), state)
  else (.error (.unsupportedDatabase allocator.dialect), state)

/-- What is noted about an allocation. Its time is taken in any case. -/
def journal (key : SequenceKey) : Except AllocationFailure Int → Journal
  | .ok _ => { counters := [.allocationTimed] }
  | .error failure =>
    if failure.isNoted then
      { records := [.allocationFailed key.productType key.product]
        counters := [.allocationFailed, .allocationTimed] }
    else { counters := [.allocationTimed] }

/-- Allocates the next number of a sequence in a transaction of its own and notes the outcome. -/
def nextSequence {σ : Type} (allocator : Allocator σ) (key : SequenceKey) (state : σ) :
    (Except Error Int × Journal) × σ :=
  let (outcome, state) := allocator.next key state
  ((outcome.mapError .allocation, journal key outcome), state)

/-- Allocates several numbers of one sequence. -/
def nextMany {σ : Type} (allocator : Allocator σ) (key : SequenceKey) :
    Nat → σ → Except AllocationFailure (List Int) × σ
  | 0, state => (.ok [], state)
  | times + 1, state =>
    match allocator.next key state with
    | (.error failure, state) => (.error failure, state)
    | (.ok n, state) =>
      let (rest, state) := allocator.nextMany key times state
      (rest.map (n :: ·), state)

/-- Allocation from stored sequences. -/
def ofSequences : Allocator Sequences where
  dialect := "sqlite"
  upsert key s :=
    let (n, s) := s.increment key
    (.ok (some n), s)

/-- A stand-in that answers every increment alike and counts the statements run. -/
def standIn (dialect : String) (returned : Option Int) : Allocator Nat where
  dialect
  upsert _ executed := (.ok returned, executed + 1)

end Allocator

end Passbook
