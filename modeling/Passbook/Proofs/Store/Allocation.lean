import Mathlib.Data.List.Induction
import Passbook.Proofs.Store.Numbers

/-!
# Sequence numbers over a run

Calls for sequence numbers and calls for account numbers draw on the same sequences, and each uses
up one number of its product and type, whether it gets its account number or not. Along every run
the last number of a sequence is the count of the calls for it, so the next call gets the number
after that count: no number is left out, none is given twice, and calls for other products or types
make no difference.
-/

namespace Passbook

open AccountNumber (HasDigits isDigits answer)

namespace Sequences

/-- The sequences hold the last number of each product and type that was called, counted from
one. -/
def Counts (s : Sequences) (calls : List SequenceKey) : Prop :=
  ∀ key, s.current? key = if calls.count key = 0 then none else some (calls.count key)

theorem counts_empty : ({} : Sequences).Counts [] := fun _ => rfl

/-- The last number of a sequence is the number of calls for it. -/
theorem Counts.last_eq {s : Sequences} {calls : List SequenceKey} (h : s.Counts calls)
    (key : SequenceKey) : s.last key = calls.count key := by
  rw [last, h key]
  by_cases hzero : calls.count key = 0
  · rw [if_pos hzero, hzero]
    rfl
  · rw [if_neg hzero]
    rfl

/-- One more call of a product and type counts in its sequence. -/
theorem Counts.increment {s : Sequences} {calls : List SequenceKey} (h : s.Counts calls)
    (key : SequenceKey) : (s.increment key).2.Counts (calls ++ [key]) := by
  intro other
  rw [current?_increment, List.count_append]
  by_cases hkey : key = other
  · subst hkey
    rw [if_pos rfl, List.count_singleton_self, if_neg (Nat.succ_ne_zero _), h.last_eq]
  · have hother : [key].count other = 0 :=
      List.count_eq_zero_of_not_mem (by simpa using Ne.symm hkey)
    rw [if_neg hkey, hother, Nat.add_zero]
    exact h other

end Sequences

/-- A call for a sequence number, or for an account number of an institution. -/
inductive NumberCall where
  | next (key : SequenceKey)
  | generate (institution : Option String) (key : SequenceKey)
  deriving DecidableEq, Repr

/-- The product and type that a call is for. -/
def NumberCall.key : NumberCall → SequenceKey
  | next key => key
  | generate _ key => key

namespace Store

variable {store : Store} {institution : Option String} {key : SequenceKey}

/-- The store after a call. -/
def afterCall (store : Store) : NumberCall → Store
  | .next key => (store.nextSequence key).2
  | .generate institution key => (store.generate institution key).2

/-- The store after several calls. -/
def afterCalls (store : Store) (calls : List NumberCall) : Store := calls.foldl afterCall store

/-- A call for a sequence number gets the number after the last one. -/
theorem nextSequence_outcome (store : Store) (key : SequenceKey) :
    (store.nextSequence key).1.1 = .ok (store.sequences.last key + 1 : Nat) := rfl

/-- Every call increments the sequence of its product and type and leaves all else alone. -/
theorem afterCall_eq (store : Store) (call : NumberCall) :
    store.afterCall call =
      { store with sequences := (store.sequences.increment call.key).2 } := by
  cases call with
  | next key => rfl
  | generate institution key => rfl

/-- Along a run the sequences count the calls for them, and the products stay. -/
theorem afterCalls_counts (store : Store) (hempty : store.sequences = {})
    (calls : List NumberCall) :
    (store.afterCalls calls).sequences.Counts (calls.map NumberCall.key) ∧
      (store.afterCalls calls).products = store.products := by
  induction calls using List.reverseRecOn with
  | nil =>
    refine ⟨?_, rfl⟩
    rw [afterCalls, List.foldl_nil, hempty]
    exact Sequences.counts_empty
  | append_singleton earlier call ih =>
    obtain ⟨hcounts, hproducts⟩ := ih
    have hstep : store.afterCalls (earlier ++ [call]) =
        (store.afterCalls earlier).afterCall call := by
      rw [afterCalls, List.foldl_append]
      rfl
    rw [hstep, afterCall_eq, List.map_append]
    exact ⟨hcounts.increment call.key, hproducts⟩

/-- A call for an account number gets the answer for the next sequence number. -/
theorem generate_answer (store : Store) (institution : Option String) (key : SequenceKey) :
    (store.generate institution key).1.1 =
      answer institution (store.series? key.product) key.product
        (store.sequences.last key + 1 : Nat) := by
  rw [generate_outcome, numberOf, AccountNumber.run_synthesize]

/-- After any calls on a store without sequences, the next call of a product and type gets the
number after the count of its earlier calls. An account number shows it as long as it has room; a
number that has room in a machine word is never too long to be written out. -/
theorem allocation_exact (store : Store) (hempty : store.sequences = {})
    (earlier : List NumberCall) (key : SequenceKey) :
    let before := store.afterCalls earlier
    let k := (earlier.map NumberCall.key).count key + 1
    ((before.nextSequence key).1.1 = .ok (k : Nat) ∧
      (before.nextSequence key).2.sequences.current? key = some k) ∧
    (∀ institution, (before.generate institution key).2.sequences.current? key = some k ∧
      (HasDigits 5 institution → HasDigits 2 (store.series? key.product) →
        (k ≤ 9999999 → ∃ number, (before.generate institution key).1.1 = .ok number ∧
          isDigits 10 number = true ∧
          Nat.ofDigitChars 10 ((number.toList.drop 2).take 7) 0 = k) ∧
        (9999999 < k → Text.isWritable k = true → (before.generate institution key).1.1 =
          .error (.sequenceOverflow key.product k 7)) ∧
        (Text.isWritable k = false → (before.generate institution key).1.1 =
          .error (.longInteger (digitCount k))) ∧
        (fitsWord k = true → Text.isWritable k = true))) ∧
    (∀ other, before.sequences.current? other =
      if (earlier.map NumberCall.key).count other = 0 then none
      else some ((earlier.map NumberCall.key).count other)) := by
  intro before k
  obtain ⟨hcounts, hproducts⟩ := afterCalls_counts store hempty earlier
  have hlast : before.sequences.last key + 1 = k := by
    rw [hcounts.last_eq]
  have hseries : before.series? key.product = store.series? key.product := by
    rw [series?, series?, hproducts]
  have hcurrent : (before.sequences.increment key).2.current? key = some k := by
    rw [Sequences.current?_increment, if_pos rfl, hlast]
  refine ⟨⟨?_, hcurrent⟩, ?_, hcounts⟩
  · rw [nextSequence_outcome, hlast]
  · intro institution
    refine ⟨hcurrent, ?_⟩
    intro hcode hdigits
    rw [generate_answer, hlast, hseries]
    refine ⟨?_, ?_, ?_, ?_⟩
    · intro hle
      obtain ⟨code, rfl, hcode⟩ := hcode
      obtain ⟨series, hfound, hdigits⟩ := hdigits
      rw [hfound]
      have hone : (1 : Int) ≤ k := by omega
      have hroom : (k : Int) ≤ 9999999 := by omega
      obtain ⟨number, hnumber, hspells⟩ :=
        AccountNumber.answer_spells key.product hcode hdigits hone hroom
      refine ⟨number, hnumber, hspells.digits, ?_⟩
      have hread := hspells.sequence
      omega
    · intro hlarge hshort
      exact AccountNumber.answer_of_overflow hcode hdigits hshort (by omega)
    · intro hlong
      exact AccountNumber.answer_of_long hcode hdigits hlong
    · exact Text.isWritable_of_fitsWord

/-- Calls for two products: one without an institution, a plain one, one for a product without
series. -/
def mixedCalls : List NumberCall :=
  [.generate none ⟨"SAVINGS", 1⟩, .next ⟨"SAVINGS", 1⟩, .generate (some "50547") ⟨"SAVINGS", 3⟩]

/-- After two calls of its own and one of another product, the first product gets the number
three. -/
theorem mixedCalls_third :
    threeProducts.sequences = {} ∧
      ((threeProducts.afterCalls mixedCalls).nextSequence ⟨"SAVINGS", 1⟩).1.1 = .ok 3 ∧
      ∃ number, ((threeProducts.afterCalls mixedCalls).generate (some "50547")
          ⟨"SAVINGS", 1⟩).1.1 = .ok number ∧
        Nat.ofDigitChars 10 ((number.toList.drop 2).take 7) 0 = 3 := by
  have hcode : HasDigits 5 (some "50547") := ⟨"50547", rfl, by decide⟩
  have hseries : HasDigits 2 (threeProducts.series? 1) := ⟨"02", rfl, by decide⟩
  obtain ⟨⟨hnext, -⟩, hgenerate, -⟩ :=
    allocation_exact threeProducts rfl mixedCalls ⟨"SAVINGS", 1⟩
  obtain ⟨-, hnumber⟩ := hgenerate (some "50547")
  obtain ⟨number, hok, -, hread⟩ := (hnumber hcode hseries).1 (by decide)
  exact ⟨rfl, hnext, number, hok, hread⟩

end Store

end Passbook
