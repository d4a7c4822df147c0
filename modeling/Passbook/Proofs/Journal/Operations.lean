import Passbook.Proofs.AccountNumber.Answers
import Passbook.Proofs.Settlement.Failures
import Passbook.Proofs.Settlement.Posting
import Passbook.Store.Services

/-!
# What each call notes

A call of a service ends with an outcome, and its notes can be read off that outcome: one counter
and one record for what was achieved or missed, and nothing for any other failure, however far the
call came.
-/

namespace Passbook

open Error (Monetary)
open Journal (Counter Record)

/-- Whether the error is a noted one of allocating a sequence number. -/
def Error.isAllocation : Error → Bool
  | allocation failure => failure.isNoted
  | _ => false

/-- A call of a service with its outcome, or a change of the store from elsewhere. -/
inductive Event where
  | settled (charge : Charge) (outcome : Except Error Settlement)
  | checked (classification : Option Int) (amount : Money)
    (outcome : Except Error (List LimitBreach))
  | allocated (key : SequenceKey) (outcome : Except Error Int)
  | generated (key : SequenceKey) (outcome : Except Error String)
  | changed

namespace Event

/-- The error that the call stopped with. -/
def error? : Event → Option Error
  | settled _ (.error e) => some e
  | checked _ _ (.error e) => some e
  | allocated _ (.error e) => some e
  | generated _ (.error e) => some e
  | _ => none

/-- Whether the call stopped with an error of allocating. -/
def isAllocationFailure (event : Event) : Bool := event.error?.any (·.isAllocation)

/-- Whether the event is one of those that a counter counts. -/
def counts : Counter → Event → Bool
  | .chargeSettled taxed, settled _ (.ok s) => s.tax.applied == taxed
  | .unmatchedSlab, settled _ (.error (.noMatchingSlab _)) => true
  | .limitBroken limit, checked _ _ (.ok broken) => broken.contains limit
  | .accountNumber productType, generated key (.ok _) => key.productType == productType
  | .allocationFailed, event => event.isAllocationFailure
  | .allocationTimed, allocated .. => true
  | .allocationTimed, generated .. => true
  | _, _ => false

/-- The sequence number that an account number is made from. -/
def sequenceOf (number : String) : Int :=
  (Nat.ofDigitChars 10 ((number.toList.drop 2).take 7) 0 : Nat)

/-- The record of the event. -/
def record? : Event → Option Record
  | settled charge (.ok s) =>
    some (.chargeSettled charge.reference charge.charge s.payment.feeAmount s.payment.taxAmount
      s.distribution.credits.length s.tax.backdated)
  | checked classification amount (.ok (first :: others)) =>
    some (.limitsBroken classification ((first :: others).map (·.label)) amount.amount)
  | allocated key (.error e) =>
    if e.isAllocation then some (.allocationFailed key.productType key.product) else none
  | generated key (.error e) =>
    if e.isAllocation then some (.allocationFailed key.productType key.product) else none
  | generated key (.ok number) =>
    some (.accountNumberGenerated key.productType key.product (sequenceOf number) number)
  | _ => none

end Event

/-- Notes that tell of one event: each counter rises once if it counts the event, and there is the
record of the event and no other one. -/
structure Journal.Tells (notes : Journal) (event : Event) : Prop where
  counters : ∀ counter, notes.count counter = if event.counts counter then 1 else 0
  records : notes.records = event.record?.toList

namespace Noting

/-- The run has the outcome of the other one, and notes nothing unless it returns. -/
def NotesResult {α : Type} (run : Noting α) (x : Except Error α) (notes : α → Journal) : Prop :=
  ∀ j, run.run j =
    match x with
    | .ok a => (.ok a, j ++ notes a)
    | .error e => (.error e, j)

variable {α β : Type} {f : α → Noting β} {g : α → Except Error β} {notes : β → Journal}

/-- A step without notes may come before notes on the result. -/
theorem NotesResult.lift_bind (x : Except Error α) (h : ∀ a, NotesResult (f a) (g a) notes) :
    NotesResult ((liftM x : Noting α) >>= f) (x >>= g) notes := by
  intro j
  cases x with
  | error e => rfl
  | ok a => exact h a j

/-- So may a step of decimal arithmetic. -/
theorem NotesResult.lift_fault_bind (x : Except Decimal.Fault α)
    (h : ∀ a, NotesResult (f a) (g a) notes) :
    NotesResult ((liftM x : Noting α) >>= f) (liftM x >>= g) notes := by
  intro j
  cases x with
  | error fault => rfl
  | ok a => exact h a j

end Noting

namespace Charge

variable {charge : Charge} {schedule : Schedule} {splits : List Split} {s : Settlement}

/-- The notes of a settlement. -/
def settledNotes (charge : Charge) (s : Settlement) : Journal where
  records := [.chargeSettled charge.reference charge.charge s.payment.feeAmount
    s.payment.taxAmount s.distribution.credits.length charge.isBackdated]
  counters := [.chargeSettled s.tax.applied]

/-- Once the fee is resolved, only the settlement is noted. -/
theorem attemptFor_notesResult (charge : Charge) (splits : List Split) (resolved : Decimal) :
    Noting.NotesResult (charge.attemptFor splits resolved) (charge.settleFor splits resolved)
      charge.settledNotes := by
  refine .lift_bind _ fun fee => .lift_bind _ fun distribution => .lift_bind _ fun tax => ?_
  refine .lift_fault_bind _ fun payment j => ?_
  change (Except.ok _, Journal.mk (j.records ++ [] ++ [_]) (j.counters ++ [_] ++ [])) = _
  rw [List.append_nil, List.append_nil]
  rfl

/-- A charge is settled and noted, or no slab contains its amount and that is noted, or it fails
otherwise and nothing is. -/
theorem process_cases (charge : Charge) (schedule : Schedule) (splits : List Split) :
    (∃ s, charge.settle schedule splits = .ok s ∧
      charge.process schedule splits = (.ok s, charge.settledNotes s)) ∨
    (∃ amount, charge.settle schedule splits = .error (.noMatchingSlab amount) ∧
      charge.process schedule splits =
        (.error (.noMatchingSlab amount), { counters := [.unmatchedSlab] })) ∨
    ∃ e, Monetary e ∧ charge.settle schedule splits = .error e ∧
      charge.process schedule splits = (.error e, {}) := by
  rw [settle_eq_bind, process, attempt]
  cases hresolve : charge.resolve schedule with
  | error e =>
    rcases charge.resolve_failsWith schedule e hresolve with hmoney | ⟨amount, rfl⟩
    · refine .inr (.inr ⟨e, hmoney, rfl, ?_⟩)
      cases hmoney <;> rfl
    · exact .inr (.inl ⟨amount, rfl, rfl⟩)
  | ok resolved =>
    have hrun := attemptFor_notesResult charge splits resolved {}
    rw [ok_bind]
    cases hsettle : charge.settleFor splits resolved with
    | error e =>
      rw [hsettle] at hrun
      exact .inr (.inr ⟨e, charge.settleFor_failsWith splits resolved e hsettle, rfl, hrun⟩)
    | ok s =>
      rw [hsettle] at hrun
      exact .inl ⟨s, rfl, hrun⟩

/-- The outcome of a charge that is processed is that of settling it. -/
theorem process_outcome (charge : Charge) (schedule : Schedule) (splits : List Split) :
    (charge.process schedule splits).1 = charge.settle schedule splits := by
  rcases charge.process_cases schedule splits with
    ⟨s, hsettle, hprocess⟩ | ⟨amount, hsettle, hprocess⟩ | ⟨e, -, hsettle, hprocess⟩
  · rw [hsettle, hprocess]
  · rw [hsettle, hprocess]
  · rw [hsettle, hprocess]

/-- A settlement is noted as backdated if its charge is. -/
theorem settled_backdated (h : charge.settle schedule splits = .ok s) :
    s.tax.backdated = charge.isBackdated := by
  -- posted again on the same day, the settlement stays as it is
  have hsame : charge.settle schedule splits =
      (·.postedOn charge.date charge.postingDate) <$> charge.settle schedule splits :=
    charge.settle_posting schedule splits charge.postingDate
  rw [h] at hsame
  exact congrArg (·.tax.backdated) (Except.ok.inj hsame)

/-- A processed charge notes what became of it. -/
theorem process_tells (charge : Charge) (schedule : Schedule) (splits : List Split) :
    (charge.process schedule splits).2.Tells
      (.settled charge (charge.process schedule splits).1) := by
  rcases charge.process_cases schedule splits with
    ⟨s, hsettle, hprocess⟩ | ⟨amount, -, hprocess⟩ | ⟨e, hmoney, -, hprocess⟩
  · rw [hprocess]
    refine ⟨fun counter => ?_, ?_⟩
    · cases counter <;> simp [Journal.count, settledNotes, List.count_singleton, Event.counts,
        Event.isAllocationFailure, Event.error?]
    · simp [Event.record?, settledNotes, settled_backdated hsettle]
  · rw [hprocess]
    exact ⟨fun counter => by cases counter <;> rfl, rfl⟩
  · rw [hprocess]
    refine ⟨fun counter => ?_, rfl⟩
    cases hmoney <;> cases counter <;> rfl

end Charge

/-- The error is none of allocating a sequence number. -/
def Error.NotAllocation (e : Error) : Prop := e.isAllocation = false

open Error (NotAllocation)

theorem notAllocation_liftM {α : Type} (x : Except Decimal.Fault α) :
    FailsWith NotAllocation (liftM x : Except Error α) :=
  .liftM fun _ => rfl

/-- Requiring the same currency does not fail to allocate. -/
theorem Money.requireSameCode_failsWith (expected actual : Currency) :
    FailsWith NotAllocation (requireSameCode expected actual) := by
  rw [requireSameCode]
  split
  · exact .pure ()
  · exact .error rfl

namespace LimitProfile

variable (profile : LimitProfile) (balance amount : Money)

theorem limitFor_failsWith (limit : Decimal) :
    FailsWith NotAllocation (profile.limitFor limit amount) :=
  (Money.requireSameCode_failsWith _ _).bind fun _ _ => notAllocation_liftM _

theorem exceeds_failsWith (m n : Money) : FailsWith NotAllocation (m.exceeds n) :=
  (Money.requireSameCode_failsWith _ _).bind fun _ _ => notAllocation_liftM _

/-- The limits that a deposit breaks, each of them once. -/
theorem breaches_nodup {found : List LimitBreach}
    (h : profile.breaches balance amount = .ok found) : found.Nodup := by
  obtain ⟨single, -, h⟩ := bind_eq_ok_iff.mp h
  obtain ⟨cumulative, -, h⟩ := bind_eq_ok_iff.mp h
  obtain ⟨overSingle, -, h⟩ := bind_eq_ok_iff.mp h
  obtain ⟨after, -, h⟩ := bind_eq_ok_iff.mp h
  obtain ⟨overCumulative, -, h⟩ := bind_eq_ok_iff.mp h
  obtain rfl := pure_eq_ok_iff.mp h
  cases overSingle <;> cases overCumulative <;> decide

/-- Checking a deposit against a profile does not fail to allocate. -/
theorem breaches_failsWith : FailsWith NotAllocation (profile.breaches balance amount) := by
  refine (profile.limitFor_failsWith amount _).bind fun single _ => ?_
  refine (profile.limitFor_failsWith balance _).bind fun cumulative _ => ?_
  refine (exceeds_failsWith _ _).bind fun overSingle _ => ?_
  refine FailsWith.bind ?_ fun after _ => ?_
  · refine (Money.requireSameCode_failsWith _ _).bind fun _ _ => ?_
    exact (notAllocation_liftM _).bind fun _ _ => notAllocation_liftM _
  · exact (exceeds_failsWith _ _).bind fun _ _ => .pure _

end LimitProfile

/-- A stored profile is missing at most for a mapping that dangles. -/
theorem Store.profile?_failsWith (store : Store) (classification : Int) :
    FailsWith NotAllocation (store.profile? classification) := by
  rw [profile?]
  split
  · exact .pure _
  · split
    · exact .pure _
    · split
      · exact .error rfl
      · exact .pure _

namespace ProfileLookup

variable {lookup : ProfileLookup} (classification : Option Int) (balance amount : Money)

/-- A deposit is checked without allocating anything, so it fails so only if the lookup does. -/
theorem breaches_failsWith (hlookup : ∀ c, FailsWith NotAllocation (lookup c)) :
    FailsWith NotAllocation (lookup.breaches classification balance amount) := by
  have hprofile : FailsWith NotAllocation (lookup.profileFor classification) := by
    cases classification with
    | none => exact .pure none
    | some c => exact hlookup c
  refine hprofile.bind fun profile _ => ?_
  cases profile with
  | none => exact .pure []
  | some profile => exact profile.breaches_failsWith balance amount

/-- The limits that a deposit breaks, each of them once. -/
theorem breaches_nodup {broken : List LimitBreach}
    (h : lookup.breaches classification balance amount = .ok broken) : broken.Nodup := by
  obtain ⟨profile, -, h⟩ := bind_eq_ok_iff.mp h
  cases profile with
  | none =>
    obtain rfl := pure_eq_ok_iff.mp h
    exact List.nodup_nil
  | some profile => exact profile.breaches_nodup balance amount h

/-- A deposit check notes the limits that the deposit breaks. -/
theorem checkDeposit_tells (hlookup : ∀ c, FailsWith NotAllocation (lookup c)) :
    (lookup.checkDeposit classification balance amount).2.Tells
      (.checked classification amount (lookup.breaches classification balance amount)) := by
  rw [checkDeposit]
  cases houtcome : lookup.breaches classification balance amount with
  | error e =>
    have hnot := breaches_failsWith classification balance amount hlookup e houtcome
    refine ⟨fun counter => ?_, rfl⟩
    cases counter with
    | allocationFailed => simp [Journal.count, checkJournal, Event.counts,
        Event.isAllocationFailure, Event.error?, show e.isAllocation = false from hnot]
    | _ => rfl
  | ok broken =>
    have hnodup := breaches_nodup classification balance amount houtcome
    cases broken with
    | nil => exact ⟨fun counter => by cases counter <;> rfl, rfl⟩
    | cons first others =>
      refine ⟨fun counter => ?_, rfl⟩
      change ((first :: others).map Counter.limitBroken).count counter = _
      cases counter with
      | limitBroken limit =>
        rw [List.count_map_of_injective _ _ fun _ _ => Counter.limitBroken.inj, hnodup.count,
          Event.counts, List.contains_eq_mem]
        simp only [decide_eq_true_eq]
      | _ =>
        rw [List.count_eq_zero_of_not_mem (by simp)]
        rfl

end ProfileLookup

/-- Putting an account number together allocates nothing. -/
theorem AccountNumber.answer_failsWith (institution found : Option String) (product n : Int) :
    FailsWith NotAllocation (answer institution found product n) := by
  intro e h
  rcases answer_eq_error_iff.mp h with
    ⟨-, rfl⟩ | ⟨-, -, rfl⟩ | ⟨-, -, -, rfl⟩ | ⟨-, -, -, -, rfl⟩ | ⟨-, -, -, -, rfl⟩ <;> rfl

/-- An account number that is put together shows its sequence number; one that is not fails for
another reason than allocating. -/
theorem AccountNumber.join_cases (institution : Option String)
    {read : Int → Except Error (Option String)} (hread : ∀ id, FailsWith NotAllocation (read id))
    (product n : Int) :
    (∃ e, NotAllocation e ∧ (synthesize institution read product n >>= id) = .error e) ∨
      ∃ number, (synthesize institution read product n >>= id) = .ok number ∧
        Event.sequenceOf number = n := by
  rcases join_synthesize_cases institution read product n with ⟨e, hfail, hjoin⟩ | ⟨found, hjoin⟩
  · exact .inl ⟨e, hread product e hfail, hjoin⟩
  · rw [hjoin]
    cases hanswer : answer institution found product n with
    | error e => exact .inl ⟨e, answer_failsWith institution found product n e hanswer, rfl⟩
    | ok number =>
      obtain ⟨code, series, -, -, -, -, -, -, hspells⟩ := answer_eq_ok_iff.mp hanswer
      exact .inr ⟨number, rfl, hspells.sequence⟩

namespace Allocator

variable {σ : Type} (allocator : Allocator σ) (key : SequenceKey) (state : σ)

/-- An allocation notes whether it failed, and that its time was taken. -/
theorem nextSequence_tells :
    (allocator.nextSequence key state).1.2.Tells
      (.allocated key (allocator.nextSequence key state).1.1) := by
  rw [nextSequence]
  rcases allocator.next key state with ⟨failure | n, after⟩
  · refine ⟨fun counter => ?_, ?_⟩
    · cases failure <;> cases counter <;> rfl
    · cases failure <;> rfl
  · exact ⟨fun counter => by cases counter <;> rfl, rfl⟩

/-- A call for an account number fails with its allocation, or it goes on to put the number
together. -/
theorem generate_cases (institution : Option String)
    (read : Int → Except Error (Option String)) :
    (∃ failure, (allocator.generate institution read key state).1 =
      (.error (.allocation failure), journal key (.error failure))) ∨
    ∃ n number, number = (AccountNumber.synthesize institution read key.product n >>= id) ∧
      (allocator.generate institution read key state).1 =
        (number, journal key (.ok n) ++ numberJournal key n number) := by
  rw [generate, nextSequence]
  rcases allocator.next key state with ⟨failure | n, after⟩
  · exact .inl ⟨failure, rfl⟩
  · exact .inr ⟨n, _, rfl, rfl⟩

/-- A call for an account number notes the number that it gets, with its sequence number, and
otherwise only what its allocation notes. -/
theorem generate_tells (institution : Option String)
    {read : Int → Except Error (Option String)}
    (hread : ∀ id, FailsWith NotAllocation (read id)) :
    (allocator.generate institution read key state).1.2.Tells
      (.generated key (allocator.generate institution read key state).1.1) := by
  rcases allocator.generate_cases key state institution read with
    ⟨failure, hcall⟩ | ⟨n, _, rfl, hcall⟩
  · rw [hcall]
    refine ⟨fun counter => ?_, ?_⟩
    · cases failure <;> cases counter <;> rfl
    · cases failure <;> rfl
  · rw [hcall]
    rcases AccountNumber.join_cases institution hread key.product n with
      ⟨e, hnot, hjoin⟩ | ⟨number, hjoin, hsequence⟩
    · rw [hjoin]
      have hother : e.isAllocation = false := hnot
      refine ⟨fun counter => ?_, ?_⟩
      · cases counter <;> simp [Journal.count, journal, numberJournal, Event.counts,
          Event.isAllocationFailure, Event.error?, hother]
      · simp [journal, numberJournal, Event.record?, hother]
    · rw [hjoin]
      refine ⟨fun counter => ?_, ?_⟩
      · cases counter <;> simp [Journal.count, journal, numberJournal, Event.counts,
          Event.isAllocationFailure, Event.error?, List.count_cons]
      · simp [Event.record?, journal, numberJournal, hsequence]

end Allocator

end Passbook
