import Passbook.Proofs.Journal.Operations

/-!
# The journal over a run

Calls of all services go to one journal, in any order and with any outcome, while the store may be
changed from elsewhere between them. Every call has one outcome, which depends on the store that the
calls before it left. The journal keeps their tally: each counter rises by the number of calls whose
outcome it counts, and the records are those of the calls, in the order of the calls. So a call that
fails halfway is never noted as if it had come to its end.
-/

namespace Passbook

open Error (NotAllocation)
open Journal (Counter)

/-- An error that the database refuses a read with, which is none of allocating. -/
structure Refusal where
  error : Error
  isOther : error.isAllocation = false

/-- What is read, unless the database refuses the read. -/
def Refusal.orRead {α : Type} (read : Except Error α) : Option Refusal → Except Error α
  | none => read
  | some refusal => .error refusal.error

/-- A read that allocates nothing does not turn into one by being refused. -/
theorem Refusal.orRead_failsWith {α : Type} {read : Except Error α} (refusal : Option Refusal)
    (h : FailsWith NotAllocation read) : FailsWith NotAllocation (orRead read refusal) := by
  cases refusal with
  | none => exact h
  | some refusal => exact .error refusal.isOther

/-- A call of a service with its arguments, or a change of the store from elsewhere. The database
may refuse what a call reads. -/
inductive ServiceCall where
  | settle (charge : Charge) (schedule : Schedule) (splits : List Split)
  | check (refusal : Option Refusal) (classification : Option Int) (balance amount : Money)
  | next (allocator : Allocator Sequences) (key : SequenceKey)
  | generate (allocator : Allocator Sequences) (refusal : Option Refusal)
    (institution : Option String) (key : SequenceKey)
  | change (update : Store → Store)

namespace Store

/-- The profiles of classifications, as a call reads them. -/
def profilesFor (store : Store) (refusal : Option Refusal) : ProfileLookup :=
  fun classification => Refusal.orRead (store.profile? classification) refusal

/-- The series of products, as a call reads them. -/
def seriesFor (store : Store) (refusal : Option Refusal) (product : Int) :
    Except Error (Option String) :=
  Refusal.orRead (store.readSeries product) refusal

theorem profilesFor_failsWith (store : Store) (refusal : Option Refusal) (classification : Int) :
    FailsWith NotAllocation (store.profilesFor refusal classification) :=
  Refusal.orRead_failsWith refusal (store.profile?_failsWith classification)

theorem seriesFor_failsWith (store : Store) (refusal : Option Refusal) (product : Int) :
    FailsWith NotAllocation (store.seriesFor refusal product) :=
  Refusal.orRead_failsWith refusal (.pure _)

end Store

namespace ServiceCall

/-- What becomes of a call on a store. -/
def event (store : Store) : ServiceCall → Event
  | settle charge schedule splits => .settled charge (charge.settle schedule splits)
  | check refusal classification balance amount =>
    .checked classification amount
      ((store.profilesFor refusal).checkDeposit classification balance amount).1
  | next allocator key => .allocated key (allocator.nextSequence key store.sequences).1.1
  | generate allocator refusal institution key =>
    .generated key
      (allocator.generate institution (store.seriesFor refusal) key store.sequences).1.1
  | change _ => .changed

/-- The store after a call. Only an allocation leaves something in it, its sequences. -/
def after (store : Store) : ServiceCall → Store
  | settle .. => store
  | check .. => store
  | next allocator key =>
    { store with sequences := (allocator.nextSequence key store.sequences).2 }
  | generate allocator refusal institution key =>
    { store with sequences :=
        (allocator.generate institution (store.seriesFor refusal) key store.sequences).2 }
  | change update => update store

/-- The store after several calls. -/
def afterAll (store : Store) (calls : List ServiceCall) : Store := calls.foldl after store

end ServiceCall

/-- The store that the services work on, and the journal that they note in. -/
structure Services where
  store : Store
  journal : Journal := {}

namespace Services

/-- Adds notes to the journal. -/
def note (services : Services) (notes : Journal) : Services :=
  { services with journal := services.journal ++ notes }

/-- Keeps the sequences that an allocation leaves. -/
def keep (services : Services) (sequences : Sequences) : Services :=
  { services with store := { services.store with sequences } }

/-- Does a call, and says what became of it. -/
def perform (services : Services) : ServiceCall → Event × Services
  | .settle charge schedule splits =>
    let (outcome, notes) := charge.process schedule splits
    (.settled charge outcome, services.note notes)
  | .check refusal classification balance amount =>
    let (outcome, notes) :=
      (services.store.profilesFor refusal).checkDeposit classification balance amount
    (.checked classification amount outcome, services.note notes)
  | .next allocator key =>
    let ((outcome, notes), sequences) := allocator.nextSequence key services.store.sequences
    (.allocated key outcome, (services.keep sequences).note notes)
  | .generate allocator refusal institution key =>
    let ((outcome, notes), sequences) := allocator.generate institution
      (services.store.seriesFor refusal) key services.store.sequences
    (.generated key outcome, (services.keep sequences).note notes)
  | .change update => (.changed, { services with store := update services.store })

/-- Does several calls, one after the other. -/
def performAll (services : Services) : List ServiceCall → List Event × Services
  | [] => ([], services)
  | call :: others =>
    let (event, next) := services.perform call
    let (events, last) := next.performAll others
    (event :: events, last)

variable (services : Services) (call : ServiceCall) (calls : List ServiceCall)

/-- A call that is done has its outcome on the store, also the charge, which is noted on the
way. -/
theorem perform_event : (services.perform call).1 = call.event services.store := by
  cases call with
  | settle charge schedule splits =>
    exact congrArg (Event.settled charge) (charge.process_outcome schedule splits)
  | _ => rfl

/-- A call that is done leaves the store as it leaves it without a journal. -/
theorem perform_store : (services.perform call).2.store = call.after services.store := by
  cases call <;> rfl

/-- A call adds to the journal what tells of it. -/
theorem perform_tells :
    ∃ notes : Journal, (services.perform call).2.journal = services.journal ++ notes ∧
      notes.Tells (services.perform call).1 := by
  cases call with
  | settle charge schedule splits => exact ⟨_, rfl, charge.process_tells schedule splits⟩
  | check refusal classification balance amount =>
    exact ⟨_, rfl, ProfileLookup.checkDeposit_tells classification balance amount
      (services.store.profilesFor_failsWith refusal)⟩
  | next allocator key =>
    exact ⟨_, rfl, allocator.nextSequence_tells key services.store.sequences⟩
  | generate allocator refusal institution key =>
    exact ⟨_, rfl, allocator.generate_tells key services.store.sequences institution
      (services.store.seriesFor_failsWith refusal)⟩
  | change update =>
    refine ⟨{}, ?_, fun counter => by cases counter <;> rfl, rfl⟩
    change services.journal = ⟨_ ++ [], _ ++ []⟩
    rw [List.append_nil, List.append_nil]

/-- Every call of a run is done once. -/
theorem length_performAll : (services.performAll calls).1.length = calls.length := by
  induction calls generalizing services with
  | nil => rfl
  | cons first others ih => rw [performAll, List.length_cons, ih, List.length_cons]

/-- A call of a run has its outcome on the store that the calls before it leave. -/
theorem getElem?_performAll {i : Nat} (h : calls[i]? = some call) :
    (services.performAll calls).1[i]? =
      some (call.event (ServiceCall.afterAll services.store (calls.take i))) := by
  induction calls generalizing services i with
  | nil => simp at h
  | cons first others ih =>
    rw [performAll]
    cases i with
    | zero =>
      obtain rfl := Option.some.inj h
      exact congrArg some (services.perform_event first)
    | succ i =>
      rw [List.getElem?_cons_succ, ih (services.perform first).2 h, perform_store]
      rfl

/-- A run leaves the store that its calls leave. -/
theorem performAll_store :
    (services.performAll calls).2.store = ServiceCall.afterAll services.store calls := by
  induction calls generalizing services with
  | nil => rfl
  | cons first others ih =>
    rw [performAll, ih, perform_store]
    rfl

/-- The journal of a run counts its calls and holds their records. -/
theorem performAll_journal :
    (∀ counter : Counter, (services.performAll calls).2.journal.count counter =
      services.journal.count counter +
        (services.performAll calls).1.countP fun event => event.counts counter) ∧
    (services.performAll calls).2.journal.records =
      services.journal.records ++ (services.performAll calls).1.filterMap Event.record? := by
  -- the notes of the first call come before those of the rest, whatever the rest does
  induction calls generalizing services with
  | nil => exact ⟨fun counter => rfl, (List.append_nil _).symm⟩
  | cons call others ih =>
    obtain ⟨notes, hjournal, htells⟩ := services.perform_tells call
    obtain ⟨hcounters, hrecords⟩ := ih (services.perform call).2
    refine ⟨fun counter => ?_, ?_⟩
    · calc (services.performAll (call :: others)).2.journal.count counter
        _ = services.journal.count counter + notes.count counter +
            ((services.perform call).2.performAll others).1.countP fun event =>
              event.counts counter := by
          rw [← Journal.count_append, ← hjournal]
          exact hcounters counter
        _ = _ := by
          rw [htells.counters counter, performAll, List.countP_cons]
          omega
    · calc (services.performAll (call :: others)).2.journal.records
        _ = services.journal.records ++ notes.records ++
            ((services.perform call).2.performAll others).1.filterMap Event.record? := by
          rw [← Journal.records_append, ← hjournal]
          exact hrecords
        _ = _ := by
          rw [htells.records, performAll, List.filterMap_cons, List.append_assoc]
          cases (services.perform call).1.record? <;> rfl

/-- Along every run each call has one outcome, that of the call on the store which the calls before
it leave. Each counter rises by the number of calls whose outcome it counts, and the journal gets
the records of the calls, one after the other, and no other ones. -/
theorem performAll_tallies (services : Services) (calls : List ServiceCall) :
    (services.performAll calls).1.length = calls.length ∧
    (∀ (i : Nat) (call : ServiceCall), calls[i]? = some call →
      (services.performAll calls).1[i]? =
        some (call.event (ServiceCall.afterAll services.store (calls.take i)))) ∧
    (services.performAll calls).2.store = ServiceCall.afterAll services.store calls ∧
    (∀ counter : Counter, (services.performAll calls).2.journal.count counter =
      services.journal.count counter +
        (services.performAll calls).1.countP fun event => event.counts counter) ∧
    (services.performAll calls).2.journal.records =
      services.journal.records ++ (services.performAll calls).1.filterMap Event.record? :=
  ⟨services.length_performAll calls, fun _ call h => services.getElem?_performAll call calls h,
    services.performAll_store calls, services.performAll_journal calls⟩

/-- A store with one product and one limited classification. -/
def oneBranch : Store where
  products := [⟨1, "A", some "02"⟩]
  settings := [⟨10, "basic", 80, 100, ⟨"EUR", 2⟩⟩]
  mappings := [⟨1, some 10⟩]

/-- A charge on a hundred at a rate of ten. -/
def ratedCharge : Charge where
  amount := .whole 100
  reference := "fee"
  date := ⟨2024, 1, 31⟩
  postingDate := ⟨2024, 2, 1⟩
  currency := ⟨"EUR", 2⟩
  rate := some (.whole 10)

/-- A read of a row whose id has no room in the column. -/
def noRoom : Refusal := ⟨.unstorableInteger, rfl⟩

/-- A read of a locked database, which is reported like an increment of one. -/
def locked : Refusal := ⟨.allocation (.refused "database is locked"), rfl⟩

/-- Calls of every kind. The second finds no slab and the fourth cannot read the limits; the sixth
cannot read the series of its product, and so uses up a sequence number, and the last two get no
sequence number, once for a dialect and once for a lock. -/
def eightCalls : List ServiceCall :=
  [.settle ratedCharge ⟨[⟨0, none, 5⟩], 1⟩ [], .settle ratedCharge ⟨[⟨0, some 50, 5⟩], 1⟩ [],
    .check none (some 1) ⟨50, ⟨"EUR", 2⟩⟩ ⟨90, ⟨"EUR", 2⟩⟩,
    .check (some noRoom) (some 9223372036854775808) ⟨50, ⟨"EUR", 2⟩⟩ ⟨90, ⟨"EUR", 2⟩⟩,
    .generate .ofSequences none (some "50547") ⟨"SAVINGS", 1⟩,
    .generate .ofSequences (some locked) (some "50547") ⟨"SAVINGS", 1⟩,
    .next ⟨"mysql", Allocator.ofSequences.upsert⟩ ⟨"SAVINGS", 1⟩,
    .next ⟨"sqlite", fun _ s => (.error "database is locked", s)⟩ ⟨"SAVINGS", 1⟩]

/-- The journal of these calls. -/
theorem eightCalls_tallied :
    let events := (Services.performAll ⟨oneBranch, {}⟩ eightCalls).1
    let last := (Services.performAll ⟨oneBranch, {}⟩ eightCalls).2
    events.length = 8 ∧
    events[3]? = some (.checked (some 9223372036854775808) ⟨90, ⟨"EUR", 2⟩⟩
      (.error .unstorableInteger)) ∧
    events[5]? = some (.generated ⟨"SAVINGS", 1⟩ (.error locked.error)) ∧
    last.store.sequences.current? ⟨"SAVINGS", 1⟩ = some 2 ∧
    [Counter.chargeSettled true, .unmatchedSlab, .limitBroken .maxSingleDeposit,
      .limitBroken .cumulativeBalance, .accountNumber "SAVINGS", .allocationFailed,
      .allocationTimed].map last.journal.count = [1, 1, 1, 1, 1, 1, 4] ∧
    last.journal.records =
      [.chargeSettled "fee" none (.finite ⟨false, 500, -2⟩) (.finite ⟨false, 50, -2⟩) 0 true,
        .limitsBroken (some 1) [LimitBreach.maxSingleDeposit.label,
          LimitBreach.cumulativeBalance.label] 90,
        .accountNumberGenerated "SAVINGS" 1 1 "0200000017", .allocationFailed "SAVINGS" 1] := by
  obtain ⟨hlength, hevents, hstore, hcounters, hrecords⟩ :=
    performAll_tallies ⟨oneBranch, {}⟩ eightCalls
  refine ⟨hlength, hevents 3 _ rfl, hevents 5 _ rfl, ?_, ?_, ?_⟩
  · rw [hstore]
    rfl
  · simp only [List.map_cons, List.map_nil, hcounters]
    rfl
  · rw [hrecords]
    rfl

end Services

end Passbook
