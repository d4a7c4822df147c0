import Passbook.Decimal.Arithmetic
import Passbook.Money
import Passbook.Slab

/-!
# Fee schedules

A schedule is a list of slabs in the order of their lower bounds. Slabs with equal lower bounds
stay in the order in which they were given, and the first slab that contains an amount sets its
fee. Checking a schedule reports inverted slabs, overlaps and gaps: a slab is compared with all
slabs after it, and its end with the start of the next one.
-/

namespace Passbook

open Decimal (Fault)

namespace Slab

/-- Whether `s` may stand before `t`, which it does unless `t` starts at a lower amount. -/
def startsNoLater (s t : Slab) : Bool := s.lower.compare? t.lower != some .gt

/-- Puts a slab before the first one that starts at its lower bound or above. -/
def insertByLower (s : Slab) : List Slab → List Slab
  | [] => [s]
  | t :: rest => if s.startsNoLater t then s :: t :: rest else t :: insertByLower s rest

/-- The slabs in the order of their lower bounds, equal ones in the given order. -/
def sortByLower (slabs : List Slab) : List Slab := slabs.foldr insertByLower []

theorem insertByLower_perm (s : Slab) (slabs : List Slab) :
    (s.insertByLower slabs).Perm (s :: slabs) := by
  induction slabs with
  | nil => exact .refl _
  | cons t rest ih =>
    unfold insertByLower
    split
    · exact .refl _
    · exact (ih.cons t).trans (.swap s t rest)

/-- Sorting loses no slab and adds none. -/
theorem sortByLower_perm (slabs : List Slab) : (sortByLower slabs).Perm slabs := by
  induction slabs with
  | nil => exact .refl _
  | cons s rest ih => exact (insertByLower_perm s _).trans (ih.cons s)

/-- Sorts if the lower bounds can be compared: a single slab always, several if every bound is a
number. -/
def sortByLower? (slabs : List Slab) : Except Fault (List Slab) :=
  if 1 < slabs.length ∧ slabs.any fun s => s.lower.isNaN then .error .invalidOperation
  else .ok (sortByLower slabs)

/-- The conflict of a slab with itself. -/
def ownConflicts (s : Slab) : Except Fault (List Conflict) := do
  if ← s.isInverted then return [.inverted s] else return []

/-- Whether two slabs share amounts without having the same bounds. -/
def conflictsWith (s t : Slab) : Except Fault Bool := do
  if ← s.overlaps t then
    let same ← s.samePeriod t
    return !same
  else return false

/-- The overlaps of a slab with each of `others`, in their order. -/
def overlapsWith (s : Slab) : List Slab → Except Fault (List Conflict)
  | [] => .ok []
  | t :: rest => do
    let conflicts ← s.conflictsWith t
    let later ← s.overlapsWith rest
    return if conflicts then .overlap s t :: later else later

/-- What is wrong with a slab beside `others`. A slab with the bounds of another one is taken for
that tier sent again and is no conflict. -/
def validate (s : Slab) (others : List Slab) : Except Fault (List Conflict) := do
  let own ← s.ownConflicts
  let overlaps ← s.overlapsWith others
  return own ++ overlaps

/-- Whether `next` does not start exactly one step after the end of `s`. -/
def hasGap (s next : Slab) (step : Decimal := 1) : Except Fault Bool := do
  if ← s.samePeriod next then return false
  match s.upper with
  | none => return true
  | some upper =>
    let expected ← upper.add step
    let adjacent ← next.lower.sameValue expected
    return !adjacent

/-- The gap between a slab and the one after it. Slabs that overlap have none. -/
def gapBefore (s next : Slab) (step : Decimal) : Except Fault (List Conflict) := do
  if ← s.hasGap next step then
    if ← s.overlaps next then return [] else return [.gap s next]
  else return []

/-- The gap between a slab and the first of the slabs after it. An inverted slab has none. -/
def gapAfter (s : Slab) (later : List Slab) (step : Decimal) : Except Fault (List Conflict) := do
  if ← s.isInverted then return []
  match later with
  | [] => return []
  | next :: _ => s.gapBefore next step

end Slab

/-- Slabs in the order of their lower bounds, and the distance from the end of one slab to the
start of the next. -/
structure Schedule where
  slabs : List Slab
  step : Decimal := 1
  deriving DecidableEq, Repr, Inhabited

namespace Schedule

/-- The schedule of the given slabs. -/
def ofSlabs (slabs : List Slab) (step : Decimal := 1) : Except Fault Schedule := do
  let sorted ← Slab.sortByLower? slabs
  return ⟨sorted, step⟩

/-- The first slab that contains an amount. -/
def find? (amount : Decimal) : List Slab → Except Fault (Option Slab)
  | [] => .ok none
  | s :: rest => do
    if ← s.contains amount then return some s else find? amount rest

/-- The fee for an amount. -/
def resolve (schedule : Schedule) (amount : Decimal) : Except Error Decimal := do
  match ← find? amount schedule.slabs with
  | some s => return s.fee
  | none => .error (.noMatchingSlab amount)

/-- The conflicts of the slabs of a list with those after them. -/
def conflictsOf (step : Decimal) : List Slab → Except Fault (List Slab.Conflict)
  | [] => .ok []
  | s :: later => do
    let overlaps ← s.validate later
    let gaps ← s.gapAfter later step
    let others ← conflictsOf step later
    return overlaps ++ gaps ++ others

/-- Every inverted slab, overlap and gap. -/
def conflicts (schedule : Schedule) : Except Fault (List Slab.Conflict) :=
  conflictsOf schedule.step schedule.slabs

/-- Refuses a schedule with conflicts. -/
def ensureValid (schedule : Schedule) : Except Error Unit := do
  let found ← schedule.conflicts
  if found.isEmpty then return () else .error (.invalidSchedule found)

end Schedule

end Passbook
