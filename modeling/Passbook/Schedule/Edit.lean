import Passbook.MachineWord
import Passbook.Request.SlabChange
import Passbook.Schedule

/-!
# Editing a schedule

One slab is changed at a time. The changed slab is checked beside the others and takes its place
in the order only if it has no conflict; otherwise the schedule stays as it is.

The slabs of a schedule are distinct objects, also where two of them have the same values, and none
is listed twice. So the position says which slab is changed, and the other ones stay as they are.
-/

namespace Passbook

open Decimal (Fault)

/-- The index that a position means in a list: positions count from zero, and negative ones from
the end. -/
def position? (length : Nat) (position : Int) : Option Nat :=
  if 0 ≤ position then
    if position.toNat < length then some position.toNat else none
  else if position.natAbs ≤ length then some (length - position.natAbs)
  else none

theorem lt_of_position? {length : Nat} {position : Int} {i : Nat}
    (h : position? length position = some i) : i < length := by
  unfold position? at h
  split at h
  · split at h
    · obtain rfl := Option.some.inj h
      assumption
    · exact nomatch h
  · split at h
    · have hi := Option.some.inj h
      omega
    · exact nomatch h

/-- The element at a position, with its index. A position needs room in a machine word. -/
def elementAt {α : Type} (elements : List α) (position : Int) : Except Error (Nat × α) :=
  if !fitsWord position then .error .positionTooLarge
  else
    match (position? elements.length position).bind fun i => (elements[i]?).map (i, ·) with
    | some found => .ok found
    | none => .error .positionOutOfRange

namespace Schedule

/-- The outcome of an edit: what it would change, and the conflicts that keep it from doing so. -/
structure Edit where
  changes : SlabChange
  conflicts : List Slab.Conflict
  deriving DecidableEq, Repr, Inhabited

/-- Whether the schedule takes the changes over. -/
def Edit.isEffective (edit : Edit) : Bool := !edit.changes.isEmpty && edit.conflicts.isEmpty

/-- The effect of a change on the slab at an index, beside the slabs at the other indexes. -/
def editAt (schedule : Schedule) (i : Nat) (s : Slab) (change : SlabChange) :
    Except Fault Edit := do
  let changes ← s.differences change
  let conflicts ← (s.apply changes).validate (schedule.slabs.eraseIdx i)
  return ⟨changes, conflicts⟩

/-- The schedule with a changed slab at an index, in order again. -/
def replaceAt (schedule : Schedule) (i : Nat) (s : Slab) : Schedule :=
  { schedule with slabs := Slab.sortByLower (schedule.slabs.set i s) }

/-- Carries out a request on the slab at a position: the outcome, and the schedule afterwards. -/
def update (schedule : Schedule) (position : Int) (request : Request) :
    Except Error Edit × Schedule :=
  match SlabChange.ofRequest request with
  | .error rejections => (.error (.requestRejected rejections), schedule)
  | .ok change =>
    match elementAt schedule.slabs position with
    | .error error => (.error error, schedule)
    | .ok (i, s) =>
      match schedule.editAt i s change with
      | .error fault => (.error (.arithmetic fault), schedule)
      | .ok edit =>
        (.ok edit,
          if edit.isEffective then schedule.replaceAt i (s.apply edit.changes) else schedule)

end Schedule

end Passbook
