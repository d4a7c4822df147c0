import Passbook.Error
import Passbook.Request.SlabChange

/-!
# Changes of a split

A change of a split replaces the sent fields whose value differs from the stored one. Texts,
kinds and flags differ when they are not equal, numbers when their values do.
-/

namespace Passbook

open Decimal (Fault)

/-- New values for fields of a split. -/
structure SplitChange where
  stakeholder : Option String := none
  kind : Option SplitKind := none
  value : Option Decimal := none
  active : Option Bool := none
  /-- The new ledger account, where `some none` removes it. -/
  ledgerAccount : Option (Option String) := none
  deriving DecidableEq, Repr, Inhabited

namespace SplitChange

/-- The field of the stakeholder. -/
def stakeholderField : Request.Field := ⟨"fundId", "stakeholder_ref"⟩

/-- The field of the kind. -/
def kindField : Request.Field := ⟨"splitType", "kind"⟩

/-- The field of the value. -/
def valueField : Request.Field := ⟨"splitValue", "value"⟩

/-- The field of the active flag, which has no other label. -/
def activeField : Request.Field := ⟨"active", "active"⟩

/-- The field of the ledger account. -/
def ledgerAccountField : Request.Field := ⟨"glAccountId", "gl_account_ref"⟩

/-- All fields in the order in which rejections are reported. -/
def fields : List Request.Field :=
  [stakeholderField, kindField, valueField, activeField, ledgerAccountField]

/-- Reads a change from a request. Rejections come in the order of the fields, unknown keys
last. -/
def ofRequest (request : Request) : Except (List Request.Rejection) SplitChange :=
  let stakeholder := stakeholderField.required Request.readNonEmptyText request
  let kind := kindField.required Request.readKind request
  let value := valueField.required Request.readNonNegative request
  let active := activeField.required Request.readFlag request
  let ledgerAccount := ledgerAccountField.optional Request.readText request
  let unknown := Request.unknownKeys fields request
  match stakeholder, kind, value, active, ledgerAccount, unknown with
  | .ok stakeholder, .ok kind, .ok value, .ok active, .ok ledgerAccount, [] =>
    .ok { stakeholder, kind, value, active, ledgerAccount }
  | _, _, _, _, _, _ =>
    .error (Request.rejections stakeholder ++ Request.rejections kind ++
      Request.rejections value ++ Request.rejections active ++
      Request.rejections ledgerAccount ++ unknown)

end SplitChange

namespace Split

/-- The new value of a field, if it is not equal to the stored one. -/
def changed? {α : Type} [DecidableEq α] (stored : α) (sent : Option α) : Option α :=
  if sent = some stored then none else sent

/-- The part of a change that differs from the split. -/
def differences (s : Split) (change : SplitChange) : Except Fault SplitChange := do
  let value ← s.value.changed? change.value
  return {
    stakeholder := changed? s.stakeholder change.stakeholder
    kind := changed? s.kind change.kind
    value
    active := changed? s.active change.active
    ledgerAccount := changed? s.ledgerAccount change.ledgerAccount }

/-- The split with the new values of a change. -/
def apply (s : Split) (change : SplitChange) : Split :=
  { stakeholder := change.stakeholder.getD s.stakeholder
    kind := change.kind.getD s.kind
    value := change.value.getD s.value
    active := change.active.getD s.active
    ledgerAccount := change.ledgerAccount.getD s.ledgerAccount }

@[simp] theorem apply_empty (s : Split) : s.apply {} = s := rfl

/-- Carries out a request: the changes in effect, and the split afterwards, which is the same
when the request is rejected or cannot be compared. -/
def update (s : Split) (request : Request) : Except Error SplitChange × Split :=
  match SplitChange.ofRequest request with
  | .error rejections => (.error (.requestRejected rejections), s)
  | .ok change =>
    match s.differences change with
    | .error fault => (.error (.arithmetic fault), s)
    | .ok changes => (.ok changes, s.apply changes)

end Split

end Passbook
