import Passbook.Money

/-!
# Deposit limits

A client's classification may be mapped to a profile with two limits: on a single deposit and on
the balance after it. Limits are rounded to the places of the amount they are compared with, and
the currencies must agree. A client without classification or profile has no limits.
-/

namespace Passbook

/-- The limits of one classification. -/
structure LimitProfile where
  classification : Int
  maxSingleDeposit : Decimal
  cumulativeBalance : Decimal
  currency : Currency
  name : String := ""
  deriving DecidableEq, Repr, Inhabited

/-- A limit that a deposit breaks. -/
inductive LimitBreach where
  | maxSingleDeposit
  | cumulativeBalance
  deriving DecidableEq, Repr, Inhabited

/-- The written name of the limit. -/
def LimitBreach.label : LimitBreach → String
  | maxSingleDeposit => "Max Single Deposit Amount Limit"
  | cumulativeBalance => "Balance Cumulative Limit"

/-- What is to be done about an account's debit block. -/
inductive DebitBlockAction where
  | block
  | unblock
  deriving DecidableEq, Repr, Inhabited

/-- The written name of the action. -/
def DebitBlockAction.name : DebitBlockAction → String
  | block => "BLOCK_DEBIT"
  | unblock => "UNBLOCK_DEBIT"

namespace LimitProfile

/-- A limit of the profile in the places of an amount of the same currency. -/
def limitFor (profile : LimitProfile) (limit : Decimal) (amount : Money) : Except Error Money := do
  Money.requireSameCode profile.currency amount.currency
  Money.of amount.currency limit

/-- The limits that a deposit breaks, the one on the single deposit first. -/
def breaches (profile : LimitProfile) (balance amount : Money) :
    Except Error (List LimitBreach) := do
  let single ← profile.limitFor profile.maxSingleDeposit amount
  let cumulative ← profile.limitFor profile.cumulativeBalance balance
  let overSingle ← amount.exceeds single
  let after ← balance.plus amount
  let overCumulative ← after.exceeds cumulative
  return (if overSingle then [.maxSingleDeposit] else []) ++
    (if overCumulative then [.cumulativeBalance] else [])

/-- Whether a balance is over the cumulative limit. -/
def isOver (profile : LimitProfile) (balance : Money) : Except Error Bool := do
  let cumulative ← profile.limitFor profile.cumulativeBalance balance
  balance.exceeds cumulative

end LimitProfile

/-- Finds the profile of a classification. -/
abbrev ProfileLookup := Int → Except Error (Option LimitProfile)

namespace ProfileLookup

/-- The profile of a client who may have no classification. -/
def profileFor (lookup : ProfileLookup) : Option Int → Except Error (Option LimitProfile)
  | none => .ok none
  | some classification => lookup classification

/-- The limits that a deposit breaks. -/
def breaches (lookup : ProfileLookup) (classification : Option Int) (balance amount : Money) :
    Except Error (List LimitBreach) := do
  match ← lookup.profileFor classification with
  | none => return []
  | some profile => profile.breaches balance amount

/-- Whether a deposit breaks a limit. -/
def exceeds (lookup : ProfileLookup) (classification : Option Int) (balance amount : Money) :
    Except Error Bool := do
  let broken ← lookup.breaches classification balance amount
  return !broken.isEmpty

/-- What is to be done about a debit block after a change of classification: a balance over the
limit is blocked, and a block is lifted from any other. -/
def reassess (lookup : ProfileLookup) (classification : Option Int) (balance : Money)
    (blocked : Bool) : Except Error (Option DebitBlockAction) := do
  match ← lookup.profileFor classification with
  | none => return none
  | some profile =>
    let isOver ← profile.isOver balance
    return if blocked && !isOver then some .unblock
      else if !blocked && isOver then some .block
      else none

end ProfileLookup

end Passbook
