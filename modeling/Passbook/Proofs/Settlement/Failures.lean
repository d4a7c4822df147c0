import Passbook.Proofs.Outcome
import Passbook.Settlement

/-!
# What settling a charge fails with

Only the search in the schedule finds that no slab contains the amount. Every other step fails for
want of a decimal result, or because splits or rates are refused. So the kind of an error tells how
far a charge was settled.
-/

namespace Passbook

open Decimal (Fault)

/-- The errors of calculating with amounts, splits and rates. -/
inductive Error.Monetary : Error → Prop
  | arithmetic (fault : Fault) : Monetary (.arithmetic fault)
  | binaryAmount : Monetary .binaryAmount
  | longInteger (digits : Nat) : Monetary (.longInteger digits)
  | invalidSplits (findings : List Split.Finding) : Monetary (.invalidSplits findings)
  | splitExceedsFee (split : Split) (fee : Decimal) : Monetary (.splitExceedsFee split fee)
  | negativeRate (rate : Decimal) : Monetary (.negativeRate rate)
  | negativeComponentRate (component : String) (rate : Decimal) :
    Monetary (.negativeComponentRate component rate)

open Error (Monetary)

/-- A step of decimal arithmetic fails with a fault. -/
theorem monetary_liftM {α : Type} (x : Except Fault α) :
    FailsWith Monetary (liftM x : Except Error α) :=
  .liftM .arithmetic

/-- A value that is sent as an amount has no decimal for want of a numeral that can be read. -/
theorem Datum.toDecimal_failsWith (d : Datum) : FailsWith Monetary d.toDecimal := by
  cases d with
  | decimal d => exact .pure d
  | whole n =>
    rw [toDecimal]
    split
    · exact .pure _
    · exact .error (.longInteger _)
  | binary b => exact .error .binaryAmount
  | text s => exact monetary_liftM _
  | absent => exact .error (.arithmetic _)
  | flag b => exact .error (.arithmetic _)
  | compound => exact .error (.arithmetic _)

namespace Split

/-- Computing a share fails with an error of amounts and splits. -/
theorem share_failsWith (s : Split) (fee : Decimal) (places : Int) :
    FailsWith Monetary (s.share fee places) := by
  rw [share]
  split
  · exact monetary_liftM _
  · refine (monetary_liftM _).bind fun exceeds _ => ?_
    cases exceeds with
    | true => exact .error (.splitExceedsFee s fee)
    | false => exact .pure _

/-- Computing several shares fails with an error of amounts and splits. -/
theorem shares_failsWith (fee : Decimal) (places : Int) (splits : List Split) :
    FailsWith Monetary (shares fee places splits) := by
  induction splits with
  | nil => exact .pure _
  | cons s rest ih =>
    exact (s.share_failsWith fee places).bind fun _ _ => ih.bind fun _ _ => .pure _

end Split

/-- Computing the credited amounts fails with an error of amounts and splits. -/
theorem Fee.amounts_failsWith (fee : Fee) (active : List Split) :
    FailsWith Monetary (fee.amounts active) := by
  refine (Split.shares_failsWith _ _ active).bind fun shares _ => ?_
  refine (monetary_liftM _).bind fun total _ => (monetary_liftM _).bind fun overshoot _ => ?_
  exact (monetary_liftM _).bind fun _ _ => .pure _

/-- Distributing a fee fails with an error of amounts and splits. -/
theorem Fee.distribute_failsWith (fee : Fee) (splits : List Split) (charge : Option String)
    (date : Option Date) : FailsWith Monetary (fee.distribute splits charge date) := by
  refine (monetary_liftM _).bind fun findings _ => ?_
  split
  · exact .error (.invalidSplits findings)
  · exact (fee.amounts_failsWith _).bind fun _ _ => .pure _

namespace Tax

/-- Taxing at a single rate fails with an error of amounts and rates. -/
theorem single_failsWith (fee : Fee) (rate : Datum) (exempt backdated : Bool) :
    FailsWith Monetary (single fee rate exempt backdated) := by
  refine rate.toDecimal_failsWith.bind fun r _ => (monetary_liftM _).bind fun negative _ => ?_
  split
  · exact .error (.negativeRate r)
  · split
    · exact .pure _
    · refine (monetary_liftM _).bind fun zero _ => ?_
      split
      · exact .pure _
      · exact (monetary_liftM _).bind fun _ _ => .pure _

/-- Computing a component fails with an error of amounts and rates. -/
theorem componentAmount_failsWith (fee : Fee) (component : TaxComponent) :
    FailsWith Monetary (componentAmount fee component) := by
  refine (monetary_liftM _).bind fun negative _ => ?_
  split
  · exact .error (.negativeComponentRate _ _)
  · exact (monetary_liftM _).bind fun _ _ => .pure _

/-- Computing several components fails with an error of amounts and rates. -/
theorem componentAmounts_failsWith (fee : Fee) (components : List TaxComponent) :
    FailsWith Monetary (componentAmounts fee components) := by
  induction components with
  | nil => exact .pure _
  | cons component rest ih =>
    exact (componentAmount_failsWith fee component).bind fun _ _ => ih.bind fun _ _ => .pure _

/-- Taxing by components fails with an error of amounts and rates. -/
theorem group_failsWith (fee : Fee) (components : List TaxComponent) (exempt backdated : Bool) :
    FailsWith Monetary (group fee components exempt backdated) := by
  rw [group]
  split
  · exact .pure _
  · refine (componentAmounts_failsWith fee components).bind fun amounts _ => ?_
    refine (monetary_liftM _).bind fun total _ => (monetary_liftM _).bind fun nothing _ => ?_
    split
    · exact .pure _
    · exact (monetary_liftM _).bind fun _ _ => .pure _

end Tax

namespace Charge

variable (charge : Charge) (schedule : Schedule) (splits : List Split)

/-- Only the search in the schedule finds that no slab contains the amount. -/
theorem resolve_failsWith :
    FailsWith (fun e => Monetary e ∨ ∃ amount, e = .noMatchingSlab amount)
      (charge.resolve schedule) := by
  refine (charge.amount.toDecimal_failsWith.mono fun _ => .inl).bind fun amount _ => ?_
  refine ((monetary_liftM _).mono fun _ => .inl).bind fun found _ => ?_
  cases found with
  | none => exact .error (.inr ⟨amount, rfl⟩)
  | some s => exact .pure s.fee

/-- Taxing the fee of a charge fails with an error of amounts and rates. -/
theorem tax_failsWith (fee : Fee) : FailsWith Monetary (charge.tax fee) := by
  rw [Charge.tax]
  split
  · split
    · exact Tax.single_failsWith _ _ _ _
    · exact Tax.group_failsWith _ _ _ _
  · exact Tax.group_failsWith _ _ _ _

/-- What is left to do once the fee is resolved. -/
def settleFor (resolved : Decimal) : Except Error Settlement := do
  let fee ← charge.post resolved
  let distribution ← fee.distribute splits charge.charge (some charge.postingDate)
  let tax ← charge.tax fee
  let payment ← Payment.aggregate (some fee) (some tax)
  return { payment, tax, distribution }

/-- Settling a charge is resolving its fee and doing what is left to do. -/
theorem settle_eq_bind :
    charge.settle schedule splits = charge.resolve schedule >>= charge.settleFor splits := by
  rw [settle, fee, bind_assoc]
  rfl

/-- Once the fee is resolved, settling fails with an error of amounts, splits and rates. -/
theorem settleFor_failsWith (resolved : Decimal) :
    FailsWith Monetary (charge.settleFor splits resolved) := by
  have hpost : FailsWith Monetary (charge.post resolved) :=
    (monetary_liftM _).bind fun _ _ => .pure _
  refine hpost.bind fun fee _ => (fee.distribute_failsWith _ _ _).bind fun distribution _ => ?_
  exact (charge.tax_failsWith fee).bind fun tax _ => (monetary_liftM _).bind fun _ _ => .pure _

end Charge

end Passbook
