import Passbook.Proofs.Money.MinorUnit
import Passbook.Proofs.Schedule.Rising
import Passbook.Proofs.Settlement

/-!
# A larger transaction never costs less

Where the fees rise along a schedule, of two charges that differ only in the amount of the
transaction the larger one has no lower fee. Whatever is made of the fee afterwards keeps the
order: the product with a rate and its hundredth are rounded to the context, the component to the
minor unit, the components are added and rounded again, and a group that comes to nothing is no
tax, which is nothing as well. So tax and total are no lower either, at every size of the fee.
-/

namespace Passbook

open Decimal
open Slab (FeesRise)

section
variable {x y rate : Decimal} {places : Int}

/-- A percentage from zero up of a larger amount is no smaller. -/
theorem Decimal.AtMost.percentageOf (h : x.AtMost y) (hrate : rate.isFinite = true)
    (h0 : 0 ≤ rate.value) :
    WhereBoth AtMost (percentageOf x rate places) (percentageOf y rate places) := by
  refine (h.mul hrate h0).bind fun _ _ _ _ hproduct => ?_
  exact hproduct.hundredth.bind fun _ _ _ _ hpart => hpart.quantizeMoney

end

namespace Tax

variable {fee : Fee} {larger : Decimal} {component : TaxComponent} {components : List TaxComponent}
  {rate : Datum} {exempt backdated : Bool} {tax : Tax}

/-- The amounts of two taxes, and what is paid of them, are in order. -/
structure AtMost (tax other : Tax) : Prop where
  amount : tax.amount.AtMost other.amount
  payable : tax.payable.AtMost other.payable

/-- Of two taxes that are not applied none is larger. -/
theorem notApplied_atMost (fee other : Fee) (backdated : Bool) :
    (notApplied fee backdated).AtMost (notApplied other backdated) where
  amount := .refl hasValue_zero.isFinite
  payable := .refl hasValue_zero.isFinite

/-- A group that is not exempt comes to what its total is above zero. -/
theorem group_hasValue (htaxed : (exempt || components.isEmpty) = false)
    (h : group fee components exempt backdated = .ok tax) :
    ∃ amounts total, componentAmounts fee components = .ok amounts ∧
      Decimal.sum (amounts.map (·.amount)) = .ok total ∧
      ∀ q, total.HasValue q → tax.amount.HasValue (max q 0) ∧ tax.payable.HasValue (max q 0) := by
  rw [group, if_neg (Bool.eq_false_iff.mp htaxed)] at h
  obtain ⟨amounts, hamounts, h⟩ := bind_eq_ok_iff.mp h
  obtain ⟨total, htotal, h⟩ := bind_eq_ok_iff.mp h
  rw [liftM_eq_ok_iff] at htotal
  refine ⟨amounts, total, hamounts, htotal, fun q hq => ?_⟩
  rcases ite_eq_ok_iff.mp h with ⟨hnothing, h⟩ | ⟨hsome, h⟩
  · rw [liftM_eq_ok_iff, le_eq hq hasValue_zero] at hnothing
    rw [max_eq_right (of_decide_eq_true (Except.ok.inj hnothing)), ← pure_eq_ok_iff.mp h]
    exact ⟨hasValue_zero, hasValue_zero⟩
  · rw [liftM_eq_ok_iff, le_eq hq hasValue_zero] at hsome
    obtain ⟨percentage, -, h⟩ := bind_eq_ok_iff.mp h
    have hpos := not_le.mp (of_decide_eq_false (Except.ok.inj hsome))
    rw [max_eq_left hpos.le, ← pure_eq_ok_iff.mp h]
    exact ⟨hq, hq⟩

section

-- Two fees of one charge, from zero up and in order.
variable (h : fee.amount.AtMost larger) (h0 : 0 ≤ fee.amount.value)
include h h0

/-- A component comes to no less on a larger fee. -/
theorem componentAmount_atMost :
    WhereBoth (fun c c' => c.amount.AtMost c'.amount) (componentAmount fee component)
      (componentAmount { fee with amount := larger } component) := by
  intro c c' hc hc'
  obtain ⟨hrate, hamount⟩ := isComponent_of_componentAmount hc
  obtain ⟨-, hamount'⟩ := isComponent_of_componentAmount hc'
  rw [(rate_of_componentAmount hc).2] at hrate hamount
  rw [(rate_of_componentAmount hc').2] at hamount'
  obtain ⟨p, r, hp, hp0, -⟩ := percentageOf_of_notNegative h.hasValue_left h0 hrate hamount
  exact h.percentageOf hp.isFinite (by rwa [hp.value_eq]) _ _ hamount hamount'

/-- Every component of a group comes to no less on a larger fee. -/
theorem componentAmounts_atMost (components : List TaxComponent) :
    WhereBoth (List.Forall₂ fun c c' => c.amount.AtMost c'.amount)
      (componentAmounts fee components)
      (componentAmounts { fee with amount := larger } components) := by
  induction components with
  | nil => exact WhereBoth.pure .nil
  | cons component rest ih =>
    refine (componentAmount_atMost h h0).bind fun first first' _ _ hfirst => ?_
    exact ih.bind fun others others' _ _ hothers => WhereBoth.pure (.cons hfirst hothers)

/-- A single rate taxes a larger fee no less. -/
theorem single_atMost :
    WhereBoth AtMost (single fee rate exempt backdated)
      (single { fee with amount := larger } rate exempt backdated) := by
  intro tax tax' htax htax'
  obtain ⟨r, hr, htax⟩ := bind_eq_ok_iff.mp htax
  obtain ⟨r', hr', htax'⟩ := bind_eq_ok_iff.mp htax'
  obtain rfl := Except.ok.inj (hr.symm.trans hr')
  obtain ⟨negative, hnegative, htax⟩ := bind_eq_ok_iff.mp htax
  obtain ⟨negative', hnegative', htax'⟩ := bind_eq_ok_iff.mp htax'
  obtain rfl := Except.ok.inj (hnegative.symm.trans hnegative')
  rw [liftM_eq_ok_iff] at hnegative
  cases negative with
  | true => exact nomatch htax
  | false =>
    cases exempt with
    | true =>
      rw [← pure_eq_ok_iff.mp htax, ← pure_eq_ok_iff.mp htax']
      exact notApplied_atMost _ _ backdated
    | false =>
      obtain ⟨zero, hzero, htax⟩ := bind_eq_ok_iff.mp htax
      obtain ⟨zero', hzero', htax'⟩ := bind_eq_ok_iff.mp htax'
      obtain rfl := Except.ok.inj (hzero.symm.trans hzero')
      cases zero with
      | true =>
        rw [← pure_eq_ok_iff.mp htax, ← pure_eq_ok_iff.mp htax']
        exact notApplied_atMost _ _ backdated
      | false =>
        obtain ⟨amount, hamount, htax⟩ := bind_eq_ok_iff.mp htax
        obtain ⟨amount', hamount', htax'⟩ := bind_eq_ok_iff.mp htax'
        rw [liftM_eq_ok_iff] at hamount hamount'
        obtain ⟨p, -, hp, hp0, -⟩ :=
          percentageOf_of_notNegative h.hasValue_left h0 hnegative hamount
        have hle := h.percentageOf hp.isFinite (by rwa [hp.value_eq]) _ _ hamount hamount'
        rw [← pure_eq_ok_iff.mp htax, ← pure_eq_ok_iff.mp htax']
        exact ⟨hle, hle⟩

/-- A group taxes a larger fee no less. -/
theorem group_atMost :
    WhereBoth AtMost (group fee components exempt backdated)
      (group { fee with amount := larger } components exempt backdated) := by
  intro tax tax' htax htax'
  cases htaxed : exempt || components.isEmpty with
  | true =>
    rw [group, if_pos htaxed] at htax htax'
    rw [← pure_eq_ok_iff.mp htax, ← pure_eq_ok_iff.mp htax']
    exact notApplied_atMost _ _ backdated
  | false =>
    obtain ⟨amounts, total, hamounts, htotal, hvalue⟩ := group_hasValue htaxed htax
    obtain ⟨amounts', total', hamounts', htotal', hvalue'⟩ := group_hasValue htaxed htax'
    have hle := AtMost.sum (List.forall₂_map_left_iff.mpr (List.forall₂_map_right_iff.mpr
      (componentAmounts_atMost h h0 components _ _ hamounts hamounts'))) _ _ htotal htotal'
    obtain ⟨hamount, hpayable⟩ := hvalue _ hle.hasValue_left
    obtain ⟨hamount', hpayable'⟩ := hvalue' _ hle.hasValue_right
    have hmax := max_le_max_right 0 hle.le
    exact ⟨hamount.atMost hamount' hmax, hpayable.atMost hpayable' hmax⟩

end

end Tax

/-- What is charged in one settlement is no more than in the other: the fee, the tax, what is paid
of it, and the total. -/
structure Settlement.AtMost (s other : Settlement) : Prop where
  fee : s.payment.feeAmount.AtMost other.payment.feeAmount
  tax : s.tax.amount.AtMost other.tax.amount
  paidTax : s.payment.taxAmount.AtMost other.payment.taxAmount
  total : s.payment.total.AtMost other.payment.total

namespace Charge

variable {charge : Charge} {schedule : Schedule} {splits : List Split} {fee : Fee}
  {larger : Datum} {a b amount : Decimal}

/-- A larger transaction has the same fee, but for an amount that is no smaller. -/
theorem fee_atMost (hcharge : charge.amount.toDecimal = .ok a) (hlarger : larger.toDecimal = .ok b)
    (hresolve : WhereBoth AtMost (schedule.resolve a) (schedule.resolve b)) :
    WhereBoth (fun fee fee' => fee.amount.AtMost fee'.amount ∧
        fee' = { fee with amount := fee'.amount })
      (charge.fee schedule) ({ charge with amount := larger }.fee schedule) := by
  rw [Charge.fee, Charge.fee, Charge.resolve, Charge.resolve, hcharge, hlarger]
  refine hresolve.bind fun p q _ _ hle => ?_
  refine hle.quantizeMoney.liftM.bind fun amount amount' _ _ hamount => ?_
  exact WhereBoth.pure ⟨hamount, rfl⟩

/-- A larger fee of a charge is taxed no less. -/
theorem tax_atMost (h : fee.amount.AtMost amount) (h0 : 0 ≤ fee.amount.value) :
    WhereBoth Tax.AtMost (charge.tax fee) (charge.tax { fee with amount }) := by
  rw [Charge.tax, Charge.tax]
  split
  · split
    · exact Tax.single_atMost h h0
    · exact Tax.group_atMost h h0
  · exact Tax.group_atMost h h0

/-- Where the fees of a schedule rise, a larger transaction is charged no less. -/
theorem settle_atMost (hcharge : charge.amount.toDecimal = .ok a)
    (hlarger : larger.toDecimal = .ok b)
    (hresolve : WhereBoth AtMost (schedule.resolve a) (schedule.resolve b)) :
    WhereBoth Settlement.AtMost (charge.settle schedule splits)
      ({ charge with amount := larger }.settle schedule splits) := by
  intro s s' hs hs'
  obtain ⟨fee, hfee, hdistribute, htax, hpayment⟩ := settle_eq_ok hs
  obtain ⟨fee', hfee', -, htax', hpayment'⟩ := settle_eq_ok hs'
  obtain ⟨hamount, heq⟩ := fee_atMost hcharge hlarger hresolve _ _ hfee hfee'
  obtain ⟨_, _, -, -, hrounded, hcurrency⟩ := fee_eq_ok hfee
  -- a fee that was distributed is not negative
  rw [← hcurrency] at hrounded
  obtain ⟨_, _, -, -, hvalue, h0, -⟩ := fee_hasValue hrounded hdistribute
  rw [← hvalue.value_eq] at h0
  rw [heq] at htax'
  have hle : s.tax.AtMost s'.tax := tax_atMost hamount h0 _ _ htax htax'
  obtain ⟨hpaid, -, hpaidTax, htotal⟩ := Payment.aggregate_eq_ok hpayment
  obtain ⟨hpaid', -, hpaidTax', htotal'⟩ := Payment.aggregate_eq_ok hpayment'
  have hpayable : s.payment.taxAmount.AtMost s'.payment.taxAmount := by
    rw [hpaidTax, hpaidTax']
    exact hle.payable
  exact {
    fee := by rwa [hpaid, hpaid']
    tax := hle.amount
    paidTax := hpayable
    total := hamount.add hpayable _ _ htotal htotal' }

end Charge

/-- However a schedule was edited, and whether its slabs overlap or leave gaps, where its fees are
numbers that rise in the order of the slabs a larger amount has no lower fee. Of two charges that
differ in the amount of the transaction only, the larger one is charged no lower fee, no less tax
and no lower total. -/
theorem Schedule.settle_rising (authored : List Slab) (step : Decimal) (initial : Schedule)
    (hinitial : ofSlabs authored step = .ok initial) (edits : List (Int × Request))
    (hfinite : ∀ s ∈ (initial.updateAll edits).slabs, s.fee.isFinite = true)
    (hrise : (initial.updateAll edits).slabs.Pairwise fun s t => s.fee.le t.fee = .ok true) :
    let schedule := initial.updateAll edits
    (∀ a b p q, a.le b = .ok true → schedule.resolve a = .ok p → schedule.resolve b = .ok q →
      p.AtMost q) ∧
    ∀ (charge : Charge) (larger : Datum) (splits : List Split) a b s s',
      charge.amount.toDecimal = .ok a → larger.toDecimal = .ok b → a.le b = .ok true →
      charge.settle schedule splits = .ok s →
      { charge with amount := larger }.settle schedule splits = .ok s' →
      s.AtMost s' := by
  intro schedule
  have hordered := updateAll_ordered (ofSlabs_ordered hinitial) edits
  have hresolve : ∀ {a b}, a.le b = .ok true →
      WhereBoth AtMost (schedule.resolve a) (schedule.resolve b) :=
    fun hab => resolve_le hordered hrise hfinite hab
  refine ⟨fun a b p q hab => hresolve hab p q, ?_⟩
  intro charge larger splits a b s s' hcharge hlarger hab
  exact Charge.settle_atMost hcharge hlarger (hresolve hab) s s'

/-- Tiers of which the first two overlap, from the largest amounts down. -/
def lappedTiers : List Slab := [⟨500, none, 9⟩, ⟨101, some 300, 7⟩, ⟨0, some 150, 5⟩]

/-- After the last tier is moved down to four hundred, 450 are charged 9.68 where 100 are charged
5.38. -/
theorem lappedTiers_rising :
    let schedule := Schedule.updateAll ⟨lappedTiers.reverse, 1⟩ [(2, [("fromAmount", .whole 400)])]
    ∃ s s', Charge.twiceTaxed.settle schedule Charge.threeParts = .ok s ∧
      { Charge.twiceTaxed with amount := .whole 450 }.settle schedule Charge.threeParts = .ok s' ∧
      s.payment.total = .finite ⟨false, 538, -2⟩ ∧ s'.payment.total = .finite ⟨false, 968, -2⟩ ∧
      s.AtMost s' := by
  intro schedule
  obtain ⟨s, hs, htotal⟩ : ∃ s, Charge.twiceTaxed.settle schedule Charge.threeParts = .ok s ∧
      s.payment.total = .finite ⟨false, 538, -2⟩ := ⟨_, rfl, rfl⟩
  obtain ⟨s', hs', htotal'⟩ : ∃ s',
      { Charge.twiceTaxed with amount := .whole 450 }.settle schedule Charge.threeParts = .ok s' ∧
        s'.payment.total = .finite ⟨false, 968, -2⟩ := ⟨_, rfl, rfl⟩
  obtain ⟨-, hsettle⟩ := Schedule.settle_rising lappedTiers 1 ⟨lappedTiers.reverse, 1⟩ rfl
    [(2, [("fromAmount", .whole 400)])] (by decide) (by decide)
  exact ⟨s, s', hs, hs', htotal, htotal',
    hsettle Charge.twiceTaxed (.whole 450) Charge.threeParts 100 450 s s' rfl rfl rfl hs hs'⟩

end Passbook
