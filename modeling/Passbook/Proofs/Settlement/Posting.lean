import Passbook.Proofs.Settlement

/-!
# The posting date and the money

A charge is posted on its date or later. The posting date dates the distribution and tells whether
the charge is backdated, and both are only written down: the fee, the shares and the tax are found
from the date of the transaction. So posting a charge on another day gives the same money or the
same error. The history of a tax rate counts on the date of the transaction alone.
-/

namespace Passbook

open Decimal

variable {fee : Fee} {component : TaxComponent} {components : List TaxComponent} {rate : Datum}
  {exempt : Bool} {tax : Tax}

/-- A component that always had the rate that it has on a date. -/
def TaxComponent.asOf (component : TaxComponent) (date : Date) : TaxComponent :=
  ⟨component.name, component.percentageOn (some date), []⟩

/-- A distribution is found without its date. -/
theorem Fee.distribute_date (fee : Fee) (splits : List Split) (charge : Option String)
    (date posting : Date) :
    fee.distribute splits charge (some posting) =
      (fun d => { d with date := some posting }) <$> fee.distribute splits charge (some date) := by
  refine bind_eq_map_bind fun findings => ?_
  split
  · rfl
  · exact bind_eq_map_bind fun amounts => rfl

namespace Tax

/-- A single rate is applied without regard to the time of posting. -/
theorem single_backdated (fee : Fee) (rate : Datum) (exempt before after : Bool) :
    single fee rate exempt after =
      (fun tax => { tax with backdated := after }) <$> single fee rate exempt before := by
  refine bind_eq_map_bind fun r => bind_eq_map_bind fun negative => ?_
  split
  · rfl
  · split
    · rfl
    · refine bind_eq_map_bind fun zero => ?_
      split
      · rfl
      · exact bind_eq_map_bind fun amount => rfl

/-- A group is applied without regard to the time of posting. -/
theorem group_backdated (fee : Fee) (components : List TaxComponent) (exempt before after : Bool) :
    group fee components exempt after =
      (fun tax => { tax with backdated := after }) <$> group fee components exempt before := by
  rw [group, group]
  split
  · rfl
  · refine bind_eq_map_bind fun amounts => bind_eq_map_bind fun total => ?_
    refine bind_eq_map_bind fun nothing => ?_
    split
    · rfl
    · exact bind_eq_map_bind fun percentage => rfl

section

variable {date : Date} (hdate : fee.date = some date)
include hdate

/-- A component is taxed at its rate on the date of the fee, whatever rate it had before or
after. -/
theorem componentAmount_asOf (component : TaxComponent) :
    componentAmount fee (component.asOf date) = componentAmount fee component := by
  rw [componentAmount, componentAmount, hdate]
  rfl

/-- With their rates of the date alone, components come to the same amounts. -/
theorem componentAmounts_asOf (components : List TaxComponent) :
    componentAmounts fee (components.map (·.asOf date)) = componentAmounts fee components := by
  induction components with
  | nil => rfl
  | cons component rest ih =>
    rw [List.map_cons, componentAmounts, componentAmounts, ih, componentAmount_asOf hdate]

/-- With the rates of the date alone, a group comes to the same tax. -/
theorem group_asOf (components : List TaxComponent) (exempt backdated : Bool) :
    group fee (components.map (·.asOf date)) exempt backdated =
      group fee components exempt backdated := by
  rw [group, group, List.isEmpty_map, componentAmounts_asOf hdate]

end

/-- The components of an applied group are those that were given, each at its rate on the date of
the fee. -/
theorem componentAmounts_rates {amounts : List ComponentAmount}
    (h : componentAmounts fee components = .ok amounts) :
    amounts.map (fun c => (c.name, c.percentage)) =
      components.map fun c => (c.name, c.percentageOn fee.date) := by
  induction components generalizing amounts with
  | nil =>
    obtain rfl := Except.ok.inj h
    rfl
  | cons component rest ih =>
    obtain ⟨first, hfirst, h⟩ := bind_eq_ok_iff.mp h
    obtain ⟨others, hothers, h⟩ := bind_eq_ok_iff.mp h
    obtain rfl := pure_eq_ok_iff.mp h
    obtain ⟨hname, hrate⟩ := rate_of_componentAmount hfirst
    rw [List.map_cons, List.map_cons, ih hothers, hname, hrate]

/-- An applied group is applied with all that its components come to. -/
theorem group_components {backdated : Bool} (h : group fee components exempt backdated = .ok tax)
    (happlied : tax.applied = true) : componentAmounts fee components = .ok tax.components := by
  rw [group] at h
  split at h
  · obtain rfl := pure_eq_ok_iff.mp h
    cases happlied
  · obtain ⟨amounts, hamounts, h⟩ := bind_eq_ok_iff.mp h
    obtain ⟨total, -, h⟩ := bind_eq_ok_iff.mp h
    rcases ite_eq_ok_iff.mp h with ⟨-, h⟩ | ⟨-, h⟩
    · obtain rfl := pure_eq_ok_iff.mp h
      cases happlied
    · obtain ⟨percentage, -, h⟩ := bind_eq_ok_iff.mp h
      obtain rfl := pure_eq_ok_iff.mp h
      exact hamounts

end Tax

/-- The same settlement, posted on another day. -/
def Settlement.postedOn (s : Settlement) (date posting : Date) : Settlement :=
  { s with
    tax := { s.tax with backdated := date.isBackdated posting }
    distribution := { s.distribution with date := some posting } }

namespace Charge

variable {charge : Charge} {schedule : Schedule} {splits : List Split} {s : Settlement}

/-- A fee is taxed without regard to the time of posting. -/
theorem tax_posting (charge : Charge) (fee : Fee) (posting : Date) :
    { charge with postingDate := posting }.tax fee =
      (fun tax => { tax with backdated := charge.date.isBackdated posting }) <$>
        charge.tax fee := by
  rw [Charge.tax, Charge.tax]
  dsimp only
  split
  · split
    · exact Tax.single_backdated fee _ _ _ _
    · exact Tax.group_backdated fee _ _ _ _
  · exact Tax.group_backdated fee _ _ _ _

/-- A charge that is posted on another day gives the same settlement, posted on that day, or the
same error. -/
theorem settle_posting (charge : Charge) (schedule : Schedule) (splits : List Split)
    (posting : Date) :
    { charge with postingDate := posting }.settle schedule splits =
      (·.postedOn charge.date posting) <$> charge.settle schedule splits := by
  refine bind_eq_map_bind fun fee => ?_
  dsimp only
  rw [Fee.distribute_date fee splits _ charge.postingDate posting, bind_map_left]
  refine bind_eq_map_bind fun distribution => ?_
  rw [tax_posting, bind_map_left]
  refine bind_eq_map_bind fun tax => ?_
  exact bind_eq_map_bind fun payment => rfl

/-- The fee of a charge has the date of the transaction. -/
theorem date_of_fee {fee : Fee} (h : charge.fee schedule = .ok fee) :
    fee.date = some charge.date := by
  obtain ⟨resolved, -, h⟩ := bind_eq_ok_iff.mp h
  obtain ⟨rounded, -, h⟩ := bind_eq_ok_iff.mp h
  obtain rfl := pure_eq_ok_iff.mp h
  rfl

/-- A fee with the date of the transaction is taxed at the rates of that date. -/
theorem tax_asOf {fee : Fee} (hdate : fee.date = some charge.date) :
    { charge with
      components := charge.components.map (TaxComponent.asOf · charge.date) }.tax fee =
        charge.tax fee := by
  rw [Charge.tax, Charge.tax]
  dsimp only
  rw [List.isEmpty_map, Tax.group_asOf hdate]
  rfl

/-- The rates of a charge count on its date alone. -/
theorem settle_asOf (charge : Charge) (schedule : Schedule) (splits : List Split) :
    { charge with
      components := charge.components.map (TaxComponent.asOf · charge.date) }.settle schedule
        splits = charge.settle schedule splits := by
  refine bind_congr_ok fun fee hfee => bind_congr fun distribution => ?_
  have hdate : fee.date = some charge.date := date_of_fee hfee
  rw [tax_asOf hdate]

/-- A tax that is applied to a charge with components charges each of them at its rate on the date
of the transaction. -/
theorem settle_rates (h : charge.settle schedule splits = .ok s) (hgroup : charge.components ≠ [])
    (happlied : s.tax.applied = true) :
    (s.tax.components.map fun c => (c.name, c.percentage)) =
        charge.components.map (fun c => (c.name, c.percentageOn (some charge.date))) ∧
      ∀ c ∈ s.tax.components, percentageOf s.payment.feeAmount c.percentage
        charge.currency.decimalPlaces = .ok c.amount := by
  obtain ⟨fee, hfee, -, htax, hpayment⟩ := settle_eq_ok h
  obtain ⟨_, _, -, -, -, hcurrency⟩ := fee_eq_ok hfee
  obtain ⟨hamount, -, -, -⟩ := Payment.aggregate_eq_ok hpayment
  have hgrouped : charge.tax fee =
      Tax.group fee charge.components charge.exempt charge.isBackdated := by
    rw [Charge.tax]
    split
    · rw [if_neg (by simpa using hgroup)]
    · rfl
  rw [hgrouped] at htax
  have hcomponents := Tax.group_components htax happlied
  have hrates := Tax.componentAmounts_rates hcomponents
  rw [date_of_fee hfee] at hrates
  refine ⟨hrates, fun c hc => ?_⟩
  rw [hamount, ← hcurrency]
  exact (Tax.isComponent_of_componentAmounts hcomponents c hc).amount

/-- The posting date never reaches the money. A charge posted on another day settles with the same
error, or with the same payment, the same tax but for the note that it is backdated, and the same
distribution but for its date. What a rate was on other days than that of the transaction is never
read, and an applied group reports each component at its rate of that day, with the percentage of
the fee that it comes to. -/
theorem settle_ignores_posting (charge : Charge) (schedule : Schedule) (splits : List Split) :
    (∀ posting, { charge with postingDate := posting }.settle schedule splits =
      (·.postedOn charge.date posting) <$> charge.settle schedule splits) ∧
    { charge with
      components := charge.components.map (TaxComponent.asOf · charge.date) }.settle schedule
        splits = charge.settle schedule splits ∧
    ∀ s, charge.settle schedule splits = .ok s → charge.components ≠ [] → s.tax.applied = true →
      (s.tax.components.map fun c => (c.name, c.percentage)) =
          charge.components.map (fun c => (c.name, c.percentageOn (some charge.date))) ∧
        ∀ c ∈ s.tax.components, percentageOf s.payment.feeAmount c.percentage
          charge.currency.decimalPlaces = .ok c.amount :=
  ⟨settle_posting charge schedule splits, settle_asOf charge schedule splits,
    fun _ => settle_rates⟩

/-- A charge of January that is posted in March, after the rate rose in February. -/
def postedLate : Charge :=
  { amount := .whole 100
    reference := "fee"
    date := ⟨2024, 1, 31⟩
    postingDate := ⟨2024, 3, 1⟩
    currency := ⟨"NGN", 2⟩
    components := [⟨"VAT", .finite ⟨false, 75, -1⟩, [⟨5, ⟨2020, 1, 1⟩, some ⟨2024, 1, 31⟩⟩,
      ⟨9, ⟨2024, 2, 1⟩, some ⟨2024, 2, 15⟩⟩]⟩] }

/-- The charge is taxed at the five percent of January, as if it had been posted on its day. -/
theorem postedLate_ignores_posting :
    ∃ s, postedLate.settle onePrice threeParts = .ok s ∧ s.tax.backdated = true ∧
      (s.tax.components.map fun c => (c.name, c.percentage)) = [("VAT", 5)] ∧
      { postedLate with postingDate := ⟨2024, 1, 31⟩ }.settle onePrice threeParts =
        .ok (s.postedOn ⟨2024, 1, 31⟩ ⟨2024, 1, 31⟩) := by
  obtain ⟨hposting, -, hrates⟩ := settle_ignores_posting postedLate onePrice threeParts
  obtain ⟨s, hs, hbackdated, happlied⟩ : ∃ s, postedLate.settle onePrice threeParts = .ok s ∧
      s.tax.backdated = true ∧ s.tax.applied = true := ⟨_, rfl, rfl, rfl⟩
  obtain ⟨hcomponents, -⟩ := hrates s hs (by decide) happlied
  refine ⟨s, hs, hbackdated, hcomponents.trans rfl, ?_⟩
  rw [hposting ⟨2024, 1, 31⟩, hs]
  rfl

end Charge

end Passbook
