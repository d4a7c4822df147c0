import Passbook.Proofs.Decimal.Sum
import Passbook.Proofs.Money
import Passbook.Tax

/-!
# Tax in minor units

Both ways of taxing a fee refuse negative rates, round every component to the minor unit on its
own and report the sum of the components. A tax that is not applied is nothing at all: it has no
components and a zero amount, whether the fee is exempt, the rate is zero or the group comes to
nothing.
-/

namespace Passbook

open Decimal

namespace Tax

variable {fee : Fee} {component : TaxComponent} {components : List TaxComponent} {rate : Datum}
  {exempt backdated : Bool} {tax : Tax} {f : ℚ}

/-- What is paid of the tax. -/
def payable (tax : Tax) : Decimal := if tax.applied then tax.amount else 0

/-- What the components of a tax come to, exactly. -/
def charged (tax : Tax) : ℚ := (tax.components.map (·.amount.value)).sum

/-- A component of a tax on a fee has a rate that was not refused, and it comes to that percentage
of the fee. -/
structure IsComponent (fee : Fee) (c : ComponentAmount) : Prop where
  rate : c.percentage.NotNegative
  amount : percentageOf fee.amount c.percentage fee.currency.decimalPlaces = .ok c.amount

/-- What is returned for one component of a group is a component of the tax. -/
theorem isComponent_of_componentAmount {c : ComponentAmount}
    (h : componentAmount fee component = .ok c) : IsComponent fee c := by
  obtain ⟨negative, hnegative, h⟩ := bind_eq_ok_iff.mp h
  rw [liftM_eq_ok_iff] at hnegative
  cases negative with
  | true => exact nomatch h
  | false =>
    obtain ⟨d, hd, h⟩ := bind_eq_ok_iff.mp h
    rw [liftM_eq_ok_iff] at hd
    obtain rfl := pure_eq_ok_iff.mp h
    exact ⟨hnegative, hd⟩

/-- A component is charged under its name at its rate on the date of the fee. -/
theorem rate_of_componentAmount {c : ComponentAmount}
    (h : componentAmount fee component = .ok c) :
    c.name = component.name ∧ c.percentage = component.percentageOn fee.date := by
  obtain ⟨negative, -, h⟩ := bind_eq_ok_iff.mp h
  cases negative with
  | true => exact nomatch h
  | false =>
    obtain ⟨d, -, h⟩ := bind_eq_ok_iff.mp h
    obtain rfl := pure_eq_ok_iff.mp h
    exact ⟨rfl, rfl⟩

/-- What is returned for a group are components of the tax. -/
theorem isComponent_of_componentAmounts {amounts : List ComponentAmount}
    (h : componentAmounts fee components = .ok amounts) : ∀ c ∈ amounts, IsComponent fee c := by
  induction components generalizing amounts with
  | nil =>
    obtain rfl := Except.ok.inj h
    simp
  | cons component rest ih =>
    obtain ⟨first, hfirst, h⟩ := bind_eq_ok_iff.mp h
    obtain ⟨others, hothers, h⟩ := bind_eq_ok_iff.mp h
    obtain rfl := pure_eq_ok_iff.mp h
    exact List.forall_mem_cons.mpr ⟨isComponent_of_componentAmount hfirst, ih hothers⟩

/-- A tax at a single rate is not applied, or it is one component. -/
theorem single_eq_ok (h : single fee rate exempt backdated = .ok tax) :
    tax = notApplied fee backdated ∨
      ∃ r amount, IsComponent fee ⟨"VAT", r, amount⟩ ∧
        tax = ofComponents fee backdated amount r [⟨"VAT", r, amount⟩] := by
  obtain ⟨r, -, h⟩ := bind_eq_ok_iff.mp h
  obtain ⟨negative, hnegative, h⟩ := bind_eq_ok_iff.mp h
  rw [liftM_eq_ok_iff] at hnegative
  cases negative with
  | true => exact nomatch h
  | false =>
    cases exempt with
    | true => exact .inl (pure_eq_ok_iff.mp h).symm
    | false =>
      obtain ⟨zero, -, h⟩ := bind_eq_ok_iff.mp h
      cases zero with
      | true => exact .inl (pure_eq_ok_iff.mp h).symm
      | false =>
        obtain ⟨amount, hamount, h⟩ := bind_eq_ok_iff.mp h
        rw [liftM_eq_ok_iff] at hamount
        exact .inr ⟨r, amount, ⟨hnegative, hamount⟩, (pure_eq_ok_iff.mp h).symm⟩

/-- A tax by a group is not applied, or it is the total of its components. -/
theorem group_eq_ok (h : group fee components exempt backdated = .ok tax) :
    tax = notApplied fee backdated ∨
      ∃ total percentage amounts, (∀ c ∈ amounts, IsComponent fee c) ∧
        Decimal.sum (amounts.map (·.amount)) = .ok total ∧
        Decimal.sum (amounts.map (·.percentage)) = .ok percentage ∧
        tax = ofComponents fee backdated total percentage amounts := by
  rw [group] at h
  split at h
  · exact .inl (pure_eq_ok_iff.mp h).symm
  · obtain ⟨amounts, hamounts, h⟩ := bind_eq_ok_iff.mp h
    obtain ⟨total, htotal, h⟩ := bind_eq_ok_iff.mp h
    obtain ⟨nothing, -, h⟩ := bind_eq_ok_iff.mp h
    rw [liftM_eq_ok_iff] at htotal
    cases nothing with
    | true => exact .inl (pure_eq_ok_iff.mp h).symm
    | false =>
      obtain ⟨percentage, hpercentage, h⟩ := bind_eq_ok_iff.mp h
      rw [liftM_eq_ok_iff] at hpercentage
      exact .inr ⟨total, percentage, amounts, isComponent_of_componentAmounts hamounts, htotal,
        hpercentage, (pure_eq_ok_iff.mp h).symm⟩

/-- Each component of a tax at a single rate is the part of its rate in the fee. -/
theorem isComponent_of_single (h : single fee rate exempt backdated = .ok tax) :
    ∀ c ∈ tax.components, IsComponent fee c := by
  rcases single_eq_ok h with rfl | ⟨r, amount, hcomponent, rfl⟩
  · exact List.forall_mem_nil _
  · exact List.forall_mem_singleton.mpr hcomponent

/-- Each component of a tax by components is the part of its rate in the fee. -/
theorem isComponent_of_group (h : group fee components exempt backdated = .ok tax) :
    ∀ c ∈ tax.components, IsComponent fee c := by
  rcases group_eq_ok h with rfl | ⟨total, percentage, amounts, hcomponents, -, -, rfl⟩
  · exact List.forall_mem_nil _
  · exact hcomponents

/-- A tax that agrees with its components: each of them is a whole number of minor units, the
amount is their sum as long as the context keeps its digits, and there are none without tax. -/
structure Accounted (places : Int) (tax : Tax) : Prop where
  component : ∀ c ∈ tax.components, c.amount.IsUnits places
  amount : tax.charged < 10 ^ (-places + precision) → tax.amount.HasValue tax.charged
  unapplied : tax.applied = false → tax.amount = 0 ∧ tax.components = []

/-- No tax is accounted for by no components. -/
theorem notApplied_accounted {places : Int} (fee : Fee) (backdated : Bool) :
    (notApplied fee backdated).Accounted places where
  component := by simp [notApplied]
  amount := fun _ => hasValue_zero
  unapplied := fun _ => ⟨rfl, rfl⟩

theorem Accounted.charged_nonneg {places : Int} (h : tax.Accounted places) : 0 ≤ tax.charged :=
  (sum_isUnits h.component).1

theorem Accounted.charged_mem {places : Int} (h : tax.Accounted places) :
    tax.charged ∈ grid (-places) :=
  (sum_isUnits h.component).2

/-- A total of whole minor units that are few enough is exact. -/
theorem sum_hasValue {amounts : List ComponentAmount} {places : Int} {total : Decimal}
    (hplaces : leastExponent ≤ -places) (hunits : ∀ c ∈ amounts, c.amount.IsUnits places)
    (hlt : (amounts.map (·.amount.value)).sum < 10 ^ (-places + precision))
    (h : Decimal.sum (amounts.map (·.amount)) = .ok total) :
    total.HasValue (amounts.map (·.amount.value)).sum := by
  have hvalues : List.Forall₂ HasValue (amounts.map (·.amount))
      ((amounts.map (·.amount)).map Decimal.value) := by
    refine forall₂_hasValue_map fun x hx => ?_
    obtain ⟨c, hc, rfl⟩ := List.mem_map.mp hx
    exact (hunits c hc).hasValue
  rw [List.map_map] at hvalues
  have hrun : ExactRun (-places) 0 (amounts.map (·.amount.value)) := by
    refine exactRun_of_mem hplaces ?_ hlt
    intro q hq
    obtain ⟨c, hc, rfl⟩ := List.mem_map.mp hq
    exact ⟨(hunits c hc).mem, (hunits c hc).nonneg⟩
  exact Decimal.sum_hasValue hvalues hrun.runningTotals h

section

-- A distributed fee is a number from zero up, in a currency whose minor unit the context reaches.
variable (hf : fee.amount.HasValue f) (hf0 : 0 ≤ f)
  (hplaces : leastExponent ≤ -fee.currency.decimalPlaces)
include hf hf0 hplaces

/-- A component comes to whole minor units. -/
theorem IsComponent.isUnits {c : ComponentAmount} (h : IsComponent fee c) :
    c.amount.IsUnits fee.currency.decimalPlaces := by
  obtain ⟨p, r, -, -, hr, hr0, hquantized⟩ := percentageOf_of_notNegative hf hf0 h.rate h.amount
  exact hr.isUnits hr0 (hquantized.mem_grid hplaces)

/-- A fee taxed at a single rate is accounted for by one component. -/
theorem single_accounted (h : single fee rate exempt backdated = .ok tax) :
    tax.Accounted fee.currency.decimalPlaces := by
  rcases single_eq_ok h with rfl | ⟨r, amount, hcomponent, rfl⟩
  · exact notApplied_accounted fee backdated
  · have hunits := hcomponent.isUnits hf hf0 hplaces
    exact {
      component := by simpa [ofComponents] using hunits
      amount := fun _ => by simpa [ofComponents, charged] using hunits.hasValue
      unapplied := nofun }

/-- A fee taxed by a group is accounted for by its components. -/
theorem group_accounted (h : group fee components exempt backdated = .ok tax) :
    tax.Accounted fee.currency.decimalPlaces := by
  rcases group_eq_ok h with rfl | ⟨total, percentage, amounts, hcomponents, htotal, -, rfl⟩
  · exact notApplied_accounted fee backdated
  · have hunits := fun c hc => (hcomponents c hc).isUnits hf hf0 hplaces
    exact {
      component := hunits
      amount := fun hlt => sum_hasValue hplaces hunits hlt htotal
      unapplied := nofun }

end

end Tax

end Passbook
