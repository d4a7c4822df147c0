import Passbook.Proofs.Decimal.Reordered
import Passbook.Proofs.Tax.OneRate

/-!
# How far a group of taxes drifts

Each component of a group is rounded to the minor unit on its own, so their sum is off the tax at
the sum of all rates by at most half a minor unit for each of them. A group counts as not applied
only where every component comes to nothing, so its amount of zero is no further off. None of this
depends on the order of the components, nor on that of the earlier rates of a component, as long as
at most one of these includes the date of the fee.
-/

namespace Passbook

open Decimal

namespace TaxComponent

variable {date : Option Date} {component other : TaxComponent}

/-- At most one of the earlier rates includes the date. -/
def CoveredOnce (history : List PastRate) (date : Date) : Prop :=
  history.Pairwise fun past other =>
    ¬(date.occursBetween past.start past.finish = true ∧
      date.occursBetween other.start other.finish = true)

/-- The component is the other one, or that one with its earlier rates in another order that does
not matter on the date. -/
def Reordered (date : Option Date) (component other : TaxComponent) : Prop :=
  other = component ∨ ∃ history, history.Perm component.history ∧
    (∀ day, date = some day → CoveredOnce component.history day) ∧
    other = { component with history }

/-- What is found first does not depend on the order where there is at most one. -/
theorem find?_perm {α : Type} {found : α → Bool} {xs ys : List α} (hperm : ys.Perm xs)
    (h : xs.Pairwise fun x y => ¬(found x = true ∧ found y = true)) :
    ys.find? found = xs.find? found := by
  have hfilter : (ys.filter found).Perm (xs.filter found) := hperm.filter found
  rw [← List.head?_filter, ← List.head?_filter]
  match hxs : xs.filter found with
  | [] =>
    rw [hxs] at hfilter
    rw [hfilter.eq_nil]
  | [x] =>
    rw [hxs] at hfilter
    rw [List.perm_singleton.mp hfilter]
  | x :: y :: rest =>
    have hboth : ∀ z ∈ x :: y :: rest, found z = true := by
      intro z hz
      rw [← hxs] at hz
      exact (List.mem_filter.mp hz).2
    have hpairs := h.filter found
    rw [hxs] at hpairs
    exact absurd ⟨hboth x (by simp), hboth y (by simp)⟩
      (List.rel_of_pairwise_cons hpairs List.mem_cons_self)

/-- A reordered component is of the same name and has the same rate on the date. -/
theorem Reordered.percentageOn (h : Reordered date component other) :
    other.name = component.name ∧ other.percentageOn date = component.percentageOn date := by
  obtain rfl | ⟨history, hperm, honce, rfl⟩ := h
  · exact ⟨rfl, rfl⟩
  · refine ⟨rfl, ?_⟩
    cases date with
    | none => rfl
    | some day =>
      rw [TaxComponent.percentageOn, TaxComponent.percentageOn, find?_perm hperm (honce day rfl)]

end TaxComponent

namespace Tax

open TaxComponent

/-- The other list has the components of the first in any order, also of their earlier rates. -/
def ReorderedGroup (date : Option Date) (components other : List TaxComponent) : Prop :=
  ∃ same, List.Forall₂ (Reordered date) components same ∧ other.Perm same

/-- The rate of a component on the date of a fee. -/
def rateOn (fee : Fee) (component : TaxComponent) : ℚ := (component.percentageOn fee.date).value

/-- What a component comes to on a fee, rounded to the minor unit alone. -/
def idealPart (fee : Fee) (component : TaxComponent) : ℚ :=
  nearestMultiple (-fee.currency.decimalPlaces) (fee.amount.value * rateOn fee component / 100)

/-- No operation of a group rounds: not the products and their hundredths, not the sum of the
amounts, and not that of the rates, which are only added where the amounts come to something. -/
structure GroupsExactly (fee : Fee) (components : List TaxComponent) : Prop where
  parts : ∀ c ∈ components, Representable (fee.amount.value * rateOn fee c) ∧
    Representable (fee.amount.value * rateOn fee c / 100)
  amounts : RunningTotals Representable 0 (components.map (idealPart fee))
  rates : 0 < (components.map (idealPart fee)).sum →
    RunningTotals Representable 0 (components.map (rateOn fee))

variable {fee : Fee} {component : TaxComponent} {components other : List TaxComponent}
  {amounts : List ComponentAmount} {backdated : Bool} {tax : Tax}

/-- The amounts of a list are the amounts of its components, in order. -/
theorem componentAmounts_eq_ok_iff :
    componentAmounts fee components = .ok amounts ↔
      List.Forall₂ (fun component amount => componentAmount fee component = .ok amount)
        components amounts := by
  induction components generalizing amounts with
  | nil => rw [List.forall₂_nil_left_iff, componentAmounts, Except.ok.injEq, eq_comm]
  | cons component rest ih =>
    constructor
    · intro h
      obtain ⟨first, hfirst, h⟩ := bind_eq_ok_iff.mp h
      obtain ⟨others, hothers, h⟩ := bind_eq_ok_iff.mp h
      obtain rfl := pure_eq_ok_iff.mp h
      exact .cons hfirst (ih.mp hothers)
    · rintro (_ | ⟨hfirst, hrest⟩)
      rw [componentAmounts, hfirst, ok_bind, ih.mpr hrest]
      rfl

/-- A reordered component comes to the same on a fee of the date. -/
theorem componentAmount_of_reordered {c : TaxComponent} (h : Reordered fee.date component c) :
    componentAmount fee c = componentAmount fee component := by
  obtain ⟨hname, hrate⟩ := h.percentageOn
  rw [componentAmount, componentAmount, hname, hrate]

/-- A reordered group has the same amounts in another order. -/
theorem componentAmounts_of_reordered (h : ReorderedGroup fee.date components other)
    (hamounts : componentAmounts fee components = .ok amounts) :
    ∃ amounts', componentAmounts fee other = .ok amounts' ∧ amounts'.Perm amounts := by
  obtain ⟨same, hsame, hperm⟩ := h
  rw [componentAmounts_eq_ok_iff] at hamounts
  have hall : List.Forall₂ (fun component amount => componentAmount fee component = .ok amount)
      same amounts := by
    clear hperm
    induction hsame generalizing amounts with
    | nil => exact hamounts
    | cons hfirst _ ih =>
      obtain ⟨amount, later, hamount, hlater, rfl⟩ := List.forall₂_cons_left_iff.mp hamounts
      exact .cons ((componentAmount_of_reordered hfirst).trans hamount) (ih hlater)
  obtain ⟨amounts', hforall, hperm'⟩ := List.perm_comp_forall₂ hperm hall
  exact ⟨amounts', componentAmounts_eq_ok_iff.mpr hforall, hperm'⟩

/-- What a component comes to on numbers: its rate and its part of the fee, both from zero up. -/
structure IsPart (fee : Fee) (component : TaxComponent) (amount : ComponentAmount) : Prop where
  found : percentageOf fee.amount (component.percentageOn fee.date) fee.currency.decimalPlaces =
    .ok amount.amount
  rate_eq : amount.percentage = component.percentageOn fee.date
  rate : amount.percentage.HasValue (rateOn fee component)
  rate_nonneg : 0 ≤ rateOn fee component
  part : amount.amount.HasValue (idealPart fee component)
  part_nonneg : 0 ≤ idealPart fee component

/-- What is computed for a group are the parts of the fee. -/
theorem isPart_of_componentAmounts (hfee : fee.amount.HasValue fee.amount.value)
    (hfee0 : 0 ≤ fee.amount.value) (hplaces : fee.currency.decimalPlaces ≤ maxExponent)
    (hexact : GroupsExactly fee components) (h : componentAmounts fee components = .ok amounts) :
    List.Forall₂ (IsPart fee) components amounts := by
  have hall := (List.forall₂_and_left (p := (· ∈ components)) _ _).mpr
    ⟨fun c hc => hc, componentAmounts_eq_ok_iff.mp h⟩
  refine hall.imp ?_
  rintro c amount ⟨hc, hcomponent⟩
  obtain ⟨hrate, hamount⟩ := isComponent_of_componentAmount hcomponent
  obtain ⟨-, heq⟩ := rate_of_componentAmount hcomponent
  obtain ⟨p, r, hp, hp0, -⟩ := percentageOf_of_notNegative hfee hfee0 hrate hamount
  obtain ⟨hproduct, hpart⟩ := hexact.parts c hc
  rw [heq] at hp hamount
  obtain rfl : rateOn fee c = p := hp.value_eq
  exact {
    found := hamount
    rate_eq := heq
    rate := by rwa [heq]
    rate_nonneg := hp0
    part := percentageOf_hasValue_nearest hplaces hfee hp hproduct hpart hamount
    part_nonneg := nearestMultiple_nonneg (by positivity) _ }

section
variable (h : List.Forall₂ (IsPart fee) components amounts)
include h

/-- The amounts are the parts of the components. -/
theorem forall₂_part :
    List.Forall₂ HasValue (amounts.map (·.amount)) (components.map (idealPart fee)) := by
  rw [List.forall₂_map_left_iff, List.forall₂_map_right_iff]
  exact (h.imp fun _ _ hpart => hpart.part).flip

/-- The percentages are the rates of the components. -/
theorem forall₂_rate :
    List.Forall₂ HasValue (amounts.map (·.percentage)) (components.map (rateOn fee)) := by
  rw [List.forall₂_map_left_iff, List.forall₂_map_right_iff]
  exact (h.imp fun _ _ hpart => hpart.rate).flip

/-- Every component has a part. -/
theorem exists_isPart : ∀ c ∈ components, ∃ amount, IsPart fee c amount := by
  induction h with
  | nil => simp
  | cons hfirst _ ih => exact List.forall_mem_cons.mpr ⟨⟨_, hfirst⟩, ih⟩

/-- Every amount is the part of a component. -/
theorem exists_isPart_of_mem : ∀ amount ∈ amounts, ∃ c, IsPart fee c amount := by
  induction h with
  | nil => simp
  | cons hfirst _ ih => exact List.forall_mem_cons.mpr ⟨⟨_, hfirst⟩, ih⟩

/-- The amounts of all components add up exactly. -/
theorem sum_part_hasValue {total : Decimal} (hexact : GroupsExactly fee components)
    (htotal : Decimal.sum (amounts.map (·.amount)) = .ok total) :
    total.HasValue (components.map (idealPart fee)).sum :=
  Decimal.sum_hasValue (forall₂_part h) hexact.amounts htotal

/-- Every part is nothing if they add up to nothing. -/
theorem idealPart_eq_zero (hsum : (components.map (idealPart fee)).sum ≤ 0) :
    ∀ c ∈ components, idealPart fee c = 0 := by
  have hnonneg : ∀ q ∈ components.map (idealPart fee), 0 ≤ q := by
    refine List.forall_mem_map.mpr fun c hc => ?_
    obtain ⟨amount, hpart⟩ := exists_isPart h c hc
    exact hpart.part_nonneg
  intro c hc
  have hmem := List.mem_map_of_mem (f := idealPart fee) hc
  exact le_antisymm ((List.single_le_sum hnonneg _ hmem).trans hsum) (hnonneg _ hmem)

end

/-- The parts add up to the tax at the sum of the rates but for half a minor unit for each. -/
theorem abs_sum_idealPart_sub_le (fee : Fee) (components : List TaxComponent) :
    |(components.map (idealPart fee)).sum -
        fee.amount.value * (components.map (rateOn fee)).sum / 100| ≤
      components.length * (10 ^ (-fee.currency.decimalPlaces) / 2) := by
  have hdrift := abs_sum_nearest_sub_le fee.currency.decimalPlaces fee.amount.value
    (components.map (rateOn fee))
  rwa [List.map_map, List.length_map] at hdrift

/-- A group that is not exempt adds up what its components come to. -/
theorem group_eq_addUp (fee : Fee) (components : List TaxComponent) (backdated : Bool) :
    group fee components false backdated =
      componentAmounts fee components >>= addUp fee backdated := by
  cases components with
  | nil => rfl
  | cons c rest => rfl

/-- A group adds up to no tax if its amounts come to nothing, and else to a tax of their sum at the
sum of the rates. -/
theorem addUp_eq_ok (h : addUp fee backdated amounts = .ok tax) :
    ∃ total, Decimal.sum (amounts.map (·.amount)) = .ok total ∧
      (total.le 0 = .ok true ∧ tax = notApplied fee backdated ∨ total.le 0 = .ok false ∧
        ∃ percentage, Decimal.sum (amounts.map (·.percentage)) = .ok percentage ∧
          tax = ofComponents fee backdated total percentage amounts) := by
  obtain ⟨total, htotal, h⟩ := bind_eq_ok_iff.mp h
  obtain ⟨nothing, hnothing, h⟩ := bind_eq_ok_iff.mp h
  rw [liftM_eq_ok_iff] at htotal hnothing
  refine ⟨total, htotal, ?_⟩
  cases nothing with
  | true => exact .inl ⟨hnothing, (pure_eq_ok_iff.mp h).symm⟩
  | false =>
    obtain ⟨percentage, hpercentage, h⟩ := bind_eq_ok_iff.mp h
    rw [liftM_eq_ok_iff] at hpercentage
    exact .inr ⟨hnothing, percentage, hpercentage, (pure_eq_ok_iff.mp h).symm⟩

/-- The tax that a group adds up to is the exact sum of the parts. If it is applied, its rate is that
of the rates; if it is not, every part is nothing. -/
theorem addUp_exact (hparts : List.Forall₂ (IsPart fee) components amounts)
    (hexact : GroupsExactly fee components) (h : addUp fee backdated amounts = .ok tax) :
    tax.amount.HasValue (components.map (idealPart fee)).sum ∧
      (tax.applied = true → tax.amount.HasValue tax.charged ∧
        tax.percentage.HasValue (components.map (rateOn fee)).sum) ∧
      (tax.applied = false → ∀ c ∈ components, idealPart fee c = 0) := by
  obtain ⟨total, htotal, hcases⟩ := addUp_eq_ok h
  have hvalue := sum_part_hasValue hparts hexact htotal
  rcases hcases with ⟨hnothing, rfl⟩ | ⟨hsome, percentage, hpercentage, rfl⟩
  · rw [le_eq hvalue hasValue_zero] at hnothing
    have hzero := idealPart_eq_zero hparts (of_decide_eq_true (Except.ok.inj hnothing))
    refine ⟨?_, nofun, fun _ => hzero⟩
    rw [List.sum_eq_zero (List.forall_mem_map.mpr hzero)]
    exact hasValue_zero
  · rw [le_eq hvalue hasValue_zero] at hsome
    have hpos := not_le.mp (of_decide_eq_false (Except.ok.inj hsome))
    have hcharged : (ofComponents fee backdated total percentage amounts).charged =
        (components.map (idealPart fee)).sum := by
      rw [← map_value_eq_of_forall₂ (forall₂_part hparts), List.map_map]
      rfl
    refine ⟨hvalue, fun _ => ⟨?_, ?_⟩, nofun⟩
    · rw [hcharged]
      exact hvalue
    · exact Decimal.sum_hasValue (forall₂_rate hparts) (hexact.rates hpos) hpercentage

/-- The amounts of a group in another order add up to a tax of the same amount and rate. -/
theorem addUp_perm {amounts' : List ComponentAmount} (hperm : amounts'.Perm amounts)
    (hparts : List.Forall₂ (IsPart fee) components amounts)
    (hparts' : List.Forall₂ (IsPart fee) other amounts') (hexact : GroupsExactly fee components)
    (hexact' : GroupsExactly fee other) (h : addUp fee backdated amounts = .ok tax) :
    ∃ tax', addUp fee backdated amounts' = .ok tax' ∧ tax'.amount = tax.amount ∧
      tax'.percentage = tax.percentage ∧ tax'.applied = tax.applied := by
  obtain ⟨total, htotal, hcases⟩ := addUp_eq_ok h
  have hamounts : ∀ x ∈ amounts.map (·.amount), x.isFinite = true ∧ 0 ≤ x.value := by
    refine List.forall_mem_map.mpr fun amount hamount => ?_
    obtain ⟨c, hc⟩ := exists_isPart_of_mem hparts amount hamount
    exact ⟨hc.part.isFinite, by rw [hc.part.value_eq]; exact hc.part_nonneg⟩
  have hrates : ∀ x ∈ amounts.map (·.percentage), x.isFinite = true ∧ 0 ≤ x.value := by
    refine List.forall_mem_map.mpr fun amount hamount => ?_
    obtain ⟨c, hc⟩ := exists_isPart_of_mem hparts amount hamount
    exact ⟨hc.rate.isFinite, by rw [hc.rate.value_eq]; exact hc.rate_nonneg⟩
  have hrun := hexact.amounts
  have hrun' := hexact'.amounts
  rw [← map_value_eq_of_forall₂ (forall₂_part hparts)] at hrun
  rw [← map_value_eq_of_forall₂ (forall₂_part hparts')] at hrun'
  have htotal' := sum_perm (hperm.map (·.amount)) hamounts hrun hrun' htotal
  rw [addUp, htotal', liftM_ok, ok_bind]
  rcases hcases with ⟨hnothing, rfl⟩ | ⟨hsome, percentage, hpercentage, rfl⟩
  · rw [hnothing]
    exact ⟨_, rfl, rfl, rfl, rfl⟩
  · -- the rates are known to add up exactly only now that the amounts come to something
    have hvalue := sum_part_hasValue hparts hexact htotal
    have hvalue' := sum_part_hasValue hparts' hexact' htotal'
    rw [le_eq hvalue hasValue_zero] at hsome
    have hpos := not_le.mp (of_decide_eq_false (Except.ok.inj hsome))
    have hratesRun := hexact.rates hpos
    have hratesRun' := hexact'.rates (by rwa [hvalue'.unique hvalue])
    rw [← map_value_eq_of_forall₂ (forall₂_rate hparts)] at hratesRun
    rw [← map_value_eq_of_forall₂ (forall₂_rate hparts')] at hratesRun'
    have hpercentage' :=
      sum_perm (hperm.map (·.percentage)) hrates hratesRun hratesRun' hpercentage
    rw [le_eq hvalue hasValue_zero, hsome, hpercentage']
    exact ⟨_, rfl, rfl, rfl, rfl⟩

/-- The tax of a group is off the tax at the sum of its rates by at most half a minor unit for each
component. If it is applied, its amount and its rate are the exact sums of those of the components;
if it is not, every component comes to nothing. Another order of the components, or of earlier rates
of which at most one includes the date of the fee, changes neither. -/
theorem group_near (fee : Fee) (components : List TaxComponent) (backdated : Bool) (tax : Tax)
    (hfinite : fee.amount.isFinite = true) (hfee0 : 0 ≤ fee.amount.value)
    (hplaces : fee.currency.decimalPlaces ≤ maxExponent) (hexact : GroupsExactly fee components)
    (h : group fee components false backdated = .ok tax) :
    (∀ c ∈ components, (c.percentageOn fee.date).HasValue (rateOn fee c) ∧ 0 ≤ rateOn fee c) ∧
    tax.amount.isFinite = true ∧
    |tax.amount.value - fee.amount.value * (components.map (rateOn fee)).sum / 100| ≤
      components.length * (10 ^ (-fee.currency.decimalPlaces) / 2) ∧
    (tax.applied = true → tax.amount.HasValue tax.charged ∧
      tax.percentage.HasValue (components.map (rateOn fee)).sum) ∧
    (tax.applied = false → ∀ c ∈ components, ∃ amount,
      percentageOf fee.amount (c.percentageOn fee.date) fee.currency.decimalPlaces = .ok amount ∧
        amount.HasValue 0) ∧
    ∀ other, ReorderedGroup fee.date components other → GroupsExactly fee other →
      ∃ tax', group fee other false backdated = .ok tax' ∧ tax'.amount = tax.amount ∧
        tax'.percentage = tax.percentage ∧ tax'.applied = tax.applied := by
  have hfee := hasValue_value hfinite
  rw [group_eq_addUp] at h
  obtain ⟨amounts, hamounts, hadd⟩ := bind_eq_ok_iff.mp h
  have hparts := isPart_of_componentAmounts hfee hfee0 hplaces hexact hamounts
  have hdrift := abs_sum_idealPart_sub_le fee components
  have hreordered : ∀ other, ReorderedGroup fee.date components other → GroupsExactly fee other →
      ∃ tax', group fee other false backdated = .ok tax' ∧ tax'.amount = tax.amount ∧
        tax'.percentage = tax.percentage ∧ tax'.applied = tax.applied := by
    intro other hother hexact'
    obtain ⟨amounts', hamounts', hperm⟩ := componentAmounts_of_reordered hother hamounts
    have hparts' := isPart_of_componentAmounts hfee hfee0 hplaces hexact' hamounts'
    rw [group_eq_addUp, hamounts', ok_bind]
    exact addUp_perm hperm hparts hparts' hexact hexact' hadd
  have hrates : ∀ c ∈ components,
      (c.percentageOn fee.date).HasValue (rateOn fee c) ∧ 0 ≤ rateOn fee c := by
    intro c hc
    obtain ⟨amount, hpart⟩ := exists_isPart hparts c hc
    rw [← hpart.rate_eq]
    exact ⟨hpart.rate, hpart.rate_nonneg⟩
  obtain ⟨hamount, happlied, hnothing⟩ := addUp_exact hparts hexact hadd
  refine ⟨hrates, hamount.isFinite, by rwa [hamount.value_eq], happlied, ?_, hreordered⟩
  intro hnone c hc
  obtain ⟨amount, hpart⟩ := exists_isPart hparts c hc
  have hzero := hpart.part
  rw [hnothing hnone c hc] at hzero
  exact ⟨_, hpart.found, hzero⟩

/-- A fee of ten and five cents, posted in March. -/
def marchFee : Fee := ⟨"fee", .finite ⟨false, 1005, -2⟩, some ⟨2024, 3, 1⟩, ⟨"NGN", 2⟩⟩

/-- Until the end of the year before five percent, and from then on seven and a half. -/
def risenRates : List PastRate :=
  [⟨5, ⟨2020, 2, 1⟩, some ⟨2023, 12, 31⟩⟩, ⟨.finite ⟨false, 75, -1⟩, ⟨2024, 1, 1⟩, none⟩]

/-- A levy of half a percent. -/
def levy : TaxComponent := { name := "Levy", percentage := .finite ⟨false, 5, -1⟩ }

/-- Seven and a half percent and half a percent of the fee of March are computed exactly, in both
orders. -/
theorem marchFee_exact {components : List TaxComponent}
    (h : components.map (rateOn marchFee) = [15 / 2, 1 / 2] ∨
      components.map (rateOn marchFee) = [1 / 2, 15 / 2]) : GroupsExactly marchFee components := by
  have hfee : marchFee.amount.value = 201 / 20 := by norm_num [marchFee, zpow_neg]
  have hrep : ∀ (n : Nat) (q : ℚ), n < 10 ^ precision → (n : ℚ) / 10 ^ 5 = q → Representable q := by
    rintro n q hn rfl
    exact (fits_natCast_div 5 hn (by decide)).representable
  have hzero := hrep 0 0 (by decide) (by norm_num)
  have hsum := hrep 80000 (4 / 5) (by decide) (by norm_num)
  have hrates := hrep 800000 8 (by decide) (by norm_num)
  have hparts : components.map (idealPart marchFee) = (components.map (rateOn marchFee)).map
      fun r => nearestMultiple (-2) (201 / 20 * r / 100) := by
    rw [List.map_map, ← hfee]
    rfl
  refine ⟨fun c hc => ?_, ?_, fun _ => ?_⟩
  · have hmem : rateOn marchFee c ∈ components.map (rateOn marchFee) := List.mem_map_of_mem hc
    have hrate : rateOn marchFee c = 15 / 2 ∨ rateOn marchFee c = 1 / 2 := by
      rcases h with h | h <;> rw [h] at hmem <;> simpa [or_comm] using hmem
    rw [hfee]
    rcases hrate with hrate | hrate
    · rw [hrate]
      exact ⟨hrep 7537500 _ (by decide) (by norm_num), hrep 75375 _ (by decide) (by norm_num)⟩
    · rw [hrate]
      exact ⟨hrep 502500 _ (by decide) (by norm_num), hrep 5025 _ (by decide) (by norm_num)⟩
  · rw [hparts]
    rcases h with h | h
    · rw [h]
      norm_num [nearestMultiple, nearestInt]
      exact ⟨hzero, hrep 75000 _ (by decide) (by norm_num), hsum⟩
    · rw [h]
      norm_num [nearestMultiple, nearestInt]
      exact ⟨hzero, hrep 5000 _ (by decide) (by norm_num), hsum⟩
  · rcases h with h | h
    · rw [h]
      norm_num
      exact ⟨hzero, hrep 750000 _ (by decide) (by norm_num), hrates⟩
    · rw [h]
      norm_num
      exact ⟨hzero, hrep 50000 _ (by decide) (by norm_num), hrates⟩

/-- The fee of March is taxed by eighty cents at eight percent, which is off by less than a cent. The
components in the other order, one with its earlier rates reversed, tax it alike. -/
theorem marchFee_near :
    ∃ tax tax', group marchFee [{ name := "VAT", percentage := 10, history := risenRates }, levy] =
        .ok tax ∧
      tax.applied = true ∧ tax.amount = .finite ⟨false, 80, -2⟩ ∧
      |tax.amount.value - 201 / 20 * 8 / 100| ≤ 1 / 100 ∧
      group marchFee [levy, { name := "VAT", percentage := 10, history := risenRates.reverse }] =
        .ok tax' ∧
      tax'.amount = tax.amount ∧ tax'.percentage = tax.percentage ∧ tax'.applied = true := by
  have hfee : marchFee.amount.value = 201 / 20 := by norm_num [marchFee, zpow_neg]
  have hlevy : (Decimal.finite ⟨false, 5, -1⟩).value = 1 / 2 := by norm_num
  have hvat : (Decimal.finite ⟨false, 75, -1⟩).value = 15 / 2 := by norm_num
  have hrates : [({ name := "VAT", percentage := 10, history := risenRates } : TaxComponent),
      levy].map (rateOn marchFee) = [15 / 2, 1 / 2] := by
    rw [← hlevy, ← hvat]
    rfl
  have hrates' : [levy, ({ name := "VAT", percentage := 10, history := risenRates.reverse } :
      TaxComponent)].map (rateOn marchFee) = [1 / 2, 15 / 2] := by
    rw [← hlevy, ← hvat]
    rfl
  have hother : ReorderedGroup marchFee.date
      [{ name := "VAT", percentage := 10, history := risenRates }, levy]
      [levy, { name := "VAT", percentage := 10, history := risenRates.reverse }] := by
    refine ⟨[{ name := "VAT", percentage := 10, history := risenRates.reverse }, levy],
      .cons (.inr ⟨_, List.reverse_perm _, ?_, rfl⟩) (.cons (.inl rfl) .nil), .swap _ _ _⟩
    rintro day hday
    obtain rfl := Option.some.inj hday
    rw [CoveredOnce]
    decide
  obtain ⟨tax, hgroup, happlied, hamount⟩ : ∃ tax, group marchFee
      [{ name := "VAT", percentage := 10, history := risenRates }, levy] = .ok tax ∧
        tax.applied = true ∧ tax.amount = .finite ⟨false, 80, -2⟩ := ⟨_, rfl, rfl, rfl⟩
  obtain ⟨-, -, hnear, -, -, hreordered⟩ := group_near marchFee
    [{ name := "VAT", percentage := 10, history := risenRates }, levy] false tax rfl
    (by rw [hfee]; norm_num) (by decide) (marchFee_exact (.inl hrates)) hgroup
  obtain ⟨tax', hgroup', hamount', hpercentage', happlied'⟩ :=
    hreordered _ hother (marchFee_exact (.inr hrates'))
  rw [hrates, hfee] at hnear
  refine ⟨tax, tax', hgroup, happlied, hamount, ?_, hgroup', hamount', hpercentage',
    happlied'.trans happlied⟩
  have hplaces : marchFee.currency.decimalPlaces = 2 := rfl
  rw [hplaces] at hnear
  norm_num at hnear ⊢
  exact hnear

end Tax

end Passbook
