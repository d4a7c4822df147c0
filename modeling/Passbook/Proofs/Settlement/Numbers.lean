import Passbook.Proofs.Settlement

/-!
# A settlement reports numbers only

The fees of a schedule, the values of splits and the rates of taxes may be infinite or no numbers
at all, and most operations pass such values on. No settlement is returned with one of them: the
fee is compared with the flat amounts, every value of an active split and every rate with zero,
and nothing infinite is rounded to minor units. What is left are numbers from zero up, and the
steps of a settlement do not lead out of these again.
-/

namespace Passbook

open Decimal Split

/-- The decimal is a number from zero up. -/
structure Decimal.IsNonneg (d : Decimal) : Prop where
  isFinite : d.isFinite = true
  nonneg : 0 ≤ d.value

namespace Decimal

variable {x y z start total : Decimal} {q : ℚ} {xs : List Decimal}

theorem HasValue.isNonneg (h : x.HasValue q) (h0 : 0 ≤ q) : x.IsNonneg := by
  obtain rfl := h.value_eq
  exact ⟨h.isFinite, h0⟩

theorem IsNonneg.hasValue (h : x.IsNonneg) : x.HasValue x.value := hasValue_value h.isFinite

theorem isNonneg_zero : (0 : Decimal).IsNonneg := hasValue_zero.isNonneg le_rfl

/-- A sum of numbers from zero up is a number from zero up. -/
theorem IsNonneg.add (hx : x.IsNonneg) (hy : y.IsNonneg) (h : x.add y = .ok z) : z.IsNonneg := by
  have hsum := (add_rounds hx.hasValue hy.hasValue).hasValue h
  exact hsum.isNonneg (rounded_nonneg (add_nonneg hx.nonneg hy.nonneg))

/-- A running total of numbers from zero up is a number from zero up. -/
theorem IsNonneg.sumFrom (hs : start.IsNonneg) (hx : ∀ x ∈ xs, x.IsNonneg)
    (h : sumFrom start xs = .ok total) : total.IsNonneg := by
  induction xs generalizing start with
  | nil =>
    obtain rfl := Except.ok.inj h
    exact hs
  | cons x xs ih =>
    rw [sumFrom_cons] at h
    obtain ⟨next, hnext, hrest⟩ := bind_eq_ok_iff.mp h
    obtain ⟨hfirst, hothers⟩ := List.forall_mem_cons.mp hx
    exact ih (hs.add hfirst hnext) hothers hrest

end Decimal

/-- The fee of a distribution and its credits are numbers from zero up. -/
structure Distribution.IsNonneg (d : Distribution) : Prop where
  total : d.total.IsNonneg
  credit : ∀ c ∈ d.credits, c.amount.IsNonneg ∧ ∀ p ∈ c.percentage, p.IsNonneg

/-- The amount of a tax, its rate and those of its components are numbers from zero up. -/
structure Tax.IsNonneg (tax : Tax) : Prop where
  amount : tax.amount.IsNonneg
  percentage : tax.percentage.IsNonneg
  component : ∀ c ∈ tax.components, c.percentage.IsNonneg ∧ c.amount.IsNonneg

/-- The amounts of a payment are numbers from zero up, and the total is no less than the fee. -/
structure Payment.IsNonneg (p : Payment) : Prop where
  fee : p.feeAmount.IsNonneg
  tax : p.taxAmount.IsNonneg
  total : p.total.IsNonneg
  net : p.net.IsNonneg
  fee_le_total : p.feeAmount.value ≤ p.total.value

/-- All that a settlement reports are numbers from zero up. -/
structure Settlement.IsNonneg (s : Settlement) : Prop where
  payment : s.payment.IsNonneg
  tax : s.tax.IsNonneg
  distribution : s.distribution.IsNonneg

namespace Split

variable {s : Split} {active : List Split} {amount overshoot left rest untaken fee : Decimal}
  {places : Int} {amounts lefts : List Decimal} {entries : List (Split × Decimal)}

/-- The shares of an accepted list are numbers from zero up. -/
theorem Accepted.shares_isNonneg (ha : Accepted fee active)
    (h : shares fee places active = .ok amounts) : ∀ a ∈ amounts, a.IsNonneg := by
  refine forall_mem_shares (fun s hs amount hshare => ?_) h
  obtain ⟨hv, hv0, -⟩ := ha.share_hasValue hs hshare
  exact hv.isNonneg hv0

/-- A step of taking back leaves a share from zero up, whatever number the overshoot is. -/
theorem giveBack_isNonneg (ha : amount.IsNonneg) (ho : overshoot.isFinite = true)
    (h : s.giveBack amount overshoot = .ok (left, rest)) :
    left.IsNonneg ∧ rest.isFinite = true := by
  rcases giveBack_eq_ok h with ⟨-, rfl, rfl⟩ | ⟨-, -, taken, htaken, hl, hr⟩
  · exact ⟨ha, ho⟩
  · have hovershoot := hasValue_value ho
    have htakenv := lesser_hasValue ha.hasValue hovershoot htaken
    have hleft := (sub_rounds ha.hasValue htakenv).hasValue hl
    have hrest := (sub_rounds hovershoot htakenv).hasValue hr
    have hle : min amount.value overshoot.value ≤ amount.value := min_le_left _ _
    exact ⟨hleft.isNonneg (rounded_nonneg (sub_nonneg.mpr hle)), hrest.isFinite⟩

/-- Taking back leaves shares from zero up. -/
theorem takeBack_isNonneg (ho : overshoot.isFinite = true)
    (hentries : ∀ entry ∈ entries, entry.2.IsNonneg)
    (h : takeBack overshoot entries = .ok (lefts, untaken)) :
    (∀ a ∈ lefts, a.IsNonneg) ∧ untaken.isFinite = true := by
  induction entries generalizing lefts untaken with
  | nil =>
    obtain ⟨rfl, rfl⟩ := Prod.mk.inj (Except.ok.inj h)
    exact ⟨by simp, ho⟩
  | cons entry others ih =>
    obtain ⟨hfirst, hothers⟩ := List.forall_mem_cons.mp hentries
    obtain ⟨⟨later, still⟩, hlater, h⟩ := bind_eq_ok_iff.mp h
    obtain ⟨⟨left, rest⟩, hgive, h⟩ := bind_eq_ok_iff.mp h
    obtain ⟨rfl, rfl⟩ := Prod.mk.inj (pure_eq_ok_iff.mp h)
    obtain ⟨hlaters, hstill⟩ := ih hothers hlater
    obtain ⟨hleft, hrest⟩ := giveBack_isNonneg hfirst hstill hgive
    exact ⟨List.forall_mem_cons.mpr ⟨hleft, hlaters⟩, hrest⟩

/-- A split from zero up is credited with its value where that is a percentage. -/
theorem credit_isNonneg (hvalue : s.value.IsNonneg) (ha : amount.IsNonneg) :
    (s.credit amount).amount.IsNonneg ∧ ∀ p ∈ (s.credit amount).percentage, p.IsNonneg := by
  refine ⟨ha, fun p hp => ?_⟩
  obtain ⟨-, rfl⟩ : s.isPercentage = true ∧ s.value = p := by simpa [credit] using hp
  exact hvalue

end Split

/-- A fee is distributed only over numbers from zero up. -/
theorem Fee.distribute_isNonneg {fee : Fee} {splits : List Split} {charge : Option String}
    {date : Option Date} {d : Distribution} (h : fee.distribute splits charge date = .ok d) :
    d.IsNonneg := by
  obtain ⟨hvalid, shares, total, overshoot, lefts, untaken, hshares, htotal, hovershoot, htake,
    hfee, hcredits⟩ := distribute_eq_ok h
  have ha := accepted (fun s hs => active_of_mem hs) hvalid hshares
  obtain ⟨f, hf0, hf⟩ := ha.fee_nonneg
  have hamounts := ha.shares_isNonneg hshares
  have htotalv := (isNonneg_zero.sumFrom hamounts htotal).hasValue
  have hfinite := ((sub_rounds htotalv hf).hasValue hovershoot).isFinite
  obtain ⟨hlefts, -⟩ := takeBack_isNonneg hfinite
    (fun entry hentry => hamounts _ (List.of_mem_zip hentry).2) htake
  refine ⟨hfee ▸ hf.isNonneg hf0, ?_⟩
  intro c hc
  rw [hcredits] at hc
  obtain ⟨⟨s, a⟩, hmem, rfl⟩ := List.mem_map.mp hc
  obtain ⟨hs, hleft⟩ := List.of_mem_zip hmem
  obtain ⟨v, hv0, hv⟩ := ha.value_nonneg s hs
  exact credit_isNonneg (hv.isNonneg hv0) (hlefts a hleft)

namespace Tax

variable {fee : Fee} {tax : Tax} {rate : Datum} {components : List TaxComponent}
  {c : ComponentAmount} {exempt backdated : Bool}

/-- A tax that is not applied consists of numbers from zero up. -/
theorem notApplied_isNonneg (fee : Fee) (backdated : Bool) :
    (notApplied fee backdated).IsNonneg where
  amount := isNonneg_zero
  percentage := isNonneg_zero
  component := by simp [notApplied]

/-- The rate of a component and what it comes to are numbers from zero up. -/
theorem IsComponent.isNonneg (hfee : fee.amount.IsNonneg) (h : IsComponent fee c) :
    c.percentage.IsNonneg ∧ c.amount.IsNonneg := by
  obtain ⟨p, r, hp, hp0, hr, hr0, -⟩ :=
    percentageOf_of_notNegative hfee.hasValue hfee.nonneg h.rate h.amount
  exact ⟨hp.isNonneg hp0, hr.isNonneg hr0⟩

/-- A tax at a single rate consists of numbers from zero up if the fee is one. -/
theorem single_isNonneg (hfee : fee.amount.IsNonneg)
    (h : single fee rate exempt backdated = .ok tax) : tax.IsNonneg := by
  rcases single_eq_ok h with rfl | ⟨r, amount, hcomponent, rfl⟩
  · exact notApplied_isNonneg fee backdated
  · obtain ⟨hrate, hamount⟩ := hcomponent.isNonneg hfee
    exact ⟨hamount, hrate, by simpa [ofComponents] using ⟨hrate, hamount⟩⟩

/-- A tax by components consists of numbers from zero up if the fee is one. -/
theorem group_isNonneg (hfee : fee.amount.IsNonneg)
    (h : group fee components exempt backdated = .ok tax) : tax.IsNonneg := by
  rcases group_eq_ok h with rfl | ⟨total, percentage, amounts, hcomponents, htotal, hrates, rfl⟩
  · exact notApplied_isNonneg fee backdated
  · have hnonneg : ∀ c ∈ amounts, c.percentage.IsNonneg ∧ c.amount.IsNonneg :=
      fun c hc => (hcomponents c hc).isNonneg hfee
    exact {
      amount := isNonneg_zero.sumFrom
        (List.forall_mem_map.mpr fun c hc => (hnonneg c hc).2) htotal
      percentage := isNonneg_zero.sumFrom
        (List.forall_mem_map.mpr fun c hc => (hnonneg c hc).1) hrates
      component := hnonneg }

end Tax

/-- The payment of a fee that the context can represent is no less than the fee. -/
theorem Payment.aggregate_isNonneg {fee : Fee} {tax : Tax} {p : Payment}
    (hfee : fee.amount.IsNonneg) (hrepresentable : Representable fee.amount.value)
    (htax : tax.IsNonneg) (h : aggregate (some fee) (some tax) = .ok p) : p.IsNonneg := by
  obtain ⟨hamount, hnet, htaxAmount, hadd⟩ := aggregate_eq_ok h
  have hpaid : p.taxAmount.IsNonneg := by
    rw [htaxAmount]
    split
    · exact htax.amount
    · exact isNonneg_zero
  have htotal := (add_rounds hfee.hasValue hpaid.hasValue).hasValue hadd
  have hle : fee.amount.value ≤ p.total.value := by
    rw [htotal.value_eq]
    exact hrepresentable.le_rounded (le_add_of_nonneg_right hpaid.nonneg)
  exact {
    fee := hamount ▸ hfee
    tax := hpaid
    total := hfee.add hpaid hadd
    net := hnet ▸ hfee
    fee_le_total := by rwa [hamount] }

namespace Charge

/-- The tax of a charge consists of numbers from zero up if the fee is one. -/
theorem tax_isNonneg {charge : Charge} {fee : Fee} {tax : Tax} (hfee : fee.amount.IsNonneg)
    (h : charge.tax fee = .ok tax) : tax.IsNonneg := by
  rcases charge.tax_eq fee with ⟨rate, heq⟩ | heq
  · exact Tax.single_isNonneg hfee (heq ▸ h)
  · exact Tax.group_isNonneg hfee (heq ▸ h)

/-- Whatever the schedule, the splits and the rates hold, a settlement that is returned reports
numbers from zero up, and a total no less than the fee. -/
theorem settle_isNonneg (charge : Charge) (schedule : Schedule) (splits : List Split)
    (s : Settlement) (h : charge.settle schedule splits = .ok s) : s.IsNonneg := by
  obtain ⟨fee, hfee, hdistribute, htax, hpayment⟩ := settle_eq_ok h
  obtain ⟨amount, resolved, -, -, hrounded, hcurrency⟩ := fee_eq_ok hfee
  rw [← hcurrency] at hrounded
  obtain ⟨p, e, -, -, hvalue, hf0, hquantized⟩ := fee_hasValue hrounded hdistribute
  have hnonneg := hvalue.isNonneg hf0
  have htaxNonneg := tax_isNonneg hnonneg htax
  have hrepresentable : Representable fee.amount.value := by
    rw [hvalue.value_eq]
    exact hquantized.representable
  exact {
    payment := Payment.aggregate_isNonneg hnonneg hrepresentable htaxNonneg hpayment
    tax := htaxNonneg
    distribution := Fee.distribute_isNonneg hdistribute }

/-- A charge that is taxed at a rate which was no number before. -/
def ratedSince : Charge :=
  { amount := .whole 100
    reference := "fee"
    date := ⟨2024, 1, 31⟩
    postingDate := ⟨2024, 2, 1⟩
    currency := ⟨"NGN", 2⟩
    components := [⟨"VAT", .finite ⟨false, 75, -1⟩,
      [⟨.nan false false 0, ⟨2020, 1, 1⟩, some ⟨2023, 12, 31⟩⟩]⟩] }

/-- An infinite fee up to fifty, and half a cent more than one for larger amounts. -/
def infiniteBelow : Schedule :=
  ⟨[⟨0, some 50, .infinite false⟩, ⟨51, none, .finite ⟨false, 1005, -3⟩⟩], 1⟩

/-- A half, beside a split that is not active and has no number. -/
def halfOnly : List Split :=
  [⟨"a", .percentage, 50, true, none⟩, ⟨"b", .flatAmount, .nan false true 0, false, none⟩]

/-- What stands beside the slab, the split and the rate that are used does not reach the 1.09 that
are paid. -/
theorem ratedSince_isNonneg :
    ∃ s, ratedSince.settle infiniteBelow halfOnly = .ok s ∧
      s.payment.total = .finite ⟨false, 109, -2⟩ ∧ s.IsNonneg := by
  obtain ⟨s, hsettle, htotal⟩ : ∃ s, ratedSince.settle infiniteBelow halfOnly = .ok s ∧
      s.payment.total = .finite ⟨false, 109, -2⟩ := ⟨_, rfl, rfl⟩
  exact ⟨s, hsettle, htotal, settle_isNonneg ratedSince infiniteBelow halfOnly s hsettle⟩

end Charge

end Passbook
