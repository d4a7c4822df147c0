import Passbook.Proofs.Split.Distribution
import Passbook.Proofs.Tax
import Passbook.Settlement

/-!
# Settlements account for every minor unit

A settlement rounds at four places: the resolved fee, the shares, the components of the tax and
the total. As long as the amounts are few enough minor units for the context to keep all their
digits, none of these roundings loses a unit or counts one twice: the total of the payment is
what the stakeholders are credited with, what is left of the fee, and what the components of the
tax come to.
-/

namespace Passbook

open Decimal

/-- What a settlement of a resolved fee reports in its payment, its tax and its distribution is
one sum in whole minor units, read three times. -/
structure Settlement.Accounted (places : Int) (resolved : Decimal) (s : Settlement) : Prop where
  resolved_isFinite : resolved.isFinite = true
  fee : s.payment.feeAmount.HasValue (nearestMultiple (-places) resolved.value)
  fee_isUnits : s.payment.feeAmount.IsUnits places
  net : s.payment.net = s.payment.feeAmount
  distributed : s.distribution.total = s.payment.feeAmount
  tax : s.payment.taxAmount = s.tax.amount
  charged : s.tax.amount.HasValue s.tax.charged
  unapplied : s.tax.applied = false → s.tax.amount = 0 ∧ s.tax.components = []
  credit_isUnits : ∀ c ∈ s.distribution.credits, c.amount.IsUnits places
  credited_units : 0 ≤ s.distribution.credited ∧ s.distribution.credited ∈ grid (-places)
  component_isUnits : ∀ c ∈ s.tax.components, c.amount.IsUnits places
  charged_units : 0 ≤ s.tax.charged ∧ s.tax.charged ∈ grid (-places)
  total : ∃ rest, s.distribution.undistributed = .ok rest ∧ rest.IsUnits places ∧
    s.payment.total.HasValue (s.distribution.credited + rest.value + s.tax.charged)

/-- A payment of a fee with its tax reports both and adds them once. -/
theorem Payment.aggregate_eq_ok {fee : Fee} {tax : Tax} {p : Payment}
    (h : aggregate (some fee) (some tax) = .ok p) :
    p.feeAmount = fee.amount ∧ p.net = fee.amount ∧
      p.taxAmount = (if tax.applied then tax.amount else 0) ∧
      fee.amount.add p.taxAmount = .ok p.total := by
  obtain ⟨total, htotal, h⟩ := bind_eq_ok_iff.mp h
  obtain rfl := pure_eq_ok_iff.mp h
  exact ⟨rfl, rfl, rfl, htotal⟩

namespace Charge

variable {charge : Charge} {schedule : Schedule} {splits : List Split} {fee : Fee} {tax : Tax}
  {s : Settlement}

/-- The fee of a charge is the resolved fee, rounded to the places of the currency. -/
theorem fee_eq_ok (h : charge.fee schedule = .ok fee) :
    ∃ amount resolved, charge.amount.toDecimal = .ok amount ∧
      schedule.resolve amount = .ok resolved ∧
      quantizeMoney resolved charge.currency.decimalPlaces = .ok fee.amount ∧
      fee.currency = charge.currency := by
  obtain ⟨resolved, hresolved, h⟩ := bind_eq_ok_iff.mp h
  obtain ⟨amount, hamount, hresolved⟩ := bind_eq_ok_iff.mp hresolved
  obtain ⟨rounded, hrounded, h⟩ := bind_eq_ok_iff.mp h
  rw [liftM_eq_ok_iff] at hrounded
  obtain rfl := pure_eq_ok_iff.mp h
  exact ⟨amount, resolved, hamount, hresolved, hrounded, rfl⟩

/-- A settlement goes through its four steps. -/
theorem settle_eq_ok (h : charge.settle schedule splits = .ok s) :
    ∃ fee, charge.fee schedule = .ok fee ∧
      fee.distribute splits charge.charge (some charge.postingDate) = .ok s.distribution ∧
      charge.tax fee = .ok s.tax ∧ Payment.aggregate (some fee) (some s.tax) = .ok s.payment := by
  obtain ⟨fee, hfee, h⟩ := bind_eq_ok_iff.mp h
  obtain ⟨distribution, hdistribution, h⟩ := bind_eq_ok_iff.mp h
  obtain ⟨tax, htax, h⟩ := bind_eq_ok_iff.mp h
  obtain ⟨payment, hpayment, h⟩ := bind_eq_ok_iff.mp h
  rw [liftM_eq_ok_iff] at hpayment
  obtain rfl := pure_eq_ok_iff.mp h
  exact ⟨fee, hfee, hdistribution, htax, hpayment⟩

/-- A fee is taxed at a single rate or by the group of the components. -/
theorem tax_eq (charge : Charge) (fee : Fee) :
    (∃ rate, charge.tax fee = Tax.single fee rate charge.exempt charge.isBackdated) ∨
      charge.tax fee = Tax.group fee charge.components charge.exempt charge.isBackdated := by
  rw [Charge.tax]
  split
  · split
    · exact .inl ⟨_, rfl⟩
    · exact .inr rfl
  · exact .inr rfl

/-- Whichever way a fee is taxed, the tax is accounted for by its components. -/
theorem tax_accounted {f : ℚ} (hf : fee.amount.HasValue f) (hf0 : 0 ≤ f)
    (hplaces : leastExponent ≤ -fee.currency.decimalPlaces) (h : charge.tax fee = .ok tax) :
    tax.Accounted fee.currency.decimalPlaces := by
  rcases charge.tax_eq fee with ⟨rate, heq⟩ | heq
  · exact Tax.single_accounted hf hf0 hplaces (heq ▸ h)
  · exact Tax.group_accounted hf hf0 hplaces (heq ▸ h)

/-- A fee that was distributed is the resolved fee, rounded to a quantum, and from zero up. -/
theorem fee_hasValue {resolved : Decimal} {reference : Option String} {date : Option Date}
    {d : Distribution}
    (hrounded : quantizeMoney resolved fee.currency.decimalPlaces = .ok fee.amount)
    (h : fee.distribute splits reference date = .ok d) :
    ∃ p e, resolved.HasValue p ∧ quantumExponent fee.currency.decimalPlaces = .ok e ∧
      fee.amount.HasValue (nearestMultiple e p) ∧ 0 ≤ nearestMultiple e p ∧
      Quantized fee.currency.decimalPlaces (nearestMultiple e p) := by
  -- Without finding an accepted list, nothing keeps the fee from being negative or infinite.
  obtain ⟨hvalid, shares, -, -, -, -, hshares, -⟩ := Fee.distribute_eq_ok h
  obtain ⟨f, hf0, hf⟩ :=
    (Split.accepted (fun x hx => Fee.active_of_mem hx) hvalid hshares).fee_nonneg
  obtain ⟨p, hp⟩ := hasValue_of_quantizeMoney hrounded hf
  obtain ⟨e, he, hnearest, hquantized⟩ := quantizeMoney_hasValue hp hrounded
  refine ⟨p, e, hp, he, hnearest, ?_, hquantized⟩
  rwa [hnearest.unique hf]

/-- A fee that was distributed is the resolved fee in whole minor units. -/
theorem fee_isUnits {resolved : Decimal} {reference : Option String} {date : Option Date}
    {d : Distribution} (hplaces : leastExponent ≤ -fee.currency.decimalPlaces)
    (hrounded : quantizeMoney resolved fee.currency.decimalPlaces = .ok fee.amount)
    (h : fee.distribute splits reference date = .ok d) :
    resolved.isFinite = true ∧
      fee.amount.HasValue (nearestMultiple (-fee.currency.decimalPlaces) resolved.value) ∧
      fee.amount.IsUnits fee.currency.decimalPlaces := by
  obtain ⟨p, e, hp, he, hnearest, hf0, hquantized⟩ := fee_hasValue hrounded h
  have hunits := hnearest.isUnits hf0 (hquantized.mem_grid hplaces)
  rw [quantumExponent_eq_ok he hplaces] at hnearest
  exact ⟨hp.isFinite, by rwa [hp.value_eq], hunits⟩

/-- The payment of a fee with an accounted tax is the fee and the components of the tax. -/
theorem paid_hasValue {places : Int} {p : Payment} (hplaces : leastExponent ≤ -places)
    (hfee : fee.amount.IsUnits places) (htax : tax.Accounted places)
    (hlt : fee.amount.value + tax.charged < 10 ^ (-places + precision))
    (h : Payment.aggregate (some fee) (some tax) = .ok p) :
    p.taxAmount = tax.amount ∧ tax.amount.HasValue tax.charged ∧
      p.total.HasValue (fee.amount.value + tax.charged) := by
  obtain ⟨-, -, hamount, hadd⟩ := Payment.aggregate_eq_ok h
  have hfee0 := hfee.nonneg
  have htaxAmount : p.taxAmount = tax.amount := by
    rw [hamount]
    cases happlied : tax.applied with
    | true => rfl
    | false => exact (htax.unapplied happlied).1.symm
  have hcharged := htax.amount (by linarith)
  rw [htaxAmount] at hadd
  refine ⟨htaxAmount, hcharged, add_hasValue hfee.hasValue hcharged ?_ hadd⟩
  refine representable_of_mem_grid hplaces (add_mem hfee.mem htax.charged_mem) ?_
  rwa [abs_of_nonneg (add_nonneg hfee0 htax.charged_nonneg)]

/-- A charge that is settled in few minor units is accounted for to the last one. -/
theorem settle_accounted (charge : Charge) (schedule : Schedule) (splits : List Split)
    (s : Settlement) (hplaces : charge.currency.decimalPlaces ≤ 999999)
    (hflat : ∀ x ∈ Fee.activeOf splits, x.isFlatAmount = true →
      x.value.value ∈ grid (-charge.currency.decimalPlaces))
    (hshares : ∀ shares, Split.shares s.payment.feeAmount charge.currency.decimalPlaces
      (Fee.activeOf splits) = .ok shares →
        (shares.map Decimal.value).sum < 10 ^ (-charge.currency.decimalPlaces + precision))
    (htotal : s.payment.feeAmount.value + s.tax.charged <
      10 ^ (-charge.currency.decimalPlaces + precision))
    (h : charge.settle schedule splits = .ok s) :
    ∃ amount resolved, charge.amount.toDecimal = .ok amount ∧
      schedule.resolve amount = .ok resolved ∧
      s.Accounted charge.currency.decimalPlaces resolved := by
  obtain ⟨fee, hfee, hdistribute, htax, hpayment⟩ := settle_eq_ok h
  obtain ⟨amount, resolved, hamount, hresolved, hrounded, hcurrency⟩ := fee_eq_ok hfee
  obtain ⟨hpfee, hnet, -, -⟩ := Payment.aggregate_eq_ok hpayment
  refine ⟨amount, resolved, hamount, hresolved, ?_⟩
  rw [hpfee] at hshares htotal
  rw [← hcurrency] at hplaces hflat hshares htotal hrounded ⊢
  have hleast : leastExponent ≤ -fee.currency.decimalPlaces := by
    unfold leastExponent
    omega
  obtain ⟨hfinite, hnearest, hunits⟩ := fee_isUnits hleast hrounded hdistribute
  have htaxed := tax_accounted hunits.hasValue hunits.nonneg hleast htax
  have hexact : fee.ExactAt splits (-fee.currency.decimalPlaces) :=
    { least := hleast
      le_places := le_rfl
      fee_mem := hunits.mem
      fee_lt := lt_of_le_of_lt (le_add_of_nonneg_right htaxed.charged_nonneg) htotal
      flat_mem := hflat
      shares_lt := hshares }
  obtain ⟨hdtotal, hcredits, rest, hrest, hrestUnits, hsum⟩ := hexact.isUnits hdistribute
  obtain ⟨htaxAmount, hcharged, hpaid⟩ := paid_hasValue hleast hunits htaxed htotal hpayment
  exact {
    resolved_isFinite := hfinite
    fee := by rwa [hpfee]
    fee_isUnits := by rwa [hpfee]
    net := hnet.trans hpfee.symm
    distributed := hdtotal.trans hpfee.symm
    tax := htaxAmount
    charged := hcharged
    unapplied := htaxed.unapplied
    credit_isUnits := hcredits
    credited_units := sum_isUnits hcredits
    component_isUnits := htaxed.component
    charged_units := sum_isUnits htaxed.component
    total := ⟨rest, hrest, hrestUnits, by rwa [hsum]⟩ }

/-- A backdated charge that is taxed by two components. -/
def twiceTaxed : Charge :=
  { amount := .whole 100
    reference := "fee"
    date := ⟨2024, 1, 31⟩
    postingDate := ⟨2024, 2, 1⟩
    currency := ⟨"NGN", 2⟩
    components := [⟨"VAT", 5, []⟩, ⟨"levy", .finite ⟨false, 25, -1⟩, []⟩] }

/-- One slab for all amounts from zero up, with a fee of half a cent more than one. -/
def onePrice : Schedule := ⟨[⟨0, none, .finite ⟨false, 1005, -3⟩⟩], 1⟩

/-- A half, three tenths and ten cents. -/
def threeParts : List Split :=
  [⟨"a", .percentage, 50, true, none⟩, ⟨"b", .percentage, 30, true, none⟩,
    ⟨"c", .flatAmount, .finite ⟨false, 10, -2⟩, true, none⟩]

/-- Of 1.09 that are paid, 0.91 are credited, 0.10 are left and 0.08 are taxes. -/
theorem twiceTaxed_accounted :
    ∃ s, twiceTaxed.settle onePrice threeParts = .ok s ∧
      s.payment.total = .finite ⟨false, 109, -2⟩ ∧
      ∃ resolved, s.Accounted 2 resolved := by
  obtain ⟨s, hsettle, hfee, hcomponents, htotal⟩ :
      ∃ s, twiceTaxed.settle onePrice threeParts = .ok s ∧
        s.payment.feeAmount = .finite ⟨false, 101, -2⟩ ∧
        s.tax.components.map (·.amount) = [.finite ⟨false, 5, -2⟩, .finite ⟨false, 3, -2⟩] ∧
        s.payment.total = .finite ⟨false, 109, -2⟩ := ⟨_, rfl, rfl, rfl, rfl⟩
  have hcharged : s.tax.charged = 8 / 100 := by
    have hmap : s.tax.charged = ((s.tax.components.map (·.amount)).map Decimal.value).sum := by
      rw [List.map_map]
      rfl
    rw [hmap, hcomponents]
    norm_num [zpow_neg]
  obtain ⟨amount, resolved, -, -, hs⟩ := settle_accounted twiceTaxed onePrice threeParts s
    (by decide)
    (by
      intro x hx hflat
      fin_cases hx
      · exact absurd hflat (by decide)
      · exact absurd hflat (by decide)
      · exact Scaled.value_mem_grid ⟨false, 10, -2⟩)
    (by
      intro shares hshares
      rw [hfee] at hshares
      obtain rfl : [.finite ⟨false, 51, -2⟩, .finite ⟨false, 30, -2⟩, .finite ⟨false, 10, -2⟩] =
        shares := Except.ok.inj hshares
      norm_num [precision, twiceTaxed, zpow_neg])
    (by
      rw [hfee, hcharged]
      norm_num [precision, twiceTaxed, zpow_neg])
    hsettle
  exact ⟨s, hsettle, htotal, resolved, hs⟩

end Charge

end Passbook
