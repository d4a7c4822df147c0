import Passbook.Proofs.Settlement

/-!
# One rate given in two ways

A rate may be given on its own or as the only component of a group. Both ways round the same
percentage of the fee. The group adds its one component to zero, which changes nothing about a
rounded amount, and reports no tax where the amount is zero, which the single rate does only for a
zero rate. So both ways charge the same numbers, and they differ in the reported tax exactly where
a rate above zero comes to nothing.
-/

namespace Passbook

open Decimal

/-- Both decimals are finite and stand for one number. -/
def Decimal.SameNumber (x y : Decimal) : Prop := ∃ q, x.HasValue q ∧ y.HasValue q

/-- Operations that round one exact result have one outcome. -/
theorem Decimal.Rounds.alike {q : ℚ} {x y : Except Fault Decimal} (hx : Rounds q x)
    (hy : Rounds q y) : Alike SameNumber x y := by
  rcases lt_or_ge |rounded q| limit with hlt | hge
  · obtain ⟨u, rfl, hu⟩ := hx.returns hlt
    obtain ⟨v, rfl, hv⟩ := hy.returns hlt
    exact ⟨rounded q, hu, hv⟩
  · rw [hx.overflows hge, hy.overflows hge]
    rfl

/-- The taxes are of one amount and about the same fee. -/
structure Tax.Agrees (tax other : Tax) : Prop where
  amount : SameNumber tax.amount other.amount
  fee : tax.fee = other.fee
  date : tax.date = other.date
  backdated : tax.backdated = other.backdated

/-- The payments are of the same amounts, and both or neither have tax. -/
structure Payment.Agrees (payment other : Payment) : Prop where
  fee : payment.fee = other.fee
  feeAmount : SameNumber payment.feeAmount other.feeAmount
  taxAmount : SameNumber payment.taxAmount other.taxAmount
  total : SameNumber payment.total other.total
  net : SameNumber payment.net other.net
  hasTax : payment.hasTax = other.hasTax

/-- The settlements distribute the fee alike, and their taxes and payments agree. -/
structure Settlement.Agrees (s other : Settlement) : Prop where
  distribution : s.distribution = other.distribution
  tax : s.tax.Agrees other.tax
  payment : s.payment.Agrees other.payment

namespace Tax

variable {fee : Fee} {tax other : Tax} {f t : ℚ}

/-- A payment reports tax exactly if the tax that is paid is above zero. -/
theorem hasTax_of_payable (ht : tax.payable.HasValue t) {p : Payment}
    (happlied : p.taxApplied = tax.applied) (hamount : p.taxAmount = tax.payable) :
    p.hasTax = .ok (decide (0 < t)) := by
  rw [Payment.hasTax, happlied, hamount]
  cases hcase : tax.applied with
  | true => rw [if_pos rfl, lt_eq hasValue_zero ht]
  | false =>
    rw [payable, hcase, if_neg (by decide)] at ht
    rw [if_neg (by decide), ht.unique hasValue_zero]
    rfl

/-- Payments of one fee with taxes of one amount are alike. -/
theorem aggregate_alike (hf : fee.amount.HasValue f) (ht : tax.payable.HasValue t)
    (ht' : other.payable.HasValue t) :
    Alike Payment.Agrees (Payment.aggregate (some fee) (some tax))
      (Payment.aggregate (some fee) (some other)) := by
  refine Alike.bind ((add_rounds hf ht).alike (add_rounds hf ht')) ?_
  intro total total' _ _ htotal
  exact {
    fee := rfl
    feeAmount := ⟨f, hf, hf⟩
    taxAmount := ⟨t, ht, ht'⟩
    total := htotal
    net := ⟨f, hf, hf⟩
    hasTax := (hasTax_of_payable ht rfl rfl).trans (hasTax_of_payable ht' rfl rfl).symm }

section

variable {rate : Datum} {p amount : Decimal} {r : ℚ} {name : String} {exempt backdated : Bool}

/-- A rate as the only component of a group. -/
def sole (name : String) (p : Decimal) : List TaxComponent := [{ name, percentage := p }]

/-- What a group makes of the amounts of its components. -/
def addUp (fee : Fee) (backdated : Bool) (amounts : List ComponentAmount) : Except Error Tax := do
  let total ← Decimal.sum (amounts.map (·.amount))
  if ← total.le 0 then return notApplied fee backdated
  else
    let percentage ← Decimal.sum (amounts.map (·.percentage))
    return ofComponents fee backdated total percentage amounts

theorem percentageOn_of_no_history (name : String) (p : Decimal) (date : Option Date) :
    (TaxComponent.mk name p []).percentageOn date = p := by
  cases date <;> rfl

/-- A single rate from zero up is no tax if the fee is exempt or the rate is zero. -/
theorem single_eq_notApplied (hrate : rate.toDecimal = .ok p) (hp : p.HasValue r) (hr : 0 ≤ r)
    (hnothing : exempt = true ∨ r = 0) :
    single fee rate exempt backdated = .ok (notApplied fee backdated) := by
  have hnegative : decide (r < 0) = false := decide_eq_false (not_lt.mpr hr)
  rw [single, hrate, ok_bind, lt_eq hp hasValue_zero, hnegative, sameValue_eq hp hasValue_zero]
  cases exempt with
  | true => rfl
  | false =>
    obtain rfl := hnothing.resolve_left (by decide)
    rfl

/-- A single rate above zero is its percentage of a fee that is not exempt. -/
theorem single_eq_of_pos (hrate : rate.toDecimal = .ok p) (hp : p.HasValue r) (hr : 0 < r) :
    single fee rate false backdated =
      liftM (percentageOf fee.amount p fee.currency.decimalPlaces) >>= fun amount =>
        .ok (ofComponents fee backdated amount p [⟨"VAT", p, amount⟩]) := by
  have hnegative : decide (r < 0) = false := decide_eq_false (not_lt.mpr hr.le)
  have hzero : decide (r = 0) = false := decide_eq_false hr.ne'
  rw [single, hrate, ok_bind, lt_eq hp hasValue_zero, hnegative, sameValue_eq hp hasValue_zero,
    hzero]
  rfl

/-- A group whose only component has a rate from zero up adds up the percentage of a fee that is
not exempt. -/
theorem group_sole_eq (hp : p.HasValue r) (hr : 0 ≤ r) :
    group fee (sole name p) false backdated =
      liftM (percentageOf fee.amount p fee.currency.decimalPlaces) >>= fun amount =>
        addUp fee backdated [⟨name, p, amount⟩] := by
  have hnegative : decide (r < 0) = false := decide_eq_false (not_lt.mpr hr)
  rw [group, if_neg (by simp [sole]), sole, componentAmounts, componentAmount,
    percentageOn_of_no_history, lt_eq hp hasValue_zero, hnegative]
  cases percentageOf fee.amount p fee.currency.decimalPlaces with
  | error fault => rfl
  | ok amount => rfl

/-- One amount from zero up that zero can be added to without rounding adds up to itself: to no
tax if it is zero, and else to a tax of that amount, if the rate can be added to zero. -/
theorem addUp_one (fee : Fee) (name : String) (p : Decimal) (backdated : Bool)
    (ha : amount.HasValue t) (ht : 0 ≤ t) (hr : Representable t) (hl : |t| < limit) :
    ∃ total, total.HasValue t ∧ addUp fee backdated [⟨name, p, amount⟩] =
      if t = 0 then .ok (notApplied fee backdated)
      else liftM (Decimal.add 0 p) >>= fun percentage =>
        .ok (ofComponents fee backdated total percentage [⟨name, p, amount⟩]) := by
  obtain ⟨total, htotal⟩ := add_ok hasValue_zero ha (by rwa [zero_add]) (by rwa [zero_add])
  have hvalue := add_hasValue hasValue_zero ha (by rwa [zero_add]) htotal
  rw [zero_add] at hvalue
  refine ⟨total, hvalue, ?_⟩
  have hsum : Decimal.sum [amount] = .ok total := by
    rw [Decimal.sum, sumFrom_cons, htotal]
    rfl
  have hrates : Decimal.sum [p] = Decimal.add 0 p := by
    rw [Decimal.sum, sumFrom_cons]
    cases Decimal.add 0 p with
    | error fault => rfl
    | ok percentage => rfl
  rw [addUp, List.map_singleton, List.map_singleton, hsum, hrates, liftM_ok, ok_bind,
    le_eq hvalue hasValue_zero]
  by_cases hzero : t = 0
  · rw [if_pos hzero, decide_eq_true hzero.le]
    rfl
  · have hpos : ¬t ≤ 0 := not_le.mpr (lt_of_le_of_ne ht (Ne.symm hzero))
    rw [if_neg hzero, decide_eq_false hpos]
    rfl

/-- The rate is above zero, the fee is not exempt, and still the rounded tax is zero. -/
def ComesToNothing (fee : Fee) (p : Decimal) (exempt : Bool) : Prop :=
  exempt = false ∧ 0 < p.value ∧
    ∃ amount, percentageOf fee.amount p fee.currency.decimalPlaces = .ok amount ∧ amount.HasValue 0

/-- How the taxes of a rate that is given on its own and in a group compare: they agree, the same
is paid of both, and only the one on its own counts as applied where the rate comes to nothing. -/
structure Compares (nothing : Prop) (tax other : Tax) : Prop where
  agrees : tax.Agrees other
  payable : ∃ t, tax.payable.HasValue t ∧ other.payable.HasValue t
  applied : tax.applied ≠ other.applied ↔ nothing
  gone : tax.applied ≠ other.applied → tax.applied = true ∧ other.applied = false

theorem payable_notApplied : (notApplied fee backdated).payable.HasValue 0 := hasValue_zero

/-- No tax compares with no tax. -/
theorem notApplied_compares {nothing : Prop} (h : ¬nothing) :
    Compares nothing (notApplied fee backdated) (notApplied fee backdated) where
  agrees := ⟨⟨0, hasValue_zero, hasValue_zero⟩, rfl, rfl, rfl⟩
  payable := ⟨0, payable_notApplied, payable_notApplied⟩
  applied := iff_of_false (fun hne => hne rfl) h
  gone hne := absurd rfl hne

/-- A tax of an amount compares with what a group makes of that amount. -/
theorem ofComponents_compares {nothing : Prop} {components : List ComponentAmount}
    {percentage : Decimal} (ha : amount.HasValue t) (ht : 0 ≤ t) (hquantized : Representable t)
    (hl : |t| < limit) (hnothing : nothing ↔ t = 0)
    (h : addUp fee backdated [⟨name, p, amount⟩] = .ok other) :
    Compares nothing (ofComponents fee backdated amount percentage components) other := by
  obtain ⟨total, htotal, hadd⟩ := addUp_one fee name p backdated ha ht hquantized hl
  rw [hadd] at h
  by_cases hzero : t = 0
  · rw [if_pos hzero] at h
    obtain rfl := Except.ok.inj h
    rw [hzero] at ha
    exact {
      agrees := ⟨⟨0, ha, hasValue_zero⟩, rfl, rfl, rfl⟩
      payable := ⟨0, ha, payable_notApplied⟩
      applied := iff_of_true nofun (hnothing.mpr hzero)
      gone := fun _ => ⟨rfl, rfl⟩ }
  · rw [if_neg hzero] at h
    obtain ⟨rates, -, h⟩ := bind_eq_ok_iff.mp h
    obtain rfl := Except.ok.inj h
    exact {
      agrees := ⟨⟨t, ha, htotal⟩, rfl, rfl, rfl⟩
      payable := ⟨t, ha, htotal⟩
      applied := iff_of_false (fun hne => hne rfl) fun hnone => hzero (hnothing.mp hnone)
      gone := fun hne => absurd rfl hne }

/-- The taxes of one rate compare, if both ways return one. -/
theorem single_compares_group (hrate : rate.toDecimal = .ok p) (hp : p.HasValue r) (hr : 0 ≤ r)
    (hf : fee.amount.HasValue f) (hf0 : 0 ≤ f)
    (hsingle : single fee rate exempt backdated = .ok tax)
    (hgroup : group fee (sole name p) exempt backdated = .ok other) :
    Compares (ComesToNothing fee p exempt) tax other := by
  cases exempt with
  | true =>
    rw [single_eq_notApplied hrate hp hr (.inl rfl)] at hsingle
    obtain rfl := Except.ok.inj hsingle
    obtain rfl := Except.ok.inj hgroup
    exact notApplied_compares fun hnothing => nomatch hnothing.1
  | false =>
    rw [group_sole_eq hp hr] at hgroup
    obtain ⟨amount, hamount, hgroup⟩ := bind_eq_ok_iff.mp hgroup
    rw [liftM_eq_ok_iff] at hamount
    obtain ⟨t, ht, ht0, hquantized⟩ := percentageOf_nonneg hf hp hf0 hr hamount
    rcases hr.eq_or_lt with rfl | hpos
    · rw [single_eq_notApplied hrate hp hr (.inr rfl)] at hsingle
      obtain rfl := Except.ok.inj hsingle
      obtain rfl : t = 0 :=
        ht.unique (percentageOf_hasValue_zero hf hp (mul_zero f) hamount)
      obtain ⟨total, -, hadd⟩ := addUp_one fee name p backdated ht ht0
        hquantized.representable hquantized.lt_limit
      rw [hadd, if_pos rfl] at hgroup
      obtain rfl := Except.ok.inj hgroup
      refine notApplied_compares fun hnothing => ?_
      rw [ComesToNothing, hp.value_eq] at hnothing
      exact lt_irrefl 0 hnothing.2.1
    · rw [single_eq_of_pos hrate hp hpos, hamount, liftM_ok, ok_bind] at hsingle
      obtain rfl := Except.ok.inj hsingle
      refine ofComponents_compares ht ht0 hquantized.representable hquantized.lt_limit ?_ hgroup
      rw [ComesToNothing, hp.value_eq]
      constructor
      · rintro ⟨-, -, amount', hamount', hnone⟩
        obtain rfl := Except.ok.inj (hamount.symm.trans hamount')
        exact ht.unique hnone
      · rintro rfl
        exact ⟨rfl, hpos, amount, hamount, ht⟩

/-- Where the percentage is found, the single rate has a result. -/
theorem single_returns (exempt backdated : Bool) (hrate : rate.toDecimal = .ok p)
    (hp : p.HasValue r) (hr : 0 ≤ r)
    (hamount : percentageOf fee.amount p fee.currency.decimalPlaces = .ok amount) :
    ∃ tax, single fee rate exempt backdated = .ok tax := by
  by_cases hnothing : exempt = true ∨ r = 0
  · exact ⟨_, single_eq_notApplied hrate hp hr hnothing⟩
  · obtain ⟨hexempt, hne⟩ := not_or.mp hnothing
    obtain rfl := Bool.eq_false_of_not_eq_true hexempt
    rw [single_eq_of_pos hrate hp (lt_of_le_of_ne hr (Ne.symm hne)), hamount]
    exact ⟨_, rfl⟩

/-- Where the percentage of a quantized fee is found, the group has a result: the rate is moderate
enough to be added to zero. -/
theorem group_returns (name : String) (exempt backdated : Bool) (hp : p.HasValue r) (hr : 0 ≤ r)
    (hf : fee.amount.HasValue f) (hf0 : 0 ≤ f)
    (hquantized : Quantized fee.currency.decimalPlaces f)
    (hamount : percentageOf fee.amount p fee.currency.decimalPlaces = .ok amount) :
    ∃ other, group fee (sole name p) exempt backdated = .ok other := by
  cases exempt with
  | true => exact ⟨_, rfl⟩
  | false =>
    obtain ⟨t, ht, ht0, hpart⟩ := percentageOf_nonneg hf hp hf0 hr hamount
    obtain ⟨total, -, hadd⟩ := addUp_one fee name p backdated ht ht0 hpart.representable
      hpart.lt_limit
    rw [group_sole_eq hp hr, hamount, liftM_ok, ok_bind, hadd]
    split
    · exact ⟨_, rfl⟩
    next hzero =>
      have hfpos : 0 < f := by
        refine lt_of_le_of_ne hf0 fun hnone => hzero ?_
        exact ht.unique
          (percentageOf_hasValue_zero hf hp (by rw [← hnone, zero_mul]) hamount)
      have hmoderate := lt_of_percentageOf hf hquantized hfpos hp hamount
      have hsmall : |rounded (0 + r)| < limit := by
        rw [zero_add]
        exact rounded_lt_limit hr hmoderate
      obtain ⟨rates, hrates, -⟩ := (add_rounds hasValue_zero hp).returns hsmall
      rw [hrates]
      exact ⟨_, rfl⟩

/-- On a quantized fee both ways have a result, or none for one reason. -/
theorem single_group_alike (hrate : rate.toDecimal = .ok p) (hp : p.HasValue r) (hr : 0 ≤ r)
    (hf : fee.amount.HasValue f) (hf0 : 0 ≤ f)
    (hquantized : Quantized fee.currency.decimalPlaces f) :
    Alike (Compares (ComesToNothing fee p exempt)) (single fee rate exempt backdated)
      (group fee (sole name p) exempt backdated) := by
  cases hamount : percentageOf fee.amount p fee.currency.decimalPlaces with
  | ok amount =>
    obtain ⟨tax, hsingle⟩ := single_returns exempt backdated hrate hp hr hamount
    obtain ⟨other, hgroup⟩ :=
      group_returns name exempt backdated hp hr hf hf0 hquantized hamount
    have hcompares := single_compares_group hrate hp hr hf hf0 hsingle hgroup
    rw [hsingle, hgroup]
    exact hcompares
  | error fault =>
    have hpos : 0 < r := by
      refine lt_of_le_of_ne hr ?_
      rintro rfl
      obtain ⟨e, he, -⟩ := hquantized
      obtain ⟨amount, hsome⟩ := percentageOf_of_mul_eq_zero hf hp (mul_zero f) he
      exact nomatch hamount.symm.trans hsome
    cases exempt with
    | true =>
      rw [single_eq_notApplied hrate hp hr (.inl rfl)]
      exact notApplied_compares fun hnothing => nomatch hnothing.1
    | false =>
      rw [single_eq_of_pos hrate hp hpos, group_sole_eq hp hr, hamount]
      rfl

end

end Tax

namespace Charge

variable {rate : Datum} {p : Decimal} {r : ℚ}

/-- The charge with a single rate and no components. -/
def withRate (charge : Charge) (rate : Datum) : Charge :=
  { charge with components := [], rate := some rate }

/-- The charge with one component and any single rate, which is not used. -/
def withComponent (charge : Charge) (name : String) (p : Decimal) (rate : Option Datum) : Charge :=
  { charge with components := Tax.sole name p, rate }

/-- A charge with a single component is taxed by it, whatever single rate is given. -/
theorem tax_withComponent (charge : Charge) (name : String) (p : Decimal) (other : Option Datum)
    (fee : Fee) :
    (charge.withComponent name p other).tax fee =
      Tax.group fee (Tax.sole name p) charge.exempt charge.isBackdated := by
  cases other <;> rfl

/-- A charge with one rate is settled alike, whichever way the rate is given. -/
theorem settle_alike (charge : Charge) (schedule : Schedule) (splits : List Split) (name : String)
    (other : Option Datum) (hrate : rate.toDecimal = .ok p) (hp : p.HasValue r) (hr : 0 ≤ r) :
    Alike Settlement.Agrees ((charge.withRate rate).settle schedule splits)
      ((charge.withComponent name p other).settle schedule splits) := by
  refine Alike.bind (Alike.refl (R := Eq) (fun _ => rfl) (charge.fee schedule)) ?_
  rintro fee _ hfee - rfl
  refine Alike.bind (Alike.refl (R := Eq) (fun _ => rfl)
    (fee.distribute splits charge.charge (some charge.postingDate))) ?_
  rintro distribution _ hdistribution - rfl
  obtain ⟨-, resolved, -, -, hrounded, hcurrency⟩ := fee_eq_ok hfee
  rw [← hcurrency] at hrounded
  obtain ⟨q, e, -, -, hf, hf0, hquantized⟩ := fee_hasValue hrounded hdistribution
  rw [tax_withComponent]
  refine Alike.bind (Tax.single_group_alike hrate hp hr hf hf0 hquantized) ?_
  intro tax grouped _ _ hcompares
  obtain ⟨t, ht, ht'⟩ := hcompares.payable
  refine Alike.bind (Tax.aggregate_alike hf ht ht').liftM ?_
  intro payment payment' _ _ hpayment
  exact ⟨rfl, hcompares.agrees, hpayment⟩

end Charge

/-- A rate given on its own and the same rate as the only component of a group agree. Where both
tax a fee, the amounts are one number, about one fee, and payments of the fee with either tax are
alike; only where a rate above zero comes to nothing on a fee that is not exempt does the single
rate count as applied and the group does not. So charges are settled alike either way. -/
theorem one_rate_agrees (name : String) (rate : Datum) (p : Decimal)
    (hrate : rate.toDecimal = .ok p) (hp : p.isFinite = true) (hp0 : 0 ≤ p.value) :
    (∀ (fee : Fee) (exempt backdated : Bool) (tax grouped : Tax), fee.amount.isFinite = true →
      0 ≤ fee.amount.value → Tax.single fee rate exempt backdated = .ok tax →
      Tax.group fee [{ name, percentage := p }] exempt backdated = .ok grouped →
        tax.Agrees grouped ∧
        Alike Payment.Agrees (Payment.aggregate (some fee) (some tax))
          (Payment.aggregate (some fee) (some grouped)) ∧
        (tax.applied ≠ grouped.applied ↔ exempt = false ∧ 0 < p.value ∧
          ∃ amount, percentageOf fee.amount p fee.currency.decimalPlaces = .ok amount ∧
            amount.HasValue 0) ∧
        (tax.applied ≠ grouped.applied → tax.applied = true ∧ grouped.applied = false)) ∧
    (∀ (charge : Charge) (schedule : Schedule) (splits : List Split) (other : Option Datum),
      Alike Settlement.Agrees
        ({ charge with components := [], rate := some rate }.settle schedule splits)
        ({ charge with components := [{ name, percentage := p }], rate := other }.settle schedule
          splits)) := by
  have hvalue := hasValue_value hp
  refine ⟨?_, ?_⟩
  · intro fee exempt backdated tax grouped hfinite hfee hsingle hgroup
    have hf := hasValue_value hfinite
    have hcompares := Tax.single_compares_group hrate hvalue hp0 hf hfee hsingle hgroup
    obtain ⟨t, ht, ht'⟩ := hcompares.payable
    refine ⟨hcompares.agrees, Tax.aggregate_alike hf ht ht', ?_, hcompares.gone⟩
    exact hcompares.applied
  · intro charge schedule splits other
    exact charge.settle_alike schedule splits name other hrate hvalue hp0

/-- A fee of nine cents. -/
def nineCents : Fee := ⟨"fee", .finite ⟨false, 9, -2⟩, none, ⟨"NGN", 2⟩⟩

/-- Five percent of nine cents come to nothing: only the single rate counts as applied, and the
payments are alike. -/
theorem nineCents_agrees :
    ∃ tax grouped, Tax.single nineCents (.whole 5) = .ok tax ∧
      Tax.group nineCents [{ name := "VAT", percentage := 5 }] = .ok grouped ∧
      tax.applied = true ∧ grouped.applied = false ∧
      Alike Payment.Agrees (Payment.aggregate (some nineCents) (some tax))
        (Payment.aggregate (some nineCents) (some grouped)) := by
  have hfive : (5 : Decimal).value = 5 := (hasValue_ofNat 5).value_eq
  have hfee : nineCents.amount.value = 9 / 100 := by
    norm_num [nineCents, zpow_neg]
  obtain ⟨hboth, -⟩ := one_rate_agrees "VAT" (.whole 5) 5 rfl rfl (by rw [hfive]; norm_num)
  obtain ⟨-, hpayment, happlied, hgone⟩ :=
    hboth nineCents false false _ _ rfl (by rw [hfee]; norm_num) rfl rfl
  have hnothing := happlied.mpr ⟨rfl, by rw [hfive]; norm_num, _, rfl, hasValue_finite.mpr
    (Scaled.value_eq_zero_iff.mpr rfl)⟩
  obtain ⟨hsingle, hgroup⟩ := hgone hnothing
  exact ⟨_, _, rfl, rfl, hsingle, hgroup, hpayment⟩

end Passbook
