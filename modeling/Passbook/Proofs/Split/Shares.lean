import Passbook.Proofs.Money
import Passbook.Proofs.Split.TakeBack
import Passbook.Proofs.Split.Totals

/-!
# The shares of an accepted list

If nothing is found against a list of active splits and every share can be computed, the fee and
all values are numbers from zero up, the flat amounts are within the fee, and every share is a
number from zero up: a quantized one, or a flat amount itself.
-/

namespace Passbook

open Decimal

namespace Split

variable {s : Split} {active : List Split} {fee : Decimal} {places : Int}
  {amounts : List Decimal}

/-- The shares of a list are the shares of its splits, in order. -/
theorem shares_eq_ok (h : shares fee places active = .ok amounts) :
    List.Forall₂ (fun s amount => s.share fee places = .ok amount) active amounts := by
  induction active generalizing amounts with
  | nil =>
    obtain rfl := Except.ok.inj h
    exact .nil
  | cons s rest ih =>
    obtain ⟨first, hfirst, h⟩ := bind_eq_ok_iff.mp h
    obtain ⟨others, hothers, h⟩ := bind_eq_ok_iff.mp h
    obtain rfl := pure_eq_ok_iff.mp h
    exact .cons hfirst (ih hothers)

/-- What holds of the share of every split holds of the shares. -/
theorem forall_mem_shares {P : Decimal → Prop}
    (hP : ∀ s ∈ active, ∀ amount, s.share fee places = .ok amount → P amount)
    (h : shares fee places active = .ok amounts) : ∀ a ∈ amounts, P a := by
  have hshares := shares_eq_ok h
  clear h
  induction hshares with
  | nil => simp
  | cons hfirst _ ih =>
    obtain ⟨hs, hrest⟩ := List.forall_mem_cons.mp hP
    exact List.forall_mem_cons.mpr ⟨hs _ hfirst, ih hrest⟩

/-- Every split of a list whose shares are computed has a share. -/
theorem share_ok_of_mem (h : shares fee places active = .ok amounts) (hs : s ∈ active) :
    ∃ amount, s.share fee places = .ok amount := by
  induction active generalizing amounts with
  | nil => exact absurd hs List.not_mem_nil
  | cons t rest ih =>
    obtain ⟨first, hfirst, h⟩ := bind_eq_ok_iff.mp h
    obtain ⟨others, hothers, -⟩ := bind_eq_ok_iff.mp h
    rcases List.mem_cons.mp hs with rfl | hs
    · exact ⟨first, hfirst⟩
    · exact ih hothers hs

/-- The share of a percentage split is that percentage of the fee. -/
theorem share_percentage {amount : Decimal} (hp : s.isPercentage = true)
    (h : s.share fee places = .ok amount) : percentageOf fee s.value places = .ok amount := by
  rw [share, if_pos hp] at h
  exact liftM_eq_ok_iff.mp h

/-- The share of a flat split is its value. -/
theorem share_flat {amount : Decimal} (hp : s.isPercentage = false)
    (h : s.share fee places = .ok amount) : amount = s.value := by
  rw [share, hp, if_neg (by simp)] at h
  obtain ⟨exceeds, -, h⟩ := bind_eq_ok_iff.mp h
  cases exceeds with
  | true => simp at h
  | false => exact (pure_eq_ok_iff.mp h).symm

/-- What an accepted list of active splits is known to satisfy once its shares are computed. -/
structure Accepted (fee : Decimal) (active : List Split) : Prop where
  fee_nonneg : ∃ f, 0 ≤ f ∧ fee.HasValue f
  value_nonneg : ∀ s ∈ active, ∃ v, 0 ≤ v ∧ s.value.HasValue v
  flat_le : ∃ total t, Decimal.sum (flatValues active) = .ok total ∧ total.HasValue t ∧
    t ≤ fee.value

/-- A total of some of the values is not negative if none of the values is. -/
theorem notNegative_total {p : Split → Bool} {total : Decimal}
    (hv : ∀ s ∈ active, s.value.NotNegative)
    (hsum : Decimal.sum ((active.filter p).map (·.value)) = .ok total) : total.NotNegative := by
  refine notNegative_zero.sumFrom ?_ hsum
  intro x hx
  obtain ⟨s, hs, rfl⟩ := List.mem_map.mp hx
  exact hv s (List.mem_filter.mp hs).1

/-- The values that have a number as their total are numbers, from zero up if none is negative. -/
theorem hasValue_of_total {kind : Split → Bool} {total : Decimal} {t : ℚ}
    (hv : ∀ s ∈ active, s.value.NotNegative)
    (hsum : Decimal.sum ((active.filter kind).map (·.value)) = .ok total) (ht : total.HasValue t) :
    ∀ s ∈ active, kind s = true → ∃ v, 0 ≤ v ∧ s.value.HasValue v := by
  intro s hs hkind
  have hmem : s.value ∈ (active.filter kind).map (·.value) :=
    List.mem_map.mpr ⟨s, List.mem_filter.mpr ⟨hs, hkind⟩, rfl⟩
  obtain ⟨v, hval⟩ := (hasValue_of_sumFrom hsum ht).2 _ hmem
  exact ⟨v, (hv s hs).nonneg hval, hval⟩

/-- The percentages of an accepted list are numbers. -/
theorem percentage_hasValue {totals : Totals} (hv : ∀ s ∈ active, s.value.NotNegative)
    (hsum : Decimal.sum (percentageValues active) = .ok totals.percentage)
    (h : (100 : Decimal).lt totals.percentage = .ok false) :
    ∀ s ∈ active, s.isPercentage = true → ∃ v, 0 ≤ v ∧ s.value.HasValue v := by
  obtain ⟨p, -, -, hp⟩ := (notNegative_total hv hsum).hasValue_of_not_lt hasValue_hundred h
  exact hasValue_of_total hv hsum hp

/-- A fee that is not below a total that is not negative is a number with the total below it,
or the positive infinity. -/
theorem fee_of_not_lt {flat : Decimal} (hflat : flat.NotNegative) (h : fee.lt flat = .ok false) :
    (∃ f t, 0 ≤ t ∧ t ≤ f ∧ fee.HasValue f ∧ flat.HasValue t) ∨ fee = infinite false := by
  cases fee with
  | finite a =>
    obtain ⟨t, ht0, hle, ht⟩ := hflat.hasValue_of_not_lt (hasValue_finite.mpr rfl) h
    exact .inl ⟨a.value, t, ht0, hle, hasValue_finite.mpr rfl, ht⟩
  | infinite sign =>
    cases sign with
    | false => exact .inr rfl
    | true =>
      rcases notNegative_iff.mp hflat with ⟨t, -, ht⟩ | rfl
      · obtain ⟨b, rfl, rfl⟩ := hasValue_iff.mp ht
        simp [lt, compare?] at h
      · simp [lt, compare?] at h
  | nan sign signaling payload => simp [lt, compare?] at h

/-- An infinite fee has no shares: its product with no percentages at all is undefined, and no
percentage of it is rounded to minor units. -/
theorem fee_ne_infinite {totals : Totals}
    (hv : ∀ s ∈ active, s.isPercentage = true → ∃ v, 0 ≤ v ∧ s.value.HasValue v)
    (hsum : Decimal.sum (percentageValues active) = .ok totals.percentage)
    (hle : totals.percentage.le 100 = .ok true)
    (hcombined : totals.combinedExceeds fee = .ok false)
    (hshares : shares fee places active = .ok amounts) : fee ≠ infinite false := by
  rintro rfl
  by_cases hsome : ∃ s ∈ active, s.isPercentage = true
  · obtain ⟨s, hs, hp⟩ := hsome
    obtain ⟨v, -, hval⟩ := hv s hs hp
    obtain ⟨amount, hshare⟩ := share_ok_of_mem hshares hs
    exact percentageOf_infinite_ne_ok hval (share_percentage hp hshare)
  · have hnil : percentageValues active = [] := by
      simp only [percentageValues, List.map_eq_nil_iff, List.filter_eq_nil_iff]
      exact fun s hs hp => hsome ⟨s, hs, hp⟩
    rw [hnil] at hsum
    have hzero : totals.percentage = 0 := (Except.ok.inj hsum).symm
    obtain ⟨within, hwithin, hcombined⟩ := bind_eq_ok_iff.mp hcombined
    obtain rfl := Except.ok.inj (hle.symm.trans hwithin)
    obtain ⟨combined, hproduct, -⟩ := bind_eq_ok_iff.mp hcombined
    obtain ⟨product, hproduct, -⟩ := bind_eq_ok_iff.mp hproduct
    rw [hzero] at hproduct
    cases hproduct

/-- A list against which nothing is found, and whose shares can be computed, is accepted. -/
theorem accepted (hactive : ∀ s ∈ active, s.active = true)
    (hvalid : validateTotals active fee = .ok [])
    (hshares : shares fee places active = .ok amounts) : Accepted fee active := by
  obtain ⟨totals, htotals, hneg, hhundred, hflat, hcombined⟩ := validateTotals_eq_nil hvalid
  obtain ⟨hv, hpsum, hfsum⟩ := Totals.addAll_eq_ok hactive htotals hneg
  have hpercentages := percentage_hasValue hv hpsum hhundred
  obtain ⟨p, -, hple, hp⟩ :=
    (notNegative_total hv hpsum).hasValue_of_not_lt hasValue_hundred hhundred
  have hle : totals.percentage.le 100 = .ok true := by
    rw [le_eq hp hasValue_hundred, decide_eq_true hple]
  rcases fee_of_not_lt (notNegative_total hv hfsum) hflat with ⟨f, t, ht0, htf, hf, ht⟩ | hinf
  · refine ⟨⟨f, ht0.trans htf, hf⟩, ?_, ⟨totals.flat, t, hfsum, ht, by rwa [hf.value_eq]⟩⟩
    intro s hs
    cases hkind : s.isPercentage with
    | true => exact hpercentages s hs hkind
    | false => exact hasValue_of_total hv hfsum ht s hs (by simp [isFlatAmount_eq_not, hkind])
  · exact absurd hinf (fee_ne_infinite hpercentages hpsum hle hcombined hshares)

/-- The share of an accepted split is a number from zero up: a quantized one, or the flat
amount. -/
theorem Accepted.share_hasValue {amount : Decimal} (h : Accepted fee active) (hs : s ∈ active)
    (hshare : s.share fee places = .ok amount) :
    amount.HasValue amount.value ∧ 0 ≤ amount.value ∧
      (s.isPercentage = true → Quantized places amount.value) ∧
      (s.isPercentage = false → amount = s.value) := by
  obtain ⟨f, hf0, hf⟩ := h.fee_nonneg
  obtain ⟨v, hv0, hv⟩ := h.value_nonneg s hs
  cases hp : s.isPercentage with
  | true =>
    obtain ⟨r, hr, hr0, hquantized⟩ :=
      percentageOf_nonneg hf hv hf0 hv0 (share_percentage hp hshare)
    rw [hr.value_eq]
    exact ⟨hr, hr0, fun _ => hquantized, by simp⟩
  | false =>
    obtain rfl := share_flat hp hshare
    rw [hv.value_eq]
    exact ⟨hv, hv0, by simp, fun _ => rfl⟩

end Split

end Passbook
