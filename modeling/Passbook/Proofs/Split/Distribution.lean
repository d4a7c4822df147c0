import Passbook.Proofs.Split.Shares

/-!
# Distributions stay within the fee

As long as the context keeps all digits of the amounts, a distribution credits the smaller of
the fee and the sum of the shares, exactly. Half-up rounding may carry the shares past the fee;
the percentage shares can always give the overshoot back, since the flat amounts alone are
within the fee.
-/

namespace Passbook

open Decimal Split

/-- The credits add up to this much, exactly. -/
def Distribution.credited (d : Distribution) : ℚ := (d.credits.map (·.amount.value)).sum

namespace Fee

variable {fee : Fee} {splits : List Split} {charge : Option String} {date : Option Date}
  {d : Distribution} {e : Int}

/-- The active splits of a list. -/
def activeOf (splits : List Split) : List Split := splits.filter (·.active)

theorem active_of_mem {s : Split} (h : s ∈ activeOf splits) : s.active = true :=
  (List.mem_filter.mp h).2

/-- The fee, its active flat amounts and the minor unit lie on one grid that the context
reaches, and the fee and the exact sum of the shares are few of its units. -/
structure ExactAt (fee : Fee) (splits : List Split) (e : Int) : Prop where
  least : leastExponent ≤ e
  le_places : e ≤ -fee.currency.decimalPlaces
  fee_mem : fee.amount.value ∈ grid e
  fee_lt : fee.amount.value < 10 ^ (e + precision)
  flat_mem : ∀ s ∈ activeOf splits, s.isFlatAmount = true → s.value.value ∈ grid e
  shares_lt : ∀ shares, Split.shares fee.amount fee.currency.decimalPlaces (activeOf splits) =
    .ok shares → (shares.map Decimal.value).sum < 10 ^ (e + precision)

/-- A distribution is a run of its checks and steps. -/
theorem distribute_eq_ok (h : fee.distribute splits charge date = .ok d) :
    validateTotals (activeOf splits) fee.amount = .ok [] ∧
      ∃ shares total overshoot left untaken,
        Split.shares fee.amount fee.currency.decimalPlaces (activeOf splits) = .ok shares ∧
        Decimal.sum shares = .ok total ∧ total.sub fee.amount = .ok overshoot ∧
        takeBack overshoot ((activeOf splits).zip shares) = .ok (left, untaken) ∧
        d.total = fee.amount ∧
        d.credits = ((activeOf splits).zip left).map fun entry => entry.1.credit entry.2 := by
  obtain ⟨findings, hfindings, h⟩ := bind_eq_ok_iff.mp h
  rw [liftM_eq_ok_iff] at hfindings
  cases findings with
  | cons finding rest => simp at h
  | nil =>
    obtain ⟨amounts, hamounts, h⟩ := bind_eq_ok_iff.mp h
    obtain ⟨shares, hshares, hamounts⟩ := bind_eq_ok_iff.mp hamounts
    obtain ⟨total, htotal, hamounts⟩ := bind_eq_ok_iff.mp hamounts
    obtain ⟨overshoot, hovershoot, hamounts⟩ := bind_eq_ok_iff.mp hamounts
    obtain ⟨⟨left, untaken⟩, htake, hamounts⟩ := bind_eq_ok_iff.mp hamounts
    rw [liftM_eq_ok_iff] at htotal hovershoot htake
    obtain rfl := pure_eq_ok_iff.mp hamounts
    obtain rfl := pure_eq_ok_iff.mp h
    exact ⟨hfindings, shares, total, overshoot, left, untaken, hshares, htotal, hovershoot,
      htake, rfl, rfl⟩

/-- A computed share on numbers: from zero up, on the grid, and the flat amount for a flat
split. -/
structure IsShare (e : Int) (s : Split) (amount : Decimal) : Prop where
  hasValue : amount.HasValue amount.value
  nonneg : 0 ≤ amount.value
  mem : amount.value ∈ grid e
  flat : s.isPercentage = false → amount = s.value

/-- The shares of an accepted list are numbers from zero up on the grid. -/
theorem ExactAt.isShare {shares : List Decimal} (hx : fee.ExactAt splits e)
    (ha : Accepted fee.amount (activeOf splits))
    (h : Split.shares fee.amount fee.currency.decimalPlaces (activeOf splits) = .ok shares) :
    List.Forall₂ (IsShare e) (activeOf splits) shares := by
  have hplaces : leastExponent ≤ -fee.currency.decimalPlaces := hx.least.trans hx.le_places
  have hall := (List.forall₂_and_left (p := (· ∈ activeOf splits)) _ _).mpr
    ⟨fun s hs => hs, shares_eq_ok h⟩
  refine hall.imp ?_
  rintro s amount ⟨hs, hshare⟩
  obtain ⟨hv, h0, hpercentage, hflat⟩ := ha.share_hasValue hs hshare
  refine ⟨hv, h0, ?_, hflat⟩
  cases hp : s.isPercentage with
  | true => exact grid_anti hx.le_places ((hpercentage hp).mem_grid hplaces)
  | false =>
    rw [hflat hp]
    exact hx.flat_mem s hs (by rw [isFlatAmount_eq_not, hp, Bool.not_false])

section
variable {active : List Split} {shares : List Decimal}

/-- Computed shares have values. -/
theorem forall₂_value (h : List.Forall₂ (IsShare e) active shares) :
    List.Forall₂ HasValue shares (shares.map Decimal.value) := by
  refine forall₂_hasValue_map ?_
  induction h with
  | nil => simp
  | cons hfirst _ ih => exact List.forall_mem_cons.mpr ⟨hfirst.hasValue, ih⟩

/-- The values of computed shares are from zero up, on the grid. -/
theorem mem_value (h : List.Forall₂ (IsShare e) active shares) :
    ∀ q ∈ shares.map Decimal.value, q ∈ grid e ∧ 0 ≤ q := by
  induction h with
  | nil => simp
  | cons hfirst _ ih =>
    rw [List.map_cons]
    exact List.forall_mem_cons.mpr ⟨⟨hfirst.mem, hfirst.nonneg⟩, ih⟩

/-- Numbers that are the values of the flat splits are those of the percentage splits and the flat
amounts. -/
theorem sum_eq_of_flat {qs : List ℚ}
    (h : List.Forall₂ (fun s q => s.isPercentage = false → q = s.value.value) active qs) :
    qs.sum = (((active.zip qs).filter (·.1.isPercentage)).map (·.2)).sum +
      ((flatValues active).map Decimal.value).sum := by
  induction h with
  | nil => simp [flatValues]
  | @cons s q active qs hfirst _ ih =>
    rw [List.sum_cons, ih, List.zip_cons_cons]
    cases hp : s.isPercentage with
    | true => simp [flatValues, isFlatAmount_eq_not, hp, add_assoc]
    | false =>
      simp [flatValues, isFlatAmount_eq_not, hp, hfirst hp]
      ring

/-- The shares are the percentage shares and the flat amounts. -/
theorem sum_shares (h : List.Forall₂ (IsShare e) active shares) :
    (shares.map Decimal.value).sum =
      (((active.zip (shares.map Decimal.value)).filter (·.1.isPercentage)).map (·.2)).sum +
        ((flatValues active).map Decimal.value).sum := by
  refine sum_eq_of_flat (List.forall₂_map_right_iff.mpr (h.imp fun s amount hshare hp => ?_))
  rw [hshare.flat hp]

/-- The flat amounts are shares. -/
theorem flatValues_mem (h : List.Forall₂ (IsShare e) active shares) :
    ∀ x ∈ flatValues active, x.HasValue x.value ∧ x.value ∈ grid e ∧ 0 ≤ x.value := by
  induction h with
  | nil => simp [flatValues]
  | @cons s amount active shares hfirst _ ih =>
    cases hp : s.isPercentage with
    | true => simpa [flatValues, isFlatAmount_eq_not, hp] using ih
    | false =>
      have hs := hfirst.flat hp
      have hcons : flatValues (s :: active) = s.value :: flatValues active := by
        simp [flatValues, isFlatAmount_eq_not, hp]
      rw [hcons, ← hs]
      exact List.forall_mem_cons.mpr ⟨⟨hfirst.hasValue, hfirst.mem, hfirst.nonneg⟩, ih⟩

end

/-- A distribution on numbers: the fee, the shares before the overshoot is taken back, and the
credits that are left of them. -/
structure Trimmed (fee : Fee) (splits : List Split) (d : Distribution) (e : Int) (f : ℚ)
    (shares : List Decimal) : Prop where
  least : leastExponent ≤ e
  fee_hasValue : fee.amount.HasValue f
  fee_nonneg : 0 ≤ f
  fee_mem : f ∈ grid e
  fee_lt : f < 10 ^ (e + precision)
  total_eq : d.total = fee.amount
  shares_eq : Split.shares fee.amount fee.currency.decimalPlaces (activeOf splits) = .ok shares
  isShare : List.Forall₂ (IsShare e) (activeOf splits) shares
  flat_le : ((flatValues (activeOf splits)).map Decimal.value).sum ≤ f
  sum_lt_limit : (shares.map Decimal.value).sum < limit
  overshoot_lt_limit : |(shares.map Decimal.value).sum - f| < limit
  credits : List.Forall₂ HasValue (d.credits.map (·.amount))
    (trimmed ((shares.map Decimal.value).sum - f)
      ((activeOf splits).zip (shares.map Decimal.value))).1

/-- The amounts of the credits are what is left of the shares. -/
theorem map_amount_zip_credit {active : List Split} {left : List Decimal}
    (h : left.length = active.length) :
    (((active.zip left).map fun entry => entry.1.credit entry.2).map (·.amount)) = left := by
  rw [List.map_map]
  exact List.map_snd_zip (by omega)

/-- The flat amounts of an accepted list are at most the fee. -/
theorem flat_sum_le {active : List Split} {shares : List Decimal} {f : ℚ} (he : leastExponent ≤ e)
    (ha : Accepted fee.amount active) (hf : fee.amount.HasValue f)
    (hs : List.Forall₂ (IsShare e) active shares)
    (hlt : (shares.map Decimal.value).sum < 10 ^ (e + precision)) :
    ((flatValues active).map Decimal.value).sum ≤ f := by
  obtain ⟨total, t, hsum, ht, hle⟩ := ha.flat_le
  have hflat := flatValues_mem hs
  have hvalues := forall₂_hasValue_map fun x hx => (hflat x hx).1
  have hpercentage : 0 ≤
      (((active.zip (shares.map Decimal.value)).filter (·.1.isPercentage)).map (·.2)).sum := by
    refine List.sum_nonneg fun q hq => ?_
    obtain ⟨entry, hentry, rfl⟩ := List.mem_map.mp hq
    exact (mem_value hs _ (List.of_mem_zip (List.mem_filter.mp hentry).1).2).2
  have hrun : ExactRun e 0 ((flatValues active).map Decimal.value) := by
    refine exactRun_of_mem he ?_ ?_
    · intro q hq
      obtain ⟨x, hx, rfl⟩ := List.mem_map.mp hq
      exact (hflat x hx).2
    · rw [sum_shares hs] at hlt
      linarith
  have hexact := sum_hasValue hvalues hrun.runningTotals hsum
  rw [hexact.unique ht, ← hf.value_eq]
  exact hle

/-- The value of a fee that is few units of a grid. -/
theorem ExactAt.fee_value (hx : fee.ExactAt splits e) {f : ℚ} (hf : fee.amount.HasValue f) :
    f ∈ grid e ∧ f < 10 ^ (e + precision) := by
  obtain rfl := hf.value_eq
  exact ⟨hx.fee_mem, hx.fee_lt⟩

/-- The total of the shares and what it exceeds the fee by are exact. -/
theorem ExactAt.overshoot_hasValue {shares : List Decimal} {total overshoot : Decimal} {f : ℚ}
    (hx : fee.ExactAt splits e) (hs : List.Forall₂ (IsShare e) (activeOf splits) shares)
    (hlt : (shares.map Decimal.value).sum < 10 ^ (e + precision)) (hf0 : 0 ≤ f)
    (hf : fee.amount.HasValue f) (htotal : Decimal.sum shares = .ok total)
    (hovershoot : total.sub fee.amount = .ok overshoot) :
    total.HasValue (shares.map Decimal.value).sum ∧
      overshoot.HasValue ((shares.map Decimal.value).sum - f) ∧
      (shares.map Decimal.value).sum - f ∈ grid e ∧
      |(shares.map Decimal.value).sum - f| < 10 ^ (e + precision) := by
  have hmem := mem_value hs
  obtain ⟨hfmem, hflt⟩ := hx.fee_value hf
  have hsum0 : 0 ≤ (shares.map Decimal.value).sum := List.sum_nonneg fun q hq => (hmem q hq).2
  have htotalv := sum_hasValue (forall₂_value hs)
    (exactRun_of_mem hx.least hmem hlt).runningTotals htotal
  have hgrid : (shares.map Decimal.value).sum - f ∈ grid e :=
    sub_mem (list_sum_mem fun q hq => (hmem q hq).1) hfmem
  have hdiff : |(shares.map Decimal.value).sum - f| < 10 ^ (e + precision) := by
    rw [abs_lt]
    constructor <;> linarith
  exact ⟨htotalv, sub_hasValue htotalv hf (representable_of_mem_grid hx.least hgrid hdiff)
    hovershoot, hgrid, hdiff⟩

/-- Where no addition rounds, a distribution follows the numbers. -/
theorem ExactAt.trimmed (hx : fee.ExactAt splits e)
    (h : fee.distribute splits charge date = .ok d) :
    ∃ f shares, Trimmed fee splits d e f shares := by
  obtain ⟨hvalid, shares, total, overshoot, left, untaken, hshares, htotal, hovershoot, htake,
    hdtotal, hcredits⟩ := distribute_eq_ok h
  have ha := accepted (fun s hs => active_of_mem hs) hvalid hshares
  obtain ⟨f, hf0, hf⟩ := ha.fee_nonneg
  have hs := hx.isShare ha hshares
  have hlt := hx.shares_lt shares hshares
  have hmem := mem_value hs
  obtain ⟨htotalv, hovershootv, hgrid, hdiff⟩ :=
    hx.overshoot_hasValue hs hlt hf0 hf htotal hovershoot
  have hsmall : ∀ q ∈ shares.map Decimal.value, q < 10 ^ (e + precision) := fun q hq =>
    (List.single_le_sum (fun r hr => (hmem r hr).2) q hq).trans_lt hlt
  have htrims : TrimsExactly ((shares.map Decimal.value).sum - f)
      ((activeOf splits).zip (shares.map Decimal.value)) := by
    refine trimsExactly_of_mem_grid hx.least hgrid hdiff fun entry hentry => ?_
    have hshare := (List.of_mem_zip hentry).2
    exact ⟨(hmem _ hshare).1, (hmem _ hshare).2, hsmall _ hshare⟩
  obtain ⟨hleft, -⟩ := takeBack_hasValue hovershootv (forall₂_value hs)
    (fun q hq => (hmem q hq).2) htrims htake
  have hlength : left.length = (activeOf splits).length := by
    rw [hleft.length_eq, length_trimmed, List.length_zip, List.length_map, ← hs.length_eq,
      min_self]
  refine ⟨f, shares, {
    least := hx.least
    fee_hasValue := hf
    fee_nonneg := hf0
    fee_mem := (hx.fee_value hf).1
    fee_lt := (hx.fee_value hf).2
    total_eq := hdtotal
    shares_eq := hshares
    isShare := hs
    flat_le := flat_sum_le hx.least ha hf hs hlt
    sum_lt_limit := ?_
    overshoot_lt_limit := ?_
    credits := ?_ }⟩
  · have hlim := abs_lt_limit_of_sumFrom hasValue_zero (by rw [abs_zero]; exact limit_pos)
      htotal htotalv
    exact (le_abs_self _).trans_lt hlim
  · rw [sub_eq_add_neg] at hovershootv ⊢
    exact abs_lt_limit_of_add htotalv hf.opposite hovershootv hovershoot
  · rw [hcredits, map_amount_zip_credit hlength]
    exact hleft

namespace Trimmed

variable {f : ℚ} {shares : List Decimal}

theorem entries_nonneg (h : Trimmed fee splits d e f shares) :
    ∀ entry ∈ (activeOf splits).zip (shares.map Decimal.value), 0 ≤ entry.2 :=
  fun _ hentry => (mem_value h.isShare _ (List.of_mem_zip hentry).2).2

/-- The values of the credits are the trimmed shares. -/
theorem map_value_credits (h : Trimmed fee splits d e f shares) :
    d.credits.map (·.amount.value) =
      (Split.trimmed ((shares.map Decimal.value).sum - f)
        ((activeOf splits).zip (shares.map Decimal.value))).1 := by
  rw [← map_value_eq_of_forall₂ h.credits, List.map_map]
  rfl

theorem credit_hasValue (h : Trimmed fee splits d e f shares) {c : Credit} (hc : c ∈ d.credits) :
    c.amount.HasValue c.amount.value :=
  hasValue_value_of_forall₂ h.credits _ (List.mem_map_of_mem hc)

/-- A credited amount is not below zero. -/
theorem credit_nonneg (h : Trimmed fee splits d e f shares) {c : Credit} (hc : c ∈ d.credits) :
    0 ≤ c.amount.value := by
  have hmem : c.amount.value ∈ d.credits.map (·.amount.value) := List.mem_map_of_mem hc
  rw [h.map_value_credits] at hmem
  exact trimmed_nonneg h.entries_nonneg _ hmem

/-- The credits lie in every group that the fee and the shares lie in. -/
theorem credit_mem (h : Trimmed fee splits d e f shares) {G : AddSubgroup ℚ} (hf : f ∈ G)
    (hs : ∀ q ∈ shares.map Decimal.value, q ∈ G) {c : Credit} (hc : c ∈ d.credits) :
    c.amount.value ∈ G := by
  have hmem : c.amount.value ∈ d.credits.map (·.amount.value) := List.mem_map_of_mem hc
  rw [h.map_value_credits] at hmem
  exact (trimmed_mem (sub_mem (list_sum_mem hs) hf)
    fun entry hentry => hs _ (List.of_mem_zip hentry).2).1 _ hmem

theorem map_snd_zip (h : Trimmed fee splits d e f shares) :
    ((activeOf splits).zip (shares.map Decimal.value)).map (·.2) = shares.map Decimal.value :=
  List.map_snd_zip (by rw [List.length_map, h.isShare.length_eq])

/-- What the shares exceed the fee by is at most what the percentage shares come to. -/
theorem overshoot_le (h : Trimmed fee splits d e f shares) :
    (shares.map Decimal.value).sum - f ≤
      ((((activeOf splits).zip (shares.map Decimal.value)).filter
        (·.1.isPercentage)).map (·.2)).sum := by
  have hflat := h.flat_le
  have hsum := sum_shares h.isShare
  linarith

/-- The percentage shares can give back whatever the shares exceed the fee by. -/
theorem untaken_eq_zero (h : Trimmed fee splits d e f shares)
    (hover : f ≤ (shares.map Decimal.value).sum) :
    (Split.trimmed ((shares.map Decimal.value).sum - f)
      ((activeOf splits).zip (shares.map Decimal.value))).2 = 0 :=
  Split.untaken_eq_zero (sub_nonneg.mpr hover) h.entries_nonneg h.overshoot_le

/-- The credits add up to the fee, or to the sum of the shares if that is less. -/
theorem credited_eq (h : Trimmed fee splits d e f shares) :
    d.credited = min f (shares.map Decimal.value).sum := by
  have hmin := sum_trimmed_eq_min h.entries_nonneg (by
    rw [h.map_snd_zip]
    exact h.overshoot_le)
  rwa [h.map_snd_zip, ← h.map_value_credits] at hmin

/-- What is credited is not below zero. -/
theorem credited_nonneg (h : Trimmed fee splits d e f shares) : 0 ≤ d.credited := by
  refine List.sum_nonneg fun q hq => ?_
  obtain ⟨c, hc, rfl⟩ := List.mem_map.mp hq
  exact h.credit_nonneg hc

theorem credited_le (h : Trimmed fee splits d e f shares) : d.credited ≤ f := by
  rw [h.credited_eq]
  exact min_le_left _ _

/-- What is credited lies on every grid that the fee and the shares lie on. -/
theorem credited_mem (h : Trimmed fee splits d e f shares) {G : AddSubgroup ℚ} (hf : f ∈ G)
    (hs : ∀ q ∈ shares.map Decimal.value, q ∈ G) : d.credited ∈ G := by
  refine list_sum_mem fun q hq => ?_
  obtain ⟨c, hc, rfl⟩ := List.mem_map.mp hq
  exact h.credit_mem hf hs hc

/-- The reported sum of the credits is returned and exact. -/
theorem distributed (h : Trimmed fee splits d e f shares) :
    ∃ total, d.distributed = .ok total ∧ total.HasValue d.credited := by
  have hgrid : ∀ q ∈ shares.map Decimal.value, q ∈ grid e :=
    fun q hq => (mem_value h.isShare q hq).1
  have hrun : ExactRun e 0 (d.credits.map (·.amount.value)) := by
    refine exactRun_of_mem h.least ?_ (h.credited_le.trans_lt h.fee_lt)
    intro q hq
    obtain ⟨c, hc, rfl⟩ := List.mem_map.mp hq
    exact ⟨h.credit_mem h.fee_mem hgrid hc, h.credit_nonneg hc⟩
  have hcredits := h.credits
  rw [← h.map_value_credits] at hcredits
  have hlim : 0 + (d.credits.map (·.amount.value)).sum < limit := by
    have hle : d.credited ≤ (shares.map Decimal.value).sum := by
      rw [h.credited_eq]
      exact min_le_right _ _
    rw [zero_add]
    exact hle.trans_lt h.sum_lt_limit
  exact sum_of_fits hcredits (hrun.runningTotals_fits hlim)

/-- The reported rest of the fee is returned and exact. -/
theorem undistributed (h : Trimmed fee splits d e f shares) :
    ∃ rest, d.undistributed = .ok rest ∧ rest.HasValue (f - d.credited) := by
  obtain ⟨total, htotal, hvalue⟩ := h.distributed
  have hle := h.credited_le
  have hnonneg := h.credited_nonneg
  have hgrid : f - d.credited ∈ grid e := sub_mem h.fee_mem
    (h.credited_mem h.fee_mem fun q hq => (mem_value h.isShare q hq).1)
  have hrep : Representable (f - d.credited) := by
    refine representable_of_mem_grid h.least hgrid ?_
    rw [abs_of_nonneg (sub_nonneg.mpr hle)]
    linarith [h.fee_lt]
  have hlim : |f - d.credited| < limit := by
    refine lt_of_le_of_lt ?_ h.overshoot_lt_limit
    rw [h.credited_eq, abs_sub_comm _ f]
    rcases le_total f (shares.map Decimal.value).sum with hmin | hmin
    · rw [min_eq_left hmin, sub_self, abs_zero]
      exact abs_nonneg _
    · rw [min_eq_right hmin]
  obtain ⟨rest, hrest⟩ := sub_ok h.fee_hasValue hvalue hrep hlim
  refine ⟨rest, ?_, sub_hasValue h.fee_hasValue hvalue hrep hrest⟩
  rw [Distribution.undistributed, htotal, ok_bind, h.total_eq, hrest]

end Trimmed

/-- Where no addition rounds and all amounts are whole minor units, so are the credits and what
is left of the fee, and together they are the fee. -/
theorem ExactAt.isUnits (hx : fee.ExactAt splits (-fee.currency.decimalPlaces))
    (h : fee.distribute splits charge date = .ok d) :
    d.total = fee.amount ∧ (∀ c ∈ d.credits, c.amount.IsUnits fee.currency.decimalPlaces) ∧
      ∃ rest, d.undistributed = .ok rest ∧ rest.IsUnits fee.currency.decimalPlaces ∧
        d.credited + rest.value = fee.amount.value := by
  obtain ⟨f, shares, ht⟩ := hx.trimmed h
  have hgrid : ∀ q ∈ shares.map Decimal.value, q ∈ grid (-fee.currency.decimalPlaces) :=
    fun q hq => (mem_value ht.isShare q hq).1
  obtain ⟨rest, hrest, hvalue⟩ := ht.undistributed
  refine ⟨ht.total_eq, ?_, rest, hrest, ?_, ?_⟩
  · intro c hc
    exact (ht.credit_hasValue hc).isUnits (ht.credit_nonneg hc) (ht.credit_mem ht.fee_mem hgrid hc)
  · exact hvalue.isUnits (sub_nonneg.mpr ht.credited_le)
      (sub_mem ht.fee_mem (ht.credited_mem ht.fee_mem hgrid))
  · rw [hvalue.value_eq, ht.fee_hasValue.value_eq, add_sub_cancel]

end Fee

end Passbook
