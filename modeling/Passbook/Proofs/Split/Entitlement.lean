import Passbook.Proofs.Decimal.Follows
import Passbook.Proofs.Split.Fewer

/-!
# What is distributed is close to the entitlement

Rounding moves each percentage share by at most half a minor unit, so the sum of all shares is off
what the splits are entitled to by at most half a minor unit for each of them. As the entitlement is
within the fee, an overshoot that is taken back brings the sum closer to it. This holds wherever no
operation of the distribution rounds to the context, also for the sum that the distribution reports,
which may itself be rounded where a cut share does not suit the places of the others.
-/

namespace Passbook

open Decimal

namespace Split

open Fee (activeOf)

/-- The share of a split in a fee of `f`, rounded to the minor unit alone. -/
def idealShare (s : Split) (f : ℚ) (places : Int) : ℚ :=
  if s.isPercentage then nearestMultiple (-places) (f * s.value.value / 100) else s.value.value

section
variable {s : Split} {splits : List Split} {fee p t c : Decimal} {f : ℚ} {places : Int}

/-- The ideal share of a value from zero up in a fee from zero up is not below zero. -/
theorem idealShare_nonneg (hf : 0 ≤ f) (hs : 0 ≤ s.value.value) : 0 ≤ s.idealShare f places := by
  unfold idealShare
  split
  · exact nearestMultiple_nonneg (by positivity) _
  · exact hs

/-- The shares are the rounded percentages and the flat amounts. -/
theorem sum_idealShare (splits : List Split) (f : ℚ) (places : Int) :
    (splits.map (·.idealShare f places)).sum =
      (((percentageValues splits).map Decimal.value).map fun p =>
        nearestMultiple (-places) (f * p / 100)).sum + flatTotal splits := by
  induction splits with
  | nil => simp [percentageValues, flatTotal, flatValues]
  | cons s rest ih =>
    rw [List.map_cons, List.sum_cons, ih, flatTotal, flatTotal, percentageValues_cons,
      flatValues_cons, idealShare]
    cases s.isPercentage with
    | true =>
      simp only [if_true, List.map_cons, List.sum_cons]
      ring
    | false =>
      simp only [Bool.false_eq_true, if_false, List.map_cons, List.sum_cons]
      ring

/-- The shares add up to the entitlement but for half a minor unit for each percentage. -/
theorem abs_sum_idealShare_sub_le (splits : List Split) (f : ℚ) (places : Int) :
    |(splits.map (·.idealShare f places)).sum - entitlement splits f| ≤
      splits.countP (·.isPercentage) * (10 ^ (-places) / 2) := by
  have hdrift := abs_sum_nearest_sub_le places f ((percentageValues splits).map Decimal.value)
  rw [List.length_map, percentageValues, List.length_map, ← List.countP_eq_length_filter] at hdrift
  rwa [sum_idealShare, entitlement, add_sub_add_right_eq_sub]

/-- What splits that a fee bears are entitled to is within the fee if the check does not round. -/
theorem Borne.entitledWithin (h : Borne fee (activeOf splits) p t c)
    (hexact : CheckSatisfies Representable splits fee.value) :
    EntitledWithin (activeOf splits) fee.value ∧
      Representable (entitlement (activeOf splits) fee.value) := by
  have hfinite : ∀ s ∈ activeOf splits, s.value.isFinite = true := fun s hs => (h.value s hs).1
  have hnonneg : ∀ s ∈ activeOf splits, 0 ≤ s.value.value := fun s hs => (h.value s hs).2
  obtain ⟨hpercentages, hflats, hcombined⟩ := hexact
  rw [countedOf_eq hnonneg] at hpercentages hflats hcombined
  have hp : p.HasValue (percentageTotal (activeOf splits)) :=
    sum_hasValue (forall₂_values hfinite (·.isPercentage)) hpercentages h.percentages
  have ht : t.HasValue (flatTotal (activeOf splits)) :=
    sum_hasValue (forall₂_values hfinite (·.isFlatAmount)) hflats h.flats
  have hhundred := h.percentage_le.le
  have hflat := h.flat_le.le
  rw [hp.value_eq, hasValue_hundred.value_eq] at hhundred
  rw [ht.value_eq] at hflat
  obtain ⟨hproduct, hshare, hsum⟩ := hcombined hhundred hflat
  have hc := Totals.combined_hasValue h.flat_le.hasValue_right hp ht h.combined
  rw [rounded_of_representable hproduct, rounded_of_representable hshare, ← entitlement,
    rounded_of_representable hsum] at hc
  have hle := h.combined_le.le
  rw [hc.value_eq] at hle
  exact ⟨⟨hnonneg, hhundred, hflat, hle⟩, hsum⟩

/-- A computed share is rounded to the minor unit alone if its product and hundredth are exact. -/
theorem share_hasValue_idealShare {amount : Decimal} (hplaces : places ≤ maxExponent)
    (hfee : fee.HasValue f) (hs : s.value.isFinite = true)
    (hparts : s.isPercentage = true →
      Representable (f * s.value.value) ∧ Representable (f * s.value.value / 100))
    (h : s.share fee places = .ok amount) : amount.HasValue (s.idealShare f places) := by
  unfold idealShare
  cases hp : s.isPercentage with
  | true =>
    obtain ⟨hproduct, hshare⟩ := hparts hp
    exact percentageOf_hasValue_nearest hplaces hfee (hasValue_value hs) hproduct hshare
      (share_percentage hp h)
  | false =>
    rw [if_neg (by simp), share_flat hp h]
    exact hasValue_value hs

end

section
variable {o t : ℚ} {entries : List (Split × ℚ)} {start : Decimal} {xs : List Decimal}

/-- The running total of trimmed shares follows that of the shares. It is the same up to the share
at which the overshoot is used up; after that one the others are left alone or gone. -/
theorem sumFrom_trimmed (hentries : ∀ entry ∈ entries, 0 ≤ entry.2) (ht : 0 ≤ t)
    (hs : start.HasValue t) (hr : RunningTotals Fits t (entries.map (·.2)))
    (hx : List.Forall₂ HasValue xs (trimmed o entries).1) :
    ∃ total r, sumFrom start xs = .ok total ∧ total.HasValue r ∧
      Follows r (t + (entries.map (·.2)).sum) (t + (trimmed o entries).1.sum) := by
  induction entries generalizing start xs t with
  | nil =>
    cases hx
    refine ⟨start, t, rfl, hs, ?_⟩
    have hstart := follows_rounded ht le_rfl hr.head.representable
    rw [rounded_of_representable hr.head.representable] at hstart
    simpa [trimmed] using hstart
  | cons entry rest ih =>
    obtain ⟨s, a⟩ := entry
    obtain ⟨ha, hrest⟩ := List.forall_mem_cons.mp hentries
    rw [List.map_cons] at hr ⊢
    rw [trimmed] at hx ⊢
    cases hx with
    | @cons x _ xs _ hfirst hlater =>
      rw [sumFrom_cons, List.sum_cons, List.sum_cons, ← add_assoc, ← add_assoc]
      by_cases hmore : 0 < (trimmed o rest).2
      · -- what the later shares cannot give is taken from this one
        have hcut : 0 ≤ a - s.given a (trimmed o rest).2 := sub_nonneg.mpr (given_le ha)
        have hless : a - s.given a (trimmed o rest).2 ≤ a := sub_le_self a (given_nonneg s a _)
        have hfollows := follows_rounded (add_nonneg ht hcut) (add_le_add_right hless t)
          hr.tail.head.representable
        obtain ⟨next, hnext, hvalue⟩ := hfollows.add hs hfirst hr.tail.head
        rw [hnext, ok_bind]
        refine hfollows.sumFrom hvalue hlater ?_ ?_ hr.tail
        · rw [trimmed_of_untaken_pos hrest hmore, List.forall₂_map_left_iff,
            List.forall₂_map_right_iff, List.forall₂_same]
          intro entry _
          split
          · exact .inl rfl
          · exact .inr rfl
        · intro b hb
          obtain ⟨entry, hentry, rfl⟩ := List.mem_map.mp hb
          exact hrest entry hentry
      · rw [given_of_nonpos (not_lt.mp hmore), sub_zero] at hfirst ⊢
        obtain ⟨next, hnext, hvalue⟩ := (add_rounds hs hfirst).hasValue_of_fits hr.tail.head
        rw [hnext, ok_bind]
        exact ih hrest (add_nonneg ht ha) hvalue hr.tail hlater

end

end Split

namespace Fee

open Split

/-- The shares of the active splits in the fee, rounded to the minor unit alone. -/
def idealShares (fee : Fee) (splits : List Split) : List ℚ :=
  (activeOf splits).map (·.idealShare fee.amount.value fee.currency.decimalPlaces)

/-- No operation of a distribution rounds: not those of the check, not the products and their
hundredths, not the total of the shares and what it exceeds the fee by, and none of those that take
this back. -/
structure DistributesExactly (fee : Fee) (splits : List Split) : Prop where
  check : CheckSatisfies Representable splits fee.amount.value
  parts : ∀ s ∈ activeOf splits, s.isPercentage = true →
    Representable (fee.amount.value * s.value.value) ∧
      Representable (fee.amount.value * s.value.value / 100)
  total : RunningTotals Representable 0 (fee.idealShares splits)
  overshoot : Representable ((fee.idealShares splits).sum - fee.amount.value)
  takeBack : TrimsExactly ((fee.idealShares splits).sum - fee.amount.value)
    ((activeOf splits).zip (fee.idealShares splits))

/-- A distribution on numbers: the fee, the ideal shares, and the credits that are left of them. -/
structure Settled (fee : Fee) (splits : List Split) (d : Distribution) : Prop where
  total_eq : d.total = fee.amount
  fee_hasValue : fee.amount.HasValue fee.amount.value
  within : EntitledWithin (activeOf splits) fee.amount.value
  entitlement_representable : Representable (entitlement (activeOf splits) fee.amount.value)
  shares_nonneg : ∀ q ∈ fee.idealShares splits, 0 ≤ q
  shares_fit : RunningTotals Fits 0 (fee.idealShares splits)
  overshoot_fits : Fits ((fee.idealShares splits).sum - fee.amount.value)
  credits : List.Forall₂ HasValue (d.credits.map (·.amount))
    (trimmed ((fee.idealShares splits).sum - fee.amount.value)
      ((activeOf splits).zip (fee.idealShares splits))).1

variable {fee : Fee} {splits : List Split} {charge : Option String} {date : Option Date}
  {d : Distribution}

/-- The computed shares are the ideal ones if no product and no hundredth is rounded. -/
theorem shares_hasValue_idealShares {shares : List Decimal}
    (hplaces : fee.currency.decimalPlaces ≤ maxExponent)
    (hfee : fee.amount.HasValue fee.amount.value)
    (hfinite : ∀ s ∈ activeOf splits, s.value.isFinite = true)
    (hparts : ∀ s ∈ activeOf splits, s.isPercentage = true →
      Representable (fee.amount.value * s.value.value) ∧
        Representable (fee.amount.value * s.value.value / 100))
    (h : Split.shares fee.amount fee.currency.decimalPlaces (activeOf splits) = .ok shares) :
    List.Forall₂ HasValue shares (fee.idealShares splits) := by
  have hall := (List.forall₂_and_left (p := (· ∈ activeOf splits)) _ _).mpr
    ⟨fun s hs => hs, shares_eq_ok h⟩
  rw [idealShares, List.forall₂_map_right_iff]
  refine (hall.imp ?_).flip
  rintro s amount ⟨hs, hshare⟩
  exact share_hasValue_idealShare hplaces hfee (hfinite s hs) (hparts s hs) hshare

/-- A distribution of which no operation rounds follows the numbers. -/
theorem DistributesExactly.settled (hexact : fee.DistributesExactly splits)
    (hplaces : fee.currency.decimalPlaces ≤ maxExponent)
    (h : fee.distribute splits charge date = .ok d) : Settled fee splits d := by
  obtain ⟨hvalid, shares, total, overshoot, left, untaken, hshares, htotal, hovershoot, htake,
    hdtotal, hcredits⟩ := distribute_eq_ok h
  obtain ⟨f, hf0, hf⟩ := (accepted (fun s hs => active_of_mem hs) hvalid hshares).fee_nonneg
  obtain rfl := hf.value_eq
  rw [validateTotals_activeOf] at hvalid
  obtain ⟨p, t, c, hborne⟩ := exists_borne hf hvalid
  obtain ⟨hwithin, hrepresentable⟩ := hborne.entitledWithin hexact.check
  have hsharesv := shares_hasValue_idealShares hplaces hf (fun s hs => (hborne.value s hs).1)
    hexact.parts hshares
  have hnonneg : ∀ q ∈ fee.idealShares splits, 0 ≤ q := by
    intro q hq
    obtain ⟨s, hs, rfl⟩ := List.mem_map.mp hq
    exact idealShare_nonneg hf0 (hwithin.nonneg s hs)
  have htotalv := sum_hasValue hsharesv hexact.total htotal
  have hovershootv := sub_hasValue htotalv hf hexact.overshoot hovershoot
  obtain ⟨hleft, -⟩ := takeBack_hasValue hovershootv hsharesv hnonneg hexact.takeBack htake
  have hlength : left.length = (activeOf splits).length := by
    rw [hleft.length_eq, length_trimmed, List.length_zip, idealShares, List.length_map, min_self]
  exact {
    total_eq := hdtotal
    fee_hasValue := hf
    within := hwithin
    entitlement_representable := hrepresentable
    shares_nonneg := hnonneg
    shares_fit := by
      refine hexact.total.fits le_rfl hnonneg ?_
      rw [zero_add]
      exact (le_abs_self _).trans_lt (abs_lt_limit_of_sumFrom hasValue_zero
        (by rw [abs_zero]; exact limit_pos) htotal htotalv)
    overshoot_fits := by
      refine ⟨hexact.overshoot, ?_⟩
      rw [sub_eq_add_neg] at hovershootv ⊢
      exact abs_lt_limit_of_add htotalv hf.opposite hovershootv hovershoot
    credits := by rwa [hcredits, map_amount_zip_credit hlength] }

namespace Settled

theorem map_snd_zip (fee : Fee) (splits : List Split) :
    ((activeOf splits).zip (fee.idealShares splits)).map (·.2) = fee.idealShares splits :=
  List.map_snd_zip (by simp [idealShares])

theorem entries_nonneg (h : Settled fee splits d) :
    ∀ entry ∈ (activeOf splits).zip (fee.idealShares splits), 0 ≤ entry.2 :=
  fun _ hentry => h.shares_nonneg _ (List.of_mem_zip hentry).2

/-- What is credited is what is left of the ideal shares. -/
theorem credited_eq_sum (h : Settled fee splits d) :
    d.credited = (trimmed ((fee.idealShares splits).sum - fee.amount.value)
      ((activeOf splits).zip (fee.idealShares splits))).1.sum := by
  rw [← map_value_eq_of_forall₂ h.credits, List.map_map]
  rfl

/-- The credits add up to the fee, or to the sum of the shares if that is less. -/
theorem credited_eq (h : Settled fee splits d) :
    d.credited = min fee.amount.value (fee.idealShares splits).sum := by
  have hflat : List.Forall₂ (fun s q => s.isPercentage = false → q = s.value.value)
      (activeOf splits) (fee.idealShares splits) := by
    rw [idealShares, List.forall₂_map_right_iff, List.forall₂_same]
    intro s _ hp
    rw [idealShare, if_neg (by simp [hp])]
  have hsum := sum_eq_of_flat hflat
  have hle : flatTotal (activeOf splits) ≤ fee.amount.value := h.within.flat_le
  rw [flatTotal] at hle
  have hmin := sum_trimmed_eq_min h.entries_nonneg (f := fee.amount.value) (by
    rw [map_snd_zip]
    linarith)
  rwa [map_snd_zip, ← h.credited_eq_sum] at hmin

/-- The reported sum of the credits is returned and follows the sum of the shares. -/
theorem distributed (h : Settled fee splits d) :
    ∃ paid, d.distributed = .ok paid ∧ paid.isFinite = true ∧
      Follows paid.value (fee.idealShares splits).sum d.credited := by
  have hfits := h.shares_fit
  rw [← map_snd_zip fee splits] at hfits
  obtain ⟨paid, r, hpaid, hr, hfollows⟩ :=
    sumFrom_trimmed h.entries_nonneg le_rfl hasValue_zero hfits h.credits
  rw [zero_add, zero_add, map_snd_zip, ← h.credited_eq_sum, ← hr.value_eq] at hfollows
  exact ⟨paid, hpaid, hr.isFinite, hfollows⟩

/-- A total that follows the shares is their sum, or lies between the entitlement and their sum. -/
theorem abs_follows_sub_le {paid : ℚ} (h : Settled fee splits d)
    (hfollows : Follows paid (fee.idealShares splits).sum d.credited) :
    |paid - entitlement (activeOf splits) fee.amount.value| ≤
      |(fee.idealShares splits).sum - entitlement (activeOf splits) fee.amount.value| := by
  have hcredited := h.credited_eq
  have hentitled := h.within.entitlement_le
  rcases le_total (fee.idealShares splits).sum fee.amount.value with hwithin | hover
  · -- nothing is taken back, and the sum of the shares is itself representable
    rw [min_eq_right hwithin] at hcredited
    have hsum := h.shares_fit.last.representable
    rw [zero_add] at hsum
    rw [le_antisymm hfollows.le (hfollows.covers _ hsum hcredited.ge)]
  · -- the fee is paid out, and the entitlement is a representable number within it
    rw [min_eq_left hover] at hcredited
    have hlow := hfollows.covers _ h.entitlement_representable (hentitled.trans hcredited.ge)
    exact Set.abs_sub_left_of_mem_uIcc (Set.mem_uIcc_of_le hlow hfollows.le)

/-- So is the exact sum of the credits. -/
theorem abs_credited_sub_le (h : Settled fee splits d) :
    |d.credited - entitlement (activeOf splits) fee.amount.value| ≤
      |(fee.idealShares splits).sum - entitlement (activeOf splits) fee.amount.value| := by
  rw [h.credited_eq]
  rcases le_total (fee.idealShares splits).sum fee.amount.value with hwithin | hover
  · rw [min_eq_right hwithin]
  · rw [min_eq_left hover]
    exact Set.abs_sub_left_of_mem_uIcc (Set.mem_uIcc_of_le h.within.entitlement_le hover)

/-- Where the splits are entitled to all of the fee, what is reported as undistributed is returned
and at most what the sum of the shares is off the fee by. -/
theorem undistributed_le (h : Settled fee splits d)
    (hall : entitlement (activeOf splits) fee.amount.value = fee.amount.value) :
    ∃ rest, d.undistributed = .ok rest ∧ rest.isFinite = true ∧
      rest.value ≤ |(fee.idealShares splits).sum - fee.amount.value| := by
  obtain ⟨paid, hpaid, hfinite, hfollows⟩ := h.distributed
  have hclose := h.abs_follows_sub_le hfollows
  rw [hall, abs_sub_comm paid.value] at hclose
  have hsmall : |rounded (fee.amount.value - paid.value)| ≤
      |(fee.idealShares splits).sum - fee.amount.value| := by
    have hmono := rounded_mono hclose
    rwa [← abs_rounded, ← abs_rounded,
      rounded_of_representable h.overshoot_fits.representable] at hmono
  obtain ⟨rest, hrest, hvalue⟩ := (sub_rounds h.fee_hasValue (hasValue_value hfinite)).returns
    (hsmall.trans_lt h.overshoot_fits.lt_limit)
  refine ⟨rest, ?_, hvalue.isFinite, ?_⟩
  · rw [Distribution.undistributed, hpaid, ok_bind, h.total_eq, hrest]
  · rw [hvalue.value_eq]
    exact (le_abs_self _).trans hsmall

end Settled

/-- Percentages of one hundred in total and no flat amounts are entitled to all of the fee. -/
theorem entitlement_eq_of_hundred {active : List Split} {f : ℚ} (h : percentageTotal active = 100)
    (hflat : ∀ s ∈ active, s.isPercentage = true) : entitlement active f = f := by
  have hnone : flatValues active = [] := by
    rw [flatValues, List.map_eq_nil_iff, List.filter_eq_nil_iff]
    intro s hs
    simp [isFlatAmount_eq_not, hflat s hs]
  rw [entitlement, h, flatTotal, hnone, mul_div_cancel_right₀ _ (by norm_num), List.map_nil,
    List.sum_nil, add_zero]

/-- What a distribution of which no operation rounds reports as distributed, and what its credits
come to exactly, is off the entitlement of the splits by at most half a minor unit for each active
percentage. If the percentages come to one hundred and nothing is flat, at most this much of the fee
is left. -/
theorem distribute_near_entitlement (fee : Fee) (splits : List Split) (charge : Option String)
    (date : Option Date) (d : Distribution) (hplaces : fee.currency.decimalPlaces ≤ maxExponent)
    (hexact : fee.DistributesExactly splits) (h : fee.distribute splits charge date = .ok d) :
    (∃ paid, d.distributed = .ok paid ∧ paid.isFinite = true ∧
      |paid.value - entitlement (activeOf splits) fee.amount.value| ≤
        (activeOf splits).countP (·.isPercentage) * (10 ^ (-fee.currency.decimalPlaces) / 2)) ∧
    |d.credited - entitlement (activeOf splits) fee.amount.value| ≤
      (activeOf splits).countP (·.isPercentage) * (10 ^ (-fee.currency.decimalPlaces) / 2) ∧
    (percentageTotal (activeOf splits) = 100 →
      (∀ s ∈ activeOf splits, s.isPercentage = true) →
      ∃ rest, d.undistributed = .ok rest ∧ rest.isFinite = true ∧ rest.value ≤
        (activeOf splits).countP (·.isPercentage) * (10 ^ (-fee.currency.decimalPlaces) / 2)) := by
  have hsettled := hexact.settled hplaces h
  have hrounded := abs_sum_idealShare_sub_le (activeOf splits) fee.amount.value
    fee.currency.decimalPlaces
  refine ⟨?_, hsettled.abs_credited_sub_le.trans hrounded, fun hhundred hflat => ?_⟩
  · obtain ⟨paid, hpaid, hfinite, hfollows⟩ := hsettled.distributed
    exact ⟨paid, hpaid, hfinite, (hsettled.abs_follows_sub_le hfollows).trans hrounded⟩
  · have hall := entitlement_eq_of_hundred (f := fee.amount.value) hhundred hflat
    obtain ⟨rest, hrest, hfinite, hle⟩ := hsettled.undistributed_le hall
    rw [hall] at hrounded
    exact ⟨rest, hrest, hfinite, hle.trans hrounded⟩

/-- Two halves. -/
def halves : List Split :=
  [⟨"a", .percentage, 50, true, none⟩, ⟨"b", .percentage, 50, true, none⟩]

/-- No operation rounds that distributes five cents over two halves. -/
theorem fiveCents_exact : fiveCents.amount.value = 5 / 100 ∧ fiveCents.DistributesExactly halves := by
  have h50 : (50 : Decimal).value = 50 := (hasValue_ofNat 50).value_eq
  have hfee : fiveCents.amount.value = 5 / 100 := by norm_num [fiveCents, zpow_neg]
  have hactive : activeOf halves = halves := rfl
  have hcounted : countedOf halves = halves := by
    refine countedOf_eq fun s hs => ?_
    fin_cases hs <;> norm_num [h50]
  have hpercentages : (percentageValues halves).map Decimal.value = [50, 50] := by
    simp [halves, percentageValues, isPercentage, h50]
  have hflats : flatValues halves = [] := rfl
  have hshares : fiveCents.idealShares halves = [3 / 100, 3 / 100] := by
    rw [idealShares, hactive]
    norm_num [halves, idealShare, isPercentage, h50, hfee, fiveCents, nearestMultiple, nearestInt]
  have hrep : ∀ (n : Nat) (q : ℚ), n < 10 ^ precision → (n : ℚ) / 10 ^ 3 = q → Representable q := by
    rintro n q hn rfl
    exact (fits_natCast_div 3 hn (by decide)).representable
  have hzero := hrep 0 0 (by decide) (by norm_num)
  refine ⟨hfee, {
    check := ?_
    parts := ?_
    total := ?_
    overshoot := ?_
    takeBack := ?_ }⟩
  · refine ⟨?_, ?_, fun _ _ => ?_⟩
    · rw [hcounted, hpercentages]
      norm_num
      exact ⟨hzero, hrep 50000 _ (by decide) (by norm_num), hrep 100000 _ (by decide) (by norm_num)⟩
    · rw [hcounted, hflats]
      simpa using hzero
    · rw [hcounted, entitlement, percentageTotal, flatTotal, hpercentages, hflats, hfee]
      norm_num
      exact ⟨hrep 5000 _ (by decide) (by norm_num), hrep 50 _ (by decide) (by norm_num)⟩
  · intro s hs _
    have hvalue : s.value.value = 50 := by fin_cases hs <;> exact h50
    rw [hfee, hvalue]
    norm_num
    exact ⟨hrep 2500 _ (by decide) (by norm_num), hrep 25 _ (by decide) (by norm_num)⟩
  · rw [hshares]
    norm_num
    exact ⟨hzero, hrep 30 _ (by decide) (by norm_num), hrep 60 _ (by decide) (by norm_num)⟩
  · rw [hshares, hfee]
    norm_num
    exact hrep 10 _ (by decide) (by norm_num)
  · rw [hactive, hshares, hfee]
    norm_num [halves, TrimsExactly, trimmed, given, isPercentage]
    exact ⟨hrep 20 _ (by decide) (by norm_num), hzero⟩

/-- The halves of five cents round up to six cents, and the second one gives the sixth back. What is
distributed is within a cent of the five cents, and no more than a cent of them is left. -/
theorem halves_of_fiveCents :
    ∃ d paid rest, fiveCents.distribute halves = .ok d ∧
      d.credits.map (·.amount) = [.finite ⟨false, 3, -2⟩, .finite ⟨false, 2, -2⟩] ∧
      d.distributed = .ok paid ∧ |paid.value - 5 / 100| ≤ 1 / 100 ∧
      d.undistributed = .ok rest ∧ rest.value ≤ 1 / 100 := by
  obtain ⟨d, hd, hamounts⟩ : ∃ d, fiveCents.distribute halves = .ok d ∧
      d.credits.map (·.amount) = [.finite ⟨false, 3, -2⟩, .finite ⟨false, 2, -2⟩] := ⟨_, rfl, rfl⟩
  have h50 : (50 : Decimal).value = 50 := (hasValue_ofNat 50).value_eq
  have hhundred : percentageTotal (activeOf halves) = 100 := by
    norm_num [activeOf, halves, percentageTotal, percentageValues, isPercentage, h50]
  have hall : ∀ s ∈ activeOf halves, s.isPercentage = true := by decide
  obtain ⟨hfee, hexact⟩ := fiveCents_exact
  obtain ⟨⟨paid, hpaid, -, hnear⟩, -, hleft⟩ :=
    distribute_near_entitlement fiveCents halves none none d (by decide) hexact hd
  obtain ⟨rest, hrest, -, hle⟩ := hleft hhundred hall
  rw [entitlement_eq_of_hundred hhundred hall, hfee] at hnear
  have hbound : ((activeOf halves).countP (·.isPercentage) : ℚ) *
      (10 ^ (-fiveCents.currency.decimalPlaces) / 2) = 1 / 100 := by
    have hcount : (activeOf halves).countP (·.isPercentage) = 2 := rfl
    have hplaces : fiveCents.currency.decimalPlaces = 2 := rfl
    rw [hcount, hplaces]
    norm_num
  rw [hbound] at hnear hle
  exact ⟨d, paid, rest, hd, hamounts, hpaid, hnear, hrest, hle⟩

end Fee

end Passbook
