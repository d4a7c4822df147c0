import Passbook.Proofs.Split.WithinFee

/-!
# What is found against a list of splits

A list of splits with finite values is reported on in full: one finding for each negative active
split, in order, and after them at most one about the percentages and one about the amounts, of
the splits that count. As long as the check does not round, nothing is found exactly if no active
value is negative and what the splits are entitled to in exact arithmetic fits the fee, whatever
their order. A fee is not distributed exactly if something is found, and the distribution then
carries all of it.
-/

namespace Passbook

open Decimal

namespace Split

open Fee (activeOf)

/-- The active splits with a negative value. -/
def negativeOf (splits : List Split) : List Split :=
  (activeOf splits).filter fun s => s.value.value < 0

/-- The active splits that count towards the totals. -/
def countedOf (splits : List Split) : List Split :=
  (activeOf splits).filter fun s => 0 ≤ s.value.value

/-- The percentages of a list add up to this much, exactly. -/
def percentageTotal (splits : List Split) : ℚ := ((percentageValues splits).map Decimal.value).sum

/-- The flat amounts of a list add up to this much, exactly. -/
def flatTotal (splits : List Split) : ℚ := ((flatValues splits).map Decimal.value).sum

/-- What the splits of a list are entitled to in a fee of `f`. -/
def entitlement (splits : List Split) (f : ℚ) : ℚ :=
  f * percentageTotal splits / 100 + flatTotal splits

/-- Every number that a check against a fee of `f` computes satisfies the condition: the running
totals of both kinds and, where both totals are within their bounds, the product of the fee and
the percentages, its hundredth, and the sum with the flat amounts. -/
structure CheckSatisfies (P : ℚ → Prop) (splits : List Split) (f : ℚ) : Prop where
  percentages : RunningTotals P 0 ((percentageValues (countedOf splits)).map Decimal.value)
  flats : RunningTotals P 0 ((flatValues (countedOf splits)).map Decimal.value)
  combined : percentageTotal (countedOf splits) ≤ 100 → flatTotal (countedOf splits) ≤ f →
    P (f * percentageTotal (countedOf splits)) ∧
      P (f * percentageTotal (countedOf splits) / 100) ∧ P (entitlement (countedOf splits) f)

/-- What is found about a list with the totals `p` and `t` against a fee of `f`: that the
percentages exceed one hundred, and that the flat amounts exceed the fee or, if they do not, that
both parts together do. -/
def totalFindings (p t : Decimal) (splits : List Split) (f : ℚ) : List Finding :=
  (if 100 < percentageTotal splits then [.percentageExceedsHundred p] else []) ++
    if f < flatTotal splits then [.flatExceedsFee t]
    else if percentageTotal splits ≤ 100 ∧ f < entitlement splits f then [.combinedExceedsFee t]
    else []

/-- The splits have values from zero up, and what they are entitled to is within a fee of `f`: the
percentages, the flat amounts and both parts together. -/
structure EntitledWithin (splits : List Split) (f : ℚ) : Prop where
  nonneg : ∀ s ∈ splits, 0 ≤ s.value.value
  percentage_le : percentageTotal splits ≤ 100
  flat_le : flatTotal splits ≤ f
  entitlement_le : entitlement splits f ≤ f

section
variable {s : Split} {splits other : List Split} {totals : Totals} {fee p t : Decimal}
  {f P T C : ℚ}

theorem Totals.add_of_inactive (h : s.active = false) : totals.add s = .ok totals := by
  simp [Totals.add, h, pure, Except.pure]

theorem Totals.add_of_negative (h : s.active = true) (hs : s.value.lt 0 = .ok true) :
    totals.add s = .ok { totals with negative := totals.negative ++ [.negativeValue s] } := by
  simp [Totals.add, h, hs, pure, Except.pure]

/-- A split that counts is added to the total of its kind. -/
theorem Totals.add_of_counted (h : s.active = true) (hs : s.value.lt 0 = .ok false) :
    totals.add s =
      if s.isPercentage = true then
        totals.percentage.add s.value >>= fun percentage => .ok { totals with percentage }
      else totals.flat.add s.value >>= fun flat => .ok { totals with flat } := by
  simp [Totals.add, h, hs, pure, Except.pure]

theorem activeOf_cons_of_active (h : s.active = true) :
    activeOf (s :: splits) = s :: activeOf splits :=
  List.filter_cons_of_pos h

theorem activeOf_cons_of_inactive (h : s.active = false) :
    activeOf (s :: splits) = activeOf splits :=
  List.filter_cons_of_neg (by simp [h])

/-- Counting goes over inactive splits. -/
theorem Totals.addAll_activeOf (totals : Totals) (splits : List Split) :
    totals.addAll (activeOf splits) = totals.addAll splits := by
  induction splits generalizing totals with
  | nil => rfl
  | cons s rest ih =>
    cases h : s.active with
    | true =>
      rw [activeOf_cons_of_active h, Totals.addAll_cons, Totals.addAll_cons]
      exact bind_congr fun next => ih next
    | false =>
      rw [activeOf_cons_of_inactive h, ih, Totals.addAll_cons, Totals.add_of_inactive h, ok_bind]

/-- What is found depends on the active splits alone. -/
theorem validateTotals_congr (h : activeOf other = activeOf splits) (fee : Decimal) :
    validateTotals other fee = validateTotals splits fee := by
  rw [validateTotals, totalsOf, ← Totals.addAll_activeOf, h, Totals.addAll_activeOf]
  rfl

/-- The first value is among the percentages if its split is a percentage. -/
theorem percentageValues_cons (s : Split) (rest : List Split) :
    percentageValues (s :: rest) =
      if s.isPercentage = true then s.value :: percentageValues rest
      else percentageValues rest := by
  unfold percentageValues
  split <;> rename_i h <;> simp [h]

/-- The first value is among the flat amounts if its split is no percentage. -/
theorem flatValues_cons (s : Split) (rest : List Split) :
    flatValues (s :: rest) =
      if s.isPercentage = true then flatValues rest else s.value :: flatValues rest := by
  unfold flatValues
  split <;> rename_i h <;> simp [isFlatAmount_eq_not, h]

/-- Only the active splits are checked. -/
theorem validateTotals_activeOf (splits : List Split) (fee : Decimal) :
    validateTotals (activeOf splits) fee = validateTotals splits fee :=
  validateTotals_congr (by simp [activeOf]) fee

/-- The totals of active splits are the totals of the values from zero up, of each kind, and a
finding for each negative one. -/
theorem Totals.addAll_of_sums (totals : Totals) (hactive : ∀ s ∈ splits, s.active = true)
    (hfinite : ∀ s ∈ splits, s.value.isFinite = true)
    (hp : sumFrom totals.percentage
      (percentageValues (splits.filter fun s => 0 ≤ s.value.value)) = .ok p)
    (ht : sumFrom totals.flat (flatValues (splits.filter fun s => 0 ≤ s.value.value)) = .ok t) :
    totals.addAll splits = .ok ⟨p, t, totals.negative ++
      (splits.filter fun s => s.value.value < 0).map .negativeValue⟩ := by
  induction splits generalizing totals with
  | nil =>
    obtain rfl := Except.ok.inj hp
    obtain rfl := Except.ok.inj ht
    simp [Totals.addAll]
  | cons s rest ih =>
    obtain ⟨hs, hactive⟩ := List.forall_mem_cons.mp hactive
    obtain ⟨hvalue, hfinite⟩ := List.forall_mem_cons.mp hfinite
    have hlt := lt_eq (hasValue_value hvalue) hasValue_zero
    rw [Totals.addAll_cons]
    by_cases hneg : s.value.value < 0
    · rw [List.filter_cons_of_neg (by simpa using hneg)] at hp ht
      rw [decide_eq_true hneg] at hlt
      have hnext := ih { totals with negative := totals.negative ++ [.negativeValue s] }
        hactive hfinite hp ht
      rw [Totals.add_of_negative hs hlt, ok_bind, hnext,
        List.filter_cons_of_pos (by simpa using hneg), List.map_cons, List.append_assoc,
        List.singleton_append]
    · rw [List.filter_cons_of_pos (by simpa using hneg)] at hp ht
      rw [percentageValues_cons] at hp
      rw [flatValues_cons] at ht
      rw [decide_eq_false hneg] at hlt
      rw [Totals.add_of_counted hs hlt, List.filter_cons_of_neg (by simpa using hneg)]
      cases hkind : s.isPercentage with
      | true =>
        rw [if_pos hkind] at hp ht
        obtain ⟨next, hnext, hp⟩ := bind_eq_ok_iff.mp hp
        rw [if_pos rfl, hnext, ok_bind, ok_bind]
        exact ih { totals with percentage := next } hactive hfinite hp ht
      | false =>
        rw [if_neg (by simp [hkind])] at hp ht
        obtain ⟨next, hnext, ht⟩ := bind_eq_ok_iff.mp ht
        rw [if_neg (by simp), hnext, ok_bind, ok_bind]
        exact ih { totals with flat := next } hactive hfinite hp ht

/-- The finding about the percentages. -/
theorem Totals.percentageFindings_eq (hp : totals.percentage.HasValue P) :
    totals.percentageFindings =
      .ok (if 100 < P then [.percentageExceedsHundred totals.percentage] else []) := by
  rw [Totals.percentageFindings, lt_eq hasValue_hundred hp, ok_bind]
  by_cases h : 100 < P <;> simp [h, pure, Except.pure]

/-- The finding about the amounts, where both parts together come to `C`. -/
theorem Totals.amountFindings_eq (hfee : fee.HasValue f) (hp : totals.percentage.HasValue P)
    (ht : totals.flat.HasValue T)
    (hc : P ≤ 100 → T ≤ f → ∃ c, totals.combined fee = .ok c ∧ c.HasValue C) :
    totals.amountFindings fee =
      .ok (if f < T then [.flatExceedsFee totals.flat]
        else if P ≤ 100 ∧ f < C then [.combinedExceedsFee totals.flat] else []) := by
  rw [Totals.amountFindings, lt_eq hfee ht, ok_bind]
  by_cases hflat : f < T
  · simp [hflat, pure, Except.pure]
  · rw [if_neg hflat, decide_eq_false hflat, if_neg (by simp), Totals.combinedExceeds,
      le_eq hp hasValue_hundred, ok_bind]
    by_cases hhundred : P ≤ 100
    · obtain ⟨c, hcombined, hvalue⟩ := hc hhundred (not_lt.mp hflat)
      rw [decide_eq_true hhundred, if_pos rfl, hcombined, ok_bind, lt_eq hfee hvalue, ok_bind]
      by_cases hover : f < C <;> simp [hhundred, hover, pure, Except.pure]
    · simp [hhundred, pure, Except.pure]

/-- The values of one kind stand for numbers if all values do. -/
theorem forall₂_values (hfinite : ∀ s ∈ splits, s.value.isFinite = true) (kind : Split → Bool) :
    List.Forall₂ HasValue ((splits.filter kind).map (·.value))
      (((splits.filter kind).map (·.value)).map Decimal.value) := by
  refine forall₂_hasValue_map fun x hx => ?_
  obtain ⟨s, hs, rfl⟩ := List.mem_map.mp hx
  exact hasValue_value (hfinite s (List.mem_filter.mp hs).1)

/-- The totals of a check that fits are returned and exact. -/
theorem CheckSatisfies.sums (hexact : CheckSatisfies Fits splits f)
    (hfinite : ∀ s ∈ activeOf splits, s.value.isFinite = true) :
    ∃ p t, Decimal.sum (percentageValues (countedOf splits)) = .ok p ∧
      Decimal.sum (flatValues (countedOf splits)) = .ok t ∧
      p.HasValue (percentageTotal (countedOf splits)) ∧
      t.HasValue (flatTotal (countedOf splits)) := by
  have hcounted : ∀ s ∈ countedOf splits, s.value.isFinite = true :=
    fun s hs => hfinite s (List.mem_filter.mp hs).1
  obtain ⟨p, hp, hpv⟩ := sum_of_fits (forall₂_values hcounted (·.isPercentage)) hexact.percentages
  obtain ⟨t, ht, htv⟩ := sum_of_fits (forall₂_values hcounted (·.isFlatAmount)) hexact.flats
  exact ⟨p, t, hp, ht, hpv, htv⟩

/-- What both parts together take from a fee is rounded after each of the three operations. -/
theorem Totals.combined_hasValue {c : Decimal} (hfee : fee.HasValue f)
    (hp : totals.percentage.HasValue P) (ht : totals.flat.HasValue T)
    (h : totals.combined fee = .ok c) :
    c.HasValue (rounded (rounded (rounded (f * P) / 100) + T)) := by
  obtain ⟨product, hproduct, h⟩ := bind_eq_ok_iff.mp h
  obtain ⟨share, hshare, hsum⟩ := bind_eq_ok_iff.mp h
  have hproductv := (mul_rounds hfee hp).hasValue hproduct
  have hsharev := (hundredth_rounds hproductv).hasValue hshare
  exact (add_rounds hsharev ht).hasValue hsum

/-- What both parts together take from a fee, if nothing is rounded on the way. -/
theorem Totals.combined_of_fits (hfee : fee.HasValue f) (hp : totals.percentage.HasValue P)
    (ht : totals.flat.HasValue T) (hproduct : Fits (f * P)) (hshare : Fits (f * P / 100))
    (hsum : Fits (f * P / 100 + T)) :
    ∃ c, totals.combined fee = .ok c ∧ c.HasValue (f * P / 100 + T) := by
  obtain ⟨product, h₁, hv₁⟩ := (mul_rounds hfee hp).hasValue_of_fits hproduct
  obtain ⟨share, h₂, hv₂⟩ := (hundredth_rounds hv₁).hasValue_of_fits hshare
  obtain ⟨c, h₃, hv₃⟩ := (add_rounds hv₂ ht).hasValue_of_fits hsum
  exact ⟨c, by rw [Totals.combined, h₁, ok_bind, h₂, ok_bind, h₃], hv₃⟩

/-- A check reports all negative splits and what there is about the totals of the others, whatever
numbers these and both parts together are rounded to. -/
theorem validateTotals_of_totals (hfee : fee.HasValue f)
    (hfinite : ∀ s ∈ activeOf splits, s.value.isFinite = true)
    (hp : Decimal.sum (percentageValues (countedOf splits)) = .ok p) (hpv : p.HasValue P)
    (ht : Decimal.sum (flatValues (countedOf splits)) = .ok t) (htv : t.HasValue T)
    (hc : P ≤ 100 → T ≤ f → ∃ c, Totals.combined ⟨p, t, []⟩ fee = .ok c ∧ c.HasValue C) :
    validateTotals splits fee = .ok ((negativeOf splits).map .negativeValue ++
      ((if 100 < P then [.percentageExceedsHundred p] else []) ++
        if f < T then [.flatExceedsFee t]
        else if P ≤ 100 ∧ f < C then [.combinedExceedsFee t] else [])) := by
  have htotals := Totals.addAll_of_sums .empty (fun s hs => Fee.active_of_mem hs) hfinite hp ht
  rw [Totals.addAll_activeOf] at htotals
  rw [validateTotals, totalsOf, htotals, ok_bind, Totals.percentageFindings_eq hpv, ok_bind,
    Totals.amountFindings_eq hfee hpv htv, ok_bind, List.append_assoc]
  · rfl
  · exact hc

/-- A check that does not round finds what the exact totals say. -/
theorem validateTotals_eq (hfee : fee.HasValue f)
    (hfinite : ∀ s ∈ activeOf splits, s.value.isFinite = true)
    (hexact : CheckSatisfies Fits splits f) :
    ∃ p t : Decimal, p.HasValue (percentageTotal (countedOf splits)) ∧
      t.HasValue (flatTotal (countedOf splits)) ∧
      validateTotals splits fee = .ok ((negativeOf splits).map .negativeValue ++
        totalFindings p t (countedOf splits) f) := by
  obtain ⟨p, t, hp, ht, hpv, htv⟩ := hexact.sums hfinite
  refine ⟨p, t, hpv, htv, validateTotals_of_totals hfee hfinite hp hpv ht htv ?_⟩
  intro hhundred hflat
  obtain ⟨hproduct, hshare, hsum⟩ := hexact.combined hhundred hflat
  exact Totals.combined_of_fits hfee hpv htv hproduct hshare hsum

/-- Nothing is found about the totals exactly if all of them are within their bounds. -/
theorem totalFindings_eq_nil_iff :
    totalFindings p t splits f = [] ↔
      percentageTotal splits ≤ 100 ∧ flatTotal splits ≤ f ∧ entitlement splits f ≤ f := by
  unfold totalFindings
  split_ifs <;> simp_all

theorem negativeOf_eq_nil_iff :
    negativeOf splits = [] ↔ ∀ s ∈ activeOf splits, 0 ≤ s.value.value := by
  simp [negativeOf, List.filter_eq_nil_iff]

/-- Without a negative value all active splits count. -/
theorem countedOf_eq (h : ∀ s ∈ activeOf splits, 0 ≤ s.value.value) :
    countedOf splits = activeOf splits :=
  List.filter_eq_self.mpr fun s hs => by simpa using h s hs

/-- Nothing is found exactly if the active splits are entitled to no more than the fee. -/
theorem findings_eq_nil_iff :
    (negativeOf splits).map .negativeValue ++ totalFindings p t (countedOf splits) f = [] ↔
      EntitledWithin (activeOf splits) f := by
  rw [List.append_eq_nil_iff, List.map_eq_nil_iff, negativeOf_eq_nil_iff, totalFindings_eq_nil_iff]
  constructor
  · rintro ⟨hnonneg, hrest⟩
    rw [countedOf_eq hnonneg] at hrest
    obtain ⟨hpercentage, hflat, hcombined⟩ := hrest
    exact ⟨hnonneg, hpercentage, hflat, hcombined⟩
  · intro h
    rw [countedOf_eq h.nonneg]
    exact ⟨h.nonneg, h.percentage_le, h.flat_le, h.entitlement_le⟩

theorem percentageTotal_perm (h : other.Perm splits) :
    percentageTotal other = percentageTotal splits :=
  (((h.filter _).map _).map _).sum_eq

theorem flatTotal_perm (h : other.Perm splits) : flatTotal other = flatTotal splits :=
  (((h.filter _).map _).map _).sum_eq

/-- The order of the splits does not matter to what they are entitled to. -/
theorem EntitledWithin.perm (h : EntitledWithin splits f) (hperm : other.Perm splits) :
    EntitledWithin other f where
  nonneg s hs := h.nonneg s (hperm.mem_iff.mp hs)
  percentage_le := by
    rw [percentageTotal_perm hperm]
    exact h.percentage_le
  flat_le := by
    rw [flatTotal_perm hperm]
    exact h.flat_le
  entitlement_le := by
    rw [entitlement, percentageTotal_perm hperm, flatTotal_perm hperm]
    exact h.entitlement_le

/-- One flat amount is within the fee if all together are. -/
theorem EntitledWithin.value_le (h : EntitledWithin splits f) (hs : s ∈ splits)
    (hflat : s.isPercentage = false) : s.value.value ≤ f := by
  have hmem : s.value.value ∈ (flatValues splits).map Decimal.value := by
    refine List.mem_map_of_mem (Fee.mem_flatValues hs ?_)
    rw [isFlatAmount_eq_not, hflat, Bool.not_false]
  refine (List.single_le_sum ?_ _ hmem).trans h.flat_le
  intro q hq
  obtain ⟨x, hx, rfl⟩ := List.mem_map.mp hq
  obtain ⟨t, ht, rfl⟩ := List.mem_map.mp hx
  exact h.nonneg t (List.mem_filter.mp ht).1

/-- There are at most two findings about the totals. -/
theorem length_totalFindings_le (p t : Decimal) (splits : List Split) (f : ℚ) :
    (totalFindings p t splits f).length ≤ 2 := by
  unfold totalFindings
  split_ifs <;> simp

/-- The flat amounts and both parts together are not both found to exceed the fee. -/
theorem not_flat_and_combined {splits : List Split} {found : List Finding}
    (hfound : found = (negativeOf splits).map .negativeValue ++
      totalFindings p t (countedOf splits) f) (x y : Decimal) :
    ¬(.flatExceedsFee x ∈ found ∧ .combinedExceedsFee y ∈ found) := by
  subst hfound
  unfold totalFindings
  split_ifs <;> simp

/-- The only errors are those of decimal arithmetic. -/
def OnlyArithmetic {α : Type} (x : Except Error α) : Prop :=
  FailsWith (fun e => ∃ fault, e = .arithmetic fault) x

theorem onlyArithmetic_liftM {α : Type} (x : Except Fault α) :
    OnlyArithmetic (liftM x : Except Error α) :=
  .liftM fun fault => ⟨fault, rfl⟩

/-- No flat amount within the fee is refused as a share. -/
theorem share_onlyArithmetic {places : Int}
    (h : s.isPercentage = false → fee.lt s.value ≠ .ok true) :
    OnlyArithmetic (s.share fee places) := by
  rw [share]
  cases hkind : s.isPercentage with
  | true => exact onlyArithmetic_liftM _
  | false =>
    refine (onlyArithmetic_liftM _).bind fun exceeds hexceeds => ?_
    cases exceeds with
    | true => exact absurd (liftM_eq_ok_iff.mp hexceeds) (h hkind)
    | false => exact .pure _

/-- If no flat amount exceeds the fee, computing the shares fails only with a fault. -/
theorem shares_onlyArithmetic {places : Int}
    (h : ∀ s ∈ splits, s.isPercentage = false → fee.lt s.value ≠ .ok true) :
    OnlyArithmetic (shares fee places splits) := by
  induction splits with
  | nil => exact .pure _
  | cons s rest ih =>
    obtain ⟨hs, hrest⟩ := List.forall_mem_cons.mp h
    exact (share_onlyArithmetic hs).bind fun _ _ => (ih hrest).bind fun _ _ => .pure _

end

end Split

namespace Fee

open Split

variable {fee : Fee} {splits : List Split} {found : List Finding} (charge : Option String)
  (date : Option Date)

/-- A fee is not distributed if something is found. -/
theorem distribute_of_findings (h : validateTotals splits fee.amount = .ok found)
    (hfound : found ≠ []) :
    fee.distribute splits charge date = .error (.invalidSplits found) := by
  have hactive : validateTotals (splits.filter (·.active)) fee.amount = .ok found :=
    (validateTotals_activeOf splits fee.amount).trans h
  rw [distribute, hactive, liftM_ok, ok_bind, if_pos (by simpa using hfound)]

/-- A fee against whose splits nothing is found, and that no flat amount exceeds, can only fail to
be distributed for want of a decimal result. -/
theorem distribute_onlyArithmetic (h : validateTotals splits fee.amount = .ok [])
    (hflat : ∀ s ∈ activeOf splits, s.isPercentage = false → fee.amount.lt s.value ≠ .ok true) :
    OnlyArithmetic (fee.distribute splits charge date) := by
  have hactive : validateTotals (splits.filter (·.active)) fee.amount = .ok [] :=
    (validateTotals_activeOf splits fee.amount).trans h
  rw [distribute, hactive, liftM_ok, ok_bind, if_neg (by simp)]
  refine FailsWith.bind ?_ fun _ _ => .pure _
  refine (shares_onlyArithmetic hflat).bind fun shares _ => ?_
  refine (onlyArithmetic_liftM _).bind fun total _ => ?_
  refine (onlyArithmetic_liftM _).bind fun overshoot _ => ?_
  exact (onlyArithmetic_liftM _).bind fun _ _ => .pure _

/-- A fee is refused with all that is found exactly if something is, and never because of one share,
unless a flat amount exceeds it that nothing was found about. -/
theorem distribute_refusals (h : validateTotals splits fee.amount = .ok found)
    (hflat : found = [] →
      ∀ s ∈ activeOf splits, s.isPercentage = false → fee.amount.lt s.value ≠ .ok true) :
    (∀ refused, fee.distribute splits charge date = .error (.invalidSplits refused) ↔
      refused = found ∧ found ≠ []) ∧
    ∀ s amount, fee.distribute splits charge date ≠ .error (.splitExceedsFee s amount) := by
  by_cases hempty : found = []
  · subst hempty
    have harithmetic := distribute_onlyArithmetic charge date h (hflat rfl)
    refine ⟨fun refused => ⟨fun hrefused => ?_, fun h => absurd rfl h.2⟩, fun s amount hover => ?_⟩
    · obtain ⟨fault, hfault⟩ := harithmetic _ hrefused
      cases hfault
    · obtain ⟨fault, hfault⟩ := harithmetic _ hover
      cases hfault
  · rw [distribute_of_findings charge date h hempty]
    refine ⟨fun refused => ?_, fun s amount => nofun⟩
    rw [Except.error.injEq, Error.invalidSplits.injEq, eq_comm]
    exact ⟨fun h => ⟨h, hempty⟩, And.left⟩

end Fee

namespace Split

open Fee (activeOf)

/-- A check that does not round finds nothing exactly if what the active splits are entitled to fits
the fee. Else it finds every negative active split, in order, and at most two things about the
totals of the others, never about the flat amounts both alone and together with the percentages.
Neither the order of the splits nor an inactive split makes a difference to whether something is
found. A fee is refused with all that is found exactly if there is something, and its distribution
never fails because one share exceeds it. -/
theorem validateTotals_exact (splits : List Split) (fee : Decimal) (hfee : fee.isFinite = true)
    (hfinite : ∀ s ∈ activeOf splits, s.value.isFinite = true)
    (hexact : CheckSatisfies Fits splits fee.value) :
    ∃ found p t, validateTotals splits fee = .ok found ∧
      (found = [] ↔ EntitledWithin (activeOf splits) fee.value) ∧
      p.HasValue (percentageTotal (countedOf splits)) ∧
      t.HasValue (flatTotal (countedOf splits)) ∧
      found = (negativeOf splits).map .negativeValue ++
        totalFindings p t (countedOf splits) fee.value ∧
      (totalFindings p t (countedOf splits) fee.value).length ≤ 2 ∧
      (∀ x y, ¬(.flatExceedsFee x ∈ found ∧ .combinedExceedsFee y ∈ found)) ∧
      (∀ other, (activeOf other).Perm (activeOf splits) → CheckSatisfies Fits other fee.value →
        ∃ found', validateTotals other fee = .ok found' ∧ (found' = [] ↔ found = [])) ∧
      (∀ other, activeOf other = activeOf splits → validateTotals other fee = .ok found) ∧
      ∀ (posted : Fee) (charge : Option String) (date : Option Date), posted.amount = fee →
        (∀ refused, posted.distribute splits charge date = .error (.invalidSplits refused) ↔
          refused = found ∧ found ≠ []) ∧
        ∀ s amount, posted.distribute splits charge date ≠ .error (.splitExceedsFee s amount) := by
  have hf := hasValue_value hfee
  obtain ⟨p, t, hp, ht, hfound⟩ := validateTotals_eq hf hfinite hexact
  have hnil : (negativeOf splits).map .negativeValue ++
      totalFindings p t (countedOf splits) fee.value = [] ↔
        EntitledWithin (activeOf splits) fee.value := findings_eq_nil_iff
  refine ⟨_, p, t, hfound, hnil, hp, ht, rfl, length_totalFindings_le p t _ _,
    not_flat_and_combined rfl, ?_, ?_, ?_⟩
  · intro other hperm hexact'
    have hfinite' : ∀ s ∈ activeOf other, s.value.isFinite = true :=
      fun s hs => hfinite s (hperm.mem_iff.mp hs)
    obtain ⟨p', t', -, -, hfound'⟩ := validateTotals_eq hf hfinite' hexact'
    refine ⟨_, hfound', findings_eq_nil_iff.trans (Iff.trans ?_ hnil.symm)⟩
    exact ⟨fun h => h.perm hperm.symm, fun h => h.perm hperm⟩
  · intro other hother
    rw [validateTotals_congr hother, hfound]
  · rintro posted charge date rfl
    refine Fee.distribute_refusals charge date hfound fun hempty s hs hflat => ?_
    rw [lt_eq hf (hasValue_value (hfinite s hs)),
      decide_eq_false (not_lt.mpr ((hnil.mp hempty).value_le hs hflat))]
    exact nofun

/-- Sixty percent, a negative percentage, a flat amount of thirty, and an inactive split without a
number. -/
def overdrawn : List Split :=
  [⟨"a", .percentage, 60, true, none⟩, ⟨"b", .percentage, .finite ⟨true, 5, 0⟩, true, none⟩,
    ⟨"c", .flatAmount, 30, true, none⟩, ⟨"d", .flatAmount, .nan false true 0, false, none⟩]

/-- Sixty percent of fifty and thirty exceed fifty by ten. The negative percentage is found and not
set off against them. -/
theorem overdrawn_found :
    validateTotals overdrawn 50 =
        .ok [.negativeValue ⟨"b", .percentage, .finite ⟨true, 5, 0⟩, true, none⟩,
          .combinedExceedsFee 30] ∧
      ¬EntitledWithin (activeOf overdrawn) 50 := by
  have h30 : (30 : Decimal).value = 30 := (hasValue_ofNat 30).value_eq
  have h50 : (50 : Decimal).value = 50 := (hasValue_ofNat 50).value_eq
  have h60 : (60 : Decimal).value = 60 := (hasValue_ofNat 60).value_eq
  have hfits : ∀ n : Nat, n < 10 ^ precision → Fits n := fun n => fits_natCast
  have hcounted : countedOf overdrawn =
      [⟨"a", .percentage, 60, true, none⟩, ⟨"c", .flatAmount, 30, true, none⟩] := by
    have hminus : (finite ⟨true, 5, 0⟩).value = -5 := by
      norm_num [Decimal.value, Scaled.value, Scaled.magnitude]
    simp [countedOf, overdrawn, activeOf, h30, h60, hminus]
  have hpercentages : (percentageValues (countedOf overdrawn)).map Decimal.value = [60] := by
    simp [hcounted, percentageValues, isPercentage, h60]
  have hflats : (flatValues (countedOf overdrawn)).map Decimal.value = [30] := by
    simp [hcounted, flatValues, isFlatAmount, h30]
  have hexact : CheckSatisfies Fits overdrawn (50 : Decimal).value := by
    refine ⟨?_, ?_, fun _ _ => ?_⟩
    · rw [hpercentages]
      simpa using And.intro (hfits 0 (by decide)) (hfits 60 (by decide))
    · rw [hflats]
      simpa using And.intro (hfits 0 (by decide)) (hfits 30 (by decide))
    · rw [entitlement, percentageTotal, flatTotal, hpercentages, hflats, h50]
      norm_num
      exact ⟨hfits 3000 (by decide), hfits 30 (by decide), hfits 60 (by decide)⟩
  have hrun : validateTotals overdrawn 50 =
      .ok [.negativeValue ⟨"b", .percentage, .finite ⟨true, 5, 0⟩, true, none⟩,
        .combinedExceedsFee 30] := rfl
  obtain ⟨found, p, t, hfound, hnil, -⟩ := validateTotals_exact overdrawn 50 rfl (by decide) hexact
  obtain rfl := Except.ok.inj (hfound.symm.trans hrun)
  rw [h50] at hnil
  exact ⟨hrun, fun hwithin => absurd (hnil.mpr hwithin) (List.cons_ne_nil _ _)⟩

end Split

end Passbook
