import Passbook.Proofs.Decimal.Sum
import Passbook.Split.Totals

/-!
# What an accepted list of splits adds up to

The totals of a list are running totals of its percentages and of its flat amounts. If nothing is
found against a list of active splits, none of its values is negative, its percentages are
numbers of at most one hundred in total, and its flat amounts are within the fee.
-/

namespace Passbook

namespace Split

open Decimal

/-- The values of the percentage splits, in order. -/
def percentageValues (splits : List Split) : List Decimal :=
  (splits.filter (·.isPercentage)).map (·.value)

/-- The values of the flat splits, in order. -/
def flatValues (splits : List Split) : List Decimal :=
  (splits.filter (·.isFlatAmount)).map (·.value)

theorem isFlatAmount_eq_not (s : Split) : s.isFlatAmount = !s.isPercentage := by
  unfold isFlatAmount isPercentage
  cases s.kind <;> rfl

variable {s : Split} {splits : List Split} {totals next final : Totals} {fee : Decimal}

/-- An active split either is found negative, or its value goes to the total of its kind. -/
theorem Totals.add_eq_ok (hactive : s.active = true) (h : totals.add s = .ok next) :
    (next = { totals with negative := totals.negative ++ [.negativeValue s] }) ∨
      s.value.NotNegative ∧ next.negative = totals.negative ∧
        (s.isPercentage = true ∧ totals.percentage.add s.value = .ok next.percentage ∧
            next.flat = totals.flat ∨
          s.isPercentage = false ∧ totals.flat.add s.value = .ok next.flat ∧
            next.percentage = totals.percentage) := by
  simp only [Totals.add, hactive, Bool.not_true, Bool.false_eq_true, if_false] at h
  obtain ⟨negative, hlt, h⟩ := bind_eq_ok_iff.mp h
  cases negative with
  | true => exact .inl (pure_eq_ok_iff.mp h).symm
  | false =>
    refine .inr ⟨hlt, ?_⟩
    simp only [Bool.false_eq_true, if_false] at h
    cases hp : s.isPercentage with
    | true =>
      simp only [hp, if_true] at h
      obtain ⟨t, ht, h⟩ := bind_eq_ok_iff.mp h
      obtain rfl := pure_eq_ok_iff.mp h
      exact ⟨rfl, .inl ⟨rfl, ht, rfl⟩⟩
    | false =>
      simp only [hp, Bool.false_eq_true, if_false] at h
      obtain ⟨t, ht, h⟩ := bind_eq_ok_iff.mp h
      obtain rfl := pure_eq_ok_iff.mp h
      exact ⟨rfl, .inr ⟨rfl, ht, rfl⟩⟩

theorem Totals.addAll_cons (totals : Totals) (s : Split) (rest : List Split) :
    totals.addAll (s :: rest) = totals.add s >>= fun next => next.addAll rest := rfl

/-- No finding is withdrawn. -/
theorem Totals.negative_prefix (hactive : ∀ s ∈ splits, s.active = true)
    (h : totals.addAll splits = .ok final) : totals.negative <+: final.negative := by
  induction splits generalizing totals with
  | nil =>
    obtain rfl := Except.ok.inj h
    exact List.prefix_refl _
  | cons s rest ih =>
    rw [Totals.addAll_cons] at h
    obtain ⟨next, hnext, hrest⟩ := bind_eq_ok_iff.mp h
    have hpre := ih (fun t ht => hactive t (List.mem_cons_of_mem s ht)) hrest
    rcases Totals.add_eq_ok (hactive s List.mem_cons_self) hnext with rfl | ⟨-, hneg, -⟩
    · exact (List.prefix_append _ _).trans hpre
    · rwa [hneg] at hpre

/-- Without a negative value the totals are the running totals of the two kinds. -/
theorem Totals.addAll_eq_ok (hactive : ∀ s ∈ splits, s.active = true)
    (h : totals.addAll splits = .ok final) (hneg : final.negative = []) :
    (∀ s ∈ splits, s.value.NotNegative) ∧
      sumFrom totals.percentage (percentageValues splits) = .ok final.percentage ∧
      sumFrom totals.flat (flatValues splits) = .ok final.flat := by
  induction splits generalizing totals with
  | nil =>
    obtain rfl := Except.ok.inj h
    exact ⟨by simp, rfl, rfl⟩
  | cons s rest ih =>
    rw [Totals.addAll_cons] at h
    obtain ⟨next, hnext, hrest⟩ := bind_eq_ok_iff.mp h
    have hactive' : ∀ t ∈ rest, t.active = true :=
      fun t ht => hactive t (List.mem_cons_of_mem s ht)
    obtain ⟨hvalues, hpercentage, hflat⟩ := ih hactive' hrest
    rcases Totals.add_eq_ok (hactive s List.mem_cons_self) hnext with hbad | ⟨hs, -, hkind⟩
    · have hpre := Totals.negative_prefix hactive' hrest
      rw [hneg, List.prefix_nil, hbad] at hpre
      simp at hpre
    · refine ⟨List.forall_mem_cons.mpr ⟨hs, hvalues⟩, ?_⟩
      rcases hkind with ⟨hp, hadd, hkeep⟩ | ⟨hp, hadd, hkeep⟩
      · have hf : s.isFlatAmount = false := by rw [isFlatAmount_eq_not, hp, Bool.not_true]
        constructor
        · simpa [percentageValues, hp, sumFrom_cons, hadd] using hpercentage
        · simpa [flatValues, hf, ← hkeep] using hflat
      · have hf : s.isFlatAmount = true := by rw [isFlatAmount_eq_not, hp, Bool.not_false]
        constructor
        · simpa [percentageValues, hp, ← hkeep] using hpercentage
        · simpa [flatValues, hf, sumFrom_cons, hadd] using hflat

/-- If nothing is found against a list, each of the checks has passed. -/
theorem validateTotals_eq_nil (h : validateTotals splits fee = .ok []) :
    ∃ totals, totalsOf splits = .ok totals ∧ totals.negative = [] ∧
      (100 : Decimal).lt totals.percentage = .ok false ∧
      fee.lt totals.flat = .ok false ∧ totals.combinedExceeds fee = .ok false := by
  obtain ⟨totals, htotals, h⟩ := bind_eq_ok_iff.mp h
  obtain ⟨percentages, hpercentages, h⟩ := bind_eq_ok_iff.mp h
  obtain ⟨amounts, hamounts, h⟩ := bind_eq_ok_iff.mp h
  obtain ⟨hneg, rfl, rfl⟩ : totals.negative = [] ∧ percentages = [] ∧ amounts = [] := by
    simpa using pure_eq_ok_iff.mp h
  refine ⟨totals, htotals, hneg, ?_⟩
  obtain ⟨above, habove, h⟩ := bind_eq_ok_iff.mp hpercentages
  obtain ⟨flatOver, hflat, hcombined⟩ := bind_eq_ok_iff.mp hamounts
  cases above with
  | true => simp at h
  | false =>
    cases flatOver with
    | true => simp at hcombined
    | false =>
      obtain ⟨exceeds, hexceeds, h⟩ := bind_eq_ok_iff.mp hcombined
      cases exceeds with
      | true => simp at h
      | false => exact ⟨habove, hflat, hexceeds⟩

end Split

end Passbook
