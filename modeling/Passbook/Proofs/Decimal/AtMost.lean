import Passbook.Proofs.Decimal.Sum

/-!
# Operations keep the order of numbers

Rounding to the context keeps the order, so sums, products with a factor from zero up, hundredths
and totals of numbers that are no larger are no larger themselves. This holds at every size, also
where digits are lost, as long as both results exist. From zero up the smaller result exists where
the larger one does, so a total of numbers from zero up has a total of any part of them below it.
-/

namespace Passbook

namespace Decimal

/-- Both are numbers, the first at most the second. -/
structure AtMost (x y : Decimal) : Prop where
  left : x.isFinite = true
  right : y.isFinite = true
  le : x.value ≤ y.value

variable {x y z u v start start' factor : Decimal} {xs ys : List Decimal} {p q : ℚ}

/-- Numbers are at most each other as their values are. -/
theorem HasValue.atMost (hx : x.HasValue p) (hy : y.HasValue q) (h : p ≤ q) : x.AtMost y := by
  obtain rfl := hx.value_eq
  obtain rfl := hy.value_eq
  exact ⟨hx.isFinite, hy.isFinite, h⟩

namespace AtMost

theorem hasValue_left (h : x.AtMost y) : x.HasValue x.value := hasValue_value h.left

theorem hasValue_right (h : x.AtMost y) : y.HasValue y.value := hasValue_value h.right

theorem refl (hx : x.isFinite = true) : x.AtMost x := ⟨hx, hx, le_rfl⟩

theorem trans (h : x.AtMost y) (h' : y.AtMost z) : x.AtMost z :=
  ⟨h.left, h'.right, h.le.trans h'.le⟩

/-- Numbers that are found to be in order are. -/
theorem of_le (hx : x.isFinite = true) (hy : y.isFinite = true) (h : x.le y = .ok true) :
    x.AtMost y := by
  rw [le_eq (hasValue_value hx) (hasValue_value hy)] at h
  exact ⟨hx, hy, of_decide_eq_true (Except.ok.inj h)⟩

/-- Larger parts have no smaller sum. -/
theorem add (h : x.AtMost y) (h' : u.AtMost v) : WhereBoth AtMost (x.add u) (y.add v) := by
  intro a b ha hb
  have hx := (add_rounds h.hasValue_left h'.hasValue_left).hasValue ha
  have hy := (add_rounds h.hasValue_right h'.hasValue_right).hasValue hb
  exact hx.atMost hy (rounded_mono (add_le_add h.le h'.le))

/-- A larger number has no smaller product with a factor from zero up. -/
theorem mul (h : x.AtMost y) (hfactor : factor.isFinite = true) (h0 : 0 ≤ factor.value) :
    WhereBoth AtMost (x.mul factor) (y.mul factor) := by
  intro a b ha hb
  have hx := (mul_rounds h.hasValue_left (hasValue_value hfactor)).hasValue ha
  have hy := (mul_rounds h.hasValue_right (hasValue_value hfactor)).hasValue hb
  exact hx.atMost hy (rounded_mono (mul_le_mul_of_nonneg_right h.le h0))

/-- The hundredth of a number is at most that of a larger one, where both can be computed. -/
theorem hundredth (h : x.AtMost y) : WhereBoth AtMost x.hundredth y.hundredth := by
  intro a b ha hb
  have hx := (hundredth_rounds h.hasValue_left).hasValue ha
  have hy := (hundredth_rounds h.hasValue_right).hasValue hb
  exact hx.atMost hy (rounded_mono (div_le_div_of_nonneg_right h.le (by norm_num)))

/-- A running total of larger numbers is no smaller, wherever it is rounded. -/
theorem sumFrom (h : start.AtMost start') (hxs : List.Forall₂ AtMost xs ys) :
    WhereBoth AtMost (sumFrom start xs) (sumFrom start' ys) := by
  induction hxs generalizing start start' with
  | nil => exact WhereBoth.pure h
  | cons hfirst _ ih =>
    rw [sumFrom_cons, sumFrom_cons]
    exact (h.add hfirst).bind fun next next' _ _ hnext => ih hnext

/-- A total of larger numbers is no smaller. -/
theorem sum (hxs : List.Forall₂ AtMost xs ys) :
    WhereBoth AtMost (Decimal.sum xs) (Decimal.sum ys) :=
  sumFrom (refl hasValue_zero.isFinite) hxs

end AtMost

/-- An operation with a smaller exact result from zero up returns where the one with the larger
result does, and what it returns is no larger. -/
theorem Rounds.exists_atMost {outcome outcome' : Except Fault Decimal} (h : Rounds p outcome)
    (h' : Rounds q outcome') (h0 : 0 ≤ p) (hle : p ≤ q) (hz : outcome' = .ok z) :
    ∃ y, outcome = .ok y ∧ 0 ≤ y.value ∧ y.AtMost z := by
  have hnonneg : 0 ≤ rounded p := rounded_nonneg h0
  have hmono : rounded p ≤ rounded q := rounded_mono hle
  have hbelow : |rounded p| < limit := by
    have hlimit := h'.lt_limit hz
    rw [abs_of_nonneg (hnonneg.trans hmono)] at hlimit
    rw [abs_of_nonneg hnonneg]
    exact hmono.trans_lt hlimit
  obtain ⟨y, hy, hvalue⟩ := h.returns hbelow
  exact ⟨y, hy, by rwa [hvalue.value_eq], hvalue.atMost (h'.hasValue hz) hmono⟩

/-- A number whose value was rounded is representable. -/
theorem HasValue.representable_of_rounded (h : x.HasValue (rounded q)) :
    Representable x.value := by
  rw [h.value_eq]
  exact representable_rounded q

/-- A running total of fewer numbers from zero up returns where that of all does, and it is no
larger. Rounding does not carry a total below the one before it, as that one is representable. -/
theorem AtMost.sumFrom_sublist {total' : Decimal} (hsub : xs.Sublist ys)
    (hys : ∀ y ∈ ys, y.isFinite = true ∧ 0 ≤ y.value) (h : start.AtMost start')
    (h0 : 0 ≤ start.value) (hr : Representable start'.value)
    (htotal : Decimal.sumFrom start' ys = .ok total') :
    ∃ total, Decimal.sumFrom start xs = .ok total ∧ 0 ≤ total.value ∧ total.AtMost total' := by
  induction hsub generalizing start start' with
  | slnil =>
    obtain rfl := Except.ok.inj htotal
    exact ⟨start, rfl, h0, h⟩
  | cons y _ ih =>
    obtain ⟨⟨hfinite, hnonneg⟩, hrest⟩ := List.forall_mem_cons.mp hys
    rw [sumFrom_cons] at htotal
    obtain ⟨next', hnext', htotal⟩ := bind_eq_ok_iff.mp htotal
    have hvalue := (add_rounds h.hasValue_right (hasValue_value hfinite)).hasValue hnext'
    have hgrow : start'.AtMost next' :=
      h.hasValue_right.atMost hvalue (hr.le_rounded (le_add_of_nonneg_right hnonneg))
    exact ih hrest (h.trans hgrow) h0 hvalue.representable_of_rounded htotal
  | cons_cons y _ ih =>
    obtain ⟨⟨hfinite, hnonneg⟩, hrest⟩ := List.forall_mem_cons.mp hys
    rw [sumFrom_cons] at htotal
    obtain ⟨next', hnext', htotal⟩ := bind_eq_ok_iff.mp htotal
    have hrounds' := add_rounds h.hasValue_right (hasValue_value hfinite)
    obtain ⟨next, hnext, hnext0, hle⟩ :=
      (add_rounds h.hasValue_left (hasValue_value hfinite)).exists_atMost hrounds'
        (add_nonneg h0 hnonneg) (add_le_add_left h.le _) hnext'
    obtain ⟨total, hsum, hresult⟩ :=
      ih hrest hle hnext0 (hrounds'.hasValue hnext').representable_of_rounded htotal
    exact ⟨total, by rw [sumFrom_cons, hnext, ok_bind, hsum], hresult⟩

end Decimal

end Passbook
