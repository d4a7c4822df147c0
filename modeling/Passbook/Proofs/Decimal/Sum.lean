import Passbook.Proofs.Decimal.Operations

/-!
# Totals

A running total is rounded after every addition. Whatever the rounding, a total of values that
are not negative is not negative, and it is a number only if all of them are. Where the values
are whole multiples of one power of ten and their sum is small, no addition rounds: the total
stands for the sum.
-/

namespace Passbook

namespace Decimal

variable {x y z start total : Decimal} {xs : List Decimal} {p q r s : ℚ} {qs : List ℚ} {e : Int}

/-- Two values that are not negative have a sum that is not negative. -/
theorem NotNegative.add (hx : x.NotNegative) (hy : y.NotNegative) (h : x.add y = .ok z) :
    z.NotNegative := by
  rw [notNegative_iff]
  rcases notNegative_iff.mp hx with ⟨p, hp, hxp⟩ | rfl
  · rcases notNegative_iff.mp hy with ⟨q, hq, hyq⟩ | rfl
    · exact .inl ⟨_, rounded_nonneg (add_nonneg hp hq), (add_rounds hxp hyq).hasValue h⟩
    · obtain ⟨a, rfl, rfl⟩ := hasValue_iff.mp hxp
      exact .inr (Except.ok.inj h).symm
  · rcases notNegative_iff.mp hy with ⟨q, hq, hyq⟩ | rfl
    · obtain ⟨b, rfl, rfl⟩ := hasValue_iff.mp hyq
      exact .inr (Except.ok.inj h).symm
    · exact .inr (Except.ok.inj h).symm

/-- A total goes through the first addition. -/
theorem sumFrom_cons (start x : Decimal) (xs : List Decimal) :
    sumFrom start (x :: xs) = start.add x >>= fun next => sumFrom next xs := rfl

/-- A total of values that are not negative is not negative. -/
theorem NotNegative.sumFrom (hs : start.NotNegative) (hx : ∀ x ∈ xs, x.NotNegative)
    (h : sumFrom start xs = .ok total) : total.NotNegative := by
  induction xs generalizing start with
  | nil =>
    obtain rfl := Except.ok.inj h
    exact hs
  | cons x xs ih =>
    rw [sumFrom_cons] at h
    obtain ⟨next, hnext, hrest⟩ := bind_eq_ok_iff.mp h
    exact ih (hs.add (hx x List.mem_cons_self) hnext)
      (fun y hy => hx y (List.mem_cons_of_mem x hy)) hrest

/-- Only numbers have a number as their total. -/
theorem hasValue_of_sumFrom (h : sumFrom start xs = .ok total) (ht : total.HasValue r) :
    (∃ s, start.HasValue s) ∧ ∀ x ∈ xs, ∃ q, x.HasValue q := by
  induction xs generalizing start with
  | nil =>
    obtain rfl := Except.ok.inj h
    exact ⟨⟨r, ht⟩, by simp⟩
  | cons x xs ih =>
    rw [sumFrom_cons] at h
    obtain ⟨next, hnext, hrest⟩ := bind_eq_ok_iff.mp h
    obtain ⟨⟨s, hs⟩, hxs⟩ := ih hrest
    obtain ⟨hstart, hx⟩ := hasValue_of_add hnext hs
    exact ⟨hstart, List.forall_mem_cons.mpr ⟨hx, hxs⟩⟩

/-- A total of numbers that starts below the limit ends below it. -/
theorem abs_lt_limit_of_sumFrom (hs : start.HasValue s) (hl : |s| < limit)
    (h : sumFrom start xs = .ok total) (ht : total.HasValue r) : |r| < limit := by
  induction xs generalizing start s with
  | nil =>
    obtain rfl := Except.ok.inj h
    rwa [ht.unique hs]
  | cons x xs ih =>
    rw [sumFrom_cons] at h
    obtain ⟨next, hnext, hrest⟩ := bind_eq_ok_iff.mp h
    obtain ⟨⟨p, hp⟩, -⟩ := hasValue_of_sumFrom hrest ht
    obtain ⟨-, q, hq⟩ := hasValue_of_add hnext hp
    exact ih hp (abs_lt_limit_of_add hs hq hp hnext) hrest

/-- The context returns the number as it is: it keeps all digits, and they lie below the limit. -/
structure Fits (q : ℚ) : Prop where
  representable : Representable q
  lt_limit : |q| < limit

/-- Numbers of few digits fit, so many of them behind the point as the context reaches. -/
theorem fits_natCast_div {n : Nat} (k : Nat) (h : n < 10 ^ precision)
    (hk : leastExponent ≤ -(k : Int)) : Fits (n / 10 ^ k) := by
  have hvalue : (n : ℚ) / 10 ^ k = (n : Int) * 10 ^ (-(k : Int)) := by
    rw [zpow_neg, zpow_natCast, Int.cast_natCast, div_eq_mul_inv]
  have hlt : |(n : ℚ) / 10 ^ k| < 10 ^ (-(k : Int) + (precision : Int)) := by
    rw [zpow_add₀ (by norm_num), zpow_neg, zpow_natCast, zpow_natCast, abs_of_nonneg (by positivity),
      div_eq_inv_mul]
    gcongr
    exact_mod_cast h
  refine ⟨representable_of_mem_grid hk ?_ hlt, hlt.trans_le ?_⟩
  · rw [hvalue]
    exact int_mul_mem_grid _ _
  · exact zpow_le_zpow_right₀ (by norm_num) (by unfold precision maxExponent; omega)

/-- Whole numbers of few digits fit. -/
theorem fits_natCast {n : Nat} (h : n < 10 ^ precision) : Fits n := by
  simpa using fits_natCast_div 0 h (by decide)

/-- An outcome that rounds a number which fits is that number. -/
theorem Rounds.hasValue_of_fits {outcome : Except Fault Decimal} (h : Rounds q outcome)
    (hq : Fits q) : ∃ z, outcome = .ok z ∧ z.HasValue q := by
  obtain ⟨z, hz⟩ := h.returns_of_representable hq.representable hq.lt_limit
  exact ⟨z, hz, h.hasValue_of_representable hq.representable hz⟩

/-- Every running total of the numbers from a start satisfies the condition, the start and the
total included. -/
def RunningTotals (P : ℚ → Prop) (start : ℚ) (qs : List ℚ) : Prop :=
  ∀ run, run <+: qs → P (start + run.sum)

namespace RunningTotals

variable {P Q : ℚ → Prop}

theorem head (h : RunningTotals P s qs) : P s := by
  simpa using h [] List.nil_prefix

/-- Without the first number, the running totals start after it. -/
theorem tail (h : RunningTotals P s (q :: qs)) : RunningTotals P (s + q) qs := by
  intro run hrun
  have hlonger := h (q :: run) (List.cons_prefix_cons.mpr ⟨rfl, hrun⟩)
  rwa [List.sum_cons, ← add_assoc] at hlonger

theorem last (h : RunningTotals P s qs) : P (s + qs.sum) := h qs (List.prefix_refl qs)

theorem imp (h : RunningTotals P s qs) (himp : ∀ q, P q → Q q) : RunningTotals Q s qs :=
  fun run hrun => himp _ (h run hrun)

@[simp] theorem nil_iff : RunningTotals P s [] ↔ P s :=
  ⟨head, fun h run hrun => by simpa [List.prefix_nil.mp hrun] using h⟩

/-- The running totals of a list are the start and those of the rest from the next start. -/
@[simp] theorem cons_iff :
    RunningTotals P s (q :: qs) ↔ P s ∧ RunningTotals P (s + q) qs := by
  refine ⟨fun h => ⟨h.head, h.tail⟩, fun ⟨hstart, hrest⟩ run hrun => ?_⟩
  rcases List.prefix_cons_iff.mp hrun with rfl | ⟨later, rfl, hlater⟩
  · simpa using hstart
  · rw [List.sum_cons, ← add_assoc]
    exact hrest later hlater

end RunningTotals

/-- A total that no addition rounds stands for the sum. -/
theorem hasValue_of_runningTotals (hs : start.HasValue s) (hx : List.Forall₂ HasValue xs qs)
    (hr : RunningTotals Representable s qs) (h : sumFrom start xs = .ok total) :
    total.HasValue (s + qs.sum) := by
  induction hx generalizing start s with
  | nil =>
    obtain rfl := Except.ok.inj h
    simpa using hs
  | cons hq _ ih =>
    rw [sumFrom_cons] at h
    obtain ⟨next, hnext, hrest⟩ := bind_eq_ok_iff.mp h
    rw [List.sum_cons, ← add_assoc]
    exact ih (add_hasValue hs hq hr.tail.head hnext) hr.tail hrest

/-- A total of which every running total fits is returned. -/
theorem sumFrom_of_fits (hs : start.HasValue s) (hx : List.Forall₂ HasValue xs qs)
    (hr : RunningTotals Fits s qs) : ∃ total, sumFrom start xs = .ok total := by
  induction hx generalizing start s with
  | nil => exact ⟨start, rfl⟩
  | cons hq _ ih =>
    obtain ⟨next, hnext, hvalue⟩ := (add_rounds hs hq).hasValue_of_fits hr.tail.head
    obtain ⟨total, htotal⟩ := ih hvalue hr.tail
    exact ⟨total, by rw [sumFrom_cons, hnext, ok_bind, htotal]⟩

/-- A sum that no addition rounds is exact. -/
theorem sum_hasValue (hx : List.Forall₂ HasValue xs qs) (hr : RunningTotals Representable 0 qs)
    (h : Decimal.sum xs = .ok total) : total.HasValue qs.sum := by
  rw [← zero_add qs.sum]
  exact hasValue_of_runningTotals hasValue_zero hx hr h

/-- A sum of which every running total fits is returned and exact. -/
theorem sum_of_fits (hx : List.Forall₂ HasValue xs qs) (hr : RunningTotals Fits 0 qs) :
    ∃ total, Decimal.sum xs = .ok total ∧ total.HasValue qs.sum := by
  obtain ⟨total, htotal⟩ := sumFrom_of_fits hasValue_zero hx hr
  exact ⟨total, htotal, sum_hasValue hx (hr.imp fun _ hq => hq.representable) htotal⟩

/-- Numbers from zero up on one grid that add up to few of its units, so that no running total
has more digits than the context keeps. -/
structure ExactRun (e : Int) (start : ℚ) (qs : List ℚ) : Prop where
  /-- The context reaches the units of the grid. -/
  least : leastExponent ≤ e
  start_mem : start ∈ grid e
  start_nonneg : 0 ≤ start
  mem : ∀ q ∈ qs, q ∈ grid e
  nonneg : ∀ q ∈ qs, 0 ≤ q
  sum_lt : start + qs.sum < 10 ^ (e + precision)

/-- A running total of numbers on a grid from zero is exact if their sum is few units. -/
theorem exactRun_of_mem {qs : List ℚ} (he : leastExponent ≤ e)
    (h : ∀ q ∈ qs, q ∈ grid e ∧ 0 ≤ q) (hlt : qs.sum < 10 ^ (e + precision)) :
    ExactRun e 0 qs where
  least := he
  start_mem := zero_mem _
  start_nonneg := le_rfl
  mem q hq := (h q hq).1
  nonneg q hq := (h q hq).2
  sum_lt := by rwa [zero_add]

/-- Running totals of numbers from zero up stay between the start and the total. -/
theorem sum_prefix_between {run : List ℚ} (hrun : run <+: qs) (h : ∀ q ∈ qs, 0 ≤ q) :
    0 ≤ run.sum ∧ run.sum ≤ qs.sum := by
  obtain ⟨rest, rfl⟩ := hrun
  obtain ⟨hfirst, hlast⟩ := List.forall_mem_append.mp h
  have hrest := List.sum_nonneg hlast
  rw [List.sum_append]
  exact ⟨List.sum_nonneg hfirst, by linarith⟩

/-- Exact running totals of numbers from zero up fit if the sum is below the limit. -/
theorem RunningTotals.fits (h : RunningTotals Representable s qs) (hs : 0 ≤ s)
    (hqs : ∀ q ∈ qs, 0 ≤ q) (hl : s + qs.sum < limit) : RunningTotals Fits s qs := by
  intro run hrun
  obtain ⟨hlow, hhigh⟩ := sum_prefix_between hrun hqs
  refine ⟨h run hrun, ?_⟩
  rw [abs_of_nonneg (add_nonneg hs hlow)]
  linarith

/-- On a grid every running total keeps all digits. -/
theorem ExactRun.runningTotals (h : ExactRun e s qs) : RunningTotals Representable s qs := by
  intro run hrun
  obtain ⟨hlow, hhigh⟩ := sum_prefix_between hrun h.nonneg
  have hmem : s + run.sum ∈ grid e :=
    add_mem h.start_mem (list_sum_mem fun q hq => h.mem q (hrun.subset hq))
  refine representable_of_mem_grid h.least hmem ?_
  rw [abs_of_nonneg (add_nonneg h.start_nonneg hlow)]
  linarith [h.sum_lt]

/-- On a grid every running total fits if the sum is below the limit. -/
theorem ExactRun.runningTotals_fits (h : ExactRun e s qs) (hl : s + qs.sum < limit) :
    RunningTotals Fits s qs :=
  h.runningTotals.fits h.start_nonneg h.nonneg hl

end Decimal

end Passbook
