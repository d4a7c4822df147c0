import Passbook.Proofs.Decimal.Sum
import Passbook.Proofs.Decimal.Written
import Passbook.Proofs.Money.MinorUnit

/-!
# Numbers that can be read

Every numeral lies within a range of exponents, and every number in it has a numeral: its written
form. The range is far wider than that of the context. So every number that arithmetic returns can
be written and read back, whatever the size of its operands, and so can every number with a power of
ten of the context, unless it has about as many digits as the largest power of ten.
-/

namespace Passbook

open Decimal

namespace Scaled

variable {x y z : Scaled} {e : Int}

/-- The first and the last digit lie within the exponents of the context. -/
structure InContext (x : Scaled) : Prop where
  last : leastExponent ≤ x.exponent
  first : x.adjusted ≤ maxExponent

/-- There is a numeral for every number that lies in the context. -/
theorem InContext.isReadable (h : x.InContext) : x.isReadable = true := by
  obtain ⟨hlast, hfirst⟩ := h
  rw [Scaled.isReadable, Bool.and_eq_true, decide_eq_true_iff, decide_eq_true_iff]
  exact ⟨hfirst.trans (by decide), le_trans (by decide) hlast⟩

/-- A number with a power of ten of the context is readable with up to `10 ^ 18 - 10 ^ 6` digits. -/
theorem isReadable_of_exponent (hlow : leastExponent ≤ x.exponent)
    (hhigh : x.exponent ≤ maxExponent)
    (hdigits : digitCount x.coefficient ≤ 999999999999000000) : x.isReadable = true := by
  rw [leastExponent] at hlow
  rw [maxExponent] at hhigh
  rw [isReadable, Bool.and_eq_true, decide_eq_true_iff, decide_eq_true_iff, adjusted,
    readableExponent, leastReadableExponent]
  omega

/-- The only digit of a zero is its first and its last one. -/
theorem adjusted_zero (negative : Bool) (e : Int) : adjusted ⟨negative, 0, e⟩ = e := by
  have hone : digitCount 0 = 1 := by decide
  rw [adjusted, hone]
  exact add_sub_cancel_right e 1

/-- A carry does not make the last place finer. -/
theorem le_carried_exponent (s : Bool) (c : Nat) (e : Int) : e ≤ (carried s c e).exponent := by
  unfold carried
  split
  · exact le_add_of_nonneg_right (by decide)
  · exact le_rfl

/-- What fits the context lies in it. -/
theorem inContext_of_fit (h : x.fit = .ok y) : y.InContext := by
  by_cases hc : x.coefficient = 0
  · rw [fit, if_pos hc] at h
    obtain rfl := Except.ok.inj h
    refine ⟨le_max_left _ _, ?_⟩
    rw [hc, adjusted_zero]
    exact max_le (by decide) (min_le_right _ _)
  · rw [fit_of_ne_zero hc] at h
    dsimp only at h
    split at h
    next => cases h
    next hle =>
      obtain rfl := Except.ok.inj h
      have hleast : leastExponent ≤ x.fitExponent := (le_max_right _ _).trans (le_max_right _ _)
      exact ⟨hleast.trans (le_carried_exponent _ _ _), not_lt.mp hle⟩

/-- What is given a last place of the context lies in it. -/
theorem inContext_of_quantize (hleast : leastExponent ≤ e) (hmost : e ≤ maxExponent)
    (h : x.quantize e = .ok y) : y.InContext := by
  unfold quantize at h
  split at h
  · obtain rfl := Except.ok.inj h
    exact ⟨hleast, (adjusted_zero _ _).trans_le hmost⟩
  · split at h
    · exact nomatch h
    · dsimp only at h
      split at h
      next => exact nomatch h
      next hfits =>
        obtain rfl := Except.ok.inj h
        exact ⟨hleast, not_lt.mp (not_or.mp hfits).2⟩

/-- A sum lies in the context. -/
theorem inContext_of_add (h : x.add y = .ok z) : z.InContext := by
  unfold add at h
  split at h
  · exact inContext_of_fit h
  · exact inContext_of_fit h

end Scaled

namespace Decimal

variable {x y z start total : Decimal} {xs : List Decimal} {places : Int}

/-- The decimal is a number for which there is a numeral. -/
def IsReadable (d : Decimal) : Prop := ∃ x, d = finite x ∧ x.isReadable = true

theorem IsReadable.isFinite (h : x.IsReadable) : x.isFinite = true := by
  obtain ⟨u, rfl, -⟩ := h
  rfl

/-- A readable number is read from its written form, with its sign, its digits and its power of
ten. -/
theorem IsReadable.read_toText (h : x.IsReadable) : read x.toText = .ok x := by
  obtain ⟨u, rfl, hu⟩ := h
  rw [Decimal.read_toText, if_pos hu]

/-- A word stands for no finite number. -/
theorem word?_ne_finite (negative : Bool) (cs : List Char) (u : Scaled) :
    Numeral.word? negative cs ≠ some (finite u) := by
  unfold Numeral.word?
  split
  · simp
  · simp
  · split <;> simp

/-- The readable numbers are those that some text stands for. -/
theorem isReadable_iff {u : Scaled} : (finite u).IsReadable ↔ ∃ s, read s = .ok (finite u) := by
  constructor
  · exact fun h => ⟨_, h.read_toText⟩
  · rintro ⟨s, h⟩
    rw [read] at h
    split at h
    · rw [ofChars] at h
      dsimp only at h
      split at h
      · split at h
        next hreadable => exact ⟨_, (Except.ok.inj h).symm, hreadable⟩
        next => cases h
      · split at h
        next hword =>
          obtain rfl := Except.ok.inj h
          exact absurd hword (word?_ne_finite _ _ _)
        next => cases h
    · cases h

theorem isReadable_zero : (0 : Decimal).IsReadable := ⟨_, rfl, by decide⟩

/-- A sum of numbers is readable. -/
theorem isReadable_of_add (hx : x.isFinite = true) (hy : y.isFinite = true)
    (h : x.add y = .ok z) : z.IsReadable := by
  obtain ⟨u, rfl⟩ := isFinite_iff.mp hx
  obtain ⟨v, rfl⟩ := isFinite_iff.mp hy
  obtain ⟨w, hw, rfl⟩ := map_eq_ok_iff.mp h
  exact ⟨w, rfl, (Scaled.inContext_of_add hw).isReadable⟩

/-- A number that is the total of a list is readable if the running total was at its beginning. -/
theorem isReadable_of_sumFrom (hstart : start.IsReadable) (h : sumFrom start xs = .ok total)
    (htotal : total.isFinite = true) : total.IsReadable := by
  induction xs generalizing start with
  | nil =>
    obtain rfl := Except.ok.inj h
    exact hstart
  | cons x xs ih =>
    obtain ⟨-, hnumbers⟩ := hasValue_of_sumFrom h (hasValue_value htotal)
    obtain ⟨q, hx⟩ := hnumbers x List.mem_cons_self
    rw [sumFrom_cons] at h
    obtain ⟨next, hnext, hrest⟩ := bind_eq_ok_iff.mp h
    exact ih (isReadable_of_add hstart.isFinite hx.isFinite hnext) hrest

end Decimal

section
variable {value amount percentage result : Decimal} {places : Int}

/-- A number of minor units is readable. -/
theorem isReadable_of_quantizeMoney (h : quantizeMoney value places = .ok result)
    (hresult : result.isFinite = true) : result.IsReadable := by
  obtain ⟨q, hq⟩ := hasValue_of_quantizeMoney h (hasValue_value hresult)
  obtain ⟨x, rfl⟩ := isFinite_iff.mp hq.isFinite
  obtain ⟨e, he, h⟩ := bind_eq_ok_iff.mp h
  obtain ⟨y, hy, rfl⟩ := map_eq_ok_iff.mp h
  exact ⟨y, rfl, (Scaled.inContext_of_quantize (leastExponent_le_quantumExponent he)
    (quantumExponent_le_maxExponent he) hy).isReadable⟩

/-- A percentage is readable, if it is a number. -/
theorem isReadable_of_percentageOf (h : percentageOf amount percentage places = .ok result)
    (hresult : result.isFinite = true) : result.IsReadable := by
  obtain ⟨product, -, h⟩ := bind_eq_ok_iff.mp h
  obtain ⟨part, -, h⟩ := bind_eq_ok_iff.mp h
  exact isReadable_of_quantizeMoney h hresult

end

/-- The written form of a readable number, sent as an amount, stands for the number. -/
theorem Decimal.IsReadable.toDecimal_toText {x : Decimal} (h : x.IsReadable) :
    (Datum.text x.toText).toDecimal = .ok x := by
  rw [Datum.toDecimal, h.read_toText]
  rfl

end Passbook
