import Passbook.Decimal.Printer
import Passbook.Decimal.Reader

/-!
# Written numbers are read back

The written form of a number consists of digits, a point, a sign and the letter before a power of
ten, so nothing of it is trimmed or left out by the reader. Its digits before and after the point
are those of the coefficient, with zeros in front where the number is small, and the power of ten
at its end makes up for the digits after the point. So the reader finds the same sign, digits and
power of ten, in plain notation and in the other one, unless the number is beyond the range that
numerals have.
-/

namespace Passbook

open Decimal Scaled

/-- A character of a written number. -/
def isWritten (c : Char) : Bool := c.isDigit || c ∈ ['.', 'E', '+', '-']

theorem isWritten_of_isDigit {c : Char} (h : c.isDigit = true) : isWritten c = true := by
  rw [isWritten, h, Bool.true_or]

/-- The characters of written numbers stand between the plus sign and the letter. -/
theorem toNat_of_isWritten {c : Char} (h : isWritten c = true) : 43 ≤ c.toNat ∧ c.toNat ≤ 69 := by
  rw [isWritten, Bool.or_eq_true] at h
  rcases h with hdigit | hmark
  · obtain ⟨hlow, hhigh⟩ := Char.isDigit_iff_toNat.mp hdigit
    exact ⟨Nat.le_trans (by decide) hlow, Nat.le_trans hhigh (by decide)⟩
  · have hmarks : c = '.' ∨ c = 'E' ∨ c = '+' ∨ c = '-' := by simpa using hmark
    rcases hmarks with rfl | rfl | rfl | rfl <;> decide

namespace Numeral

/-- The characters of written numbers are ASCII. -/
theorem mapM_ascii? {cs : List Char} (h : ∀ c ∈ cs, isWritten c = true) :
    cs.mapM ascii? = some cs := by
  induction cs with
  | nil => rfl
  | cons c rest ih =>
    obtain ⟨hc, hrest⟩ := List.forall_mem_cons.mp h
    have hrange := toNat_of_isWritten hc
    have hchar : ascii? c = some c := if_pos (by omega)
    rw [List.mapM_cons, hchar, ih hrest]
    rfl

/-- A text of written numbers is read as it stands. -/
theorem plain?_ofList {cs : List Char} (h : ∀ c ∈ cs, isWritten c = true) :
    plain? (String.ofList cs) = some cs := by
  have htrim : Text.trim Text.isBlankOrSeparator cs = cs := by
    refine Text.trim_eq_self fun c hc => ?_
    have hrange := toNat_of_isWritten (h c hc)
    simp [Text.isBlankOrSeparator, Text.isBlank]
    omega
  have hfilter : cs.filter (· != '_') = cs := by
    rw [List.filter_eq_self]
    intro c hc
    have hrange := toNat_of_isWritten (h c hc)
    rw [bne_iff_ne]
    rintro rfl
    exact absurd hrange.2 (by decide)
  rw [plain?, String.toList_ofList, htrim, hfilter, mapM_ascii? h]

/-- No digits follow: nothing does, or a power of ten. -/
def EndsDigits (rest : List Char) : Prop := ∀ c ∈ rest.head?, c = 'E'

theorem endsDigits_nil : EndsDigits [] := nofun

theorem endsDigits_power (e : Int) : EndsDigits (power e) := by
  intro c hc
  exact (Option.some.inj hc).symm

section
variable {digits rest : List Char}

/-- Digits are read up to what ends them. -/
theorem takeWhile_digits (hdigits : ∀ c ∈ digits, c.isDigit = true)
    (hrest : ∀ c ∈ rest.head?, c.isDigit = false) :
    (digits ++ rest).takeWhile Char.isDigit = digits := by
  rw [List.takeWhile_append_of_pos hdigits]
  cases rest with
  | nil => simp
  | cons c cs => simp [hrest c rfl]

/-- After the digits, what ends them is left to be read. -/
theorem dropWhile_digits (hdigits : ∀ c ∈ digits, c.isDigit = true)
    (hrest : ∀ c ∈ rest.head?, c.isDigit = false) :
    (digits ++ rest).dropWhile Char.isDigit = rest := by
  rw [List.dropWhile_append_of_pos hdigits]
  cases rest with
  | nil => rfl
  | cons c cs => simp [hrest c rfl]

/-- What ends digits does not start with another one. -/
theorem EndsDigits.isDigit (h : EndsDigits rest) : ∀ c ∈ rest.head?, c.isDigit = false := by
  intro c hc
  rw [h c hc]
  decide

/-- What ends digits has no fraction. -/
theorem EndsDigits.fraction (h : EndsDigits rest) : fraction rest = ([], rest) := by
  cases rest with
  | nil => rfl
  | cons c cs =>
    obtain rfl := h c rfl
    rfl

end

/-- The power of ten at the end of a numeral is read. -/
theorem power?_power (e : Int) : power? (power e) = some e := by
  have hdigits : (Nat.toDigits 10 e.natAbs).all Char.isDigit = true :=
    List.all_eq_true.mpr fun c => Nat.isDigit_of_mem_toDigits (by decide) (by decide)
  have hempty : (Nat.toDigits 10 e.natAbs).isEmpty = false := by
    rw [List.isEmpty_eq_false_iff]
    exact Nat.toDigits_ne_nil
  have hread (negative : Bool) (sign : Char)
      (hsign : ∀ digits, Text.sign (sign :: digits) = (negative, digits)) :
      power? ('E' :: sign :: Nat.toDigits 10 e.natAbs) =
        some (if negative then -(e.natAbs : Int) else e.natAbs) := by
    simp only [power?, hsign, hdigits, hempty, Nat.ofDigitChars_ten_toDigits]
    rfl
  by_cases h : e < 0
  · rw [power, if_pos h, hread true '-' fun _ => rfl, if_pos rfl]
    exact congrArg some (by omega)
  · rw [power, if_neg h, hread false '+' fun _ => rfl, if_neg (by decide)]
    exact congrArg some (by omega)

section
variable {whole decimals rest : List Char} {e : Int}

/-- Digits without a point are read, with the power of ten behind them. -/
theorem finite?_whole (negative : Bool) (hwhole : ∀ c ∈ whole, c.isDigit = true)
    (hne : whole ≠ []) (hrest : EndsDigits rest) (hpower : power? rest = some e) :
    finite? negative (whole ++ rest) = some ⟨negative, Nat.ofDigitChars 10 whole 0, e⟩ := by
  simp [finite?, takeWhile_digits hwhole hrest.isDigit, dropWhile_digits hwhole hrest.isDigit,
    hrest.fraction, hne, hpower]

/-- Digits on both sides of a point are read, with the power of ten behind them. -/
theorem finite?_point (negative : Bool) (hwhole : ∀ c ∈ whole, c.isDigit = true)
    (hne : whole ≠ []) (hdecimals : ∀ c ∈ decimals, c.isDigit = true) (hrest : EndsDigits rest)
    (hpower : power? rest = some e) :
    finite? negative (whole ++ '.' :: (decimals ++ rest)) =
      some ⟨negative, Nat.ofDigitChars 10 (whole ++ decimals) 0, e - decimals.length⟩ := by
  have hpoint : ∀ c ∈ ('.' :: (decimals ++ rest)).head?, c.isDigit = false := by
    intro c hc
    rw [← Option.some.inj hc]
    decide
  simp [finite?, takeWhile_digits hwhole hpoint, dropWhile_digits hwhole hpoint, fraction,
    takeWhile_digits hdecimals hrest.isDigit, dropWhile_digits hdecimals hrest.isDigit, hne, hpower]

end

/-- Digits stand before the point if it has fewer places than there are digits. -/
theorem take_ne_nil {digits : List Char} {places : Nat} (h : places < digits.length) :
    digits.take (digits.length - places) ≠ [] := by
  rw [Ne, List.take_eq_nil_iff]
  rintro (hnone | rfl)
  · omega
  · simp at h

/-- Neither form of a number begins with a point or a sign. -/
theorem isDigit_head_pointed {digits : List Char} (hdigits : ∀ c ∈ digits, c.isDigit = true)
    (places : Nat) :
    ∀ c ∈ (pointed digits places).head?, c.isDigit = true := by
  unfold pointed
  split
  · exact fun c hc => hdigits c (List.mem_of_mem_head? hc)
  · split
    next hlt =>
      obtain ⟨d, others, hwhole⟩ := List.exists_cons_of_ne_nil (take_ne_nil hlt)
      rw [hwhole]
      intro c hc
      obtain rfl := Option.some.inj hc
      exact hdigits d (List.mem_of_mem_take (hwhole ▸ List.mem_cons_self))
    next =>
      intro c hc
      rw [← Option.some.inj hc]
      decide

section
variable {negative : Bool} {digits : List Char} (hdigits : ∀ c ∈ digits, c.isDigit = true)
  (hne : digits ≠ [])
include hdigits hne

/-- Digits with a point before the last places of them are read. -/
theorem finite?_pointed (places : Nat) :
    finite? negative (pointed digits places) =
      some ⟨negative, Nat.ofDigitChars 10 digits 0, -places⟩ := by
  unfold pointed
  split
  next hzero =>
    have hread := finite?_whole negative hdigits hne endsDigits_nil (e := 0) rfl
    rw [List.append_nil] at hread
    rw [hread, hzero]
    rfl
  next hzero =>
    split
    next hlt =>
      let n := digits.length - places
      have hwhole : ∀ c ∈ digits.take n, c.isDigit = true := fun c hc =>
        hdigits c (List.mem_of_mem_take hc)
      have hdecimals : ∀ c ∈ digits.drop n, c.isDigit = true := fun c hc =>
        hdigits c (List.mem_of_mem_drop hc)
      have hread := finite?_point negative hwhole (take_ne_nil hlt) hdecimals endsDigits_nil
        (e := 0) rfl
      rw [List.append_nil, List.take_append_drop, List.length_drop] at hread
      rw [hread]
      congr 2
      omega
    next hle =>
      -- The zero before the point and those behind it are digits that change no value.
      have hdecimals : ∀ c ∈ List.replicate (places - digits.length) '0' ++ digits,
          c.isDigit = true := by
        intro c hc
        rcases List.mem_append.mp hc with hzeros | hc
        · rw [List.eq_of_mem_replicate hzeros]
          decide
        · exact hdigits c hc
      have hzero : ∀ c ∈ ['0'], c.isDigit = true := by simp
      have hread := finite?_point negative hzero (by decide) hdecimals endsDigits_nil (e := 0) rfl
      have hvalue : Nat.ofDigitChars 10
          (['0'] ++ (List.replicate (places - digits.length) '0' ++ digits)) 0 =
            Nat.ofDigitChars 10 digits 0 := by
        rw [Nat.ofDigitChars_append, Nat.ofDigitChars_append, Nat.ofDigitChars_replicate_zero]
        rfl
      rw [hvalue, List.append_nil, List.length_append, List.length_replicate] at hread
      refine hread.trans ?_
      congr 2
      omega

/-- Digits with a point behind the first of them are read, with the power of ten behind them. -/
theorem finite?_leading (e : Int) :
    finite? negative (leading digits ++ power e) =
      some ⟨negative, Nat.ofDigitChars 10 digits 0, e + 1 - digits.length⟩ := by
  obtain ⟨d, others, rfl⟩ := List.exists_cons_of_ne_nil hne
  cases others with
  | nil =>
    have hread := finite?_whole negative hdigits hne (endsDigits_power e) (power?_power e)
    refine hread.trans ?_
    rw [List.length_singleton, Int.natCast_one, Int.add_sub_cancel]
  | cons r others =>
    obtain ⟨hd, hothers⟩ := List.forall_mem_cons.mp hdigits
    have hfirst : ∀ c ∈ [d], c.isDigit = true := List.forall_mem_singleton.mpr hd
    have hread := finite?_point negative hfirst (by simp) hothers (endsDigits_power e)
      (power?_power e)
    have hplace : e + 1 - ((d :: r :: others).length : Int) = e - (r :: others).length := by
      rw [List.length_cons]
      omega
    rw [hplace]
    exact hread

/-- A form with a power of ten starts with a digit. -/
theorem isDigit_head_leading (e : Int) :
    ∀ c ∈ (leading digits ++ power e).head?, c.isDigit = true := by
  obtain ⟨d, others, rfl⟩ := List.exists_cons_of_ne_nil hne
  intro c hc
  cases others with
  | nil => exact Option.some.inj hc ▸ hdigits d List.mem_cons_self
  | cons r others => exact Option.some.inj hc ▸ hdigits d List.mem_cons_self

end

/-- What starts with a digit is read without a sign. -/
theorem sign_of_isDigit_head {cs : List Char} (h : ∀ c ∈ cs.head?, c.isDigit = true) :
    Text.sign cs = (false, cs) := by
  unfold Text.sign
  split
  · exact absurd (h '-' rfl) (by decide)
  · exact absurd (h '+' rfl) (by decide)
  · rfl

end Numeral

open Numeral

namespace Scaled

variable {x : Scaled}

theorem isDigit_toDigits {n : Nat} : ∀ c ∈ Nat.toDigits 10 n, c.isDigit = true := fun _ =>
  Nat.isDigit_of_mem_toDigits (by decide) (by decide)

/-- The written form without its sign. -/
def unsignedChars (x : Scaled) : List Char :=
  if x.isPlain then pointed (Nat.toDigits 10 x.coefficient) (-x.exponent).toNat
  else leading (Nat.toDigits 10 x.coefficient) ++ power x.adjusted

/-- The written form is that without its sign, after a minus for a negative number. -/
theorem toChars_eq (x : Scaled) :
    x.toChars = if x.negative then '-' :: x.unsignedChars else x.unsignedChars := rfl

/-- Without its sign, the written form starts with a digit. -/
theorem isDigit_head_unsignedChars (x : Scaled) :
    ∀ c ∈ x.unsignedChars.head?, c.isDigit = true := by
  unfold unsignedChars
  split
  · exact isDigit_head_pointed isDigit_toDigits _
  · exact isDigit_head_leading isDigit_toDigits Nat.toDigits_ne_nil _

/-- The reader finds the sign apart from the digits. -/
theorem sign_toChars (x : Scaled) : Text.sign x.toChars = (x.negative, x.unsignedChars) := by
  rw [toChars_eq]
  cases x.negative with
  | true => rfl
  | false => exact sign_of_isDigit_head x.isDigit_head_unsignedChars

/-- The reader finds the digits and the power of ten, in both notations. -/
theorem finite?_unsignedChars (x : Scaled) : finite? x.negative x.unsignedChars = some x := by
  unfold unsignedChars
  split
  next hplain =>
    have hexponent : x.exponent ≤ 0 := by
      rw [isPlain, Bool.and_eq_true] at hplain
      exact of_decide_eq_true hplain.1
    rw [finite?_pointed isDigit_toDigits Nat.toDigits_ne_nil, Nat.ofDigitChars_ten_toDigits,
      Int.toNat_of_nonneg (by omega), Int.neg_neg]
  next =>
    rw [finite?_leading isDigit_toDigits Nat.toDigits_ne_nil, Nat.ofDigitChars_ten_toDigits]
    have hplace : x.adjusted + 1 - (Nat.toDigits 10 x.coefficient).length = x.exponent := by
      rw [adjusted, digitCount]
      omega
    rw [hplace]

section
variable {digits : List Char} (hdigits : ∀ c ∈ digits, isWritten c = true)
include hdigits

/-- Digits with a point consist of characters of written numbers. -/
theorem isWritten_pointed (places : Nat) : ∀ c ∈ pointed digits places, isWritten c = true := by
  unfold pointed
  split
  · exact hdigits
  · split
    · simp only [List.forall_mem_append, List.forall_mem_cons]
      exact ⟨fun c hc => hdigits c (List.mem_of_mem_take hc), by decide,
        fun c hc => hdigits c (List.mem_of_mem_drop hc)⟩
    · simp only [List.forall_mem_append, List.forall_mem_cons]
      exact ⟨by decide, by decide, fun c hc => List.eq_of_mem_replicate hc ▸ by decide, hdigits⟩

/-- Digits with a point after the first one consist of characters of written numbers. -/
theorem isWritten_leading : ∀ c ∈ leading digits, isWritten c = true := by
  unfold leading
  split
  · rw [List.forall_mem_cons] at hdigits ⊢
    exact ⟨hdigits.1, List.forall_mem_cons.mpr ⟨by decide, hdigits.2⟩⟩
  · exact hdigits

end

theorem isWritten_toDigits {n : Nat} : ∀ c ∈ Nat.toDigits 10 n, isWritten c = true := fun c hc =>
  isWritten_of_isDigit (isDigit_toDigits c hc)

/-- A written power of ten consists of characters of written numbers. -/
theorem isWritten_power (e : Int) : ∀ c ∈ power e, isWritten c = true := by
  simp only [power, List.forall_mem_cons]
  refine ⟨by decide, ?_, isWritten_toDigits⟩
  split <;> decide

/-- A number is written in characters of written numbers. -/
theorem isWritten_toChars (x : Scaled) : ∀ c ∈ x.toChars, isWritten c = true := by
  have hunsigned : ∀ c ∈ x.unsignedChars, isWritten c = true := by
    unfold unsignedChars
    split
    · exact isWritten_pointed isWritten_toDigits _
    · exact List.forall_mem_append.mpr ⟨isWritten_leading isWritten_toDigits, isWritten_power _⟩
  rw [toChars_eq]
  split
  · exact List.forall_mem_cons.mpr ⟨by decide, hunsigned⟩
  · exact hunsigned

end Scaled

/-- The written form of a number reads back as the number with its sign, its digits and its power of
ten, unless that is beyond the range that numerals have. -/
theorem Decimal.read_toText (x : Scaled) :
    read (finite x).toText =
      if x.isReadable then .ok (finite x) else .error .invalidOperation := by
  have hchars : (finite x).toText = String.ofList x.toChars := rfl
  rw [read, hchars, plain?_ofList x.isWritten_toChars]
  simp only [ofChars, sign_toChars, finite?_unsignedChars]

end Passbook
