import Passbook.AccountNumber
import Passbook.MachineWord
import Passbook.Proofs.Outcome

/-!
# How an account number is spelled

A serial of a series of two digits leaves the sequence number seven places, so it has room up to
9999999. A number with too many digits to be written out is refused before that. With the code of an
institution the serial makes fifteen digits, which always have a check digit. The account number is
the only text of ten digits that spells the series and the sequence number and has the digit at its
end that fills the weighted sum up to a multiple of ten.
-/

namespace Passbook

namespace Text

/-- Equally long words of digits that go on to one number from two others start from one number
and are one word. -/
theorem ofDigitChars_inj {xs ys : List Char} {a b : Nat} (hlength : xs.length = ys.length)
    (hxs : ∀ c ∈ xs, c.isDigit = true) (hys : ∀ c ∈ ys, c.isDigit = true)
    (h : Nat.ofDigitChars 10 xs a = Nat.ofDigitChars 10 ys b) : a = b ∧ xs = ys := by
  induction xs generalizing ys a b with
  | nil =>
    obtain rfl := List.length_eq_zero_iff.mp hlength.symm
    exact ⟨h, rfl⟩
  | cons x xs ih =>
    cases ys with
    | nil => exact absurd hlength (Nat.succ_ne_zero _)
    | cons y ys =>
      obtain ⟨hx, hxs⟩ := List.forall_mem_cons.mp hxs
      obtain ⟨hy, hys⟩ := List.forall_mem_cons.mp hys
      rw [Nat.ofDigitChars_cons, Nat.ofDigitChars_cons] at h
      obtain ⟨hstart, rfl⟩ := ih (Nat.succ.inj hlength) hxs hys h
      have hx' := Char.isDigit_iff_toNat.mp hx
      have hy' := Char.isDigit_iff_toNat.mp hy
      have hlow : '0'.toNat = 48 := rfl
      have hhigh : '9'.toNat = 57 := rfl
      have hdigit : x.toNat = y.toNat := by omega
      exact ⟨by omega, by rw [Char.toNat_inj.mp hdigit]⟩

/-- An integer that has room in a machine word has at most nineteen digits and can be written
out. -/
theorem isWritable_of_fitsWord {n : Int} (h : fitsWord n = true) : isWritable n = true := by
  obtain ⟨hlow, hhigh⟩ := fitsWord_iff.mp h
  have hlength : (Nat.toDigits 10 n.natAbs).length ≤ 19 :=
    (Nat.length_toDigits_le_iff (by decide) (by decide)).mpr (by omega)
  have hmax : 19 ≤ maxDigits := by decide
  exact decide_eq_true (Nat.le_trans hlength hmax)

end Text

namespace AccountNumber

variable {code series serial number number' base : String} {product n : Int} {k sum d : Nat}
  {c : Char}

theorem length_of_isDigits {s : String} (h : isDigits k s = true) : s.toList.length = k := by
  rw [isDigits, Bool.and_eq_true] at h
  exact beq_iff_eq.mp h.1

theorem isDigits_iff {s : String} :
    isDigits k s = true ↔ s.toList.length = k ∧ ∀ c ∈ s.toList, c.isDigit = true := by
  rw [isDigits, Bool.and_eq_true, beq_iff_eq, List.all_eq_true]

/-- Digits after digits are digits. -/
theorem isDigits_append {s t : String} {m : Nat} (hs : isDigits k s = true)
    (ht : isDigits m t = true) : isDigits (k + m) (s ++ t) = true := by
  obtain ⟨hsLength, hsDigits⟩ := isDigits_iff.mp hs
  obtain ⟨htLength, htDigits⟩ := isDigits_iff.mp ht
  rw [isDigits_iff, String.toList_append, List.length_append, hsLength, htLength]
  refine ⟨rfl, ?_⟩
  intro c hc
  rcases List.mem_append.mp hc with hc | hc
  · exact hsDigits c hc
  · exact htDigits c hc

/-- The value of a digit is below ten. -/
theorem digitValue_lt_ten (h : c.isDigit = true) : digitValue c < 10 := by
  have hbounds := Char.isDigit_iff_toNat.mp h
  have hlow : '0'.toNat = 48 := rfl
  have hhigh : '9'.toNat = 57 := rfl
  unfold digitValue
  omega

theorem digitValue_digitChar (h : d < 10) : digitValue (Nat.digitChar d) = d :=
  Nat.toNat_digitChar_sub_48_of_lt_ten h

/-- A digit is the character of its value. -/
theorem digitChar_digitValue (h : c.isDigit = true) : Nat.digitChar (digitValue c) = c := by
  apply Char.toNat_inj.mp
  rw [Nat.toNat_digitChar_of_lt_ten (digitValue_lt_ten h), digitValue]
  have hbounds := Char.isDigit_iff_toNat.mp h
  have hlow : '0'.toNat = 48 := rfl
  omega

/-- The characters of one digit. -/
theorem toList_toString_digit (h : d < 10) : (toString d).toList = [Nat.digitChar d] := by
  rw [Nat.toString_eq_ofList_toDigits, String.toList_ofList, Nat.toDigits_of_lt_base h]

/-- A number below ten is written as one digit. -/
theorem isDigits_toString_digit (h : d < 10) : isDigits 1 (toString d) = true := by
  rw [isDigits_iff, toList_toString_digit h]
  refine ⟨rfl, ?_⟩
  intro c hc
  obtain rfl := List.mem_singleton.mp hc
  rw [Nat.isDigit_digitChar, decide_eq_true h]

theorem complement_lt_ten (sum : Nat) : complement sum < 10 := Nat.mod_lt _ (by decide)

/-- A digit fills a sum up to a multiple of ten exactly if it is the complement. -/
theorem dvd_add_iff (h : d < 10) : 10 ∣ d + sum ↔ d = complement sum := by
  unfold complement
  omega

/-- A text of ten digits that spells a series and a sequence number under the code of an
institution. -/
structure Spells (code series : String) (n : Int) (number : String) : Prop where
  digits : isDigits 10 number = true
  /-- The first two digits are the series. -/
  series : number.toList.take 2 = series.toList
  /-- The next seven read as the sequence number. -/
  sequence : (Nat.ofDigitChars 10 ((number.toList.drop 2).take 7) 0 : Int) = n
  /-- The last one fills the weighted sum of the digit nine, the code and the digits before it up
  to a multiple of ten. -/
  check : ∃ c, number.toList.drop 9 = [c] ∧
    10 ∣ digitValue c +
      weightedSum ([institutionLead] ++ code.toList ++ number.toList.take 9)

namespace Spells

theorem length (h : Spells code series n number) : number.toList.length = 10 :=
  (isDigits_iff.mp h.digits).1

theorem isDigit (h : Spells code series n number) : ∀ c ∈ number.toList, c.isDigit = true :=
  (isDigits_iff.mp h.digits).2

/-- The digits before the check digit are determined by what they spell. -/
theorem take_nine_eq (h : Spells code series n number) (h' : Spells code series n number') :
    number.toList.take 9 = number'.toList.take 9 := by
  have hnine : ∀ s : String, s.toList.take 9 = s.toList.take 2 ++ (s.toList.drop 2).take 7 := by
    intro s
    rw [← List.take_add]
  have hread : Nat.ofDigitChars 10 ((number.toList.drop 2).take 7) 0 =
      Nat.ofDigitChars 10 ((number'.toList.drop 2).take 7) 0 := by
    have hn := h.sequence
    have hn' := h'.sequence
    omega
  have hlength : ((number.toList.drop 2).take 7).length =
      ((number'.toList.drop 2).take 7).length := by
    simp only [List.length_take, List.length_drop, h.length, h'.length]
  have hwords := Text.ofDigitChars_inj hlength
    (fun c hc => h.isDigit c (List.mem_of_mem_drop (List.mem_of_mem_take hc)))
    (fun c hc => h'.isDigit c (List.mem_of_mem_drop (List.mem_of_mem_take hc))) hread
  rw [hnine, hnine, h.series, h'.series, hwords.2]

/-- Only one text spells a series and a sequence number under a code. -/
theorem unique (h : Spells code series n number) (h' : Spells code series n number') :
    number = number' := by
  obtain ⟨c, hlast, hdvd⟩ := h.check
  obtain ⟨c', hlast', hdvd'⟩ := h'.check
  have hnine := h.take_nine_eq h'
  have hc : c.isDigit = true := h.isDigit c (List.mem_of_mem_drop (i := 9) (by simp [hlast]))
  have hc' : c'.isDigit = true := h'.isDigit c' (List.mem_of_mem_drop (i := 9) (by simp [hlast']))
  rw [← hnine, dvd_add_iff (digitValue_lt_ten hc')] at hdvd'
  rw [dvd_add_iff (digitValue_lt_ten hc)] at hdvd
  have hsame : c = c' := by
    rw [← digitChar_digitValue hc, ← digitChar_digitValue hc', hdvd, hdvd']
  apply String.toList_inj.mp
  rw [← List.take_append_drop 9 number.toList, ← List.take_append_drop 9 number'.toList, hnine,
    hlast, hlast', hsame]

end Spells

/-- A number needs more than seven places exactly above 9999999. -/
theorem seven_lt_length_padded_iff (m : Nat) :
    7 < (Text.padded 7 m).length ↔ 9999999 < m := by
  have hdigits : (Nat.toDigits 10 m).length ≤ 7 ↔ m < 10 ^ 7 :=
    Nat.length_toDigits_le_iff (by decide) (by decide)
  rw [Text.padded, Text.length_padLeft]
  omega

/-- A number up to 9999999 fills seven places. -/
theorem length_padded_of_le {m : Nat} (h : m ≤ 9999999) : (Text.padded 7 m).length = 7 := by
  have hlong : 7 ≤ (Text.padded 7 m).length := by
    rw [Text.padded, Text.length_padLeft]
    omega
  have hfits := seven_lt_length_padded_iff m
  omega

/-- A serial of a series of two digits leaves the sequence number seven places. -/
theorem serial_eq (h : isDigits seriesLength series = true) :
    AccountNumber.serial product series n =
      if Text.isWritable n = false then .error (.longInteger (digitCount n.natAbs))
      else if n < 1 then .error (.sequenceNotPositive n)
      else if 9999999 < n then .error (.sequenceOverflow product n 7)
      else .ok (series ++ String.ofList (Text.padded 7 n.toNat)) := by
  have hwidth : (serialLength : Int) - series.toList.length = 7 := by
    rw [length_of_isDigits h]
    rfl
  have hplaces : (7 : Int).toNat = 7 := rfl
  have hroom : ¬(1 ≤ n ∧ (7 : Int) < 0) := by omega
  unfold AccountNumber.serial
  simp only [hwidth, if_neg hroom, Bool.not_eq_eq_eq_not, Bool.not_true]
  split
  · rfl
  · split
    · rfl
    · have hfits : (7 : Int) < (Text.padded 7 n.toNat).length ↔ 9999999 < n := by
        have hlong := seven_lt_length_padded_iff n.toNat
        omega
      simp only [hplaces, hfits]

/-- The sequence number in its seven places is seven digits. -/
theorem isDigits_padded {m : Nat} (h : m ≤ 9999999) :
    isDigits 7 (String.ofList (Text.padded 7 m)) = true := by
  rw [isDigits_iff, String.toList_ofList]
  exact ⟨length_padded_of_le h, fun c hc => Text.isDigit_of_mem_padded hc⟩

/-- The check digit of fifteen digits fills their weighted sum up. -/
theorem checkDigit_eq (h : isDigits 15 base = true) :
    checkDigit base = .ok (complement (weightedSum base.toList)) := by
  rw [checkDigit, if_pos (show isDigits weights.length base = true from h)]

/-- A serial with its check digit spells the series and the sequence number of the serial. -/
theorem spells_serial (hserial : isDigits 9 serial = true)
    (hseries : serial.toList.take 2 = series.toList)
    (hread : (Nat.ofDigitChars 10 (serial.toList.drop 2) 0 : Int) = n) :
    Spells code series n (serial ++ toString (complement (weightedSum
      ([institutionLead] ++ code.toList ++ serial.toList)))) := by
  have hd := complement_lt_ten (weightedSum ([institutionLead] ++ code.toList ++ serial.toList))
  generalize hdigit : complement (weightedSum
    ([institutionLead] ++ code.toList ++ serial.toList)) = digit at hd ⊢
  have hlength : serial.toList.length = 9 := (isDigits_iff.mp hserial).1
  have hchars : (serial ++ toString digit).toList = serial.toList ++ [Nat.digitChar digit] := by
    rw [String.toList_append, toList_toString_digit hd]
  have hnine : (serial ++ toString digit).toList.take 9 = serial.toList := by
    rw [hchars, List.take_left' hlength]
  refine ⟨isDigits_append hserial (isDigits_toString_digit hd), ?_, ?_, ?_⟩
  · rw [hchars, List.take_append_of_le_length (by omega), hseries]
  · have hword : (serial.toList.drop 2).length = 7 := by
      rw [List.length_drop, hlength]
    rw [hchars, List.drop_append_of_le_length (by omega), List.take_left' hword, hread]
  · refine ⟨Nat.digitChar digit, ?_, ?_⟩
    · rw [hchars, List.drop_left' hlength]
    · rw [hnine, digitValue_digitChar hd, dvd_add_iff hd, hdigit]

/-- A sequence number that has room is spelled. -/
theorem assemble_spells (hcode : isDigits institutionCodeLength code = true)
    (hseries : isDigits seriesLength series = true) (hn : 1 ≤ n) (hle : n ≤ 9999999) :
    ∃ number, assemble (String.ofList [institutionLead] ++ code) series product n = .ok number ∧
      Spells code series n number := by
  have hlength : series.toList.length = 2 := length_of_isDigits hseries
  have hword : isDigits 7 (String.ofList (Text.padded 7 n.toNat)) = true :=
    isDigits_padded (by omega)
  have hdigits : isDigits 9 (series ++ String.ofList (Text.padded 7 n.toNat)) = true :=
    isDigits_append hseries hword
  have hserial : AccountNumber.serial product series n =
      .ok (series ++ String.ofList (Text.padded 7 n.toNat)) := by
    have hword : fitsWord n = true := fitsWord_iff.mpr (by omega)
    have hshort : ¬Text.isWritable n = false := by
      rw [Text.isWritable_of_fitsWord hword]
      decide
    rw [serial_eq hseries, if_neg hshort, if_neg (by omega), if_neg (by omega)]
  have hlead : isDigits 1 (String.ofList [institutionLead]) = true := by decide
  have hbase := isDigits_append (isDigits_append hlead hcode) hdigits
  refine ⟨_, ?_, spells_serial hdigits ?_ ?_⟩
  · rw [assemble, hserial, ok_bind, checkDigit_eq hbase, ok_bind]
    simp only [String.toList_append, String.toList_ofList]
    rfl
  · rw [String.toList_append, List.take_left' hlength]
  · rw [String.toList_append, List.drop_left' hlength, String.toList_ofList,
      Text.ofDigitChars_padded]
    omega

end AccountNumber

end Passbook
