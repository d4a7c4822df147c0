import Passbook.Proofs.AccountNumber.Spelling
import Mathlib.Tactic.ByContra

/-!
# What a call for an account number answers

The answer is decided by five checks, in this order: the institution has a code of five digits, the
product a series of two, the sequence number is short enough to be written out, it is at least one,
and it has room in seven digits. The first that fails is the error, and there is no other one. A
call that passes them gets the number that spells series and sequence number. The series is looked
up once, after the first check.
-/

namespace Passbook.AccountNumber

variable {code series number number' : String} {institution found found' : Option String}
  {lookup lookup' : Int → Option String} {product product' n m : Int} {e : Error} {asked : List Int}

/-- The text is there and has exactly `k` digits. -/
def HasDigits (k : Nat) (text : Option String) : Prop := ∃ s, text = some s ∧ isDigits k s = true

/-- The answer once the series of the product is looked up. -/
def answer (institution found : Option String) (product n : Int) : Except Error String :=
  institutionSegment institution >>= fun segment =>
    seriesOf product found >>= fun series => assemble segment series product n

/-- Without a code of five digits there is no segment of the institution. -/
theorem institutionSegment_of_not (h : ¬HasDigits institutionCodeLength institution) :
    institutionSegment institution = .error (.institutionCodeMissing institution) := by
  cases institution with
  | none => rfl
  | some code =>
    have hcode : ¬isDigits institutionCodeLength code = true := fun hcode => h ⟨code, rfl, hcode⟩
    rw [institutionSegment, if_neg hcode]

theorem institutionSegment_of_isDigits (h : isDigits institutionCodeLength code = true) :
    institutionSegment (some code) = .ok (String.ofList [institutionLead] ++ code) := by
  rw [institutionSegment, if_pos h]

/-- Without a code there is no number. -/
theorem answer_of_no_code (h : ¬HasDigits institutionCodeLength institution) :
    answer institution found product n = .error (.institutionCodeMissing institution) := by
  rw [answer, institutionSegment_of_not h, error_bind]

/-- Without a series there is no number. -/
theorem answer_of_no_series (hcode : HasDigits institutionCodeLength institution)
    (h : ¬HasDigits seriesLength found) :
    answer institution found product n = .error (.accountSeriesMissing product found) := by
  obtain ⟨code, rfl, hcode⟩ := hcode
  rw [answer, institutionSegment_of_isDigits hcode, ok_bind]
  cases found with
  | none => rfl
  | some series =>
    have hseries : ¬isDigits seriesLength series = true := fun hseries => h ⟨series, rfl, hseries⟩
    rw [seriesOf, if_neg hseries, error_bind]

/-- With a code and a series the number is put together. -/
theorem answer_of_isDigits (hcode : isDigits institutionCodeLength code = true)
    (hseries : isDigits seriesLength series = true) :
    answer (some code) (some series) product n =
      assemble (String.ofList [institutionLead] ++ code) series product n := by
  rw [answer, institutionSegment_of_isDigits hcode, ok_bind, seriesOf, if_pos hseries, ok_bind]

/-- A sequence number with too many digits gets no number. -/
theorem answer_of_long (hcode : HasDigits institutionCodeLength institution)
    (hseries : HasDigits seriesLength found) (h : Text.isWritable n = false) :
    answer institution found product n = .error (.longInteger (digitCount n.natAbs)) := by
  obtain ⟨code, rfl, hcode⟩ := hcode
  obtain ⟨series, rfl, hseries⟩ := hseries
  rw [answer_of_isDigits hcode hseries, assemble, serial_eq hseries, if_pos h, error_bind]

/-- A sequence number below one gets no number. -/
theorem answer_of_lt_one (hcode : HasDigits institutionCodeLength institution)
    (hseries : HasDigits seriesLength found) (hshort : Text.isWritable n = true) (h : n < 1) :
    answer institution found product n = .error (.sequenceNotPositive n) := by
  obtain ⟨code, rfl, hcode⟩ := hcode
  obtain ⟨series, rfl, hseries⟩ := hseries
  rw [answer_of_isDigits hcode hseries, assemble, serial_eq hseries,
    if_neg (by simp [hshort]), if_pos h, error_bind]

/-- A sequence number without room gets no number. -/
theorem answer_of_overflow (hcode : HasDigits institutionCodeLength institution)
    (hseries : HasDigits seriesLength found) (hshort : Text.isWritable n = true)
    (h : 9999999 < n) :
    answer institution found product n = .error (.sequenceOverflow product n 7) := by
  obtain ⟨code, rfl, hcode⟩ := hcode
  obtain ⟨series, rfl, hseries⟩ := hseries
  rw [answer_of_isDigits hcode hseries, assemble, serial_eq hseries,
    if_neg (by simp [hshort]), if_neg (by omega), if_pos h, error_bind]

/-- A sequence number that has room gets the number that spells it. -/
theorem answer_spells (product : Int) (hcode : isDigits institutionCodeLength code = true)
    (hseries : isDigits seriesLength series = true) (hn : 1 ≤ n) (hle : n ≤ 9999999) :
    ∃ number, answer (some code) (some series) product n = .ok number ∧
      Spells code series n number := by
  rw [answer_of_isDigits hcode hseries]
  exact assemble_spells hcode hseries hn hle

/-- The errors, each with the check that fails and those passed before it. -/
theorem answer_eq_error_iff :
    answer institution found product n = .error e ↔
      (¬HasDigits institutionCodeLength institution ∧ e = .institutionCodeMissing institution) ∨
      (HasDigits institutionCodeLength institution ∧ ¬HasDigits seriesLength found ∧
        e = .accountSeriesMissing product found) ∨
      (HasDigits institutionCodeLength institution ∧ HasDigits seriesLength found ∧
        Text.isWritable n = false ∧ e = .longInteger (digitCount n.natAbs)) ∨
      (HasDigits institutionCodeLength institution ∧ HasDigits seriesLength found ∧
        Text.isWritable n = true ∧ n < 1 ∧ e = .sequenceNotPositive n) ∨
      (HasDigits institutionCodeLength institution ∧ HasDigits seriesLength found ∧
        Text.isWritable n = true ∧ 9999999 < n ∧ e = .sequenceOverflow product n 7) := by
  have hcomm : ∀ x : Error, (Except.error x : Except Error String) = .error e ↔ e = x := by
    intro x
    rw [Except.error.injEq, eq_comm]
  by_cases hcode : HasDigits institutionCodeLength institution
  · by_cases hseries : HasDigits seriesLength found
    · cases hshort : Text.isWritable n with
      | false =>
        rw [answer_of_long hcode hseries hshort, hcomm]
        simp [hcode, hseries]
      | true =>
        by_cases hlow : n < 1
        · rw [answer_of_lt_one hcode hseries hshort hlow, hcomm]
          have hroom : ¬9999999 < n := by omega
          simp [hcode, hseries, hlow, hroom]
        · by_cases hroom : 9999999 < n
          · rw [answer_of_overflow hcode hseries hshort hroom, hcomm]
            simp [hcode, hseries, hlow, hroom]
          · obtain ⟨code, rfl, hdigits⟩ := hcode
            obtain ⟨series, rfl, hdigits'⟩ := hseries
            have hn : 1 ≤ n := by omega
            have hle : n ≤ 9999999 := by omega
            obtain ⟨number, hnumber, -⟩ := answer_spells product hdigits hdigits' hn hle
            rw [hnumber]
            simp [hlow, hroom, HasDigits, hdigits, hdigits']
    · rw [answer_of_no_series hcode hseries, hcomm]
      simp [hcode, hseries]
  · rw [answer_of_no_code hcode, hcomm]
    simp [hcode]

/-- The number that a call gets is the one that spells series and sequence number. -/
theorem answer_eq_ok_iff :
    answer institution found product n = .ok number ↔
      ∃ code series, institution = some code ∧ found = some series ∧
        isDigits institutionCodeLength code = true ∧ isDigits seriesLength series = true ∧
        1 ≤ n ∧ n ≤ 9999999 ∧ Spells code series n number := by
  constructor
  · intro h
    have hnot : ∀ e, answer institution found product n ≠ .error e := by
      rw [h]
      exact nofun
    have hcode : HasDigits institutionCodeLength institution := by
      by_contra hcode
      exact hnot _ (answer_of_no_code hcode)
    have hseries : HasDigits seriesLength found := by
      by_contra hseries
      exact hnot _ (answer_of_no_series hcode hseries)
    have hshort : Text.isWritable n = true := by
      rw [← Bool.not_eq_false]
      exact fun hlong => hnot _ (answer_of_long hcode hseries hlong)
    have hn : 1 ≤ n := by
      by_contra hlow
      exact hnot _ (answer_of_lt_one hcode hseries hshort (by omega))
    have hle : n ≤ 9999999 := by
      by_contra hroom
      exact hnot _ (answer_of_overflow hcode hseries hshort (by omega))
    obtain ⟨code, rfl, hdigits⟩ := hcode
    obtain ⟨series, rfl, hdigits'⟩ := hseries
    obtain ⟨spelled, hspelled, hspells⟩ := answer_spells product hdigits hdigits' hn hle
    obtain rfl := Except.ok.inj (hspelled.symm.trans h)
    exact ⟨code, series, rfl, rfl, hdigits, hdigits', hn, hle, hspells⟩
  · rintro ⟨code, series, rfl, rfl, hdigits, hdigits', hn, hle, hspells⟩
    obtain ⟨spelled, hspelled, hspells'⟩ := answer_spells product hdigits hdigits' hn hle
    rw [hspelled, hspells.unique hspells']

/-- Two numbers of one institution are equal exactly if the series and the sequence numbers
are. -/
theorem answer_inj (h : answer institution found product n = .ok number)
    (h' : answer institution found' product' m = .ok number') :
    number = number' ↔ found = found' ∧ n = m := by
  obtain ⟨code, series, rfl, rfl, -, -, -, -, hspells⟩ := answer_eq_ok_iff.mp h
  obtain ⟨code', series', hsame, rfl, -, -, -, -, hspells'⟩ := answer_eq_ok_iff.mp h'
  obtain rfl := Option.some.inj hsame
  rw [Option.some.injEq]
  constructor
  · rintro rfl
    have hseries : series.toList = series'.toList := hspells.series.symm.trans hspells'.series
    exact ⟨String.toList_inj.mp hseries, hspells.sequence.symm.trans hspells'.sequence⟩
  · rintro ⟨rfl, rfl⟩
    exact hspells.unique hspells'

/-- A call without side effects answers from the series of its product. -/
theorem run_synthesize (institution : Option String) (lookup : Int → Option String)
    (product n : Int) :
    Id.run (synthesize institution (fun id => pure (lookup id)) product n) =
      answer institution (lookup product) product n := by
  rw [synthesize, answer]
  cases institutionSegment institution with
  | error e => rfl
  | ok segment => rfl

/-- A call that reads the series does so after the first check, and fails if the read does. -/
theorem join_synthesize (institution : Option String) (read : Int → Except Error (Option String))
    (product n : Int) :
    (synthesize institution read product n >>= id) =
      institutionSegment institution >>= fun segment => read product >>= fun found =>
        seriesOf product found >>= fun series => assemble segment series product n := by
  rw [synthesize]
  cases institutionSegment institution with
  | error e => rfl
  | ok segment => cases read product <;> rfl

/-- A call that reads the series fails with the read or answers from a series. -/
theorem join_synthesize_cases (institution : Option String)
    (read : Int → Except Error (Option String)) (product n : Int) :
    (∃ e, read product = .error e ∧ (synthesize institution read product n >>= id) = .error e) ∨
      ∃ found, (synthesize institution read product n >>= id) =
        answer institution found product n := by
  rw [join_synthesize]
  cases hread : read product with
  | ok found => exact .inr ⟨found, rfl⟩
  | error e =>
    cases hcode : institutionSegment institution with
    | ok segment => exact .inl ⟨e, rfl, rfl⟩
    | error e' => exact .inr ⟨none, by rw [answer, hcode, error_bind, error_bind]⟩

/-- The answer to a call, and the products whose series was asked for by then. -/
def traced (institution : Option String) (lookup : Int → Option String) (product n : Int)
    (asked : List Int) : Except Error String × List Int :=
  (synthesize institution (recording lookup) product n).run asked

/-- A call asks for the series of its product once, and only for an institution with a code. -/
theorem traced_eq (institution : Option String) (lookup : Int → Option String)
    (product n : Int) (asked : List Int) :
    (traced institution lookup product n asked).1 = answer institution (lookup product) product n ∧
      (HasDigits institutionCodeLength institution →
        (traced institution lookup product n asked).2 = asked ++ [product]) ∧
      (¬HasDigits institutionCodeLength institution →
        (traced institution lookup product n asked).2 = asked) := by
  by_cases h : HasDigits institutionCodeLength institution
  · obtain ⟨code, rfl, hdigits⟩ := h
    rw [traced, synthesize, answer, institutionSegment_of_isDigits hdigits]
    exact ⟨rfl, fun _ => rfl, fun hnot => absurd ⟨code, rfl, hdigits⟩ hnot⟩
  · rw [traced, synthesize, answer, institutionSegment_of_not h]
    exact ⟨rfl, fun hcode => absurd hcode h, fun _ => rfl⟩

/-- A number comes from a series of the product. -/
theorem series_of_synthesize
    (h : Id.run (synthesize institution (fun id => pure (lookup id)) product n) = .ok number) :
    ∃ series, lookup product = some series := by
  rw [run_synthesize] at h
  obtain ⟨-, series, -, hseries, -⟩ := answer_eq_ok_iff.mp h
  exact ⟨series, hseries⟩

/-- Two numbers of one institution are equal exactly if the series of the products and the
sequence numbers are. -/
theorem synthesize_eq_iff
    (h : Id.run (synthesize institution (fun id => pure (lookup id)) product n) = .ok number)
    (h' : Id.run (synthesize institution (fun id => pure (lookup' id)) product' m) =
      .ok number') :
    number = number' ↔ lookup product = lookup' product' ∧ n = m := by
  rw [run_synthesize] at h h'
  exact answer_inj h h'

/-- A call for an account number fails with the first of five checks that fails, or gets the
number that spells series and sequence number. A sequence number of up to 4300 digits passes the
third. -/
theorem synthesize_classified (institution : Option String) (lookup : Int → Option String)
    (product n : Int) (asked : List Int) :
    (∀ e, (traced institution lookup product n asked).1 = .error e ↔
      (¬HasDigits 5 institution ∧ e = .institutionCodeMissing institution) ∨
      (HasDigits 5 institution ∧ ¬HasDigits 2 (lookup product) ∧
        e = .accountSeriesMissing product (lookup product)) ∨
      (HasDigits 5 institution ∧ HasDigits 2 (lookup product) ∧ Text.isWritable n = false ∧
        e = .longInteger (digitCount n.natAbs)) ∨
      (HasDigits 5 institution ∧ HasDigits 2 (lookup product) ∧ Text.isWritable n = true ∧
        n < 1 ∧ e = .sequenceNotPositive n) ∨
      (HasDigits 5 institution ∧ HasDigits 2 (lookup product) ∧ Text.isWritable n = true ∧
        9999999 < n ∧ e = .sequenceOverflow product n 7)) ∧
    (Text.isWritable n = true ↔ digitCount n.natAbs ≤ 4300) ∧
    (∀ base, (traced institution lookup product n asked).1 ≠ .error (.checksumBase base)) ∧
    (¬HasDigits 5 institution → (traced institution lookup product n asked).2 = asked) ∧
    (HasDigits 5 institution →
      (traced institution lookup product n asked).2 = asked ++ [product]) ∧
    (∀ number, (traced institution lookup product n asked).1 = .ok number ↔
      ∃ code series, institution = some code ∧ lookup product = some series ∧
        isDigits 5 code = true ∧ isDigits 2 series = true ∧ 1 ≤ n ∧ n ≤ 9999999 ∧
        Spells code series n number) ∧
    (HasDigits 5 institution → HasDigits 2 (lookup product) → 1 ≤ n → n ≤ 9999999 →
      ∃ number, (traced institution lookup product n asked).1 = .ok number) ∧
    (∀ lookup' product' m asked' number number',
      (traced institution lookup product n asked).1 = .ok number →
      (traced institution lookup' product' m asked').1 = .ok number' →
      (number = number' ↔ lookup product = lookup' product' ∧ n = m)) := by
  obtain ⟨hcall, hasked, hnot⟩ := traced_eq institution lookup product n asked
  refine ⟨?_, decide_eq_true_iff, ?_, hnot, hasked, ?_, ?_, ?_⟩
  · intro e
    rw [hcall]
    exact answer_eq_error_iff
  · intro base
    rw [hcall, ne_eq, answer_eq_error_iff]
    simp
  · intro number
    rw [hcall]
    exact answer_eq_ok_iff
  · rintro ⟨code, rfl, hcode⟩ ⟨series, hseries, hdigits⟩ hn hle
    rw [hcall, hseries]
    obtain ⟨number, hnumber, -⟩ := answer_spells product hcode hdigits hn hle
    exact ⟨number, hnumber⟩
  · intro lookup' product' m asked' number number' h h'
    rw [hcall] at h
    rw [(traced_eq institution lookup' product' m asked').1] at h'
    exact answer_inj h h'

/-- The first number of a product with series `02`, which is asked for after another one. -/
theorem first_number_spells :
    traced (some "50547") (fun _ => some "02") 7 1 [3] = (.ok "0200000017", [3, 7]) ∧
      Spells "50547" "02" 1 "0200000017" := by
  obtain ⟨-, -, -, -, -, hok, -, -⟩ :=
    synthesize_classified (some "50547") (fun _ => some "02") 7 1 [3]
  obtain ⟨code, series, hcode, hseries, -, -, -, -, hspells⟩ := (hok "0200000017").mp rfl
  obtain rfl := Option.some.inj hcode
  obtain rfl := Option.some.inj hseries
  exact ⟨rfl, hspells⟩

end Passbook.AccountNumber
