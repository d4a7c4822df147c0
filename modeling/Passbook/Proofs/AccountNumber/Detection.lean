import Passbook.Proofs.AccountNumber.Answers
import Mathlib.Data.Nat.ModEq
import Mathlib.Tactic.ByContra

/-!
# Wrong digits are detected

Every weight under the check digit is coprime to ten, and the check digit itself counts once. So a
single digit cannot be changed without changing the weighted sum modulo ten: of fifteen digits the
check digit changes, and of an account number the check digit no longer fits. Two account numbers
of one institution therefore differ at two places or more.
-/

namespace Passbook.AccountNumber

variable {code series series' number number' base : String} {institution : Option String}
  {ws vs : List Nat} {cs ds : List Char} {c d : Char} {n m : Int} {i : Nat}

/-- A digit is known by its value. -/
theorem eq_of_digitValue (hc : c.isDigit = true) (hd : d.isDigit = true)
    (h : digitValue c = digitValue d) : c = d := by
  rw [← digitChar_digitValue hc, h, digitChar_digitValue hd]

/-- The sum of digits, each multiplied by the weight at its place among `ws`. -/
def sumBy (ws : List Nat) (digits : List Char) : Nat :=
  (digits.zip ws).foldr (fun (c, w) total => digitValue c * w + total) 0

theorem sumBy_cons (w : Nat) (ws : List Nat) (c : Char) (cs : List Char) :
    sumBy (w :: ws) (c :: cs) = digitValue c * w + sumBy ws cs := rfl

/-- The weighted sum of a word is that of its parts. -/
theorem sumBy_append (h : cs.length = ws.length) :
    sumBy (ws ++ vs) (cs ++ ds) = sumBy ws cs + sumBy vs ds := by
  induction cs generalizing ws with
  | nil =>
    obtain rfl := List.length_eq_zero_iff.mp h.symm
    simp [sumBy]
  | cons c cs ih =>
    cases ws with
    | nil => exact absurd h (Nat.succ_ne_zero _)
    | cons w ws =>
      rw [List.cons_append, List.cons_append, sumBy_cons, sumBy_cons, ih (Nat.succ.inj h),
        Nat.add_assoc]

/-- With weights coprime to ten another digit at one place gives another sum modulo ten. -/
theorem not_modEq_sumBy_set (hws : ∀ w ∈ ws, Nat.Coprime 10 w) (hlength : cs.length ≤ ws.length)
    (hcs : ∀ x ∈ cs, x.isDigit = true) (hc : c.isDigit = true) (hi : i < cs.length)
    (hne : cs[i]? ≠ some c) : ¬sumBy ws (cs.set i c) ≡ sumBy ws cs [MOD 10] := by
  induction cs generalizing ws i with
  | nil => exact absurd hi (Nat.not_lt_zero i)
  | cons d cs ih =>
    cases ws with
    | nil => exact absurd hlength (Nat.not_succ_le_zero _)
    | cons w ws =>
      obtain ⟨hw, hws⟩ := List.forall_mem_cons.mp hws
      obtain ⟨hd, hcs⟩ := List.forall_mem_cons.mp hcs
      cases i with
      | zero =>
        intro hsame
        rw [List.set_cons_zero, sumBy_cons, sumBy_cons] at hsame
        have hdigit := (Nat.ModEq.add_right_cancel' _ hsame).cancel_right_of_coprime hw
        have hvalue := hdigit.eq_of_lt_of_lt (digitValue_lt_ten hc) (digitValue_lt_ten hd)
        exact hne (congrArg some (eq_of_digitValue hd hc hvalue.symm))
      | succ i =>
        intro hsame
        rw [List.set_cons_succ, sumBy_cons, sumBy_cons] at hsame
        exact ih hws (Nat.le_of_succ_le_succ hlength) hcs (Nat.lt_of_succ_lt_succ hi) hne
          (Nat.ModEq.add_left_cancel' _ hsame)

/-- Sums with one complement agree modulo ten. -/
theorem modEq_of_complement_eq {a b : Nat} (h : complement a = complement b) :
    a ≡ b [MOD 10] := by
  unfold complement at h
  unfold Nat.ModEq
  omega

/-- Another digit at one place of fifteen gives another check digit. -/
theorem checkDigit_set_ne (hbase : isDigits 15 base = true) (hi : i < 15) (hc : c.isDigit = true)
    (hne : base.toList[i]? ≠ some c) :
    ∃ d d', checkDigit base = .ok d ∧
      checkDigit (String.ofList (base.toList.set i c)) = .ok d' ∧ d ≠ d' := by
  obtain ⟨hlength, hdigits⟩ := isDigits_iff.mp hbase
  have hset : isDigits 15 (String.ofList (base.toList.set i c)) = true := by
    rw [isDigits_iff, String.toList_ofList, List.length_set]
    refine ⟨hlength, fun x hx => ?_⟩
    rcases List.mem_or_eq_of_mem_set hx with hx | rfl
    · exact hdigits x hx
    · exact hc
  have hcoprime : ∀ w ∈ weights, Nat.Coprime 10 w := by decide
  refine ⟨_, _, checkDigit_eq hbase, checkDigit_eq hset, fun hsame => ?_⟩
  rw [String.toList_ofList] at hsame
  exact not_modEq_sumBy_set hcoprime hlength.le hdigits hc (hlength ▸ hi) hne
    (modEq_of_complement_eq hsame).symm

/-- The weighted sum of an account number with its check digit, under the code of an institution,
is a multiple of ten. -/
theorem Spells.sumBy_modEq (hcode : isDigits institutionCodeLength code = true)
    (h : Spells code series n number) :
    sumBy (weights ++ [1]) ([institutionLead] ++ code.toList ++ number.toList) ≡ 0 [MOD 10] := by
  obtain ⟨c, hlast, hdvd⟩ := h.check
  have hlength : ([institutionLead] ++ code.toList ++ number.toList.take 9).length =
      weights.length := by
    rw [List.length_append, List.length_append, length_of_isDigits hcode, List.length_take,
      h.length]
    rfl
  rw [← List.take_append_drop 9 number.toList, hlast, ← List.append_assoc, sumBy_append hlength,
    Nat.modEq_zero_iff_dvd, Nat.add_comm]
  simpa [sumBy, weightedSum] using hdvd

/-- An account number with another digit at one place is none. -/
theorem Spells.not_spells_set (hcode : isDigits institutionCodeLength code = true)
    (h : Spells code series n number) (hi : i < 10) (hne : number.toList[i]? ≠ some c) :
    ¬Spells code series' m (String.ofList (number.toList.set i c)) := by
  intro h'
  have hinside : i < number.toList.length := by rwa [h.length]
  have hc : c.isDigit = true := by
    refine h'.isDigit c ?_
    rw [String.toList_ofList]
    exact List.mem_set hinside c
  have hdigits : ∀ x ∈ [institutionLead] ++ code.toList ++ number.toList, x.isDigit = true := by
    intro x hx
    rcases List.mem_append.mp hx with hx | hx
    · rcases List.mem_append.mp hx with hx | hx
      · obtain rfl := List.mem_singleton.mp hx
        decide
      · exact (isDigits_iff.mp hcode).2 x hx
    · exact h.isDigit x hx
  have hlead : ([institutionLead] ++ code.toList).length = 6 := by
    rw [List.length_append, length_of_isDigits hcode]
    rfl
  -- the changed digit stands behind the six digits of the institution
  have hset : [institutionLead] ++ code.toList ++ number.toList.set i c =
      ([institutionLead] ++ code.toList ++ number.toList).set (6 + i) c := by
    rw [List.set_append_right _ _ (by omega), hlead, Nat.add_sub_cancel_left]
  have hsum := h.sumBy_modEq hcode
  have hsum' := h'.sumBy_modEq hcode
  rw [String.toList_ofList, hset] at hsum'
  refine not_modEq_sumBy_set (by decide) ?_ hdigits hc ?_ ?_ (hsum'.trans hsum.symm)
  · rw [List.length_append, hlead, h.length]
    decide
  · rw [List.length_append, hlead]
    omega
  · rwa [List.getElem?_append_right (by omega), hlead, Nat.add_sub_cancel_left]

/-- Equally long words that are the same but for one place are one word with another letter
there. -/
theorem eq_set_of_forall_ne {xs ys : List Char} (hlength : ys.length = xs.length)
    (hi : ys[i]? = some c) (h : ∀ j, j ≠ i → xs[j]? = ys[j]?) : ys = xs.set i c := by
  obtain ⟨hinside, -⟩ := List.getElem?_eq_some_iff.mp hi
  apply List.ext_getElem?
  intro j
  by_cases hj : j = i
  · rw [hj, hi, List.getElem?_set_self (hlength ▸ hinside)]
  · rw [List.getElem?_set_ne (Ne.symm hj), h j hj]

/-- Two account numbers of one institution differ at two places or more. -/
theorem Spells.differ_twice (hcode : isDigits institutionCodeLength code = true)
    (h : Spells code series n number) (h' : Spells code series' m number')
    (hne : number ≠ number') :
    ∃ i j, i < j ∧ j < 10 ∧ number.toList[i]? ≠ number'.toList[i]? ∧
      number.toList[j]? ≠ number'.toList[j]? := by
  have hinside : ∀ k, number.toList[k]? ≠ number'.toList[k]? → k < 10 := by
    intro k hk
    by_contra hlarge
    refine hk ?_
    rw [List.getElem?_eq_none (by rw [h.length]; omega),
      List.getElem?_eq_none (by rw [h'.length]; omega)]
  obtain ⟨i, hi⟩ : ∃ i, number.toList[i]? ≠ number'.toList[i]? := by
    by_contra hsame
    refine hne (String.toList_inj.mp (List.ext_getElem? fun k => ?_))
    by_contra hk
    exact hsame ⟨k, hk⟩
  obtain ⟨j, hj, hij⟩ : ∃ j, number.toList[j]? ≠ number'.toList[j]? ∧ j ≠ i := by
    by_contra hnone
    have hi' : i < number'.toList.length := h'.length.symm ▸ hinside i hi
    have hset : number'.toList = number.toList.set i number'.toList[i] := by
      refine eq_set_of_forall_ne (h'.length.trans h.length.symm) (List.getElem?_eq_getElem hi') ?_
      intro k hk
      by_contra hdiffer
      exact hnone ⟨k, hdiffer, hk⟩
    have hnumber : String.ofList (number.toList.set i number'.toList[i]) = number' := by
      rw [← hset, String.ofList_toList]
    rw [List.getElem?_eq_getElem hi'] at hi
    exact h.not_spells_set hcode (hi'.trans_eq h'.length) hi (hnumber ▸ h')
  rcases lt_or_gt_of_ne hij with hlt | hgt
  · exact ⟨j, i, hlt, hinside i hi, hj, hi⟩
  · exact ⟨i, j, hgt, hinside j hj, hi, hj⟩

/-- A call for an account number in the institution can return this one. -/
def Issued (institution : Option String) (number : String) : Prop :=
  ∃ (lookup : Int → Option String) (product n : Int),
    Id.run (synthesize institution (fun id => pure (lookup id)) product n) = .ok number

/-- An account number that was issued is spelled under the code of the institution. -/
theorem Issued.spells (h : Issued institution number) :
    ∃ code, institution = some code ∧ isDigits institutionCodeLength code = true ∧
      ∃ series n, Spells code series n number := by
  obtain ⟨lookup, product, n, hcall⟩ := h
  rw [run_synthesize] at hcall
  obtain ⟨code, series, hinstitution, -, hcode, -, -, -, hspells⟩ := answer_eq_ok_iff.mp hcall
  exact ⟨code, hinstitution, hcode, series, n, hspells⟩

/-- Two account numbers of one institution are spelled under one code. -/
theorem Issued.spells_both (h : Issued institution number) (h' : Issued institution number') :
    ∃ code, isDigits institutionCodeLength code = true ∧
      (∃ series n, Spells code series n number) ∧ ∃ series m, Spells code series m number' := by
  obtain ⟨code, hinstitution, hcode, hspells⟩ := h.spells
  obtain ⟨code', hinstitution', -, hspells'⟩ := h'.spells
  obtain rfl := Option.some.inj (hinstitution.symm.trans hinstitution')
  exact ⟨code, hcode, hspells, hspells'⟩

/-- A wrong digit in an account number is detected. Two numbers that can be issued for one
institution, for any products, series and sequence numbers, differ at two of their ten places or
more; a number with one other character can not be issued; and of fifteen digits the check digit
changes with any one of them. -/
theorem synthesize_detects (institution : Option String) :
    (∀ number number', Issued institution number → Issued institution number' →
      number ≠ number' → ∃ i j, i < j ∧ j < 10 ∧ number.toList[i]? ≠ number'.toList[i]? ∧
        number.toList[j]? ≠ number'.toList[j]?) ∧
    (∀ number i c, Issued institution number → i < 10 → number.toList[i]? ≠ some c →
      ¬Issued institution (String.ofList (number.toList.set i c))) ∧
    (∀ base i c, isDigits 15 base = true → i < 15 → c.isDigit = true →
      base.toList[i]? ≠ some c → ∃ d d', checkDigit base = .ok d ∧
        checkDigit (String.ofList (base.toList.set i c)) = .ok d' ∧ d ≠ d') := by
  refine ⟨?_, ?_, fun base i c => checkDigit_set_ne⟩
  · intro number number' h h' hne
    obtain ⟨code, hcode, ⟨series, n, hspells⟩, series', m, hspells'⟩ := h.spells_both h'
    exact hspells.differ_twice hcode hspells' hne
  · intro number i c h hi hne h'
    obtain ⟨code, hcode, ⟨series, n, hspells⟩, series', m, hspells'⟩ := h.spells_both h'
    exact hspells.not_spells_set hcode hi hne hspells'

/-- The first two numbers of a series differ in the last digit of the sequence number and in the
check digit, and with one of the two changed alone the first is no account number. -/
theorem firstTwo_detected :
    Issued (some "50547") "0200000017" ∧ Issued (some "50547") "0200000024" ∧
      (∃ i j, i < j ∧ j < 10 ∧ "0200000017".toList[i]? ≠ "0200000024".toList[i]? ∧
        "0200000017".toList[j]? ≠ "0200000024".toList[j]?) ∧
      ¬Issued (some "50547") "0200000027" ∧
      ∃ d d', checkDigit "950547020000001" = .ok d ∧ checkDigit "950547020000002" = .ok d' ∧
        d ≠ d' := by
  obtain ⟨hpair, hchanged, hbase⟩ := synthesize_detects (some "50547")
  have hfirst : Issued (some "50547") "0200000017" := ⟨fun _ => some "02", 7, 1, rfl⟩
  have hsecond : Issued (some "50547") "0200000024" := ⟨fun _ => some "02", 8, 2, rfl⟩
  refine ⟨hfirst, hsecond, hpair _ _ hfirst hsecond (by decide), ?_, ?_⟩
  · exact hchanged "0200000017" 8 '2' hfirst (by decide) (by decide)
  · exact hbase "950547020000001" 14 '2' (by decide) (by decide) (by decide) (by decide)

end Passbook.AccountNumber
