import Passbook.Proofs.Decimal.Readable
import Passbook.Proofs.Journal.Operations
import Passbook.Proofs.Settlement.Numbers

/-!
# What a payment states

The message of a payment and the record of a settlement state amounts in their written form. No
written amount has a blank or a bracket in it, so a reader who knows the words of a message finds
where an amount ends, and reads the amount that was meant, with its sign, its digits and its power
of ten. So the message of a payment tells all its amounts, and whether tax was applied.
-/

namespace Passbook

open Decimal

namespace Payment

/-- The amounts that a message states. -/
inductive Stated where
  | taxed (fee tax total : Decimal)
  | untaxed (fee : Decimal)
  deriving DecidableEq, Repr

/-- Whether an amount ends before the character: a blank or a closing bracket. -/
def endsAmount (c : Char) : Bool := c == ' ' || c == ')'

/-- Reads an amount that stands behind some words, with what is left of the message. -/
def amountAfter? (words : String) (message : List Char) : Option (Decimal × List Char) := do
  let rest ← message.dropPrefix? words.toList
  let numeral := rest.takeWhile (!endsAmount ·)
  let amount ← (Datum.text (String.ofList numeral)).toDecimal.toOption
  return (amount, rest.drop numeral.length)

/-- Reads the amounts out of the message of a payment. -/
def stated? (message : String) : Option Stated := do
  let (fee, rest) ← amountAfter? "Charge of " message.toList
  if rest = " paid (no VAT applicable)".toList then return .untaxed fee
  else
    let (tax, rest) ← amountAfter? " paid with VAT of " rest
    let (total, rest) ← amountAfter? " (Total: " rest
    if rest = ")".toList then return .taxed fee tax total else none

/-- The amounts that the message of a payment is to state. -/
def stated (p : Payment) : Stated :=
  if p.taxApplied then .taxed p.feeAmount p.taxAmount p.total else .untaxed p.feeAmount

section
variable {fee tax total amount : Decimal}

/-- No amount ends within its written form. -/
theorem endsAmount_of_isWritten {c : Char} (h : isWritten c = true) : endsAmount c = false := by
  obtain ⟨hlow, -⟩ := toNat_of_isWritten h
  rw [endsAmount, Bool.or_eq_false_iff, beq_eq_false_iff_ne, beq_eq_false_iff_ne]
  constructor
  · rintro rfl
    exact absurd hlow (by decide)
  · rintro rfl
    exact absurd hlow (by decide)

/-- A written amount is read where it stands, up to the character that ends it. -/
theorem amountAfter?_append (words : String) (hamount : amount.IsReadable) {rest : List Char}
    (hrest : rest.head?.any endsAmount = true) :
    amountAfter? words (words.toList ++ (amount.toText.toList ++ rest)) = some (amount, rest) := by
  have hwritten : ∀ c ∈ amount.toText.toList, (!endsAmount c) = true := by
    obtain ⟨x, rfl, -⟩ := hamount
    intro c hc
    rw [toText, String.toList_ofList] at hc
    rw [endsAmount_of_isWritten (x.isWritten_toChars c hc), Bool.not_false]
  have hnumeral : (amount.toText.toList ++ rest).takeWhile (!endsAmount ·) =
      amount.toText.toList := by
    rw [List.takeWhile_append_of_pos hwritten]
    cases rest with
    | nil => exact absurd hrest (by decide)
    | cons c others =>
      have hc : endsAmount c = true := hrest
      rw [List.takeWhile_cons_of_neg (by simp [hc]), List.append_nil]
  have hread : (Datum.text (String.ofList amount.toText.toList)).toDecimal.toOption =
      some amount := by
    rw [String.ofList_toList, hamount.toDecimal_toText]
    rfl
  rw [amountAfter?, List.dropPrefix?_append_of_beq _ (beq_self_eq_true _)]
  simp only [Option.bind_eq_bind, Option.bind_some, hnumeral, hread, List.drop_left]
  rfl

/-- The message without tax states the fee. -/
theorem stated?_untaxedMessage (hfee : fee.IsReadable) :
    stated? (untaxedMessage fee) = some (.untaxed fee) := by
  have hmessage : (untaxedMessage fee).toList =
      "Charge of ".toList ++ (fee.toText.toList ++ " paid (no VAT applicable)".toList) := by
    simp only [untaxedMessage, String.toList_append, List.append_assoc]
    rfl
  rw [stated?, hmessage, amountAfter?_append _ hfee rfl]
  rfl

/-- The message with tax states the fee, the tax and the total. -/
theorem stated?_taxedMessage (hfee : fee.IsReadable) (htax : tax.IsReadable)
    (htotal : total.IsReadable) :
    stated? (taxedMessage fee tax total) = some (.taxed fee tax total) := by
  have hjoined (s₁ s₂ s₃ s₄ s₅ s₆ s₇ : String) :
      (s₁ ++ s₂ ++ s₃ ++ s₄ ++ s₅ ++ s₆ ++ s₇).toList = s₁.toList ++ (s₂.toList ++ (s₃.toList ++
        (s₄.toList ++ (s₅.toList ++ (s₆.toList ++ s₇.toList))))) := by
    simp only [String.toList_append, List.append_assoc]
  have hmessage : (taxedMessage fee tax total).toList =
      "Charge of ".toList ++ (fee.toText.toList ++ (" paid with VAT of ".toList ++
        (tax.toText.toList ++ (" (Total: ".toList ++ (total.toText.toList ++ ")".toList))))) :=
    hjoined ..
  -- The two messages go on with the same word, but not with the same words.
  have hwords : ¬" paid with VAT of ".toList <+: " paid (no VAT applicable)".toList := by decide
  rw [stated?, hmessage, amountAfter?_append _ hfee rfl, Option.bind_eq_bind, Option.bind_some]
  dsimp only
  rw [if_neg fun h => hwords ⟨_, h⟩, amountAfter?_append _ htax rfl, Option.bind_some]
  dsimp only
  rw [amountAfter?_append _ htotal rfl]
  rfl

end

/-- The payment of a fee, with a tax or without one, whose amounts are readable numbers. -/
def IsPaid (p : Payment) : Prop :=
  ∃ fee tax, fee.amount.IsReadable ∧ (∀ t ∈ tax, t.amount.IsReadable) ∧
    aggregate (some fee) tax = .ok p

section
variable {p q : Payment}

/-- A payment of a fee reports the fee, a tax that was applied or nothing, and their sum. -/
theorem aggregate_some_eq_ok {fee : Fee} {tax : Option Tax} (h : aggregate (some fee) tax = .ok p) :
    p.feeAmount = fee.amount ∧ p.feeAmount.add p.taxAmount = .ok p.total ∧
      ((p.taxApplied = false ∧ p.taxAmount = 0 ∧ p.message = untaxedMessage p.feeAmount) ∨
        ∃ t ∈ tax, p.taxApplied = true ∧ p.taxAmount = t.amount ∧
          p.message = taxedMessage p.feeAmount p.taxAmount p.total) := by
  obtain ⟨total, htotal, h⟩ := bind_eq_ok_iff.mp h
  obtain rfl := pure_eq_ok_iff.mp h
  refine ⟨rfl, htotal, ?_⟩
  cases tax with
  | none => exact .inl ⟨rfl, rfl, rfl⟩
  | some t =>
    cases happlied : t.applied with
    | false =>
      have hnot : ¬t.applied = true := Bool.eq_false_iff.mp happlied
      exact .inl ⟨happlied, if_neg hnot, if_neg hnot⟩
    | true => exact .inr ⟨t, rfl, happlied, if_pos happlied, if_pos happlied⟩

/-- The amounts of a payment are readable. -/
theorem IsPaid.isReadable (h : p.IsPaid) :
    p.feeAmount.IsReadable ∧ p.taxAmount.IsReadable ∧ p.total.IsReadable := by
  obtain ⟨fee, tax, hfee, htax, h⟩ := h
  obtain ⟨hamount, htotal, hcases⟩ := aggregate_some_eq_ok h
  rw [← hamount] at hfee
  have hpaid : p.taxAmount.IsReadable := by
    rcases hcases with ⟨-, hzero, -⟩ | ⟨t, ht, -, htaxAmount, -⟩
    · rw [hzero]
      exact isReadable_zero
    · rw [htaxAmount]
      exact htax t ht
  exact ⟨hfee, hpaid, isReadable_of_add hfee.isFinite hpaid.isFinite htotal⟩

/-- The message of a payment states its amounts. -/
theorem IsPaid.stated?_message (h : p.IsPaid) : stated? p.message = some p.stated := by
  obtain ⟨hfee, htax, htotal⟩ := h.isReadable
  obtain ⟨fee, tax, -, -, h⟩ := h
  obtain ⟨-, -, hcases⟩ := aggregate_some_eq_ok h
  rcases hcases with ⟨happlied, -, hmessage⟩ | ⟨t, -, happlied, -, hmessage⟩
  · rw [hmessage, stated?_untaxedMessage hfee, stated, happlied]
    rfl
  · rw [hmessage, stated?_taxedMessage hfee htax htotal, stated, happlied]
    rfl

/-- Without tax the fee tells the other amounts. -/
theorem IsPaid.of_not_taxApplied (h : p.IsPaid) (happlied : p.taxApplied = false) :
    p.taxAmount = 0 ∧ p.feeAmount.add 0 = .ok p.total := by
  obtain ⟨fee, tax, -, -, h⟩ := h
  obtain ⟨-, htotal, ⟨-, hzero, -⟩ | ⟨t, -, hyes, -⟩⟩ := aggregate_some_eq_ok h
  · exact ⟨hzero, hzero ▸ htotal⟩
  · exact absurd (happlied.symm.trans hyes) (by decide)

/-- Two payments with the same message have the same amounts. -/
theorem IsPaid.eq_of_message (hp : p.IsPaid) (hq : q.IsPaid) (h : p.message = q.message) :
    p.feeAmount = q.feeAmount ∧ p.taxAmount = q.taxAmount ∧ p.total = q.total ∧
      p.taxApplied = q.taxApplied := by
  have hstated : p.stated = q.stated :=
    Option.some.inj (hp.stated?_message.symm.trans (h ▸ hq.stated?_message))
  unfold stated at hstated
  cases hpa : p.taxApplied with
  | true =>
    cases hqa : q.taxApplied with
    | true =>
      rw [hpa, hqa] at hstated
      obtain ⟨hfee, htax, htotal⟩ := Stated.taxed.inj hstated
      exact ⟨hfee, htax, htotal, rfl⟩
    | false =>
      rw [hpa, hqa] at hstated
      exact nomatch hstated
  | false =>
    cases hqa : q.taxApplied with
    | true =>
      rw [hpa, hqa] at hstated
      exact nomatch hstated
    | false =>
      rw [hpa, hqa] at hstated
      -- The message tells the fee only; it is added to the same nothing in both payments.
      obtain ⟨hptax, hptotal⟩ := hp.of_not_taxApplied hpa
      obtain ⟨hqtax, hqtotal⟩ := hq.of_not_taxApplied hqa
      have hfee : p.feeAmount = q.feeAmount := Stated.untaxed.inj hstated
      rw [hfee] at hptotal
      exact ⟨hfee, hptax.trans hqtax.symm, Except.ok.inj (hptotal.symm.trans hqtotal), rfl⟩

end

end Payment

namespace Journal.Record

/-- Reads a named amount of a record. -/
def amount? (record : Record) (name : String) : Option Decimal :=
  match record.values.lookup name with
  | some (.text (some text)) => (Datum.text text).toDecimal.toOption
  | _ => none

/-- The record tells of a settled charge with a fee and a tax. -/
structure States (record : Record) (fee tax : Decimal) : Prop where
  message : record.message = "Charge settled"
  fee : record.amount? "fee_amount" = some fee
  tax : record.amount? "vat_amount" = some tax

/-- The record of a settled charge states the fee and the tax. -/
theorem chargeSettled_states {fee tax : Decimal} (hfee : fee.IsReadable) (htax : tax.IsReadable)
    (transaction : String) (charge : Option String) (splits : Int) (backdated : Bool) :
    (chargeSettled transaction charge fee tax splits backdated).States fee tax where
  message := rfl
  fee := congrArg Except.toOption hfee.toDecimal_toText
  tax := congrArg Except.toOption htax.toDecimal_toText

end Journal.Record

namespace Tax

variable {fee : Fee} {tax : Tax} {rate : Datum} {components : List TaxComponent}
  {exempt backdated : Bool}

/-- The amount of a tax at a single rate is readable, if it is a number. -/
theorem isReadable_of_single (h : single fee rate exempt backdated = .ok tax)
    (hfinite : tax.amount.isFinite = true) : tax.amount.IsReadable := by
  rcases single_eq_ok h with rfl | ⟨r, amount, hcomponent, rfl⟩
  · exact isReadable_zero
  · exact isReadable_of_percentageOf hcomponent.amount hfinite

/-- The amount of a tax by components is readable, if it is a number. -/
theorem isReadable_of_group (h : group fee components exempt backdated = .ok tax)
    (hfinite : tax.amount.isFinite = true) : tax.amount.IsReadable := by
  rcases group_eq_ok h with rfl | ⟨total, percentage, amounts, -, htotal, -, rfl⟩
  · exact isReadable_zero
  · exact isReadable_of_sumFrom isReadable_zero htotal hfinite

end Tax

namespace Charge

variable {charge : Charge} {schedule : Schedule} {splits : List Split} {s : Settlement}

/-- A settlement has readable amounts, whatever amounts and rates it was made of. -/
theorem isPaid_of_settle (h : charge.settle schedule splits = .ok s) : s.payment.IsPaid := by
  obtain ⟨fee, hfee, hdistribute, htax, hpayment⟩ := settle_eq_ok h
  obtain ⟨_, _, -, -, hrounded, hcurrency⟩ := fee_eq_ok hfee
  rw [← hcurrency] at hrounded
  -- A fee that was distributed is a number, and so is the tax on it.
  obtain ⟨_, _, -, -, hvalue, hf0, -⟩ := fee_hasValue hrounded hdistribute
  have htaxFinite := (tax_isNonneg (hvalue.isNonneg hf0) htax).amount.isFinite
  have htaxReadable : s.tax.amount.IsReadable := by
    rcases charge.tax_eq fee with ⟨rate, heq⟩ | heq
    · exact Tax.isReadable_of_single (heq ▸ htax) htaxFinite
    · exact Tax.isReadable_of_group (heq ▸ htax) htaxFinite
  refine ⟨fee, some s.tax, isReadable_of_quantizeMoney hrounded hvalue.isFinite, ?_, hpayment⟩
  intro t ht
  exact Option.some.inj ht ▸ htaxReadable

/-- A charge that is settled is noted in one record, with the amounts of its payment. -/
theorem process_states (h : charge.settle schedule splits = .ok s) :
    ∃ record, (charge.process schedule splits).2.records = [record] ∧
      record.States s.payment.feeAmount s.payment.taxAmount := by
  obtain ⟨hfee, htax, -⟩ := (isPaid_of_settle h).isReadable
  rcases charge.process_cases schedule splits with
    ⟨s', hsettle, hprocess⟩ | ⟨amount, hsettle, -⟩ | ⟨e, -, hsettle, -⟩
  · obtain rfl := Except.ok.inj (h.symm.trans hsettle)
    rw [hprocess]
    exact ⟨_, rfl, Journal.Record.chargeSettled_states hfee htax _ _ _ _⟩
  · exact nomatch h.symm.trans hsettle
  · exact nomatch h.symm.trans hsettle

end Charge

/-- Written amounts read back exactly. The message of a payment of readable amounts states its fee,
and with an applied tax also the tax and the total, each with its sign, its digits and its power of
ten; without tax, the other amounts follow from the fee. So two payments with the same message have
the same amounts. The record of a settled charge states the fee and the tax. A settlement has
readable amounts whatever it was made of, and is noted in one record that states them. An amount
with a power of ten of the context is readable; one that is not has no numeral at all
(`Decimal.isReadable_iff`). -/
theorem amounts_read_back :
    (∀ x : Scaled, -1000026 ≤ x.exponent → x.exponent ≤ 999999 →
      digitCount x.coefficient ≤ 999999999999000000 → (Decimal.finite x).IsReadable) ∧
    (∀ p : Payment, p.IsPaid → Payment.stated? p.message = some p.stated ∧
      (p.taxApplied = false → p.taxAmount = 0 ∧ p.feeAmount.add 0 = .ok p.total)) ∧
    (∀ p q : Payment, p.IsPaid → q.IsPaid → p.message = q.message →
      p.feeAmount = q.feeAmount ∧ p.taxAmount = q.taxAmount ∧ p.total = q.total ∧
        p.taxApplied = q.taxApplied) ∧
    (∀ (fee tax : Decimal) transaction charge splits backdated, fee.IsReadable → tax.IsReadable →
      (Journal.Record.chargeSettled transaction charge fee tax splits backdated).States fee tax) ∧
    ∀ (charge : Charge) (schedule : Schedule) (splits : List Split) (s : Settlement),
      charge.settle schedule splits = .ok s →
        Payment.stated? s.payment.message = some s.payment.stated ∧
        ∃ record, (charge.process schedule splits).2.records = [record] ∧
          record.States s.payment.feeAmount s.payment.taxAmount := by
  refine ⟨?_, fun p hp => ⟨hp.stated?_message, hp.of_not_taxApplied⟩, ?_, ?_, ?_⟩
  · exact fun x hlow hhigh hdigits => ⟨x, rfl, Scaled.isReadable_of_exponent hlow hhigh hdigits⟩
  · exact fun p q hp hq hmessage => hp.eq_of_message hq hmessage
  · exact fun fee tax transaction charge splits backdated hfee htax =>
      Journal.Record.chargeSettled_states hfee htax transaction charge splits backdated
  · exact fun charge schedule splits s h =>
      ⟨(Charge.isPaid_of_settle h).stated?_message, Charge.process_states h⟩

/-- A fee of nothing with the sign of a number below zero, to nine places. -/
def nothingOwed : Fee := ⟨"fee", .finite ⟨true, 0, -9⟩, none, ⟨"NGN", 9⟩⟩

/-- A tax of fifty thousand with two zeros behind its last digit that counts. -/
def roundTax : Tax := { applied := true, amount := .finite ⟨false, 500, 2⟩ }

/-- A charge that is taxed at its full amount. -/
def taxedWhole : Charge :=
  { amount := .whole 100
    reference := "fee"
    date := ⟨2024, 1, 31⟩
    postingDate := ⟨2024, 1, 31⟩
    currency := ⟨"NGN", 9⟩
    rate := some (.whole 100) }

/-- A fee of a billionth. -/
def billionth : Schedule := ⟨[⟨0, none, .finite ⟨false, 1, -9⟩⟩], 1⟩

/-- The sign of a zero, the zeros at the end and both kinds of powers of ten are read back. -/
theorem nothingOwed_reads_back :
    (∃ p q, Payment.aggregate (some nothingOwed) (some roundTax) = .ok p ∧
      Payment.aggregate (some { nothingOwed with reference := "other" }) (some roundTax) = .ok q ∧
      p.message = "Charge of -0E-9 paid with VAT of 5.00E+4 (Total: 50000.000000000)" ∧
      Payment.stated? p.message = some p.stated ∧ p.total = q.total) ∧
    (∃ p, Payment.aggregate (some nothingOwed) none = .ok p ∧
      p.message = "Charge of -0E-9 paid (no VAT applicable)" ∧
      Payment.stated? p.message = some (.untaxed nothingOwed.amount)) ∧
    (Journal.Record.chargeSettled "fee" none nothingOwed.amount roundTax.amount 0 false).States
      nothingOwed.amount roundTax.amount ∧
    ∃ s, taxedWhole.settle billionth Charge.halfOnly = .ok s ∧
      s.payment.message = "Charge of 1E-9 paid with VAT of 1E-9 (Total: 2E-9)" ∧
      Payment.stated? s.payment.message = some s.payment.stated := by
  obtain ⟨hreadable, hstated, hsame, hrecord, hsettled⟩ := amounts_read_back
  have hfee : nothingOwed.amount.IsReadable := hreadable _ (by decide) (by decide) (by decide)
  have htax : roundTax.amount.IsReadable := hreadable _ (by decide) (by decide) (by decide)
  have hpaid (p : Payment) (reference : String)
      (h : Payment.aggregate (some { nothingOwed with reference }) (some roundTax) = .ok p) :
      p.IsPaid :=
    ⟨{ nothingOwed with reference }, some roundTax, hfee, fun t ht => Option.some.inj ht ▸ htax, h⟩
  refine ⟨⟨_, _, rfl, rfl, rfl, (hstated _ (hpaid _ "fee" rfl)).1, ?_⟩, ⟨_, rfl, rfl, ?_⟩, ?_, ?_⟩
  · exact (hsame _ _ (hpaid _ "fee" rfl) (hpaid _ "other" rfl) rfl).2.2.1
  · exact (hstated _ ⟨nothingOwed, none, hfee, by simp, rfl⟩).1
  · exact hrecord _ _ "fee" none 0 false hfee htax
  · obtain ⟨s, hs, hmessage⟩ : ∃ s, taxedWhole.settle billionth Charge.halfOnly = .ok s ∧
        s.payment.message = "Charge of 1E-9 paid with VAT of 1E-9 (Total: 2E-9)" := ⟨_, rfl, rfl⟩
    exact ⟨s, hs, hmessage, (hsettled _ _ _ s hs).1⟩

end Passbook
