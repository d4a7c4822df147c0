import Passbook.Proofs.Decimal.AtMost
import Passbook.Proofs.Limit.Enforced

/-!
# Smaller deposits break no more limits

A limit and the balance after a deposit are rounded before they are compared: the limit to the
minor unit, the balance to the context and then to the minor unit. All of these roundings keep the
order of numbers, below zero as well as above. So a smaller deposit on a smaller balance under
looser limits breaks no limit that the larger one keeps, whatever the places of the currencies are.
-/

namespace Passbook

open Decimal

namespace LimitBreach

variable {single single' cumulative cumulative' : Prop} [Decidable single] [Decidable single']
  [Decidable cumulative] [Decidable cumulative']

/-- If no limit is broken that another deposit keeps, the list of broken limits is part of the other
one. -/
theorem broken_sublist (hsingle : single → single') (hcumulative : cumulative → cumulative') :
    (broken single cumulative).Sublist (broken single' cumulative') := by
  refine List.Sublist.append ?_ ?_
  · by_cases h : single
    · rw [if_pos h, if_pos (hsingle h)]
    · rw [if_neg h]
      exact List.nil_sublist _
  · by_cases h : cumulative
    · rw [if_pos h, if_pos (hcumulative h)]
    · rw [if_neg h]
      exact List.nil_sublist _

end LimitBreach

/-- Money is made only in a currency whose places have a quantum. -/
theorem Money.exists_quantumExponent {currency : Currency} {amount : Decimal} {m : Money}
    (h : Money.of currency amount = .ok m) :
    ∃ e, quantumExponent currency.decimalPlaces = .ok e := by
  obtain ⟨rounded, hrounded, -⟩ := bind_eq_ok_iff.mp h
  obtain ⟨e, he, -⟩ := bind_eq_ok_iff.mp hrounded
  exact ⟨e, he⟩

namespace LimitProfile

variable {profile profile' : LimitProfile} {balance balance' amount amount' : Money}
  {found found' : List LimitBreach}

/-- A check that answers has rounded to a quantum of the amount and to one of the balance. -/
theorem exists_quantumExponent_of_breaches (h : profile.breaches balance amount = .ok found) :
    ∃ ea eb, quantumExponent amount.currency.decimalPlaces = .ok ea ∧
      quantumExponent balance.currency.decimalPlaces = .ok eb := by
  obtain ⟨single, hsingle, h⟩ := bind_eq_ok_iff.mp h
  obtain ⟨cumulative, hcumulative, -⟩ := bind_eq_ok_iff.mp h
  obtain ⟨ea, hea⟩ := Money.exists_quantumExponent (of_limitFor hsingle)
  obtain ⟨eb, heb⟩ := Money.exists_quantumExponent (of_limitFor hcumulative)
  exact ⟨ea, eb, hea, heb⟩

/-- A smaller deposit on a smaller balance under looser limits breaks no more of them. -/
theorem breaches_sublist
    (hsingle : profile'.maxSingleDeposit.le profile.maxSingleDeposit = .ok true)
    (hcumulative : profile'.cumulativeBalance.le profile.cumulativeBalance = .ok true)
    (hbalanceCurrency : balance'.currency = balance.currency)
    (hbalance : balance.amount.le balance'.amount = .ok true)
    (hamountCurrency : amount'.currency = amount.currency)
    (hamount : amount.amount.le amount'.amount = .ok true)
    (h : profile.breaches balance amount = .ok found)
    (h' : profile'.breaches balance' amount' = .ok found') : found.Sublist found' := by
  have hnumbers := comparable_of_breaches h
  have hnumbers' := comparable_of_breaches h'
  obtain ⟨ea, eb, hea, heb⟩ := exists_quantumExponent_of_breaches h
  obtain ⟨rfl, -⟩ := breaches_eq_broken (hasValue_value hnumbers.amountAmount)
    (hasValue_value hnumbers.balanceAmount) hea heb h
  obtain ⟨rfl, -⟩ := breaches_eq_broken (hasValue_value hnumbers'.amountAmount)
    (hasValue_value hnumbers'.balanceAmount) (hamountCurrency ▸ hea) (hbalanceCurrency ▸ heb) h'
  have hdeposit := (AtMost.of_le hnumbers.amountAmount hnumbers'.amountAmount hamount).le
  have hheld := (AtMost.of_le hnumbers.balanceAmount hnumbers'.balanceAmount hbalance).le
  have hlimit :=
    (AtMost.of_le hnumbers'.maxSingleDeposit hnumbers.maxSingleDeposit hsingle).le
  have hlimit' :=
    (AtMost.of_le hnumbers'.cumulativeBalance hnumbers.cumulativeBalance hcumulative).le
  refine LimitBreach.broken_sublist ?_ ?_
  · intro hover
    exact ((nearestMultiple_mono ea hlimit).trans_lt hover).trans_le hdeposit
  · intro hover
    have hsum := rounded_mono (add_le_add hheld hdeposit)
    exact ((nearestMultiple_mono eb hlimit').trans_lt hover).trans_le (nearestMultiple_mono eb hsum)

end LimitProfile

namespace ProfileLookup

/-- Of two deposits of one classification, under limits in order the other way round, the smaller
one on the smaller balance breaks only limits that the larger one breaks too. If the larger one is
allowed, so is the smaller one. The amounts need not be rounded, and the currencies of balance,
amount and profile may differ in their places. -/
theorem breaches_monotone (lookup lookup' : ProfileLookup) (classification : Int)
    (profile profile' : LimitProfile)
    (hprofile : lookup classification = .ok (some profile))
    (hprofile' : lookup' classification = .ok (some profile'))
    (hsingle : profile'.maxSingleDeposit.le profile.maxSingleDeposit = .ok true)
    (hcumulative : profile'.cumulativeBalance.le profile.cumulativeBalance = .ok true)
    (balance balance' amount amount' : Money)
    (hbalanceCurrency : balance'.currency = balance.currency)
    (hbalance : balance.amount.le balance'.amount = .ok true)
    (hamountCurrency : amount'.currency = amount.currency)
    (hamount : amount.amount.le amount'.amount = .ok true) (found found' : List LimitBreach)
    (h : lookup.breaches (some classification) balance amount = .ok found)
    (h' : lookup'.breaches (some classification) balance' amount' = .ok found') :
    found.Sublist found' ∧ (found' = [] → found = []) := by
  rw [breaches_mapped hprofile] at h
  rw [breaches_mapped hprofile'] at h'
  have hsublist := LimitProfile.breaches_sublist hsingle hcumulative hbalanceCurrency hbalance
    hamountCurrency hamount h h'
  refine ⟨hsublist, ?_⟩
  rintro rfl
  exact List.sublist_nil.mp hsublist

/-- Limits of so many hundredths, written for a currency without minor unit. -/
def inHundredths (single cumulative : Nat) : ProfileLookup := fun classification =>
  .ok (some ⟨classification, .finite ⟨false, single, -2⟩, .finite ⟨false, cumulative, -2⟩,
    ⟨"JPY", 0⟩, "basic"⟩)

/-- An amount of so many thousandths, rounded or not. -/
def thousandths (amount : Nat) (places : Int) : Money :=
  ⟨.finite ⟨false, amount, -3⟩, ⟨"JPY", places⟩⟩

/-- A deposit of 100.005 on 0.4 is over the cumulative limit of 99.40, and so is one of 100.506 on
0.6 over that of 99.30, which is over its own limit as well. -/
theorem hundredOnHalf_monotone :
    (inHundredths 10050 9940).breaches (some 1) (thousandths 400 0) (thousandths 100005 2) =
        .ok [.cumulativeBalance] ∧
      (inHundredths 10020 9930).breaches (some 1) (thousandths 600 0) (thousandths 100506 2) =
        .ok [.maxSingleDeposit, .cumulativeBalance] ∧
      List.Sublist [LimitBreach.cumulativeBalance]
        [LimitBreach.maxSingleDeposit, LimitBreach.cumulativeBalance] := by
  have hfound : (inHundredths 10050 9940).breaches (some 1) (thousandths 400 0)
      (thousandths 100005 2) = .ok [.cumulativeBalance] := by
    decide +kernel
  have hfound' : (inHundredths 10020 9930).breaches (some 1) (thousandths 600 0)
      (thousandths 100506 2) = .ok [.maxSingleDeposit, .cumulativeBalance] := by
    decide +kernel
  obtain ⟨hsublist, -⟩ := breaches_monotone (inHundredths 10050 9940) (inHundredths 10020 9930) 1
    _ _ rfl rfl rfl rfl (thousandths 400 0) (thousandths 600 0) (thousandths 100005 2)
    (thousandths 100506 2) rfl rfl rfl rfl _ _ hfound hfound'
  exact ⟨hfound, hfound', hsublist⟩

end ProfileLookup

end Passbook
