import Passbook.Limit
import Passbook.Proofs.Decimal.Extended
import Passbook.Proofs.Outcome
import Mathlib.Data.List.Induction

/-!
# Deposits under a limit

A deposit that breaks no limit is added to the balance, any other leaves it as it is. The check
of a deposit and the check of a debit block judge the balance after the deposit in the same way,
so an added deposit never calls for a block, and along every run the balance stays at or under
the limit once it is there.
-/

namespace Passbook

namespace Money

variable {currency : Currency} {amount : Decimal} {m n total : Money}

/-- An amount of a currency is in that currency. -/
theorem currency_of (h : of currency amount = .ok m) : m.currency = currency := by
  obtain ⟨rounded, -, h⟩ := bind_eq_ok_iff.mp h
  obtain rfl := pure_eq_ok_iff.mp h
  rfl

/-- A sum is in the currency of its first part. -/
theorem currency_plus (h : m.plus n = .ok total) : total.currency = m.currency := by
  obtain ⟨-, -, h⟩ := bind_eq_ok_iff.mp h
  obtain ⟨sum, -, h⟩ := bind_eq_ok_iff.mp h
  exact currency_of (liftM_eq_ok_iff.mp h)

/-- An amount that does not exceed another one is at most that one. -/
theorem le_of_not_exceeds (h : m.exceeds n = .ok false) : m.amount.le n.amount = .ok true := by
  obtain ⟨-, -, h⟩ := bind_eq_ok_iff.mp h
  exact Decimal.le_of_not_lt (liftM_eq_ok_iff.mp h)

end Money

namespace LimitProfile

variable {profile : LimitProfile} {limit : Decimal} {balance amount money : Money} {exceeded : Bool}
  {found : List LimitBreach}

/-- A limit is rounded to the places of the amount that it is compared with. -/
theorem of_limitFor (h : profile.limitFor limit amount = .ok money) :
    Money.of amount.currency limit = .ok money := by
  obtain ⟨-, -, h⟩ := bind_eq_ok_iff.mp h
  exact liftM_eq_ok_iff.mp h

/-- Amounts in one currency have the same limit. -/
theorem limitFor_congr (h : amount.currency = balance.currency) :
    profile.limitFor limit amount = profile.limitFor limit balance := by
  rw [limitFor, limitFor, h]

/-- A balance that is found not to be over the limit is at most the rounded limit. -/
theorem le_of_not_isOver (h : profile.isOver balance = .ok false) :
    ∃ limit, Money.of balance.currency profile.cumulativeBalance = .ok limit ∧
      balance.amount.le limit.amount = .ok true := by
  obtain ⟨limit, hlimit, h⟩ := bind_eq_ok_iff.mp h
  exact ⟨limit, of_limitFor hlimit, Money.le_of_not_exceeds h⟩

/-- A checked deposit is over the cumulative limit exactly if the balance after it is. -/
theorem isOver_of_breaches (h : profile.breaches balance amount = .ok found) :
    ∃ after exceeded, balance.plus amount = .ok after ∧ profile.isOver after = .ok exceeded ∧
      (.cumulativeBalance ∈ found ↔ exceeded = true) := by
  obtain ⟨single, -, h⟩ := bind_eq_ok_iff.mp h
  obtain ⟨cumulative, hcumulative, h⟩ := bind_eq_ok_iff.mp h
  obtain ⟨overSingle, -, h⟩ := bind_eq_ok_iff.mp h
  obtain ⟨after, hafter, h⟩ := bind_eq_ok_iff.mp h
  obtain ⟨exceeded, hexceeded, h⟩ := bind_eq_ok_iff.mp h
  obtain rfl := pure_eq_ok_iff.mp h
  refine ⟨after, exceeded, hafter, ?_, ?_⟩
  · rw [isOver, limitFor_congr (Money.currency_plus hafter), hcumulative, ok_bind, hexceeded]
  · cases overSingle <;> cases exceeded <;> decide

end LimitProfile

namespace ProfileLookup

variable {lookup : ProfileLookup} {classification : Int} {profile : LimitProfile}
  {balance deposit after limit : Money} {exceeded : Bool} {found : List LimitBreach}

/-- The balance after a deposit, which is added only if it breaks no limit. -/
def post (lookup : ProfileLookup) (classification : Option Int) (balance deposit : Money) :
    Money :=
  match lookup.breaches classification balance deposit, balance.plus deposit with
  | .ok [], .ok after => after
  | _, _ => balance

/-- The balance after several deposits. -/
def postAll (lookup : ProfileLookup) (classification : Option Int) (start : Money)
    (deposits : List Money) : Money :=
  deposits.foldl (lookup.post classification) start

theorem breaches_mapped (hprofile : lookup classification = .ok (some profile)) :
    lookup.breaches (some classification) balance deposit = profile.breaches balance deposit := by
  rw [breaches, profileFor, hprofile, ok_bind]

/-- A debit block follows the cumulative limit. -/
theorem reassess_mapped (hprofile : lookup classification = .ok (some profile))
    (hexceeded : profile.isOver balance = .ok exceeded) (blocked : Bool) :
    lookup.reassess (some classification) balance blocked =
      .ok (if blocked && !exceeded then some .unblock
        else if !blocked && exceeded then some .block else none) := by
  rw [reassess, profileFor, hprofile, ok_bind]
  dsimp only
  rw [hexceeded, ok_bind]
  rfl

/-- A deposit that breaks no limit is added, and the balance after it is not over the limit. -/
theorem post_of_breaches_nil (hprofile : lookup classification = .ok (some profile))
    (h : lookup.breaches (some classification) balance deposit = .ok []) :
    balance.plus deposit = .ok (lookup.post (some classification) balance deposit) ∧
      profile.isOver (lookup.post (some classification) balance deposit) = .ok false := by
  have hbreaches := h
  rw [breaches_mapped hprofile] at hbreaches
  obtain ⟨after, exceeded, hafter, hexceeded, hmem⟩ := LimitProfile.isOver_of_breaches hbreaches
  have hpost : lookup.post (some classification) balance deposit = after := by
    rw [post, h, hafter]
  cases exceeded with
  | true => exact absurd (hmem.mpr rfl) List.not_mem_nil
  | false => exact ⟨hpost ▸ hafter, hpost ▸ hexceeded⟩

/-- Any other deposit leaves the balance as it is. -/
theorem post_of_breaches_ne_nil
    (h : lookup.breaches (some classification) balance deposit ≠ .ok []) :
    lookup.post (some classification) balance deposit = balance := by
  rw [post]
  split
  next hbreaches _ => exact absurd hbreaches h
  · rfl

/-- A deposit keeps the currency of the balance. -/
theorem currency_post (hprofile : lookup classification = .ok (some profile))
    (balance deposit : Money) :
    (lookup.post (some classification) balance deposit).currency = balance.currency := by
  by_cases h : lookup.breaches (some classification) balance deposit = .ok []
  · exact Money.currency_plus (post_of_breaches_nil hprofile h).1
  · rw [post_of_breaches_ne_nil h]

/-- A deposit does not take the balance over the limit. -/
theorem post_le_limit (hprofile : lookup classification = .ok (some profile))
    (hlimit : Money.of balance.currency profile.cumulativeBalance = .ok limit)
    (hle : balance.amount.le limit.amount = .ok true) (deposit : Money) :
    (lookup.post (some classification) balance deposit).amount.le limit.amount = .ok true := by
  by_cases h : lookup.breaches (some classification) balance deposit = .ok []
  · obtain ⟨hplus, hexceeded⟩ := post_of_breaches_nil hprofile h
    obtain ⟨limit', hlimit', hle'⟩ := LimitProfile.le_of_not_isOver hexceeded
    rw [Money.currency_plus hplus, hlimit] at hlimit'
    obtain rfl := Except.ok.inj hlimit'
    exact hle'
  · rwa [post_of_breaches_ne_nil h]

/-- The last of several deposits is posted on the balance that the others leave. -/
theorem postAll_append (lookup : ProfileLookup) (classification : Option Int) (start : Money)
    (deposits : List Money) (deposit : Money) :
    lookup.postAll classification start (deposits ++ [deposit]) =
      lookup.post classification (lookup.postAll classification start deposits) deposit := by
  rw [postAll, List.foldl_append]
  rfl

/-- Deposits keep the currency of the balance. -/
theorem currency_postAll (hprofile : lookup classification = .ok (some profile)) (start : Money)
    (deposits : List Money) :
    (lookup.postAll (some classification) start deposits).currency = start.currency := by
  induction deposits using List.reverseRecOn with
  | nil => rfl
  | append_singleton deposits deposit ih =>
    rw [postAll_append, currency_post hprofile, ih]

/-- Deposits do not take a balance over the limit that starts at or under it. -/
theorem postAll_le_limit {start : Money} (hprofile : lookup classification = .ok (some profile))
    (hlimit : Money.of start.currency profile.cumulativeBalance = .ok limit)
    (hle : start.amount.le limit.amount = .ok true) (deposits : List Money) :
    (lookup.postAll (some classification) start deposits).amount.le limit.amount = .ok true := by
  induction deposits using List.reverseRecOn with
  | nil => exact hle
  | append_singleton deposits deposit ih =>
    rw [postAll_append]
    refine post_le_limit hprofile ?_ ih deposit
    rw [currency_postAll hprofile, hlimit]

/-- A deposit check reports the cumulative limit exactly if the balance after the deposit calls
for a debit block, and exactly if it leaves one in place. -/
theorem cumulativeBalance_mem_iff (hprofile : lookup classification = .ok (some profile))
    (h : lookup.breaches (some classification) balance deposit = .ok found) :
    ∃ after, balance.plus deposit = .ok after ∧
      (.cumulativeBalance ∈ found ↔
        lookup.reassess (some classification) after false = .ok (some .block)) ∧
      (.cumulativeBalance ∈ found ↔
        lookup.reassess (some classification) after true = .ok none) := by
  rw [breaches_mapped hprofile] at h
  obtain ⟨after, exceeded, hafter, hexceeded, hmem⟩ := LimitProfile.isOver_of_breaches h
  refine ⟨after, hafter, ?_, ?_⟩
  · rw [hmem, reassess_mapped hprofile hexceeded]
    cases exceeded <;> simp
  · rw [hmem, reassess_mapped hprofile hexceeded]
    cases exceeded <;> simp

/-- Deposits that break no limit keep the balance at or under the cumulative limit, rounded to
the places of its currency, and never call for a debit block. -/
theorem postAll_within_limit (lookup : ProfileLookup) (classification : Int)
    (profile : LimitProfile) (hprofile : lookup classification = .ok (some profile))
    (start : Money) (deposits : List Money) :
    let balance := lookup.postAll (some classification) start deposits
    (∀ deposit, lookup.breaches (some classification) balance deposit = .ok [] →
      ∃ after limit, balance.plus deposit = .ok after ∧
        lookup.postAll (some classification) start (deposits ++ [deposit]) = after ∧
        after.currency = start.currency ∧
        Money.of start.currency profile.cumulativeBalance = .ok limit ∧
        after.amount.le limit.amount = .ok true ∧
        lookup.reassess (some classification) after false = .ok none ∧
        lookup.reassess (some classification) after true = .ok (some .unblock)) ∧
    (∀ deposit, lookup.breaches (some classification) balance deposit ≠ .ok [] →
      lookup.postAll (some classification) start (deposits ++ [deposit]) = balance) ∧
    (∀ limit, Money.of start.currency profile.cumulativeBalance = .ok limit →
      start.amount.le limit.amount = .ok true →
      balance.amount.le limit.amount = .ok true) ∧
    (∀ balance deposit found,
      lookup.breaches (some classification) balance deposit = .ok found →
      ∃ after, balance.plus deposit = .ok after ∧
        (.cumulativeBalance ∈ found ↔
          lookup.reassess (some classification) after false = .ok (some .block)) ∧
        (.cumulativeBalance ∈ found ↔
          lookup.reassess (some classification) after true = .ok none)) := by
  intro balance
  refine ⟨?_, ?_, ?_, ?_⟩
  · intro deposit h
    obtain ⟨hplus, hexceeded⟩ := post_of_breaches_nil hprofile h
    obtain ⟨limit, hlimit, hle⟩ := LimitProfile.le_of_not_isOver hexceeded
    have hcurrency : (lookup.post (some classification) balance deposit).currency =
        start.currency := by
      rw [currency_post hprofile, currency_postAll hprofile]
    rw [hcurrency] at hlimit
    exact ⟨_, limit, hplus, postAll_append .., hcurrency, hlimit, hle,
      reassess_mapped hprofile hexceeded false, reassess_mapped hprofile hexceeded true⟩
  · intro deposit h
    rw [postAll_append, post_of_breaches_ne_nil h]
  · intro limit hlimit hle
    exact postAll_le_limit hprofile hlimit hle deposits
  · intro balance deposit found h
    exact cumulativeBalance_mem_iff hprofile h

/-- An amount in euros with two decimals. -/
def cents (amount : Int) : Money :=
  ⟨.finite ⟨amount < 0, amount.natAbs, -2⟩, ⟨"EUR", 2⟩⟩

/-- Every classification has limits of 80 for a deposit and 100 for the balance. -/
def sameForAll : ProfileLookup := fun classification =>
  .ok (some ⟨classification, 80, 100, ⟨"EUR", 2⟩, "basic"⟩)

/-- Of three deposits the second would break the limit, and the other two are added. -/
theorem threeDeposits_within_limit :
    sameForAll 7 = .ok (some ⟨7, 80, 100, ⟨"EUR", 2⟩, "basic"⟩) ∧
      sameForAll.postAll (some 7) (cents 5000) [cents 4500, cents 700, cents (-1050)] =
        cents 8450 ∧
      (sameForAll.postAll (some 7) (cents 5000)
        [cents 4500, cents 700, cents (-1050)]).amount.le (cents 10000).amount = .ok true := by
  have hrun := postAll_within_limit sameForAll 7 _ rfl (cents 5000)
    [cents 4500, cents 700, cents (-1050)]
  obtain ⟨-, -, hle, -⟩ := hrun
  exact ⟨rfl, rfl, hle (cents 10000) rfl rfl⟩

end ProfileLookup

end Passbook
