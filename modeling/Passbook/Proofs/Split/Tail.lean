import Passbook.Proofs.Split.WithinFee

/-!
# Taking back only trims the tail

Taking an overshoot back leaves the flat amounts as they are and cuts the percentage shares from the
last one on. If the shares can give all of it, there is one percentage share at which it is used up:
those before it are left alone, and those after it have given all of themselves. Since the credits
add up to the fee, or to the sum of the shares if that is less, the order of the splits does not
change what is distributed.
-/

namespace Passbook

open Decimal

namespace Split

section
variable {s : Split} {a o : ℚ} {entries rest : List (Split × ℚ)} {left : List ℚ} {k : Nat}

/-- Every percentage share has given all of itself. -/
def Exhausted (entries : List (Split × ℚ)) (left : List ℚ) : Prop :=
  ∀ (i : Nat) (s : Split) (a b : ℚ), entries[i]? = some (s, a) → left[i]? = some b →
    s.isPercentage = true → b = 0

/-- The percentage shares before the one at the index are left alone, that one is cut, and those
after it have given all of themselves. -/
structure CutAt (k : Nat) (entries : List (Split × ℚ)) (left : List ℚ) : Prop where
  percentage : ∃ (s : Split) (a : ℚ), entries[k]? = some (s, a) ∧ s.isPercentage = true
  cut : ∀ (i : Nat) (s : Split) (a b : ℚ), entries[i]? = some (s, a) → left[i]? = some b →
    s.isPercentage = true → (i < k → b = a) ∧ (i = k → 0 ≤ b ∧ b ≤ a) ∧ (k < i → b = 0)

/-- Where something of an overshoot remains, every percentage share has given all of itself. -/
theorem exhausted_of_untaken_pos (hentries : ∀ entry ∈ entries, 0 ≤ entry.2)
    (h : 0 < (trimmed o entries).2) : Exhausted entries (trimmed o entries).1 := by
  intro i s a b hentry hleft hp
  rw [trimmed_of_untaken_pos hentries h, List.getElem?_map, hentry, Option.map_some, if_pos hp,
    Option.some.injEq] at hleft
  exact hleft.symm

/-- A share before the cut is one that nothing is left for. -/
theorem CutAt.cons (h : CutAt k rest left) (s : Split) (a : ℚ) :
    CutAt (k + 1) ((s, a) :: rest) (a :: left) where
  percentage := by simpa using h.percentage
  cut i t b c hentry hleft hp := by
    cases i with
    | zero =>
      obtain ⟨rfl, rfl⟩ : s = t ∧ a = b := by simpa using hentry
      obtain rfl : a = c := by simpa using hleft
      refine ⟨fun _ => rfl, ?_, ?_⟩ <;> omega
    | succ i =>
      obtain ⟨hbefore, hat, hafter⟩ := h.cut i t b c (by simpa using hentry)
        (by simpa using hleft) hp
      refine ⟨fun hi => hbefore (by omega), fun hi => hat (by omega), fun hi => hafter (by omega)⟩

/-- If the shares can give an overshoot, there is one share at which it is used up. -/
theorem exists_cutAt (ho : 0 < o) (hentries : ∀ entry ∈ entries, 0 ≤ entry.2)
    (h : (trimmed o entries).2 = 0) : ∃ k, CutAt k entries (trimmed o entries).1 := by
  induction entries with
  | nil => exact absurd h ho.ne'
  | cons entry rest ih =>
    obtain ⟨s, a⟩ := entry
    obtain ⟨hfirst, hrest⟩ := List.forall_mem_cons.mp hentries
    have huntaken := (untaken_between o rest ho.le).1
    by_cases hdone : (trimmed o rest).2 = 0
    · obtain ⟨k, hk⟩ := ih hrest hdone
      have hgiven : s.given a (trimmed o rest).2 = 0 := given_of_nonpos hdone.le
      refine ⟨k + 1, ?_⟩
      simpa [trimmed, hgiven] using hk.cons s a
    · -- the rest of the overshoot is taken from this share, after which nothing is left
      have hpos : 0 < (trimmed o rest).2 := lt_of_le_of_ne huntaken (Ne.symm hdone)
      have hexhausted := exhausted_of_untaken_pos hrest hpos
      have hall : s.given a (trimmed o rest).2 = (trimmed o rest).2 := by
        have hsub : (trimmed o rest).2 - s.given a (trimmed o rest).2 = 0 := h
        linarith
      have hp : s.isPercentage = true := by
        by_contra hflat
        rw [given, if_neg hflat] at hall
        exact hdone hall.symm
      refine ⟨0, ⟨s, a, rfl, hp⟩, ?_⟩
      intro i t b c hentry hleft ht
      cases i with
      | zero =>
        obtain ⟨rfl, rfl⟩ : s = t ∧ a = b := by simpa using hentry
        obtain rfl : a - s.given a (trimmed o rest).2 = c := by simpa [trimmed] using hleft
        have hnonneg := s.given_nonneg a (trimmed o rest).2
        have hle : s.given a (trimmed o rest).2 ≤ a := given_le hfirst
        refine ⟨by omega, fun _ => ⟨by linarith, by linarith⟩, by omega⟩
      | succ i =>
        have hzero := hexhausted i t b c (by simpa using hentry) (by simpa [trimmed] using hleft) ht
        exact ⟨by omega, by omega, fun _ => hzero⟩

end

section
variable {overshoot untaken : Decimal} {entries : List (Split × Decimal)} {left : List Decimal}

/-- Taking back leaves flat amounts as they are, and loses none of the amounts. -/
theorem takeBack_flat (h : takeBack overshoot entries = .ok (left, untaken)) :
    List.Forall₂ (fun entry amount => entry.1.isPercentage = false → amount = entry.2)
      entries left := by
  induction entries generalizing left untaken with
  | nil =>
    obtain ⟨rfl, rfl⟩ := Prod.mk.inj (Except.ok.inj h)
    exact .nil
  | cons entry rest ih =>
    obtain ⟨⟨later, remaining⟩, hlater, h⟩ := bind_eq_ok_iff.mp h
    obtain ⟨⟨first, untaken'⟩, hgive, h⟩ := bind_eq_ok_iff.mp h
    obtain ⟨rfl, rfl⟩ := Prod.mk.inj (pure_eq_ok_iff.mp h)
    refine .cons ?_ (ih hlater)
    intro hflat
    rcases giveBack_eq_ok hgive with ⟨-, rfl, -⟩ | ⟨-, hp, -⟩
    · rfl
    · rw [hp] at hflat
      exact nomatch hflat

/-- Nothing is taken back where there is no overshoot. -/
theorem takeBack_of_le_zero (hle : overshoot.le 0 = .ok true) :
    takeBack overshoot entries = .ok (entries.map (·.2), overshoot) := by
  induction entries with
  | nil => rfl
  | cons entry rest ih =>
    simp [takeBack, ih, giveBack, hle, pure, Except.pure]

end

section
variable {active other : List Split} {fee : Decimal} {places : Int}
  {amounts amounts' : List Decimal}

/-- Each share is computed from its split alone. -/
theorem shares_eq_map (h : shares fee places active = .ok amounts) :
    amounts = active.map fun s => (s.share fee places).toOption.getD 0 := by
  have hshares := shares_eq_ok h
  clear h
  induction hshares with
  | nil => rfl
  | cons hfirst _ ih => rw [List.map_cons, ← ih, hfirst, Except.toOption, Option.getD_some]

/-- The shares of the same splits in another order are the same shares. -/
theorem shares_perm (hperm : other.Perm active) (h : shares fee places active = .ok amounts)
    (h' : shares fee places other = .ok amounts') : amounts'.Perm amounts := by
  rw [shares_eq_map h, shares_eq_map h']
  exact hperm.map _

end

end Split

namespace Fee

open Split

variable {fee : Fee} {splits other : List Split} {charge : Option String} {date : Option Date}
  {d : Distribution} {shares : List Decimal} {e : Int} {f : ℚ}

/-- The finest place does not depend on the order of the splits. -/
theorem finestPlace_perm (fee : Fee) (hperm : other.Perm splits) :
    fee.finestPlace other = fee.finestPlace splits := by
  have hflat : (flatValues (activeOf other)).Perm (flatValues (activeOf splits)) :=
    ((hperm.filter _).filter _).map _
  exact ((hflat.cons fee.amount).filterMap _).foldr_eq _

/-- Every split is credited with its own amount, and a flat one with its value. -/
theorem forall₂_credit {active : List Split} {left : List Decimal}
    (hs : List.Forall₂ (IsShare e) active shares)
    (h : List.Forall₂ (fun entry amount => entry.1.isPercentage = false → amount = entry.2)
      (active.zip shares) left) :
    List.Forall₂ (fun s c => c = s.credit c.amount ∧ (s.isFlatAmount = true → c.amount = s.value))
      active ((active.zip left).map fun entry => entry.1.credit entry.2) := by
  induction hs generalizing left with
  | nil => exact .nil
  | @cons s share active shares hshare _ ih =>
    cases h with
    | @cons _ amount _ later hfirst hrest =>
      refine .cons ⟨rfl, fun hflat => ?_⟩ (ih hrest)
      have hp : s.isPercentage = false := by simpa [isFlatAmount_eq_not] using hflat
      exact (hfirst hp).trans (hshare.flat hp)

/-- The credits are those of the active splits in order, and they are the shares if these do not
exceed the fee. -/
theorem Trimmed.credits_eq (ht : Trimmed fee splits d e f shares) (hx : fee.ExactAt splits e)
    (h : fee.distribute splits charge date = .ok d) :
    (List.Forall₂ (fun s c => c = s.credit c.amount ∧ (s.isFlatAmount = true → c.amount = s.value))
      (activeOf splits) d.credits) ∧
      ((shares.map Decimal.value).sum ≤ f → d.credits.map (·.amount) = shares) := by
  obtain ⟨-, shares', total, overshoot, left, untaken, hshares, htotal, hovershoot, htake, -,
    hcredits⟩ := distribute_eq_ok h
  obtain rfl := Except.ok.inj (ht.shares_eq.symm.trans hshares)
  have hlength : (activeOf splits).length = shares.length := ht.isShare.length_eq
  rw [hcredits]
  refine ⟨forall₂_credit ht.isShare (takeBack_flat htake), fun hle => ?_⟩
  obtain ⟨-, hvalue, -, -⟩ := hx.overshoot_hasValue ht.isShare (hx.shares_lt shares hshares)
    ht.fee_nonneg ht.fee_hasValue htotal hovershoot
  have hnone : overshoot.le 0 = .ok true := by
    rw [le_eq hvalue hasValue_zero, decide_eq_true (sub_nonpos.mpr hle)]
  rw [takeBack_of_le_zero hnone, List.map_snd_zip hlength.ge] at htake
  obtain ⟨rfl, -⟩ := Prod.mk.inj (Except.ok.inj htake)
  exact map_amount_zip_credit hlength.symm

/-- Where the shares exceed the fee, the percentage shares are cut at one index. -/
theorem Trimmed.exists_cut (ht : Trimmed fee splits d e f shares)
    (hover : f < (shares.map Decimal.value).sum) :
    ∃ k s, (activeOf splits)[k]? = some s ∧ s.isPercentage = true ∧
      ∀ (i : Nat) t share c, (activeOf splits)[i]? = some t → shares[i]? = some share →
        d.credits[i]? = some c → t.isPercentage = true →
        (i < k → c.amount.value = share.value) ∧
        (i = k → 0 ≤ c.amount.value ∧ c.amount.value ≤ share.value) ∧
        (k < i → c.amount.value = 0) := by
  obtain ⟨k, hk⟩ := exists_cutAt (sub_pos.mpr hover) ht.entries_nonneg (ht.untaken_eq_zero hover.le)
  rw [← ht.map_value_credits] at hk
  obtain ⟨s, a, hentry, hs⟩ := hk.percentage
  refine ⟨k, s, (List.getElem?_zip_eq_some.mp hentry).1, hs, ?_⟩
  intro i t share c ht' hshare hc hp
  refine hk.cut i t share.value c.amount.value ?_ ?_ hp
  · exact List.getElem?_zip_eq_some.mpr ⟨ht', by simp [hshare]⟩
  · simp [hc]

/-- A distribution credits the active splits in order: the flat ones with their values, and the
percentage ones with their shares, if all shares together are within the fee. If they are not, the
credits come to the fee, and the percentage shares are cut at one index: those before it are
credited, those after it are not. What is distributed does not depend on the order of the
splits. -/
theorem distribute_trims_tail (fee : Fee) (splits : List Split) (charge : Option String)
    (date : Option Date) (d : Distribution)
    (hleast : leastExponent ≤ fee.finestPlace splits)
    (hfee : fee.amount.value < 10 ^ (fee.finestPlace splits + precision))
    (hshares : ∀ shares,
      Split.shares fee.amount fee.currency.decimalPlaces (activeOf splits) = .ok shares →
        (shares.map Decimal.value).sum < 10 ^ (fee.finestPlace splits + precision))
    (h : fee.distribute splits charge date = .ok d) :
    ∃ shares,
      List.Forall₂ (fun s share => s.share fee.amount fee.currency.decimalPlaces = .ok share)
        (activeOf splits) shares ∧
      (∀ x ∈ fee.amount :: shares ++ d.credits.map (·.amount), x.isFinite = true) ∧
      (List.Forall₂
        (fun s c => c = s.credit c.amount ∧ (s.isFlatAmount = true → c.amount = s.value))
        (activeOf splits) d.credits) ∧
      ((shares.map Decimal.value).sum ≤ fee.amount.value →
        d.credits.map (·.amount) = shares) ∧
      (fee.amount.value < (shares.map Decimal.value).sum → d.credited = fee.amount.value ∧
        ∃ k s, (activeOf splits)[k]? = some s ∧ s.isPercentage = true ∧
          ∀ (i : Nat) t share c, (activeOf splits)[i]? = some t → shares[i]? = some share →
            d.credits[i]? = some c → t.isPercentage = true →
            (i < k → c.amount.value = share.value) ∧
            (i = k → 0 ≤ c.amount.value ∧ c.amount.value ≤ share.value) ∧
            (k < i → c.amount.value = 0)) ∧
      (∀ other charge date d', other.Perm splits → fee.distribute other charge date = .ok d' →
        ∃ paid, d'.distributed = .ok paid ∧
          paid.HasValue (min fee.amount.value (shares.map Decimal.value).sum)) := by
  have hexact := exactAt_finestPlace hleast hfee hshares
  obtain ⟨f, shares, ht⟩ := hexact.trimmed h
  obtain ⟨hcredits, hwithin⟩ := ht.credits_eq hexact h
  have hf : fee.amount.value = f := ht.fee_hasValue.value_eq
  rw [hf]
  refine ⟨shares, shares_eq_ok ht.shares_eq, ?_, hcredits, hwithin, fun hover => ⟨?_, ?_⟩, ?_⟩
  · simp only [List.cons_append, List.forall_mem_cons, List.forall_mem_append]
    refine ⟨ht.fee_hasValue.isFinite, fun x hx => ?_, fun x hx => ?_⟩
    · exact (hasValue_value_of_forall₂ (forall₂_value ht.isShare) x hx).isFinite
    · exact (hasValue_value_of_forall₂ ht.credits x hx).isFinite
  · rw [ht.credited_eq, min_eq_left hover.le]
  · exact ht.exists_cut hover
  · intro other charge' date' d' hperm h'
    have hplace := finestPlace_perm fee hperm
    have hactive : (activeOf other).Perm (activeOf splits) := hperm.filter _
    have hexact' : fee.ExactAt other (fee.finestPlace other) := by
      rw [← hplace] at hleast hfee hshares
      refine exactAt_finestPlace hleast hfee fun shares' hshares' => ?_
      rw [((shares_perm hactive ht.shares_eq hshares').map _).sum_eq]
      exact hshares shares ht.shares_eq
    obtain ⟨f', shares', ht'⟩ := hexact'.trimmed h'
    obtain ⟨paid, hpaid, hvalue⟩ := ht'.distributed
    refine ⟨paid, hpaid, ?_⟩
    rwa [ht'.credited_eq, ((shares_perm hactive ht.shares_eq ht'.shares_eq).map _).sum_eq,
      ht'.fee_hasValue.unique ht.fee_hasValue] at hvalue

/-- A fee of two cents. -/
def twoCents : Fee := ⟨"fee", .finite ⟨false, 2, -2⟩, none, ⟨"NGN", 2⟩⟩

/-- Three quarters, the last one after a flat amount of half a cent. -/
def threeQuarters : List Split :=
  [⟨"a", .percentage, 25, true, none⟩, ⟨"b", .percentage, 25, true, none⟩,
    ⟨"c", .flatAmount, .finite ⟨false, 5, -3⟩, true, none⟩, ⟨"d", .percentage, 25, true, none⟩]

/-- The quarters of two cents round up to a cent each. The last one gives all of it back, and the
second one half of it. In the reverse order the last one is spared and the first one gives all,
and the same amount is distributed. -/
theorem threeQuarters_of_twoCents :
    ∃ d d' paid, twoCents.distribute threeQuarters = .ok d ∧
      d.credits.map (·.amount) = [.finite ⟨false, 1, -2⟩, .finite ⟨false, 5, -3⟩,
        .finite ⟨false, 5, -3⟩, .finite ⟨false, 0, -2⟩] ∧
      d.credited = twoCents.amount.value ∧
      twoCents.distribute threeQuarters.reverse = .ok d' ∧
      d'.credits.map (·.amount) = [.finite ⟨false, 1, -2⟩, .finite ⟨false, 5, -3⟩,
        .finite ⟨false, 5, -3⟩, .finite ⟨false, 0, -2⟩] ∧
      d'.distributed = .ok paid ∧ paid.HasValue (2 / 100) := by
  obtain ⟨d, hd, hamounts⟩ : ∃ d, twoCents.distribute threeQuarters = .ok d ∧
      d.credits.map (·.amount) = [.finite ⟨false, 1, -2⟩, .finite ⟨false, 5, -3⟩,
        .finite ⟨false, 5, -3⟩, .finite ⟨false, 0, -2⟩] := ⟨_, rfl, rfl⟩
  obtain ⟨d', hd', hamounts'⟩ : ∃ d', twoCents.distribute threeQuarters.reverse = .ok d' ∧
      d'.credits.map (·.amount) = [.finite ⟨false, 1, -2⟩, .finite ⟨false, 5, -3⟩,
        .finite ⟨false, 5, -3⟩, .finite ⟨false, 0, -2⟩] := ⟨_, rfl, rfl⟩
  have hplace : twoCents.finestPlace threeQuarters = -3 := rfl
  have hvalue : twoCents.amount.value = 2 / 100 := by
    norm_num [twoCents, zpow_neg]
  have hcomputed : Split.shares twoCents.amount 2 (activeOf threeQuarters) =
      .ok [.finite ⟨false, 1, -2⟩, .finite ⟨false, 1, -2⟩, .finite ⟨false, 5, -3⟩,
        .finite ⟨false, 1, -2⟩] := rfl
  have hsum : ([.finite ⟨false, 1, -2⟩, .finite ⟨false, 1, -2⟩, .finite ⟨false, 5, -3⟩,
      .finite ⟨false, 1, -2⟩].map Decimal.value).sum = 35 / 1000 := by
    norm_num [zpow_neg]
  obtain ⟨shares, hshares, -, -, -, hover, hperm⟩ := distribute_trims_tail twoCents threeQuarters
    none none d (by decide) (by rw [hplace, hvalue]; norm_num [precision])
    (by
      intro shares hshares
      obtain rfl := Except.ok.inj (hcomputed.symm.trans hshares)
      rw [hplace, hsum]
      norm_num [precision])
    hd
  obtain rfl := List.right_unique_forall₂' (fun _ _ _ h h' => Except.ok.inj (h.symm.trans h'))
    hshares (shares_eq_ok hcomputed)
  rw [hsum, hvalue] at hover hperm
  obtain ⟨hcredited, -⟩ := hover (by norm_num)
  obtain ⟨paid, hpaid, hpaidValue⟩ :=
    hperm threeQuarters.reverse none none d' (List.reverse_perm _) hd'
  rw [min_eq_left (by norm_num)] at hpaidValue
  exact ⟨d, d', paid, hd, hamounts, hcredited.trans hvalue.symm, hd', hamounts', hpaid, hpaidValue⟩

end Fee

end Passbook
