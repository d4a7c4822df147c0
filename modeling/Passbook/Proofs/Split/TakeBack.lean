import Passbook.Proofs.Decimal.Sum
import Passbook.Split.Distribution

/-!
# Taking back an overshoot

On numbers, taking back trims the shares from the last one on: a percentage share gives what is
left of the overshoot, at most all of itself. Nothing is lost on the way, no share falls below
zero, and of the overshoot no more remains than the percentage shares together cannot give. The
decimal shares follow the numbers exactly as long as the context keeps all their digits.
-/

namespace Passbook

namespace Split

open Decimal

/-- What a share of `a` gives towards an overshoot of `o`. -/
def given (s : Split) (a o : ℚ) : ℚ := if s.isPercentage then max 0 (min a o) else 0

/-- The shares without the overshoot that they give, the last one first, and the rest of it. -/
def trimmed (o : ℚ) : List (Split × ℚ) → List ℚ × ℚ
  | [] => ([], o)
  | (s, a) :: rest =>
    let later := trimmed o rest
    ((a - s.given a later.2) :: later.1, later.2 - s.given a later.2)

/-- Where a share gives, what is left of it and of the overshoot keeps all digits. -/
def TrimsExactly (o : ℚ) : List (Split × ℚ) → Prop
  | [] => True
  | (s, a) :: rest =>
    TrimsExactly o rest ∧ (s.isPercentage = true → 0 < (trimmed o rest).2 →
      Representable (a - s.given a (trimmed o rest).2) ∧
        Representable ((trimmed o rest).2 - s.given a (trimmed o rest).2))

section
variable {s : Split} {a o u : ℚ} {entries : List (Split × ℚ)}

/-- No share gives less than nothing. -/
theorem given_nonneg (s : Split) (a o : ℚ) : 0 ≤ s.given a o := by
  unfold given
  split
  · exact le_max_left _ _
  · exact le_rfl

/-- A share gives no more than it is. -/
theorem given_le (ha : 0 ≤ a) : s.given a o ≤ a := by
  unfold given
  split
  · exact max_le ha (min_le_left _ _)
  · exact ha

/-- No share gives when there is no overshoot. -/
theorem given_of_nonpos (ho : o ≤ 0) : s.given a o = 0 := by
  unfold given
  split
  · exact max_eq_left ((min_le_right a o).trans ho)
  · rfl

/-- A share gives no more than the overshoot. -/
theorem given_le_overshoot (ho : 0 ≤ o) : s.given a o ≤ o := by
  unfold given
  split
  · exact max_le ho (min_le_right _ _)
  · exact ho

/-- What remains of an overshoot is no larger. -/
theorem abs_sub_given_le : |o - s.given a o| ≤ |o| := by
  rcases le_total o 0 with hneg | hpos
  · rw [given_of_nonpos hneg, sub_zero]
  · have hle : s.given a o ≤ o := given_le_overshoot hpos
    have hnonneg := s.given_nonneg a o
    rw [abs_of_nonneg (sub_nonneg.mpr hle), abs_of_nonneg hpos]
    linarith

/-- What a share gives lies in every group that the share and the overshoot lie in. -/
theorem given_mem {G : AddSubgroup ℚ} (ha : a ∈ G) (ho : o ∈ G) : s.given a o ∈ G := by
  unfold given
  split
  · rcases le_total 0 (min a o) with h | h
    · rw [max_eq_right h]
      rcases min_choice a o with hmin | hmin <;> rwa [hmin]
    · rw [max_eq_left h]
      exact G.zero_mem
  · exact G.zero_mem

/-- Every share is left with an amount. -/
@[simp] theorem length_trimmed (o : ℚ) (entries : List (Split × ℚ)) :
    (trimmed o entries).1.length = entries.length := by
  induction entries with
  | nil => rfl
  | cons entry rest ih => simp [trimmed, ih]

/-- What the shares lose is what the overshoot loses. -/
theorem sum_trimmed (o : ℚ) (entries : List (Split × ℚ)) :
    (trimmed o entries).1.sum = (entries.map (·.2)).sum - (o - (trimmed o entries).2) := by
  induction entries with
  | nil => simp [trimmed]
  | cons entry rest ih =>
    simp only [trimmed, List.sum_cons, List.map_cons, ih]
    ring

/-- What is left of shares from zero up is not below zero. -/
theorem trimmed_nonneg (h : ∀ entry ∈ entries, 0 ≤ entry.2) :
    ∀ a ∈ (trimmed o entries).1, 0 ≤ a := by
  induction entries with
  | nil => simp [trimmed]
  | cons entry rest ih =>
    obtain ⟨hfirst, hrest⟩ := List.forall_mem_cons.mp h
    refine List.forall_mem_cons.mpr ⟨?_, ih hrest⟩
    exact sub_nonneg.mpr (given_le hfirst)

/-- The rest of an overshoot lies between zero and the overshoot. -/
theorem untaken_between (o : ℚ) (entries : List (Split × ℚ)) :
    0 ≤ o → 0 ≤ (trimmed o entries).2 ∧ (trimmed o entries).2 ≤ o := by
  intro ho
  induction entries with
  | nil => exact ⟨ho, le_rfl⟩
  | cons entry rest ih =>
    have hle := given_le_overshoot (s := entry.1) (a := entry.2) ih.1
    have hnonneg := entry.1.given_nonneg entry.2 (trimmed o rest).2
    constructor
    · exact sub_nonneg.mpr hle
    · exact (sub_le_self _ hnonneg).trans ih.2

/-- Without an overshoot nothing is taken. -/
theorem untaken_of_nonpos (ho : o ≤ 0) : (trimmed o entries).2 = o := by
  induction entries with
  | nil => rfl
  | cons entry rest ih => simp [trimmed, ih, given_of_nonpos ho]

/-- No more of an overshoot remains than exceeds the percentage shares. -/
theorem untaken_le (ho : 0 ≤ o) (h : ∀ entry ∈ entries, 0 ≤ entry.2) :
    (trimmed o entries).2 ≤
      max 0 (o - ((entries.filter (·.1.isPercentage)).map (·.2)).sum) := by
  induction entries with
  | nil => simp [trimmed]
  | cons entry rest ih =>
    obtain ⟨hfirst, hrest⟩ := List.forall_mem_cons.mp h
    have hu := (untaken_between o rest ho).1
    have hle := ih hrest
    cases hp : entry.1.isPercentage with
    | false => simpa [trimmed, given, hp] using hle
    | true =>
      simp only [trimmed, given, hp, if_true, List.filter_cons_of_pos, List.map_cons,
        List.sum_cons]
      rcases le_total entry.2 (trimmed o rest).2 with hall | hpart
      · rw [min_eq_left hall, max_eq_right hfirst]
        rcases le_max_iff.mp hle with hz | hd
        · exact le_max_of_le_left (by linarith)
        · exact le_max_of_le_right (by linarith)
      · rw [min_eq_right hpart, max_eq_right hu, sub_self]
        exact le_max_left _ _

/-- The percentage shares can give all of an overshoot that is at most their sum. -/
theorem untaken_eq_zero (ho : 0 ≤ o) (h : ∀ entry ∈ entries, 0 ≤ entry.2)
    (hle : o ≤ ((entries.filter (·.1.isPercentage)).map (·.2)).sum) :
    (trimmed o entries).2 = 0 := by
  refine le_antisymm ((untaken_le ho h).trans (max_le le_rfl ?_)) (untaken_between o entries ho).1
  linarith

/-- Where the other shares alone are within an amount, trimming to the amount leaves the smaller of
the amount and the sum of the shares. -/
theorem sum_trimmed_eq_min {f : ℚ} (h : ∀ entry ∈ entries, 0 ≤ entry.2)
    (hle : (entries.map (·.2)).sum - f ≤ ((entries.filter (·.1.isPercentage)).map (·.2)).sum) :
    (trimmed ((entries.map (·.2)).sum - f) entries).1.sum = min f (entries.map (·.2)).sum := by
  rw [sum_trimmed]
  rcases le_total (entries.map (·.2)).sum f with hless | hover
  · rw [untaken_of_nonpos (sub_nonpos.mpr hless), sub_self, sub_zero, min_eq_right hless]
  · rw [untaken_eq_zero (sub_nonneg.mpr hover) h hle, sub_zero, min_eq_left hover]
    ring

/-- Where something of an overshoot remains, the percentage shares have given all of
themselves. -/
theorem trimmed_of_untaken_pos (hentries : ∀ entry ∈ entries, 0 ≤ entry.2)
    (h : 0 < (trimmed o entries).2) :
    (trimmed o entries).1 = entries.map fun entry => if entry.1.isPercentage then 0 else entry.2 := by
  induction entries with
  | nil => rfl
  | cons entry rest ih =>
    obtain ⟨s, a⟩ := entry
    obtain ⟨hfirst, hrest⟩ := List.forall_mem_cons.mp hentries
    have hnonneg := s.given_nonneg a (trimmed o rest).2
    have hremains : s.given a (trimmed o rest).2 < (trimmed o rest).2 := by
      simpa [trimmed] using h
    rw [List.map_cons, ← ih hrest (hnonneg.trans_lt hremains), trimmed, given]
    rw [given] at hremains
    cases hp : s.isPercentage with
    | false => simp
    | true =>
      rw [if_pos hp] at hremains
      have hless : a ≤ (trimmed o rest).2 := by
        by_contra hmore
        rw [min_eq_right (le_of_not_ge hmore)] at hremains
        exact absurd hremains (not_lt.mpr (le_max_right _ _))
      simp [min_eq_left hless, max_eq_right hfirst]

/-- The trimmed shares and the rest lie in every group that the shares and the overshoot lie
in. -/
theorem trimmed_mem {G : AddSubgroup ℚ} (ho : o ∈ G) (h : ∀ entry ∈ entries, entry.2 ∈ G) :
    (∀ a ∈ (trimmed o entries).1, a ∈ G) ∧ (trimmed o entries).2 ∈ G := by
  induction entries with
  | nil => exact ⟨by simp [trimmed], ho⟩
  | cons entry rest ih =>
    obtain ⟨hfirst, hrest⟩ := List.forall_mem_cons.mp h
    obtain ⟨hlater, huntaken⟩ := ih hrest
    have hgiven := given_mem (s := entry.1) hfirst huntaken
    exact ⟨List.forall_mem_cons.mpr ⟨sub_mem hfirst hgiven, hlater⟩, sub_mem huntaken hgiven⟩

end

section
variable {s : Split} {amount overshoot left rest : Decimal} {a o : ℚ}

/-- A step of taking back changes nothing, or the smaller of the share and the overshoot is taken
from both. -/
theorem giveBack_eq_ok (h : s.giveBack amount overshoot = .ok (left, rest)) :
    (overshoot.le 0 = .ok true ∨ s.isPercentage = false) ∧ left = amount ∧ rest = overshoot ∨
      overshoot.le 0 = .ok false ∧ s.isPercentage = true ∧
        ∃ taken, amount.lesser overshoot = .ok taken ∧ amount.sub taken = .ok left ∧
          overshoot.sub taken = .ok rest := by
  obtain ⟨done, hdone, h⟩ := bind_eq_ok_iff.mp h
  cases done with
  | true =>
    obtain ⟨rfl, rfl⟩ := Prod.mk.inj (pure_eq_ok_iff.mp h)
    exact .inl ⟨.inl hdone, rfl, rfl⟩
  | false =>
    cases hp : s.isPercentage with
    | false =>
      rw [hp] at h
      obtain ⟨rfl, rfl⟩ := Prod.mk.inj (pure_eq_ok_iff.mp h)
      exact .inl ⟨.inr rfl, rfl, rfl⟩
    | true =>
      rw [hp] at h
      obtain ⟨taken, htaken, h⟩ := bind_eq_ok_iff.mp h
      obtain ⟨l, hl, h⟩ := bind_eq_ok_iff.mp h
      obtain ⟨r, hr, h⟩ := bind_eq_ok_iff.mp h
      obtain ⟨rfl, rfl⟩ := Prod.mk.inj (pure_eq_ok_iff.mp h)
      exact .inr ⟨hdone, rfl, taken, htaken, hl, hr⟩

/-- One step of taking back follows the numbers if the context keeps what is left of both. -/
theorem giveBack_hasValue (ha : amount.HasValue a) (ho : overshoot.HasValue o) (ha0 : 0 ≤ a)
    (hr : s.isPercentage = true → 0 < o →
      Representable (a - s.given a o) ∧ Representable (o - s.given a o))
    (h : s.giveBack amount overshoot = .ok (left, rest)) :
    left.HasValue (a - s.given a o) ∧ rest.HasValue (o - s.given a o) := by
  rcases giveBack_eq_ok h with ⟨hkeep, rfl, rfl⟩ | ⟨hpos, hp, taken, htaken, hleft, hrest⟩
  · have hgiven : s.given a o = 0 := by
      rcases hkeep with hle | hp
      · rw [le_eq ho hasValue_zero] at hle
        exact given_of_nonpos (by simpa using hle)
      · simp [given, hp]
    rw [hgiven, sub_zero, sub_zero]
    exact ⟨ha, ho⟩
  · rw [le_eq ho hasValue_zero] at hpos
    have ho0 : 0 < o := not_le.mp (by simpa using hpos)
    have hgiven : s.given a o = min a o := by
      rw [given, if_pos hp, max_eq_right (le_min ha0 ho0.le)]
    obtain ⟨hrl, hrr⟩ := hr hp ho0
    rw [hgiven] at hrl hrr ⊢
    have ht := lesser_hasValue ha ho htaken
    exact ⟨sub_hasValue ha ht hrl hleft, sub_hasValue ho ht hrr hrest⟩

end

/-- Taking back an overshoot follows the numbers where no step rounds. -/
theorem takeBack_hasValue {overshoot untaken : Decimal} {o : ℚ} {splits : List Split}
    {amounts left : List Decimal} {as : List ℚ} (ho : overshoot.HasValue o)
    (ha : List.Forall₂ HasValue amounts as) (ha0 : ∀ a ∈ as, 0 ≤ a)
    (hr : TrimsExactly o (splits.zip as))
    (h : takeBack overshoot (splits.zip amounts) = .ok (left, untaken)) :
    List.Forall₂ HasValue left (trimmed o (splits.zip as)).1 ∧
      untaken.HasValue (trimmed o (splits.zip as)).2 := by
  induction ha generalizing splits left untaken with
  | nil =>
    rw [List.zip_nil_right] at h ⊢
    obtain ⟨rfl, rfl⟩ := Prod.mk.inj (Except.ok.inj h)
    exact ⟨.nil, ho⟩
  | @cons amount a amounts as hfirst _ ih =>
    cases splits with
    | nil =>
      rw [List.zip_nil_left] at h ⊢
      obtain ⟨rfl, rfl⟩ := Prod.mk.inj (Except.ok.inj h)
      exact ⟨.nil, ho⟩
    | cons s splits =>
      rw [List.zip_cons_cons] at h hr ⊢
      obtain ⟨⟨later, rest⟩, hlater, h⟩ := bind_eq_ok_iff.mp h
      obtain ⟨⟨first, untaken'⟩, hgive, h⟩ := bind_eq_ok_iff.mp h
      obtain ⟨rfl, rfl⟩ := Prod.mk.inj (pure_eq_ok_iff.mp h)
      obtain ⟨hapos, ha0⟩ := List.forall_mem_cons.mp ha0
      obtain ⟨hleft, huntaken⟩ := ih ha0 hr.1 hlater
      obtain ⟨hl, hr⟩ := giveBack_hasValue hfirst huntaken hapos hr.2 hgive
      exact ⟨.cons hl hleft, hr⟩

/-- What remains of an overshoot is no larger than it. -/
theorem abs_untaken_le (o : ℚ) (entries : List (Split × ℚ)) : |(trimmed o entries).2| ≤ |o| := by
  induction entries with
  | nil => exact le_rfl
  | cons entry rest ih => exact abs_sub_given_le.trans ih

/-- On a grid that the context reaches no step of taking back few units rounds. -/
theorem trimsExactly_of_mem_grid {e : Int} {o : ℚ} {entries : List (Split × ℚ)}
    (he : leastExponent ≤ e) (hmem : o ∈ grid e) (hlt : |o| < 10 ^ (e + precision))
    (h : ∀ entry ∈ entries, entry.2 ∈ grid e ∧ 0 ≤ entry.2 ∧ entry.2 < 10 ^ (e + precision)) :
    TrimsExactly o entries := by
  induction entries with
  | nil => trivial
  | cons entry rest ih =>
    obtain ⟨s, a⟩ := entry
    obtain ⟨⟨hamem, ha0, halt⟩, hrest⟩ := List.forall_mem_cons.mp h
    refine ⟨ih hrest, fun _ _ => ?_⟩
    have humem := (trimmed_mem hmem fun entry hentry => (hrest entry hentry).1).2
    have hgmem := given_mem (s := s) hamem humem
    have hg0 := s.given_nonneg a (trimmed o rest).2
    have hga : s.given a (trimmed o rest).2 ≤ a := given_le ha0
    constructor
    · refine representable_of_mem_grid he (sub_mem hamem hgmem) ?_
      rw [abs_of_nonneg (sub_nonneg.mpr hga)]
      linarith
    · exact representable_of_mem_grid he (sub_mem humem hgmem)
        ((abs_sub_given_le.trans (abs_untaken_le o rest)).trans_lt hlt)

end Split

end Passbook
