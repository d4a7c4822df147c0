import Passbook.Proofs.Limit
import Passbook.Proofs.Money
import Passbook.Store.Services

/-!
# Deposit checks fail closed

Limits are left unchecked only for clients whose classification has no limit setting. In every
other case a list of broken limits is returned only if all currencies have one code and the
limits, the balance and the amount are numbers; otherwise the check fails. An infinity is stopped
where it is rounded, and a value that is no number passes the rounding but not the comparison
after it.
-/

namespace Passbook

open Decimal

/-- What is compared has a place in the order. -/
theorem Decimal.isNaN_of_lt {x y : Decimal} {b : Bool} (h : x.lt y = .ok b) :
    x.isNaN = false ∧ y.isNaN = false := by
  rw [lt] at h
  cases hcompare : x.compare? y with
  | none => simp [hcompare] at h
  | some o =>
    obtain ⟨p, q, hp, hq, -⟩ := point?_of_compare? hcompare
    exact ⟨exists_point?_iff.mp ⟨p, hp⟩, exists_point?_iff.mp ⟨q, hq⟩⟩

namespace Money

variable {m n total : Money} {currency : Currency} {amount : Decimal} {exceeded : Bool}

/-- Currencies that are found to be the same have one code. -/
theorem code_of_requireSameCode {expected actual : Currency} {u : Unit}
    (h : requireSameCode expected actual = .ok u) : actual.code = expected.code := by
  rw [requireSameCode] at h
  split at h
  next hcode => exact hcode
  next => exact nomatch h

/-- Two amounts whose sum has a place in the order are numbers. -/
theorem isFinite_of_plus (h : m.plus n = .ok total) (htotal : total.amount.isNaN = false) :
    m.amount.isFinite = true ∧ n.amount.isFinite = true := by
  obtain ⟨-, -, h⟩ := bind_eq_ok_iff.mp h
  obtain ⟨sum, hsum, h⟩ := bind_eq_ok_iff.mp h
  rw [liftM_eq_ok_iff] at hsum h
  have hfinite := isFinite_of h htotal
  obtain ⟨⟨p, hp⟩, ⟨q, hq⟩⟩ := hasValue_of_add hsum (hasValue_value hfinite)
  exact ⟨hp.isFinite, hq.isFinite⟩

/-- Amounts that are compared have places in the order. -/
theorem isNaN_of_exceeds (h : m.exceeds n = .ok exceeded) :
    m.amount.isNaN = false ∧ n.amount.isNaN = false := by
  obtain ⟨-, -, h⟩ := bind_eq_ok_iff.mp h
  exact (isNaN_of_lt (liftM_eq_ok_iff.mp h)).symm

end Money

namespace LimitProfile

variable {profile : LimitProfile} {balance amount money : Money} {limit : Decimal}
  {found : List LimitBreach}

/-- A limit is found only for an amount in the currency of the profile. -/
theorem code_of_limitFor (h : profile.limitFor limit amount = .ok money) :
    amount.currency.code = profile.currency.code := by
  obtain ⟨_, hcode, -⟩ := bind_eq_ok_iff.mp h
  exact Money.code_of_requireSameCode hcode

/-- Everything that a check compares is a number, in currencies of one code. -/
structure Comparable (profile : LimitProfile) (balance amount : Money) : Prop where
  balanceCode : balance.currency.code = profile.currency.code
  amountCode : amount.currency.code = profile.currency.code
  maxSingleDeposit : profile.maxSingleDeposit.isFinite = true
  cumulativeBalance : profile.cumulativeBalance.isFinite = true
  balanceAmount : balance.amount.isFinite = true
  amountAmount : amount.amount.isFinite = true

/-- A list is returned only if everything can be compared. -/
theorem comparable_of_breaches (h : profile.breaches balance amount = .ok found) :
    profile.Comparable balance amount := by
  obtain ⟨single, hsingle, h⟩ := bind_eq_ok_iff.mp h
  obtain ⟨cumulative, hcumulative, h⟩ := bind_eq_ok_iff.mp h
  obtain ⟨overSingle, hoverSingle, h⟩ := bind_eq_ok_iff.mp h
  obtain ⟨after, hafter, h⟩ := bind_eq_ok_iff.mp h
  obtain ⟨overCumulative, hoverCumulative, -⟩ := bind_eq_ok_iff.mp h
  obtain ⟨-, hsingleOrdered⟩ := Money.isNaN_of_exceeds hoverSingle
  obtain ⟨hafterOrdered, hcumulativeOrdered⟩ := Money.isNaN_of_exceeds hoverCumulative
  obtain ⟨hbalance, hamount⟩ := Money.isFinite_of_plus hafter hafterOrdered
  exact {
    balanceCode := code_of_limitFor hcumulative
    amountCode := code_of_limitFor hsingle
    maxSingleDeposit := Money.isFinite_of (of_limitFor hsingle) hsingleOrdered
    cumulativeBalance := Money.isFinite_of (of_limitFor hcumulative) hcumulativeOrdered
    balanceAmount := hbalance
    amountAmount := hamount }

end LimitProfile

namespace Store

variable {store : Store} {classification : Option Int} {balance amount : Money} {c id : Int}
  {setting : LimitSetting}

/-- The row that maps a classification. -/
def mapping? (store : Store) (c : Int) : Option LimitMapping :=
  store.mappings.find? fun m => m.classification == c

/-- The row of a limit setting. -/
def setting? (store : Store) (id : Int) : Option LimitSetting :=
  store.settings.find? fun s => s.id == id

/-- There is no classification, or no row maps it, or the row that maps it names no setting. -/
def Unlimited (store : Store) (classification : Option Int) : Prop :=
  classification = none ∨ ∃ c, classification = some c ∧
    ((∀ m ∈ store.mappings, m.classification ≠ c) ∨
      ∃ m, store.mapping? c = some m ∧ m.setting = none)

/-- The row that maps the classification names a setting. -/
def MapsTo (store : Store) (classification : Option Int) (c id : Int) : Prop :=
  classification = some c ∧ ∃ m, store.mapping? c = some m ∧ m.setting = some id

/-- The row that maps the classification names a setting that does not exist. -/
def Dangling (store : Store) (classification : Option Int) (c id : Int) : Prop :=
  store.MapsTo classification c id ∧ ∀ s ∈ store.settings, s.id ≠ id

/-- The profile of a classification that a row maps to the setting. -/
def profileOf (s : LimitSetting) (c : Int) : LimitProfile where
  classification := c
  maxSingleDeposit := s.maxSingleDeposit
  cumulativeBalance := s.cumulativeBalance
  currency := s.currency
  name := s.name

theorem mapping?_eq_none_iff :
    store.mapping? c = none ↔ ∀ m ∈ store.mappings, m.classification ≠ c := by
  simp [mapping?]

theorem setting?_eq_none_iff : store.setting? id = none ↔ ∀ s ∈ store.settings, s.id ≠ id := by
  simp [setting?]

/-- A profile is looked up in the row that maps the classification, and then in the row of the
setting. -/
theorem profile?_eq (store : Store) (c : Int) :
    store.profile? c =
      match (store.mapping? c).bind (·.setting) with
      | none => .ok none
      | some id =>
        match store.setting? id with
        | none => .error (.limitSettingMissing c id)
        | some s => .ok (some (profileOf s c)) := by
  unfold profile? mapping? setting?
  cases store.mappings.find? fun m => m.classification == c with
  | none => rfl
  | some m =>
    cases hsetting : m.setting with
    | none => simp [hsetting]
    | some id => simp [hsetting]; rfl

/-- A classification is unlimited without a mapping to a setting. -/
theorem unlimited_some_iff :
    store.Unlimited (some c) ↔ (store.mapping? c).bind (·.setting) = none := by
  have hrow : store.Unlimited (some c) ↔
      store.mapping? c = none ∨ ∃ m, store.mapping? c = some m ∧ m.setting = none := by
    simp [Unlimited, mapping?_eq_none_iff]
  rw [hrow]
  cases hmapping : store.mapping? c with
  | none => simp
  | some m => simp

/-- A classification maps to the setting that its mapping names. -/
theorem mapsTo_iff :
    store.MapsTo classification c id ↔
      classification = some c ∧ (store.mapping? c).bind (·.setting) = some id := by
  rw [MapsTo, Option.bind_eq_some_iff]

/-- There is no profile exactly without a limit setting. -/
theorem profileFor_eq_none_iff :
    store.profile?.profileFor classification = .ok none ↔ store.Unlimited classification := by
  cases classification with
  | none => exact iff_of_true rfl (.inl rfl)
  | some c =>
    rw [unlimited_some_iff, ProfileLookup.profileFor, profile?_eq]
    cases (store.mapping? c).bind (·.setting) with
    | none => exact iff_of_true rfl rfl
    | some id =>
      cases hsetting : store.setting? id with
      | none => simp [hsetting]
      | some s => simp [hsetting]

/-- A mapping that dangles is an error. -/
theorem profileFor_of_dangling (h : store.Dangling classification c id) :
    store.profile?.profileFor classification = .error (.limitSettingMissing c id) := by
  obtain ⟨hmaps, hmissing⟩ := h
  obtain ⟨rfl, hsetting⟩ := mapsTo_iff.mp hmaps
  simp only [ProfileLookup.profileFor, profile?_eq, hsetting, setting?_eq_none_iff.mpr hmissing]

/-- A mapping to a stored setting gives the profile of the setting. -/
theorem profileFor_of_setting (hmaps : store.MapsTo classification c id)
    (hs : store.setting? id = some setting) :
    store.profile?.profileFor classification = .ok (some (profileOf setting c)) := by
  obtain ⟨rfl, hsetting⟩ := mapsTo_iff.mp hmaps
  simp only [ProfileLookup.profileFor, profile?_eq, hsetting, hs]

/-- A classification with limits is mapped to a setting that exists, unless its mapping
dangles. -/
theorem exists_setting (hlimited : ¬store.Unlimited classification)
    (hsound : ∀ c id, ¬store.Dangling classification c id) :
    ∃ c id s, store.MapsTo classification c id ∧ store.setting? id = some s := by
  cases classification with
  | none => exact absurd (.inl rfl) hlimited
  | some c =>
    rw [unlimited_some_iff] at hlimited
    obtain ⟨id, hid⟩ := Option.ne_none_iff_exists'.mp hlimited
    have hmaps : store.MapsTo (some c) c id := mapsTo_iff.mpr ⟨rfl, hid⟩
    cases hs : store.setting? id with
    | none => exact absurd ⟨hmaps, setting?_eq_none_iff.mp hs⟩ (hsound c id)
    | some s => exact ⟨c, id, s, hmaps, hs⟩

/-- A deposit check leaves the limits aside exactly without a limit setting, and then finds
nothing broken; a mapping that dangles is an error; and in every other case the check either fails
or has compared numbers in currencies of one code. -/
theorem checkDeposit_fails_closed (store : Store) (classification : Option Int)
    (balance amount : Money) :
    (store.profile?.profileFor classification = .ok none ↔ store.Unlimited classification) ∧
    (store.Unlimited classification →
      store.checkDeposit classification balance amount = (.ok [], {})) ∧
    (∀ c id, store.Dangling classification c id →
      (store.checkDeposit classification balance amount).1 =
        .error (.limitSettingMissing c id)) ∧
    (¬store.Unlimited classification → (∀ c id, ¬store.Dangling classification c id) →
      ∃ c id s, store.MapsTo classification c id ∧ store.setting? id = some s ∧
        ((∃ error, (store.checkDeposit classification balance amount).1 = .error error) ∨
          ∃ found, (store.checkDeposit classification balance amount).1 = .ok found ∧
            (profileOf s c).Comparable balance amount)) := by
  refine ⟨profileFor_eq_none_iff, ?_, ?_, ?_⟩
  · intro hunlimited
    rw [checkDeposit, ProfileLookup.checkDeposit, ProfileLookup.breaches,
      profileFor_eq_none_iff.mpr hunlimited]
    rfl
  · intro c id hdangling
    rw [checkDeposit, ProfileLookup.checkDeposit, ProfileLookup.breaches,
      profileFor_of_dangling hdangling]
    rfl
  · intro hlimited hsound
    obtain ⟨c, id, s, hmaps, hs⟩ := exists_setting hlimited hsound
    have houtcome : (store.checkDeposit classification balance amount).1 =
        (profileOf s c).breaches balance amount := by
      rw [checkDeposit, ProfileLookup.checkDeposit, ProfileLookup.breaches,
        profileFor_of_setting hmaps hs]
      rfl
    refine ⟨c, id, s, hmaps, hs, ?_⟩
    rw [houtcome]
    cases hbreaches : (profileOf s c).breaches balance amount with
    | error error => exact .inl ⟨error, rfl⟩
    | ok found => exact .inr ⟨found, rfl, LimitProfile.comparable_of_breaches hbreaches⟩

/-- One classification with limits, one whose mapping names no setting, and one whose mapping
dangles. -/
def threeMappings : Store where
  settings := [⟨10, "basic", 80, 100, ⟨"EUR", 2⟩⟩]
  mappings := [⟨1, some 10⟩, ⟨2, none⟩, ⟨3, some 99⟩]

/-- An infinite deposit fails where there are limits; without any it is not checked; and a
mapping that dangles is an error. -/
theorem threeMappings_fails_closed :
    (∃ error, (threeMappings.checkDeposit (some 1) ⟨50, ⟨"EUR", 2⟩⟩
      ⟨.infinite true, ⟨"EUR", 2⟩⟩).1 = .error error) ∧
    threeMappings.checkDeposit (some 2) ⟨50, ⟨"EUR", 2⟩⟩ ⟨.infinite true, ⟨"EUR", 2⟩⟩ =
      (.ok [], {}) ∧
    (threeMappings.checkDeposit (some 3) ⟨50, ⟨"EUR", 2⟩⟩ ⟨70, ⟨"EUR", 2⟩⟩).1 =
      .error (.limitSettingMissing 3 99) := by
  obtain ⟨-, -, -, hlimited⟩ := checkDeposit_fails_closed threeMappings (some 1)
    ⟨50, ⟨"EUR", 2⟩⟩ ⟨.infinite true, ⟨"EUR", 2⟩⟩
  obtain ⟨-, hunlimited, -, -⟩ := checkDeposit_fails_closed threeMappings (some 2)
    ⟨50, ⟨"EUR", 2⟩⟩ ⟨.infinite true, ⟨"EUR", 2⟩⟩
  obtain ⟨-, -, hdangling, -⟩ := checkDeposit_fails_closed threeMappings (some 3)
    ⟨50, ⟨"EUR", 2⟩⟩ ⟨70, ⟨"EUR", 2⟩⟩
  refine ⟨?_, hunlimited ?_, hdangling 3 99 ⟨⟨rfl, _, rfl, rfl⟩, by decide⟩⟩
  · have hmapped : ¬threeMappings.Unlimited (some 1) := fun h =>
      nomatch unlimited_some_iff.mp h
    have hsound : ∀ c id, ¬threeMappings.Dangling (some 1) c id := by
      rintro c id ⟨hmaps, hmissing⟩
      obtain ⟨hc, hid⟩ := mapsTo_iff.mp hmaps
      obtain rfl := Option.some.inj hc
      obtain rfl := Option.some.inj hid
      exact hmissing _ List.mem_cons_self rfl
    obtain ⟨c, id, s, -, -, herror | ⟨found, -, hcomparable⟩⟩ := hlimited hmapped hsound
    · exact herror
    · exact nomatch hcomparable.amountAmount
  · exact .inr ⟨2, rfl, .inr ⟨_, rfl, rfl⟩⟩

end Store

end Passbook
