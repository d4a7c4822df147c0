import Passbook.Proofs.Split.Distribution

/-!
# No distribution pays out more than the fee

The last places of the fee, of the active flat amounts and of the minor unit decide how fine the
amounts of a distribution are. If the fee and the sum of the shares are few units of the finest
of these places, every credit is a number from zero up, the credits add up to at most the fee,
and what is reported as distributed and as undistributed is exact.
-/

namespace Passbook

open Decimal Split

/-- The power of ten of the last digit of a finite decimal. -/
def Decimal.exponent? : Decimal → Option Int
  | .finite x => some x.exponent
  | _ => none

namespace Fee

/-- The finest last place among the fee, the active finite flat amounts and the minor unit. -/
def finestPlace (fee : Fee) (splits : List Split) : Int :=
  ((fee.amount :: flatValues (activeOf splits)).filterMap Decimal.exponent?).foldr min
    (-fee.currency.decimalPlaces)

/-- The least of some places is not above the start. -/
theorem foldr_min_le_start (places : List Int) (start : Int) : places.foldr min start ≤ start := by
  induction places with
  | nil => exact le_rfl
  | cons place rest ih => exact (min_le_right _ _).trans ih

/-- The least of some places is not above any of them. -/
theorem foldr_min_le {places : List Int} {start place : Int} (h : place ∈ places) :
    places.foldr min start ≤ place := by
  induction places with
  | nil => exact absurd h List.not_mem_nil
  | cons first rest ih =>
    rcases List.mem_cons.mp h with rfl | h
    · exact min_le_left _ _
    · exact (min_le_right _ _).trans (ih h)

variable {fee : Fee} {splits : List Split}

theorem finestPlace_le_places : fee.finestPlace splits ≤ -fee.currency.decimalPlaces :=
  foldr_min_le_start _ _

/-- The fee and the active flat amounts are whole multiples of the unit of the finest place. -/
theorem mem_grid_finestPlace {x : Decimal}
    (hx : x ∈ fee.amount :: flatValues (activeOf splits)) :
    x.value ∈ grid (fee.finestPlace splits) := by
  cases x with
  | finite a =>
    have hle : fee.finestPlace splits ≤ a.exponent :=
      foldr_min_le (List.mem_filterMap.mpr ⟨_, hx, rfl⟩)
    exact grid_anti hle a.value_mem_grid
  | infinite s => exact zero_mem _
  | nan s g p => exact zero_mem _

theorem mem_flatValues {s : Split} {active : List Split} (hs : s ∈ active)
    (hf : s.isFlatAmount = true) : s.value ∈ flatValues active :=
  List.mem_map.mpr ⟨s, List.mem_filter.mpr ⟨hs, hf⟩, rfl⟩

/-- Where the fee and the sum of the shares are few units of the finest place, no addition of a
distribution rounds. -/
theorem exactAt_finestPlace (hleast : leastExponent ≤ fee.finestPlace splits)
    (hfee : fee.amount.value < 10 ^ (fee.finestPlace splits + precision))
    (hshares : ∀ shares,
      Split.shares fee.amount fee.currency.decimalPlaces (activeOf splits) = .ok shares →
        (shares.map Decimal.value).sum < 10 ^ (fee.finestPlace splits + precision)) :
    fee.ExactAt splits (fee.finestPlace splits) where
  least := hleast
  le_places := finestPlace_le_places
  fee_mem := mem_grid_finestPlace List.mem_cons_self
  fee_lt := hfee
  flat_mem _ hs hf := mem_grid_finestPlace (List.mem_cons_of_mem _ (mem_flatValues hs hf))
  shares_lt := hshares

/-- An amount that is few units of a place is few units of every coarser place. -/
theorem lt_of_place_le {q : ℚ} {e f : Int} (hlt : q < 10 ^ (e + precision)) (h : e ≤ f) :
    q < 10 ^ (f + precision) :=
  hlt.trans_le (zpow_le_zpow_right₀ (by norm_num) (by omega))

/-- No distribution credits more than the fee. -/
theorem distribute_within_fee (fee : Fee) (splits : List Split) (charge : Option String)
    (date : Option Date) (d : Distribution)
    (hleast : leastExponent ≤ fee.finestPlace splits)
    (hfee : fee.amount.value < 10 ^ (fee.finestPlace splits + precision))
    (hshares : ∀ shares,
      Split.shares fee.amount fee.currency.decimalPlaces (activeOf splits) = .ok shares →
        (shares.map Decimal.value).sum < 10 ^ (fee.finestPlace splits + precision))
    (h : fee.distribute splits charge date = .ok d) :
    fee.amount.HasValue fee.amount.value ∧ d.total = fee.amount ∧
      (∀ c ∈ d.credits, c.amount.HasValue c.amount.value ∧ 0 ≤ c.amount.value) ∧
      d.credited ≤ fee.amount.value ∧
      (∃ total, d.distributed = .ok total ∧ total.HasValue d.credited) ∧
      (∃ rest, d.undistributed = .ok rest ∧
        rest.HasValue (fee.amount.value - d.credited) ∧ 0 ≤ fee.amount.value - d.credited) ∧
      (fee.amount.value ∈ grid (-fee.currency.decimalPlaces) →
        (∀ s ∈ activeOf splits, s.isFlatAmount = true →
          s.value.value ∈ grid (-fee.currency.decimalPlaces)) →
        ∀ c ∈ d.credits, c.amount.value ∈ grid (-fee.currency.decimalPlaces)) := by
  obtain ⟨f, shares, ht⟩ := (exactAt_finestPlace hleast hfee hshares).trimmed h
  have hf : fee.amount.value = f := ht.fee_hasValue.value_eq
  rw [hf]
  refine ⟨ht.fee_hasValue, ht.total_eq, fun c hc => ⟨ht.credit_hasValue hc, ht.credit_nonneg hc⟩,
    ht.credited_le, ht.distributed, ?_, ?_⟩
  · obtain ⟨rest, hrest, hvalue⟩ := ht.undistributed
    exact ⟨rest, hrest, hvalue, sub_nonneg.mpr ht.credited_le⟩
  · intro hwhole hflat c hc
    rw [← hf] at hwhole
    -- The same distribution, seen on the coarser grid of the minor unit.
    have hminor : fee.ExactAt splits (-fee.currency.decimalPlaces) :=
      { least := hleast.trans finestPlace_le_places
        le_places := le_rfl
        fee_mem := hwhole
        fee_lt := lt_of_place_le hfee finestPlace_le_places
        flat_mem := hflat
        shares_lt := fun shares hs => lt_of_place_le (hshares shares hs) finestPlace_le_places }
    exact ((hminor.isUnits h).2.1 c hc).mem

/-- A fee of five cents. -/
def fiveCents : Fee := ⟨"fee", .finite ⟨false, 5, -2⟩, none, ⟨"NGN", 2⟩⟩

/-- Two halves and a flat amount of nothing, beside an inactive split without a number. -/
def twoHalves : List Split :=
  [⟨"a", .percentage, 50, true, none⟩, ⟨"b", .percentage, 50, true, none⟩,
    ⟨"c", .flatAmount, 0, true, none⟩, ⟨"d", .flatAmount, .nan false false 0, false, none⟩]

/-- Two halves of five cents round up to six cents; the last one gives the sixth back. -/
theorem twoHalves_within_fiveCents :
    ∃ d, fiveCents.distribute twoHalves = .ok d ∧
      d.credits.map (·.amount) = [.finite ⟨false, 3, -2⟩, .finite ⟨false, 2, -2⟩, 0] ∧
      d.credited ≤ fiveCents.amount.value ∧ ∀ c ∈ d.credits, c.amount.value ∈ grid (-2) := by
  have hplace : fiveCents.finestPlace twoHalves = -2 := rfl
  have hzero : (0 : Decimal).value = 0 := hasValue_zero.value_eq
  have hvalue : fiveCents.amount.value = 5 / 100 := by
    norm_num [fiveCents, zpow_neg]
  obtain ⟨-, -, -, hle, -, -, hwhole⟩ := distribute_within_fee fiveCents twoHalves none none _
    (by decide) (by rw [hplace, hvalue]; norm_num [precision])
    (by
      intro shares hshares
      obtain rfl : [.finite ⟨false, 3, -2⟩, .finite ⟨false, 3, -2⟩, 0] = shares :=
        Except.ok.inj hshares
      rw [hplace, List.map_cons, List.map_cons, List.map_cons, hzero]
      norm_num [precision, zpow_neg])
    rfl
  refine ⟨_, rfl, rfl, hle, hwhole ?_ ?_⟩
  · exact Scaled.value_mem_grid ⟨false, 5, -2⟩
  · intro s hs hflat
    have hzeroFlat : s.value = 0 := by
      fin_cases hs
      · exact absurd hflat (by decide)
      · exact absurd hflat (by decide)
      · rfl
    rw [hzeroFlat, hzero]
    exact zero_mem _

end Fee

end Passbook
