import Passbook.Proofs.Schedule.Coverage
import Mathlib.Data.List.Sym
import Mathlib.Data.Sym.Sym2

/-!
# What a check reports

On slabs whose bounds are numbers a check always returns, and what it reports is a function of the
ranges: every slab without amounts once, every pair of slabs that share a stretch without being
one range once, and a gap between neighbours that are apart. A pair is an unordered one, so the
order that the slabs are checked in adds no report and loses none. Nothing is reported exactly if
the slabs are tiled.
-/

namespace Passbook

open Decimal

namespace Slab

variable {s t : Slab} {step : Decimal} {slabs later : List Slab} {q : ℚ}

/-- The slabs have different bounds and neither ends below the start of the other. -/
def Clashes (s t : Slab) : Prop :=
  ¬s.SameBounds t ∧ ¬s.EndsBelow t.low ∧ ¬t.EndsBelow s.low

/-- The end of the slab and one step have a sum, which the context does not round. -/
def StepsExactly (step : Decimal) (s : Slab) : Prop :=
  ∀ u ∈ s.upper, ∃ next, u.add step = .ok next ∧ next.HasValue (u.value + step.value)

/-- A sum of end and step that is not rounded is the exact step. -/
theorem StepsExactly.exactStep (h : s.StepsExactly step) : s.ExactStep step := by
  intro u hu next hnext
  obtain ⟨next', hnext', hvalue⟩ := h u hu
  obtain rfl := Except.ok.inj (hnext.symm.trans hnext')
  exact hvalue

instance : DecidableRel Clashes := fun s t =>
  inferInstanceAs (Decidable (¬s.SameBounds t ∧ ¬s.EndsBelow t.low ∧ ¬t.EndsBelow s.low))

instance (q : ℚ) : DecidableRel (Follows q) := fun s t =>
  inferInstanceAs (Decidable (s.SameBounds t ∨ ∃ u ∈ s.high, t.low = u + q))

theorem SameBounds.refl (s : Slab) : s.SameBounds s := ⟨rfl, rfl⟩

/-- A slab does not clash with itself. -/
theorem not_clashes_self (s : Slab) : ¬s.Clashes s := fun h => h.1 (SameBounds.refl s)

instance : Std.Symm Clashes := ⟨fun _ _ h => ⟨fun hsame => h.1 hsame.symm, h.2.2, h.2.1⟩⟩

/-- The unordered pairs of slabs that clash. -/
def clashing : Set (Sym2 Slab) := Sym2.fromRel (r := Clashes) inferInstance

instance : DecidablePred (· ∈ clashing) :=
  inferInstanceAs (DecidablePred (· ∈ Sym2.fromRel (r := Clashes) inferInstance))

/-- The gap between a slab and the next one that is reported. -/
def gapTo (q : ℚ) (s : Slab) : List Slab → List Conflict
  | [] => []
  | t :: _ =>
    if ¬s.EndsBelow s.low ∧ ¬s.Follows q t ∧ (s.EndsBelow t.low ∨ t.EndsBelow s.low) then [.gap s t]
    else []

/-- What is reported about a slab beside the slabs after it. -/
def reportOn (q : ℚ) (s : Slab) (later : List Slab) : List Conflict :=
  (if s.EndsBelow s.low then [.inverted s] else []) ++
    (later.filter fun t => s.Clashes t).map (.overlap s) ++ s.gapTo q later

/-- What is reported about slabs in their order. -/
def report (q : ℚ) : List Slab → List Conflict
  | [] => []
  | s :: later => s.reportOn q later ++ report q later

/-- A slab whose bounds are numbers is found to be inverted if it ends below its start. -/
theorem ownConflicts_eq (hs : s.FiniteBounds) :
    s.ownConflicts = .ok (if s.EndsBelow s.low then [.inverted s] else []) := by
  rw [ownConflicts, isInverted_eq hs, ok_bind]
  by_cases h : s.EndsBelow s.low
  · rw [decide_eq_true h, if_pos rfl, if_pos h]
    rfl
  · rw [decide_eq_false h, if_neg (by decide), if_neg h]
    rfl

/-- A slab is found to overlap with the later ones that it clashes with. -/
theorem overlapsWith_eq (hs : s.FiniteBounds) (hlater : ∀ t ∈ later, t.FiniteBounds) :
    s.overlapsWith later = .ok ((later.filter fun t => s.Clashes t).map (.overlap s)) := by
  induction later with
  | nil => rfl
  | cons t rest ih =>
    obtain ⟨ht, hrest⟩ := List.forall_mem_cons.mp hlater
    have hclash : decide ((¬s.EndsBelow t.low ∧ ¬t.EndsBelow s.low) ∧ ¬s.SameBounds t) =
        decide (s.Clashes t) := decide_eq_decide.mpr And.comm
    rw [overlapsWith, conflictsWith_eq hs ht, hclash, ih hrest, ok_bind, ok_bind]
    by_cases h : s.Clashes t
    · rw [decide_eq_true h, if_pos rfl, List.filter_cons_of_pos (by simpa using h)]
      rfl
    · rw [decide_eq_false h, if_neg (by decide), List.filter_cons_of_neg (by simpa using h)]
      rfl

/-- A slab has no gap to the next one exactly if that one follows it. -/
theorem hasGap_eq (hs : s.FiniteBounds) (ht : t.FiniteBounds) (hexact : s.StepsExactly step) :
    s.hasGap t step = .ok (decide (¬s.Follows step.value t)) := by
  rw [hasGap, samePeriod_eq hs ht, ok_bind]
  by_cases hsame : s.SameBounds t
  · have hfollows : s.Follows step.value t := .inl hsame
    rw [decide_eq_true hsame, if_pos rfl, decide_eq_false (not_not.mpr hfollows)]
    rfl
  · rw [decide_eq_false hsame, if_neg (by decide)]
    cases hu : s.upper with
    | none =>
      have hnot : ¬s.Follows step.value t := by
        rintro (h | ⟨u, hmem, -⟩)
        · exact hsame h
        · simp [high, hu] at hmem
      rw [decide_eq_true hnot]
      rfl
    | some u =>
      obtain ⟨next, hnext, hvalue⟩ := hexact u hu
      have hiff : s.Follows step.value t ↔ t.low = u.value + step.value := by
        simp [Follows, hsame, high, hu]
      simp only [hnext, ok_bind, sameValue_eq ht.hasValue_lower hvalue, hiff]
      simp [pure, Except.pure]

/-- The gap that is found after a slab is the one to the next slab. -/
theorem gapAfter_eq (hs : s.FiniteBounds) (hlater : ∀ t ∈ later, t.FiniteBounds)
    (hexact : s.StepsExactly step) :
    s.gapAfter later step = .ok (s.gapTo step.value later) := by
  unfold gapAfter
  rw [isInverted_eq hs, ok_bind]
  cases later with
  | nil =>
    rw [gapTo]
    exact ite_self _
  | cons t rest =>
    have ht := hlater t List.mem_cons_self
    rw [gapTo]
    by_cases hinverted : s.EndsBelow s.low
    · rw [decide_eq_true hinverted, if_pos rfl, if_neg (fun h => h.1 hinverted)]
      rfl
    · rw [decide_eq_false hinverted, if_neg (by decide)]
      dsimp only
      rw [gapBefore, hasGap_eq hs ht hexact, overlaps_eq hs ht, ok_bind, ok_bind]
      by_cases hfollows : s.Follows step.value t
      · rw [decide_eq_false (not_not.mpr hfollows), if_neg (by decide),
          if_neg (fun h => h.2.1 hfollows)]
        rfl
      · rw [decide_eq_true hfollows, if_pos rfl]
        by_cases hst : s.EndsBelow t.low <;> by_cases hts : t.EndsBelow s.low <;>
          simp [hst, hts, hinverted, hfollows, pure, Except.pure]

/-- A check of slabs whose bounds are numbers returns the report on their ranges. -/
theorem conflictsOf_eq (hbounds : ∀ s ∈ slabs, s.FiniteBounds)
    (hexact : ∀ s ∈ slabs, s.StepsExactly step) :
    Schedule.conflictsOf step slabs = .ok (report step.value slabs) := by
  induction slabs with
  | nil => rfl
  | cons s later ih =>
    obtain ⟨hs, hlater⟩ := List.forall_mem_cons.mp hbounds
    obtain ⟨hstep, hsteps⟩ := List.forall_mem_cons.mp hexact
    rw [Schedule.conflictsOf, validate, ownConflicts_eq hs, overlapsWith_eq hs hlater,
      gapAfter_eq hs hlater hstep, ih hlater hsteps]
    rfl

/-- The slab that is reported as inverted. -/
def Conflict.slab? : Conflict → Option Slab
  | inverted s => some s
  | _ => none

/-- The unordered pair that is reported as overlapping. -/
def Conflict.pair? : Conflict → Option (Sym2 Slab)
  | overlap s t => some s(s, t)
  | _ => none

theorem isSome_slab? (c : Conflict) : c.slab?.isSome = c.isInverted := by
  cases c <;> rfl

theorem isSome_pair? (c : Conflict) : c.pair?.isSome = c.isOverlap := by
  cases c <;> rfl

theorem mem_clashing : s(s, t) ∈ clashing ↔ s.Clashes t := Sym2.fromRel_prop

/-- A gap is reported between slabs of which one ends below the start of the other. -/
theorem mem_gapTo {c : Conflict} (h : c ∈ s.gapTo q later) :
    ∃ t, c = .gap s t ∧ (s.EndsBelow t.low ∨ t.EndsBelow s.low) := by
  cases later with
  | nil => simp [gapTo] at h
  | cons t rest =>
    rw [gapTo] at h
    split at h
    next hgap =>
      obtain rfl := List.mem_singleton.mp h
      exact ⟨t, rfl, hgap.2.2⟩
    next => simp at h

/-- The reported gaps name neither a slab nor an overlapping pair. -/
theorem filterMap_gapTo {α : Type} {f : Conflict → Option α} (hf : ∀ s t, f (.gap s t) = none) :
    (s.gapTo q later).filterMap f = [] := by
  rw [List.filterMap_eq_nil_iff]
  intro c hc
  obtain ⟨t, rfl, -⟩ := mem_gapTo hc
  exact hf s t

/-- Every slab that ends below its start is reported once. -/
theorem filterMap_slab?_report (q : ℚ) (slabs : List Slab) :
    (report q slabs).filterMap Conflict.slab? =
      slabs.filter fun s => decide (s.EndsBelow s.low) := by
  induction slabs with
  | nil => rfl
  | cons s later ih =>
    have hoverlaps : ((later.filter fun t => s.Clashes t).map (.overlap s)).filterMap
        Conflict.slab? = [] := by
      simp [List.filterMap_eq_nil_iff, Conflict.slab?]
    rw [report, reportOn, List.filterMap_append, List.filterMap_append, List.filterMap_append, ih,
      hoverlaps, filterMap_gapTo fun _ _ => rfl]
    by_cases h : s.EndsBelow s.low
    · rw [if_pos h, List.filter_cons_of_pos (by simpa using h)]
      rfl
    · rw [if_neg h, List.filter_cons_of_neg (by simpa using h)]
      rfl

/-- Every pair of slabs that clash is reported once. -/
theorem filterMap_pair?_report (q : ℚ) (slabs : List Slab) :
    (report q slabs).filterMap Conflict.pair? =
      slabs.sym2.filter fun pair => decide (pair ∈ clashing) := by
  induction slabs with
  | nil => rfl
  | cons s later ih =>
    have hinverted : (if s.EndsBelow s.low then [Conflict.inverted s] else []).filterMap
        Conflict.pair? = [] := by
      split <;> rfl
    have hoverlaps : ((later.filter fun t => s.Clashes t).map (.overlap s)).filterMap
        Conflict.pair? = (later.filter fun t => s.Clashes t).map fun t => s(s, t) := by
      rw [List.filterMap_map, ← List.filterMap_eq_map]
      rfl
    have hpairs : ((s :: later).map fun t => s(s, t)).filter
        (fun pair => decide (pair ∈ clashing)) =
        (later.filter fun t => s.Clashes t).map fun t => s(s, t) := by
      rw [List.filter_map, List.filter_cons_of_neg]
      · rfl
      · simpa [mem_clashing] using not_clashes_self s
    rw [report, reportOn, List.filterMap_append, List.filterMap_append, List.filterMap_append, ih,
      hinverted, hoverlaps, filterMap_gapTo fun _ _ => rfl, List.sym2, List.filter_append, hpairs,
      List.nil_append, List.append_nil]

/-- Slabs that are reported to overlap clash. -/
theorem clashes_of_overlap (h : .overlap s t ∈ report q slabs) : s.Clashes t := by
  have hmem : s(s, t) ∈ (report q slabs).filterMap Conflict.pair? :=
    List.mem_filterMap.mpr ⟨_, h, rfl⟩
  rw [filterMap_pair?_report, List.mem_filter, decide_eq_true_iff] at hmem
  exact mem_clashing.mp hmem.2

/-- Slabs with a reported gap are apart. -/
theorem apart_of_gap (h : .gap s t ∈ report q slabs) : s.EndsBelow t.low ∨ t.EndsBelow s.low := by
  induction slabs with
  | nil => exact absurd h List.not_mem_nil
  | cons first later ih =>
    rw [report, reportOn, List.mem_append, List.mem_append, List.mem_append] at h
    rcases h with ((hinverted | hoverlap) | hgap) | hlater
    · split at hinverted <;> simp at hinverted
    · simp at hoverlap
    · obtain ⟨t', heq, hapart⟩ := mem_gapTo hgap
      obtain ⟨rfl, rfl⟩ := Conflict.gap.inj heq
      exact hapart
    · exact ih hlater

/-- A pair that is reported as a gap is not reported as an overlap. -/
theorem not_overlap_of_gap (h : .gap s t ∈ report q slabs) :
    .overlap s t ∉ report q slabs ∧ .overlap t s ∉ report q slabs := by
  have hapart := apart_of_gap h
  refine ⟨fun hoverlap => ?_, fun hoverlap => ?_⟩
  · obtain ⟨-, hst, hts⟩ := clashes_of_overlap hoverlap
    exact hapart.elim hst hts
  · obtain ⟨-, hts, hst⟩ := clashes_of_overlap hoverlap
    exact hapart.elim hst hts

/-- Nothing is reported about tiled slabs. -/
theorem Tiled.report_eq_nil (h : Tiled q slabs) : report q slabs = [] := by
  induction slabs with
  | nil => rfl
  | cons s later ih =>
    have hs := h.upright s List.mem_cons_self
    have hclashes : (later.filter fun t => decide (s.Clashes t)) = [] := by
      rw [List.filter_eq_nil_iff]
      intro t ht hclash
      obtain ⟨hbounds, hend, -⟩ := of_decide_eq_true hclash
      exact ((List.pairwise_cons.mp h.apart).1 t ht).elim hbounds hend
    have hgap : s.gapTo q later = [] := by
      cases later with
      | nil => rfl
      | cons t rest =>
        have hfollows := (List.isChain_cons_cons.mp h.chain).1
        exact if_neg fun hgap => hgap.2.1 hfollows
    rw [report, reportOn, if_neg hs, hclashes, hgap, ih h.tail]
    rfl

/-- Some amount is in the slab. -/
def HasAmount (s : Slab) : Prop := ∃ amount, s.contains amount = .ok true

/-- Some amount is in both slabs. -/
def ShareAmount (s t : Slab) : Prop :=
  ∃ amount, s.contains amount = .ok true ∧ t.contains amount = .ok true

/-- An amount in a slab is found to be between its bounds. -/
theorem le_of_contains {amount : Decimal} (h : s.contains amount = .ok true) :
    s.lower.le amount = .ok true ∧ ∀ u ∈ s.upper, amount.le u = .ok true := by
  rcases ite_eq_ok_iff.mp h with ⟨hlow, hhigh⟩ | ⟨-, hnone⟩
  · refine ⟨hlow, fun u hu => ?_⟩
    rw [Option.mem_def.mp hu] at hhigh
    exact hhigh
  · exact absurd (pure_eq_ok_iff.mp hnone) (by decide)

/-- A slab does not end below the start of another one that it shares an amount with. -/
theorem not_endsBelow_of_contains {amount : Decimal} (hs : s.FiniteBounds) (ht : t.FiniteBounds)
    (hcs : s.contains amount = .ok true) (hct : t.contains amount = .ok true) :
    ¬s.EndsBelow t.low := by
  rintro ⟨v, hv, hlt⟩
  obtain ⟨u, hu, rfl⟩ := Option.map_eq_some_iff.mp hv
  have hle := Decimal.le_trans (le_of_contains hct).1 ((le_of_contains hcs).2 u hu)
  rw [le_eq ht.hasValue_lower (hs.hasValue_upper hu)] at hle
  exact not_lt.mpr (of_decide_eq_true (Except.ok.inj hle)) hlt

theorem contains_of_covers {amount : Decimal} {a : ℚ} (hs : s.FiniteBounds)
    (ha : amount.HasValue a) (h : s.Covers a) : s.contains amount = .ok true := by
  rw [contains_eq hs ha, decide_eq_true h]

/-- A slab has an amount exactly if it does not end below its start. -/
theorem hasAmount_iff (hs : s.FiniteBounds) : s.HasAmount ↔ ¬s.EndsBelow s.low := by
  constructor
  · rintro ⟨amount, h⟩
    exact not_endsBelow_of_contains hs hs h h
  · intro h
    exact ⟨s.lower, contains_of_covers hs hs.hasValue_lower ⟨le_rfl, h⟩⟩

/-- Of two slabs with amounts the later start is a shared amount, unless the earlier slab ends
below it. -/
theorem shareAmount_of_low_le (hs : s.FiniteBounds) (ht : t.FiniteBounds) (hle : s.low ≤ t.low)
    (hend : ¬s.EndsBelow t.low) (hupright : ¬t.EndsBelow t.low) : s.ShareAmount t :=
  ⟨t.lower, contains_of_covers hs ht.hasValue_lower ⟨hle, hend⟩,
    contains_of_covers ht ht.hasValue_lower ⟨le_rfl, hupright⟩⟩

/-- Slabs in the order of their lower bounds are tiled exactly if each of them has an amount,
those that share an amount are one range, and neighbours follow each other. -/
theorem tiled_iff (hbounds : ∀ s ∈ slabs, s.FiniteBounds)
    (hsorted : slabs.Pairwise fun s t => s.low ≤ t.low) :
    Tiled q slabs ↔ (∀ s ∈ slabs, s.HasAmount) ∧
      (∀ s ∈ slabs, ∀ t ∈ slabs, s.ShareAmount t → s.SameBounds t) ∧ slabs.IsChain (Follows q) := by
  constructor
  · intro h
    refine ⟨fun s hs => (hasAmount_iff (hbounds s hs)).mpr (h.upright s hs), ?_, h.chain⟩
    rintro s hs t ht ⟨amount, hcs, hct⟩
    have hst := not_endsBelow_of_contains (hbounds s hs) (hbounds t ht) hcs hct
    have hts := not_endsBelow_of_contains (hbounds t ht) (hbounds s hs) hct hcs
    rcases le_total s.low t.low with hle | hle
    · exact h.sameBounds hs ht ⟨hle, hst⟩ ⟨le_rfl, h.upright t ht⟩
    · exact h.sameBounds hs ht ⟨le_rfl, h.upright s hs⟩ ⟨hle, hts⟩
  · rintro ⟨hamount, hshare, hchain⟩
    have hupright : ∀ s ∈ slabs, ¬s.EndsBelow s.low := fun s hs =>
      (hasAmount_iff (hbounds s hs)).mp (hamount s hs)
    refine ⟨hupright, ?_, hchain⟩
    refine hsorted.imp_of_mem fun {s t} hs ht hle => ?_
    by_cases hend : s.EndsBelow t.low
    · exact .inr hend
    · exact .inl (hshare s hs t ht
        (shareAmount_of_low_le (hbounds s hs) (hbounds t ht) hle hend (hupright t ht)))

end Slab

namespace Schedule

open Slab (sortByLower sortByLower_perm sortByLower_sorted mem_sortByLower report)

variable {authored : List Slab} {step : Decimal}

/-- Slabs whose bounds are numbers can be sorted. -/
theorem ofSlabs_ok (hbounds : ∀ s ∈ authored, s.FiniteBounds) :
    ofSlabs authored step = .ok ⟨sortByLower authored, step⟩ := by
  have hsorted : Slab.sortByLower? authored = .ok (sortByLower authored) :=
    Slab.sortByLower?_eq_ok_iff.mpr ⟨fun _ s hs => (hbounds s hs).isNaN_lower, rfl⟩
  rw [ofSlabs, hsorted]
  rfl

/-- A check of a new schedule returns the report on its sorted ranges. -/
theorem conflicts_eq_report (hbounds : ∀ s ∈ authored, s.FiniteBounds)
    (hexact : ∀ s ∈ authored, s.StepsExactly step) :
    (⟨sortByLower authored, step⟩ : Schedule).conflicts =
      .ok (report step.value (sortByLower authored)) :=
  Slab.conflictsOf_eq (fun s hs => hbounds s (mem_sortByLower.mp hs))
    fun s hs => hexact s (mem_sortByLower.mp hs)

/-- Nothing is reported exactly about tiled slabs. -/
theorem report_eq_nil_iff (hbounds : ∀ s ∈ authored, s.FiniteBounds)
    (hexact : ∀ s ∈ authored, s.StepsExactly step) :
    report step.value (sortByLower authored) = [] ↔
      Slab.Tiled step.value (sortByLower authored) := by
  refine ⟨fun h => ?_, Slab.Tiled.report_eq_nil⟩
  have hconflicts := conflicts_eq_report hbounds hexact
  rw [h] at hconflicts
  have hschedule : (⟨sortByLower authored, step⟩ : Schedule).Checked authored step := {
    bounds := hbounds
    exactStep := fun s hs => (hexact s hs).exactStep
    ofSlabs := ofSlabs_ok hbounds
    conflicts := hconflicts }
  exact hschedule.tiled

/-- The slabs without amounts are reported once, in any order. -/
theorem inverted_perm (q : ℚ) (authored : List Slab) :
    ((report q (sortByLower authored)).filterMap (·.slab?)).Perm
      (authored.filter fun s => decide (s.EndsBelow s.low)) := by
  rw [Slab.filterMap_slab?_report]
  exact (sortByLower_perm authored).filter _

/-- The clashing pairs are reported once, in any order. -/
theorem overlapping_perm (q : ℚ) (authored : List Slab) :
    ((report q (sortByLower authored)).filterMap (·.pair?)).Perm
      (authored.sym2.filter fun pair => decide (pair ∈ Slab.clashing)) := by
  rw [Slab.filterMap_pair?_report]
  exact (sortByLower_perm authored).sym2.filter _

open Classical in
/-- A check of a schedule finds nothing exactly if each slab has an amount, slabs that share an
amount have the same bounds, and neighbours have the same bounds or are one step apart. It reports
as many inverted slabs as there are slabs without an amount, each pair of slabs with different
bounds of which neither ends before the other starts once, and no pair both as an overlap and as
a gap. -/
theorem conflicts_report (authored : List Slab) (step : Decimal)
    (hbounds : ∀ s ∈ authored, s.FiniteBounds)
    (hexact : ∀ s ∈ authored, s.StepsExactly step) :
    ∃ schedule found, ofSlabs authored step = .ok schedule ∧ schedule.conflicts = .ok found ∧
      (found = [] ↔ (∀ s ∈ authored, s.HasAmount) ∧
        (∀ s ∈ authored, ∀ t ∈ authored, s.ShareAmount t → s.SameBounds t) ∧
        schedule.slabs.IsChain (Slab.Follows step.value)) ∧
      found.countP (·.isInverted) = authored.countP (fun s => decide ¬s.HasAmount) ∧
      found.countP (·.isOverlap) =
        authored.sym2.countP (fun pair => decide (pair ∈ Slab.clashing)) ∧
      (found.filterMap (·.pair?)).Perm
        (authored.sym2.filter fun pair => decide (pair ∈ Slab.clashing)) ∧
      ∀ s t, .gap s t ∈ found → .overlap s t ∉ found ∧ .overlap t s ∉ found := by
  have hsortedBounds : ∀ s ∈ sortByLower authored, s.FiniteBounds :=
    fun s hs => hbounds s (mem_sortByLower.mp hs)
  refine ⟨_, _, ofSlabs_ok hbounds, conflicts_eq_report hbounds hexact, ?_, ?_, ?_,
    overlapping_perm _ _, fun s t => Slab.not_overlap_of_gap⟩
  · rw [report_eq_nil_iff hbounds hexact, Slab.tiled_iff hsortedBounds (sortByLower_sorted hbounds)]
    simp only [mem_sortByLower]
  · have hlength := (inverted_perm step.value authored).length_eq
    rw [List.length_filterMap_eq_countP, ← List.countP_eq_length_filter] at hlength
    simp only [Slab.isSome_slab?] at hlength
    rw [hlength]
    refine List.countP_congr fun s hs => ?_
    simp only [decide_eq_true_iff, Slab.hasAmount_iff (hbounds s hs), not_not]
  · have hlength := (overlapping_perm step.value authored).length_eq
    rw [List.length_filterMap_eq_countP, ← List.countP_eq_length_filter] at hlength
    simpa only [Slab.isSome_pair?] using hlength

/-- A tier without end, one given twice that reaches into it, and one that ends before its
start. -/
def crossedTiers : List Slab :=
  [⟨50, none, 10⟩, ⟨0, some 100, 5⟩, ⟨0, some 100, 7⟩, ⟨300, some 100, 2⟩]

theorem crossedTiers_finiteBounds : ∀ s ∈ crossedTiers, s.FiniteBounds := by
  intro s hs
  fin_cases hs
  · exact ⟨rfl, nofun⟩
  · exact ⟨rfl, fun u hu => by obtain rfl := Option.some.inj hu; rfl⟩
  · exact ⟨rfl, fun u hu => by obtain rfl := Option.some.inj hu; rfl⟩
  · exact ⟨rfl, fun u hu => by obtain rfl := Option.some.inj hu; rfl⟩

theorem crossedTiers_stepsExactly : ∀ s ∈ crossedTiers, s.StepsExactly 1 := by
  intro s hs u hu
  have hu100 : u = 100 := by
    fin_cases hs
    · exact nomatch hu
    · exact (Option.some.inj hu).symm
    · exact (Option.some.inj hu).symm
    · exact (Option.some.inj hu).symm
  subst hu100
  refine ⟨101, rfl, rfl, ?_⟩
  rw [(hasValue_ofNat 100).value_eq, (hasValue_ofNat 1).value_eq, (hasValue_ofNat 101).value_eq]
  norm_num

/-- Of the four tiers one is reported as inverted, and three pairs as overlapping. -/
theorem crossedTiers_report :
    ∃ schedule found, ofSlabs crossedTiers 1 = .ok schedule ∧ schedule.conflicts = .ok found ∧
      found.countP (·.isInverted) = 1 ∧
      crossedTiers.sym2.countP (fun pair => decide (pair ∈ Slab.clashing)) = 3 := by
  obtain ⟨schedule, found, hschedule, hfound, -, -, hoverlaps, -, -⟩ :=
    conflicts_report crossedTiers 1 crossedTiers_finiteBounds crossedTiers_stepsExactly
  have hslabs : (⟨[⟨0, some 100, 5⟩, ⟨0, some 100, 7⟩, ⟨50, none, 10⟩, ⟨300, some 100, 2⟩], 1⟩ :
      Schedule) = schedule := Except.ok.inj hschedule
  subst hslabs
  obtain rfl := Except.ok.inj hfound
  exact ⟨_, _, hschedule, hfound, rfl, hoverlaps.symm⟩

end Schedule

end Passbook
