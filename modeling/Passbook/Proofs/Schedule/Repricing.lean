import Passbook.Proofs.Schedule.Gaps
import Passbook.Proofs.Schedule.Sorted

/-!
# Amounts that an edit prices anew

An edit moves one slab, and sorting again leaves all others as they stand: the slabs but the edited
one are the same before and after, in one order. The search for an amount passes over a slab that
does not contain it. So an amount that neither the old nor the new slab contains is found in the
same slab before and after, whatever overlaps and duplicates there are.
-/

namespace Passbook

namespace Slab

variable {s x : Slab} {slabs others : List Slab} {i : Nat} {amount : Decimal}

/-- The slab stands somewhere in a list, and all others are the given ones in their order. -/
def StandsAmong (x : Slab) (others slabs : List Slab) : Prop :=
  ∃ j, slabs[j]? = some x ∧ slabs.eraseIdx j = others

/-- A slab that is put into its place stands among the others. -/
theorem standsAmong_insertByLower (x : Slab) (slabs : List Slab) :
    x.StandsAmong slabs (insertByLower x slabs) := by
  induction slabs with
  | nil => exact ⟨0, rfl, rfl⟩
  | cons t rest ih =>
    rw [insertByLower]
    split
    · exact ⟨0, rfl, rfl⟩
    · obtain ⟨j, hx, hothers⟩ := ih
      exact ⟨j + 1, hx, by rw [List.eraseIdx_cons_succ, hothers]⟩

/-- A slab that starts by all others is put before them. -/
theorem insertByLower_of_startsBy (h : ∀ t ∈ slabs, s.StartsBy t) :
    insertByLower s slabs = s :: slabs := by
  cases slabs with
  | nil => rfl
  | cons t rest => rw [insertByLower, if_pos (h t List.mem_cons_self).startsNoLater]

/-- A slab that starts by all others but one is put before these, wherever that one stands. -/
theorem StandsAmong.insertByLower (h : x.StandsAmong others slabs)
    (hs : ∀ t ∈ others, s.StartsBy t) : x.StandsAmong (s :: others) (insertByLower s slabs) := by
  obtain ⟨j, hx, rfl⟩ := h
  cases slabs with
  | nil => exact nomatch hx
  | cons t rest =>
    rw [Slab.insertByLower]
    cases j with
    | zero =>
      obtain rfl : t = x := Option.some.inj hx
      split
      · exact ⟨1, rfl, rfl⟩
      · exact ⟨0, rfl, insertByLower_of_startsBy hs⟩
    | succ j =>
      rw [if_pos (hs t List.mem_cons_self).startsNoLater]
      exact ⟨j + 2, hx, rfl⟩

/-- Slabs in order of which one is exchanged keep the order of the others when they are sorted. -/
theorem standsAmong_sortByLower_set (h : Ordered slabs) (hi : i < slabs.length) (x : Slab) :
    x.StandsAmong (slabs.eraseIdx i) (sortByLower (slabs.set i x)) := by
  induction slabs generalizing i with
  | nil => exact absurd hi (Nat.not_lt_zero i)
  | cons s rest ih =>
    obtain ⟨hs, hrest⟩ := List.pairwise_cons.mp h
    cases i with
    | zero =>
      have hsort : sortByLower (x :: rest) = insertByLower x (sortByLower rest) := rfl
      rw [List.set_cons_zero, List.eraseIdx_cons_zero, hsort, sortByLower_of_ordered hrest]
      exact standsAmong_insertByLower x rest
    | succ i =>
      have hsort : sortByLower (s :: rest.set i x) =
          Slab.insertByLower s (sortByLower (rest.set i x)) := rfl
      rw [List.set_cons_succ, List.eraseIdx_cons_succ, hsort]
      exact (ih hrest (Nat.lt_of_succ_lt_succ hi)).insertByLower
        fun t ht => hs t (List.mem_of_mem_eraseIdx ht)

/-- Whether a slab with comparable bounds contains a number is always found out. -/
theorem Comparable.exists_contains (hs : s.Comparable) (ha : amount.isNaN = false) :
    ∃ inside, s.contains amount = .ok inside := by
  obtain ⟨o, ho⟩ := Decimal.exists_compare? hs.lower ha
  rw [contains, Decimal.le, ho, ok_bind]
  split
  · cases hu : s.upper with
    | none => exact ⟨true, rfl⟩
    | some u =>
      obtain ⟨p, hp⟩ := Decimal.exists_compare? ha (hs.upper u hu)
      exact ⟨p != .gt, by simp only [Decimal.le, hp]⟩
  · exact ⟨false, rfl⟩

/-- An amount that can be compared is found not to be in a slab, unless it is found to be in it. -/
theorem Comparable.contains_of_not (hs : s.Comparable) (ha : amount.isNaN = false)
    (h : s.contains amount ≠ .ok true) : s.contains amount = .ok false := by
  obtain ⟨inside, hinside⟩ := hs.exists_contains ha
  cases inside with
  | true => exact absurd hinside h
  | false => exact hinside

/-- A change with finite numbers keeps bounds comparable. -/
theorem Comparable.apply {changes : SlabChange} (hs : s.Comparable) (h : changes.Finite) :
    (s.apply changes).Comparable where
  lower := h.isNaN_lower hs.lower
  upper := by
    intro u hu
    cases hupper : changes.upper with
    | none => exact hs.upper u (by simpa [Slab.apply, hupper] using hu)
    | some sent =>
      obtain rfl : sent = some u := by simpa [Slab.apply, hupper] using hu
      exact Decimal.isNaN_of_isFinite (h.upper u hupper)

end Slab

namespace Schedule

open Slab (Ordered)

variable {schedule initial : Schedule} {position : Int} {request : Request} {edit : Edit}
  {amount : Decimal} {s : Slab} {slabs others : List Slab} {i : Nat}

/-- The search passes over a slab that does not contain the amount. -/
theorem find?_eraseIdx (hs : slabs[i]? = some s) (h : s.contains amount = .ok false) :
    find? amount (slabs.eraseIdx i) = find? amount slabs := by
  induction slabs generalizing i with
  | nil => exact nomatch hs
  | cons t rest ih =>
    cases i with
    | zero =>
      obtain rfl : t = s := Option.some.inj hs
      rw [List.eraseIdx_cons_zero, find?, h, ok_bind, if_neg (by decide)]
    | succ i => rw [List.eraseIdx_cons_succ, find?, find?, ih hs]

/-- Of two schedules with the same other slabs, an amount that neither of the two remaining slabs
contains has one fee in both. -/
theorem resolve_of_standsAmong {before after : Schedule} {s t : Slab}
    (hafter : t.StandsAmong others after.slabs) (hbefore : s.StandsAmong others before.slabs)
    (ht : t.contains amount = .ok false) (hs : s.contains amount = .ok false) :
    after.resolve amount = before.resolve amount := by
  obtain ⟨j, hj, rfl⟩ := hafter
  obtain ⟨i, hi, hothers⟩ := hbefore
  rw [resolve, resolve, ← find?_eraseIdx hj ht, ← hothers, find?_eraseIdx hi hs]

/-- Among slabs with comparable bounds the search always ends. -/
theorem exists_find? (h : ∀ s ∈ slabs, s.Comparable) (ha : amount.isNaN = false) :
    ∃ found, find? amount slabs = .ok found := by
  induction slabs with
  | nil => exact ⟨none, rfl⟩
  | cons s rest ih =>
    obtain ⟨hs, hrest⟩ := List.forall_mem_cons.mp h
    obtain ⟨inside, hinside⟩ := hs.exists_contains ha
    rw [find?, hinside, ok_bind]
    cases inside with
    | true => exact ⟨some s, rfl⟩
    | false => exact ih hrest

/-- In a schedule with comparable bounds an amount has a fee, or no slab matches. -/
theorem resolve_of_comparable (h : ∀ s ∈ schedule.slabs, s.Comparable)
    (ha : amount.isNaN = false) :
    (∃ fee, schedule.resolve amount = .ok fee) ∨
      schedule.resolve amount = .error (.noMatchingSlab amount) := by
  obtain ⟨found, hfound⟩ := exists_find? h ha
  rw [resolve, hfound]
  cases found with
  | none => exact .inr rfl
  | some s => exact .inl ⟨s.fee, rfl⟩

/-- An edit leaves the slabs but the edited one as they stand. -/
theorem update_standsAmong (hordered : Ordered schedule.slabs)
    (h : (schedule.update position request).1 = .ok edit) :
    ∃ i s, edit.Concerns schedule position request i s ∧
      (if edit.isEffective then s.apply edit.changes else s).StandsAmong
        (schedule.slabs.eraseIdx i) (schedule.update position request).2.slabs := by
  obtain ⟨i, s, hedit, hafter⟩ := update_of_ok h
  refine ⟨i, s, hedit, ?_⟩
  rw [hafter]
  split
  · exact Slab.standsAmong_sortByLower_set hordered (lt_of_position? hedit.index) _
  · exact ⟨i, hedit.slab, rfl⟩

/-- What an edit makes of a slab with comparable bounds has comparable bounds. -/
theorem Edit.Concerns.comparable_apply (hedit : edit.Concerns schedule position request i s)
    (hs : s.Comparable) : (s.apply edit.changes).Comparable := by
  obtain ⟨change, hchange, hdifferences⟩ := hedit.changes
  exact hs.apply ((SlabChange.finite_of_ofRequest hchange).differences hdifferences)

/-- An edit keeps bounds comparable. -/
theorem update_comparable (h : ∀ s ∈ schedule.slabs, s.Comparable) (position : Int)
    (request : Request) : ∀ s ∈ (schedule.update position request).2.slabs, s.Comparable := by
  cases hcall : (schedule.update position request).1 with
  | error error => rwa [update_of_error hcall]
  | ok edit =>
    obtain ⟨i, s, hedit, hafter⟩ := update_of_ok hcall
    rw [hafter]
    split
    · intro t ht
      rcases List.mem_or_eq_of_mem_set (Slab.mem_sortByLower.mp ht) with ht | rfl
      · exact h t ht
      · exact hedit.comparable_apply (h s (List.mem_of_getElem? hedit.slab))
    · exact h

/-- Edits keep bounds comparable. -/
theorem updateAll_comparable (h : ∀ s ∈ initial.slabs, s.Comparable)
    (edits : List (Int × Request)) : ∀ s ∈ (initial.updateAll edits).slabs, s.Comparable := by
  induction edits generalizing initial with
  | nil => exact h
  | cons edit rest ih => exact ih (update_comparable h edit.1 edit.2)

/-- However a schedule was edited before, an edit moves one slab at most and leaves the others in
their order. It prices an amount anew only if the old or the new slab contains it: any other amount
has the same fee as before, or no slab matches before and after. -/
theorem update_reprices_only_edited (authored : List Slab) (step : Decimal)
    (hauthored : ∀ s ∈ authored, s.Comparable) (initial : Schedule)
    (hinitial : ofSlabs authored step = .ok initial) (edits : List (Int × Request))
    (position : Int) (request : Request) (edit : Edit)
    (h : ((initial.updateAll edits).update position request).1 = .ok edit) :
    let before := initial.updateAll edits
    let after := (before.update position request).2
    ∃ i s, position? before.slabs.length position = some i ∧ before.slabs[i]? = some s ∧
      let edited := if edit.isEffective then s.apply edit.changes else s
      (∃ j, after.slabs[j]? = some edited ∧
        after.slabs.eraseIdx j = before.slabs.eraseIdx i) ∧
      ∀ amount : Decimal, amount.isFinite = true → s.contains amount ≠ .ok true →
        edited.contains amount ≠ .ok true →
        (∃ fee, before.resolve amount = .ok fee ∧ after.resolve amount = .ok fee) ∨
          (before.resolve amount = .error (.noMatchingSlab amount) ∧
            after.resolve amount = .error (.noMatchingSlab amount)) := by
  intro before after
  have hordered : Ordered before.slabs := updateAll_ordered (ofSlabs_ordered hinitial) edits
  have hcomparable : ∀ s ∈ before.slabs, s.Comparable := by
    refine updateAll_comparable (fun s hs => hauthored s ?_) edits
    rwa [(ofSlabs_eq_ok hinitial).1, Slab.mem_sortByLower] at hs
  obtain ⟨i, s, hedit, hstands⟩ := update_standsAmong hordered h
  refine ⟨i, s, hedit.index, hedit.slab, hstands, ?_⟩
  intro amount hamount hold hedited
  have hnumber := Decimal.isNaN_of_isFinite hamount
  obtain ⟨j, hj, hothers⟩ := hstands
  have hcomparable' := update_comparable hcomparable position request
  have hsame : after.resolve amount = before.resolve amount :=
    resolve_of_standsAmong ⟨j, hj, hothers⟩ ⟨i, hedit.slab, rfl⟩
      ((hcomparable' _ (List.mem_of_getElem? hj)).contains_of_not hnumber hedited)
      ((hcomparable s (List.mem_of_getElem? hedit.slab)).contains_of_not hnumber hold)
  rw [hsame]
  rcases resolve_of_comparable hcomparable hnumber with ⟨fee, hfee⟩ | hnone
  · exact .inl ⟨fee, hfee, hfee⟩
  · exact .inr ⟨hnone, hnone⟩

/-- A tier that was given twice, one that overlaps both, and the last one. -/
def crowded : List Slab := [⟨0, some 100, 5⟩, ⟨0, some 100, 7⟩, ⟨50, some 120, 8⟩, ⟨200, none, 9⟩]

theorem crowded_comparable : ∀ s ∈ crowded, s.Comparable := by
  have hlower : ∀ s ∈ crowded, s.lower.isNaN = false := by decide
  have hupper : ∀ s ∈ crowded, ∀ u ∈ s.upper, u.isNaN = false := by decide
  exact fun s hs => ⟨hlower s hs, hupper s hs⟩

/-- The last tier moves to the front, and the first of the equal ones still sets the fee. -/
theorem crowded_lastToFront :
    let before : Schedule := { slabs := crowded }
    let after := (before.update 3 [("fromAmount", .whole (-50)), ("toAmount", .whole (-1))]).2
    ofSlabs crowded = .ok before ∧
      after.slabs = [⟨.ofInt (-50), some (.ofInt (-1)), 9⟩, ⟨0, some 100, 5⟩, ⟨0, some 100, 7⟩,
        ⟨50, some 120, 8⟩] ∧
      before.resolve 75 = .ok 5 ∧ after.resolve 75 = .ok 5 := by
  intro before after
  obtain ⟨i, s, hi, hs, -, hpriced⟩ := update_reprices_only_edited crowded 1 crowded_comparable
    before rfl [] 3 [("fromAmount", .whole (-50)), ("toAmount", .whole (-1))]
    ⟨{ lower := some (.ofInt (-50)), upper := some (some (.ofInt (-1))) }, []⟩ (by decide +kernel)
  obtain rfl := Option.some.inj hi
  obtain rfl := Option.some.inj hs
  have hfee : before.resolve 75 = .ok 5 := rfl
  refine ⟨rfl, by decide +kernel, hfee, ?_⟩
  rcases hpriced 75 rfl (by decide +kernel) (by decide +kernel) with
    ⟨fee, hbefore, hafter⟩ | ⟨hbefore, -⟩
  · obtain rfl : (5 : Decimal) = fee := Except.ok.inj (hfee.symm.trans hbefore)
    exact hafter
  · exact nomatch hfee.symm.trans hbefore

end Schedule

end Passbook
