import Mathlib.Data.List.Find
import Mathlib.Data.List.Pairwise
import Passbook.Request.SplitChange
import Passbook.Schedule.Edit

/-!
# Requests that use the names of fields

A field is sent under its label or under its own name. The fields of a change have no key in
common, and a request that is accepted sends no field under both of its keys. So every label of
such a request can be replaced by the name of its field: the same fields are sent with the same
values, no key becomes unknown, and the same change is read.
-/

namespace Passbook

namespace Request

variable {α : Type} {fields : List Field} {f g : Field} {request : Request} {key : String}
  {datum : Datum} {read : Datum → Except Reason α}

/-- Two fields have no key in common. -/
def Field.Apart (f g : Field) : Prop :=
  f.label ≠ g.label ∧ f.label ≠ g.name ∧ f.name ≠ g.label ∧ f.name ≠ g.name

instance : DecidableRel Field.Apart := fun f g =>
  inferInstanceAs
    (Decidable (f.label ≠ g.label ∧ f.label ≠ g.name ∧ f.name ≠ g.label ∧ f.name ≠ g.name))

theorem Field.Apart.symm (h : f.Apart g) : g.Apart f :=
  ⟨h.1.symm, h.2.2.1.symm, h.2.1.symm, h.2.2.2.symm⟩

/-- The name of the field that a key is the label of; any other key is left as it is. -/
def fieldName (fields : List Field) (key : String) : String :=
  ((fields.find? fun field => field.label == key).map (·.name)).getD key

/-- The request with the names of its fields in place of their labels. -/
def byName (fields : List Field) (request : Request) : Request :=
  request.map fun entry => (fieldName fields entry.1, entry.2)

/-- Each key of the request is one that a field was sent under. -/
def Known (fields : List Field) (request : Request) : Prop :=
  ∀ entry ∈ request, ∃ field ∈ fields, ∃ datum, field.sent? request = some (entry.1, datum)

/-- If no key is unknown, each is one that a field was sent under. -/
theorem known_of_unknownKeys (h : unknownKeys fields request = []) : Known fields request := by
  intro entry hentry
  rw [unknownKeys, List.map_eq_nil_iff, List.filter_eq_nil_iff] at h
  have hmem := h entry hentry
  simp only [Bool.not_eq_true, Bool.not_eq_false', List.contains_iff_mem, List.mem_filterMap,
    Option.map_eq_some_iff] at hmem
  obtain ⟨field, hfield, ⟨key, datum⟩, hsent, rfl⟩ := hmem
  exact ⟨field, hfield, datum, hsent⟩

/-- If each key is one that a field was sent under, none is unknown. -/
theorem Known.unknownKeys (h : Known fields request) : unknownKeys fields request = [] := by
  rw [Request.unknownKeys, List.map_eq_nil_iff, List.filter_eq_nil_iff]
  intro entry hentry
  obtain ⟨field, hfield, datum, hsent⟩ := h entry hentry
  simp only [Bool.not_eq_true, Bool.not_eq_false', List.contains_iff_mem, List.mem_filterMap,
    Option.map_eq_some_iff]
  exact ⟨field, hfield, _, hsent, rfl⟩

theorem value?_eq_none_iff : request.value? key = none ↔ ∀ entry ∈ request, entry.1 ≠ key := by
  simp [value?]

/-- A field is sent under one of its keys, and under its name only if not under its label. -/
theorem Field.key_of_sent? (h : f.sent? request = some (key, datum)) :
    key = f.label ∨ (key = f.name ∧ request.value? f.label = none) := by
  unfold sent? at h
  split at h
  next value hvalue =>
    obtain ⟨rfl, -⟩ := Prod.mk.inj (Option.some.inj h)
    exact .inl rfl
  next hnone =>
    obtain ⟨value, -, h⟩ := Option.map_eq_some_iff.mp h
    obtain ⟨rfl, -⟩ := Prod.mk.inj h
    exact .inr ⟨rfl, hnone⟩

/-- A field that needs a value was not sent, or it has a value that was read. -/
theorem Field.required_eq_ok_iff {sent : Option α} : f.required read request = .ok sent ↔
    (f.sent? request = none ∧ sent = none) ∨ ∃ key datum a,
      f.sent? request = some (key, datum) ∧ datum ≠ .absent ∧ read datum = .ok a ∧
        sent = some a := by
  unfold required
  constructor
  · intro h
    split at h
    next hsent => exact .inl ⟨hsent, (Except.ok.inj h).symm⟩
    next => exact nomatch h
    next key datum habsent hsent =>
      split at h
      next a ha => exact .inr ⟨key, datum, a, hsent, habsent, ha, (Except.ok.inj h).symm⟩
      next => exact nomatch h
  · rintro (⟨hsent, rfl⟩ | ⟨key, datum, a, hsent, habsent, ha, rfl⟩)
    · rw [hsent]
    · simp [hsent, ha]

/-- A field that needs none was not sent, or without a value, or it has a value that was read. -/
theorem Field.optional_eq_ok_iff {sent : Option (Option α)} : f.optional read request = .ok sent ↔
    (f.sent? request = none ∧ sent = none) ∨
      (∃ key, f.sent? request = some (key, .absent) ∧ sent = some none) ∨ ∃ key datum a,
        f.sent? request = some (key, datum) ∧ datum ≠ .absent ∧ read datum = .ok a ∧
          sent = some (some a) := by
  unfold optional
  constructor
  · intro h
    split at h
    next hsent => exact .inl ⟨hsent, (Except.ok.inj h).symm⟩
    next key hsent => exact .inr (.inl ⟨key, hsent, (Except.ok.inj h).symm⟩)
    next key datum habsent hsent =>
      split at h
      next a ha =>
        exact .inr (.inr ⟨key, datum, a, hsent, habsent, ha, (Except.ok.inj h).symm⟩)
      next => exact nomatch h
  · rintro (⟨hsent, rfl⟩ | ⟨key, hsent, rfl⟩ | ⟨key, datum, a, hsent, habsent, ha, rfl⟩)
    · rw [hsent]
    · rw [hsent]
    · simp [hsent, ha]

section

variable (hfields : fields.Pairwise Field.Apart)
include hfields

/-- Two of the fields are one or have no key in common. -/
theorem eq_or_apart (hf : f ∈ fields) (hg : g ∈ fields) : f = g ∨ f.Apart g := by
  by_cases heq : f = g
  · exact .inl heq
  · have hsymm : Std.Symm Field.Apart := ⟨fun _ _ => Field.Apart.symm⟩
    exact .inr (hfields.forall hf hg heq)

/-- A key is replaced by the name of a field if it is one of its keys. -/
theorem fieldName_eq_name_iff (hf : f ∈ fields) :
    fieldName fields key = f.name ↔ key = f.label ∨ key = f.name := by
  unfold fieldName
  cases hfind : fields.find? fun field => field.label == key with
  | none =>
    have hlabel : key ≠ f.label := by
      rintro rfl
      simpa using List.find?_eq_none.mp hfind f hf
    simp [hlabel]
  | some g =>
    have hlabel : g.label = key := by simpa using List.find?_some hfind
    rcases eq_or_apart hfields hf (List.mem_of_find?_eq_some hfind) with rfl | hapart
    · simp [hlabel]
    · rw [← hlabel]
      exact iff_of_false hapart.2.2.2.symm (not_or.mpr ⟨hapart.1.symm, hapart.2.2.1.symm⟩)

/-- No key is replaced by a label that is not the name, too. -/
theorem fieldName_ne_label (hf : f ∈ fields) (hlabel : f.label ≠ f.name) :
    fieldName fields key ≠ f.label := by
  unfold fieldName
  cases hfind : fields.find? fun field => field.label == key with
  | none =>
    rintro rfl
    simpa using List.find?_eq_none.mp hfind f hf
  | some g =>
    rcases eq_or_apart hfields hf (List.mem_of_find?_eq_some hfind) with rfl | hapart
    · exact hlabel.symm
    · exact hapart.2.1.symm

/-- Under the name of a field stands what was sent under either of its keys. -/
theorem value?_byName (hf : f ∈ fields) : (byName fields request).value? f.name =
    (request.find? fun entry => entry.1 == f.label || entry.1 == f.name).map (·.2) := by
  have hkey : ((fun entry : String × Datum => entry.1 == f.name) ∘
      fun entry => (fieldName fields entry.1, entry.2)) =
        fun entry : String × Datum => entry.1 == f.label || entry.1 == f.name := by
    funext entry
    rw [Function.comp_apply, Bool.eq_iff_iff]
    simpa using fieldName_eq_name_iff hfields hf
  rw [value?, byName, List.find?_map, hkey, Option.map_map]
  rfl

/-- If every key is known, no field is sent under both of its keys. -/
theorem Known.ne_name (h : Known fields request) (hf : f ∈ fields) (hlabel : f.label ≠ f.name)
    (hsent : request.value? f.label ≠ none) : ∀ entry ∈ request, entry.1 ≠ f.name := by
  rintro entry hentry hname
  obtain ⟨g, hg, datum, hg'⟩ := h entry hentry
  rcases eq_or_apart hfields hf hg with rfl | hapart
  · rcases Field.key_of_sent? hg' with hkey | ⟨-, hnone⟩
    · exact hlabel (hkey.symm.trans hname)
    · exact hsent hnone
  · rcases Field.key_of_sent? hg' with hkey | ⟨hkey, -⟩
    · exact hapart.2.2.1 (hname.symm.trans hkey)
    · exact hapart.2.2.2 (hname.symm.trans hkey)

/-- Of a request with known keys a field is sent by its name with the value that was sent
before. -/
theorem Known.sent?_byName (h : Known fields request) (hf : f ∈ fields) :
    f.sent? (byName fields request) =
      (f.sent? request).map fun entry => (f.name, entry.2) := by
  have hname : (byName fields request).value? f.name = _ := value?_byName hfields hf
  by_cases hlabel : f.label = f.name
  · have hsame : (byName fields request).value? f.label = request.value? f.label := by
      simp only [← hlabel, Bool.or_self] at hname
      exact hname
    rw [Field.sent?, Field.sent?, ← hlabel, hsame]
    cases request.value? f.label <;> rfl
  · have hnone : (byName fields request).value? f.label = none := by
      rw [value?_eq_none_iff]
      intro entry hentry
      obtain ⟨sent, -, rfl⟩ := List.mem_map.mp hentry
      exact fieldName_ne_label hfields hf hlabel
    rw [Field.sent?, Field.sent?, hnone, hname]
    cases hvalue : request.value? f.label with
    | none =>
      have hkey : ∀ entry ∈ request, (entry.1 == f.label || entry.1 == f.name) =
          (entry.1 == f.name) := fun entry hentry => by
        simp [value?_eq_none_iff.mp hvalue entry hentry]
      rw [List.find?_congr hkey, ← value?, Option.map_map]
      rfl
    | some datum =>
      have hother := h.ne_name hfields hf hlabel (by simp [hvalue])
      have hkey : ∀ entry ∈ request, (entry.1 == f.label || entry.1 == f.name) =
          (entry.1 == f.label) := fun entry hentry => by
        simp [hother entry hentry]
      rw [List.find?_congr hkey, ← value?, hvalue]
      rfl

/-- With names in place of labels every key stays known. -/
theorem Known.byName (h : Known fields request) : Known fields (byName fields request) := by
  intro entry hentry
  obtain ⟨sent, hsent, rfl⟩ := List.mem_map.mp hentry
  obtain ⟨f, hf, datum, hfsent⟩ := h sent hsent
  have hkey : sent.1 = f.label ∨ sent.1 = f.name :=
    (Field.key_of_sent? hfsent).imp id And.left
  refine ⟨f, hf, datum, ?_⟩
  rw [h.sent?_byName hfields hf, hfsent, (fieldName_eq_name_iff hfields hf).mpr hkey]
  rfl

/-- A field that needs a value is read alike from the request by names. -/
theorem Known.required_byName {sent : Option α} (h : Known fields request) (hf : f ∈ fields)
    (hread : f.required read request = .ok sent) :
    f.required read (Request.byName fields request) = .ok sent := by
  have hbyName := h.sent?_byName hfields hf
  rw [Field.required_eq_ok_iff] at hread ⊢
  rcases hread with ⟨hsent, rfl⟩ | ⟨key, datum, a, hsent, ha⟩
  · rw [hsent] at hbyName
    exact .inl ⟨hbyName, rfl⟩
  · rw [hsent] at hbyName
    exact .inr ⟨f.name, datum, a, hbyName, ha⟩

/-- So is a field that may be sent without a value. -/
theorem Known.optional_byName {sent : Option (Option α)} (h : Known fields request)
    (hf : f ∈ fields) (hread : f.optional read request = .ok sent) :
    f.optional read (Request.byName fields request) = .ok sent := by
  have hbyName := h.sent?_byName hfields hf
  rw [Field.optional_eq_ok_iff] at hread ⊢
  rcases hread with ⟨hsent, rfl⟩ | ⟨key, hsent, rfl⟩ | ⟨key, datum, a, hsent, ha⟩
  · rw [hsent] at hbyName
    exact .inl ⟨hbyName, rfl⟩
  · rw [hsent] at hbyName
    exact .inr (.inl ⟨f.name, hbyName, rfl⟩)
  · rw [hsent] at hbyName
    exact .inr (.inr ⟨f.name, datum, a, hbyName, ha⟩)

end

end Request

namespace SlabChange

variable {request : Request} {change : SlabChange}

/-- All fields in the order in which rejections are reported. -/
def fields : List Request.Field := [lowerField, upperField, feeField]

theorem fields_apart : fields.Pairwise Request.Field.Apart := by decide

/-- A request that is accepted makes the same change with names in place of labels. -/
theorem ofRequest_byName (h : ofRequest request = .ok change) :
    ofRequest (request.byName fields) = .ok change := by
  unfold ofRequest at h
  dsimp only at h
  split at h
  next lower upper fee unknown hlower hupper hfee hunknown =>
    have hknown : Request.Known fields request := Request.known_of_unknownKeys hunknown
    unfold ofRequest
    dsimp only
    rw [hknown.required_byName fields_apart (by decide) hlower,
      hknown.optional_byName fields_apart (by decide) hupper,
      hknown.required_byName fields_apart (by decide) hfee,
      show Request.unknownKeys [lowerField, upperField, feeField] _ = [] from
        (hknown.byName fields_apart).unknownKeys]
    exact h
  next => exact nomatch h

end SlabChange

namespace SplitChange

variable {request : Request} {change : SplitChange}

theorem fields_apart : fields.Pairwise Request.Field.Apart := by decide

/-- A request that is accepted makes the same change with names in place of labels. -/
theorem ofRequest_byName (h : ofRequest request = .ok change) :
    ofRequest (request.byName fields) = .ok change := by
  unfold ofRequest at h
  dsimp only at h
  split at h
  next stakeholder kind value active ledgerAccount unknown hstakeholder hkind hvalue hactive
      hledgerAccount hunknown =>
    have hknown : Request.Known fields request := Request.known_of_unknownKeys hunknown
    unfold ofRequest
    dsimp only
    rw [hknown.required_byName fields_apart (by decide) hstakeholder,
      hknown.required_byName fields_apart (by decide) hkind,
      hknown.required_byName fields_apart (by decide) hvalue,
      hknown.required_byName fields_apart (by decide) hactive,
      hknown.optional_byName fields_apart (by decide) hledgerAccount,
      (hknown.byName fields_apart).unknownKeys]
    exact h
  next => exact nomatch h

end SplitChange

/-- An accepted request does the same to a split with names in place of labels. -/
theorem Split.update_byName {request : Request} {change : SplitChange}
    (h : SplitChange.ofRequest request = .ok change) (s : Split) :
    s.update (request.byName SplitChange.fields) = s.update request := by
  rw [update, update, h, SplitChange.ofRequest_byName h]

/-- An accepted request does the same to a schedule with names in place of labels. -/
theorem Schedule.update_byName {request : Request} {change : SlabChange}
    (h : SlabChange.ofRequest request = .ok change) (schedule : Schedule) (position : Int) :
    schedule.update position (request.byName SlabChange.fields) =
      schedule.update position request := by
  rw [update, update, h, SlabChange.ofRequest_byName h]

end Passbook
