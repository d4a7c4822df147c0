import Passbook.Error

/-!
# Opening successful runs

A run that returned a result went through each of its steps: the first step returned a value,
and the rest returned the result from it.
-/

namespace Passbook

section
variable {ε α β : Type}

/-- A sequence of two steps returns exactly what the second makes of the first one's value. -/
theorem bind_eq_ok_iff {x : Except ε α} {f : α → Except ε β} {b : β} :
    (x >>= f) = .ok b ↔ ∃ a, x = .ok a ∧ f a = .ok b := by
  cases x with
  | error e => simp [bind, Except.bind]
  | ok a => simp [bind, Except.bind]

/-- A choice by the value of a first step returns what the chosen step does. -/
theorem ite_eq_ok_iff {x : Except ε Bool} {f g : Except ε β} {b : β} :
    (x >>= fun c => if c = true then f else g) = .ok b ↔
      (x = .ok true ∧ f = .ok b) ∨ (x = .ok false ∧ g = .ok b) := by
  rw [bind_eq_ok_iff]
  constructor
  · rintro ⟨c, hx, h⟩
    cases c with
    | true => exact .inl ⟨hx, h⟩
    | false => exact .inr ⟨hx, h⟩
  · rintro (⟨hx, h⟩ | ⟨hx, h⟩)
    · exact ⟨true, hx, h⟩
    · exact ⟨false, hx, h⟩

@[simp] theorem pure_eq_ok_iff {a b : α} : (pure a : Except ε α) = .ok b ↔ a = b := by
  simp [pure, Except.pure]

@[simp] theorem ok_bind (a : α) (f : α → Except ε β) : (Except.ok a >>= f) = f a := rfl

@[simp] theorem error_bind (e : ε) (f : α → Except ε β) :
    ((Except.error e : Except ε α) >>= f) = .error e := rfl

/-- Runs go on alike if they do from every value that is returned. -/
theorem bind_congr_ok {x : Except ε α} {f g : α → Except ε β} (h : ∀ a, x = .ok a → f a = g a) :
    (x >>= f) = x >>= g := by
  cases x with
  | error e => rfl
  | ok a => exact h a rfl

/-- Runs that go on alike but for what is written down at the end are alike but for that. -/
theorem bind_eq_map_bind {γ : Type} {x : Except ε α} {f : α → Except ε β} {g : α → Except ε γ}
    {φ : β → γ} (h : ∀ a, g a = φ <$> f a) : (x >>= g) = φ <$> (x >>= f) := by
  rw [map_bind]
  exact bind_congr h

/-- A mapped run returns exactly the image of a returned value. -/
theorem map_eq_ok_iff {x : Except ε α} {f : α → β} {b : β} :
    x.map f = .ok b ↔ ∃ a, x = .ok a ∧ f a = b := by
  cases x with
  | error e => simp [Except.map]
  | ok a => simp [Except.map]

end

/-- Two runs return related results, or stop with one error. -/
def Alike {ε α β : Type} (R : α → β → Prop) : Except ε α → Except ε β → Prop
  | .ok a, .ok b => R a b
  | .error e, .error f => e = f
  | _, _ => False

section
variable {ε α β γ δ : Type} {R : α → β → Prop} {S : γ → δ → Prop} {x : Except ε α} {y : Except ε β}

/-- A run is alike to itself if every result is related to itself. -/
theorem Alike.refl {R : α → α → Prop} (h : ∀ a, R a a) (x : Except ε α) : Alike R x x := by
  cases x with
  | error e => exact rfl
  | ok a => exact h a

/-- Alike runs go on alike if related results do. -/
theorem Alike.bind {f : α → Except ε γ} {g : β → Except ε δ} (h : Alike R x y)
    (hnext : ∀ a b, x = .ok a → y = .ok b → R a b → Alike S (f a) (g b)) :
    Alike S (x >>= f) (y >>= g) := by
  cases x with
  | error e =>
    cases y with
    | error f => exact h
    | ok b => exact h.elim
  | ok a =>
    cases y with
    | error f => exact h.elim
    | ok b => exact hnext a b rfl rfl h

end

/-- Where two runs both return, their results are related. Nothing is said about errors. -/
def WhereBoth {ε α β : Type} (R : α → β → Prop) (x : Except ε α) (y : Except ε β) : Prop :=
  ∀ a b, x = .ok a → y = .ok b → R a b

section
variable {ε α β γ δ : Type} {R : α → β → Prop} {S : γ → δ → Prop} {x : Except ε α} {y : Except ε β}

/-- A run with itself returns one result. -/
theorem WhereBoth.same (x : Except ε α) : WhereBoth (· = ·) x x := by
  intro a b ha hb
  exact Except.ok.inj (ha.symm.trans hb)

/-- Two values that are related are so where both are returned. -/
theorem WhereBoth.pure {a : α} {b : β} (h : R a b) :
    WhereBoth R (Pure.pure a : Except ε α) (Pure.pure b : Except ε β) := by
  intro a' b' ha hb
  rw [← pure_eq_ok_iff.mp ha, ← pure_eq_ok_iff.mp hb]
  exact h

/-- Runs whose results are related go on to related results if related results do. -/
theorem WhereBoth.bind {f : α → Except ε γ} {g : β → Except ε δ} (h : WhereBoth R x y)
    (hnext : ∀ a b, x = .ok a → y = .ok b → R a b → WhereBoth S (f a) (g b)) :
    WhereBoth S (x >>= f) (y >>= g) := by
  intro c d hc hd
  obtain ⟨a, ha, hc⟩ := bind_eq_ok_iff.mp hc
  obtain ⟨b, hb, hd⟩ := bind_eq_ok_iff.mp hd
  exact hnext a b ha hb (h a b ha hb) c d hc hd

end

/-- A step of decimal arithmetic inside an operation returns what it returns on its own. -/
theorem liftM_eq_ok_iff {α : Type} {x : Except Decimal.Fault α} {a : α} :
    (liftM x : Except Error α) = .ok a ↔ x = .ok a := by
  cases x with
  | error f => simp
  | ok b => simp

/-- Alike steps of decimal arithmetic are alike inside an operation. -/
theorem Alike.liftM {α β : Type} {R : α → β → Prop} {x : Except Decimal.Fault α}
    {y : Except Decimal.Fault β} (h : Alike R x y) :
    Alike R (liftM x : Except Error α) (liftM y : Except Error β) := by
  cases x with
  | error e =>
    cases y with
    | error f =>
      obtain rfl : e = f := h
      exact rfl
    | ok b => exact h.elim
  | ok a =>
    cases y with
    | error f => exact h.elim
    | ok b => exact h

/-- Results of steps of decimal arithmetic stay related inside an operation. -/
theorem WhereBoth.liftM {α β : Type} {R : α → β → Prop} {x : Except Decimal.Fault α}
    {y : Except Decimal.Fault β} (h : WhereBoth R x y) :
    WhereBoth R (liftM x : Except Error α) (liftM y : Except Error β) := by
  intro a b ha hb
  exact h a b (liftM_eq_ok_iff.mp ha) (liftM_eq_ok_iff.mp hb)

/-- Every error that a run stops with has the property. -/
def FailsWith {α : Type} (P : Error → Prop) (x : Except Error α) : Prop := ∀ e, x = .error e → P e

section
variable {α β : Type} {P Q : Error → Prop} {x : Except Error α} {e : Error}

theorem FailsWith.pure (a : α) : FailsWith P (Pure.pure a) := nofun

/-- A failure has the property of its error. -/
theorem FailsWith.error (h : P e) : FailsWith P (.error e : Except Error α) := by
  intro e' he
  obtain rfl := Except.error.inj he
  exact h

/-- The errors of a sequence are those of its steps. -/
theorem FailsWith.bind {f : α → Except Error β} (h : FailsWith P x)
    (hnext : ∀ a, x = .ok a → FailsWith P (f a)) : FailsWith P (x >>= f) := by
  cases x with
  | error e => exact .error (h e rfl)
  | ok a => exact hnext a rfl

theorem FailsWith.mono (h : FailsWith P x) (himp : ∀ e, P e → Q e) : FailsWith Q x :=
  fun e he => himp e (h e he)

/-- A step of decimal arithmetic stops with its fault. -/
theorem FailsWith.liftM {x : Except Decimal.Fault α} (h : ∀ fault, P (.arithmetic fault)) :
    FailsWith P (liftM x : Except Error α) := by
  cases x with
  | error fault => exact .error (h fault)
  | ok a => exact nofun

end

end Passbook
