import Mathlib.Data.List.Forall2

/-!
# SpaDevice.Result

Programs that return `Except`: what the success of a sequence says about its
steps, and how a sequence whose steps succeed is run.  The checkers of this
development are long chains of such steps, and their proofs peel them off one
at a time with these lemmas.
-/

namespace SpaDevice

/-- `Option::ok_or`, and `map_err` on a result whose error is dropped. -/
def okOr (e : ε) : Option α → Except ε α
  | some a => .ok a
  | none => .error e

@[simp] theorem okOr_some (e : ε) (a : α) : okOr e (some a) = .ok a := rfl

@[simp] theorem okOr_none (e : ε) : okOr e (none : Option α) = .error e := rfl

theorem okOr_eq_ok {e : ε} {x : Option α} {a : α} : okOr e x = .ok a ↔ x = some a := by
  cases x with
  | none => simp
  | some b => simp

theorem okOr_ne_error {e e' : ε} {x : Option α} (h : e ≠ e') : okOr e x ≠ .error e' := by
  cases x with
  | none => simpa using h
  | some b => simp

theorem toOption_eq_some {x : Except ε α} {a : α} : x.toOption = some a ↔ x = .ok a := by
  cases x with
  | error e => simp [Except.toOption]
  | ok b => simp [Except.toOption]

theorem mapError_eq_ok {f : ε → ε'} {x : Except ε α} {a : α} :
    x.mapError f = .ok a ↔ x = .ok a := by
  cases x with
  | error e => simp [Except.mapError]
  | ok b => simp [Except.mapError]

/-- A sequence succeeds exactly when its steps do. -/
theorem except_bind_eq_ok {x : Except ε α} {f : α → Except ε β} {b : β} :
    (x >>= f) = .ok b ↔ ∃ a, x = .ok a ∧ f a = .ok b := by
  cases x with
  | error e =>
      constructor
      · intro h; contradiction
      · rintro ⟨a, h, -⟩; contradiction
  | ok a =>
      constructor
      · intro h; exact ⟨a, rfl, h⟩
      · rintro ⟨a', ha, h⟩; rw [Except.ok.inj ha]; exact h

/-- A sequence none of whose steps fails with `e` does not fail with `e`. -/
theorem except_bind_ne_error {x : Except ε α} {f : α → Except ε β} {e : ε} (hx : x ≠ .error e)
    (hf : ∀ a, f a ≠ .error e) : (x >>= f) ≠ .error e := by
  cases x with
  | error e' =>
      intro h
      exact hx (by rw [Except.error.inj h])
  | ok a => exact hf a

theorem except_map_eq_ok {x : Except ε α} {f : α → β} {b : β} :
    f <$> x = .ok b ↔ ∃ a, x = .ok a ∧ f a = b := by
  cases x with
  | error e =>
      constructor
      · intro h; contradiction
      · rintro ⟨a, h, -⟩; contradiction
  | ok a =>
      constructor
      · intro h; exact ⟨a, rfl, Except.ok.inj h⟩
      · rintro ⟨a', ha, h⟩; rw [← h, Except.ok.inj ha]; rfl

@[simp] theorem except_ok_bind (a : α) (f : α → Except ε β) : (.ok a >>= f) = f a := rfl

/-- A guard that throws was passed. -/
theorem except_guard_eq_ok {c : Prop} [Decidable c] {e : ε} {x : Except ε α} {a : α} :
    (if c then throw e else x) = .ok a ↔ ¬ c ∧ x = .ok a := by
  by_cases hc : c
  · rw [if_pos hc]
    constructor
    · intro h; contradiction
    · intro h; exact absurd hc h.1
  · rw [if_neg hc]
    exact ⟨fun h => ⟨hc, h⟩, fun h => h.2⟩

/-- A guard in front of a sequence guards its first step. -/
theorem except_guard_bind {c : Prop} [Decidable c] {e : ε} {x : Except ε α} {f : α → Except ε β} :
    ((if c then throw e else x) >>= f) = if c then throw e else x >>= f := by
  split <;> rfl

/-- `mapM` succeeds exactly when every element does, with the elements'
results in order. -/
theorem mapM_eq_ok_iff {f : α → Except ε β} {as : List α} {bs : List β} :
    as.mapM f = .ok bs ↔ List.Forall₂ (fun a b => f a = .ok b) as bs := by
  induction as generalizing bs with
  | nil =>
      rw [List.mapM_nil, List.forall₂_nil_left_iff]
      exact ⟨fun h => (Except.ok.inj h).symm, fun h => by rw [h]; rfl⟩
  | cons a as ih =>
      rw [List.mapM_cons, List.forall₂_cons_left_iff]
      constructor
      · intro h
        obtain ⟨b, hb, h⟩ := except_bind_eq_ok.mp h
        obtain ⟨bs', hbs, h⟩ := except_bind_eq_ok.mp h
        exact ⟨b, bs', hb, ih.mp hbs, (Except.ok.inj h).symm⟩
      · rintro ⟨b, bs', hb, hbs, rfl⟩
        exact except_bind_eq_ok.mpr ⟨b, hb, except_bind_eq_ok.mpr ⟨bs', ih.mpr hbs, rfl⟩⟩

/-- An optional step succeeds exactly when it does where it is taken. -/
theorem optionMapM_eq_ok_iff {f : α → Except ε β} {x : Option α} {y : Option β} :
    x.mapM f = .ok y ↔ Option.Rel (fun a b => f a = .ok b) x y := by
  cases x with
  | none =>
      rw [Option.mapM_none]
      constructor
      · intro h
        rw [← Except.ok.inj h]
        exact .none
      · rintro ⟨⟩
        rfl
  | some a =>
      rw [Option.mapM_some]
      constructor
      · intro h
        obtain ⟨b, hb, rfl⟩ := except_map_eq_ok.mp h
        exact .some hb
      · rintro ⟨hb⟩
        exact except_map_eq_ok.mpr ⟨_, hb, rfl⟩

end SpaDevice
