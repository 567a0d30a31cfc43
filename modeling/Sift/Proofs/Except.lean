/-!
# Steps that can fail

When one step, two steps in a row, or a step followed by something that cannot fail succeed, and
with which error they fail otherwise.  A compiler, a matcher and a command are all made of such
steps, and their proofs take them apart with these lemmas.
-/

namespace Sift

variable {ε ε' α β γ : Type} {x : Except ε α} {y : Except ε β}

/-- Two steps succeed if the first does and the second does with what the first gives. -/
theorem bind_eq_ok_iff {f : α → Except ε β} {b : β} :
    (x >>= f) = .ok b ↔ ∃ a, x = .ok a ∧ f a = .ok b := by
  cases x with
  | error e => simp [bind, Except.bind]
  | ok a => simp [bind, Except.bind]

/-- Another error changes nothing about success. -/
theorem mapError_eq_ok_iff {f : ε → ε'} {a : α} : x.mapError f = .ok a ↔ x = .ok a := by
  cases x with
  | error e => constructor <;> intro h <;> cases h
  | ok b =>
    constructor
    · intro h
      cases h
      rfl
    · intro h
      cases h
      rfl

/-! ## A step and something that cannot fail -/

section

variable {f : α → β}

/-- What cannot fail does not stop a step from succeeding. -/
theorem exists_map_eq_ok_iff :
    (∃ b, (do let a ← x; return f a) = Except.ok b) ↔ ∃ a, x = .ok a := by
  cases x with
  | error e => simp [bind, Except.bind]
  | ok a => simp [bind, Except.bind, pure, Except.pure]

/-- What cannot fail keeps the error of the step before it. -/
theorem map_eq_error_iff {e : ε} :
    (do let a ← x; return f a) = Except.error e ↔ x = .error e := by
  cases x with
  | error e => simp [bind, Except.bind]
  | ok a => simp [bind, Except.bind, pure, Except.pure]

end

/-! ## Two steps that do not depend on each other -/

section

variable {f : α → β → γ}

/-- Two steps give what is made of both results. -/
theorem pair_eq_ok_iff {c : γ} :
    (do let a ← x; let b ← y; return f a b) = Except.ok c ↔
      ∃ a b, x = .ok a ∧ y = .ok b ∧ c = f a b := by
  cases x with
  | error e => simp [bind, Except.bind]
  | ok a =>
    cases y with
    | error e => simp [bind, Except.bind]
    | ok b => simp [bind, Except.bind, pure, Except.pure, eq_comm]

/-- Two steps succeed together if each does. -/
theorem exists_pair_eq_ok_iff :
    (∃ c, (do let a ← x; let b ← y; return f a b) = Except.ok c) ↔
      (∃ a, x = .ok a) ∧ ∃ b, y = .ok b := by
  simp only [pair_eq_ok_iff]
  constructor
  · rintro ⟨_, a, b, ha, hb, rfl⟩
    exact ⟨⟨a, ha⟩, ⟨b, hb⟩⟩
  · rintro ⟨⟨a, ha⟩, ⟨b, hb⟩⟩
    exact ⟨_, a, b, ha, hb, rfl⟩

/-- Two steps fail with the error of the first, or of the second where the first succeeds. -/
theorem pair_eq_error_iff {e : ε} :
    (do let a ← x; let b ← y; return f a b) = Except.error e ↔
      x = .error e ∨ (∃ a, x = .ok a) ∧ y = .error e := by
  cases x with
  | error e => simp [bind, Except.bind]
  | ok a =>
    cases y with
    | error e => simp [bind, Except.bind]
    | ok b => simp [bind, Except.bind, pure, Except.pure]

end

end Sift
