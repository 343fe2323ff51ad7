/-
Chains of steps that may fail.

A chain succeeds when every step of it does, each with what the one before handed on.  The
lemmas here take a chain apart in that way, so that a proof about a reader or a handler names
what each step gave and never opens the monad.
-/
namespace BlogGateway.Except

variable {ε ε' α β : Type}

theorem bind_eq_ok_iff {first : Except ε α} {next : α → Except ε β} {value : β} :
    (first >>= next) = .ok value ↔ ∃ a, first = .ok a ∧ next a = .ok value := by
  cases first with
  | error error =>
      constructor
      · intro h
        cases h
      · intro h
        obtain ⟨a, h, -⟩ := h
        cases h
  | ok a =>
      constructor
      · intro h
        exact ⟨a, rfl, h⟩
      · intro h
        obtain ⟨a', ha, h⟩ := h
        obtain rfl := Except.ok.inj ha
        exact h

/-- A chain that fails fails at one of its steps. -/
theorem bind_eq_error_iff {first : Except ε α} {next : α → Except ε β} {error : ε} :
    (first >>= next) = .error error ↔
      first = .error error ∨ ∃ a, first = .ok a ∧ next a = .error error := by
  cases first with
  | error error' =>
      constructor
      · intro h
        exact .inl (congrArg Except.error (Except.error.inj h))
      · rintro (h | ⟨a, h, -⟩)
        · exact congrArg Except.error (Except.error.inj h)
        · cases h
  | ok a =>
      constructor
      · intro h
        exact .inr ⟨a, rfl, h⟩
      · rintro (h | ⟨a', ha, h⟩)
        · cases h
        · obtain rfl := Except.ok.inj ha
          exact h

theorem map_eq_ok_iff {result : Except ε α} {f : α → β} {value : β} :
    result.map f = .ok value ↔ ∃ a, result = .ok a ∧ f a = value := by
  cases result with
  | error error =>
      constructor
      · intro h
        cases h
      · intro h
        obtain ⟨a, h, -⟩ := h
        cases h
  | ok a =>
      constructor
      · intro h
        exact ⟨a, rfl, Except.ok.inj h⟩
      · intro h
        obtain ⟨a', ha, rfl⟩ := h
        obtain rfl := Except.ok.inj ha
        rfl

@[simp] theorem mapError_ok (f : ε → ε') (a : α) :
    (Except.ok a : Except ε α).mapError f = .ok a := rfl

@[simp] theorem mapError_error (f : ε → ε') (error : ε) :
    (Except.error error : Except ε α).mapError f = .error (f error) := rfl

theorem mapError_eq_ok_iff {result : Except ε α} {f : ε → ε'} {a : α} :
    result.mapError f = .ok a ↔ result = .ok a := by
  cases result with
  | error error =>
      constructor
      · intro h
        cases h
      · intro h
        cases h
  | ok a' => rw [mapError_ok, Except.ok.injEq, Except.ok.injEq]

theorem mapError_eq_error_iff {result : Except ε α} {f : ε → ε'} {error : ε'} :
    result.mapError f = .error error ↔ ∃ cause, result = .error cause ∧ f cause = error := by
  cases result with
  | error cause => simp
  | ok a => simp

theorem eq_ok_of_toOption {result : Except ε α} {a : α} (h : result.toOption = some a) :
    result = .ok a := by
  cases result with
  | error error => cases h
  | ok a' => rw [Option.some.inj h]

end BlogGateway.Except
