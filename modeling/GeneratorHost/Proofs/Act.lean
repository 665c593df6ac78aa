import GeneratorHost.Failure

/-! Steps that change a state before they fail: how the outcome of two steps in a row comes about, and which
    state a step leaves. -/

namespace GeneratorHost
namespace Act

variable {σ τ α β : Type}

/-! ### Outcomes -/

theorem bind_eq (x : Act σ α) (f : α → Act σ β) (s : σ) :
    (x >>= f) s = match x s with
      | .ok a t => f a t
      | .error e t => .error e t := by
  simp only [bind, EStateM.bind]
  cases x s <;> rfl

theorem bind_ok {x : Act σ α} {f : α → Act σ β} {s t : σ} {a : α} (h : x s = .ok a t) : (x >>= f) s = f a t := by
  rw [bind_eq, h]

theorem bind_error {x : Act σ α} {f : α → Act σ β} {s t : σ} {e : Failure} (h : x s = .error e t) :
    (x >>= f) s = .error e t := by
  rw [bind_eq, h]

theorem get_bind (f : σ → Act σ α) (s : σ) : (get >>= f) s = f s s := rfl

theorem attempt_bind_ok {x : Act σ α} {f : Except Failure α → Act σ β} {s t : σ} {a : α} (h : x s = .ok a t) :
    (attempt x >>= f) s = f (.ok a) t :=
  bind_ok (by rw [attempt, h])

theorem attempt_bind_error {x : Act σ α} {f : Except Failure α → Act σ β} {s t : σ} {e : Failure}
    (h : x s = .error e t) : (attempt x >>= f) s = f (.error e) t :=
  bind_ok (by rw [attempt, h])

theorem bind_eq_ok {x : Act σ α} {f : α → Act σ β} {s u : σ} {b : β} :
    (x >>= f) s = .ok b u ↔ ∃ a t, x s = .ok a t ∧ f a t = .ok b u := by
  cases hx : x s with
  | ok a t =>
    rw [bind_ok hx]
    constructor
    · exact fun h => ⟨a, t, rfl, h⟩
    · rintro ⟨a', t', h, hf⟩
      cases h
      exact hf
  | error e t =>
    rw [bind_error hx]
    constructor
    · intro h
      cases h
    · rintro ⟨a', t', h, -⟩
      cases h

theorem except_bind_eq_ok {x : Except Failure α} {f : α → Except Failure β} {b : β} :
    (x >>= f) = .ok b ↔ ∃ a, x = .ok a ∧ f a = .ok b := by
  cases x <;> simp [bind, Except.bind]

theorem except_bind_eq_error {x : Except Failure α} {f : α → Except Failure β} {e : Failure} :
    (x >>= f) = .error e ↔ x = .error e ∨ ∃ a, x = .ok a ∧ f a = .error e := by
  cases x <;> simp [bind, Except.bind]

/-- What a step gives, if it does not fail. -/
def value? (step : Act σ α) (s : σ) : Option α :=
  match step s with
  | .ok a _ => some a
  | .error _ _ => none

theorem value?_of_ok {step : Act σ α} {s t : σ} {a : α} (h : step s = .ok a t) : step.value? s = some a := by
  rw [value?, h]

/-- How a step fails, if it does. -/
def fault (step : Act σ α) (s : σ) : Option Failure :=
  match step s with
  | .ok _ _ => none
  | .error e _ => some e

theorem ofExcept_eq_ok {r : Except Failure α} {s t : σ} {a : α} :
    (ofExcept r : Act σ α) s = .ok a t ↔ r = .ok a ∧ s = t := by
  cases r with
  | ok b =>
    show EStateM.Result.ok b s = .ok a t ↔ _
    simp
  | error e =>
    show EStateM.Result.error e s = .ok a t ↔ _
    simp

/-! ### The state that is left -/

/-- The state that a step leaves, whether it fails or not. -/
def after (step : Act σ α) (s : σ) : σ :=
  match step s with
  | .ok _ t => t
  | .error _ t => t

theorem after_of_ok {step : Act σ α} {s t : σ} {a : α} (h : step s = .ok a t) : step.after s = t := by
  rw [after, h]

theorem after_of_error {step : Act σ α} {s t : σ} {e : Failure} (h : step s = .error e t) : step.after s = t := by
  rw [after, h]

theorem after_bind_of_ok {x : Act σ α} {f : α → Act σ β} {s t : σ} {a : α} (h : x s = .ok a t) :
    (x >>= f).after s = (f a).after t := by
  rw [after, bind_ok h]
  rfl

theorem after_bind_of_error {x : Act σ α} {f : α → Act σ β} {s t : σ} {e : Failure} (h : x s = .error e t) :
    (x >>= f).after s = t := by
  rw [after, bind_error h]

theorem after_get_bind (f : σ → Act σ α) (s : σ) : (get >>= f).after s = (f s).after s := rfl

/-- A step on one part of a state leaves the rest of it. -/
theorem after_on (get : τ → σ) (set : σ → τ → τ) (step : Act σ α) (t : τ) :
    (on get set step).after t = set (step.after (get t)) t := by
  unfold after on
  cases step (get t) <;> rfl

/-- What only reads leaves the state of the step before it. -/
theorem after_bind_of_forall_after {x : Act σ α} {f : α → Act σ β} (hf : ∀ a s, (f a).after s = s) (s : σ) :
    (x >>= f).after s = x.after s := by
  cases h : x s with
  | ok a t => rw [after_bind_of_ok h, after_of_ok h, hf]
  | error e t => rw [after_bind_of_error h, after_of_error h]

/-- A step that leaves the state as it is. -/
def Reads (step : Act σ α) : Prop := ∀ s, step.after s = s

theorem reads_pure (a : α) : Reads (pure a : Act σ α) := fun _ => rfl

theorem reads_ofExcept (r : Except Failure α) : Reads (ofExcept r : Act σ α) := fun s => by
  cases r <;> rfl

theorem Reads.bind {x : Act σ α} {f : α → Act σ β} (hx : Reads x) (hf : ∀ a, Reads (f a)) : Reads (x >>= f) := by
  intro s
  have h := hx s
  cases hr : x s with
  | ok a t =>
    rw [after_of_ok hr] at h
    rw [after_bind_of_ok hr, hf a t, h]
  | error e t =>
    rw [after_of_error hr] at h
    rw [after_bind_of_error hr, h]

theorem Reads.ok {step : Act σ α} (hr : Reads step) {s t : σ} {a : α} (h : step s = .ok a t) : t = s :=
  (after_of_ok h).symm.trans (hr s)

theorem Reads.error {step : Act σ α} (hr : Reads step) {s t : σ} {e : Failure} (h : step s = .error e t) : t = s :=
  (after_of_error h).symm.trans (hr s)

end Act
end GeneratorHost
