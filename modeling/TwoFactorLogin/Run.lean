import TwoFactorLogin.Fault.Basic

/-!
# Runs that may fail

A `Run σ α` works on a state `σ` and ends with an answer or a fault. The state that was reached is
kept in both cases, so a fault undoes nothing.
-/

namespace TwoFactorLogin

/-- A step on a state that ends with an answer or a fault, and with a state either way. -/
def Run (σ α : Type) : Type := σ → Except Fault α × σ

namespace Run

variable {σ τ α β : Type}

/-- The answer alone. -/
def answer (a : α) : Run σ α := fun s => (.ok a, s)

/-- One step, and then another that depends on the answer. A fault ends the whole. -/
def andThen (x : Run σ α) (f : α → Run σ β) : Run σ β := fun s =>
  match x s with
  | (.ok a, s) => f a s
  | (.error e, s) => (.error e, s)

instance : Monad (Run σ) where
  pure := answer
  bind := andThen

/-- A fault. -/
def raise (fault : Fault) : Run σ α := fun s => (.error fault, s)

/-- An outcome as a step. -/
def ofExcept (r : Except Fault α) : Run σ α := fun s => (r, s)

/-- A step whose fault is part of the answer. -/
def attempt (x : Run σ α) : Run σ (Except Fault α) := fun s =>
  let (r, s) := x s
  (.ok r, s)

/-- A part of the state. -/
def read (f : σ → α) : Run σ α := fun s => (.ok (f s), s)

/-- A change of the state. -/
def update (f : σ → σ) : Run σ Unit := fun s => (.ok (), f s)

/-- A step on the second part of a state. -/
def onSecond (x : Run τ α) : Run (σ × τ) α := fun s =>
  let (r, t) := x s.2
  (r, (s.1, t))

/-! ## What each step does to a state -/

@[simp] theorem pure_apply (a : α) (s : σ) : (pure a : Run σ α) s = (.ok a, s) := rfl

theorem bind_apply (x : Run σ α) (f : α → Run σ β) (s : σ) :
    (x >>= f) s = match x s with
      | (.ok a, s) => f a s
      | (.error e, s) => (.error e, s) := rfl

/-- What two steps in a row answer, the second answers after the first. -/
theorem ok_of_bind {x : Run σ α} {f : α → Run σ β} {s : σ} {b : β} (h : ((x >>= f) s).1 = .ok b) :
    ∃ a s', x s = (.ok a, s') ∧ (f a s').1 = .ok b := by
  rw [bind_apply] at h
  rcases hx : x s with ⟨fault | a, s'⟩
  · rw [hx] at h
    cases h
  · rw [hx] at h
    exact ⟨a, s', rfl, h⟩

@[simp] theorem raise_apply (e : Fault) (s : σ) : (raise e : Run σ α) s = (.error e, s) := rfl

@[simp] theorem ofExcept_apply (r : Except Fault α) (s : σ) :
    (ofExcept r : Run σ α) s = (r, s) := rfl

@[simp] theorem attempt_apply (x : Run σ α) (s : σ) :
    x.attempt s = (.ok (x s).1, (x s).2) := rfl

@[simp] theorem read_apply (f : σ → α) (s : σ) : read f s = (.ok (f s), s) := rfl

@[simp] theorem update_apply (f : σ → σ) (s : σ) : update f s = (.ok (), f s) := rfl

@[simp] theorem onSecond_apply (x : Run τ α) (s : σ × τ) :
    (onSecond x : Run (σ × τ) α) s = ((x s.2).1, (s.1, (x s.2).2)) := rfl

end Run

end TwoFactorLogin
