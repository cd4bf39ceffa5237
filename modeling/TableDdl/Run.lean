/-
Computations that touch the outside world through a state, and show what they did.

A `Run` answers or fails, leaves a trace, and passes the state on.  The trace and the state of a
failed run are kept: what was done before the failure stays done.  A run that continues another
adds to its trace at the end, so the trace is in the order of events.
-/
import TableDdl.SchemaError

namespace TableDdl

structure Outcome (τ σ α : Type) where
  result : Except SchemaError α
  trace : List τ
  state : σ

/-- A computation over a state `σ` that answers with an `α` and leaves a trace of `τ`. -/
def Run (τ σ α : Type) := σ → Outcome τ σ α

namespace Run

variable {τ τ' σ α β : Type}

def pure (a : α) : Run τ σ α := fun s => ⟨.ok a, [], s⟩

def fail (e : SchemaError) : Run τ σ α := fun s => ⟨.error e, [], s⟩

def ofExcept (r : Except SchemaError α) : Run τ σ α := fun s => ⟨r, [], s⟩

/-- Leaves one item in the trace. -/
def note (t : τ) : Run τ σ Unit := fun s => ⟨.ok (), [t], s⟩

def bind (r : Run τ σ α) (f : α → Run τ σ β) : Run τ σ β := fun s =>
  match r s with
  | ⟨.ok a, trace, s'⟩ =>
      let next := f a s'
      ⟨next.result, trace ++ next.trace, next.state⟩
  | ⟨.error e, trace, s'⟩ => ⟨.error e, trace, s'⟩

instance : Monad (Run τ σ) where
  pure := pure
  bind := bind

/-- When the run fails, leaves one more item in the trace before failing. -/
def noteFailure (r : Run τ σ α) (item : SchemaError → τ) : Run τ σ α := fun s =>
  match r s with
  | ⟨.ok a, trace, s'⟩ => ⟨.ok a, trace, s'⟩
  | ⟨.error e, trace, s'⟩ => ⟨.error e, trace ++ [item e], s'⟩

/-- The same run with every item of its trace seen as another kind of item. -/
def mapTrace (f : τ → τ') (r : Run τ σ α) : Run τ' σ α := fun s =>
  let outcome := r s
  ⟨outcome.result, outcome.trace.map f, outcome.state⟩

theorem bind_ok {r : Run τ σ α} {f : α → Run τ σ β} {s s' : σ} {a : α} {trace : List τ}
    (h : r s = ⟨.ok a, trace, s'⟩) :
    (r >>= f) s = ⟨(f a s').result, trace ++ (f a s').trace, (f a s').state⟩ := by
  show bind r f s = _
  simp [bind, h]

theorem bind_error {r : Run τ σ α} {f : α → Run τ σ β} {s s' : σ} {e : SchemaError}
    {trace : List τ} (h : r s = ⟨.error e, trace, s'⟩) :
    (r >>= f) s = ⟨.error e, trace, s'⟩ := by
  show bind r f s = _
  simp [bind, h]

theorem bind_pure_id (r : Run τ σ α) : bind r (fun a => pure (id a)) = r := by
  funext s
  unfold bind
  split <;> simp_all [pure]

theorem pure_bind (a : α) (f : α → Run τ σ β) : bind (pure a) f = f a := by
  funext s
  simp [bind, pure]

theorem bind_assoc {γ : Type} (r : Run τ σ α) (f : α → Run τ σ β) (g : β → Run τ σ γ) :
    bind (bind r f) g = bind r fun a => bind (f a) g := by
  funext s
  unfold bind
  cases h : r s with
  | mk result trace s' =>
      cases result with
      | error e => rfl
      | ok a =>
          cases h' : f a s' with
          | mk result' trace' s'' => cases result' <;> simp [h']

instance : LawfulMonad (Run τ σ) := LawfulMonad.mk' _ bind_pure_id pure_bind bind_assoc

end Run
end TableDdl
