/-
Laws of runs: how one run continues another, and what a run leaves in its trace.

`Leaves P r` says that every item of the trace satisfies `P`, from whatever state the run starts
and whether or not it fails.  `Tracks R r` says that the run does not tell states apart that `R`
relates.  Both are kept by every way of putting runs together, so a property of a long run follows
from its single steps.
-/
import TableDdl.Run

namespace TableDdl

theorem ok_of_toOption {ε α : Type} {r : Except ε α} {a : α} (h : r.toOption = some a) :
    r = .ok a := by
  cases r with
  | error e => cases h
  | ok a => exact congrArg Except.ok (Option.some.inj h)

namespace Run

variable {τ τ' σ α β : Type}

/-- A run that answered is continued from the state it left. -/
theorem bind_of_ok {r : Run τ σ α} {f : α → Run τ σ β} {s : σ} {a : α}
    (h : (r s).result = .ok a) :
    (r >>= f) s = ⟨(f a (r s).state).result, (r s).trace ++ (f a (r s).state).trace,
      (f a (r s).state).state⟩ := by
  have hr : r s = ⟨.ok a, (r s).trace, (r s).state⟩ := by rw [← h]
  exact bind_ok hr

/-- A run that failed is not continued. -/
theorem bind_of_error {r : Run τ σ α} {f : α → Run τ σ β} {s : σ} {e : SchemaError}
    (h : (r s).result = .error e) :
    (r >>= f) s = ⟨.error e, (r s).trace, (r s).state⟩ := by
  have hr : r s = ⟨.error e, (r s).trace, (r s).state⟩ := by rw [← h]
  exact bind_error hr

/-- A run that goes on to compute something from its answer. -/
theorem bind_pure_apply (r : Run τ σ α) (f : α → β) (s : σ) :
    (r >>= fun a => Pure.pure (f a)) s = ⟨(r s).result.map f, (r s).trace, (r s).state⟩ := by
  cases h : (r s).result with
  | error e =>
      rw [bind_of_error h]
      rfl
  | ok a =>
      rw [bind_of_ok h]
      show (⟨_, _ ++ [], _⟩ : Outcome τ σ β) = _
      rw [List.append_nil]
      rfl

/-- A run that answered went through an answer of its first part. -/
theorem ok_of_bind {r : Run τ σ α} {f : α → Run τ σ β} {s : σ} {b : β}
    (h : ((r >>= f) s).result = .ok b) :
    ∃ a, (r s).result = .ok a ∧ (f a (r s).state).result = .ok b := by
  cases hr : (r s).result with
  | error e =>
      rw [bind_of_error hr] at h
      cases h
  | ok a =>
      rw [bind_of_ok hr] at h
      exact ⟨a, rfl, h⟩

theorem noteFailure_of_ok {r : Run τ σ α} {item : SchemaError → τ} {s : σ} {a : α}
    (h : (r s).result = .ok a) : r.noteFailure item s = ⟨.ok a, (r s).trace, (r s).state⟩ := by
  have hr : r s = ⟨.ok a, (r s).trace, (r s).state⟩ := by rw [← h]
  unfold noteFailure
  rw [hr]

theorem noteFailure_of_error {r : Run τ σ α} {item : SchemaError → τ} {s : σ} {e : SchemaError}
    (h : (r s).result = .error e) :
    r.noteFailure item s = ⟨.error e, (r s).trace ++ [item e], (r s).state⟩ := by
  have hr : r s = ⟨.error e, (r s).trace, (r s).state⟩ := by rw [← h]
  unfold noteFailure
  rw [hr]

/-- Every item that the run leaves satisfies `P`. -/
def Leaves (P : τ → Prop) (r : Run τ σ α) : Prop := ∀ s, ∀ t ∈ (r s).trace, P t

variable {P : τ → Prop}

theorem leaves_pure (a : α) : Leaves P (Pure.pure a : Run τ σ α) := by
  intro s t ht
  exact absurd ht List.not_mem_nil

theorem leaves_fail (e : SchemaError) : Leaves P (fail e : Run τ σ α) := by
  intro s t ht
  exact absurd ht List.not_mem_nil

theorem leaves_note {t : τ} (h : P t) : Leaves P (note t : Run τ σ Unit) := by
  intro s u hu
  rw [List.mem_singleton.mp hu]
  exact h

theorem Leaves.mono {Q : τ → Prop} {r : Run τ σ α} (h : Leaves P r) (hPQ : ∀ t, P t → Q t) :
    Leaves Q r :=
  fun s t ht => hPQ t (h s t ht)

theorem leaves_mapTrace {Q : τ' → Prop} {f : τ → τ'} {r : Run τ σ α}
    (h : Leaves (fun t => Q (f t)) r) : Leaves Q (r.mapTrace f) := by
  intro s u hu
  obtain ⟨t, ht, rfl⟩ := List.mem_map.mp hu
  exact h s t ht

theorem leaves_bind {r : Run τ σ α} {f : α → Run τ σ β} (hr : Leaves P r)
    (hf : ∀ a, Leaves P (f a)) : Leaves P (r >>= f) := by
  intro s t ht
  cases h : (r s).result with
  | error e =>
      rw [bind_of_error h] at ht
      exact hr s t ht
  | ok a =>
      rw [bind_of_ok h] at ht
      rcases List.mem_append.mp ht with ht | ht
      · exact hr s t ht
      · exact hf a _ t ht

theorem leaves_noteFailure {r : Run τ σ α} {item : SchemaError → τ} (hr : Leaves P r)
    (hitem : ∀ e, P (item e)) : Leaves P (r.noteFailure item) := by
  intro s t ht
  cases h : (r s).result with
  | ok a =>
      rw [noteFailure_of_ok h] at ht
      exact hr s t ht
  | error e =>
      rw [noteFailure_of_error h] at ht
      rcases List.mem_append.mp ht with ht | ht
      · exact hr s t ht
      · exact List.mem_singleton.mp ht ▸ hitem e

/-! ## States that look alike -/

/-- From related states the run answers alike and ends in related states. -/
def Tracks (R : σ → σ → Prop) (r : Run τ σ α) : Prop :=
  ∀ s s', R s s' → (r s).result = (r s').result ∧ R (r s).state (r s').state

variable {R : σ → σ → Prop}

theorem tracks_pure (a : α) : Tracks R (Pure.pure a : Run τ σ α) := fun _ _ h => ⟨rfl, h⟩

theorem tracks_fail (e : SchemaError) : Tracks R (fail e : Run τ σ α) := fun _ _ h => ⟨rfl, h⟩

theorem tracks_ofExcept (r : Except SchemaError α) : Tracks R (ofExcept r : Run τ σ α) :=
  fun _ _ h => ⟨rfl, h⟩

theorem tracks_note (t : τ) : Tracks R (note t : Run τ σ Unit) := fun _ _ h => ⟨rfl, h⟩

theorem tracks_mapTrace {f : τ → τ'} {r : Run τ σ α} (h : Tracks R r) : Tracks R (r.mapTrace f) :=
  h

theorem tracks_bind {r : Run τ σ α} {f : α → Run τ σ β} (hr : Tracks R r)
    (hf : ∀ a, Tracks R (f a)) : Tracks R (r >>= f) := by
  intro s s' h
  obtain ⟨hresult, hstate⟩ := hr s s' h
  cases hs : (r s).result with
  | error e =>
      have hs' : (r s').result = .error e := hresult ▸ hs
      rw [bind_of_error hs, bind_of_error hs']
      exact ⟨rfl, hstate⟩
  | ok a =>
      have hs' : (r s').result = .ok a := hresult ▸ hs
      rw [bind_of_ok hs, bind_of_ok hs']
      exact hf a _ _ hstate

end Run
end TableDdl
