/-
Commands compiled one after the other, and what a compilation is without its log.

`gather` runs the items of a list in order and puts their answers into one list.  Two lists in a
row are gathered one after the other (`gather_append`), and items that answer nothing and do nothing
can be left out (`gather_leavesOut`).  Compiling commands is gathering their statements.

A command that is passed over does one thing, it leaves a record in the log.  `unlogged` takes the
records out of a trace and keeps the questions about the live table and what is said while they are
answered.  It goes along with every way of putting runs together, so what it keeps of a compilation
is gathered from what it keeps of the commands.
-/
import TableDdl.Proofs.Question

namespace TableDdl

variable {σ α β : Type}

/-! ## Lists with items left out -/

/-- The second list is the first without some of the items that satisfy `P`. -/
inductive LeavesOut (P : α → Prop) : List α → List α → Prop
  | nil : LeavesOut P [] []
  | keep {a : α} {l l' : List α} (h : LeavesOut P l l') : LeavesOut P (a :: l) (a :: l')
  | leave {a : α} {l l' : List α} (ha : P a) (h : LeavesOut P l l') : LeavesOut P (a :: l) l'

namespace LeavesOut

variable {P : α → Prop} {l l' : List α}

theorem refl (l : List α) : LeavesOut P l l := by
  induction l with
  | nil => exact .nil
  | cons a rest ih => exact .keep ih

theorem append {more more' : List α} (h : LeavesOut P l l') (hmore : LeavesOut P more more') :
    LeavesOut P (l ++ more) (l' ++ more') := by
  induction h with
  | nil => exact hmore
  | keep _ ih => exact .keep ih
  | leave ha _ ih => exact .leave ha ih

theorem filter {p : α → Bool} (h : ∀ a, p a = false → P a) (l : List α) :
    LeavesOut P l (l.filter p) := by
  induction l with
  | nil => exact .nil
  | cons a rest ih =>
      cases ha : p a with
      | true =>
          rw [List.filter_cons_of_pos ha]
          exact .keep ih
      | false =>
          rw [List.filter_cons_of_neg (ne_true_of_eq_false ha)]
          exact .leave (h a ha) ih

theorem subset (h : LeavesOut P l l') : l' ⊆ l := by
  induction h with
  | nil => exact List.Subset.refl []
  | keep _ ih => exact List.cons_subset_cons _ ih
  | leave _ _ ih => exact List.subset_cons_of_subset _ ih

theorem mem_iff (h : LeavesOut P l l') {a : α} (ha : ¬ P a) : a ∈ l' ↔ a ∈ l := by
  refine ⟨fun hmem => h.subset hmem, fun hmem => ?_⟩
  induction h with
  | nil => exact hmem
  | keep _ ih =>
      rcases List.mem_cons.mp hmem with rfl | hrest
      · exact List.mem_cons_self
      · exact List.mem_cons_of_mem _ (ih hrest)
  | leave hb _ ih =>
      rcases List.mem_cons.mp hmem with rfl | hrest
      · exact absurd hb ha
      · exact ih hrest

theorem filterMap_eq (h : LeavesOut P l l') {f : α → Option β} (hf : ∀ a, P a → f a = none) :
    l'.filterMap f = l.filterMap f := by
  induction h with
  | nil => rfl
  | keep _ ih => rw [List.filterMap_cons, List.filterMap_cons, ih]
  | leave ha _ ih => rw [ih, List.filterMap_cons_none (hf _ ha)]

end LeavesOut

/-! ## Runs in a row -/

namespace Run

variable {τ : Type}

/-- Runs the items in order and puts their answers into one list. -/
def gather (f : α → Run τ σ (List β)) : List α → Run τ σ (List β)
  | [] => return []
  | a :: rest => do
      let first ← f a
      let others ← gather f rest
      return first ++ others

variable {f : α → Run τ σ (List β)}

theorem gather_append (f : α → Run τ σ (List β)) (l more : List α) :
    gather f (l ++ more) = do
      let first ← gather f l
      let others ← gather f more
      return first ++ others := by
  induction l with
  | nil => simp [gather]
  | cons a rest ih =>
      simp only [List.cons_append, gather, ih, LawfulMonad.bind_assoc, LawfulMonad.pure_bind,
        List.append_assoc]

theorem gather_leavesOut {P : α → Prop} {l l' : List α} (h : LeavesOut P l l')
    (hP : ∀ a, P a → f a = Pure.pure []) : gather f l' = gather f l := by
  induction h with
  | nil => rfl
  | keep _ ih => simp only [gather, ih]
  | leave ha _ ih => simp [gather, ih, hP _ ha]

/-- Two runs in a row, whose answers do not depend on the state, answer what each of them answers on
its own. -/
theorem result_of_both {r r' : Run τ σ (List β)} (h : ∀ s s', (r s).result = (r s').result)
    (h' : ∀ s s', (r' s).result = (r' s').result) (s s' s'' : σ) :
    Outcome.result ((do
        let first ← r
        let others ← r'
        return first ++ others) s) = do
      let first ← (r s').result
      let others ← (r' s'').result
      return first ++ others := by
  rw [h s' s]
  cases hr : (r s).result with
  | error e =>
      rw [bind_of_error hr]
      rfl
  | ok first =>
      rw [bind_of_ok hr, bind_pure_apply, h' _ s'']
      cases (r' s'').result <;> rfl

end Run

/-! ## Runs without their log -/

/-- Whether the item is a record of the library's own log. -/
def Activity.logged : Activity → Bool
  | event _ => true
  | _ => false

namespace Run

/-- The run without what it logs. -/
def unlogged (r : Run Activity σ α) : Run Activity σ α := fun s =>
  ⟨(r s).result, (r s).trace.filter (!·.logged), (r s).state⟩

theorem unlogged_pure (a : α) : (Pure.pure a : Run Activity σ α).unlogged = Pure.pure a := rfl

theorem unlogged_ofExcept (r : Except SchemaError α) :
    (ofExcept r : Run Activity σ α).unlogged = ofExcept r := rfl

theorem unlogged_log (e : Event) : (log e : Run Activity σ Unit).unlogged = Pure.pure () := rfl

theorem unlogged_bind (r : Run Activity σ α) (f : α → Run Activity σ β) :
    (r >>= f).unlogged = r.unlogged >>= fun a => (f a).unlogged := by
  funext s
  show (⟨_, _, _⟩ : Outcome Activity σ β) = _
  cases h : (r s).result with
  | error e =>
      have hunlogged : (r.unlogged s).result = .error e := h
      rw [bind_of_error h, bind_of_error hunlogged]
      rfl
  | ok a =>
      have hunlogged : (r.unlogged s).result = .ok a := h
      rw [bind_of_ok h, bind_of_ok hunlogged, List.filter_append]
      rfl

theorem unlogged_gather (f : α → Run Activity σ (List β)) (l : List α) :
    (gather f l).unlogged = gather (fun a => (f a).unlogged) l := by
  induction l with
  | nil => rfl
  | cons a rest ih => simp only [gather, unlogged_bind, unlogged_pure, ih]

/-- Questions about the live table are not logged. -/
theorem asked_unlogged (r : Run Activity σ α) (s : σ) :
    asked (r.unlogged s).trace = asked (r s).trace := by
  show ((r s).trace.filter _).filter _ = (r s).trace.filter _
  rw [List.filter_filter]
  congr 1
  funext t
  cases t <;> rfl

end Run

/-! ## Compilations -/

namespace Blueprint

variable (b : Blueprint) (g : Grammar) (connection : Connection) (i : Option (Introspector σ))

theorem compileCommands_eq_gather (commands : List Command) :
    b.compileCommands g connection i commands =
      Run.gather (b.compileCommand g connection i) commands := by
  induction commands with
  | nil => rfl
  | cons c rest ih => rw [compileCommands, Run.gather, ih]

theorem unlogged_compile :
    (b.compile g connection i).unlogged =
      Run.ofExcept b.check >>= fun _ =>
        (b.finalized.compileCommands g connection i b.finalized.commands).unlogged := by
  unfold compile
  rw [Run.unlogged_bind, Run.unlogged_ofExcept]
  congr 1
  funext _
  split <;> simp only [Run.unlogged_bind, Run.unlogged_log, pure_bind]

variable {b g connection i} {c : Command}

theorem unlogged_compileCommand_of_no_form (h : g.dialect.hasForm c = false) :
    (b.compileCommand g connection i c).unlogged = Pure.pure [] := by
  unfold compileCommand
  rw [(g.plan_eq_unsupported_iff connection b c).mpr h]
  rfl

/-- A key that only a table definition can hold becomes nothing where its command stands. -/
theorem compileCommand_of_inlinesKey (h : g.dialect.inlinesKey c = true) :
    b.compileCommand g connection i c = Pure.pure [] := by
  unfold compileCommand
  rw [Grammar.plan_of_inlinesKey h]

end Blueprint
end TableDdl
