/-
Building a blueprint: everything is compiled before anything is run.

Compiling hands no statement to the database.  Running hands over statements until one is
refused, so what the database received is a beginning of what was compiled.  `answers` is the
second side of that statement: what the executor says when it is handed every statement in turn,
whether or not an earlier one was refused.
-/
import TableDdl.Proofs.Compile

namespace TableDdl

variable {σ : Type}

namespace Activity

/-- The statement or query that the database was handed. -/
def received? : Activity → Option String
  | queried sql _ | executed sql => some sql
  | _ => none

theorem Compiling.received? {announced : List Event} {i : Option (Introspector σ)} {table : String}
    {t : Activity} (h : Compiling announced i table t) : t.received? = none := by
  cases h <;> rfl

end Activity

/-- What the database was handed in the course of a trace, in order. -/
def received (trace : List Activity) : List String := trace.filterMap Activity.received?

theorem received_append (t u : List Activity) : received (t ++ u) = received t ++ received u :=
  List.filterMap_append

theorem received_of_compiling {announced : List Event} {i : Option (Introspector σ)}
    {table : String} {trace : List Activity}
    (h : ∀ t ∈ trace, Activity.Compiling announced i table t) : received trace = [] := by
  rw [received, List.filterMap_eq_nil_iff]
  exact fun t ht => (h t ht).received?

theorem received_outputs (outputs : List Output) : received (outputs.map .output) = [] := by
  rw [received, List.filterMap_eq_nil_iff]
  intro t ht
  obtain ⟨o, _, rfl⟩ := List.mem_map.mp ht
  rfl

/-- A statement is logged, handed over and talked about, and then the run goes on. -/
theorem received_handed (e : Event) (sql : String) (outputs : List Output) (more : List Activity) :
    received (.event e :: .executed sql :: (outputs.map .output ++ more)) =
      sql :: received more := by
  show sql :: received _ = _
  rw [received_append, received_outputs, List.nil_append]

namespace Executor

/-- The answers to statements handed over one after the other, whatever is answered. -/
def answers (executor : Executor σ) (s : σ) : List String → List (Except SchemaError Unit)
  | [] => []
  | sql :: rest =>
      let outcome := executor.execute sql s
      outcome.result :: executor.answers outcome.state rest

/-- The state after statements were handed over one after the other. -/
def stateAfter (executor : Executor σ) (s : σ) : List String → σ
  | [] => s
  | sql :: rest => executor.stateAfter (executor.execute sql s).state rest

def isRefusal : Except SchemaError Unit → Bool
  | .ok _ => false
  | .error _ => true

/-- The position of the first statement that is refused, or the number of statements when none
is. -/
def firstRefusal (executor : Executor σ) (s : σ) (statements : List String) : Nat :=
  (executor.answers s statements).findIdx isRefusal

/-- The outcome of handing over statements up to and including the first that is refused. -/
structure Delivers (executor : Executor σ) (s : σ) (statements : List String)
    (o : Outcome Activity σ Unit) : Prop where
  received : received o.trace = statements.take (executor.firstRefusal s statements + 1)
  result : o.result =
    (executor.answers s statements)[executor.firstRefusal s statements]?.getD (.ok ())
  state : o.state =
    executor.stateAfter s (statements.take (executor.firstRefusal s statements + 1))

variable {executor : Executor σ} {s : σ} {sql : String}

theorem answers_length (s : σ) (statements : List String) :
    (executor.answers s statements).length = statements.length := by
  induction statements generalizing s with
  | nil => rfl
  | cons sql rest ih => exact congrArg (· + 1) (ih _)

/-- The answer at the first refusal is an error, so the outcome is a success only without one. -/
theorem answer_firstRefusal_eq_ok_iff (s : σ) (statements : List String) :
    (executor.answers s statements)[executor.firstRefusal s statements]?.getD (.ok ()) = .ok () ↔
      executor.firstRefusal s statements = statements.length := by
  rw [← executor.answers_length s statements]
  constructor
  · intro h
    refine Nat.le_antisymm List.findIdx_le_length (Nat.le_of_not_lt fun hlt => ?_)
    have hrefused :
        isRefusal (executor.answers s statements)[executor.firstRefusal s statements] = true :=
      List.findIdx_getElem (w := hlt)
    rw [List.getElem?_eq_getElem hlt, Option.getD_some] at h
    rw [h] at hrefused
    cases hrefused
  · intro h
    rw [h, List.getElem?_eq_none (Nat.le_refl _), Option.getD_none]

theorem runStatement_apply :
    executor.runStatement sql s =
      ⟨(executor.execute sql s).result,
        .executed sql :: (executor.execute sql s).trace.map .output,
        (executor.execute sql s).state⟩ := rfl

theorem firstRefusal_cons_of_ok {a : Unit} (h : (executor.execute sql s).result = .ok a)
    (rest : List String) :
    executor.firstRefusal s (sql :: rest) =
      executor.firstRefusal (executor.execute sql s).state rest + 1 := by
  simp [firstRefusal, answers, h, List.findIdx_cons, isRefusal]

theorem firstRefusal_cons_of_error {e : SchemaError}
    (h : (executor.execute sql s).result = .error e) (rest : List String) :
    executor.firstRefusal s (sql :: rest) = 0 := by
  simp [firstRefusal, answers, h, List.findIdx_cons, isRefusal]

end Executor

namespace Blueprint

variable {executor : Executor σ} {s : σ} {sql : String}

theorem execute_cons_of_ok {a : Unit} (h : (executor.execute sql s).result = .ok a)
    (table : String) (rest : List String) :
    execute table executor (sql :: rest) s =
      let next := execute table executor rest (executor.execute sql s).state
      ⟨next.result,
        .event (.executing sql) :: .executed sql ::
          ((executor.execute sql s).trace.map .output ++ next.trace),
        next.state⟩ := by
  have hrun : ((executor.runStatement sql).noteFailure
      fun e => .event (.statementFailed table sql e)) s = _ :=
    Run.noteFailure_of_ok (a := a) (by rw [Executor.runStatement_apply, h])
  have hnext := Run.bind_ok (f := fun _ => execute table executor rest) hrun
  refine (Run.bind_ok (log_apply (.executing sql) s)).trans ?_
  rw [hnext]
  rfl

theorem execute_cons_of_error {e : SchemaError} (h : (executor.execute sql s).result = .error e)
    (table : String) (rest : List String) :
    execute table executor (sql :: rest) s =
      ⟨.error e,
        .event (.executing sql) :: .executed sql ::
          ((executor.execute sql s).trace.map .output ++
            [.event (.statementFailed table sql e)]),
        (executor.execute sql s).state⟩ := by
  have hrun : ((executor.runStatement sql).noteFailure
      fun e => .event (.statementFailed table sql e)) s = _ :=
    Run.noteFailure_of_error (e := e) (by rw [Executor.runStatement_apply, h])
  have hnext := Run.bind_error (f := fun _ => execute table executor rest) hrun
  refine (Run.bind_ok (log_apply (.executing sql) s)).trans ?_
  rw [hnext]
  rfl

theorem execute_delivers (executor : Executor σ) (table : String) (s : σ)
    (statements : List String) :
    executor.Delivers s statements (execute table executor statements s) := by
  induction statements generalizing s with
  | nil => exact ⟨rfl, rfl, rfl⟩
  | cons sql rest ih =>
      cases h : (executor.execute sql s).result with
      | error e =>
          rw [execute_cons_of_error h]
          have hfirst := Executor.firstRefusal_cons_of_error h rest
          refine ⟨?_, ?_, ?_⟩
          · rw [hfirst, received_handed]
            rfl
          · rw [hfirst, Executor.answers]
            simp [h]
          · rw [hfirst]
            rfl
      | ok a =>
          rw [execute_cons_of_ok h]
          have hfirst := Executor.firstRefusal_cons_of_ok h rest
          have hrest := ih (executor.execute sql s).state
          refine ⟨?_, ?_, ?_⟩
          · rw [hfirst, List.take_succ_cons, ← hrest.received]
            exact received_handed _ _ _ _
          · rw [hfirst, Executor.answers, List.getElem?_cons_succ]
            exact hrest.result
          · rw [hfirst, List.take_succ_cons, Executor.stateAfter]
            exact hrest.state

section Parts

variable {b : Blueprint} {connection : Connection} {g : Grammar} {executor : Executor σ} {s : σ}

theorem build_of_error {e : SchemaError}
    (h : (b.compile g connection executor.introspector s).result = .error e) :
    let compiled := b.compile g connection executor.introspector s
    b.build connection g executor s = ⟨.error e, compiled.trace, compiled.state⟩ :=
  Run.bind_of_error h

theorem build_of_ok {sql : List String}
    (h : (b.compile g connection executor.introspector s).result = .ok sql) :
    let compiled := b.compile g connection executor.introspector s
    let ran := execute b.table executor sql compiled.state
    b.build connection g executor s = ⟨ran.result, compiled.trace ++ ran.trace, ran.state⟩ :=
  Run.bind_of_ok h

theorem build_starts (b : Blueprint) (connection : Connection) (g : Grammar)
    (executor : Executor σ) (s : σ) :
    (b.compile g connection executor.introspector s).trace <+:
      (b.build connection g executor s).trace := by
  cases h : (b.compile g connection executor.introspector s).result with
  | error e => exact ⟨[], by rw [build_of_error h, List.append_nil]⟩
  | ok sql => exact ⟨_, (congrArg Outcome.trace (build_of_ok h)).symm⟩

end Parts

/-- A blueprint that does not compile hands nothing over.  One that compiles hands its statements
over in order, up to and including the first that is refused, and fails with that refusal. -/
theorem build_all_or_prefix (b : Blueprint) (connection : Connection) (g : Grammar)
    (executor : Executor σ) (s : σ) :
    let compiled := b.compile g connection executor.introspector s
    let built := b.build connection g executor s
    match compiled.result with
    | .error e => built.result = .error e ∧ received built.trace = [] ∧ built.state = compiled.state
    | .ok statements =>
        let k := executor.firstRefusal compiled.state statements
        received built.trace = statements.take (k + 1) ∧
          built.result = (executor.answers compiled.state statements)[k]?.getD (.ok ()) ∧
          (built.result = .ok () ↔ k = statements.length) ∧
          built.state = executor.stateAfter compiled.state (statements.take (k + 1)) := by
  intro compiled built
  have hsilent : received compiled.trace = [] :=
    received_of_compiling (b.compile_leaves g connection executor.introspector s)
  cases h : compiled.result with
  | error e =>
      have hbuilt : built = ⟨.error e, compiled.trace, compiled.state⟩ := Run.bind_of_error h
      rw [hbuilt]
      exact ⟨rfl, hsilent, rfl⟩
  | ok statements =>
      have hbuilt : built = _ := Run.bind_of_ok h
      have hrun := execute_delivers executor b.table compiled.state statements
      rw [hbuilt]
      refine ⟨?_, hrun.result, ?_, hrun.state⟩
      · show received (compiled.trace ++ _) = _
        rw [received_append, hsilent]
        exact hrun.received
      · show _ = _ ↔ _
        rw [hrun.result]
        exact Executor.answer_firstRefusal_eq_ok_iff _ _

end Blueprint
end TableDdl
