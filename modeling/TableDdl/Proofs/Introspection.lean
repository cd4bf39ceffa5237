/-
What a compilation asks an introspector.

Only alterations ask, and only about the blueprint's own table.  If every question has the same
answer each time it is asked, it does not matter when a command is compiled, and the questions of a
compilation are those of its commands in order, up to and including the first that fails
(`compile_questions`).  A blueprint without alterations compiles to what its preview says.
-/
import TableDdl.Database.Scripted
import TableDdl.Proofs.LiveTable
import TableDdl.Proofs.Preview
import TableDdl.Proofs.Visit

namespace TableDdl

variable {σ : Type}

namespace Blueprint

variable {b : Blueprint} {g : Grammar} {connection : Connection}

theorem compileCommand_result {i : Introspector σ}
    {described : Except SchemaError (List LiveColumn)}
    {alter : TableDiff → Except SchemaError (List String)}
    (hdescribed : ∀ s, (i.describe (g.tableName b.table) s).result = described)
    (halter : ∀ diff s, (i.alter diff s).result = alter diff) (c : Command) (s : σ) :
    (b.compileCommand g connection (some i) c s).result =
      match g.dialect.alteration? c with
      | some a => a.answer described alter (g.tableName b.table)
      | none => .ok (g.plan connection b c).emitted := by
  cases hc : g.dialect.alteration? c with
  | none => exact (compileCommand_of_no_alteration hc _ s).2
  | some a =>
      obtain ⟨-, s', hresult⟩ := a.statements_of_described hdescribed s
      rw [compileCommand_of_alteration hc, hresult]
      simp only [halter]

theorem visitsFrom_commands {i : Option (Introspector σ)}
    {answer : Command → Except SchemaError (List String)}
    (h : ∀ c s, (b.compileCommand g connection i c s).result = answer c) (commands : List Command)
    (s : σ) :
    (b.visitsFrom g connection i commands s).map Visit.command =
      commands.take (commands.findIdx (fun c => !(answer c).isOk) + 1) := by
  -- The state changes on the way, what becomes of a command does not.
  induction commands generalizing s with
  | nil => rfl
  | cons c rest ih =>
      rw [List.findIdx_cons]
      cases hc : answer c with
      | error e =>
          rw [visitsFrom_cons_of_error ((h c s).trans hc)]
          rfl
      | ok sql =>
          rw [visitsFrom_cons_of_ok ((h c s).trans hc), List.map_cons, ih]
          rfl

theorem compileCommands_of_no_alteration {commands : List Command}
    (h : commands.findSome? g.dialect.alteration? = none) (i : Option (Introspector σ)) (s : σ) :
    (b.compileCommands g connection i commands s).result =
      .ok (commands.flatMap fun c => (g.plan connection b c).emitted) := by
  induction commands generalizing s with
  | nil => rfl
  | cons c rest ih =>
      obtain ⟨hc, hrest⟩ : g.dialect.alteration? c = none ∧
          rest.findSome? g.dialect.alteration? = none := by
        simpa using h
      have hfirst : (b.compileCommand g connection i c s).result = _ :=
        (compileCommand_of_no_alteration hc i s).2
      rw [compileCommands_cons_of_ok hfirst, ih hrest]
      rfl

/-- What a blueprint without alterations compiles to does not depend on who can be asked. -/
theorem compile_of_no_alteration (h : ∀ c ∈ b.commands, ¬ c.NeedsTable g.dialect)
    (i : Option (Introspector σ)) (s : σ) :
    (b.compile g connection i s).result = b.preview connection g := by
  have hnone : b.finalized.commands.findSome? g.dialect.alteration? = none := by
    rw [finalized_findSome?_alteration?]
    exact Dialect.findSome?_alteration?_eq_none_iff.mpr h
  rw [preview_eq]
  cases hfault : b.fault? with
  | some f => rw [compile_of_fault hfault]
  | none =>
      rw [compile_of_sound hfault, hnone]
      exact compileCommands_of_no_alteration hnone i s

/-- With answers that depend on the questions alone, what becomes of a command does not depend on
when it is compiled.  A sound blueprint asks what its commands ask, up to and including the first
that fails, and a faulty one asks nothing.  Without alterations there is nothing to ask. -/
theorem compile_questions {i : Introspector σ}
    {describe : String → Except SchemaError (List LiveColumn)}
    {alter : TableDiff → Except SchemaError (List String)}
    (hdescribe : ∀ table s, (i.describe table s).result = describe table)
    (halter : ∀ diff s, (i.alter diff s).result = alter diff)
    (b : Blueprint) (g : Grammar) (connection : Connection) (s : σ) :
    let table := g.tablePrefix ++ b.table
    let commands := b.finalized.commands
    let answer c := (b.finalized.compileCommand g connection (some i) c s).result
    let failed c := !(answer c).isOk
    (∀ c s', (b.finalized.compileCommand g connection (some i) c s').result = answer c) ∧
      asked (b.compile g connection (some i) s).trace =
        (match b.fault? with
          | some _ => []
          | none => (commands.take (commands.findIdx failed + 1)).flatMap
              (Command.questions g.dialect (describe table) table)) ∧
      ((∀ c ∈ b.commands, ¬ c.NeedsTable g.dialect) →
        ∀ (τ : Type) (j : Option (Introspector τ)) (t : τ),
          (b.compile g connection j t).result = b.preview connection g) := by
  intro table commands answer failed
  have hdescribed : ∀ s, (i.describe (g.tableName b.finalized.table) s).result = describe table :=
    hdescribe table
  have hanswer : ∀ c s',
      (b.finalized.compileCommand g connection (some i) c s').result = answer c := fun c s' =>
    (compileCommand_result hdescribed halter c s').trans
      (compileCommand_result hdescribed halter c s).symm
  have hasked : ∀ v ∈ b.visits g connection (some i) s,
      asked v.outcome.trace = v.command.questions g.dialect (describe table) table := fun v hv => by
    obtain ⟨s', houtcome⟩ := outcome_of_mem_visits b g connection (some i) hv
    rw [houtcome]
    exact compileCommand_asked hdescribed v.command s'
  refine ⟨hanswer, ?_, fun h τ j t => compile_of_no_alteration h j t⟩
  have hall : (b.visits g connection (some i) s).flatMap (fun v => asked v.outcome.trace) =
      ((b.visits g connection (some i) s).map Visit.command).flatMap
        (Command.questions g.dialect (describe table) table) := by
    rw [List.flatMap_def, List.map_congr_left hasked, ← List.flatMap_def, List.flatMap_map]
  rw [compile_asked, hall]
  unfold visits
  cases b.fault? with
  | some f => rfl
  | none => rw [visitsFrom_commands hanswer]

/-- The drop looks up two of its three names, and the command after it is never compiled. -/
theorem compile_questions_users :
    let live : List LiveColumn :=
      [{ name := "id", nativeType := "integer" }, { name := "mail", nativeType := "text" }]
    let catalogue : Catalogue := { dialect := .sqlite, tables := [("app_users", live)] }
    let g : Grammar := { dialect := .sqlite, tablePrefix := "app_" }
    let connection : Connection := { dialect := .sqlite, tablePrefix := "app_" }
    let b := ofSteps "users"
      [.renameColumn "mail" "email", .dropIfExists, .dropColumn ["id", "gone", "mail"],
       .renameColumn "id" "key"]
    let renamed : TableDiff :=
      { table := "app_users", columns := live
        renamed := [("mail", { name := "email", nativeType := "text" })] }
    let expected : List Activity :=
      [.described "app_users", .described "app_users", .altered renamed,
       .described "app_users", .described "app_users", .described "app_users"]
    asked (b.compile g connection (some catalogue.introspector) ()).trace = expected ∧
      (b.commands.take 3).flatMap
        (Command.questions .sqlite (catalogue.describe "app_users") "app_users") = expected := by
  intro live catalogue g connection b renamed expected
  have hasked : asked (b.compile g connection (some catalogue.introspector) ()).trace =
      expected := by decide +kernel
  have hdescribe : ∀ table s,
      ((catalogue.introspector : Introspector Unit).describe table s).result =
        catalogue.describe table := fun _ _ => rfl
  have halter : ∀ diff s,
      ((catalogue.introspector : Introspector Unit).alter diff s).result = catalogue.alter diff :=
    fun _ _ => rfl
  obtain ⟨-, hquestions, -⟩ := compile_questions hdescribe halter b g connection ()
  exact ⟨hasked, hquestions.symm.trans hasked⟩

end Blueprint
end TableDdl
