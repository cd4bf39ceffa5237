/-
What a blueprint compiles to when there is no live table to ask.

The first command that asks for the live table ends the compilation (`compileCommands_blind`).
Without one, the statements are those of the finalized commands, block after block, and every
block but that of `add` has one statement or none.

`preview_of_steps` puts this together with what steps leave in a blueprint.  The statements that
add the surviving columns come first, wherever their steps stood, then the statements of the
commands in the order of their steps, then those of the indexes implied by the columns.
-/
import TableDdl.Proofs.Accumulation
import TableDdl.Proofs.Compile

namespace TableDdl

variable {σ : Type}

namespace Blueprint

variable (b : Blueprint) (g : Grammar) (connection : Connection)

theorem compileCommand_blind (c : Command) (s : σ) :
    (b.compileCommand g connection none c s).result =
      match g.dialect.alteration? c with
      | some a => .error (.introspectionUnavailable a.command)
      | none => .ok (g.plan connection b c).emitted := by
  rw [← g.plan_alteration? connection b]
  unfold compileCommand
  cases g.plan connection b c <;> rfl

theorem compileCommands_blind (commands : List Command) (s : σ) :
    (b.compileCommands g connection none commands s).result =
      match commands.findSome? g.dialect.alteration? with
      | some a => .error (.introspectionUnavailable a.command)
      | none => .ok (commands.flatMap fun c => (g.plan connection b c).emitted) := by
  induction commands generalizing s with
  | nil => rfl
  | cons c rest ih =>
      have hfirst := b.compileCommand_blind g connection c s
      unfold compileCommands
      cases hc : g.dialect.alteration? c with
      | some a =>
          rw [hc] at hfirst
          rw [Run.bind_of_error hfirst, List.findSome?_cons, hc]
      | none =>
          rw [hc] at hfirst
          rw [Run.bind_of_ok hfirst, List.findSome?_cons, hc]
          have hrest := ih (b.compileCommand g connection none c s).state
          cases hr : rest.findSome? g.dialect.alteration? with
          | some a =>
              rw [hr] at hrest
              rw [Run.bind_of_error hrest]
          | none =>
              rw [hr] at hrest
              rw [Run.bind_of_ok hrest]
              rfl

/-- The result of a preview.  A faulty column comes before a command that needs the live table. -/
theorem preview_eq :
    b.preview connection g =
      match b.fault? with
      | some (c, fault) => .error (.invalidColumn b.table c.name fault)
      | none =>
          match b.finalized.commands.findSome? g.dialect.alteration? with
          | some a => .error (.introspectionUnavailable a.command)
          | none =>
              .ok (b.finalized.commands.flatMap fun c => (g.plan connection b.finalized c).emitted) := by
  unfold preview
  cases h : b.fault? with
  | some f => rw [compile_of_fault h]
  | none =>
      rw [compile_of_sound h]
      exact b.finalized.compileCommands_blind g connection b.finalized.commands ()

theorem preview_eq_ok_iff (sql : List String) :
    b.preview connection g = .ok sql ↔
      b.fault? = none ∧ (∀ c ∈ b.finalized.commands, g.dialect.alteration? c = none) ∧
        sql = b.finalized.commands.flatMap fun c => (g.plan connection b.finalized c).emitted := by
  rw [preview_eq, ← List.findSome?_eq_none_iff]
  cases b.fault? with
  | some f => simp
  | none =>
      cases b.finalized.commands.findSome? g.dialect.alteration? with
      | some a => simp
      | none => simp [eq_comm]

end Blueprint

/-! ## Adding columns -/

theorem intercalate_prefixed (keyword : String) {texts : List String} (h : texts ≠ []) :
    ", ".intercalate (prefixed keyword texts) =
      keyword ++ " " ++ (", " ++ keyword ++ " ").intercalate texts := by
  induction texts with
  | nil => exact absurd rfl h
  | cons text rest ih =>
      cases rest with
      | nil => simp [prefixed]
      | cons next others =>
          have hrest := ih (List.cons_ne_nil next others)
          simp only [prefixed, List.map_cons, String.intercalate_cons_cons] at hrest ⊢
          rw [hrest]
          simp only [String.append_assoc]

namespace Grammar

/-- The statements that add columns to a table.  SQLite adds one column at a time. -/
def columnAdditions (g : Grammar) (table : String) (columns : List Column) : List String :=
  let definitions := columns.map g.definition
  let opening := "alter table " ++ g.tableReference table ++ " "
  match g.dialect with
  | .mysql => [opening ++ "add " ++ ", add ".intercalate definitions]
  | .postgres => [opening ++ "add column " ++ ", add column ".intercalate definitions]
  | .sqlServer => [opening ++ "add " ++ ", ".intercalate definitions]
  | .sqlite => definitions.map fun definition => opening ++ "add column " ++ definition

theorem addColumns_eq (g : Grammar) {b : Blueprint} (h : b.columns ≠ []) :
    g.addColumns b = g.columnAdditions b.table b.columns := by
  have hdefinitions : g.definitions b ≠ [] := by simpa [definitions] using h
  unfold addColumns columnAdditions
  cases g.dialect with
  | mysql =>
      have hadd : ", ".intercalate (prefixed "add" (g.definitions b)) =
          "add " ++ ", add ".intercalate (g.definitions b) := by
        simpa only [String.reduceAppend] using intercalate_prefixed "add" hdefinitions
      simp only [hadd, alterTable, String.append_assoc]
      rfl
  | postgres =>
      have hadd : ", ".intercalate (prefixed "add column" (g.definitions b)) =
          "add column " ++ ", add column ".intercalate (g.definitions b) := by
        simpa only [String.reduceAppend] using intercalate_prefixed "add column" hdefinitions
      simp only [hadd, alterTable, String.append_assoc]
      rfl
  | sqlServer =>
      simp only [definitions, alterTable, String.append_assoc, String.reduceAppend]
  | sqlite => simp [prefixed, definitions, alterTable, String.append_assoc]

end Grammar

namespace Blueprint

/-- The statements are the image of the steps.  Those that add the surviving columns come first,
if there are such columns and no step creates the table.  The statements of the commands follow in
the order of their steps, then those of the implied indexes in the order of their columns. -/
structure Image (table : String) (steps : List Step) (connection : Connection) (g : Grammar)
    (sql : List String) : Prop where
  statements :
    let f := (ofSteps table steps).finalized
    let block := fun c => (g.plan connection f c).emitted
    sql =
      (if surviving steps ≠ [] ∧ Step.create ∉ steps then
          g.columnAdditions table (surviving steps)
        else []) ++
        (steps.flatMap (Step.commands table)).flatMap block ++
        ((surviving steps).filterMap f.impliedIndex?).flatMap block
  addOnce :
    Command.add ∉ steps.flatMap (Step.commands table) ++
      (surviving steps).filterMap (ofSteps table steps).impliedIndex?
  /-- Each command has one statement, or none if the dialect has no form for it or writes it inside
  a table definition. -/
  oneEach :
    ∀ c ∈ steps.flatMap (Step.commands table) ++
        (surviving steps).filterMap (ofSteps table steps).impliedIndex?,
      (g.plan connection (ofSteps table steps).finalized c).emitted.length =
        if g.dialect.hasForm c && !g.dialect.inlinesKey c then 1 else 0

theorem preview_of_steps {table : String} {steps : List Step} {connection : Connection}
    {g : Grammar} {sql : List String}
    (h : (ofSteps table steps).preview connection g = .ok sql) :
    Image table steps connection g sql := by
  obtain ⟨-, hlive, hsql⟩ := (preview_eq_ok_iff _ _ _ _).mp h
  rw [ofSteps_finalized_commands] at hlive
  have hadd : Command.add ∉ steps.flatMap (Step.commands table) ++
      (surviving steps).filterMap (ofSteps table steps).impliedIndex? := by
    intro hmem
    rcases List.mem_append.mp hmem with hmem | hmem
    · rw [← ofSteps_commands] at hmem
      exact add_not_mem_ofSteps_commands table steps hmem
    · obtain ⟨kind, key, heq⟩ := eq_index_of_mem_implied hmem
      cases heq
  refine ⟨?_, hadd, ?_⟩
  · intro f block
    rw [hsql, ofSteps_finalized_commands, List.flatMap_append, List.flatMap_append]
    congr 2
    split
    next hadds =>
      have hcolumns : f.columns = surviving steps := ofSteps_columns table steps
      have htable : f.table = table := ofSteps_table table steps
      have hblock : block .add = g.columnAdditions f.table f.columns :=
        g.addColumns_eq (by rw [hcolumns]; exact hadds.1)
      rw [List.flatMap_singleton, ← hcolumns]
      exact hblock.trans (by rw [htable])
    next => rfl
  · intro c hc
    have hnone : g.dialect.alteration? c = none := by
      refine hlive c ?_
      rw [List.append_assoc]
      exact List.mem_append_right _ hc
    have hne : c ≠ .add := fun heq => hadd (heq ▸ hc)
    have hlength := g.emitted_length connection (ofSteps table steps).finalized hne
    simpa [Dialect.statementCount, hnone] using hlength

/-- Two columns survive, one of them with a marker that the dialect cannot add to a live table. -/
theorem preview_of_steps_sqlite :
    let steps : List Step :=
      [.index .unique ["b"] none, .column .integer "a" [.primary .unnamed],
       .dropKey .foreign (.columns ["a"]), .column .text "c" [],
       .column .text "b" [.index .unnamed], .removeColumn "c"]
    let sql :=
      ["alter table \"p_t\" add column \"a\" integer not null",
       "alter table \"p_t\" add column \"b\" text not null",
       "create unique index \"t_b_unique\" on \"p_t\" (\"b\")",
       "create index \"t_b_index\" on \"p_t\" (\"b\")"]
    (ofSteps "t" steps).preview { dialect := .sqlite } ⟨.sqlite, "p_"⟩ = .ok sql ∧
      Image "t" steps { dialect := .sqlite } ⟨.sqlite, "p_"⟩ sql := by
  intro steps sql
  have h : (ofSteps "t" steps).preview { dialect := .sqlite } ⟨.sqlite, "p_"⟩ = .ok sql :=
    (preview_eq_ok_iff _ _ _ _).mpr (by decide +kernel)
  exact ⟨h, preview_of_steps h⟩

end Blueprint
end TableDdl
