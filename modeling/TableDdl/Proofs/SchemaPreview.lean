/-
A preview and the run that follows it.

A preview compiles, and so does a run before it hands over its first statement.  Between the two
the database may have changed, but if the introspector answers alike both times then both compile
to the same (`compile_tracks`).  So the run fails as the preview did and hands nothing over, or it
hands over the previewed statements up to and including the first that is refused (`Follows`).

Creating a table is a change whose first step is `create`.  The table is created first, with all
the columns that survive the steps, and none of the statements adds columns to it afterwards, unless
the introspector answered the diff of an alteration with it (`creates_of_compile`).
-/
import TableDdl.Proofs.AddedColumns
import TableDdl.Proofs.Build
import TableDdl.Proofs.Tracking
import TableDdl.Proofs.Visit
import TableDdl.Schema

namespace TableDdl

variable {σ : Type}

/-! ## A run after a preview -/

/-- The run fails in the way foreseen and hands nothing over, or hands over the statements foreseen,
from this state on, up to and including the first that is refused. -/
def Executor.Follows (executor : Executor σ) (foreseen : Except SchemaError (List String)) (s : σ)
    (ran : Outcome Activity σ Unit) : Prop :=
  match foreseen with
  | .error e => ran.result = .error e ∧ received ran.trace = []
  | .ok sql => executor.Delivers s sql ran

namespace Executor

variable {executor : Executor σ} {s : σ} {ran : Outcome Activity σ Unit} {before : List Activity}

theorem Delivers.behind {sql : List String} (h : executor.Delivers s sql ran)
    (hbefore : TableDdl.received before = []) :
    executor.Delivers s sql ⟨ran.result, before ++ ran.trace, ran.state⟩ where
  received := by
    rw [received_append, hbefore, List.nil_append]
    exact h.received
  result := h.result
  state := h.state

theorem Follows.behind {foreseen : Except SchemaError (List String)}
    (h : executor.Follows foreseen s ran) (hbefore : received before = []) :
    executor.Follows foreseen s ⟨ran.result, before ++ ran.trace, ran.state⟩ := by
  cases foreseen with
  | error e =>
      refine ⟨h.1, ?_⟩
      rw [received_append, hbefore, List.nil_append]
      exact h.2
  | ok sql => exact Delivers.behind h hbefore

end Executor

theorem Blueprint.build_follows (b : Blueprint) (connection : Connection) (g : Grammar)
    (executor : Executor σ) (s : σ) :
    let compiled := b.compile g connection executor.introspector s
    executor.Follows compiled.result compiled.state (b.build connection g executor s) := by
  intro compiled
  have hsilent : received compiled.trace = [] :=
    received_of_compiling (b.compile_leaves g connection executor.introspector s)
  cases h : compiled.result with
  | error e =>
      rw [build_of_error h]
      exact ⟨rfl, hsilent⟩
  | ok sql =>
      rw [build_of_ok h]
      exact (execute_delivers executor b.table compiled.state sql).behind hsilent

/-! ## The statements that create a table -/

/-- The command is an alteration.  Its diff was handed to the introspector, and the command came to
the answer. -/
def Visit.AnsweredBy (v : Visit σ) (g : Grammar) (table : String) (i : Introspector σ) : Prop :=
  ∃ a columns found s, g.dialect.alteration? v.command = some a ∧
    let diff := a.diff (g.tableName table) columns found
    .altered diff ∈ v.outcome.trace ∧ v.outcome.result = (i.alter diff s).result

theorem Alteration.answer_of_statements {g : Grammar} {b : Blueprint} {i : Introspector σ}
    {a : Alteration} {s : σ} {sql : List String} (h : (a.statements g b i s).result = .ok sql) :
    ∃ columns found s',
      let diff := a.diff (g.tableName b.table) columns found
      .altered diff ∈ (a.statements g b i s).trace ∧
        (a.statements g b i s).result = (i.alter diff s').result := by
  rw [statements_eq] at h ⊢
  obtain ⟨columns, hcolumns, h⟩ := Run.ok_of_bind h
  obtain ⟨found, hfound, -⟩ := Run.ok_of_bind h
  rw [Run.bind_of_ok hcolumns, Run.bind_of_ok hfound]
  exact ⟨columns, found, _,
    List.mem_append_right _ (List.mem_append_right _ List.mem_cons_self), rfl⟩

namespace Grammar

variable (g : Grammar) (connection : Connection) (b : Blueprint)

/-- The keys inside a table definition. -/
def inlineKeys : String :=
  match g.dialect with
  | .sqlite => g.inlineForeignKeys b ++ g.inlinePrimaryKey b
  | .mysql | .postgres | .sqlServer => ""

/-- What a table definition says behind its columns and keys. -/
def tableOptions : String :=
  match g.dialect with
  | .mysql =>
      optionClause " default character set " connection.charset ++
        optionClause " collate " connection.collation ++ optionClause " engine = " b.engine
  | .postgres | .sqlServer | .sqlite => ""

theorem createTable_eq :
    g.createTable connection b =
      "create table " ++ g.tableReference b.table ++ " (" ++
        ", ".intercalate (b.columns.map g.definition) ++ g.inlineKeys b ++ ")" ++
        g.tableOptions connection b := by
  unfold createTable inlineKeys tableOptions definitions
  cases g.dialect <;> simp only [String.append_assoc, String.append_empty]

end Grammar

namespace Blueprint

/-- The statements handed over in the course of the trace create the table with these columns, and do
not add columns to it.  One that does is part of the introspector's answer to the diff of an
alteration, which it was handed in this very trace. -/
structure Creates (b : Blueprint) (g : Grammar) (connection : Connection)
    (i : Option (Introspector σ)) (s : σ) (columns : List Column) (trace : List Activity) :
    Prop where
  first : (received trace).head? =
    some ("create table " ++ g.tableReference b.table ++ " (" ++
      ", ".intercalate (columns.map g.definition) ++ g.inlineKeys b.finalized ++ ")" ++
      g.tableOptions connection b.finalized)
  noAddition : ∀ statement ∈ received trace, g.AddsColumns b.table statement →
    ∃ j ∈ i, ∃ v ∈ b.visits g connection i s, v.outcome.trace <:+: trace ∧
      v.AnsweredBy g b.table j ∧ statement ∈ v.statements

variable (table : String) (steps : List Step)

theorem ofSteps_create_commands :
    ∃ rest, (ofSteps table (.create :: steps)).finalized.commands = .create :: rest ∧
      Command.add ∉ rest := by
  refine ⟨steps.flatMap (Step.commands table) ++
    (surviving steps).filterMap (ofSteps table (.create :: steps)).impliedIndex?, ?_, ?_⟩
  · rw [ofSteps_finalized_commands, if_neg fun h => h.2 List.mem_cons_self]
    rfl
  · intro hmem
    rcases List.mem_append.mp hmem with hmem | hmem
    · rw [← ofSteps_commands] at hmem
      exact add_not_mem_ofSteps_commands table steps hmem
    · obtain ⟨kind, key, heq⟩ := eq_index_of_mem_implied hmem
      cases heq

variable {b : Blueprint} {g : Grammar} {connection : Connection} {i : Option (Introspector σ)}

theorem answeredBy_of_alteration {s : σ} {v : Visit σ} {a : Alteration} {sql : List String}
    (hv : v ∈ b.visits g connection i s) (hlive : g.dialect.alteration? v.command = some a)
    (hok : v.outcome.result = .ok sql) : ∃ j ∈ i, v.AnsweredBy g b.table j := by
  obtain ⟨s', houtcome⟩ := b.outcome_of_mem_visits g connection i hv
  rw [houtcome] at hok
  cases i with
  | none =>
      rw [compileCommand_blind, hlive] at hok
      cases hok
  | some j =>
      rw [compileCommand_of_alteration hlive] at houtcome hok
      obtain ⟨columns, found, asked, hanswer⟩ := a.answer_of_statements hok
      rw [← houtcome] at hanswer
      exact ⟨j, rfl, a, columns, found, asked, hlive, hanswer⟩

/-- A command other than `add` adds no columns, unless the introspector does. -/
theorem answeredBy_of_addsColumns {s : σ} {v : Visit σ} (hv : v ∈ b.visits g connection i s)
    (hadd : v.command ≠ .add) {statement : String} (hstatement : statement ∈ v.statements)
    (hadds : g.AddsColumns b.table statement) : ∃ j ∈ i, v.AnsweredBy g b.table j := by
  cases hlive : g.dialect.alteration? v.command with
  | none =>
      have hresult := b.result_of_mem_visits g connection i hv rfl hlive
      rw [Visit.statements_of_ok hresult] at hstatement
      exact absurd hadds (Grammar.not_addsColumns_of_plan (b := b.finalized) hadd hstatement)
  | some a =>
      obtain ⟨sql, hok⟩ := Visit.ok_of_mem_statements hstatement
      exact answeredBy_of_alteration hv hlive hok

variable {table steps}

/-- The statement that creates the table comes first. -/
theorem head_of_compile {s : σ} {sql : List String}
    (h : ((ofSteps table (.create :: steps)).compile g connection i s).result = .ok sql) :
    sql.head? =
      some (g.createTable connection (ofSteps table (.create :: steps)).finalized) := by
  let b := ofSteps table (.create :: steps)
  obtain ⟨rest, hcommands, -⟩ := ofSteps_create_commands table steps
  have hvisits := (b.visits_inOrder g connection i s).complete sql h
  obtain ⟨v, vs, hcons, hcommand, -⟩ := List.map_eq_cons_iff.mp (hvisits.trans hcommands)
  have hv : v ∈ b.visits g connection i s := hcons ▸ List.mem_cons_self
  have hresult := b.result_of_mem_visits g connection i hv hcommand rfl
  rw [← b.visits_statements g connection i h, hcons, List.flatMap_cons,
    Visit.statements_of_ok hresult]
  rfl

theorem add_not_mem_visits {s : σ} {v : Visit σ}
    (hv : v ∈ (ofSteps table (.create :: steps)).visits g connection i s) : v.command ≠ .add := by
  let b := ofSteps table (.create :: steps)
  obtain ⟨rest, hcommands, hrest⟩ := ofSteps_create_commands table steps
  have hmem : v.command ∈ b.finalized.commands :=
    (b.visits_inOrder g connection i s).order.subset (List.mem_map_of_mem hv)
  rw [hcommands] at hmem
  intro heq
  rw [heq] at hmem
  exact (List.mem_cons.mp hmem).elim nofun hrest

/-- A run that hands over the first statements of the compilation creates the table. -/
theorem creates_of_compile {s : σ} {sql : List String} {trace : List Activity} {n : Nat}
    (h : ((ofSteps table (.create :: steps)).compile g connection i s).result = .ok sql)
    (hreceived : received trace = sql.take (n + 1))
    (htrace : ((ofSteps table (.create :: steps)).compile g connection i s).trace <:+: trace) :
    (ofSteps table (.create :: steps)).Creates g connection i s (surviving steps) trace := by
  let b := ofSteps table (.create :: steps)
  have hcolumns : b.finalized.columns = surviving steps := ofSteps_columns table (.create :: steps)
  constructor
  · rw [hreceived, List.head?_take, if_neg (Nat.succ_ne_zero n), head_of_compile h,
      g.createTable_eq, hcolumns]
    rfl
  · intro statement hmem hadds
    rw [hreceived] at hmem
    have hsql : statement ∈ (b.visits g connection i s).flatMap Visit.statements := by
      rw [b.visits_statements g connection i h]
      exact List.mem_of_mem_take hmem
    obtain ⟨v, hv, hstatement⟩ := List.mem_flatMap.mp hsql
    obtain ⟨j, hj, hanswered⟩ :=
      answeredBy_of_addsColumns hv (add_not_mem_visits hv) hstatement hadds
    exact ⟨j, hj, v, hv, (b.trace_of_mem_visits g connection i hv).trans htrace, hanswered,
      hstatement⟩

end Blueprint

namespace Schema

variable (schema : Schema σ) (table : String) (steps : List Step)

theorem log_then_run (e : Event) (b : Blueprint) (s : σ) :
    (log e >>= fun _ => schema.run b) s =
      ⟨(schema.run b s).result, [.event e] ++ (schema.run b s).trace, (schema.run b s).state⟩ :=
  Run.bind_ok (log_apply e s)

theorem alterTable_follows (s : σ) :
    schema.executor.Follows (schema.preview table steps s).result
      (schema.preview table steps s).state (schema.alterTable table steps s) := by
  rw [alterTable, log_then_run]
  exact (Blueprint.build_follows _ _ _ _ s).behind rfl

theorem createTable_follows (s : σ) :
    schema.executor.Follows (schema.preview table (.create :: steps) s).result
      (schema.preview table (.create :: steps) s).state (schema.createTable table steps s) := by
  rw [createTable, log_then_run]
  exact (Blueprint.build_follows _ _ _ _ s).behind rfl

theorem preview_tracks {R : σ → σ → Prop}
    (hR : ∀ i ∈ schema.executor.introspector, i.Tracks R) : (schema.preview table steps).Tracks R :=
  Blueprint.compile_tracks hR

/-- What is run is what was previewed, if the introspector answers alike both times.  This holds of
changes to a table and of its creation.  A table that is created has all the surviving columns from
the first statement on. -/
theorem runs_preview {R : σ → σ → Prop} (hR : ∀ i ∈ schema.executor.introspector, i.Tracks R)
    {s s' : σ} (hs : R s s') :
    let creating := Step.create :: steps
    let altered := schema.alterTable table steps s'
    let created := schema.createTable table steps s'
    schema.executor.Follows (schema.preview table steps s).result
        (schema.preview table steps s').state altered ∧
      schema.executor.Follows (schema.preview table creating s).result
        (schema.preview table creating s').state created ∧
      ∀ sql, (schema.preview table creating s).result = .ok sql →
        (Blueprint.ofSteps table creating).Creates schema.grammar schema.connection
          schema.executor.introspector s' (surviving steps) created.trace := by
  intro creating altered created
  have halter : (schema.preview table steps s).result = (schema.preview table steps s').result :=
    (schema.preview_tracks table steps hR s s' hs).1
  have hcreate : (schema.preview table creating s).result =
      (schema.preview table creating s').result :=
    (schema.preview_tracks table creating hR s s' hs).1
  have hfollows : schema.executor.Follows (schema.preview table creating s').result
      (schema.preview table creating s').state created :=
    schema.createTable_follows table steps s'
  rw [halter, hcreate]
  refine ⟨schema.alterTable_follows table steps s', hfollows, fun sql hsql => ?_⟩
  have hdelivers : schema.executor.Delivers (schema.preview table creating s').state sql
      created := by
    rw [hsql] at hfollows
    exact hfollows
  have hcompiled : ((Blueprint.ofSteps table creating).compile schema.grammar schema.connection
      schema.executor.introspector s').result = .ok sql := hsql
  refine Blueprint.creates_of_compile hcompiled hdelivers.received ?_
  show _ <:+: (schema.createTable table steps s').trace
  rw [createTable, log_then_run]
  exact List.infix_append_of_infix_right (Blueprint.build_starts _ _ _ _ s').isInfix

/-- The column is renamed as its diff says, and then the index on its old name is refused. -/
theorem runs_preview_users :
    let users : Catalogue :=
      { dialect := .sqlite, tables := [("users", [{ name := "name", nativeType := "text" }])] }
    let sql :=
      ["create table \"users\" (\"id\" integer not null, \"name\" text not null)",
       "alter table \"users\" rename column \"name\" to \"title\"",
       "create unique index \"users_name_unique\" on \"users\" (\"name\")",
       "create index \"users_id_index\" on \"users\" (\"id\")"]
    let script : Script := { failures := [(sql[2], "no such column")], catalogue := some users }
    let schema : Schema Nat := ⟨{ dialect := .sqlite }, script.executor⟩
    let steps : List Step :=
      [.renameColumn "name" "title", .column .integer "id" [],
       .column .text "name" [], .index .unique ["name"] none, .index .plain ["id"] none]
    let creating := Step.create :: steps
    let created := schema.createTable "users" steps 1
    (∀ i ∈ schema.executor.introspector, i.Tracks fun _ _ => True) ∧
      (schema.preview "users" creating 0).result = .ok sql ∧
      schema.executor.Follows (.ok sql) 1 created ∧ received created.trace = sql.take 3 ∧
      (Blueprint.ofSteps "users" creating).Creates schema.grammar schema.connection
        schema.executor.introspector 1 (surviving steps) created.trace := by
  intro users sql script schema steps creating created
  have htracks : ∀ i ∈ schema.executor.introspector, i.Tracks fun _ _ => True := by
    intro i hi
    cases hi
    exact users.tracks _
  have hok : (schema.preview "users" creating 0).result = .ok sql :=
    ok_of_toOption (by decide +kernel)
  have hstate : (schema.preview "users" creating 1).state = 1 := by decide +kernel
  have hrelated : (fun _ _ : Nat => True) 0 1 := trivial
  obtain ⟨-, hfollows, hcreates⟩ := schema.runs_preview "users" steps htracks hrelated
  rw [hok, hstate] at hfollows
  exact ⟨htracks, hok, hfollows, by decide +kernel, hcreates sql hok⟩

end Schema
end TableDdl
