/-
The log of a build.

A build logs what it is about to do, and what was refused.  A faulty column ends it before the first
record.  Otherwise the records are those of the announcements, one for each command that is passed
over before the first that fails to compile, one for each statement that the database is handed, and
at the very end one for the statement that it refused (`build_journal`).  So the log alone tells what
the database was handed.

Only the records of the library itself are meant.  What the executor and the introspector log while
they work stands between them in the trace.
-/
import TableDdl.Database.Scripted
import TableDdl.Proofs.Build
import TableDdl.Proofs.PreviewError
import TableDdl.Proofs.Visit

namespace TableDdl

variable {σ : Type}

/-- A record of the log: how much it matters, what it says, and its fields. -/
structure Record where
  level : LogLevel
  message : String
  fields : List (String × FieldValue)
deriving DecidableEq

def Event.record (e : Event) : Record := ⟨e.level, e.message, e.fields⟩

namespace Activity

/-- The record that the library itself made of what happened. -/
def record? : Activity → Option Record
  | event e => some e.record
  | _ => none

theorem Looking.record? {i : Introspector σ} {table : String} {t : Activity}
    (h : Looking i table t) : t.record? = none := by
  cases h <;> rfl

end Activity

/-- The library's own log in the course of a trace, in order. -/
def journal (trace : List Activity) : List Record := trace.filterMap Activity.record?

theorem journal_append (t u : List Activity) : journal (t ++ u) = journal t ++ journal u :=
  List.filterMap_append

theorem journal_events (events : List Event) :
    journal (events.map .event) = events.map Event.record := by
  have hrecord : Activity.record? ∘ Activity.event = some ∘ Event.record := rfl
  rw [journal, List.filterMap_map, hrecord, List.filterMap_eq_map]

theorem journal_outputs (outputs : List Output) : journal (outputs.map .output) = [] := by
  rw [journal, List.filterMap_eq_nil_iff]
  intro t ht
  obtain ⟨o, _, rfl⟩ := List.mem_map.mp ht
  rfl

theorem journal_handed (e : Event) (sql : String) (outputs : List Output) (more : List Activity) :
    journal (.event e :: .executed sql :: (outputs.map .output ++ more)) =
      e.record :: journal more := by
  show e.record :: journal (outputs.map .output ++ more) = _
  rw [journal_append, journal_outputs, List.nil_append]

/-! ## Compiling -/

namespace Blueprint

section Results

variable (b : Blueprint) (g : Grammar) (connection : Connection) (i : Option (Introspector σ))

/-- What becomes of commands compiled one after the other, whatever becomes of those before. -/
def results : List Command → σ → List (Except SchemaError (List String))
  | [], _ => []
  | c :: rest, s =>
      let outcome := b.compileCommand g connection i c s
      outcome.result :: results rest outcome.state

/-- The position of the first command that fails to compile, or the number of commands when none
does. -/
def firstFailure (commands : List Command) (s : σ) : Nat :=
  (b.results g connection i commands s).findIdx fun result => !result.isOk

end Results

variable {b : Blueprint} {g : Grammar} {connection : Connection} {i : Option (Introspector σ)}
  {c : Command} {s : σ}

theorem firstFailure_cons_of_ok {sql : List String}
    (h : (b.compileCommand g connection i c s).result = .ok sql) (rest : List Command) :
    b.firstFailure g connection i (c :: rest) s =
      b.firstFailure g connection i rest (b.compileCommand g connection i c s).state + 1 := by
  simp [firstFailure, results, h, List.findIdx_cons, Except.isOk, Except.toBool]

theorem firstFailure_cons_of_error {e : SchemaError}
    (h : (b.compileCommand g connection i c s).result = .error e) (rest : List Command) :
    b.firstFailure g connection i (c :: rest) s = 0 := by
  simp [firstFailure, results, h, List.findIdx_cons, Except.isOk, Except.toBool]

/-- The first failure is what a compilation fails with, and one that succeeds has none. -/
theorem result_firstFailure (commands : List Command) (s : σ) :
    match (b.compileCommands g connection i commands s).result with
    | .error e =>
        (b.results g connection i commands s)[b.firstFailure g connection i commands s]? =
          some (.error e)
    | .ok _ => b.firstFailure g connection i commands s = commands.length := by
  induction commands generalizing s with
  | nil => rfl
  | cons c rest ih =>
      cases h : (b.compileCommand g connection i c s).result with
      | error e =>
          rw [compileCommands_cons_of_error h, firstFailure_cons_of_error h]
          exact congrArg some h
      | ok sql =>
          have hrest := ih (b.compileCommand g connection i c s).state
          rw [compileCommands_cons_of_ok h, firstFailure_cons_of_ok h]
          cases hmore : (b.compileCommands g connection i rest
              (b.compileCommand g connection i c s).state).result with
          | error e =>
              rw [hmore] at hrest
              exact hrest
          | ok more =>
              rw [hmore] at hrest
              exact congrArg (· + 1) hrest

/-- A command is logged when the dialect has no form for it, and not otherwise. -/
theorem journal_compileCommand (b : Blueprint) (g : Grammar) (connection : Connection)
    (i : Option (Introspector σ)) (c : Command) (s : σ) :
    journal (b.compileCommand g connection i c s).trace =
      if g.dialect.hasForm c then [] else [(Event.skipped c.name).record] := by
  have hform := g.plan_eq_unsupported_iff connection b c
  unfold compileCommand
  cases hplan : g.plan connection b c with
  | unsupported =>
      rw [hform.mp hplan]
      rfl
  | statements sql =>
      have hc : g.dialect.hasForm c = true := by simpa [hplan] using hform
      rw [hc]
      rfl
  | alteration a =>
      have hc : g.dialect.hasForm c = true := by simpa [hplan] using hform
      rw [hc]
      cases i with
      | none => rfl
      | some i =>
          exact List.filterMap_eq_nil_iff.mpr fun t ht =>
            (a.statements_leaves g b i s t ht).record?

/-- A command without a form compiles to nothing, so it does not fail. -/
theorem hasForm_of_error {e : SchemaError}
    (h : (b.compileCommand g connection i c s).result = .error e) :
    g.dialect.hasForm c = true := by
  cases hc : g.dialect.hasForm c with
  | true => rfl
  | false =>
      unfold compileCommand at h
      rw [(g.plan_eq_unsupported_iff connection b c).mpr hc] at h
      cases h

theorem journal_compileCommands (commands : List Command) (s : σ) :
    journal (b.compileCommands g connection i commands s).trace =
      ((commands.take (b.firstFailure g connection i commands s)).filter
        fun c => !g.dialect.hasForm c).map fun c => (Event.skipped c.name).record := by
  induction commands generalizing s with
  | nil => rfl
  | cons c rest ih =>
      cases h : (b.compileCommand g connection i c s).result with
      | error e =>
          rw [compileCommands_cons_of_error h, firstFailure_cons_of_error h,
            journal_compileCommand, hasForm_of_error h]
          rfl
      | ok sql =>
          rw [compileCommands_cons_of_ok h, firstFailure_cons_of_ok h, List.take_succ_cons,
            journal_append, journal_compileCommand, ih]
          cases hc : g.dialect.hasForm c <;> simp [hc]

theorem announcements_records (b : Blueprint) (g : Grammar) (connection : Connection) :
    (b.announcements g connection).map Event.record =
      (if connection.tablePrefix = g.tablePrefix then [] else
        [(Event.prefixMismatch connection.tablePrefix g.tablePrefix).record]) ++
      [(Event.compiling b.table g.dialect b.finalized.commands.length).record] := by
  by_cases h : connection.tablePrefix = g.tablePrefix <;> simp [announcements, h]

theorem journal_compile (hsound : b.fault? = none) (s : σ) :
    journal (b.compile g connection i s).trace =
      (b.announcements g connection).map Event.record ++
        ((b.finalized.commands.take
            (b.finalized.firstFailure g connection i b.finalized.commands s)).filter
          fun c => !g.dialect.hasForm c).map fun c => (Event.skipped c.name).record := by
  rw [compile_of_sound hsound, journal_append, journal_events, journal_compileCommands]

theorem compile_firstFailure (g : Grammar) (connection : Connection) (i : Option (Introspector σ))
    (hsound : b.fault? = none) (s : σ) :
    match (b.compile g connection i s).result with
    | .error e =>
        (b.finalized.results g connection i b.finalized.commands s)[
            b.finalized.firstFailure g connection i b.finalized.commands s]? = some (.error e)
    | .ok _ =>
        b.finalized.firstFailure g connection i b.finalized.commands s =
          b.finalized.commands.length := by
  rw [compile_of_sound hsound]
  exact result_firstFailure b.finalized.commands s

end Blueprint

/-! ## Running -/

/-- How statements that are handed over one after the other end: which the database was handed, with
what result, and what is logged last of all. -/
inductive Executor.Ends (executor : Executor σ) (table : String) (s : σ) (statements : List String) :
    List String → Except SchemaError Unit → List Record → Prop
  | accepted (h : ∀ answer ∈ executor.answers s statements, answer = .ok ()) :
      Ends executor table s statements statements (.ok ()) []
  | refused (before after : List String) (sql : String) (e : SchemaError)
      (hstatements : statements = before ++ sql :: after)
      (hbefore : ∀ answer ∈ executor.answers s before, answer = .ok ())
      (h : (executor.execute sql (executor.stateAfter s before)).result = .error e) :
      Ends executor table s statements (before ++ [sql]) (.error e)
        [⟨.warn, "Statement failed",
          [("table", .text table), ("sql", .text sql), ("error", .text e.message)]⟩]

theorem Executor.Ends.cons {executor : Executor σ} {table sql : String} {s : σ} {a : Unit}
    {statements handed : List String} {result : Except SchemaError Unit} {ending : List Record}
    (h : (executor.execute sql s).result = .ok a)
    (hends : executor.Ends table (executor.execute sql s).state statements handed result ending) :
    executor.Ends table s (sql :: statements) (sql :: handed) result ending := by
  have haccepted : ∀ rest,
      (∀ answer ∈ executor.answers (executor.execute sql s).state rest, answer = .ok ()) →
        ∀ answer ∈ executor.answers s (sql :: rest), answer = .ok () := by
    intro rest hrest
    exact List.forall_mem_cons.mpr ⟨h, hrest⟩
  cases hends with
  | accepted hall => exact .accepted (haccepted statements hall)
  | refused before after last e hstatements hbefore hlast =>
      exact .refused (sql :: before) after last e (congrArg (sql :: ·) hstatements)
        (haccepted before hbefore) hlast

namespace Blueprint

variable {executor : Executor σ}

theorem execute_ends (executor : Executor σ) (table : String) (s : σ) (statements : List String) :
    ∃ ending,
      executor.Ends table s statements (received (execute table executor statements s).trace)
        (execute table executor statements s).result ending ∧
      journal (execute table executor statements s).trace =
        (received (execute table executor statements s).trace).map
          (fun sql => (Event.executing sql).record) ++ ending := by
  induction statements generalizing s with
  | nil => exact ⟨[], .accepted fun _ h => absurd h List.not_mem_nil, rfl⟩
  | cons sql rest ih =>
      cases h : (executor.execute sql s).result with
      | error e =>
          rw [execute_cons_of_error h, received_handed, journal_handed]
          exact ⟨_, .refused [] rest sql e rfl (fun _ h => absurd h List.not_mem_nil) h, rfl⟩
      | ok a =>
          obtain ⟨ending, hends, hjournal⟩ := ih (executor.execute sql s).state
          rw [execute_cons_of_ok h, received_handed, journal_handed, hjournal]
          exact ⟨ending, hends.cons h, rfl⟩

theorem journal_of_fault {b : Blueprint} {found : Column × ColumnFault}
    (h : b.fault? = some found) (connection : Connection) (g : Grammar) (executor : Executor σ)
    (s : σ) :
    (∃ c ∈ b.definedColumns, c.Faulty) ∧ journal (b.build connection g executor s).trace = [] := by
  constructor
  · obtain ⟨c, hc, hfound⟩ := List.exists_of_findSome?_eq_some h
    refine ⟨c, hc, c.faulty_iff.mpr fun hnone => ?_⟩
    rw [hnone] at hfound
    cases hfound
  · have hcompiled : b.compile g connection executor.introspector s = _ :=
      compile_of_fault h executor.introspector s
    have hbuilt : b.build connection g executor s = _ :=
      build_of_error (congrArg Outcome.result hcompiled)
    rw [hbuilt, hcompiled]
    rfl

section Built

variable {b : Blueprint} {g : Grammar} {connection : Connection} {s : σ}

theorem received_compile (b : Blueprint) (g : Grammar) (connection : Connection)
    (i : Option (Introspector σ)) (s : σ) : received (b.compile g connection i s).trace = [] :=
  received_of_compiling (b.compile_leaves g connection i s)

/-- A build that fails to compile logs no more than the compilation. -/
theorem journal_build_of_error {e : SchemaError}
    (h : (b.compile g connection executor.introspector s).result = .error e) :
    journal (b.build connection g executor s).trace =
        journal (b.compile g connection executor.introspector s).trace ∧
      received (b.build connection g executor s).trace = [] ∧
      (b.build connection g executor s).result = .error e := by
  rw [build_of_error h]
  exact ⟨rfl, b.received_compile g connection executor.introspector s, rfl⟩

theorem journal_build_of_ok {statements : List String}
    (h : (b.compile g connection executor.introspector s).result = .ok statements) :
    ∃ ending,
      journal (b.build connection g executor s).trace =
        journal (b.compile g connection executor.introspector s).trace ++
          (received (b.build connection g executor s).trace).map
            (fun sql => (Event.executing sql).record) ++ ending ∧
      executor.Ends b.table (b.compile g connection executor.introspector s).state statements
        (received (b.build connection g executor s).trace)
        (b.build connection g executor s).result ending := by
  obtain ⟨ending, hends, hrun⟩ := execute_ends executor b.table
    (b.compile g connection executor.introspector s).state statements
  refine ⟨ending, ?_, ?_⟩
  · rw [build_of_ok h, journal_append, received_append, b.received_compile, List.nil_append, hrun,
      List.append_assoc]
  · rw [build_of_ok h, received_append, b.received_compile, List.nil_append]
    exact hends

end Built

/-- A build with a faulty column logs nothing.  Any other logs the mismatch of prefixes if there is
one, then the number of commands, then each command without a form before the first that fails, then
each statement that the database was handed, and last the statement that was refused. -/
theorem build_journal (b : Blueprint) (connection : Connection) (g : Grammar)
    (executor : Executor σ) (s : σ) :
    let compiled := b.compile g connection executor.introspector s
    let built := b.build connection g executor s
    let handed := received built.trace
    let commands := b.finalized.commands
    let n := b.finalized.firstFailure g connection executor.introspector commands s
    let passedOver := (commands.take n).filter fun c => !g.dialect.hasForm c
    ((∃ c ∈ b.definedColumns, c.Faulty) ∧ journal built.trace = []) ∨
    ((∀ c ∈ b.definedColumns, ¬ c.Faulty) ∧ ∃ ending,
      journal built.trace =
        (if connection.tablePrefix = g.tablePrefix then [] else
          [⟨.warn, "Table prefix differs between connection and grammar, using the grammar's",
            [("connection_prefix", .text connection.tablePrefix),
             ("grammar_prefix", .text g.tablePrefix)]⟩]) ++
        [⟨.debug, "Compiling blueprint",
          [("table", .text b.table), ("dialect", .tag g.dialect.name),
           ("commands", .text (toString commands.length))]⟩] ++
        passedOver.map (fun c =>
          ⟨.trace, "No compiler for command, skipping", [("command", .tag c.name)]⟩) ++
        handed.map (fun sql => ⟨.debug, "Executing SQL", [("sql", .text sql)]⟩) ++ ending ∧
      match compiled.result with
      | .error e =>
          (b.finalized.results g connection executor.introspector commands s)[n]? =
              some (.error e) ∧
            handed = [] ∧ built.result = .error e ∧ ending = []
      | .ok statements =>
          n = commands.length ∧
            executor.Ends b.table compiled.state statements handed built.result ending) := by
  intro compiled built handed commands n passedOver
  cases hfault : b.fault? with
  | some found =>
      obtain ⟨hfaulty, hjournal⟩ := journal_of_fault hfault connection g executor s
      exact .inl ⟨hfaulty, hjournal⟩
  | none =>
      have hopening : journal compiled.trace = _ := journal_compile hfault s
      rw [announcements_records] at hopening
      have hfirst := compile_firstFailure g connection executor.introspector hfault s
      refine .inr ⟨fault?_eq_none_iff.mp hfault, ?_⟩
      cases h : (b.compile g connection executor.introspector s).result with
      | error e =>
          obtain ⟨hjournal, hhanded, hresult⟩ := journal_build_of_error h
          have hnone : handed = [] := hhanded
          rw [h] at hfirst
          refine ⟨[], ?_, hfirst, hnone, hresult, rfl⟩
          rw [hnone, List.map_nil, List.append_nil, List.append_nil]
          exact hjournal.trans hopening
      | ok statements =>
          obtain ⟨ending, hjournal, hends⟩ := journal_build_of_ok h
          rw [h] at hfirst
          exact ⟨ending, hjournal.trans (congrArg (· ++ _ ++ ending) hopening), hfirst, hends⟩

/-- The change to a column is passed over, and the statement after the refused one is not handed
over. -/
example :
    let script : Script := { failures := [("drop table if exists \"app_users\"", "locked")] }
    let g : Grammar := { dialect := .postgres, tablePrefix := "app_" }
    let b := ofSteps "users" [.drop, .modifyNullable "name" true, .dropIfExists, .rename "people"]
    let built := b.build { dialect := .postgres } g (script.executor : Executor Unit) ()
    (journal built.trace).map (fun r => (r.level, r.message)) =
      [(.warn, "Table prefix differs between connection and grammar, using the grammar's"),
       (.debug, "Compiling blueprint"), (.trace, "No compiler for command, skipping"),
       (.debug, "Executing SQL"), (.debug, "Executing SQL"), (.warn, "Statement failed")] := by
  decide +kernel

end Blueprint
end TableDdl
