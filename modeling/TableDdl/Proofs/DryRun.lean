/-
What a dry run prints, and what it leaves alone.

An executor that prints runs a statement by printing it (`Executor.Prints`), so a run prints the
statements it would have handed over, all of them, since none is refused.  Compiling prints nothing,
as neither the compiler nor the introspector of SQLite shows more than log records.  Hence a change
prints what its preview compiles to, or it prints nothing and fails as the preview does.

SQLite is opened even in a dry run, for the introspector needs it.  That no statement is sent to it
is said by putting any other function in the place of the one that sends statements: the session
stays the same.
-/
import TableDdl.CommandLine.Session
import TableDdl.Proofs.Build
import TableDdl.Proofs.Profile

namespace TableDdl

variable {σ : Type}

/-! ## Lines of text -/

/-- The line of text, leaving log records aside. -/
def Output.line? : Output → Option String
  | line text => some text
  | event _ => none

def Activity.line? (t : Activity) : Option String := t.output?.bind Output.line?

/-- The lines printed in the course of a trace. -/
def printedLines (trace : List Activity) : List String := trace.filterMap Activity.line?

theorem printedLines_append (t u : List Activity) :
    printedLines (t ++ u) = printedLines t ++ printedLines u :=
  List.filterMap_append

theorem printedLines_eq_nil {trace : List Activity} (h : ∀ t ∈ trace, t.line? = none) :
    printedLines trace = [] :=
  List.filterMap_eq_nil_iff.mpr h

/-- The introspector shows nothing but log records. -/
def Introspector.Silent (i : Introspector σ) : Prop := ∀ o, i.Says o → o.line? = none

theorem Blueprint.compile_printedLines (b : Blueprint) (g : Grammar) (connection : Connection)
    {i : Option (Introspector σ)} (h : ∀ j ∈ i, j.Silent) (s : σ) :
    printedLines (b.compile g connection i s).trace = [] := by
  refine printedLines_eq_nil fun t ht => ?_
  cases b.compile_leaves g connection i s t ht with
  | output o ho =>
      obtain ⟨j, hj, hsays⟩ := ho
      exact h j hj o hsays
  | announced | skipped | described | altered => rfl

/-! ## Executors that print -/

/-- Every statement is printed with a semicolon behind it, and nothing else is done with it. -/
def Executor.Prints (executor : Executor σ) : Prop :=
  ∀ sql s, executor.execute sql s = ⟨.ok (), [.line (sql ++ ";")], s⟩

theorem Executor.printer_prints : (Executor.printer : Executor σ).Prints := fun _ _ => rfl

namespace SqliteConnection

variable (c : SqliteConnection σ)

theorem executor_prints : (c.executor true).Prints := fun _ _ => rfl

/-- A request of the connection leaves nothing of its own in the trace. -/
theorem ask_leaves {α : Type} {P : Output → Prop} (request : σ → Except String α × σ)
    (error : String → SchemaError) : (ask request error).Leaves P :=
  fun _ _ ht => absurd ht List.not_mem_nil

theorem describe_leaves (table : String) :
    (c.describe table).Leaves fun o => o.line? = none := by
  refine Run.leaves_bind (Run.leaves_note rfl) fun _ => Run.leaves_bind (ask_leaves _ _) ?_
  intro columns
  split
  · exact Run.leaves_fail _
  · exact Run.leaves_pure _

theorem indexesOnAll_leaves {P : Output → Prop} (table : String) (columns : List String) :
    (c.indexesOnAll table columns).Leaves P := by
  induction columns with
  | nil => exact Run.leaves_pure []
  | cons column rest ih =>
      exact Run.leaves_bind (ask_leaves _ _) fun _ => Run.leaves_bind ih fun _ => Run.leaves_pure _

theorem alter_leaves (diff : TableDiff) : (c.alter diff).Leaves fun o => o.line? = none :=
  Run.leaves_bind (c.indexesOnAll_leaves _ _) fun _ => Run.leaves_pure _

theorem introspector_silent : c.introspector.Silent := by
  rintro o (⟨table, s, ho⟩ | ⟨diff, s, ho⟩)
  · exact c.describe_leaves table s o ho
  · exact c.alter_leaves diff s o ho

end SqliteConnection

/-- The statements foreseen were printed in order and the run succeeded, or nothing was printed and
it failed as foreseen. -/
def Foretells (foreseen : Except SchemaError (List String)) (ran : Outcome Activity σ Unit) :
    Prop :=
  match foreseen with
  | .ok sql => printedLines ran.trace = sql.map (· ++ ";") ∧ ran.result = .ok ()
  | .error e => printedLines ran.trace = [] ∧ ran.result = .error e

namespace Blueprint

variable {executor : Executor σ}

theorem execute_prints (h : executor.Prints) (table : String) (statements : List String) (s : σ) :
    printedLines (execute table executor statements s).trace = statements.map (· ++ ";") ∧
      (execute table executor statements s).result = .ok () := by
  induction statements with
  | nil => exact ⟨rfl, rfl⟩
  | cons sql rest ih =>
      have hprinted := h sql s
      have hok : (executor.execute sql s).result = .ok () := by rw [hprinted]
      rw [execute_cons_of_ok hok, hprinted]
      exact ⟨congrArg ((sql ++ ";") :: ·) ih.1, ih.2⟩

theorem build_foretold (b : Blueprint) (connection : Connection) (g : Grammar)
    (hprints : executor.Prints) (hsilent : ∀ i ∈ executor.introspector, i.Silent) (s : σ) :
    Foretells (b.compile g connection executor.introspector s).result
      (b.build connection g executor s) := by
  have hlines := b.compile_printedLines g connection hsilent s
  cases h : (b.compile g connection executor.introspector s).result with
  | error e =>
      rw [build_of_error h]
      exact ⟨hlines, rfl⟩
  | ok sql =>
      obtain ⟨hprinted, hresult⟩ := execute_prints hprints b.table sql
        (b.compile g connection executor.introspector s).state
      rw [build_of_ok h]
      refine ⟨?_, hresult⟩
      rw [printedLines_append, hlines, hprinted, List.nil_append]

end Blueprint

/-! ## Statements that are not sent -/

namespace SqliteConnection

/-- The connection with another way to send statements. -/
def withExecute (c : SqliteConnection σ) (execute : String → σ → Except String Unit × σ) :
    SqliteConnection σ :=
  { c with execute }

variable (c : SqliteConnection σ) (execute : String → σ → Except String Unit × σ)

theorem indexesOnAll_withExecute (table : String) (columns : List String) :
    (c.withExecute execute).indexesOnAll table columns = c.indexesOnAll table columns := by
  induction columns with
  | nil => rfl
  | cons column rest ih =>
      simp only [indexesOnAll, ih]
      rfl

theorem introspector_withExecute : (c.withExecute execute).introspector = c.introspector := by
  have halter : (c.withExecute execute).alter = c.alter := by
    funext diff
    unfold alter
    rw [indexesOnAll_withExecute]
  unfold introspector
  rw [halter]
  rfl

/-- A dry run has no use for the way statements are sent. -/
theorem executor_withExecute : (c.withExecute execute).executor true = c.executor true := by
  unfold executor
  rw [introspector_withExecute]
  rfl

end SqliteConnection

/-- The connector with another way to send statements to the databases it opens. -/
def Connector.withExecute (connect : Connector σ)
    (execute : String → σ → Except String Unit × σ) : Connector σ := fun url s =>
  match connect url s with
  | (.ok database, s') => (.ok (database.withExecute execute), s')
  | (.error fault, s') => (.error fault, s')

/-! ## Tasks -/

namespace CommandLine

/-- What a task comes to: a change to a table in one step, or a query and the record of the answer
when the query has no rows. -/
inductive Intent where
  | change (table : String) (step : Step)
  | question (query : Query) (denied : Event)

def Task.intent (connection : Connection) : Task → Intent
  | drop table => .change table .drop
  | dropIfExists table => .change table .dropIfExists
  | rename old new => .change old (.rename new)
  | hasTable table =>
      .question (connection.grammar.tableQuery table connection.database) (.tableExists table false)
  | hasColumn table column =>
      .question (connection.grammar.columnQuery table connection.database)
        (.columnExists table column false)
  | dropColumns table columns => .change table (.dropColumn columns)
  | renameColumn table old new => .change table (.renameColumn old new)

namespace Task

variable {schema : Schema σ} {task : Task} {table : String} {step : Step}

/-- A change is logged, and then run like any other blueprint. -/
theorem run_of_change (h : task.intent schema.connection = .change table step) :
    ∃ e, task.run schema = log e >>= fun _ => schema.run (Blueprint.ofSteps table [step]) := by
  cases task <;> cases h <;> exact ⟨_, rfl⟩

theorem run_foretold (hprints : schema.executor.Prints)
    (hsilent : ∀ i ∈ schema.executor.introspector, i.Silent)
    (h : task.intent schema.connection = .change table step) (s : σ) :
    Foretells (schema.preview table [step] s).result (task.run schema s) := by
  obtain ⟨e, hrun⟩ := run_of_change h
  rw [hrun, Run.bind_ok (log_apply e s)]
  exact (Blueprint.ofSteps table [step]).build_foretold _ _ hprints hsilent s

/-- A printer has no rows for a query, so the answer is no. -/
theorem run_printer_of_question {connection : Connection} {query : Query} {denied : Event}
    (h : task.intent connection = .question query denied) (s : σ) :
    task.run ⟨connection, Executor.printer⟩ s =
      ⟨.ok (), [.queried query.sql query.bindings,
        .output (.line (printedQuery query.sql query.bindings)), .event denied], s⟩ := by
  cases task <;> cases h <;> rfl

/-- Outside SQLite every lookup has marks to fill in. -/
theorem bindings_ne_nil {connection : Connection} {query : Query} {denied : Event}
    (hd : connection.dialect ≠ .sqlite) (h : task.intent connection = .question query denied) :
    query.bindings ≠ [] := by
  obtain ⟨d, charset, collation, database, tablePrefix⟩ := connection
  cases task <;> cases h <;> cases d <;> first | exact absurd rfl hd | exact List.cons_ne_nil _ _

end Task

/-! ## Sessions -/

namespace Session

/-- The lines a session prints, its log left aside. -/
def lines (session : Session σ) : List String := session.shown.filterMap Output.line?

/-- The statements foreseen are printed, each with a semicolon behind it, and the session succeeds,
or nothing is printed and it fails as foreseen. -/
def Prints (session : Session σ) (foreseen : Except SchemaError (List String)) : Prop :=
  match foreseen with
  | .ok sql => session.lines = sql.map (· ++ ";") ∧ session.result = .ok ()
  | .error e => session.lines = [] ∧ session.result = .error (.setup (.schema e))

theorem lines_ofOutcome (before : List Event) (ran : Outcome Activity σ Unit) :
    (ofOutcome before ran).lines = printedLines ran.trace := by
  have hbefore : (before.map Output.event).filterMap Output.line? = [] := by
    rw [List.filterMap_map]
    exact List.filterMap_eq_nil_iff.mpr fun _ _ => rfl
  show (_ ++ _ : List Output).filterMap Output.line? = _
  rw [List.filterMap_append, hbefore, List.nil_append, List.filterMap_filterMap]
  rfl

theorem prints_ofOutcome {foreseen : Except SchemaError (List String)}
    {ran : Outcome Activity σ Unit} (h : Foretells foreseen ran) (before : List Event) :
    (ofOutcome before ran).Prints foreseen := by
  have hlines := lines_ofOutcome before ran
  cases foreseen with
  | ok sql => exact ⟨hlines.trans h.1, by rw [ofOutcome, h.2]; rfl⟩
  | error e => exact ⟨hlines.trans h.1, by rw [ofOutcome, h.2]; rfl⟩

end Session

namespace Invocation

/-- The configuration loads, and has the profile asked for. -/
def Finds (i : Invocation) (read : String → Option String) (p : Profile) : Prop :=
  ∃ document c, read i.config = some document ∧ Config.parse document = .ok c ∧
    c.profile i.profile = .ok p

variable {i : Invocation} {read : String → Option String} {p : Profile} {connection : Connection}

section Found

variable (h : i.Finds read p) (hp : p.connection = .ok connection)
include h hp

theorem session_of_printer (hd : connection.dialect ≠ .sqlite) (hdry : i.dryRun = true)
    (connect : Connector σ) (s : σ) :
    i.session read connect s =
      .ofOutcome [.dryRun] (i.task.run ⟨connection, Executor.printer⟩ s) := by
  obtain ⟨document, c, hread, hparse, hprofile⟩ := h
  simp only [session, perform, hread, hparse, hprofile, hp, if_neg hd, hdry, if_true]

theorem session_of_not_supported (hd : connection.dialect ≠ .sqlite) (hdry : i.dryRun = false)
    (connect : Connector σ) (s : σ) :
    i.session read connect s = .failed (.notSupported connection.dialect) s := by
  obtain ⟨document, c, hread, hparse, hprofile⟩ := h
  simp only [session, perform, hread, hparse, hprofile, hp, if_neg hd, hdry, Bool.false_eq_true,
    if_false]

theorem session_of_connected (hd : connection.dialect = .sqlite) {connect : Connector σ} {s s' : σ}
    {database : SqliteConnection σ} (hconnect : connect p.url s = (.ok database, s')) :
    i.session read connect s =
      .ofOutcome [.connected p.url]
        (i.task.run ⟨connection, database.executor i.dryRun⟩ s') := by
  obtain ⟨document, c, hread, hparse, hprofile⟩ := h
  simp only [session, perform, hread, hparse, hprofile, hp, if_pos hd, hconnect]

theorem session_of_refused (hd : connection.dialect = .sqlite) {connect : Connector σ} {s s' : σ}
    {fault : ConnectFault} (hconnect : connect p.url s = (.error fault, s')) :
    i.session read connect s = .failed (.setup fault.error) s' := by
  obtain ⟨document, c, hread, hparse, hprofile⟩ := h
  simp only [session, perform, hread, hparse, hprofile, hp, if_pos hd, hconnect]

theorem session_withExecute (hd : connection.dialect = .sqlite) (hdry : i.dryRun = true)
    (connect : Connector σ) (execute : String → σ → Except String Unit × σ) (s : σ) :
    i.session read (connect.withExecute execute) s = i.session read connect s := by
  cases hconnect : connect p.url s with
  | mk opened s' =>
      cases opened with
      | ok database =>
          have hwith : connect.withExecute execute p.url s =
              (.ok (database.withExecute execute), s') := by
            simp only [Connector.withExecute, hconnect]
          rw [session_of_connected h hp hd hconnect, session_of_connected h hp hd hwith, hdry,
            database.executor_withExecute]
      | error fault =>
          have hwith : connect.withExecute execute p.url s = (.error fault, s') := by
            simp only [Connector.withExecute, hconnect]
          rw [session_of_refused h hp hd hconnect, session_of_refused h hp hd hwith]

end Found

/-- In a dry run of a dialect without a database, a change prints what its preview says and a
question prints its query.  Without a dry run there is nothing but the error.  A dry run of SQLite
prints likewise, and does not depend on how the database would run statements. -/
theorem session_prints (h : i.Finds read p) (connect : Connector σ) (s : σ) :
    ∃ connection, p.connection = .ok connection ∧
      let session := i.session read connect s
      let intent := i.task.intent connection
      (connection.dialect ≠ .sqlite → i.dryRun = true →
        (∀ other : Connector σ, i.session read other s = session) ∧
          match intent with
          | .change table step =>
              session.Prints (Schema.preview ⟨connection, Executor.printer⟩ table [step] s).result
          | .question query denied =>
              session.shown =
                  [.event .dryRun, .line (query.sql ++ "; -- " ++ ", ".intercalate query.bindings),
                   .event denied] ∧
                session.result = .ok ()) ∧
      (connection.dialect ≠ .sqlite → i.dryRun = false →
        session = .failed (.notSupported connection.dialect) s) ∧
      (connection.dialect = .sqlite → i.dryRun = true →
        (∀ execute, i.session read (connect.withExecute execute) s = session) ∧
          ∀ database s', connect p.url s = (.ok database, s') →
            ∀ table step, intent = .change table step →
              session.Prints
                (Schema.preview ⟨connection, database.executor true⟩ table [step] s').result) := by
  obtain ⟨connection, husable⟩ : ∃ connection, p.Usable connection := by
    obtain ⟨_, _, -, hparse, hprofile⟩ := h
    exact Config.exists_usable_of_parse hparse hprofile
  have hp := husable.connects
  refine ⟨connection, hp, fun hd hdry => ?_, fun hd hdry => ?_, fun hd hdry => ?_⟩
  · have hsession := session_of_printer h hp hd hdry connect s
    refine ⟨fun other => (session_of_printer h hp hd hdry other s).trans hsession.symm, ?_⟩
    rw [hsession]
    cases hintent : i.task.intent connection with
    | change table step =>
        let schema : Schema σ := ⟨connection, Executor.printer⟩
        have hforetold : Foretells (schema.preview table [step] s).result (i.task.run schema s) :=
          Task.run_foretold Executor.printer_prints
            (fun j hj => absurd hj (Option.not_mem_none j)) hintent s
        exact Session.prints_ofOutcome hforetold _
    | question query denied =>
        rw [Task.run_printer_of_question hintent, printedQuery,
          if_neg (by simpa using Task.bindings_ne_nil hd hintent)]
        exact ⟨rfl, rfl⟩
  · exact session_of_not_supported h hp hd hdry connect s
  · refine ⟨fun execute => session_withExecute h hp hd hdry connect execute s, ?_⟩
    intro database s' hconnect table step hintent
    let schema : Schema σ := ⟨connection, database.executor true⟩
    have hsilent : ∀ j ∈ schema.executor.introspector, j.Silent := fun j hj =>
      Option.some.inj hj ▸ database.introspector_silent
    have hforetold : Foretells (schema.preview table [step] s').result (i.task.run schema s') :=
      Task.run_foretold database.executor_prints hsilent hintent s'
    rw [session_of_connected h hp hd hconnect, hdry]
    exact Session.prints_ofOutcome hforetold _

/-- The values of the marks stand behind the query, and the answer is no.  Whether a database can be
connected to makes no difference. -/
theorem session_prints_users :
    let connect : Connector Nat := fun _ tried => (.error .refused, tried + 1)
    let p : Profile := { identifier := "mysql", url := "db.local", database := some "app" }
    let c : Config := { profiles := NameMap.ofList [("default", p)] }
    let i : Invocation := ⟨"database.json", none, false, true, .hasTable "users"⟩
    let read := fun (_ : String) => some c.serialize
    i.Finds read p ∧
      (i.session read connect 0).shown =
        [.event .dryRun,
         .line ("select * from information_schema.tables " ++
           "where table_schema = ? and table_name = ?; -- app, users"),
         .event (.tableExists "users" false)] := by
  intro connect p c i read
  have hsound : c.fault? = none := by decide +kernel
  have hprofile : c.profile none = .ok p := Config.profile_eq_ok_iff.mpr (by decide +kernel)
  have hparse : Config.parse c.serialize = .ok c := Config.parse_of_sound c.read_serialize hsound
  have hfinds : i.Finds read p := ⟨_, c, rfl, hparse, hprofile⟩
  obtain ⟨connection, hconnection, hprinter, -⟩ := session_prints hfinds connect 0
  have hmysql : p.connection = .ok { dialect := .mysql, database := some "app" } :=
    ok_of_toOption (by decide +kernel)
  rw [hmysql] at hconnection
  cases hconnection
  refine ⟨hfinds, (hprinter (by decide) rfl).2.1.trans ?_⟩
  decide +kernel

end Invocation

end CommandLine
end TableDdl
