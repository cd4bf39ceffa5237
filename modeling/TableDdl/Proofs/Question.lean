/-
The questions about the live table, and what becomes of an alteration.

An alteration asks for the columns of the table, then once more for each name that it looks up, and
then hands over a diff.  It stops at the first name that is missing.  If the table is described the
same way every time, what is asked is a function of that description, and so is the result up to
the answer to the diff (`Alteration.statements_of_described`).
-/
import TableDdl.Proofs.Compile

namespace TableDdl

variable {σ : Type}

namespace Activity

/-- Whether the live table was asked about: for its columns, or for the statements of a diff. -/
def asks : Activity → Bool
  | described _ | altered _ => true
  | _ => false

end Activity

/-- The questions in the course of a trace, in order. -/
def asked (trace : List Activity) : List Activity := trace.filter Activity.asks

theorem asked_append (t u : List Activity) : asked (t ++ u) = asked t ++ asked u :=
  List.filter_append _ _

theorem asked_outputs (outputs : List Output) : asked (outputs.map .output) = [] := by
  rw [asked, List.filter_eq_nil_iff]
  intro t ht
  obtain ⟨o, _, rfl⟩ := List.mem_map.mp ht
  exact Bool.false_ne_true

theorem asked_events (events : List Event) : asked (events.map .event) = [] := by
  rw [asked, List.filter_eq_nil_iff]
  intro t ht
  obtain ⟨e, _, rfl⟩ := List.mem_map.mp ht
  exact Bool.false_ne_true

/-! ## Looking up names -/

namespace LiveColumn

/-- Whether no column has this name. -/
def missing (columns : List LiveColumn) (name : String) : Bool :=
  (columns.find? (·.name == name)).isNone

/-- The names that have a column, each with the first one. -/
def found (columns : List LiveColumn) (names : List String) : List (String × LiveColumn) :=
  names.filterMap fun name => (columns.find? (·.name == name)).map (name, ·)

/-- The position of the first name without a column, or the number of names. -/
def firstMissing (columns : List LiveColumn) (names : List String) : Nat :=
  names.findIdx (missing columns)

end LiveColumn

namespace Introspector

variable {i : Introspector σ} {table : String} {columns : List LiveColumn}

theorem describeTable_asked (i : Introspector σ) (table : String) (s : σ) :
    asked (i.describeTable table s).trace = [.described table] :=
  congrArg (Activity.described table :: ·) (asked_outputs _)

theorem alterTable_asked (i : Introspector σ) (diff : TableDiff) (s : σ) :
    asked (i.alterTable diff s).trace = [.altered diff] :=
  congrArg (Activity.altered diff :: ·) (asked_outputs _)

variable (h : ∀ s, (i.describe table s).result = .ok columns)
include h

theorem column_of_described (name : String) (s : σ) :
    asked (i.column table name s).trace = [.described table] ∧
      (i.column table name s).result =
        match columns.find? (·.name == name) with
        | some column => .ok column
        | none => .error (.columnNotFound table name) := by
  have hdescribed : (i.describeTable table s).result = .ok columns := h s
  have hcolumn : i.column table name s = _ := Run.bind_of_ok hdescribed
  have hasked : asked ((i.describeTable table s).trace ++ []) = [.described table] := by
    rw [List.append_nil, describeTable_asked]
  rw [hcolumn]
  cases columns.find? (·.name == name) with
  | some column => exact ⟨hasked, rfl⟩
  | none => exact ⟨hasked, rfl⟩

/-- Names are looked up one by one until one is missing. -/
theorem columns_of_described (names : List String) (s : σ) :
    asked (i.columns table names s).trace =
        (names.take (LiveColumn.firstMissing columns names + 1)).map (fun _ => .described table) ∧
      (i.columns table names s).result =
        match names.find? (LiveColumn.missing columns) with
        | some name => .error (.columnNotFound table name)
        | none => .ok (LiveColumn.found columns names) := by
  induction names generalizing s with
  | nil => exact ⟨rfl, rfl⟩
  | cons name rest ih =>
      -- A name without a column ends the lookup.  Otherwise it goes on in whatever state was left,
      -- and the description is the same there.
      obtain ⟨hasked, hresult⟩ := column_of_described h name s
      unfold LiveColumn.firstMissing
      cases hfind : columns.find? (·.name == name) with
      | none =>
          have hmissing : LiveColumn.missing columns name = true := by
            rw [LiveColumn.missing, hfind]
            rfl
          rw [hfind] at hresult
          have hrun : i.columns table (name :: rest) s = _ := Run.bind_of_error hresult
          rw [hrun, List.findIdx_cons, List.find?_cons, hmissing]
          exact ⟨hasked, rfl⟩
      | some column =>
          have hmissing : LiveColumn.missing columns name = false := by
            rw [LiveColumn.missing, hfind]
            rfl
          rw [hfind] at hresult
          have hrun : i.columns table (name :: rest) s = _ := Run.bind_of_ok hresult
          obtain ⟨hrest, hothers⟩ := ih (i.column table name s).state
          rw [hrun, Run.bind_pure_apply, List.findIdx_cons, List.find?_cons, hmissing]
          refine ⟨?_, ?_⟩
          · show asked (_ ++ _) = _
            rw [asked_append, hasked, hrest]
            rfl
          · show Except.map _ (i.columns table rest _).result = _
            rw [hothers]
            cases rest.find? (LiveColumn.missing columns) with
            | some missing => rfl
            | none => simp [Except.map, LiveColumn.found, hfind]

end Introspector

namespace Alteration

/-- The names that the alteration looks up. -/
def names : Alteration → List String
  | rename old _ => [old]
  | drop columns => columns

/-- The diff that the alteration hands over when these columns were found under its names. -/
def diff (table : String) (columns : List LiveColumn) (found : List (String × LiveColumn)) :
    Alteration → TableDiff
  | rename _ new =>
      { table, columns, renamed := found.map fun (old, column) => (old, column.renamed new) }
  | drop _ => { table, columns, removed := found }

/-- What an alteration asks when the table is described like this. -/
def questions (described : Except SchemaError (List LiveColumn)) (table : String)
    (a : Alteration) : List Activity :=
  .described table ::
    match described with
    | .error _ => []
    | .ok columns =>
        (a.names.take (LiveColumn.firstMissing columns a.names + 1)).map
            (fun _ => .described table) ++
          (match a.names.find? (LiveColumn.missing columns) with
            | some _ => []
            | none => [.altered (a.diff table columns (LiveColumn.found columns a.names))])

/-- What an alteration comes to when the table is described like this, and the diff is answered like
that. -/
def answer (described : Except SchemaError (List LiveColumn))
    (alter : TableDiff → Except SchemaError (List String)) (table : String) (a : Alteration) :
    Except SchemaError (List String) :=
  match described with
  | .error e => .error e
  | .ok columns =>
      match a.names.find? (LiveColumn.missing columns) with
      | some name => .error (.columnNotFound table name)
      | none => alter (a.diff table columns (LiveColumn.found columns a.names))

/-- Renaming a column is looking up one name, dropping columns is looking up theirs. -/
theorem statements_eq (g : Grammar) (b : Blueprint) (i : Introspector σ) (a : Alteration) :
    a.statements g b i =
      i.describeTable (g.tableName b.table) >>= fun columns =>
        i.columns (g.tableName b.table) a.names >>= fun found =>
          i.alterTable (a.diff (g.tableName b.table) columns found) := by
  cases a with
  | rename old new =>
      unfold statements names Introspector.columns Introspector.columns
      simp only [Grammar.diff_bind, bind_assoc, pure_bind]
      rfl
  | drop columns =>
      unfold statements names
      simp only [Grammar.diff_bind]
      rfl

theorem statements_of_described {g : Grammar} {b : Blueprint} {i : Introspector σ}
    {described : Except SchemaError (List LiveColumn)}
    (h : ∀ s, (i.describe (g.tableName b.table) s).result = described) (a : Alteration) (s : σ) :
    asked (a.statements g b i s).trace = a.questions described (g.tableName b.table) ∧
      ∃ s', (a.statements g b i s).result =
        a.answer described (fun diff => (i.alter diff s').result) (g.tableName b.table) := by
  have hdescribed : (i.describeTable (g.tableName b.table) s).result = described := h s
  rw [statements_eq]
  cases described with
  | error e =>
      rw [Run.bind_of_error hdescribed]
      exact ⟨i.describeTable_asked _ s, s, rfl⟩
  | ok columns =>
      let before := (i.describeTable (g.tableName b.table) s).state
      let after := (i.columns (g.tableName b.table) a.names before).state
      obtain ⟨hasked, hresult⟩ := i.columns_of_described h a.names before
      rw [Run.bind_of_ok hdescribed]
      cases hfind : a.names.find? (LiveColumn.missing columns) with
      | some name =>
          rw [hfind] at hresult
          rw [Run.bind_of_error hresult]
          refine ⟨?_, s, ?_⟩
          · rw [asked_append, i.describeTable_asked, hasked]
            simp [questions, hfind]
          · simp [answer, hfind]
      | none =>
          rw [hfind] at hresult
          rw [Run.bind_of_ok hresult]
          refine ⟨?_, after, ?_⟩
          · rw [asked_append, asked_append, i.describeTable_asked, hasked, i.alterTable_asked]
            simp [questions, hfind]
          · simp only [answer, hfind]
            rfl

end Alteration

/-! ## Commands -/

/-- What a command asks in a dialect when the table is described like this. -/
def Command.questions (d : Dialect) (described : Except SchemaError (List LiveColumn))
    (table : String) (c : Command) : List Activity :=
  match d.alteration? c with
  | some a => a.questions described table
  | none => []

namespace Blueprint

variable {b : Blueprint} {g : Grammar} {connection : Connection} {c : Command}

theorem compileCommand_of_alteration {a : Alteration} (h : g.dialect.alteration? c = some a)
    (i : Introspector σ) :
    b.compileCommand g connection (some i) c = a.statements g b i := by
  have hplan := g.plan_alteration? connection b c
  rw [h] at hplan
  unfold compileCommand
  cases hc : g.plan connection b c with
  | alteration a' =>
      rw [hc] at hplan
      cases hplan
      rfl
  | unsupported | statements _ =>
      rw [hc] at hplan
      cases hplan

/-- A command that is no alteration compiles without a question, whoever there is to be asked. -/
theorem compileCommand_of_no_alteration (h : g.dialect.alteration? c = none)
    (i : Option (Introspector σ)) (s : σ) :
    asked (b.compileCommand g connection i c s).trace = [] ∧
      (b.compileCommand g connection i c s).result = .ok (g.plan connection b c).emitted := by
  have hplan := g.plan_alteration? connection b c
  rw [h] at hplan
  unfold compileCommand
  cases hc : g.plan connection b c with
  | alteration a =>
      rw [hc] at hplan
      cases hplan
  | unsupported | statements _ => exact ⟨rfl, rfl⟩

theorem compileCommand_asked {i : Introspector σ}
    {described : Except SchemaError (List LiveColumn)}
    (h : ∀ s, (i.describe (g.tableName b.table) s).result = described) (c : Command) (s : σ) :
    asked (b.compileCommand g connection (some i) c s).trace =
      c.questions g.dialect described (g.tableName b.table) := by
  unfold Command.questions
  cases hc : g.dialect.alteration? c with
  | none => exact (compileCommand_of_no_alteration hc _ s).1
  | some a =>
      rw [compileCommand_of_alteration hc]
      exact (a.statements_of_described h s).1

end Blueprint
end TableDdl
