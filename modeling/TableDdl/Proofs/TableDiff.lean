/-
The diffs that are handed to an introspector.

An alteration hands over one diff, made from the columns as they were described: a rename carries
the first column of the old name under its new one, a drop the first column of each name in the
order asked for.  When a name has no column, or the table could not be described, it hands over
nothing and the compilation ends there (`compile_diffs`).
-/
import TableDdl.Database.Scripted
import TableDdl.Proofs.First
import TableDdl.Proofs.Visit

namespace TableDdl

variable {σ : Type}

def Activity.diff? : Activity → Option TableDiff
  | altered diff => some diff
  | _ => none

/-- The diffs handed over in the course of a trace, in order. -/
def diffs (trace : List Activity) : List TableDiff := trace.filterMap Activity.diff?

/-- To hand over a diff is to ask a question. -/
theorem diffs_asked (trace : List Activity) : diffs (asked trace) = diffs trace := by
  unfold diffs asked
  rw [List.filterMap_filter]
  congr 1
  funext t
  cases t <;> rfl

/-! ## What an alteration requests -/

namespace LiveColumn

variable {columns : List LiveColumn} {name : String}

theorem missing_iff : missing columns name = true ↔ ∀ c ∈ columns, c.name ≠ name := by
  simp [missing]

theorem find?_eq_some_iff {c : LiveColumn} :
    columns.find? (·.name == name) = some c ↔ First (fun c => c.name = name) columns c := by
  rw [find?_eq_some_iff_first]
  simp only [beq_iff_eq]

theorem find?_missing_eq_some_iff {names : List String} :
    names.find? (missing columns) = some name ↔
      First (fun n => ∀ c ∈ columns, c.name ≠ n) names name := by
  rw [find?_eq_some_iff_first]
  simp only [missing_iff]

theorem found_names {names : List String} (h : ∀ n ∈ names, ∃ c ∈ columns, c.name = n) :
    (found columns names).map Prod.fst = names := by
  induction names with
  | nil => rfl
  | cons name rest ih =>
      obtain ⟨c, hc⟩ := exists_first_iff.mpr (h name List.mem_cons_self)
      have hrest := ih fun n hn => h n (List.mem_cons_of_mem name hn)
      simp only [found] at hrest ⊢
      simp [find?_eq_some_iff.mpr hc, hrest]

theorem first_of_mem_found {names : List String} {pair : String × LiveColumn}
    (h : pair ∈ found columns names) : First (fun c => c.name = pair.1) columns pair.2 := by
  obtain ⟨name, -, heq⟩ := List.mem_filterMap.mp h
  obtain ⟨c, hc, rfl⟩ := Option.map_eq_some_iff.mp heq
  exact find?_eq_some_iff.mp hc

end LiveColumn

namespace Alteration

/-- The diff that an alteration of a table with these columns asks for. -/
inductive Requests (table : String) (columns : List LiveColumn) : Alteration → TableDiff → Prop
  | rename (old new : String) (c : LiveColumn) (h : First (fun c => c.name = old) columns c) :
      Requests table columns (.rename old new)
        { table, columns, renamed := [(old, { c with name := new })], removed := [] }
  | drop (names : List String) (removed : List (String × LiveColumn))
      (hnames : removed.map Prod.fst = names)
      (h : ∀ pair ∈ removed, First (fun c => c.name = pair.1) columns pair.2) :
      Requests table columns (.drop names) { table, columns, renamed := [], removed }

theorem requests_diff (table : String) {columns : List LiveColumn} {a : Alteration}
    (h : ∀ n ∈ a.names, ∃ c ∈ columns, c.name = n) :
    a.Requests table columns (a.diff table columns (LiveColumn.found columns a.names)) := by
  cases a with
  | rename old new =>
      obtain ⟨c, hc⟩ := exists_first_iff.mpr (h old List.mem_cons_self)
      have hfound : LiveColumn.found columns [old] = [(old, c)] := by
        simp [LiveColumn.found, LiveColumn.find?_eq_some_iff.mpr hc]
      show Requests _ _ _ (diff _ _ (LiveColumn.found columns [old]) _)
      rw [hfound]
      exact .rename old new c hc
  | drop names =>
      exact .drop names _ (LiveColumn.found_names h) fun _ => LiveColumn.first_of_mem_found

/-- What becomes of an alteration when the table is described like this. -/
structure Handled (i : Introspector σ) (described : Except SchemaError (List LiveColumn))
    (table : String) (a : Alteration) (outcome : Outcome Activity σ (List String)) : Prop where
  undescribed : ∀ e, described = .error e → outcome.result = .error e ∧ diffs outcome.trace = []
  missing : ∀ columns name, described = .ok columns →
    First (fun n => ∀ c ∈ columns, c.name ≠ n) a.names name →
      outcome.result = .error (.columnNotFound table name) ∧ diffs outcome.trace = []
  found : ∀ columns, described = .ok columns → (∀ n ∈ a.names, ∃ c ∈ columns, c.name = n) →
    ∃ diff s, a.Requests table columns diff ∧ diffs outcome.trace = [diff] ∧
      outcome.result = (i.alter diff s).result

theorem diffs_questions {columns : List LiveColumn} {table : String} {a : Alteration} :
    diffs (a.questions (.ok columns) table) =
      match a.names.find? (LiveColumn.missing columns) with
      | some _ => []
      | none => [a.diff table columns (LiveColumn.found columns a.names)] := by
  have hlookups : ∀ names : List String,
      diffs (names.map fun _ => .described table) = [] := fun names => by
    simp [diffs, Activity.diff?]
  show diffs (.described table :: (_ ++ _)) = _
  rw [diffs, List.filterMap_cons_none rfl, List.filterMap_append]
  cases a.names.find? (LiveColumn.missing columns) with
  | some name => exact congrArg (· ++ []) (hlookups _)
  | none => exact congrArg (· ++ [_]) (hlookups _)

theorem statements_handled {g : Grammar} {b : Blueprint} {i : Introspector σ}
    {described : Except SchemaError (List LiveColumn)}
    (h : ∀ s, (i.describe (g.tableName b.table) s).result = described) (a : Alteration) (s : σ) :
    a.Handled i described (g.tableName b.table) (a.statements g b i s) := by
  obtain ⟨hasked, s', hresult⟩ := a.statements_of_described h s
  refine ⟨?_, ?_, ?_⟩
  · rintro e rfl
    rw [← diffs_asked, hasked, hresult]
    exact ⟨rfl, rfl⟩
  · rintro columns name rfl hname
    have hfind := LiveColumn.find?_missing_eq_some_iff.mpr hname
    rw [← diffs_asked, hasked, hresult]
    refine ⟨?_, ?_⟩
    · simp only [answer, hfind]
    · rw [diffs_questions, hfind]
  · -- With a column for every name the search for a missing one fails, and the diff is handed over.
    rintro columns rfl hnames
    have hfind : a.names.find? (LiveColumn.missing columns) = none := by
      rw [List.find?_eq_none]
      intro n hn hmissing
      obtain ⟨c, hc, heq⟩ := hnames n hn
      exact LiveColumn.missing_iff.mp hmissing c hc heq
    rw [← diffs_asked, hasked, hresult]
    refine ⟨_, s', requests_diff _ hnames, ?_, ?_⟩
    · rw [diffs_questions, hfind]
    · simp only [answer, hfind]

end Alteration

namespace Blueprint

/-- All diffs are handed over by alterations that a compilation comes to.  Each hands over the one
diff that it requests, or none if the table cannot be described or lacks a column, and then it is
the last. -/
theorem compile_diffs {i : Introspector σ}
    {describe : String → Except SchemaError (List LiveColumn)}
    (h : ∀ table s, (i.describe table s).result = describe table)
    (b : Blueprint) (g : Grammar) (connection : Connection) (s : σ) :
    let compiled := b.compile g connection (some i) s
    let visits := b.visits g connection (some i) s
    let table := g.tablePrefix ++ b.table
    diffs compiled.trace = visits.flatMap (fun v => diffs v.outcome.trace) ∧
      Visit.InOrder b.finalized.commands compiled.result visits ∧
      ∀ v ∈ visits,
        match g.dialect.alteration? v.command with
        | some a => a.Handled i (describe table) table v.outcome
        | none => diffs v.outcome.trace = [] := by
  intro compiled visits table
  refine ⟨?_, b.visits_inOrder g connection (some i) s, fun v hv => ?_⟩
  · show diffs (b.compile g connection (some i) s).trace = _
    rw [← diffs_asked, compile_asked, diffs, List.filterMap_flatMap]
    congr 1
    funext v
    exact diffs_asked _
  · obtain ⟨s', houtcome⟩ := outcome_of_mem_visits b g connection (some i) hv
    rw [houtcome]
    cases ha : g.dialect.alteration? v.command with
    | some a =>
        rw [compileCommand_of_alteration ha]
        exact a.statements_handled (h table) s'
    | none =>
        show diffs _ = []
        rw [← diffs_asked, (compileCommand_of_no_alteration ha (some i) s').1]
        rfl

/-- Two columns share a name, the drop repeats one, and the last rename finds nothing. -/
theorem compile_diffs_users :
    let live : List LiveColumn :=
      [{ name := "id", nativeType := "integer" }, { name := "mail", nativeType := "text" },
       { name := "mail", nativeType := "varchar" }]
    let catalogue : Catalogue := { dialect := .sqlite, tables := [("app_users", live)] }
    let g : Grammar := { dialect := .sqlite, tablePrefix := "app_" }
    let connection : Connection := { dialect := .sqlite, tablePrefix := "app_" }
    let b := ofSteps "users"
      [.renameColumn "mail" "email", .dropIfExists, .dropColumn ["mail", "id", "mail"],
       .renameColumn "gone" "found", .renameColumn "id" "key"]
    let compiled := b.compile g connection (some catalogue.introspector) ()
    let mail : LiveColumn := { name := "mail", nativeType := "text" }
    let expected : List TableDiff :=
      [{ table := "app_users", columns := live, renamed := [("mail", mail.renamed "email")] },
       { table := "app_users", columns := live,
         removed := [("mail", mail), ("id", { name := "id", nativeType := "integer" }),
           ("mail", mail)] }]
    let visits := b.visits g connection (some catalogue.introspector) ()
    diffs compiled.trace = expected ∧
      compiled.result = .error (.columnNotFound "app_users" "gone") ∧
      visits.map Visit.command = b.commands.take 4 ∧
      visits.flatMap (fun v => diffs v.outcome.trace) = expected := by
  intro live catalogue g connection b compiled mail expected visits
  have hdiffs : diffs compiled.trace = expected := by decide +kernel
  have hdescribe : ∀ table s,
      ((catalogue.introspector : Introspector Unit).describe table s).result =
        catalogue.describe table := fun _ _ => rfl
  obtain ⟨htrace, -, -⟩ := compile_diffs hdescribe b g connection ()
  exact ⟨hdiffs, rfl, by decide +kernel, htrace.symm.trans hdiffs⟩

end Blueprint
end TableDdl
