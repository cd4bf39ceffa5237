/-
Commands that are passed over.

A dialect passes over the commands it has no form for, and SQLite over the keys of a blueprint that
creates no table.  To leave any of them out of a blueprint that can be compiled changes the log and
nothing else: the result, the questions about the live table and the state stay as they are,
wherever the commands stood (`compile_leavesOut`).

Such a command does nothing at its own place.  It might still count at another: the check looks at
the columns of `modify_column`, finalizing looks for a `create`, and a table definition in SQLite
looks at all keys.
-/
import TableDdl.Database.Scripted
import TableDdl.Proofs.PreviewError
import TableDdl.Proofs.Sequence

namespace TableDdl

variable {σ : Type}

namespace Blueprint

def withCommands (b : Blueprint) (commands : List Command) : Blueprint := { b with commands }

/-- Whether the command becomes no statement and no part of one. -/
inductive PassesOver (b : Blueprint) (d : Dialect) : Command → Prop
  | noForm {c : Command} (h : d.hasForm c = false) : PassesOver b d c
  | key {c : Command} (h : d.inlinesKey c = true) (hcreate : Command.create ∉ b.commands) :
      PassesOver b d c

variable {b : Blueprint} {d : Dialect} {g : Grammar} {commands : List Command}
  {connection : Connection} {i : Option (Introspector σ)}

theorem not_passesOver_create : ¬ b.PassesOver d .create := by
  rintro (h | ⟨h, -⟩) <;> cases h

theorem PassesOver.no_form {c : Command} (h : b.PassesOver d c)
    (hcreate : Command.create ∈ b.commands) : d.hasForm c = false := by
  cases h with
  | noForm h => exact h
  | key _ hnot => exact absurd hcreate hnot

theorem unlogged_compileCommand_of_passesOver {b' : Blueprint} {c : Command}
    (h : b.PassesOver g.dialect c) :
    (b'.compileCommand g connection i c).unlogged = Pure.pure [] := by
  cases h with
  | noForm h => exact unlogged_compileCommand_of_no_form h
  | key h _ => rw [compileCommand_of_inlinesKey h, Run.unlogged_pure]

/-! ## Fewer commands -/

section

variable (h : LeavesOut (b.PassesOver d) b.commands commands)
include h

theorem definedColumns_leavesOut :
    (b.withCommands commands).definedColumns ⊆ b.definedColumns := by
  intro c hc
  rcases List.mem_append.mp hc with hc | hc
  · exact List.mem_append_left _ hc
  · obtain ⟨command, hcommand, hmodified⟩ := List.mem_filterMap.mp hc
    exact List.mem_append_right _ (List.mem_filterMap.mpr ⟨command, h.subset hcommand, hmodified⟩)

theorem finalized_leavesOut :
    LeavesOut (b.PassesOver d) b.finalized.commands
      (b.withCommands commands).finalized.commands := by
  have hadd : (b.withCommands commands).impliedAdd = b.impliedAdd :=
    impliedAdd_congr rfl (h.mem_iff not_passesOver_create)
  have himplied : LeavesOut (b.PassesOver d) b.impliedAdd
      (b.withCommands commands).impliedAdd := by
    rw [hadd]
    exact .refl b.impliedAdd
  exact (himplied.append h).append (.refl (b.columns.filterMap b.impliedIndex?))

end

/-- What is left has the same plans.  Only `create` looks at other commands, and where it stands
those that are left out are no keys. -/
theorem plan_leavesOut (h : LeavesOut (b.PassesOver g.dialect) b.commands commands) {c : Command}
    (hc : c ∈ (b.withCommands commands).finalized.commands) :
    g.plan connection (b.withCommands commands).finalized c =
      g.plan connection b.finalized c := by
  have htable : (b.withCommands commands).finalized.table = b.finalized.table := rfl
  have hdefinitions : g.definitions (b.withCommands commands).finalized =
      g.definitions b.finalized := rfl
  by_cases hcreate : c = .create
  · subst hcreate
    have hkept : Command.create ∈ commands :=
      (mem_finalized_iff (by decide) fun _ _ => by simp).mp hc
    have hnoForm : ∀ c, b.PassesOver g.dialect c → g.dialect.hasForm c = false :=
      fun c hover => hover.no_form (h.subset hkept)
    have hforeign : ∀ c, b.PassesOver g.dialect c → c.foreignKey? = none := by
      intro c hover
      have hform := hnoForm c hover
      cases c with
      | foreign key => cases hform
      | _ => rfl
    have hprimary : ∀ c, b.PassesOver g.dialect c → c.primaryKey? = none := by
      intro c hover
      have hform := hnoForm c hover
      cases c with
      | index kind key => cases hform
      | _ => rfl
    have hfinalized := finalized_leavesOut h
    exact Grammar.plan_congr (.of_keys htable hdefinitions (fun _ => rfl)
      (hfinalized.filterMap_eq hforeign) (hfinalized.filterMap_eq hprimary)) .create
  · exact Grammar.plan_congr_of_ne_create htable hdefinitions hcreate

theorem unlogged_compile_leavesOut (hsound : ∀ c ∈ b.definedColumns, ¬ c.Faulty)
    (h : LeavesOut (b.PassesOver g.dialect) b.commands commands) (connection : Connection)
    (i : Option (Introspector σ)) :
    ((b.withCommands commands).compile g connection i).unlogged =
      (b.compile g connection i).unlogged := by
  have hfewer : ∀ c ∈ (b.withCommands commands).definedColumns, ¬ c.Faulty :=
    fun c hc => hsound c (definedColumns_leavesOut h hc)
  have htable : (b.withCommands commands).finalized.table = b.finalized.table := rfl
  have hkept : (b.withCommands commands).finalized.compileCommands g connection i
        (b.withCommands commands).finalized.commands =
      b.finalized.compileCommands g connection i
        (b.withCommands commands).finalized.commands :=
    compileCommands_eq fun c hc => compileCommand_of_plan htable rfl (plan_leavesOut h hc) i
  rw [unlogged_compile, unlogged_compile, check_of_sound hsound, check_of_sound hfewer, hkept,
    compileCommands_eq_gather, compileCommands_eq_gather, Run.unlogged_gather,
    Run.unlogged_gather]
  congr 1
  funext _
  exact Run.gather_leavesOut (finalized_leavesOut h) fun _ => unlogged_compileCommand_of_passesOver

/-- Commands that are passed over can be left out of a sound blueprint, any of them and wherever they
stand. -/
theorem compile_leavesOut (hsound : ∀ c ∈ b.definedColumns, ¬ c.Faulty)
    (h : LeavesOut (b.PassesOver g.dialect) b.commands commands) (connection : Connection)
    (i : Option (Introspector σ)) (s : σ) :
    let whole := b.compile g connection i s
    let rest := (b.withCommands commands).compile g connection i s
    rest.result = whole.result ∧ asked rest.trace = asked whole.trace ∧
      rest.state = whole.state := by
  intro whole rest
  have hunlogged := congrFun (unlogged_compile_leavesOut hsound h connection i) s
  have hresult := congrArg Outcome.result hunlogged
  have hstate := congrArg Outcome.state hunlogged
  have hasked := congrArg (fun outcome => asked outcome.trace) hunlogged
  simp only [Run.asked_unlogged] at hasked
  exact ⟨hresult, hasked, hstate⟩

/-- In a blueprint without `create` SQLite passes over the key as well as over the changes it has no
form for.  The rename between them still asks. -/
theorem compile_leavesOut_users :
    let live : List LiveColumn := [{ name := "mail", nativeType := "text" }]
    let catalogue : Catalogue := { dialect := .sqlite, tables := [("users", live)] }
    let g : Grammar := { dialect := .sqlite }
    let connection : Connection := { dialect := .sqlite }
    let b := ofSteps "users"
      [.foreign ["team_id"] none [.references ["id"], .table "teams"], .modifyNullable "name" true,
       .renameColumn "mail" "email", .modifyColumn "age" .text [], .dropIfExists,
       .dropKey .primary (.named "users_pk")]
    let commands : List Command :=
      [.renameColumn "mail" "email", .modifyColumn { name := "age", type := .text }, .dropIfExists]
    let rest := (b.withCommands commands).compile g connection (some catalogue.introspector) ()
    let whole := b.compile g connection (some catalogue.introspector) ()
    whole.result = .ok ["alter table \"users\" rename column \"mail\" to \"email\"",
        "drop table if exists \"users\""] ∧
      rest.result = whole.result ∧ (asked whole.trace).length = 3 ∧
      asked rest.trace = asked whole.trace := by
  intro live catalogue g connection b commands rest whole
  have hsound : ∀ c ∈ b.definedColumns, ¬ c.Faulty := fault?_eq_none_iff.mp (by decide +kernel)
  have hcreate : Command.create ∉ b.commands := by decide +kernel
  have hleft : LeavesOut (b.PassesOver .sqlite) b.commands commands :=
    .leave (.key rfl hcreate) <| .leave (.noForm rfl) <| .keep <| .keep <| .keep <|
      .leave (.noForm rfl) .nil
  obtain ⟨hresult, hasked, -⟩ :=
    compile_leavesOut (g := g) hsound hleft connection (some catalogue.introspector) ()
  exact ⟨ok_of_toOption (by decide +kernel), hresult, by decide +kernel, hasked⟩

end Blueprint
end TableDdl
