/-
A change split in two.

A blueprint made by command steps is its commands, and finalizing adds nothing to them
(`ofSteps_of_isCommand`).  No command but SQLite's `create` looks at the others.  So the steps of two
blueprints in a row compile to what the first compiles to and then the second, or to the error of the
first that fails (`compile_append`).
-/
import TableDdl.Proofs.PreviewError
import TableDdl.Proofs.Sequence
import TableDdl.Proofs.Tracking

namespace TableDdl

variable {σ : Type}

namespace Blueprint

def ofCommands (table : String) (commands : List Command) : Blueprint := { table, commands }

variable {table : String} {commands more : List Command}

theorem apply_of_isCommand {s : Step} (h : s.isCommand = true) :
    (ofCommands table commands).apply s =
      ofCommands table (commands ++ s.commands table) := by
  cases s with
  | column declaration name modifiers => cases h
  | removeColumn name => cases h
  | engine engine => cases h
  | morphs name => cases h
  | timestamps | nullableTimestamps | softDeletes => cases h
  | dropKey kind reference => cases reference <;> rfl
  | _ => rfl

theorem ofSteps_of_isCommand {steps : List Step} (h : ∀ s ∈ steps, s.isCommand = true) :
    ofSteps table steps = ofCommands table (steps.flatMap (Step.commands table)) := by
  have hrun : ∀ commands, (ofCommands table commands).applyAll steps =
      ofCommands table (commands ++ steps.flatMap (Step.commands table)) := by
    induction steps with
    | nil =>
        intro commands
        rw [List.flatMap_nil, List.append_nil]
        rfl
    | cons s rest ih =>
        intro commands
        have hrest := ih fun s' hs' => h s' (List.mem_cons_of_mem s hs')
        show ((ofCommands table commands).apply s).applyAll rest = _
        rw [apply_of_isCommand (h s List.mem_cons_self), hrest, List.flatMap_cons,
          List.append_assoc]
  exact hrun []

theorem finalized_ofCommands : (ofCommands table commands).finalized = ofCommands table commands :=
  congrArg (ofCommands table) (List.append_nil commands)

variable {g : Grammar} {connection : Connection} {i : Option (Introspector σ)}

/-- Without columns a plan is the same among any commands.  SQLite's `create` alone looks at their
keys. -/
theorem plan_ofCommands {c : Command} (h : g.dialect = .sqlite → c ≠ .create) :
    g.plan connection (ofCommands table commands) c =
      g.plan connection (ofCommands table more) c := by
  have htable : (ofCommands table commands).table = (ofCommands table more).table := rfl
  have hdefinitions : g.definitions (ofCommands table commands) =
      g.definitions (ofCommands table more) := rfl
  by_cases hd : g.dialect = .sqlite
  · exact Grammar.plan_congr_of_ne_create htable hdefinitions (h hd)
  · exact Grammar.plan_congr
      ⟨htable, hdefinitions, fun _ => rfl, fun hs => absurd hs hd, fun hs => absurd hs hd⟩ c

/-- Some of the commands compile on their own as they do among all of them. -/
theorem unlogged_compile_part {part : List Command} (hpart : part ⊆ commands)
    (hsound : ∀ c ∈ (ofCommands table commands).definedColumns, ¬ c.Faulty)
    (hcreate : g.dialect = .sqlite → Command.create ∉ commands) :
    ((ofCommands table part).compile g connection i).unlogged =
      ((ofCommands table commands).compileCommands g connection i part).unlogged := by
  have hdefined : (ofCommands table part).definedColumns ⊆
      (ofCommands table commands).definedColumns := List.filterMap_subset _ hpart
  have hcheck : (ofCommands table part).check = .ok () :=
    check_of_sound fun c hc => hsound c (hdefined hc)
  have htable : (ofCommands table part).table = (ofCommands table commands).table := rfl
  have hcommands : (ofCommands table part).compileCommands g connection i part =
      (ofCommands table commands).compileCommands g connection i part := by
    refine compileCommands_eq fun c hc => ?_
    refine compileCommand_of_plan htable rfl (plan_ofCommands ?_) i
    rintro hd rfl
    exact hcreate hd (hpart hc)
  rw [unlogged_compile, hcheck, finalized_ofCommands, ← hcommands]
  rfl

theorem unlogged_compile_append
    (hsound : ∀ c ∈ (ofCommands table (commands ++ more)).definedColumns, ¬ c.Faulty)
    (hcreate : g.dialect = .sqlite → Command.create ∉ commands ++ more) :
    ((ofCommands table (commands ++ more)).compile g connection i).unlogged = do
      let first ← ((ofCommands table commands).compile g connection i).unlogged
      let others ← ((ofCommands table more).compile g connection i).unlogged
      return first ++ others := by
  rw [unlogged_compile_part (List.Subset.refl _) hsound hcreate,
    unlogged_compile_part (List.subset_append_left commands more) hsound hcreate,
    unlogged_compile_part (List.subset_append_right commands more) hsound hcreate,
    compileCommands_eq_gather, Run.gather_append, ← compileCommands_eq_gather,
    ← compileCommands_eq_gather]
  simp only [Run.unlogged_bind, Run.unlogged_pure]

/-- Outside SQLite, and in SQLite unless a table is created, command steps in two parts compile to
what the first part compiles to and then the second, or to the error of the first part that fails.
It does not matter in which state each is compiled, since the introspector answers alike in all. -/
theorem compile_append {steps others : List Step} {g : Grammar} {i : Option (Introspector σ)}
    (hcommands : ∀ s ∈ steps ++ others, s.isCommand = true)
    (hsound : ∀ c ∈ definedBy table (steps ++ others), ¬ c.Faulty)
    (hcreate : g.dialect = .sqlite → Step.create ∉ steps ++ others) (hi : ∀ j ∈ i, j.Steady)
    (connection : Connection) (s s' s'' : σ) :
    ((ofSteps table (steps ++ others)).compile g connection i s).result = do
      let first ← ((ofSteps table steps).compile g connection i s').result
      let second ← ((ofSteps table others).compile g connection i s'').result
      return first ++ second := by
  let commandsOf := List.flatMap (Step.commands table)
  have hsteps : ofSteps table steps = ofCommands table (commandsOf steps) :=
    ofSteps_of_isCommand fun x hx => hcommands x (List.mem_append_left others hx)
  have hothers : ofSteps table others = ofCommands table (commandsOf others) :=
    ofSteps_of_isCommand fun x hx => hcommands x (List.mem_append_right steps hx)
  have hall : ofSteps table (steps ++ others) =
      ofCommands table (commandsOf steps ++ commandsOf others) := by
    rw [ofSteps_of_isCommand hcommands, List.flatMap_append]
  rw [← ofSteps_definedColumns, hall] at hsound
  have hnone : g.dialect = .sqlite → Command.create ∉ commandsOf steps ++ commandsOf others := by
    intro hd hmem
    rw [← List.flatMap_append, ← ofSteps_commands, ← creating_iff, ofSteps_creating_iff] at hmem
    exact hcreate hd hmem
  have hunlogged : ((ofCommands table (commandsOf steps ++ commandsOf others)).compile g connection
      i).unlogged s = _ := congrFun (unlogged_compile_append hsound hnone) s
  rw [← hsteps, ← hothers, ← hall] at hunlogged
  have hsteady : ∀ (b : Blueprint) (x y : σ), ((b.compile g connection i).unlogged x).result =
      ((b.compile g connection i).unlogged y).result := fun b => compile_steady hi b g connection
  exact (congrArg Outcome.result hunlogged).trans
    (Run.result_of_both (hsteady _) (hsteady _) s s' s'')

/-- Two parts of a change in Postgres, each with a question. -/
theorem compile_append_users :
    let live : List LiveColumn :=
      [{ name := "mail", nativeType := "text" }, { name := "nick", nativeType := "text" }]
    let catalogue : Catalogue := { dialect := .postgres, tables := [("app_users", live)] }
    let g : Grammar := { dialect := .postgres, tablePrefix := "app_" }
    let connection : Connection := { dialect := .postgres, tablePrefix := "app_" }
    let steps : List Step := [.renameColumn "mail" "email", .modifyColumn "age" .bigInteger []]
    let others : List Step := [.dropTimestamps, .renameColumn "nick" "name", .rename "people"]
    let compiled (steps : List Step) :=
      ((ofSteps "users" steps).compile g connection (some catalogue.introspector) ()).result
    let first :=
      ["alter table \"app_users\" rename column \"mail\" to \"email\"",
       "alter table \"app_users\" alter column \"age\" type bigint not null"]
    let second :=
      ["alter table \"app_users\" drop column \"created_at\", drop column \"updated_at\"",
       "alter table \"app_users\" rename column \"nick\" to \"name\"",
       "alter table \"app_users\" rename to \"app_people\""]
    compiled steps = .ok first ∧ compiled others = .ok second ∧
      compiled (steps ++ others) = .ok (first ++ second) := by
  intro live catalogue g connection steps others compiled first second
  have hfirst : compiled steps = .ok first := ok_of_toOption (by decide +kernel)
  have hsecond : compiled others = .ok second := ok_of_toOption (by decide +kernel)
  have hsteady : ∀ j ∈ some catalogue.introspector, (j : Introspector Unit).Steady := by
    rintro j ⟨⟩
    exact catalogue.steady
  have hsound : ∀ c ∈ definedBy "users" (steps ++ others), ¬ c.Faulty :=
    (ofSteps_fault?_eq_none_iff "users" (steps ++ others)).mp (by decide +kernel)
  have hwhole : compiled (steps ++ others) = _ :=
    compile_append (g := g) (by decide) hsound (by decide) hsteady connection () () ()
  refine ⟨hfirst, hsecond, hwhole.trans ?_⟩
  show (do
    let first ← compiled steps
    let second ← compiled others
    return first ++ second) = _
  rw [hfirst, hsecond]
  rfl

end Blueprint
end TableDdl
