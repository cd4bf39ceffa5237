/-
Compiling a blueprint, as equations.

A faulty column ends a compilation before it begins.  Otherwise the outcome is that of the
finalized commands, one after the other, behind the announcements in the log (`compile_of_sound`).
Whatever happens, a compilation only logs and asks, and asks about one table alone
(`compile_leaves`).

Blueprints with the same check, the same finalized commands and the same look to every plan
compile to the same run (`compile_congr`).
-/
import TableDdl.Compile
import TableDdl.Proofs.Plan
import TableDdl.Proofs.Run

namespace TableDdl

variable {σ : Type}

/-- What may be said while the live table is looked at. -/
def Introspector.Says (i : Introspector σ) (o : Output) : Prop :=
  (∃ table s, o ∈ (i.describe table s).trace) ∨ ∃ diff s, o ∈ (i.alter diff s).trace

/-- What happens while the live table is looked at: questions about it, and what is said while they
are answered. -/
inductive Activity.Looking (i : Introspector σ) (table : String) : Activity → Prop
  | described : Looking i table (.described table)
  | altered (diff : TableDiff) (h : diff.table = table) : Looking i table (.altered diff)
  | output (o : Output) (h : i.Says o) : Looking i table (.output o)

/-- What happens while a blueprint on this table is compiled: the announcements, records of commands
that are passed over, questions about the live table, and what is said while they are answered. -/
inductive Activity.Compiling (announced : List Event) (i : Option (Introspector σ))
    (table : String) : Activity → Prop
  | announced (e : Event) (h : e ∈ announced) : Compiling announced i table (.event e)
  | skipped (command : String) : Compiling announced i table (.event (.skipped command))
  | described : Compiling announced i table (.described table)
  | altered (diff : TableDiff) (h : diff.table = table) :
      Compiling announced i table (.altered diff)
  | output (o : Output) (h : ∃ j ∈ i, j.Says o) : Compiling announced i table (.output o)

theorem Activity.Looking.compiling {announced : List Event} {i : Introspector σ} {table : String}
    {t : Activity} (h : Looking i table t) : Compiling announced (some i) table t := by
  cases h with
  | described => exact .described
  | altered diff h => exact .altered diff h
  | output o h => exact .output o ⟨i, rfl, h⟩

theorem log_apply (e : Event) (s : σ) : log e s = ⟨.ok (), [.event e], s⟩ := rfl

namespace Introspector

variable (i : Introspector σ)

theorem describeTable_leaves (table : String) :
    (i.describeTable table).Leaves (Activity.Looking i table) :=
  Run.leaves_bind (Run.leaves_note .described) fun _ => Run.leaves_mapTrace fun s o ho =>
    .output o (.inl ⟨table, s, ho⟩)

theorem alterTable_leaves (diff : TableDiff) :
    (i.alterTable diff).Leaves (Activity.Looking i diff.table) :=
  Run.leaves_bind (Run.leaves_note (.altered diff rfl)) fun _ => Run.leaves_mapTrace fun s o ho =>
    .output o (.inr ⟨diff, s, ho⟩)

theorem column_leaves (table name : String) :
    (i.column table name).Leaves (Activity.Looking i table) := by
  refine Run.leaves_bind (i.describeTable_leaves table) fun columns => ?_
  cases columns.find? (·.name == name) with
  | some column => exact Run.leaves_pure column
  | none => exact Run.leaves_fail _

theorem columns_leaves (table : String) (names : List String) :
    (i.columns table names).Leaves (Activity.Looking i table) := by
  induction names with
  | nil => exact Run.leaves_pure []
  | cons name rest ih =>
      exact Run.leaves_bind (i.column_leaves table name) fun _ =>
        Run.leaves_bind ih fun _ => Run.leaves_pure _

end Introspector

/-- A diff is against the blueprint's own table, under its name in the database. -/
theorem Grammar.diff_bind {α : Type} (g : Grammar) (b : Blueprint) (i : Introspector σ)
    (f : TableDiff → Run Activity σ α) :
    (g.diff b i >>= f) = i.describeTable (g.tableName b.table) >>= fun columns =>
      f { table := g.tableName b.table, columns } := by
  unfold Grammar.diff
  rw [bind_assoc]
  simp only [pure_bind]

theorem Alteration.statements_leaves (g : Grammar) (b : Blueprint) (i : Introspector σ)
    (a : Alteration) : (a.statements g b i).Leaves (Activity.Looking i (g.tableName b.table)) := by
  unfold Alteration.statements
  cases a with
  | rename old new =>
      simp only [Grammar.diff_bind]
      exact Run.leaves_bind (i.describeTable_leaves _) fun _ =>
        Run.leaves_bind (i.column_leaves _ old) fun _ => i.alterTable_leaves _
  | drop names =>
      simp only [Grammar.diff_bind]
      exact Run.leaves_bind (i.describeTable_leaves _) fun _ =>
        Run.leaves_bind (i.columns_leaves _ names) fun _ => i.alterTable_leaves _

namespace Blueprint

variable (b : Blueprint) (g : Grammar) (connection : Connection)

theorem compileCommand_leaves {announced : List Event} (i : Option (Introspector σ)) (c : Command) :
    (b.compileCommand g connection i c).Leaves
      (Activity.Compiling announced i (g.tableName b.table)) := by
  unfold compileCommand
  cases g.plan connection b c with
  | unsupported =>
      exact Run.leaves_bind (Run.leaves_note (.skipped c.name)) fun _ => Run.leaves_pure []
  | statements statements => exact Run.leaves_pure statements
  | alteration alteration =>
      cases i with
      | none => exact Run.leaves_fail _
      | some i => exact (alteration.statements_leaves g b i).mono fun _ h => h.compiling

theorem compileCommands_leaves {announced : List Event} (i : Option (Introspector σ))
    (commands : List Command) :
    (b.compileCommands g connection i commands).Leaves
      (Activity.Compiling announced i (g.tableName b.table)) := by
  induction commands with
  | nil => exact Run.leaves_pure []
  | cons c rest ih =>
      exact Run.leaves_bind (b.compileCommand_leaves g connection i c) fun _ =>
        Run.leaves_bind ih fun _ => Run.leaves_pure _

/-- What is logged between the check of a blueprint and its first command. -/
def announcements : List Event :=
  (if connection.tablePrefix ≠ g.tablePrefix then
      [.prefixMismatch connection.tablePrefix g.tablePrefix]
    else []) ++
    [.compiling b.table g.dialect b.finalized.commands.length]

variable {b g connection}

theorem compile_of_fault {c : Column} {fault : ColumnFault} (h : b.fault? = some (c, fault))
    (i : Option (Introspector σ)) (s : σ) :
    b.compile g connection i s = ⟨.error (.invalidColumn b.table c.name fault), [], s⟩ := by
  have hcheck : b.check = .error (.invalidColumn b.table c.name fault) := by rw [check, h]
  refine Run.bind_error (r := Run.ofExcept b.check) ?_
  rw [hcheck]
  rfl

theorem compile_of_sound (h : b.fault? = none) (i : Option (Introspector σ)) (s : σ) :
    b.compile g connection i s =
      let rest := b.finalized.compileCommands g connection i b.finalized.commands s
      ⟨rest.result, (b.announcements g connection).map .event ++ rest.trace, rest.state⟩ := by
  have hcheck : b.check = .ok () := by rw [check, h]
  have hchecked : (Run.ofExcept b.check : Run Activity σ Unit) s = ⟨.ok (), [], s⟩ := by
    rw [hcheck]
    rfl
  refine (Run.bind_ok hchecked).trans ?_
  unfold announcements
  split <;> rfl

variable (b g connection) in
/-- Compiling hands nothing to the database, and asks about no table but the blueprint's own,
whether or not it succeeds. -/
theorem compile_leaves (i : Option (Introspector σ)) :
    (b.compile g connection i).Leaves
      (Activity.Compiling (b.announcements g connection) i (g.tableName b.table)) := by
  intro s t ht
  cases hfault : b.fault? with
  | some f =>
      rw [compile_of_fault hfault] at ht
      exact absurd ht List.not_mem_nil
  | none =>
      rw [compile_of_sound hfault] at ht
      rcases List.mem_append.mp ht with ht | ht
      · obtain ⟨e, he, rfl⟩ := List.mem_map.mp ht
        exact .announced e he
      · exact b.finalized.compileCommands_leaves g connection i b.finalized.commands s t ht

/-! ## Equal compilations -/

variable {b' : Blueprint}

/-- The check reads the name of each column and what is wrong with it. -/
theorem check_congr (htable : b.table = b'.table)
    (hcolumns : b.definedColumns.map (fun c => (c.name, c.fault?)) =
      b'.definedColumns.map fun c => (c.name, c.fault?)) : b.check = b'.check := by
  have hfault : ∀ d : Blueprint, d.fault?.map (fun f => (f.1.name, f.2)) =
      (d.definedColumns.map fun c => (c.name, c.fault?)).findSome? fun f => f.2.map (f.1, ·) := by
    intro d
    rw [fault?, List.map_findSome?, List.findSome?_map]
    congr 1
    funext c
    exact Option.map_map _ _ _
  have heq : b.fault?.map (fun f => (f.1.name, f.2)) = b'.fault?.map fun f => (f.1.name, f.2) := by
    rw [hfault, hfault, hcolumns]
  have hcheck : ∀ d : Blueprint, d.check =
      match d.fault?.map fun f => (f.1.name, f.2) with
      | none => .ok ()
      | some (name, fault) => .error (.invalidColumn d.table name fault) := by
    intro d
    unfold check
    cases d.fault? <;> rfl
  rw [hcheck, hcheck, heq, htable]

/-- A command depends on its plan and the table, and the log on its name. -/
theorem compileCommand_of_plan {connection' : Connection} {c c' : Command}
    (htable : b.table = b'.table) (hname : c.name = c'.name)
    (hplan : g.plan connection b c = g.plan connection' b' c') (i : Option (Introspector σ)) :
    b.compileCommand g connection i c = b'.compileCommand g connection' i c' := by
  have hdiff : ∀ i : Introspector σ, g.diff b i = g.diff b' i := fun i => by
    unfold Grammar.diff
    rw [htable]
  have hstatements : ∀ (i : Introspector σ) (a : Alteration),
      a.statements g b i = a.statements g b' i := fun i a => by
    cases a <;> simp only [Alteration.statements, hdiff]
  simp only [compileCommand, hplan, hname, hstatements]

/-- Commands that are compiled alike one by one are compiled alike in a row. -/
theorem compileCommands_map {connection' : Connection} {i : Option (Introspector σ)}
    {f : Command → Command} {commands : List Command}
    (h : ∀ c ∈ commands,
      b.compileCommand g connection i c = b'.compileCommand g connection' i (f c)) :
    b.compileCommands g connection i commands =
      b'.compileCommands g connection' i (commands.map f) := by
  induction commands with
  | nil => rfl
  | cons c rest ih =>
      have hfirst := h c List.mem_cons_self
      have hrest := ih fun c' hc' => h c' (List.mem_cons_of_mem c hc')
      simp only [List.map_cons, compileCommands, hfirst, hrest]

theorem compileCommands_eq {connection' : Connection} {i : Option (Introspector σ)}
    {commands : List Command}
    (h : ∀ c ∈ commands,
      b.compileCommand g connection i c = b'.compileCommand g connection' i c) :
    b.compileCommands g connection i commands = b'.compileCommands g connection' i commands := by
  have hmap := compileCommands_map (f := id) h
  rwa [List.map_id] at hmap

theorem compileCommands_congr (h : b.Alike g b') (i : Option (Introspector σ))
    (commands : List Command) :
    b.compileCommands g connection i commands = b'.compileCommands g connection i commands :=
  compileCommands_eq fun c _ => compileCommand_of_plan h.table rfl (Grammar.plan_congr h c) i

/-- The log has the table and the number of commands. -/
theorem compile_of_commands {i : Option (Introspector σ)} (hcheck : b.check = b'.check)
    (htable : b.table = b'.table)
    (hlength : b.finalized.commands.length = b'.finalized.commands.length)
    (hcommands : b.finalized.compileCommands g connection i b.finalized.commands =
      b'.finalized.compileCommands g connection i b'.finalized.commands) :
    b.compile g connection i = b'.compile g connection i := by
  have hfinalized : b.finalized.table = b'.finalized.table := htable
  unfold compile
  simp only [hcheck, hfinalized, hlength, hcommands]

/-- Nothing else of a blueprint is looked at: not by the check, not by the commands, and not by the
log. -/
theorem compile_congr (hcheck : b.check = b'.check)
    (hcommands : b.finalized.commands = b'.finalized.commands)
    (h : b.finalized.Alike g b'.finalized) (i : Option (Introspector σ)) :
    b.compile g connection i = b'.compile g connection i := by
  refine compile_of_commands hcheck h.table (congrArg List.length hcommands) ?_
  rw [hcommands]
  exact compileCommands_congr h i b'.finalized.commands

end Blueprint
end TableDdl
