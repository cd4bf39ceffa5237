/-
What a compilation does not depend on.

Of a connection only the character set and the collation count, and these only where MySQL creates
a table.  The other dialects look neither at the engine nor at the attributes `unsigned` and `after`
of a column.  `portable` leaves these out, and blueprints with the same portable part compile to the
same outcome there (`compile_independent`).

A connection shows in one more place.  When its prefix is not that of the grammar, the log says so,
and outcomes are compared up to that record (`Outcome.Matches`).
-/
import TableDdl.Proofs.Accumulation
import TableDdl.Proofs.Compile

namespace TableDdl

variable {σ : Type}

/-- Whether the log warns that the prefix of the connection is not used. -/
def Activity.warnsOfPrefix : Activity → Bool
  | .event (.prefixMismatch _ _) => true
  | _ => false

/-- The outcomes are the same up to warnings about the prefix of the connection. -/
structure Outcome.Matches (o o' : Outcome Activity σ (List String)) : Prop where
  result : o.result = o'.result
  trace : o.trace.filter (!·.warnsOfPrefix) = o'.trace.filter (!·.warnsOfPrefix)
  state : o.state = o'.state

namespace Outcome.Matches

variable {o o' o'' : Outcome Activity σ (List String)}

theorem symm (h : o.Matches o') : o'.Matches o := ⟨h.result.symm, h.trace.symm, h.state.symm⟩

theorem trans (h : o.Matches o') (h' : o'.Matches o'') : o.Matches o'' :=
  ⟨h.result.trans h'.result, h.trace.trans h'.trace, h.state.trans h'.state⟩

end Outcome.Matches

/-! ## Portable parts -/

/-- The column without the attributes that MySQL alone writes. -/
def Column.portable (c : Column) : Column := { c with unsigned := false, after := none }

def Command.portable : Command → Command
  | .modifyColumn column => .modifyColumn column.portable
  | c => c

/-- The blueprint without what MySQL alone writes. -/
def Blueprint.portable (b : Blueprint) : Blueprint :=
  { b with
    columns := b.columns.map Column.portable
    commands := b.commands.map Command.portable
    engine := none }

namespace Command

theorem portable_name (c : Command) : c.portable.name = c.name := by
  cases c <;> rfl

theorem portable_foreignKey? (c : Command) : c.portable.foreignKey? = c.foreignKey? := by
  cases c <;> rfl

theorem portable_primaryKey? (c : Command) : c.portable.primaryKey? = c.primaryKey? := by
  cases c <;> rfl

theorem portable_modifiedColumn? (c : Command) :
    c.portable.modifiedColumn? = c.modifiedColumn?.map Column.portable := by
  cases c <;> rfl

theorem portable_beq_create (c : Command) : (c.portable == .create) = (c == .create) := by
  cases c <;> rfl

end Command

namespace Grammar

variable {g : Grammar} {c : Column}

theorem nativeType_portable (hd : g.dialect ≠ .mysql) (c : Column) :
    g.nativeType c.portable = g.nativeType c := by
  unfold nativeType
  cases h : g.dialect with
  | mysql => exact absurd h hd
  | postgres | sqlServer | sqlite => rfl

theorem clause?_portable (hd : g.dialect ≠ .mysql) (clause : Clause) (c : Column) :
    g.clause? clause c.portable = g.clause? clause c := by
  obtain ⟨d, tablePrefix⟩ := g
  cases d with
  | mysql => exact absurd rfl hd
  | postgres | sqlServer | sqlite => cases clause <;> rfl

theorem clauses_portable (hd : g.dialect ≠ .mysql) (c : Column) :
    g.clauses c.portable = g.clauses c := by
  simp only [clauses, clause?_portable hd]

theorem definition_portable (hd : g.dialect ≠ .mysql) (c : Column) :
    g.definition c.portable = g.definition c := by
  unfold definition
  rw [nativeType_portable hd, clauses_portable hd]
  rfl

theorem modifyColumn_portable (hd : g.dialect ≠ .mysql) (b : Blueprint) (c : Column) :
    g.modifyColumn b c.portable = g.modifyColumn b c := by
  simp only [modifyColumn, definition_portable hd, nativeType_portable hd, clauses_portable hd]
  rfl

theorem createTable_connection {connection connection' : Connection} {b : Blueprint}
    (h : g.dialect = .mysql →
      connection.charset = connection'.charset ∧ connection.collation = connection'.collation) :
    g.createTable connection b = g.createTable connection' b := by
  unfold createTable
  cases hd : g.dialect with
  | mysql =>
      obtain ⟨hcharset, hcollation⟩ := h hd
      simp only [hcharset, hcollation]
  | postgres | sqlServer | sqlite => rfl

/-- No command but `create` has anything of the connection, and that one only in MySQL. -/
theorem plan_connection {connection connection' : Connection} {b : Blueprint} {c : Command}
    (h : g.dialect = .mysql → c = .create →
      connection.charset = connection'.charset ∧ connection.collation = connection'.collation) :
    g.plan connection b c = g.plan connection' b c := by
  cases c with
  | create =>
      exact congrArg (fun sql => Plan.statements [sql])
        (createTable_connection fun hd => h hd rfl)
  | index kind key => cases kind <;> rfl
  | _ => rfl

theorem alike_portable (hd : g.dialect ≠ .mysql) (b : Blueprint) : b.Alike g b.portable := by
  have htable : b.table = b.portable.table := rfl
  have hforeign : Command.foreignKey? ∘ Command.portable = Command.foreignKey? :=
    funext Command.portable_foreignKey?
  have hprimary : Command.primaryKey? ∘ Command.portable = Command.primaryKey? :=
    funext Command.portable_primaryKey?
  refine .of_keys htable ?_ (fun h => absurd h hd) ?_ ?_
  · simp only [definitions, Blueprint.portable, List.map_map]
    exact List.map_congr_left fun c _ => (definition_portable hd c).symm
  · simp only [Blueprint.portable, List.filterMap_map, hforeign]
  · simp only [Blueprint.portable, List.filterMap_map, hprimary]

theorem plan_portable (hd : g.dialect ≠ .mysql) (connection connection' : Connection)
    (b : Blueprint) (c : Command) :
    g.plan connection b c = g.plan connection' b.portable c.portable := by
  have hconnection : g.plan connection b c = g.plan connection' b c :=
    plan_connection fun h => absurd h hd
  have hcommand : g.plan connection' b.portable c.portable = g.plan connection' b.portable c := by
    cases c with
    | modifyColumn column => exact modifyColumn_portable hd b.portable column
    | _ => rfl
  rw [hconnection, hcommand, plan_congr (alike_portable hd b)]

end Grammar

/-! ## Compilations -/

namespace Blueprint

theorem portable_creating (b : Blueprint) : b.portable.creating = b.creating := by
  simp only [creating, portable, List.any_map, Function.comp_def, Command.portable_beq_create]

/-- What the columns imply is portable, and the same for their portable parts. -/
theorem finalized_portable (b : Blueprint) : b.portable.finalized = b.finalized.portable := by
  have hadd : b.portable.impliedAdd = b.impliedAdd.map Command.portable := by
    have hempty : b.portable.columns.isEmpty = b.columns.isEmpty := List.isEmpty_map
    simp only [impliedAdd, hempty, portable_creating]
    split <;> rfl
  have hindex : ∀ c : Column, (b.impliedIndex? c).map Command.portable = b.impliedIndex? c := by
    intro c
    simp only [impliedIndex?, Option.map_map]
    rfl
  have himplied : b.portable.columns.filterMap b.portable.impliedIndex? =
      (b.columns.filterMap b.impliedIndex?).map Command.portable := by
    rw [List.map_filterMap]
    simp only [hindex]
    exact List.filterMap_map
  have hcommands : b.portable.finalized.commands = b.finalized.portable.commands := by
    show b.portable.impliedAdd ++ b.commands.map Command.portable ++ _ =
      (b.impliedAdd ++ b.commands ++ _).map Command.portable
    rw [hadd, himplied, List.map_append, List.map_append]
  exact congrArg (fun commands => { b.portable with commands }) hcommands

theorem portable_check (b : Blueprint) : b.portable.check = b.check := by
  refine check_congr rfl ?_
  have hmodified : b.portable.commands.filterMap Command.modifiedColumn? =
      (b.commands.filterMap Command.modifiedColumn?).map Column.portable := by
    rw [List.map_filterMap]
    simp only [← Command.portable_modifiedColumn?]
    exact List.filterMap_map
  have hdefined : b.portable.definedColumns = b.definedColumns.map Column.portable := by
    rw [definedColumns, hmodified, definedColumns, List.map_append]
    rfl
  rw [hdefined, List.map_map]
  rfl

variable {b b' : Blueprint} {g : Grammar} {connection connection' : Connection}
  {i : Option (Introspector σ)}

theorem announcements_filter :
    ((b.announcements g connection).map Activity.event).filter (!·.warnsOfPrefix) =
      [.event (.compiling b.table g.dialect b.finalized.commands.length)] := by
  unfold announcements
  split <;> rfl

theorem matches_of_commands (hcheck : b.check = b'.check) (htable : b.table = b'.table)
    (hlength : b.finalized.commands.length = b'.finalized.commands.length)
    (hcommands : b.finalized.compileCommands g connection i b.finalized.commands =
      b'.finalized.compileCommands g connection' i b'.finalized.commands) (s : σ) :
    (b.compile g connection i s).Matches (b'.compile g connection' i s) := by
  unfold check at hcheck
  cases hfault : b.fault? with
  | some f =>
      cases hfault' : b'.fault? with
      | some f' =>
          rw [hfault, hfault'] at hcheck
          rw [compile_of_fault hfault, compile_of_fault hfault']
          exact ⟨congrArg Except.error (Except.error.inj hcheck), rfl, rfl⟩
      | none =>
          rw [hfault, hfault'] at hcheck
          cases hcheck
  | none =>
      cases hfault' : b'.fault? with
      | some f' =>
          rw [hfault, hfault'] at hcheck
          cases hcheck
      | none =>
          rw [compile_of_sound hfault, compile_of_sound hfault', hcommands]
          refine ⟨rfl, ?_, rfl⟩
          simp only [List.filter_append, announcements_filter, htable, hlength]

/-- The same blueprint over two connections.  A finalized blueprint creates its table only if it
did before. -/
theorem matches_of_connection
    (h : g.dialect = .mysql → .create ∈ b.commands →
      connection.charset = connection'.charset ∧ connection.collation = connection'.collation)
    (s : σ) : (b.compile g connection i s).Matches (b.compile g connection' i s) := by
  refine matches_of_commands rfl rfl rfl (compileCommands_eq fun c hc => ?_) s
  refine compileCommand_of_plan rfl rfl (Grammar.plan_connection fun hd hcreate => ?_) i
  subst hcreate
  exact h hd ((mem_finalized_iff (by decide) fun _ _ => by simp).mp hc)

theorem matches_portable (hd : g.dialect ≠ .mysql) (s : σ) :
    (b.compile g connection i s).Matches (b.portable.compile g connection' i s) := by
  have hcommand : ∀ c : Command, b.finalized.compileCommand g connection i c =
      b.finalized.portable.compileCommand g connection' i c.portable := fun c => by
    have htable : b.finalized.table = b.finalized.portable.table := rfl
    have hplan := Grammar.plan_portable hd connection connection' b.finalized c
    exact compileCommand_of_plan htable c.portable_name.symm hplan i
  have hcommands : b.portable.finalized.commands = b.finalized.commands.map Command.portable :=
    congrArg Blueprint.commands b.finalized_portable
  have htable : b.table = b.portable.table := rfl
  refine matches_of_commands b.portable_check.symm htable ?_ ?_ s
  · rw [hcommands, List.length_map]
  · rw [hcommands, finalized_portable]
    exact compileCommands_map fun c _ => hcommand c

/-- The outcome is the same over connections that agree on the character set and the collation, and
over any two if no table is created.  Outside MySQL it is the same over any two connections, for
blueprints with the same portable part. -/
theorem compile_independent (b b' : Blueprint) (g : Grammar) (connection connection' : Connection)
    (i : Option (Introspector σ)) (s : σ) :
    (connection.charset = connection'.charset → connection.collation = connection'.collation →
        (b.compile g connection i s).Matches (b.compile g connection' i s)) ∧
      (Command.create ∉ b.commands →
        (b.compile g connection i s).Matches (b.compile g connection' i s)) ∧
      (g.dialect ≠ .mysql → b.portable = b'.portable →
        (b.compile g connection i s).Matches (b'.compile g connection' i s)) := by
  refine ⟨fun hcharset hcollation => ?_, fun hcreate => ?_, fun hd hportable => ?_⟩
  · exact matches_of_connection (fun _ _ => ⟨hcharset, hcollation⟩) s
  · exact matches_of_connection (fun _ hc => absurd hc hcreate) s
  · have hb : (b.compile g connection i s).Matches (b.portable.compile g connection' i s) :=
      matches_portable hd s
    have hb' : (b'.compile g connection' i s).Matches (b'.portable.compile g connection' i s) :=
      matches_portable hd s
    rw [hportable] at hb
    exact hb.trans hb'.symm

/-- MySQL creates a table over two connections that share a character set, and changes it over two
that do not.  In Postgres the engine, the missing sign and the place of the columns count for
nothing. -/
theorem compile_independent_users :
    let created := ofSteps "users" [.create, .engine "InnoDB", .column .integer "id" []]
    let extended (steps : List Step) (modifiers : List ColumnModifier) :=
      ofSteps "users" (steps ++ [.column .integer "age" modifiers,
        .modifyColumn "name" .text modifiers])
    let marked := extended [.engine "InnoDB"] [.unsigned, .after "id"]
    let mysql : Connection := { dialect := .mysql, charset := some "utf8mb4" }
    let other : Connection :=
      { dialect := .sqlite, charset := some "utf8mb4", database := some "app", tablePrefix := "p_" }
    let bare : Connection := { dialect := .postgres }
    let compiled (b : Blueprint) (dialect : Dialect) (connection : Connection) :=
      b.compile ⟨dialect, ""⟩ connection (none : Option (Introspector Unit)) ()
    (compiled created .mysql mysql).Matches (compiled created .mysql other) ∧
      (compiled marked .mysql other).Matches (compiled marked .mysql bare) ∧
      (compiled marked .postgres other).Matches (compiled (extended [] []) .postgres bare) := by
  intro created extended marked mysql other bare compiled
  have hcreated := compile_independent created created ⟨.mysql, ""⟩ mysql other
    (none : Option (Introspector Unit)) ()
  have hmarked := compile_independent marked marked ⟨.mysql, ""⟩ other bare
    (none : Option (Introspector Unit)) ()
  have hportable := compile_independent marked (extended [] []) ⟨.postgres, ""⟩ other bare
    (none : Option (Introspector Unit)) ()
  exact ⟨hcreated.1 rfl rfl, hmarked.2.1 (by decide), hportable.2.2 (by decide) rfl⟩

end Blueprint
end TableDdl
