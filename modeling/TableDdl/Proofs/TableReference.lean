/-
The table a blueprint names, in its own statements and in those that apply a diff.

The statements of a blueprint quote its table under the grammar's prefix.  A diff is against the
same table under its name in the database, and its statements quote that name under no prefix
(`statements_eq`).  Both give the same text unless there is a prefix and the name has a dot
(`tableReference_eq_bare_iff`).  Then the blueprint's own statements apply the prefix a second time
(`tableReference_prefixed_twice`).
-/
import TableDdl.Proofs.Compile
import TableDdl.Proofs.Identifier

namespace TableDdl

theorem Dialect.quoteChar_ne_star (d : Dialect) : d.quoteChar ≠ '*' := by
  cases d <;> decide

namespace Grammar

/-- The same dialect without a prefix. -/
def bare (g : Grammar) : Grammar := { dialect := g.dialect }

theorem tableReference_eq_bare_iff (g : Grammar) (table : String) :
    g.tableReference table = g.bare.reference (g.tableName table) ↔
      g.tablePrefix = "" ∨ '.' ∉ (g.tableName table).toList := by
  have hempty : g.tablePrefix = "" ↔ g.tablePrefix.toList = [] := by
    rw [← String.toList_inj]
    rfl
  have hstar : g.quoteChar ≠ '*' := g.dialect.quoteChar_ne_star
  rw [hempty, ← Identifier.reference_eq_bare_iff hstar, tableReference, reference, reference,
    String.ofList_inj]
  rfl

/-- With a prefix of its own, a dotted table is quoted as if its name in the database were one
more name to be prefixed. -/
theorem tableReference_prefixed_twice {g : Grammar} {table : String}
    (hp : '.' ∉ g.tablePrefix.toList) (hdot : '.' ∈ (g.tableName table).toList)
    (honce : Identifier.splitAlias? (g.tableName table).toList = none)
    (htwice : Identifier.splitAlias? (g.tableName (g.tableName table)).toList = none) :
    g.tableReference table = g.bare.reference (g.tableName (g.tableName table)) := by
  have hname : (g.tableName (g.tableName table)).toList =
      g.tablePrefix.toList ++ (g.tableName table).toList := String.toList_append
  rw [hname] at htwice
  rw [tableReference, reference, reference, hname, Identifier.reference_of_not_split honce,
    Identifier.reference_of_not_split htwice, Identifier.path_prefixed hp hdot]
  rfl

end Grammar

namespace TableDiff

/-- The calls that rename columns where no statement on the table does. -/
def procedureCalls (dialect : Dialect) (d : TableDiff) : List String :=
  match dialect with
  | .sqlServer => d.renamed.map fun (old, new) => d.renameStatement .sqlServer old new
  | .mysql | .postgres | .sqlite => []

/-- What the other renames say after the table. -/
def renameClauses (dialect : Dialect) (d : TableDiff) : List String :=
  let bare : Grammar := { dialect }
  match dialect with
  | .mysql => d.renamed.map fun (old, new) =>
      " change " ++ bare.reference old ++ " " ++ bare.reference new.name ++ " " ++ restated new
  | .postgres | .sqlite => d.renamed.map fun (old, new) =>
      " rename column " ++ bare.reference old ++ " to " ++ bare.reference new.name
  | .sqlServer => []

def removeClauses (dialect : Dialect) (d : TableDiff) : List String :=
  d.removed.map fun (column, _) => " drop column " ++ ({ dialect } : Grammar).reference column

def alterTable (dialect : Dialect) (table clause : String) : String :=
  "alter table " ++ ({ dialect } : Grammar).reference table ++ clause

theorem renames_eq (dialect : Dialect) (d : TableDiff) :
    (d.renamed.map fun (old, new) => d.renameStatement dialect old new) =
      d.procedureCalls dialect ++
        (d.renameClauses dialect).map (alterTable dialect d.table) := by
  cases dialect with
  | sqlServer => exact (List.append_nil _).symm
  | mysql | postgres | sqlite =>
      rw [procedureCalls, renameClauses, List.nil_append, List.map_map]
      refine List.map_congr_left fun ⟨old, new⟩ _ => ?_
      show d.renameStatement _ old new = alterTable _ d.table _
      unfold renameStatement alterTable
      simp only [String.append_assoc]

theorem removals_eq (dialect : Dialect) (d : TableDiff) :
    (d.removed.map fun (column, _) => d.removeStatement dialect column) =
      (d.removeClauses dialect).map (alterTable dialect d.table) := by
  rw [removeClauses, List.map_map]
  refine List.map_congr_left fun ⟨column, _⟩ _ => ?_
  show d.removeStatement _ column = alterTable _ d.table _
  unfold removeStatement alterTable
  simp only [String.append_assoc]

theorem statements_eq (dialect : Dialect) (d : TableDiff) :
    d.statements dialect = d.procedureCalls dialect ++
      (d.renameClauses dialect ++ d.removeClauses dialect).map (alterTable dialect d.table) := by
  rw [statements, renames_eq, removals_eq, List.map_append, List.append_assoc]

end TableDiff

namespace Blueprint

variable {σ : Type} (b : Blueprint) (g : Grammar) (connection : Connection)

/-- Every diff handed over while a blueprint is compiled is against its own table, and its
statements name that table as the blueprint's own do exactly when there is no prefix or no dot. -/
theorem altered_table_reference (i : Option (Introspector σ)) (s : σ) :
    (∀ d, Activity.altered d ∈ (b.compile g connection i s).trace →
      d.table = g.tableName b.table ∧
      d.statements g.dialect = d.procedureCalls g.dialect ++
        (d.renameClauses g.dialect ++ d.removeClauses g.dialect).map fun clause =>
          "alter table " ++ g.bare.reference (g.tableName b.table) ++ clause) ∧
    (g.bare.reference (g.tableName b.table) = g.tableReference b.table ↔
      g.tablePrefix = "" ∨ '.' ∉ (g.tableName b.table).toList) := by
  constructor
  · intro d hd
    have htable : d.table = g.tableName b.table := by
      cases b.compile_leaves g connection i s _ hd with
      | altered _ h => exact h
    refine ⟨htable, ?_⟩
    rw [TableDiff.statements_eq, htable]
    rfl
  · rw [eq_comm]
    exact g.tableReference_eq_bare_iff b.table

/-- A column of a dotted table is renamed before the table is dropped.  The diff names the table
under one prefix, the statement that drops it under two. -/
theorem altered_table_reference_dotted :
    let g : Grammar := { dialect := .postgres, tablePrefix := "app_" }
    let connection : Connection := { dialect := .postgres, tablePrefix := "app_" }
    let live : Introspector Unit :=
      { describe := fun _ => return [{ name := "name", nativeType := "text" }]
        alter := fun d => return d.statements .postgres }
    let b := ofSteps "shop.users" [.renameColumn "name" "full_name", .drop]
    let d : TableDiff :=
      { table := "app_shop.users"
        columns := [{ name := "name", nativeType := "text" }]
        renamed := [("name", { name := "full_name", nativeType := "text" })] }
    Activity.altered d ∈ (b.compile g connection (some live) ()).trace ∧
      d.statements g.dialect =
        ["alter table \"app_shop\".\"users\" rename column \"name\" to \"full_name\""] ∧
      g.plan connection b .drop = .statements ["drop table \"app_app_shop\".\"users\""] ∧
      g.bare.reference (g.tableName b.table) ≠ g.tableReference b.table := by
  intro g connection live b d
  have hd : Activity.altered d ∈ (b.compile g connection (some live) ()).trace := by
    decide
  obtain ⟨halters, hiff⟩ := altered_table_reference b g connection (some live) ()
  have hstatements : d.statements g.dialect =
      ["alter table \"app_shop\".\"users\" rename column \"name\" to \"full_name\""] := by
    rw [(halters d hd).2]
    decide +kernel
  have hdrop : g.plan connection b .drop =
      .statements ["drop table \"app_app_shop\".\"users\""] := by
    decide +kernel
  exact ⟨hd, hstatements, hdrop, mt hiff.mp (by decide)⟩

end Blueprint
end TableDdl
