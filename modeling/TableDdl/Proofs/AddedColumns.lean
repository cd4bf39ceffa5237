/-
Which statements add columns to a table.

Such a statement is told by its beginning: behind the table it says `add` and the name of a column,
or `add column`.  The statements of every command but `add` begin in another way (`plan_apart`), so
none of them adds a column, whatever names it holds (`not_addsColumns_of_plan`).
-/
import TableDdl.Proofs.Identifier
import TableDdl.Proofs.KeyName
import TableDdl.Proofs.Preview

namespace TableDdl

/-- A reference begins with a quote character, or with a star that stands without one. -/
theorem Identifier.reference_head (q : Char) (tablePrefix s : List Char) :
    ∃ c rest, reference q tablePrefix s = c :: rest ∧ (c = q ∨ c = '*') := by
  have hquoted : ∀ name, ∃ c rest, quoted q name = c :: rest ∧ (c = q ∨ c = '*') := by
    intro name
    unfold quoted
    split
    next h => exact ⟨'*', [], h, .inr rfl⟩
    next => exact ⟨q, name ++ [q], rfl, .inl rfl⟩
  fun_induction reference q tablePrefix s with
  | case1 s left right h _ ihleft _ =>
      obtain ⟨c, rest, hleft, hc⟩ := ihleft
      refine ⟨c, rest ++ (aliasKeyword ++ reference q tablePrefix right), ?_, hc⟩
      rw [hleft, List.append_assoc]
      rfl
  | case2 s h =>
      unfold path
      split
      next first second others _ =>
        obtain ⟨c, rest, hfirst, hc⟩ := hquoted (tablePrefix ++ first)
        refine ⟨c, rest ++ '.' :: ['.'].intercalate ((second :: others).map (quoted q)), ?_, hc⟩
        rw [List.map_cons, List.intercalate_cons_cons, hfirst, List.append_assoc]
        rfl
      next => exact hquoted s

namespace Grammar

/-- The statement adds columns to the table. -/
def AddsColumns (g : Grammar) (table statement : String) : Prop :=
  ∃ columns, columns ≠ [] ∧ statement ∈ g.columnAdditions table columns

/-- Whether a text goes on, behind the table, as a statement that adds columns does. -/
def beginsAddition (g : Grammar) (clause : List Char) : Bool :=
  match g.dialect with
  | .postgres | .sqlite => " add column ".toList.isPrefixOf clause
  | .mysql | .sqlServer =>
      (" add ".toList ++ [g.quoteChar]).isPrefixOf clause || " add *".toList.isPrefixOf clause

/-- How statements go on, behind the table, that alter it and add no column. -/
def otherClauses : List String :=
  [" drop ", " drop column ", " drop constraint ", " drop index ", " drop primary key",
   " drop foreign key ", " modify column ", " alter column ", " rename to ", " add primary key (",
   " add constraint ", " add unique ", " add index "]

/-- The beginning of the statement is not that of one that adds columns to the table. -/
inductive Apart (g : Grammar) (table statement : String) : Prop
  | elsewhere (h : statement.toList.head? ≠ some 'a')
  | bare (h : statement = "alter table " ++ g.tableReference table ++ " ")
  | clause (clause : String) (hclause : clause ∈ otherClauses)
      (h : Names statement ("alter table " ++ g.tableReference table) clause)

/-! ## The statements of each command -/

section Commands

variable (g : Grammar) (connection : Connection) (b : Blueprint)

theorem createTable_apart : g.Apart b.table (g.createTable connection b) := by
  refine .elsewhere ?_
  unfold createTable
  cases g.dialect <;> simp [String.toList_append]

theorem dropIfExists_apart :
    ∀ statement ∈ (g.dropIfExists b).emitted, g.Apart b.table statement := by
  unfold dropIfExists
  cases g.dialect with
  | mysql | postgres | sqlite =>
      exact List.forall_mem_singleton.mpr (.elsewhere (by simp [String.toList_append]))
  | sqlServer => exact fun statement h => absurd h List.not_mem_nil

/-- Without a text to be prefixed, nothing stands behind the table. -/
theorem prefixed_apart {keyword : String} (h : " " ++ (keyword ++ " ") ∈ otherClauses)
    (texts : List String) :
    g.Apart b.table (g.alterTable b ++ " " ++ ", ".intercalate (prefixed keyword texts)) := by
  cases texts with
  | nil =>
      refine .bare ?_
      rw [prefixed, List.map_nil, String.intercalate_nil, String.append_empty]
      rfl
  | cons text texts =>
      refine .clause _ h ⟨(", " ++ keyword ++ " ").intercalate (text :: texts), ?_⟩
      rw [intercalate_prefixed keyword (List.cons_ne_nil text texts), alterTable]
      simp only [String.append_assoc]

theorem dropColumns_apart (columns : List String) :
    ∀ statement ∈ (g.dropColumns b columns).emitted, g.Apart b.table statement := by
  unfold dropColumns
  cases g.dialect with
  | mysql | postgres => exact List.forall_mem_singleton.mpr (g.prefixed_apart b (by decide) _)
  | sqlServer =>
      exact List.forall_mem_singleton.mpr
        (.clause " drop column " (by decide) ((names_self _ _).append _))
  | sqlite => exact fun statement h => absurd h List.not_mem_nil

theorem modifyColumn_apart (c : Column) :
    ∀ statement ∈ (g.modifyColumn b c).emitted, g.Apart b.table statement := by
  unfold modifyColumn
  cases g.dialect with
  | mysql =>
      exact List.forall_mem_singleton.mpr
        (.clause " modify column " (by decide) ((names_self _ _).append _))
  | postgres =>
      exact List.forall_mem_singleton.mpr
        (.clause " alter column " (by decide)
          (((((names_self _ _).append _).append " type ").append _).append _))
  | sqlServer =>
      exact List.forall_mem_singleton.mpr
        (.clause " alter column " (by decide) ((names_self _ _).append _))
  | sqlite => exact fun statement h => absurd h List.not_mem_nil

theorem modifyNullable_apart (column : String) (nullable : Bool) :
    ∀ statement ∈ (g.modifyNullable b column nullable).emitted, g.Apart b.table statement := by
  unfold modifyNullable
  cases g.dialect with
  | mysql =>
      exact List.forall_mem_singleton.mpr
        (.clause " modify column " (by decide) (((names_self _ _).append _).append _))
  | postgres | sqlServer | sqlite => exact fun statement h => absurd h List.not_mem_nil

theorem modifyDefault_apart (column : String) (change : DefaultChange) :
    ∀ statement ∈ (g.modifyDefault b column change).emitted, g.Apart b.table statement := by
  unfold modifyDefault
  cases g.dialect with
  | mysql =>
      exact List.forall_mem_singleton.mpr
        (.clause " alter column " (by decide) (((names_self _ _).append _).append _))
  | postgres | sqlServer | sqlite => exact fun statement h => absurd h List.not_mem_nil

theorem renameTable_apart (new : String) : g.Apart b.table (g.renameTable b new) := by
  unfold renameTable
  cases g.dialect with
  | mysql | sqlServer => exact .elsewhere (by simp [String.toList_append])
  | postgres | sqlite => exact .clause " rename to " (by decide) ((names_self _ _).append _)

theorem addPrimaryKey_apart (key : Index) :
    ∀ statement ∈ g.addPrimaryKey b key, g.Apart b.table statement := by
  unfold addPrimaryKey
  cases g.dialect with
  | mysql | postgres =>
      exact List.forall_mem_singleton.mpr
        (.clause " add primary key (" (by decide) (((names_self _ _).append _).append _))
  | sqlServer =>
      exact List.forall_mem_singleton.mpr
        (.clause " add constraint " (by decide)
          (((((names_self _ _).append _).append " primary key (").append _).append ")"))
  | sqlite => exact fun statement h => absurd h List.not_mem_nil

theorem addIndex_apart (unique : Bool) (key : Index) :
    g.Apart b.table (g.addIndex b unique key) := by
  unfold addIndex
  cases g.dialect with
  | mysql =>
      cases unique with
      | true =>
          exact .clause " add unique " (by decide)
            (((((names_self _ _).append _).append "(").append _).append ")")
      | false =>
          exact .clause " add index " (by decide)
            (((((names_self _ _).append _).append "(").append _).append ")")
  | postgres | sqlServer | sqlite =>
      refine .elsewhere ?_
      cases unique <;> simp [String.toList_append]

theorem addForeignKey_apart (key : ForeignKey) :
    ∀ statement ∈ g.addForeignKey b key, g.Apart b.table statement := by
  unfold addForeignKey
  cases g.dialect with
  | mysql | postgres | sqlServer =>
      exact List.forall_mem_singleton.mpr
        (.clause " add constraint " (by decide) ((((names_self _ _).append _).append " ").append _))
  | sqlite => exact fun statement h => absurd h List.not_mem_nil

theorem dropConstraint_apart (name : String) : g.Apart b.table (g.dropConstraint b name) :=
  .clause " drop constraint " (by decide) ((names_self _ _).append _)

theorem dropIndex_apart (name : String) : g.Apart b.table (g.dropIndex b name) := by
  unfold dropIndex
  cases g.dialect with
  | mysql => exact .clause " drop index " (by decide) ((names_self _ _).append _)
  | postgres | sqlServer | sqlite => exact .elsewhere (by simp [String.toList_append])

theorem dropKey_apart (kind : KeyKind) (key : Index) :
    ∀ statement ∈ (g.dropKey b kind key).emitted, g.Apart b.table statement := by
  have hnone : ∀ statement ∈ Plan.unsupported.emitted, g.Apart b.table statement :=
    fun statement h => absurd h List.not_mem_nil
  cases kind with
  | primary =>
      unfold dropKey
      cases g.dialect with
      | mysql =>
          exact List.forall_mem_singleton.mpr
            (.clause " drop primary key" (by decide) (names_self _ _))
      | postgres | sqlServer => exact List.forall_mem_singleton.mpr (g.dropConstraint_apart b _)
      | sqlite => exact hnone
  | unique | index => exact List.forall_mem_singleton.mpr (g.dropIndex_apart b key.name)
  | foreign =>
      unfold dropKey
      cases g.dialect with
      | mysql =>
          exact List.forall_mem_singleton.mpr
            (.clause " drop foreign key " (by decide) ((names_self _ _).append _))
      | postgres | sqlServer => exact List.forall_mem_singleton.mpr (g.dropConstraint_apart b _)
      | sqlite => exact hnone

theorem plan_apart {c : Command} (hadd : c ≠ .add) :
    ∀ statement ∈ (g.plan connection b c).emitted, g.Apart b.table statement := by
  cases c with
  | create => exact List.forall_mem_singleton.mpr (g.createTable_apart connection b)
  | add => exact absurd rfl hadd
  | drop => exact List.forall_mem_singleton.mpr (.elsewhere (by simp [String.toList_append]))
  | dropIfExists => exact g.dropIfExists_apart b
  | dropColumn columns => exact g.dropColumns_apart b columns
  | renameColumn old new => exact fun statement h => absurd h List.not_mem_nil
  | modifyColumn column => exact g.modifyColumn_apart b column
  | modifyNullable column nullable => exact g.modifyNullable_apart b column nullable
  | modifyDefault column change => exact g.modifyDefault_apart b column change
  | rename new => exact List.forall_mem_singleton.mpr (g.renameTable_apart b new)
  | index kind key =>
      cases kind with
      | primary => exact g.addPrimaryKey_apart b key
      | unique => exact List.forall_mem_singleton.mpr (g.addIndex_apart b true key)
      | plain => exact List.forall_mem_singleton.mpr (g.addIndex_apart b false key)
  | foreign key => exact g.addForeignKey_apart b key
  | dropKey kind key => exact g.dropKey_apart b kind key

end Commands

/-! ## The beginning of a statement that adds columns -/

variable {g : Grammar} {table statement : String}

theorem definition_head (g : Grammar) (c : Column) :
    ∃ first rest, (g.definition c).toList = first :: rest ∧
      (first = g.quoteChar ∨ first = '*') := by
  obtain ⟨first, rest, hreference, hfirst⟩ :=
    Identifier.reference_head g.quoteChar g.tablePrefix.toList c.name.toList
  refine ⟨first, rest ++ (" " ++ (g.nativeType c ++ g.clauses c)).toList, ?_, hfirst⟩
  unfold definition reference
  rw [String.append_assoc, String.append_assoc, String.toList_append, String.toList_ofList,
    hreference]
  rfl

theorem beginsAddition_of_definitions {separator : String} {columns : List Column}
    (hcolumns : columns ≠ []) (hd : g.dialect = .mysql ∨ g.dialect = .sqlServer) :
    g.beginsAddition (" add " ++ separator.intercalate (columns.map g.definition)).toList =
      true := by
  obtain ⟨c, others, rfl⟩ := List.exists_cons_of_ne_nil hcolumns
  obtain ⟨first, rest, hdefinition, hfirst⟩ := g.definition_head c
  obtain ⟨more, hmore⟩ : ∃ more, separator.intercalate ((c :: others).map g.definition) =
      g.definition c ++ more := by
    cases others with
    | nil =>
        refine ⟨"", ?_⟩
        rw [List.map_singleton, String.intercalate_singleton, String.append_empty]
    | cons next others =>
        rw [List.map_cons, List.map_cons, String.intercalate_cons_cons, String.append_assoc]
        exact ⟨_, rfl⟩
  rw [hmore, String.toList_append, String.toList_append, hdefinition]
  unfold beginsAddition
  rcases hd with hd | hd <;> rcases hfirst with rfl | rfl <;> rw [hd] <;> simp

theorem beginsAddition_of_addsColumns (h : g.AddsColumns table statement) :
    ∃ rest, statement = "alter table " ++ g.tableReference table ++ rest ∧
      g.beginsAddition rest.toList = true := by
  obtain ⟨columns, hcolumns, hmem⟩ := h
  unfold columnAdditions at hmem
  cases hd : g.dialect <;> simp only [hd] at hmem
  case mysql =>
    refine ⟨" add " ++ ", add ".intercalate (columns.map g.definition), ?_,
      beginsAddition_of_definitions hcolumns (.inl hd)⟩
    rw [List.mem_singleton.mp hmem]
    simp only [String.append_assoc]
    rfl
  case sqlServer =>
    refine ⟨" add " ++ ", ".intercalate (columns.map g.definition), ?_,
      beginsAddition_of_definitions hcolumns (.inr hd)⟩
    rw [List.mem_singleton.mp hmem]
    simp only [String.append_assoc]
    rfl
  case postgres =>
    refine ⟨" add column " ++ ", add column ".intercalate (columns.map g.definition), ?_, ?_⟩
    · rw [List.mem_singleton.mp hmem]
      simp only [String.append_assoc]
      rfl
    · simp [beginsAddition, hd, String.toList_append]
  case sqlite =>
    obtain ⟨definition, hdefinition, rfl⟩ := List.mem_map.mp hmem
    refine ⟨" add column " ++ definition, ?_, ?_⟩
    · simp only [String.append_assoc]
      rfl
    · simp [beginsAddition, hd, String.toList_append]

theorem beginsAddition_of_other {clause : String} (h : clause ∈ otherClauses) (rest : String) :
    g.beginsAddition (clause ++ rest).toList = false := by
  rw [String.toList_append]
  obtain ⟨d, tablePrefix⟩ := g
  simp only [otherClauses, List.mem_cons, List.not_mem_nil, or_false] at h
  rcases h with rfl | rfl | rfl | rfl | rfl | rfl | rfl | rfl | rfl | rfl | rfl | rfl | rfl <;>
    cases d <;> simp only [beginsAddition, String.reduceToList, List.cons_append] <;> rfl

theorem not_addsColumns_of_apart (h : g.Apart table statement) :
    ¬ g.AddsColumns table statement := by
  intro hadds
  obtain ⟨rest, hstatement, hbegins⟩ := beginsAddition_of_addsColumns hadds
  cases h with
  | elsewhere h =>
      refine h ?_
      rw [hstatement]
      simp [String.toList_append]
  | bare h =>
      rw [hstatement, String.append_right_inj] at h
      rw [h] at hbegins
      cases hd : g.dialect <;> simp [beginsAddition, hd] at hbegins
  | clause clause hclause h =>
      obtain ⟨after, h⟩ := h
      have hrest : rest = clause ++ after := by
        refine (String.append_right_inj ("alter table " ++ g.tableReference table)).mp ?_
        rw [← hstatement, h, String.append_assoc]
      rw [hrest, beginsAddition_of_other hclause] at hbegins
      cases hbegins

/-- Columns are added by the command `add` alone. -/
theorem not_addsColumns_of_plan {connection : Connection} {b : Blueprint} {c : Command}
    (hadd : c ≠ .add) (h : statement ∈ (g.plan connection b c).emitted) :
    ¬ g.AddsColumns b.table statement :=
  not_addsColumns_of_apart (g.plan_apart connection b hadd statement h)

end Grammar
end TableDdl
