/-
What a plan can be, and what it depends on.

The tables of `Dialect` say for each command whether the dialect has a form for it, whether it is
carried out against the live table, and whether it makes a key that belongs inside a table
definition.  A plan is determined by them up to the text of its statements (`plan_of`), and a
command other than `add` becomes one statement or none.

A plan reads little of its blueprint: the table, the definitions of the columns, the engine in
MySQL, and the keys written inside the definition in SQLite.  Blueprints that agree on these are
`Alike`, and every command has the same plan in both.
-/
import TableDdl.Grammar.Plan

namespace TableDdl

namespace Dialect

/-- Whether the dialect has a form for the command. -/
def hasForm (d : Dialect) : Command → Bool
  | .modifyNullable _ _ | .modifyDefault _ _ => d == .mysql
  | .dropIfExists => d != .sqlServer
  | .modifyColumn _ | .dropKey .primary _ | .dropKey .foreign _ => d != .sqlite
  | _ => true

/-- The change to the live table that a command asks for. -/
def alteration? (d : Dialect) : Command → Option Alteration
  | .renameColumn old new => some (.rename old new)
  | .dropColumn columns => if d == .sqlite then some (.drop columns) else none
  | _ => none

/-- Whether the command makes a key that only a table definition can hold. -/
def inlinesKey (d : Dialect) : Command → Bool
  | .index .primary _ | .foreign _ => d == .sqlite
  | _ => false

/-- How many statements a command other than `add` becomes without the live table. -/
def statementCount (d : Dialect) (c : Command) : Nat :=
  if d.hasForm c && !d.inlinesKey c && (d.alteration? c).isNone then 1 else 0

end Dialect

namespace Plan

/-- The statements of a plan that does not wait for the live table. -/
def emitted : Plan → List String
  | statements sql => sql
  | _ => []

def alteration? : Plan → Option Alteration
  | alteration a => some a
  | _ => none

/-- What a plan of the command can be. -/
inductive Of (d : Dialect) (c : Command) : Plan → Prop
  | unsupported (h : d.hasForm c = false) (hlive : d.alteration? c = none) : Of d c .unsupported
  | alteration (a : Alteration) (h : d.hasForm c = true) (hlive : d.alteration? c = some a) :
      Of d c (.alteration a)
  | statements (sql : List String) (h : d.hasForm c = true) (hlive : d.alteration? c = none)
      (hlength : c ≠ .add → sql.length = if d.inlinesKey c then 0 else 1) :
      Of d c (.statements sql)

end Plan

/-- The blueprints look the same to every plan of the grammar. -/
structure Blueprint.Alike (g : Grammar) (b b' : Blueprint) : Prop where
  table : b.table = b'.table
  definitions : g.definitions b = g.definitions b'
  engine : g.dialect = .mysql → b.engine = b'.engine
  foreignKeys : g.dialect = .sqlite → g.inlineForeignKeys b = g.inlineForeignKeys b'
  primaryKey : g.dialect = .sqlite → g.inlinePrimaryKey b = g.inlinePrimaryKey b'

/-- Of the other commands a table definition reads the keys alone. -/
theorem Blueprint.Alike.of_keys {g : Grammar} {b b' : Blueprint} (htable : b.table = b'.table)
    (hdefinitions : g.definitions b = g.definitions b')
    (hengine : g.dialect = .mysql → b.engine = b'.engine)
    (hforeign : b.commands.filterMap Command.foreignKey? =
      b'.commands.filterMap Command.foreignKey?)
    (hprimary : b.commands.filterMap Command.primaryKey? =
      b'.commands.filterMap Command.primaryKey?) : b.Alike g b' where
  table := htable
  definitions := hdefinitions
  engine := hengine
  foreignKeys _ := by rw [Grammar.inlineForeignKeys, Grammar.inlineForeignKeys, hforeign]
  primaryKey _ := by
    rw [Grammar.inlinePrimaryKey, Grammar.inlinePrimaryKey, ← List.head?_filterMap,
      ← List.head?_filterMap, hprimary]

namespace Grammar

variable (g : Grammar) (connection : Connection) (b : Blueprint)

theorem plan_of (c : Command) : Plan.Of g.dialect c (g.plan connection b c) := by
  obtain ⟨d, tablePrefix⟩ := g
  cases d <;> cases c with
  | add => exact .statements _ rfl rfl fun h => absurd rfl h
  | index kind key => cases kind <;> exact .statements _ rfl rfl fun _ => rfl
  | dropKey kind key =>
      cases kind <;> first
        | exact .unsupported rfl rfl
        | exact .statements _ rfl rfl fun _ => rfl
  | _ =>
      first
        | exact .unsupported rfl rfl
        | exact .alteration _ rfl rfl
        | exact .statements _ rfl rfl fun _ => rfl

theorem plan_eq_unsupported_iff (c : Command) :
    g.plan connection b c = .unsupported ↔ g.dialect.hasForm c = false := by
  have hplan := g.plan_of connection b c
  generalize g.plan connection b c = p at hplan
  cases hplan with
  | unsupported h _ => simp [h]
  | alteration a h _ => simp [h]
  | statements sql h _ _ => simp [h]

theorem plan_alteration? (c : Command) :
    (g.plan connection b c).alteration? = g.dialect.alteration? c := by
  have hplan := g.plan_of connection b c
  generalize g.plan connection b c = p at hplan
  cases hplan with
  | unsupported _ hlive => exact hlive.symm
  | alteration a _ hlive => exact hlive.symm
  | statements sql _ hlive _ => exact hlive.symm

theorem emitted_length {c : Command} (hadd : c ≠ .add) :
    (g.plan connection b c).emitted.length = g.dialect.statementCount c := by
  have hplan := g.plan_of connection b c
  generalize g.plan connection b c = p at hplan
  unfold Dialect.statementCount
  cases hplan with
  | unsupported h _ =>
      rw [h]
      rfl
  | alteration a _ hlive =>
      rw [hlive, Option.isNone_some, Bool.and_false]
      rfl
  | statements sql h hlive hlength =>
      show sql.length = _
      rw [h, hlive, hlength hadd]
      cases g.dialect.inlinesKey c <;> rfl

variable {g connection b} {b' : Blueprint}

theorem plan_of_inlinesKey {c : Command} (h : g.dialect.inlinesKey c = true) :
    g.plan connection b c = .statements [] := by
  have hadd : c ≠ .add := by
    rintro rfl
    cases h
  have hplan := g.plan_of connection b c
  generalize g.plan connection b c = p at hplan
  cases hplan with
  | unsupported hform _ =>
      cases c with
      | index kind key => cases hform
      | foreign key => cases hform
      | _ => cases h
  | alteration a _ hlive =>
      cases c with
      | renameColumn old new => cases h
      | dropColumn columns => cases h
      | _ => cases hlive
  | statements sql _ _ hlength =>
      have hnone := hlength hadd
      rw [if_pos h] at hnone
      rw [List.eq_nil_of_length_eq_zero hnone]

theorem alterTable_congr (h : b.table = b'.table) : g.alterTable b = g.alterTable b' :=
  congrArg (fun table => "alter table " ++ g.tableReference table) h

theorem createTable_congr (h : b.Alike g b') :
    g.createTable connection b = g.createTable connection b' := by
  unfold createTable
  cases hd : g.dialect with
  | mysql => simp only [h.table, h.definitions, h.engine hd]
  | postgres => simp only [h.table, h.definitions]
  | sqlServer => simp only [h.table, h.definitions]
  | sqlite => simp only [h.table, h.definitions, h.foreignKeys hd, h.primaryKey hd]

/-- A plan other than that of `create` reads no command but its own. -/
theorem plan_congr_of_ne_create (htable : b.table = b'.table)
    (hdefinitions : g.definitions b = g.definitions b') {c : Command} (hc : c ≠ .create) :
    g.plan connection b c = g.plan connection b' c := by
  have halter : g.alterTable b = g.alterTable b' := alterTable_congr htable
  cases c with
  | create => exact absurd rfl hc
  | index kind key => cases kind <;> simp only [plan, addPrimaryKey, addIndex, halter, htable]
  | dropKey kind key =>
      cases kind <;> simp only [plan, dropKey, dropConstraint, dropIndex, halter, htable]
  | _ =>
      simp only [plan, addColumns, dropIfExists, dropColumns, modifyColumn, modifyNullable,
        modifyDefault, renameTable, addForeignKey, halter, htable, hdefinitions]

theorem plan_congr (h : b.Alike g b') (c : Command) :
    g.plan connection b c = g.plan connection b' c := by
  by_cases hc : c = .create
  · subst hc
    exact congrArg (fun sql => Plan.statements [sql]) (createTable_congr h)
  · exact plan_congr_of_ne_create h.table h.definitions hc

end Grammar
end TableDdl
