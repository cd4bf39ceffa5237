/-
What each command becomes in each dialect.

A command that a dialect has a form for becomes statements, none of which depend on the live
database.  Renaming a column, and dropping one in SQLite, needs the table as it stands and
becomes an alteration, which is carried out later.  A command that a dialect has no form for is
unsupported, which is not a fault.

SQLite cannot add a primary or foreign key to a table that exists.  Its `create` therefore writes
the foreign keys and the first primary key of the whole blueprint into the table definition, and
on their own those commands become no statement.
-/
import TableDdl.Blueprint
import TableDdl.Grammar.Definition

namespace TableDdl

/-- A change to columns that is worked out against the live table. -/
inductive Alteration where
  | rename (old new : String)
  | drop (columns : List String)
deriving DecidableEq

def Alteration.command : Alteration → String
  | rename _ _ => "rename_column"
  | drop _ => "drop_column"

inductive Plan where
  | unsupported
  | statements (statements : List String)
  | alteration (alteration : Alteration)
deriving DecidableEq

def prefixed (keyword : String) (texts : List String) : List String :=
  texts.map fun text => keyword ++ " " ++ text

/-- A keyword with its operand, when there is one. -/
def optionClause (keyword : String) : Option String → String
  | none => ""
  | some operand => keyword ++ operand

namespace Grammar

def alterTable (g : Grammar) (b : Blueprint) : String :=
  "alter table " ++ g.tableReference b.table

def definitions (g : Grammar) (b : Blueprint) : List String := b.columns.map g.definition

def foreignClause (g : Grammar) (key : ForeignKey) : String :=
  "foreign key (" ++ g.columnList key.columns ++ ") references " ++ g.tableReference key.table ++
    " (" ++ g.columnList key.references ++ ")" ++ optionClause " on delete " key.onDelete ++
    optionClause " on update " key.onUpdate

/-- The foreign keys of a blueprint as they stand inside a table definition. -/
def inlineForeignKeys (g : Grammar) (b : Blueprint) : String :=
  let keys := b.commands.filterMap Command.foreignKey?
  String.join (keys.map fun key => ", " ++ g.foreignClause key)

/-- The first primary key of a blueprint as it stands inside a table definition. -/
def inlinePrimaryKey (g : Grammar) (b : Blueprint) : String :=
  match b.commands.findSome? Command.primaryKey? with
  | none => ""
  | some key => ", primary key (" ++ g.columnList key.columns ++ ")"

def createTable (g : Grammar) (connection : Connection) (b : Blueprint) : String :=
  let opening := "create table " ++ g.tableReference b.table ++ " (" ++
    ", ".intercalate (g.definitions b)
  match g.dialect with
  | .mysql =>
      opening ++ ")" ++ optionClause " default character set " connection.charset ++
        optionClause " collate " connection.collation ++ optionClause " engine = " b.engine
  | .postgres | .sqlServer => opening ++ ")"
  | .sqlite => opening ++ g.inlineForeignKeys b ++ g.inlinePrimaryKey b ++ ")"

def addColumns (g : Grammar) (b : Blueprint) : List String :=
  match g.dialect with
  | .mysql =>
      [g.alterTable b ++ " " ++ ", ".intercalate (prefixed "add" (g.definitions b))]
  | .postgres =>
      [g.alterTable b ++ " " ++ ", ".intercalate (prefixed "add column" (g.definitions b))]
  | .sqlServer => [g.alterTable b ++ " add " ++ ", ".intercalate (g.definitions b)]
  | .sqlite => prefixed (g.alterTable b ++ " add column") (g.definitions b)

def dropColumns (g : Grammar) (b : Blueprint) (columns : List String) : Plan :=
  let names := columns.map g.reference
  match g.dialect with
  | .mysql => .statements [g.alterTable b ++ " " ++ ", ".intercalate (prefixed "drop" names)]
  | .postgres =>
      .statements [g.alterTable b ++ " " ++ ", ".intercalate (prefixed "drop column" names)]
  | .sqlServer => .statements [g.alterTable b ++ " drop column " ++ ", ".intercalate names]
  | .sqlite => .alteration (.drop columns)

def modifyColumn (g : Grammar) (b : Blueprint) (c : Column) : Plan :=
  match g.dialect with
  | .mysql => .statements [g.alterTable b ++ " modify column " ++ g.definition c]
  | .postgres =>
      .statements [g.alterTable b ++ " alter column " ++ g.reference c.name ++ " type " ++
        g.nativeType c ++ g.clauses c]
  | .sqlServer => .statements [g.alterTable b ++ " alter column " ++ g.definition c]
  | .sqlite => .unsupported

def modifyNullable (g : Grammar) (b : Blueprint) (column : String) (nullable : Bool) : Plan :=
  match g.dialect with
  | .mysql =>
      .statements [g.alterTable b ++ " modify column " ++ g.reference column ++
        nullability nullable]
  | .postgres | .sqlServer | .sqlite => .unsupported

def modifyDefault (g : Grammar) (b : Blueprint) (column : String) (change : DefaultChange) : Plan :=
  match g.dialect with
  | .mysql =>
      .statements [g.alterTable b ++ " alter column " ++ g.reference column ++
        (match change with
          | .drop => " drop default"
          | .set value => " set default " ++ value.sql)]
  | .postgres | .sqlServer | .sqlite => .unsupported

def dropIfExists (g : Grammar) (b : Blueprint) : Plan :=
  match g.dialect with
  | .mysql | .postgres | .sqlite =>
      .statements ["drop table if exists " ++ g.tableReference b.table]
  | .sqlServer => .unsupported

def renameTable (g : Grammar) (b : Blueprint) (new : String) : String :=
  match g.dialect with
  | .mysql => "rename table " ++ g.tableReference b.table ++ " to " ++ g.tableReference new
  | .postgres | .sqlite => g.alterTable b ++ " rename to " ++ g.tableReference new
  | .sqlServer => "sp_rename " ++ g.tableReference b.table ++ ", " ++ g.tableReference new

def addPrimaryKey (g : Grammar) (b : Blueprint) (key : Index) : List String :=
  match g.dialect with
  | .mysql | .postgres =>
      [g.alterTable b ++ " add primary key (" ++ g.columnList key.columns ++ ")"]
  | .sqlServer =>
      [g.alterTable b ++ " add constraint " ++ g.quote key.name ++ " primary key (" ++
        g.columnList key.columns ++ ")"]
  | .sqlite => []

def addIndex (g : Grammar) (b : Blueprint) (unique : Bool) (key : Index) : String :=
  match g.dialect with
  | .mysql =>
      g.alterTable b ++ (if unique then " add unique " else " add index ") ++ g.quote key.name ++
        "(" ++ g.columnList key.columns ++ ")"
  | .postgres | .sqlServer | .sqlite =>
      (if unique then "create unique index " else "create index ") ++ g.quote key.name ++ " on " ++
        g.tableReference b.table ++ " (" ++ g.columnList key.columns ++ ")"

def addForeignKey (g : Grammar) (b : Blueprint) (key : ForeignKey) : List String :=
  match g.dialect with
  | .mysql | .postgres | .sqlServer =>
      [g.alterTable b ++ " add constraint " ++ g.quote key.name ++ " " ++ g.foreignClause key]
  | .sqlite => []

def dropConstraint (g : Grammar) (b : Blueprint) (name : String) : String :=
  g.alterTable b ++ " drop constraint " ++ g.quote name

def dropIndex (g : Grammar) (b : Blueprint) (name : String) : String :=
  match g.dialect with
  | .mysql => g.alterTable b ++ " drop index " ++ g.quote name
  | .postgres | .sqlite => "drop index " ++ g.quote name
  | .sqlServer => "drop index " ++ g.quote name ++ " on " ++ g.tableReference b.table

def dropKey (g : Grammar) (b : Blueprint) (kind : KeyKind) (key : Index) : Plan :=
  match kind with
  | .primary =>
      match g.dialect with
      | .mysql => .statements [g.alterTable b ++ " drop primary key"]
      -- Postgres names the constraint itself, after the table.
      | .postgres => .statements [g.dropConstraint b (g.tableName b.table ++ "_pkey")]
      | .sqlServer => .statements [g.dropConstraint b key.name]
      | .sqlite => .unsupported
  | .unique | .index => .statements [g.dropIndex b key.name]
  | .foreign =>
      match g.dialect with
      | .mysql => .statements [g.alterTable b ++ " drop foreign key " ++ g.quote key.name]
      | .postgres | .sqlServer => .statements [g.dropConstraint b key.name]
      | .sqlite => .unsupported

def plan (g : Grammar) (connection : Connection) (b : Blueprint) : Command → Plan
  | .create => .statements [g.createTable connection b]
  | .add => .statements (g.addColumns b)
  | .drop => .statements ["drop table " ++ g.tableReference b.table]
  | .dropIfExists => g.dropIfExists b
  | .dropColumn columns => g.dropColumns b columns
  | .renameColumn old new => .alteration (.rename old new)
  | .modifyColumn column => g.modifyColumn b column
  | .modifyNullable column nullable => g.modifyNullable b column nullable
  | .modifyDefault column change => g.modifyDefault b column change
  | .rename new => .statements [g.renameTable b new]
  | .index .primary key => .statements (g.addPrimaryKey b key)
  | .index .unique key => .statements [g.addIndex b true key]
  | .index .plain key => .statements [g.addIndex b false key]
  | .foreign key => .statements (g.addForeignKey b key)
  | .dropKey kind key => g.dropKey b kind key

end Grammar
end TableDdl
