/-
A blueprint collects the columns and commands of one change to one table.

Steps are the calls a user makes.  Each adds a column, takes columns back, or appends commands,
so a blueprint is a fold over its steps.  `finalized` then adds the commands that the columns
imply: `add` in front when there are columns and no `create`, and one index command behind for
each column that carries a marker.
-/
import TableDdl.Command
import TableDdl.Text.Lowercase

namespace TableDdl

structure Blueprint where
  table : String
  columns : List Column := []
  commands : List Command := []
  engine : Option String := none
deriving DecidableEq

inductive Step where
  | create
  | drop
  | dropIfExists
  | rename (new : String)
  | engine (engine : String)
  | dropColumn (columns : List String)
  | renameColumn (old new : String)
  | modifyColumn (name : String) (type : ColumnType) (modifiers : List ColumnModifier)
  | modifyNullable (column : String) (nullable : Bool)
  | modifyDefault (column : String) (change : DefaultChange)
  | index (kind : IndexKind) (columns : List String) (name : Option String)
  | foreign (columns : List String) (name : Option String) (modifiers : List ForeignKeyModifier)
  | dropKey (kind : KeyKind) (reference : IndexReference)
  | column (declaration : Declaration) (name : String) (modifiers : List ColumnModifier)
  | removeColumn (name : String)
  /-- The times of creation and of the last change. -/
  | timestamps
  | nullableTimestamps
  | dropTimestamps
  /-- The time of deletion, empty while a row is live. -/
  | softDeletes
  | dropSoftDeletes
  /-- The key and the type of a row in any one of several tables. -/
  | morphs (name : String)
deriving DecidableEq

/-- The conventional name of a key: table, columns and kind in lower case, with `-` and `.`
written as `_`. -/
def conventionalName (table : String) (columns : List String) (kind : KeyKind) : String :=
  let joined := table ++ "_" ++ "_".intercalate columns ++ "_" ++ kind.name
  String.ofList ((Text.lowerChars joined.toList).map fun c => if c = '-' ∨ c = '.' then '_' else c)

namespace Column

/-- The first marker on the column, looked for in the order primary, unique, plain. -/
def marker? (c : Column) : Option (IndexKind × IndexMarker) :=
  c.primary.map (.primary, ·) <|> c.unique.map (.unique, ·) <|> c.index.map (.plain, ·)

end Column

namespace Blueprint

def addColumn (b : Blueprint) (c : Column) : Blueprint := { b with columns := b.columns ++ [c] }

def addCommand (b : Blueprint) (c : Command) : Blueprint := { b with commands := b.commands ++ [c] }

def keyName (b : Blueprint) (kind : KeyKind) (columns : List String) : String :=
  conventionalName b.table columns kind

/-- A key over columns, under the given name or else the conventional one. -/
def key (b : Blueprint) (kind : KeyKind) (columns : List String) (name : Option String) : Index :=
  { name := name.getD (b.keyName kind columns), columns }

def resolve (b : Blueprint) (kind : KeyKind) : IndexReference → Index
  | .named name => { name, columns := [] }
  | .columns columns => b.key kind columns none

def timestamp (name : String) (nullable : Bool) : Column :=
  { name, type := .timestamp, nullable }

def apply (b : Blueprint) : Step → Blueprint
  | .create => b.addCommand .create
  | .drop => b.addCommand .drop
  | .dropIfExists => b.addCommand .dropIfExists
  | .rename new => b.addCommand (.rename new)
  | .engine engine => { b with engine := some engine }
  | .dropColumn columns => b.addCommand (.dropColumn columns)
  | .renameColumn old new => b.addCommand (.renameColumn old new)
  | .modifyColumn name type modifiers =>
      b.addCommand (.modifyColumn (Column.modifyAll { name, type } modifiers))
  | .modifyNullable column nullable => b.addCommand (.modifyNullable column nullable)
  | .modifyDefault column change => b.addCommand (.modifyDefault column change)
  | .index kind columns name => b.addCommand (.index kind (b.key kind.key columns name))
  | .foreign columns name modifiers =>
      let bare : ForeignKey := { name := (b.key .foreign columns name).name, columns }
      b.addCommand (.foreign (bare.modifyAll modifiers))
  | .dropKey kind reference => b.addCommand (.dropKey kind (b.resolve kind reference))
  | .column declaration name modifiers =>
      b.addColumn ((declaration.column name).modifyAll modifiers)
  | .removeColumn name => { b with columns := b.columns.filter (·.name != name) }
  | .timestamps =>
      (b.addColumn (timestamp "created_at" false)).addColumn (timestamp "updated_at" false)
  | .nullableTimestamps =>
      (b.addColumn (timestamp "created_at" true)).addColumn (timestamp "updated_at" true)
  | .dropTimestamps => b.addCommand (.dropColumn ["created_at", "updated_at"])
  | .softDeletes => b.addColumn (timestamp "deleted_at" true)
  | .dropSoftDeletes => b.addCommand (.dropColumn ["deleted_at"])
  | .morphs name =>
      (b.addColumn (Declaration.unsignedInteger.column (name ++ "_id"))).addColumn
        ((Declaration.string 255).column (name ++ "_type"))

def applyAll (b : Blueprint) (steps : List Step) : Blueprint := steps.foldl apply b

def ofSteps (table : String) (steps : List Step) : Blueprint :=
  ({ table } : Blueprint).applyAll steps

def creating (b : Blueprint) : Bool := b.commands.any (· == .create)

def impliedIndex? (b : Blueprint) (c : Column) : Option Command :=
  c.marker?.map fun (kind, marker) => .index kind (b.key kind.key [c.name] marker.name?)

def impliedAdd (b : Blueprint) : List Command :=
  if b.columns.isEmpty || b.creating then [] else [.add]

/-- The blueprint with the commands that its columns imply. -/
def finalized (b : Blueprint) : Blueprint :=
  { b with commands := b.impliedAdd ++ b.commands ++ b.columns.filterMap b.impliedIndex? }

/-- The columns to be checked: those declared, then those of `modify_column` commands. -/
def definedColumns (b : Blueprint) : List Column :=
  b.columns ++ b.commands.filterMap Command.modifiedColumn?

def fault? (b : Blueprint) : Option (Column × ColumnFault) :=
  b.definedColumns.findSome? fun c => c.fault?.map (c, ·)

theorem applyAll_append (b : Blueprint) (s t : List Step) :
    b.applyAll (s ++ t) = (b.applyAll s).applyAll t := by
  simp [applyAll]

theorem apply_table (b : Blueprint) (s : Step) : (b.apply s).table = b.table := by
  cases s <;> rfl

theorem applyAll_table (b : Blueprint) (steps : List Step) :
    (b.applyAll steps).table = b.table := by
  induction steps generalizing b with
  | nil => rfl
  | cons s rest ih => exact (ih (b.apply s)).trans (apply_table b s)

end Blueprint
end TableDdl
