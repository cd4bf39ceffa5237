/-
The structural changes a blueprint can ask for, one command each.

Keys are created under a name over a list of columns, and dropped by name or by columns.  A
foreign key also has a target, which modifiers fill in one attribute at a time.
-/
import TableDdl.Column

namespace TableDdl

inductive KeyKind where
  | primary
  | unique
  | index
  | foreign
deriving DecidableEq, Repr

def KeyKind.name : KeyKind → String
  | primary => "primary"
  | unique => "unique"
  | index => "index"
  | foreign => "foreign"

/-- The kinds of key that a column can carry on its own. -/
inductive IndexKind where
  | primary
  | unique
  | plain
deriving DecidableEq, Repr

def IndexKind.key : IndexKind → KeyKind
  | primary => .primary
  | unique => .unique
  | plain => .index

/-- A named key over columns.  One that is dropped by name has no columns. -/
structure Index where
  name : String
  columns : List String
deriving DecidableEq

/-- A key to be dropped: by its name, or by the columns it was made over. -/
inductive IndexReference where
  | named (name : String)
  | columns (columns : List String)
deriving DecidableEq

structure ForeignKey where
  name : String
  columns : List String
  references : List String := []
  table : String := ""
  onDelete : Option String := none
  onUpdate : Option String := none
deriving DecidableEq

inductive ForeignKeyModifier where
  | references (columns : List String)
  | table (table : String)
  | onDelete (action : String)
  | onUpdate (action : String)
deriving DecidableEq

namespace ForeignKey

def modify (key : ForeignKey) : ForeignKeyModifier → ForeignKey
  | .references columns => { key with references := columns }
  | .table table => { key with table := table }
  | .onDelete action => { key with onDelete := some action }
  | .onUpdate action => { key with onUpdate := some action }

def modifyAll (key : ForeignKey) (modifiers : List ForeignKeyModifier) : ForeignKey :=
  modifiers.foldl modify key

end ForeignKey

inductive DefaultChange where
  | drop
  | set (value : DefaultValue)
deriving DecidableEq

inductive Command where
  | create
  /-- Adds every column of the blueprint to an existing table. -/
  | add
  | drop
  | dropIfExists
  | dropColumn (columns : List String)
  | renameColumn (old new : String)
  | modifyColumn (column : Column)
  | modifyNullable (column : String) (nullable : Bool)
  | modifyDefault (column : String) (change : DefaultChange)
  | rename (new : String)
  | index (kind : IndexKind) (index : Index)
  | foreign (key : ForeignKey)
  | dropKey (kind : KeyKind) (index : Index)
deriving DecidableEq

namespace Command

def name : Command → String
  | create => "create"
  | add => "add"
  | drop => "drop"
  | dropIfExists => "drop_if_exists"
  | dropColumn _ => "drop_column"
  | renameColumn _ _ => "rename_column"
  | modifyColumn _ => "modify_column"
  | modifyNullable _ _ => "modify_nullable"
  | modifyDefault _ _ => "modify_default"
  | rename _ => "rename"
  | index kind _ => kind.key.name
  | foreign _ => "foreign"
  | dropKey kind _ => "drop_" ++ kind.name

def modifiedColumn? : Command → Option Column
  | modifyColumn column => some column
  | _ => none

def foreignKey? : Command → Option ForeignKey
  | foreign key => some key
  | _ => none

def primaryKey? : Command → Option Index
  | index .primary key => some key
  | _ => none

end Command
end TableDdl
