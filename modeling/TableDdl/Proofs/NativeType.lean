/-
What a native type can look like.

A dialect writes most types as a fixed text, some with a length or with digits behind a word, and an
enumeration in MySQL and Postgres with its values.  `nativeType_text` goes through the types once; what
holds of every native type follows from the few shapes.
-/
import TableDdl.Grammar.NativeType

namespace TableDdl

namespace Dialect

/-- The types without parameters. -/
def plainTypes : Dialect → List String
  | mysql =>
      ["text", "mediumtext", "longtext", "json", "int", "bigint", "mediumint", "smallint", "tinyint",
       "double", "tinyint(1)", "date", "datetime", "time", "timestamp", "blob"]
  | postgres =>
      ["text", "json", "serial", "integer", "bigserial", "bigint", "smallint", "real",
       "double precision", "boolean", "date", "timestamp", "time", "bytea"]
  | sqlServer =>
      ["nvarchar(max)", "int", "bigint", "smallint", "tinyint", "float", "bit", "nvarchar(255)",
       "date", "datetime", "time", "varbinary(max)"]
  | sqlite =>
      ["varchar", "text", "integer", "float", "tinyint", "date", "datetime", "time", "blob"]

/-- The words of the types with a length. -/
def sizedWords : Dialect → List String
  | mysql | postgres => ["char", "varchar"]
  | sqlServer => ["nchar", "nvarchar"]
  | sqlite => []

/-- The words of the types with digits. -/
def numericWords : Dialect → List String
  | mysql => ["float", "double", "decimal"]
  | postgres | sqlServer => ["decimal"]
  | sqlite => []

end Dialect

/-- The texts that the native type of a column can be, where `name` is the reference to the column. -/
inductive TypeText (d : Dialect) (c : Column) (name : String) : String → Prop
  | plain {text} (h : text ∈ d.plainTypes) : TypeText d c name text
  | preset (hdialect : d = .mysql) (htype : c.type = .timestamp) (hnullable : c.nullable = false) :
      TypeText d c name "timestamp default 0"
  | sized {word} (h : word ∈ d.sizedWords) (size : Option UInt32) :
      TypeText d c name (sizedType word size)
  | numeric {word} (h : word ∈ d.numericWords) (total places : UInt32) :
      TypeText d c name (numericType word total places)
  | values (hdialect : d = .mysql) (htype : c.type = .enumeration) :
      TypeText d c name ("enum(" ++ c.allowedList ++ ")")
  | check (hdialect : d = .postgres) (htype : c.type = .enumeration) :
      TypeText d c name ("varchar(255) check (" ++ name ++ " in (" ++ c.allowedList ++ "))")

namespace Column

theorem mysqlType_text (c : Column) (name : String) : TypeText .mysql c name c.mysqlType := by
  unfold mysqlType
  cases htype : c.type <;> dsimp only
  case char | string => exact .sized (by decide) _
  case float | decimal => exact .numeric (by decide) _ _
  case double =>
    split
    · split
      · exact .numeric (by decide) _ _
      · exact .plain (by decide)
    · exact .plain (by decide)
  case enumeration => exact .values rfl htype
  case timestamp =>
    cases hnullable : c.nullable with
    | false => exact .preset rfl htype hnullable
    | true => exact .plain (by decide)
  all_goals exact .plain (by decide)

theorem postgresType_text (c : Column) (name : String) :
    TypeText .postgres c name (c.postgresType name) := by
  unfold postgresType
  cases htype : c.type <;> dsimp only
  case char | string => exact .sized (by decide) _
  case decimal => exact .numeric (by decide) _ _
  case integer | bigInteger => split <;> exact .plain (by decide)
  case enumeration => exact .check rfl htype
  all_goals exact .plain (by decide)

theorem sqlServerType_text (c : Column) (name : String) :
    TypeText .sqlServer c name c.sqlServerType := by
  unfold sqlServerType
  cases c.type <;> dsimp only
  case char | string => exact .sized (by decide) _
  case decimal => exact .numeric (by decide) _ _
  all_goals exact .plain (by decide)

theorem sqliteType_text (c : Column) (name : String) : TypeText .sqlite c name c.sqliteType := by
  unfold sqliteType
  cases c.type <;> exact .plain (by decide)

end Column

theorem Grammar.nativeType_text (g : Grammar) (c : Column) :
    TypeText g.dialect c (g.reference c.name) (g.nativeType c) := by
  unfold nativeType
  cases g.dialect with
  | mysql => exact c.mysqlType_text _
  | postgres => exact c.postgresType_text _
  | sqlServer => exact c.sqlServerType_text _
  | sqlite => exact c.sqliteType_text _

end TableDdl
