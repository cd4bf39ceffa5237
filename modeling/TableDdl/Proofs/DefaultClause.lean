/-
The default of a column in its definition.

A definition names the column and goes on with the words of its native type and with clauses.  The
clauses are those that the attributes of the column call for, and one more: in MySQL the native type
of a timestamp that is not nullable sets a default of its own (`presetsDefault`).  `writtenClauses`
lists them in order, and `defaults` picks the defaults.

A column has at most one default, its own if it has one, except for such a timestamp with a default:
that has both (`defaults_le_one_iff`).  The clauses are the same wherever the column is defined.
-/
import TableDdl.Proofs.Identifier
import TableDdl.Proofs.Literal
import TableDdl.Proofs.NativeType

namespace TableDdl

structure WrittenClause where
  clause : Clause
  text : String

namespace Grammar

/-- Whether the native type of the column sets a default. -/
def presetsDefault (g : Grammar) (c : Column) : Bool :=
  g.dialect == .mysql && c.type == .timestamp && !c.nullable

/-- The native type without the clause that it may end in. -/
def typeWords (g : Grammar) (c : Column) : String :=
  if g.presetsDefault c then "timestamp" else g.nativeType c

/-- The clauses that the native type brings along. -/
def typeClauses (g : Grammar) (c : Column) : List WrittenClause :=
  if g.presetsDefault c then [⟨.default, " default 0"⟩] else []

/-- The clauses that the attributes call for. -/
def attributeClauses (g : Grammar) (c : Column) : List WrittenClause :=
  g.dialect.clauses.filterMap fun clause => (g.clause? clause c).map (⟨clause, ·⟩)

/-- The clauses of a definition, in order. -/
def writtenClauses (g : Grammar) (c : Column) : List WrittenClause :=
  g.typeClauses c ++ g.attributeClauses c

/-- The default clauses of a definition, in order. -/
def defaults (g : Grammar) (c : Column) : List String :=
  ((g.writtenClauses c).filter fun written => written.clause == .default).map WrittenClause.text

/-- What stands between the name of a column and its native type. -/
def typeLink (g : Grammar) : Command → String
  | .modifyColumn _ => if g.dialect = .postgres then " type " else " "
  | _ => " "

end Grammar

/-- The columns that a command defines. -/
def Blueprint.defines (b : Blueprint) : Command → List Column
  | .create | .add => b.columns
  | .modifyColumn c => [c]
  | _ => []

/-! ## The words of a native type -/

/-- The text lacks a letter of the word `default`. -/
def Text.LacksLetter (s : String) : Prop := 'u' ∉ s.toList ∨ 'f' ∉ s.toList

instance (s : String) : Decidable (Text.LacksLetter s) := inferInstanceAs (Decidable (_ ∨ _))

theorem Text.LacksLetter.no_default {s : String} (h : LacksLetter s) :
    ¬ " default".toList <:+: s.toList := by
  intro hwithin
  rcases h with h | h
  · exact h (hwithin.subset (by decide))
  · exact h (hwithin.subset (by decide))

section Parameters

variable {x : Char} {word : String}

theorem not_mem_sizedType (hword : x ∉ word.toList) (hdigit : x.isDigit = false)
    (hmark : x ∉ "(, )".toList) (size : Option UInt32) : x ∉ (sizedType word size).toList := by
  have hdigits := not_mem_natText hdigit (size.getD 255).toNat
  unfold sizedType
  simp_all

theorem not_mem_numericType (hword : x ∉ word.toList) (hdigit : x.isDigit = false)
    (hmark : x ∉ "(, )".toList) (total places : UInt32) :
    x ∉ (numericType word total places).toList := by
  have htotal := not_mem_natText hdigit total.toNat
  have hplaces := not_mem_natText hdigit places.toNat
  unfold numericType
  simp_all

end Parameters

theorem Dialect.plainTypes_lacksLetter (d : Dialect) :
    ∀ text ∈ d.plainTypes, Text.LacksLetter text := by
  cases d <;> decide

theorem Dialect.sizedWords_lacksLetter (d : Dialect) :
    ∀ word ∈ d.sizedWords, 'u' ∉ word.toList := by
  cases d <;> decide

theorem Dialect.numericWords_lacksLetter (d : Dialect) :
    ∀ word ∈ d.numericWords, 'u' ∉ word.toList ∨ 'f' ∉ word.toList := by
  cases d <;> decide

/-- The type of a column without values says nothing of a default, unless it presets one. -/
theorem TypeText.lacksLetter {d : Dialect} {c : Column} {name text : String}
    (h : TypeText d c name text) (hname : 'u' ∉ name.toList) (hallowed : c.allowed = [])
    (hpreset : ¬ (d = .mysql ∧ c.type = .timestamp ∧ c.nullable = false)) :
    Text.LacksLetter text := by
  cases h with
  | plain h => exact d.plainTypes_lacksLetter _ h
  | preset hdialect htype hnullable => exact absurd ⟨hdialect, htype, hnullable⟩ hpreset
  | sized h size =>
      exact .inl (not_mem_sizedType (d.sizedWords_lacksLetter _ h) (by decide) (by decide) size)
  | numeric h total places =>
      rcases d.numericWords_lacksLetter _ h with h | h
      · exact .inl (not_mem_numericType h (by decide) (by decide) total places)
      · exact .inr (not_mem_numericType h (by decide) (by decide) total places)
  | values =>
      rw [Column.allowedList, hallowed]
      decide
  | check =>
      refine .inl ?_
      rw [Column.allowedList, hallowed]
      simp [hname]

namespace Grammar

variable {g : Grammar} {c : Column}

theorem presetsDefault_iff :
    g.presetsDefault c = true ↔
      g.dialect = .mysql ∧ c.type = .timestamp ∧ c.nullable = false := by
  simp [presetsDefault, and_assoc]

/-- Outside the name and the values of a column, the words of its type say nothing of a default. -/
theorem typeWords_no_default (g : Grammar) (c : Column) :
    ¬ " default".toList <:+: (g.typeWords { c with name := "", allowed := [] }).toList := by
  refine Text.LacksLetter.no_default ?_
  unfold typeWords
  split
  · exact .inl (by decide)
  · rename_i hpreset
    rw [presetsDefault_iff] at hpreset
    have hreference : 'u' ∉ (g.reference "").toList := by
      unfold reference
      rw [Identifier.reference_of_not_split rfl, Identifier.path_of_single (by decide)]
      unfold quoteChar
      cases g.dialect <;> decide
    exact (g.nativeType_text _).lacksLetter hreference rfl hpreset

/-! ## The clauses of a definition -/

theorem nativeType_eq (g : Grammar) (c : Column) :
    g.nativeType c = g.typeWords c ++ String.join ((g.typeClauses c).map WrittenClause.text) := by
  unfold typeWords typeClauses
  cases hpreset : g.presetsDefault c with
  | false => simp
  | true =>
      obtain ⟨hdialect, htype, hnullable⟩ := presetsDefault_iff.mp hpreset
      have hnative : g.nativeType c = "timestamp default 0" := by
        unfold nativeType Column.mysqlType
        rw [hdialect, htype, hnullable]
        rfl
      rw [hnative]
      decide

theorem clauses_eq (g : Grammar) (c : Column) :
    g.clauses c = String.join ((g.attributeClauses c).map WrittenClause.text) := by
  unfold clauses attributeClauses
  rw [List.map_filterMap]
  simp [Function.comp_def]

/-- Behind the name, a definition is the words of the type and the clauses in order. -/
theorem specification_eq (g : Grammar) (c : Column) :
    g.nativeType c ++ g.clauses c =
      g.typeWords c ++ String.join ((g.writtenClauses c).map WrittenClause.text) := by
  rw [nativeType_eq, clauses_eq, writtenClauses, List.map_append, String.join_append,
    String.append_assoc]

theorem texts_of_clause (texts : Clause → Option String) (wanted : Clause)
    (clauses : List Clause) :
    ((clauses.filterMap fun clause => (texts clause).map (WrittenClause.mk clause)).filter
        fun written => written.clause == wanted).map WrittenClause.text =
      (clauses.filter (· == wanted)).filterMap texts := by
  induction clauses with
  | nil => rfl
  | cons clause rest ih =>
      by_cases hclause : clause = wanted
      · subst hclause
        cases htext : texts clause <;> simp [htext, ih]
      · cases htext : texts clause <;> simp [htext, hclause, ih]

/-- The default of the type comes before that of the column. -/
theorem defaults_eq (g : Grammar) (c : Column) :
    g.defaults c = (if g.presetsDefault c then [" default 0"] else []) ++
      (c.defaultValue.map fun value => " default " ++ value.sql).toList := by
  have honce : g.dialect.clauses.filter (· == .default) = [.default] := by
    cases g.dialect <;> rfl
  unfold defaults writtenClauses typeClauses attributeClauses
  rw [List.filter_append, List.map_append, texts_of_clause, honce, ← clause?_default]
  cases g.presetsDefault c <;> cases htext : g.clause? .default c <;> simp [htext]

/-! ## Where a column is defined -/

section Statements

variable {g : Grammar} {b : Blueprint}

theorem within_append_left {s : List Char} {t : String} (h : s <:+: t.toList) (u : String) :
    s <:+: (t ++ u).toList := by
  rw [String.toList_append]
  exact List.infix_append_of_infix_left h

theorem within_append_right {s : List Char} {u : String} (t : String) (h : s <:+: u.toList) :
    s <:+: (t ++ u).toList := by
  rw [String.toList_append]
  exact List.infix_append_of_infix_right h

theorem within_intercalate (separator : String) {text : String} {texts : List String}
    (h : text ∈ texts) : text.toList <:+: (separator.intercalate texts).toList := by
  rw [String.toList_intercalate]
  exact Identifier.infix_intercalate separator.toList (List.mem_map_of_mem h)

theorem within_prefixed (keyword separator : String) {text : String} {texts : List String}
    (h : text ∈ texts) :
    text.toList <:+: (separator.intercalate (prefixed keyword texts)).toList := by
  have hprefixed : keyword ++ " " ++ text ∈ prefixed keyword texts := List.mem_map_of_mem h
  exact (within_append_right _ List.infix_rfl).trans (within_intercalate separator hprefixed)

theorem within_createTable (connection : Connection) {text : String}
    (h : text ∈ g.definitions b) : text.toList <:+: (g.createTable connection b).toList := by
  have hopening : text.toList <:+: ("create table " ++ g.tableReference b.table ++ " (" ++
      ", ".intercalate (g.definitions b)).toList :=
    within_append_right _ (within_intercalate ", " h)
  unfold createTable
  cases g.dialect with
  | mysql => exact within_append_left (within_append_left (within_append_left
      (within_append_left hopening _) _) _) _
  | postgres | sqlServer => exact within_append_left hopening _
  | sqlite => exact within_append_left (within_append_left (within_append_left hopening _) _) _

theorem within_addColumns {text : String} (h : text ∈ g.definitions b) :
    ∃ statement ∈ g.addColumns b, text.toList <:+: statement.toList := by
  unfold addColumns
  cases g.dialect with
  | mysql | postgres =>
      exact ⟨_, List.mem_singleton_self _, within_append_right _ (within_prefixed _ ", " h)⟩
  | sqlServer =>
      exact ⟨_, List.mem_singleton_self _, within_append_right _ (within_intercalate ", " h)⟩
  | sqlite =>
      exact ⟨_, List.mem_map_of_mem h, within_append_right _ List.infix_rfl⟩

/-- The text that defines a column in the statements of a command. -/
def definitionIn (g : Grammar) (command : Command) (c : Column) : String :=
  g.reference c.name ++ g.typeLink command ++
    (g.typeWords c ++ String.join ((g.writtenClauses c).map WrittenClause.text))

theorem definitionIn_eq {command : Command} {c : Column} (h : g.typeLink command = " ") :
    g.definitionIn command c = g.definition c := by
  rw [definitionIn, h, ← specification_eq, ← String.append_assoc]
  rfl

theorem plan_defines (connection : Connection) {command : Command} {c : Column}
    {sql : List String} (hc : c ∈ b.defines command)
    (hplan : g.plan connection b command = .statements sql) :
    ∃ statement ∈ sql, (g.definitionIn command c).toList <:+: statement.toList := by
  cases command with
  | create =>
      cases hplan
      have hdefinition : g.definition c ∈ g.definitions b := List.mem_map_of_mem hc
      rw [definitionIn_eq rfl]
      exact ⟨_, List.mem_singleton_self _, within_createTable connection hdefinition⟩
  | add =>
      cases hplan
      have hdefinition : g.definition c ∈ g.definitions b := List.mem_map_of_mem hc
      rw [definitionIn_eq rfl]
      exact within_addColumns hdefinition
  | modifyColumn column =>
      obtain rfl : c = column := List.mem_singleton.mp hc
      have hmodify : g.modifyColumn b c = .statements sql := hplan
      unfold modifyColumn at hmodify
      cases hdialect : g.dialect with
      | mysql | sqlServer =>
          rw [hdialect] at hmodify
          cases hmodify
          rw [definitionIn_eq (by rw [typeLink, hdialect]; rfl)]
          exact ⟨_, List.mem_singleton_self _, within_append_right _ List.infix_rfl⟩
      | postgres =>
          rw [hdialect] at hmodify
          cases hmodify
          have hstatement : g.alterTable b ++ " alter column " ++ g.reference c.name ++ " type " ++
              g.nativeType c ++ g.clauses c =
                g.alterTable b ++ " alter column " ++ g.definitionIn (.modifyColumn c) c := by
            rw [definitionIn, ← specification_eq, typeLink, if_pos hdialect]
            simp only [String.append_assoc]
          refine ⟨_, List.mem_singleton_self _, ?_⟩
          rw [hstatement]
          exact within_append_right _ List.infix_rfl
      | sqlite =>
          rw [hdialect] at hmodify
          cases hmodify
  | _ => cases hc

end Statements

/-- A definition has at most one default, the column's own if it has one, unless MySQL's type for a
timestamp that is not nullable comes with a default and the column has another.  Then it has both, in
that order.  The clauses stand in the statements as they are listed. -/
theorem defaults_le_one_iff (g : Grammar) (c : Column) :
    ((g.defaults c).length ≤ 1 ∧
        (∀ value, c.defaultValue = some value → g.defaults c = [" default " ++ value.sql]) ↔
      ¬ (g.dialect = .mysql ∧ c.type = .timestamp ∧ c.nullable = false ∧
        c.defaultValue ≠ none)) ∧
    (∀ value, g.dialect = .mysql → c.type = .timestamp → c.nullable = false →
      c.defaultValue = some value →
        g.defaults c = [" default 0", " default " ++ value.sql]) ∧
    (g.nativeType c ++ g.clauses c =
        g.typeWords c ++ String.join ((g.writtenClauses c).map WrittenClause.text) ∧
      ¬ " default".toList <:+: (g.typeWords { c with name := "", allowed := [] }).toList) ∧
    ∀ (connection : Connection) (b : Blueprint) (command : Command) (sql : List String),
      c ∈ b.defines command → g.plan connection b command = .statements sql →
        ∃ statement ∈ sql, (g.definitionIn command c).toList <:+: statement.toList := by
  refine ⟨?_, ?_, ⟨g.specification_eq c, g.typeWords_no_default c⟩, ?_⟩
  · have hpresets := presetsDefault_iff (g := g) (c := c)
    rw [defaults_eq]
    cases hpreset : g.presetsDefault c with
    | false =>
        have hapart : ¬ (g.dialect = .mysql ∧ c.type = .timestamp ∧ c.nullable = false) := by
          rw [← hpresets, hpreset]
          exact Bool.false_ne_true
        refine iff_of_true ?_ fun h => hapart ⟨h.1, h.2.1, h.2.2.1⟩
        cases c.defaultValue <;> simp
    | true =>
        obtain ⟨hdialect, htype, hnullable⟩ := hpresets.mp hpreset
        cases hvalue : c.defaultValue with
        | none => simp
        | some value => simp [hdialect, htype, hnullable]
  · intro value hdialect htype hnullable hvalue
    rw [defaults_eq, presetsDefault_iff.mpr ⟨hdialect, htype, hnullable⟩, hvalue]
    rfl
  · exact fun connection b command sql hc hplan => plan_defines connection hc hplan

/-- A timestamp with a default, which MySQL alone gives two. -/
theorem defaults_le_one_iff_timestamp :
    let happened : Column :=
      { name := "happened_at", type := .timestamp
        defaultValue := some (.expression "CURRENT_TIMESTAMP") }
    let b : Blueprint := { table := "events", columns := [happened] }
    let mysql : Grammar := { dialect := .mysql }
    let postgres : Grammar := { dialect := .postgres }
    let connection : Connection := { dialect := .mysql }
    mysql.defaults happened = [" default 0", " default CURRENT_TIMESTAMP"] ∧
      ¬ (mysql.defaults happened).length ≤ 1 ∧
      postgres.defaults happened = [" default CURRENT_TIMESTAMP"] ∧
      mysql.plan connection b .create = .statements ["create table `events` " ++
        "(`happened_at` timestamp default 0 not null default CURRENT_TIMESTAMP)"] ∧
      (mysql.definitionIn .create happened).toList <:+: ("create table `events` " ++
        "(`happened_at` timestamp default 0 not null default CURRENT_TIMESTAMP)").toList := by
  intro happened b mysql postgres connection
  obtain ⟨-, hboth, -, hplaces⟩ := defaults_le_one_iff mysql happened
  have htwo := hboth (.expression "CURRENT_TIMESTAMP") rfl rfl rfl rfl
  have hone := (defaults_le_one_iff postgres happened).1.mpr (by decide)
  have hplan : mysql.plan connection b .create = .statements ["create table `events` " ++
      "(`happened_at` timestamp default 0 not null default CURRENT_TIMESTAMP)"] := by
    decide +kernel
  obtain ⟨statement, hstatement, hwithin⟩ :=
    hplaces connection b .create _ (List.mem_singleton_self _) hplan
  rw [List.mem_singleton.mp hstatement] at hwithin
  refine ⟨htwo, ?_, hone.2 _ rfl, hplan, hwithin⟩
  rw [htwo]
  decide

end Grammar
end TableDdl
