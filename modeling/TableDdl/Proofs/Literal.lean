/-
Reading string literals back.

A statement holds the texts of a user between single quotes.  Where such a literal ends is for the
database to say, so a reader is given by a `LiteralRule`, which reads the inside of one literal;
`literal?` and `literals?` add the quotes and the commas of a list.  Under the standard rule a quote
inside a literal is written twice (`doubling`), and that is how every literal here is written, so
whatever the text is, it is read back (`literals_read_back`).
-/
import TableDdl.Grammar.Plan
import TableDdl.Grammar.Query
import TableDdl.TableDiff

namespace TableDdl

/-! ## Readers -/

/-- How the inside of a literal is read: the text it stands for, and what follows its last quote. -/
structure LiteralRule where
  body? : List Char → Option (List Char × List Char)
  shorter : ∀ {s text after : List Char}, body? s = some (text, after) → after.length < s.length

namespace LiteralRule

/-- A literal ends at the first quote that is not doubled. -/
def doubling : LiteralRule where
  body? := Text.readQuoted? '\''
  shorter h := Nat.lt_of_le_of_lt (Nat.le_add_left _ _) (Text.length_of_readQuoted? h)

variable (r : LiteralRule)

def literal? : List Char → Option (List Char × List Char)
  | [] => none
  | c :: rest => if c = '\'' then r.body? rest else none

theorem length_lt_of_literal? {r : LiteralRule} {s text after : List Char}
    (h : r.literal? s = some (text, after)) : after.length < s.length := by
  cases s with
  | nil => cases h
  | cons c rest =>
      rw [literal?] at h
      split at h
      · exact Nat.lt_succ_of_lt (r.shorter h)
      · cases h

/-- What goes on with one more literal after a comma and a blank. -/
def next? : List Char → Option (List Char)
  | ',' :: ' ' :: '\'' :: rest => some ('\'' :: rest)
  | _ => none

theorem eq_of_next? {s rest : List Char} (h : next? s = some rest) : s = ',' :: ' ' :: rest := by
  unfold next? at h
  split at h
  · cases h
    rfl
  · cases h

/-- Reads a list of literals, which may be empty: the texts, and what follows. -/
def literals? (s : List Char) : Option (List (List Char) × List Char) :=
  if s.head? ≠ some '\'' then some ([], s)
  else
    match h : r.literal? s with
    | none => none
    | some (text, after) =>
        match hnext : next? after with
        | none => some ([text], after)
        | some rest =>
            have := length_lt_of_literal? h
            have := eq_of_next? hnext
            (literals? rest).map fun others => (text :: others.1, others.2)
termination_by s.length
decreasing_by
  subst after
  simp only [List.length_cons] at *
  omega

/-- Between `before` and `behind` the text is the literals of these values, read with what follows
the text. -/
def Lists (before text behind : String) (after : List Char) (values : List (List Char)) : Prop :=
  ∃ list, text = before ++ list ++ behind ∧
    r.literals? (list.toList ++ (behind.toList ++ after)) = some (values, behind.toList ++ after)

/-- A text that is read back from its literal, which ends at its last quote. -/
def Recovers (s : List Char) : Prop :=
  ∀ after : List Char, after.head? ≠ some '\'' →
    r.body? (Text.doubled '\'' s ++ '\'' :: after) = some (s, after)

theorem doubling_recovers (s : List Char) : doubling.Recovers s :=
  fun after h => Text.readQuoted?_doubled '\'' s after h

variable {r} {s text after rest : List Char}

theorem literals?_of_no_quote (h : s.head? ≠ some '\'') : r.literals? s = some ([], s) := by
  rw [literals?, if_pos h]

theorem head?_of_literal? (h : r.literal? s = some (text, after)) : s.head? = some '\'' := by
  cases s with
  | nil => cases h
  | cons c rest =>
      rw [literal?] at h
      split at h
      · rename_i hc
        exact congrArg some hc
      · cases h

theorem literals?_of_end (h : r.literal? s = some (text, after)) (hend : next? after = none) :
    r.literals? s = some ([text], after) := by
  rw [literals?, if_neg (not_not_intro (head?_of_literal? h))]
  split
  next hnone =>
    rw [h] at hnone
    cases hnone
  next hsome =>
    rw [h] at hsome
    cases hsome
    split
    next => rfl
    next hnext =>
      rw [hend] at hnext
      cases hnext

theorem literals?_of_next (h : r.literal? s = some (text, after)) (hnext : next? after = some rest) :
    r.literals? s = (r.literals? rest).map fun others => (text :: others.1, others.2) := by
  rw [literals?, if_neg (not_not_intro (head?_of_literal? h))]
  split
  next hnone =>
    rw [h] at hnone
    cases hnone
  next hsome =>
    rw [h] at hsome
    cases hsome
    split
    next hend =>
      rw [hnext] at hend
      cases hend
    next hrest =>
      rw [hnext] at hrest
      cases hrest
      rfl

end LiteralRule

/-! ## Reading what was written -/

namespace Text

theorem quoteLiteral_toList (s : String) :
    (quoteLiteral s).toList = '\'' :: (doubled '\'' s.toList ++ ['\'']) := by
  unfold quoteLiteral escapeQuotes
  simp only [String.toList_append, String.toList_ofList]
  rfl

theorem escapeQuotes_append (s t : String) :
    escapeQuotes (s ++ t) = escapeQuotes s ++ escapeQuotes t := by
  unfold escapeQuotes
  rw [String.toList_append, doubled_append, String.ofList_append]

/-- Values as they stand in a list of literals. -/
def literalList (values : List String) : String := ", ".intercalate (values.map quoteLiteral)

theorem literalList_cons_cons (value second : String) (others : List String) :
    literalList (value :: second :: others) =
      quoteLiteral value ++ ", " ++ literalList (second :: others) := by
  simp only [literalList, List.map_cons, String.intercalate_cons_cons]

theorem exists_literalList_eq (value : String) (others : List String) :
    ∃ more, (literalList (value :: others)).toList = '\'' :: more := by
  cases others with
  | nil =>
      rw [literalList, List.map_singleton, String.intercalate_singleton, quoteLiteral_toList]
      exact ⟨_, rfl⟩
  | cons second others =>
      rw [literalList_cons_cons, String.append_assoc, String.toList_append, quoteLiteral_toList]
      exact ⟨_, rfl⟩

end Text

namespace LiteralRule

variable {r : LiteralRule} {after : List Char}

theorem literal?_quoteLiteral {s : String} (hs : r.Recovers s.toList)
    (hafter : after.head? ≠ some '\'') :
    r.literal? ((Text.quoteLiteral s).toList ++ after) = some (s.toList, after) := by
  rw [Text.quoteLiteral_toList, List.cons_append, List.append_assoc, literal?, if_pos rfl]
  exact hs after hafter

theorem literals?_literalList {values : List String} (hvalues : ∀ v ∈ values, r.Recovers v.toList)
    (hafter : after.head? ≠ some '\'') (hend : next? after = none) :
    r.literals? ((Text.literalList values).toList ++ after) =
      some (values.map String.toList, after) := by
  induction values with
  | nil => exact literals?_of_no_quote hafter
  | cons value others ih =>
      have hvalue := hvalues value List.mem_cons_self
      cases others with
      | nil =>
          rw [Text.literalList, List.map_singleton, String.intercalate_singleton]
          exact literals?_of_end (literal?_quoteLiteral hvalue hafter) hend
      | cons second others =>
          have hothers := ih fun v hv => hvalues v (List.mem_cons_of_mem _ hv)
          obtain ⟨more, hmore⟩ := Text.exists_literalList_eq second others
          rw [hmore] at hothers
          have hread : r.literal? ((Text.quoteLiteral value).toList ++
              ',' :: ' ' :: '\'' :: (more ++ after)) = _ :=
            literal?_quoteLiteral hvalue (by simp)
          have hwhole : (Text.literalList (value :: second :: others)).toList ++ after =
              (Text.quoteLiteral value).toList ++ ',' :: ' ' :: '\'' :: (more ++ after) := by
            rw [Text.literalList_cons_cons, String.toList_append, String.toList_append, hmore,
              List.append_assoc, List.append_assoc]
            rfl
          rw [hwhole, literals?_of_next hread rfl]
          exact congrArg (Option.map _) hothers

theorem lists_literalList {before text behind : String} {values : List String}
    (htext : text = before ++ Text.literalList values ++ behind)
    (hvalues : ∀ v ∈ values, r.Recovers v.toList)
    (hafter : (behind.toList ++ after).head? ≠ some '\'')
    (hend : next? (behind.toList ++ after) = none) :
    r.Lists before text behind after (values.map String.toList) :=
  ⟨_, htext, literals?_literalList hvalues hafter hend⟩

end LiteralRule

/-! ## What stands between quotes -/

section Digits

variable {x : Char}

theorem not_mem_toDigits (hx : x.isDigit = false) (n : Nat) : x ∉ Nat.toDigits 10 n := by
  intro h
  rw [Nat.isDigit_of_mem_toDigits (by decide) (by decide) h] at hx
  cases hx

theorem not_mem_natText (hx : x.isDigit = false) (n : Nat) : x ∉ (toString n).toList := by
  show x ∉ (String.ofList (Nat.toDigits 10 n)).toList
  rw [String.toList_ofList]
  exact not_mem_toDigits hx n

theorem not_mem_intText (hx : x.isDigit = false) (hsign : x ≠ '-') (n : Int) :
    x ∉ (toString n).toList := by
  cases n with
  | ofNat m => exact not_mem_natText hx m
  | negSucc m =>
      show x ∉ ("-" ++ toString (m + 1)).toList
      rw [String.toList_append, List.mem_append, not_or]
      exact ⟨by simpa using hsign, not_mem_natText hx (m + 1)⟩

end Digits

theorem Decimal.quote_not_mem_positional (d : Decimal) : '\'' ∉ d.positional.toList := by
  have hkept : '\'' ∉ ((Nat.toDigits 10 d.digits).reverse.dropWhile (· == '0')).reverse := by
    intro h
    have hall := (List.dropWhile_sublist _).subset (List.mem_reverse.mp h)
    exact not_mem_toDigits (by decide) _ (List.mem_reverse.mp hall)
  unfold positional
  extract_lets all kept exponent places padded whole
  have hpadded : '\'' ∉ padded := by
    simp only [padded, List.mem_append, List.mem_replicate, not_or]
    exact ⟨fun h => absurd h.2 (by decide), hkept⟩
  split
  · decide
  · split
    · rw [String.toList_ofList, List.mem_append, List.mem_replicate, not_or]
      exact ⟨hkept, fun h => absurd h.2 (by decide)⟩
    · rw [String.toList_ofList, List.mem_append, List.mem_cons, not_or, not_or]
      exact ⟨fun h => hpadded (List.mem_of_mem_take h), by decide,
        fun h => hpadded (List.mem_of_mem_drop h)⟩

theorem Binary64.quote_not_mem_text (x : Binary64) : '\'' ∉ x.text.toList := by
  unfold text
  extract_lets body
  have hbody : '\'' ∉ body.toList := by
    unfold body
    split
    · decide
    · split
      · decide
      · exact x.shortest.quote_not_mem_positional
  split
  · decide
  · split
    · rw [String.toList_append, List.mem_append, not_or]
      exact ⟨by decide, hbody⟩
    · exact hbody

namespace DefaultValue

/-- No number and no truth value holds a quote. -/
theorem quote_not_mem_plainText {v : DefaultValue} (hstring : ∀ s, v ≠ .string s)
    (hsql : ∀ sql, v ≠ .expression sql) : '\'' ∉ v.plainText.toList := by
  cases v with
  | boolean value => cases value <;> decide
  | integer value => exact not_mem_intText (by decide) (by decide) value.toInt
  | float value => exact value.quote_not_mem_text
  | string s => exact absurd rfl (hstring s)
  | expression sql => exact absurd rfl (hsql sql)

theorem sql_of_not_expression {v : DefaultValue} (h : ∀ sql, v ≠ .expression sql) :
    v.sql = Text.quoteLiteral v.plainText := by
  cases v with
  | expression sql => exact absurd rfl (h sql)
  | boolean _ | integer _ | float _ | string _ => rfl

end DefaultValue

namespace Grammar

/-- The parts between the dots are joined by two underscores. -/
theorem undotted_toList (s : String) :
    (undotted s).toList = "__".toList.intercalate (s.toList.splitOn '.') := by
  rw [undotted, String.toList_ofList]
  induction s.toList with
  | nil => rfl
  | cons c rest ih =>
      rw [List.flatMap_cons, ih, List.splitOn_cons_eq_if_modifyHead]
      obtain ⟨first, others, hrest⟩ := List.exists_cons_of_ne_nil (List.splitOn_ne_nil '.' rest)
      rw [hrest]
      by_cases hc : c = '.'
      · rw [if_pos hc, if_pos (beq_iff_eq.mpr hc), List.intercalate_cons_cons]
        rfl
      · rw [if_neg hc, if_neg (mt beq_iff_eq.mp hc)]
        cases others with
        | nil => simp
        | cons second others => simp [List.intercalate_cons_cons]

theorem clause?_default (g : Grammar) (c : Column) :
    g.clause? .default c = c.defaultValue.map fun value => " default " ++ value.sql := by
  have hmem : Clause.default ∈ g.dialect.clauses := by cases g.dialect <;> decide
  unfold clause?
  rw [if_pos hmem]

theorem nativeType_of_mysql {g : Grammar} {c : Column} (hg : g.dialect = .mysql)
    (hc : c.type = .enumeration) :
    g.nativeType c = "enum(" ++ Text.literalList c.allowed ++ ")" := by
  unfold nativeType Column.mysqlType
  rw [hg, hc]
  rfl

theorem nativeType_of_postgres {g : Grammar} {c : Column} (hg : g.dialect = .postgres)
    (hc : c.type = .enumeration) :
    g.nativeType c = "varchar(255) check (" ++ g.reference c.name ++ " in (" ++
      Text.literalList c.allowed ++ "))" := by
  unfold nativeType Column.postgresType
  rw [hg, hc]
  rfl

theorem columnQuery_of_sqlite {g : Grammar} (hg : g.dialect = .sqlite) (table : String)
    (database : Option String) :
    (g.columnQuery table database).sql = "select name from pragma_table_info(" ++
      Text.literalList [undotted (g.tableName table)] ++ ")" := by
  unfold columnQuery
  rw [hg, Text.literalList, List.map_singleton, String.intercalate_singleton]

end Grammar

theorem TableDiff.renameStatement_of_sqlServer (d : TableDiff) (old : String) (new : LiveColumn) :
    d.renameStatement .sqlServer old new =
      "sp_rename " ++ Text.literalList [d.table ++ "." ++ old, new.name, "COLUMN"] := by
  have hdot : Text.escapeQuotes "." = "." := by decide
  have hword : Text.escapeQuotes "COLUMN" = "COLUMN" := by decide
  have hopening : "sp_rename '" = "sp_rename " ++ "'" := by decide
  have hbetween : "', '" = "'" ++ ", " ++ "'" := by decide
  have hclosing : "', 'COLUMN'" = "'" ++ ", " ++ "'" ++ "COLUMN" ++ "'" := by decide
  rw [Text.literalList_cons_cons, Text.literalList_cons_cons, Text.literalList, List.map_singleton,
    String.intercalate_singleton]
  unfold renameStatement Text.quoteLiteral
  rw [Text.escapeQuotes_append, Text.escapeQuotes_append, hdot, hword, hopening, hbetween, hclosing]
  simp only [String.append_assoc]

namespace LiteralRule

/-- Whatever the texts are, they are read back from the literals that hold them, and reading stops
where the literals do.  Numbers and truth values stand between the quotes as they are. -/
theorem literals_read_back (after : List Char) :
    (after.head? ≠ some '\'' →
      (∀ s : String,
        doubling.literal? ((Text.quoteLiteral s).toList ++ after) = some (s.toList, after)) ∧
      ∀ v : DefaultValue, (∀ sql, v ≠ .expression sql) →
        doubling.literal? (v.sql.toList ++ after) = some (v.plainText.toList, after) ∧
        ((∀ s, v ≠ .string s) → v.sql = "'" ++ v.plainText ++ "'")) ∧
    (∀ (g : Grammar) (c : Column), c.type = .enumeration →
      (g.dialect = .mysql →
        doubling.Lists "enum(" (g.nativeType c) ")" after (c.allowed.map String.toList)) ∧
      (g.dialect = .postgres →
        doubling.Lists ("varchar(255) check (" ++ g.reference c.name ++ " in (") (g.nativeType c)
          "))" after (c.allowed.map String.toList))) ∧
    (∀ (g : Grammar) (table : String) (database : Option String), g.dialect = .sqlite →
      doubling.Lists "select name from pragma_table_info(" (g.columnQuery table database).sql ")"
        after ["__".toList.intercalate ((g.tablePrefix ++ table).toList.splitOn '.')]) ∧
    ∀ (d : TableDiff) (old : String) (new : LiveColumn),
      doubling.Lists "sp_rename " (d.renameStatement .sqlServer old new) "" []
        [(d.table ++ "." ++ old).toList, new.name.toList, "COLUMN".toList] := by
  have hall : ∀ values : List String, ∀ v ∈ values, doubling.Recovers v.toList :=
    fun _ v _ => doubling_recovers v.toList
  refine ⟨fun hafter => ⟨?_, ?_⟩, ?_, ?_, ?_⟩
  · exact fun s => literal?_quoteLiteral (doubling_recovers s.toList) hafter
  · intro v hsql
    rw [DefaultValue.sql_of_not_expression hsql]
    refine ⟨literal?_quoteLiteral (doubling_recovers _) hafter, fun hstring => ?_⟩
    rw [Text.quoteLiteral, Text.escapeQuotes,
      Text.doubled_of_not_mem (DefaultValue.quote_not_mem_plainText hstring hsql),
      String.ofList_toList]
  · intro g c hc
    constructor
    · intro hg
      exact lists_literalList (Grammar.nativeType_of_mysql hg hc) (hall _) (by simp) rfl
    · intro hg
      exact lists_literalList (Grammar.nativeType_of_postgres hg hc) (hall _) (by simp) rfl
  · intro g table database hg
    have hlist : doubling.Lists _ _ ")" after [(Grammar.undotted (g.tableName table)).toList] :=
      lists_literalList (Grammar.columnQuery_of_sqlite hg table database) (hall _) (by simp) rfl
    rw [Grammar.undotted_toList] at hlist
    exact hlist
  · intro d old new
    have hstatement := d.renameStatement_of_sqlServer old new
    rw [← String.append_empty (s := _ ++ _)] at hstatement
    exact lists_literalList hstatement (hall _) (by decide) rfl

/-- Quotes at the ends, alone, and around what separates the values of a list. -/
theorem literals_read_back_quotes :
    let status : Column :=
      { name := "status", type := .enumeration, allowed := ["'it's'", "', '", "''", ""] }
    let postgres : Grammar := { dialect := .postgres }
    let sqlite : Grammar := { dialect := .sqlite, tablePrefix := "it's." }
    let rest := ", \"kind\" text)".toList
    rest.head? ≠ some '\'' ∧
      (DefaultValue.string "'").sql = "''''" ∧
      doubling.literal? ("''''".toList ++ rest) = some (['\''], rest) ∧
      postgres.nativeType status =
        "varchar(255) check (\"status\" in ('''it''s''', ''', ''', '''''', ''))" ∧
      doubling.Lists "varchar(255) check (\"status\" in (" (postgres.nativeType status) "))" rest
        ["'it's'".toList, "', '".toList, "''".toList, "".toList] ∧
      (sqlite.columnQuery "a.b" none).sql =
        "select name from pragma_table_info('it''s__a__b')" ∧
      doubling.Lists "select name from pragma_table_info(" (sqlite.columnQuery "a.b" none).sql ")"
        rest ["it's__a__b".toList] := by
  intro status postgres sqlite rest
  have hrest : rest.head? ≠ some '\'' := by decide
  obtain ⟨hvalues, hallowed, hlisting, -⟩ := literals_read_back rest
  have hdefault := (hvalues hrest).2 (.string "'") (fun sql h => by cases h)
  have hstatus := (hallowed postgres status rfl).2 rfl
  have hopening : "varchar(255) check (" ++ postgres.reference status.name ++ " in (" =
      "varchar(255) check (\"status\" in (" := by decide +kernel
  have hlist := hlisting sqlite "a.b" none rfl
  have hname : "__".toList.intercalate ((sqlite.tablePrefix ++ "a.b").toList.splitOn '.') =
      "it's__a__b".toList := by decide +kernel
  rw [hopening] at hstatus
  rw [hname] at hlist
  exact ⟨hrest, by decide, hdefault.1, by decide +kernel, hstatus, by decide +kernel, hlist⟩

end LiteralRule
end TableDdl
