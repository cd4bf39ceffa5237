/-
How the definition of a column names it.

The text of a definition begins with the name of the column, written as a reference.  So the name
may stand there as one identifier, or as several: a name with dots is a path, one with the alias
keyword is two references, and a lone `*` has no quotes.  `definition_names_column` says which
names are one identifier, and how the others are read.

What follows is a blank and the native type.  No native type starts with an `a`, so the blank is
never taken for the beginning of an alias keyword.
-/
import TableDdl.Grammar.Definition
import TableDdl.Proofs.NativeType
import TableDdl.Proofs.Reading
import TableDdl.Proofs.TableReference

namespace TableDdl

theorem Dialect.quoteChar_ne_dot (d : Dialect) : d.quoteChar ≠ '.' := by
  cases d <;> decide

theorem Dialect.quoteChar_ne_blank (d : Dialect) : d.quoteChar ≠ ' ' := by
  cases d <;> decide

namespace Text

/-- The text has a first character, and it is not an `a`. -/
def startsApart (s : String) : Bool := s.toList.head?.any fun c => asciiLower c != 'a'

theorem startsApart_append {s : String} (h : startsApart s = true) (t : String) :
    startsApart (s ++ t) = true := by
  unfold startsApart at h ⊢
  rw [String.toList_append, List.head?_append]
  cases hs : s.toList.head? with
  | none => simp [hs] at h
  | some c => simpa [hs] using h

end Text

theorem sizedType_startsApart {word : String} (h : Text.startsApart word = true)
    (size : Option UInt32) : Text.startsApart (sizedType word size) = true := by
  unfold sizedType
  exact Text.startsApart_append (Text.startsApart_append (Text.startsApart_append h _) _) _

theorem numericType_startsApart {word : String} (h : Text.startsApart word = true)
    (total places : UInt32) : Text.startsApart (numericType word total places) = true := by
  unfold numericType
  iterate 5 refine Text.startsApart_append ?_ _
  exact h

theorem Dialect.plainTypes_startsApart (d : Dialect) :
    ∀ text ∈ d.plainTypes, Text.startsApart text = true := by
  cases d <;> decide +kernel

theorem Dialect.sizedWords_startsApart (d : Dialect) :
    ∀ word ∈ d.sizedWords, Text.startsApart word = true := by
  cases d <;> decide

theorem Dialect.numericWords_startsApart (d : Dialect) :
    ∀ word ∈ d.numericWords, Text.startsApart word = true := by
  cases d <;> decide

theorem TypeText.startsApart {d : Dialect} {c : Column} {name text : String}
    (h : TypeText d c name text) : Text.startsApart text = true := by
  cases h with
  | plain h => exact d.plainTypes_startsApart _ h
  | preset => decide
  | sized h size => exact sizedType_startsApart (d.sizedWords_startsApart _ h) size
  | numeric h => exact numericType_startsApart (d.numericWords_startsApart _ h) _ _
  | values => exact Text.startsApart_append (Text.startsApart_append (by decide) _) _
  | check =>
      iterate 4 refine Text.startsApart_append ?_ _
      decide

namespace Grammar

theorem nativeType_startsApart (g : Grammar) (c : Column) :
    Text.startsApart (g.nativeType c) = true :=
  (g.nativeType_text c).startsApart

/-- What a definition says after the name of the column. -/
def afterName (g : Grammar) (c : Column) : List Char :=
  ' ' :: (g.nativeType c ++ g.clauses c).toList

/-- The definition begins with one quoted identifier, which is read as the name of the column, and
goes on with a blank and the native type. -/
def NamesColumn (g : Grammar) (c : Column) : Prop :=
  ∃ body, (g.definition c).toList = g.quoteChar :: body ∧
    Text.readQuoted? g.quoteChar body = some (c.name.toList, g.afterName c)

variable (g : Grammar) (c : Column)

theorem definition_toList :
    (g.definition c).toList =
      Identifier.reference g.quoteChar g.tablePrefix.toList c.name.toList ++ g.afterName c := by
  unfold definition afterName
  simp only [String.toList_append, reference, String.toList_ofList, List.append_assoc]
  rfl

theorem afterAlias?_afterName : Identifier.afterAlias? (g.afterName c) = none := by
  have hstart := g.nativeType_startsApart c
  unfold Text.startsApart at hstart
  unfold afterName
  rw [String.toList_append]
  cases htype : (g.nativeType c).toList with
  | nil => simp [htype] at hstart
  | cons first rest =>
      have hfirst : Text.asciiLower first ≠ 'a' := by simpa [htype] using hstart
      cases halias : Identifier.afterAlias? (' ' :: (first :: rest ++ (g.clauses c).toList)) with
      | none => rfl
      | some right =>
          obtain ⟨a, b, ha, -, heq⟩ := Identifier.eq_of_afterAlias? halias
          cases (List.cons.inj (List.cons.inj heq).2).1
          exact absurd ha hfirst

theorem namesColumn_iff :
    g.NamesColumn c ↔
      Identifier.reference g.quoteChar g.tablePrefix.toList c.name.toList =
        g.quoteChar :: (Text.doubled g.quoteChar c.name.toList ++ [g.quoteChar]) := by
  unfold NamesColumn
  rw [definition_toList]
  constructor
  · rintro ⟨body, hbody, hread⟩
    rw [Text.eq_of_readQuoted? hread] at hbody
    have happended : Identifier.reference g.quoteChar g.tablePrefix.toList c.name.toList ++
        g.afterName c =
          g.quoteChar :: (Text.doubled g.quoteChar c.name.toList ++ [g.quoteChar]) ++
            g.afterName c := by
      simpa using hbody
    exact List.append_cancel_right happended
  · intro hreference
    refine ⟨Text.doubled g.quoteChar c.name.toList ++ g.quoteChar :: g.afterName c, ?_, ?_⟩
    · rw [hreference]
      simp
    · refine Text.readQuoted?_doubled _ _ _ ?_
      simpa [afterName, quoteChar] using g.dialect.quoteChar_ne_blank.symm

/-- A name without the quote character is one identifier, whatever the prefix, unless it is a `*`, a
path or an alias.  Those are read as the names they are made of, and only the first name of a
path takes the prefix. -/
theorem definition_names_column (h : g.quoteChar ∉ c.name.toList) :
    (g.NamesColumn c ↔
      c.name ≠ "*" ∧ '.' ∉ c.name.toList ∧ ¬ Identifier.HasAlias c.name.toList) ∧
    (g.quoteChar ∉ g.tablePrefix.toList ∨ '.' ∉ c.name.toList →
      Identifier.readReference? g.quoteChar (g.definition c).toList =
        some ((Identifier.sides c.name.toList).map (Identifier.names g.tablePrefix.toList),
          g.afterName c)) := by
  have hstar : g.quoteChar ≠ '*' := g.dialect.quoteChar_ne_star
  have hdot : g.quoteChar ≠ '.' := g.dialect.quoteChar_ne_dot
  have hblank : g.quoteChar ≠ ' ' := g.dialect.quoteChar_ne_blank
  constructor
  · have hname : c.name ≠ "*" ↔ c.name.toList ≠ ['*'] := by
      rw [Ne, Ne, ← String.toList_inj]
      rfl
    rw [namesColumn_iff, Text.doubled_of_not_mem h, Identifier.reference_eq_quoted_iff hstar h,
      hname]
  · intro hp
    rw [definition_toList]
    refine Identifier.readReference?_reference hstar hdot hblank h hp ?_ ?_
      (g.afterAlias?_afterName c)
    · simpa [afterName] using hblank.symm
    · simp [afterName]

/-- Names that no check refuses and that are not one identifier: a path, which takes the prefix, an
alias, a star, and a name that ends its quotes. -/
theorem definition_splits_names :
    let g : Grammar := { dialect := .postgres, tablePrefix := "app_" }
    let path : Column := { name := "orders.total", type := .integer }
    let renamed : Column := { name := "total as sum", type := .integer }
    let star : Column := { name := "*", type := .integer }
    let inch : Column := { name := "a\"b", type := .integer }
    (∀ c ∈ [path, renamed, star, inch], c.fault? = none ∧ ¬ g.NamesColumn c) ∧
      g.definition path = "\"app_orders\".\"total\" integer not null" ∧
      g.definition renamed = "\"total\" as \"sum\" integer not null" ∧
      g.definition star = "* integer not null" ∧
      g.definition inch = "\"a\"b\" integer not null" := by
  intro g path renamed star inch
  simp only [namesColumn_iff]
  decide +kernel

/-- A name full of punctuation under a prefix that holds the quote character, and an aliased path. -/
theorem definition_names_column_punctuated :
    let plain : Column := { name := "x\"); drop table 'y' --ü", type := .text }
    let aliased : Column := { name := "Orders.Größe AS *", type := .bigInteger }
    let mysql : Grammar := { dialect := .mysql, tablePrefix := "a`b_" }
    let sqlServer : Grammar := { dialect := .sqlServer, tablePrefix := "app_" }
    mysql.NamesColumn plain ∧
      mysql.definition plain = "`x\"); drop table 'y' --ü` text not null" ∧
      ¬ sqlServer.NamesColumn aliased ∧
      sqlServer.definition aliased = "\"app_Orders\".\"Größe\" as * bigint not null" ∧
      Identifier.readReference? '"' (sqlServer.definition aliased).toList =
        some ([["app_Orders".toList, "Größe".toList], [['*']]], " bigint not null".toList) := by
  intro plain aliased mysql sqlServer
  have hplain := definition_names_column mysql plain (by decide)
  have haliased := definition_names_column sqlServer aliased (by decide)
  refine ⟨hplain.1.mpr ?_, by decide +kernel, fun hnames => ?_, by decide +kernel, ?_⟩
  · rw [← Identifier.splitAlias?_eq_none_iff]
    decide
  · exact absurd (haliased.1.mp hnames).2.1 (by decide +kernel)
  · refine (haliased.2 (.inl (by decide +kernel))).trans ?_
    decide +kernel

end Grammar
end TableDdl
