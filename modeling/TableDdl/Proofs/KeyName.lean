/-
The name under which a key is made and dropped.

A key that is not given a name gets the conventional one, whether a call asks for it or a marker on
a column.  A call that drops a key by its columns works the same name out again, from the table, the
columns and the kind alone.  So what one blueprint makes, another drops (`dropped_by_columns`),
whatever else either of them says.
-/
import TableDdl.Proofs.Accumulation
import TableDdl.Proofs.Lowercase
import TableDdl.Proofs.Visit

namespace TableDdl

variable {σ : Type}

/-- A conventional name has a `_` on both sides of the columns, so it is never the star that stands
without quotes. -/
theorem conventionalName_ne_star (table : String) (columns : List String) (kind : KeyKind) :
    (conventionalName table columns kind).toList ≠ ['*'] := by
  intro h
  let joined := table ++ "_" ++ "_".intercalate columns ++ "_" ++ kind.name
  have hlength : (Text.lowerChars joined.toList).length = 1 := by
    have hone := congrArg List.length h
    rw [conventionalName, String.toList_ofList, List.length_map] at hone
    exact hone
  have hjoined : 2 ≤ joined.toList.length := by
    simp only [joined, String.toList_append, List.length_append, String.reduceToList,
      List.length_singleton]
    omega
  have hle := Text.length_le_lowerAfter [] joined.toList
  have heq : (Text.lowerAfter [] joined.toList).length = 1 := hlength
  omega

namespace ForeignKey

theorem modify_name (key : ForeignKey) (m : ForeignKeyModifier) :
    (key.modify m).name = key.name := by
  cases m <;> rfl

theorem modifyAll_name (key : ForeignKey) (modifiers : List ForeignKeyModifier) :
    (key.modifyAll modifiers).name = key.name := by
  induction modifiers generalizing key with
  | nil => rfl
  | cons m rest ih => exact (ih (key.modify m)).trans (key.modify_name m)

end ForeignKey

/-! ## Statements that name a key -/

/-- Whether the dialect writes the name of a key of this kind when it makes one and when it drops
one. -/
def Dialect.NamesKey (d : Dialect) : KeyKind → Prop
  | .primary => d = .sqlServer
  | .unique | .index => True
  | .foreign => d ≠ .sqlite

/-- The statement holds the text behind this beginning. -/
def Names (statement before text : String) : Prop := ∃ after, statement = before ++ text ++ after

theorem names_self (before text : String) : Names (before ++ text) before text :=
  ⟨"", String.append_empty.symm⟩

theorem Names.append {statement before text : String} (h : Names statement before text)
    (more : String) : Names (statement ++ more) before text := by
  obtain ⟨after, rfl⟩ := h
  exact ⟨after ++ more, String.append_assoc⟩

namespace Grammar

/-- What a statement that makes a key says before the name of the key. -/
def beforeMadeKey (g : Grammar) (table : String) (kind : KeyKind) : String :=
  match kind, g.dialect with
  | .primary, _ | .foreign, _ => "alter table " ++ g.tableReference table ++ " add constraint "
  | .unique, .mysql => "alter table " ++ g.tableReference table ++ " add unique "
  | .index, .mysql => "alter table " ++ g.tableReference table ++ " add index "
  | .unique, _ => "create unique index "
  | .index, _ => "create index "

/-- What a statement that drops a key says before the name of the key. -/
def beforeDroppedKey (g : Grammar) (table : String) (kind : KeyKind) : String :=
  match kind, g.dialect with
  | .foreign, .mysql => "alter table " ++ g.tableReference table ++ " drop foreign key "
  | .primary, _ | .foreign, _ => "alter table " ++ g.tableReference table ++ " drop constraint "
  | .unique, .mysql | .index, .mysql => "alter table " ++ g.tableReference table ++ " drop index "
  | .unique, _ | .index, _ => "drop index "

variable (g : Grammar) (b : Blueprint)

theorem quote_eq {name : String} (h : name.toList ≠ ['*']) :
    g.quote name = String.ofList (g.quoteChar :: (name.toList ++ [g.quoteChar])) := by
  unfold quote Identifier.quoted
  rw [if_neg h]

variable {g}

theorem addIndex_names (unique : Bool) (key : Index) :
    Names (g.addIndex b unique key)
      (g.beforeMadeKey b.table (if unique then .unique else .index)) (g.quote key.name) := by
  unfold addIndex beforeMadeKey
  cases unique <;> cases g.dialect
  case false.mysql | true.mysql => exact (((names_self _ _).append "(").append _).append ")"
  all_goals
    exact (((((names_self _ _).append " on ").append _).append " (").append _).append ")"

theorem plan_index_names {kind : IndexKind} (h : g.dialect.NamesKey kind.key) (key : Index) :
    ∃ statement, (∀ connection, g.plan connection b (.index kind key) = .statements [statement]) ∧
      Names statement (g.beforeMadeKey b.table kind.key) (g.quote key.name) := by
  cases kind with
  | primary =>
      have hd : g.dialect = .sqlServer := h
      refine ⟨_, fun connection => ?_, (((names_self _ _).append " primary key (").append
        (g.columnList key.columns)).append ")"⟩
      show Plan.statements (g.addPrimaryKey b key) = _
      unfold addPrimaryKey
      rw [hd]
      rfl
  | unique => exact ⟨_, fun _ => rfl, addIndex_names b true key⟩
  | plain => exact ⟨_, fun _ => rfl, addIndex_names b false key⟩

theorem plan_foreign_names (h : g.dialect.NamesKey .foreign) (key : ForeignKey) :
    ∃ statement, (∀ connection, g.plan connection b (.foreign key) = .statements [statement]) ∧
      Names statement (g.beforeMadeKey b.table .foreign) (g.quote key.name) := by
  refine ⟨_, fun connection => ?_, ((names_self _ _).append " ").append (g.foreignClause key)⟩
  show Plan.statements (g.addForeignKey b key) = _
  unfold addForeignKey
  cases hd : g.dialect with
  | mysql | postgres | sqlServer => rfl
  | sqlite => exact absurd hd h

theorem dropIndex_names {kind : KeyKind} (h : kind = .unique ∨ kind = .index) (name : String) :
    Names (g.dropIndex b name) (g.beforeDroppedKey b.table kind) (g.quote name) := by
  unfold dropIndex beforeDroppedKey
  rcases h with rfl | rfl <;> cases g.dialect
  case inl.sqlServer | inr.sqlServer => exact ((names_self _ _).append " on ").append _
  all_goals exact names_self _ _

theorem plan_dropKey_names {kind : KeyKind} (h : g.dialect.NamesKey kind) (key : Index) :
    ∃ statement, (∀ connection, g.plan connection b (.dropKey kind key) = .statements [statement]) ∧
      Names statement (g.beforeDroppedKey b.table kind) (g.quote key.name) := by
  cases kind with
  | primary =>
      have hd : g.dialect = .sqlServer := h
      refine ⟨_, fun connection => ?_, names_self _ _⟩
      show g.dropKey b .primary key = _
      unfold dropKey
      rw [hd]
      rfl
  | unique => exact ⟨_, fun _ => rfl, dropIndex_names b (.inl rfl) key.name⟩
  | index => exact ⟨_, fun _ => rfl, dropIndex_names b (.inr rfl) key.name⟩
  | foreign =>
      refine ⟨_, fun connection => ?_, names_self _ _⟩
      show g.dropKey b .foreign key = _
      unfold dropKey beforeDroppedKey
      cases hd : g.dialect with
      | mysql | postgres | sqlServer => rfl
      | sqlite => exact absurd hd h

end Grammar

/-! ## Keys without a given name -/

/-- The column carries an unnamed marker of this kind and none that is looked for earlier. -/
def Column.AsksFor (c : Column) : IndexKind → Prop
  | .primary => c.primary = some .unnamed
  | .unique => c.primary = none ∧ c.unique = some .unnamed
  | .plain => c.primary = none ∧ c.unique = none ∧ c.index = some .unnamed

/-- The steps ask for a key of this kind over these columns without naming it, and this is the
command that comes of it. -/
inductive Makes (table : String) (steps : List Step) : KeyKind → List String → Command → Prop
  | index (kind : IndexKind) (columns : List String) (c : Command)
      (hstep : Step.index kind columns none ∈ steps)
      (hcommand : c ∈ (Step.index kind columns none).commands table) :
      Makes table steps kind.key columns c
  | foreign (columns : List String) (modifiers : List ForeignKeyModifier) (c : Command)
      (hstep : Step.foreign columns none modifiers ∈ steps)
      (hcommand : c ∈ (Step.foreign columns none modifiers).commands table) :
      Makes table steps .foreign columns c
  | marker (kind : IndexKind) (column : Column) (c : Command) (hcolumn : column ∈ surviving steps)
      (hmarker : column.AsksFor kind)
      (hcommand : (Blueprint.ofSteps table steps).impliedIndex? column = some c) :
      Makes table steps kind.key [column.name] c

theorem Column.marker?_of_asksFor {c : Column} {kind : IndexKind} (h : c.AsksFor kind) :
    c.marker? = some (kind, .unnamed) := by
  unfold marker?
  cases kind with
  | primary =>
      have hprimary : c.primary = some .unnamed := h
      rw [hprimary]
      rfl
  | unique =>
      obtain ⟨hprimary, hunique⟩ := h
      rw [hprimary, hunique]
      rfl
  | plain =>
      obtain ⟨hprimary, hunique, hindex⟩ := h
      rw [hprimary, hunique, hindex]
      rfl

namespace Blueprint

variable {table : String} {steps : List Step} {kind : KeyKind} {columns : List String} {c : Command}

theorem mem_finalized_of_step {s : Step} (h : s ∈ steps) (hc : c ∈ s.commands table) :
    c ∈ (ofSteps table steps).finalized.commands := by
  rw [ofSteps_finalized_commands]
  exact List.mem_append_left _ (List.mem_append_right _ (List.mem_flatMap.mpr ⟨s, h, hc⟩))

theorem mem_finalized_of_makes (h : Makes table steps kind columns c) :
    c ∈ (ofSteps table steps).finalized.commands := by
  cases h with
  | index kind _ _ hstep hc => exact mem_finalized_of_step hstep hc
  | foreign _ modifiers _ hstep hc => exact mem_finalized_of_step hstep hc
  | marker kind column _ hcolumn hmarker hc =>
      rw [ofSteps_finalized_commands]
      exact List.mem_append_right _ (List.mem_filterMap.mpr ⟨column, hcolumn, hc⟩)

/-- A key that was asked for without a name has the conventional one. -/
theorem command_of_makes (h : Makes table steps kind columns c) :
    (∃ indexKind key, indexKind.key = kind ∧ c = .index indexKind key ∧
      key.name = conventionalName table columns kind) ∨
    (∃ key, kind = .foreign ∧ c = .foreign key ∧
      key.name = conventionalName table columns kind) := by
  cases h with
  | index kind _ _ _ hc =>
      rw [List.mem_singleton.mp hc]
      exact .inl ⟨kind, _, rfl, rfl, rfl⟩
  | foreign _ modifiers _ _ hc =>
      rw [List.mem_singleton.mp hc]
      exact .inr ⟨_, rfl, rfl, ForeignKey.modifyAll_name _ modifiers⟩
  | marker kind column _ _ hmarker hc =>
      rw [impliedIndex?, Column.marker?_of_asksFor hmarker, Option.map_some] at hc
      cases hc
      refine .inl ⟨kind, _, rfl, rfl, ?_⟩
      show conventionalName (ofSteps table steps).table [column.name] kind.key = _
      rw [ofSteps_table]

/-- The command is one of a blueprint's, and becomes this one statement for whatever connection and
in whatever state it is compiled. -/
structure Becomes (b : Blueprint) (g : Grammar) (c : Command) (statement : String) : Prop where
  mem : c ∈ b.finalized.commands
  alone : ∀ (σ : Type) connection (i : Option (Introspector σ)) s,
    (b.finalized.compileCommand g connection i c s).result = .ok [statement]
  compiled : ∀ (σ : Type) connection (i : Option (Introspector σ)) s sql,
    (b.compile g connection i s).result = .ok sql → statement ∈ sql

theorem becomes_of_plan {b : Blueprint} {g : Grammar} {statement : String}
    (hmem : c ∈ b.finalized.commands)
    (hplan : ∀ connection, g.plan connection b.finalized c = .statements [statement]) :
    b.Becomes g c statement := by
  have hlive : g.dialect.alteration? c = none := by
    rw [← g.plan_alteration? { dialect := g.dialect } b.finalized, hplan]
    rfl
  refine ⟨hmem, fun σ connection i s => ?_, fun σ connection i s sql hok => ?_⟩
  · rw [(compileCommand_of_no_alteration hlive i s).2, hplan]
    rfl
  · refine mem_of_compile b g connection i hok hmem hlive statement ?_
    rw [hplan]
    exact List.mem_singleton_self statement

theorem Becomes.eq_of_emitted {b : Blueprint} {g : Grammar} {statement other : String}
    (h : b.Becomes g c statement) (hlive : g.dialect.alteration? c = none)
    (connection : Connection) (hother : (g.plan connection b.finalized c).emitted = [other]) :
    statement = other := by
  have hresult := (compileCommand_of_no_alteration hlive
    (none : Option (Introspector Unit)) ()).2.symm.trans (h.alone Unit connection none ())
  rw [hother] at hresult
  exact (List.cons.inj (Except.ok.inj hresult)).1.symm

/-- What one blueprint makes without a name, another on the same table drops by its columns: both
statements name the key in the same quoted text. -/
theorem dropped_by_columns {g : Grammar} {dropping : List Step} {c' : Command}
    (hkind : g.dialect.NamesKey kind) (hmakes : Makes table steps kind columns c)
    (hstep : Step.dropKey kind (.columns columns) ∈ dropping)
    (hdrop : c' ∈ (Step.dropKey kind (.columns columns)).commands table) :
    let name := (conventionalName table columns kind).toList
    let quoted := String.ofList (g.quoteChar :: (name ++ [g.quoteChar]))
    ∃ made dropped,
      (ofSteps table steps).Becomes g c made ∧ Names made (g.beforeMadeKey table kind) quoted ∧
      (ofSteps table dropping).Becomes g c' dropped ∧
      Names dropped (g.beforeDroppedKey table kind) quoted := by
  intro name quoted
  have hquoted : g.quote (conventionalName table columns kind) = quoted :=
    g.quote_eq (conventionalName_ne_star table columns kind)
  have hmade : ∃ made, (∀ connection,
      g.plan connection (ofSteps table steps).finalized c = .statements [made]) ∧
      Names made (g.beforeMadeKey table kind) quoted := by
    rw [← hquoted]
    have htable : (ofSteps table steps).finalized.table = table := ofSteps_table table steps
    rcases command_of_makes hmakes with ⟨indexKind, key, rfl, rfl, hname⟩ | ⟨key, rfl, rfl, hname⟩
    · have h := Grammar.plan_index_names (ofSteps table steps).finalized hkind key
      rwa [htable, hname] at h
    · have h := Grammar.plan_foreign_names (ofSteps table steps).finalized hkind key
      rwa [htable, hname] at h
  have hdropped : ∃ dropped, (∀ connection,
      g.plan connection (ofSteps table dropping).finalized c' = .statements [dropped]) ∧
      Names dropped (g.beforeDroppedKey table kind) quoted := by
    rw [← hquoted, List.mem_singleton.mp hdrop]
    have h := Grammar.plan_dropKey_names (ofSteps table dropping).finalized hkind
      { name := conventionalName table columns kind, columns }
    have htable : (ofSteps table dropping).finalized.table = table := ofSteps_table table dropping
    rwa [htable] at h
  obtain ⟨made, hplan, hnames⟩ := hmade
  obtain ⟨dropped, hplan', hnames'⟩ := hdropped
  exact ⟨made, dropped, becomes_of_plan (mem_finalized_of_makes hmakes) hplan, hnames,
    becomes_of_plan (mem_finalized_of_step hstep hdrop) hplan', hnames'⟩

/-- A marker on a column makes the index, and a call in another blueprint drops it. -/
theorem dropped_by_columns_slug :
    let g : Grammar := { dialect := .sqlServer, tablePrefix := "app_" }
    let slug : Column :=
      { name := "Slug-Ü", type := .text, unique := some .unnamed, index := some .unnamed }
    let making : List Step :=
      [.create, .column .text "Slug-Ü" [.index .unnamed, .unique .unnamed], .rename "posts"]
    let dropping : List Step := [.dropIfExists, .dropKey .unique (.columns ["Slug-Ü"])]
    let key : Index := { name := "blog_posts_slug_ü_unique", columns := ["Slug-Ü"] }
    let made :=
      "create unique index \"blog_posts_slug_ü_unique\" on \"app_Blog-Posts\" (\"Slug-Ü\")"
    let dropped := "drop index \"blog_posts_slug_ü_unique\" on \"app_Blog-Posts\""
    surviving making = [slug] ∧
      (ofSteps "Blog-Posts" making).Becomes g (.index .unique key) made ∧
      Names made "create unique index " "\"blog_posts_slug_ü_unique\"" ∧
      (ofSteps "Blog-Posts" dropping).Becomes g (.dropKey .unique key) dropped ∧
      Names dropped "drop index " "\"blog_posts_slug_ü_unique\"" := by
  intro g slug making dropping key made dropped
  have hsurviving : surviving making = [slug] := by decide
  have hmakes : Makes "Blog-Posts" making .unique ["Slug-Ü"] (.index .unique key) :=
    .marker .unique slug _ (by rw [hsurviving]; exact List.mem_singleton_self slug) ⟨rfl, rfl⟩
      (by decide +kernel)
  have hkind : g.dialect.NamesKey .unique := trivial
  have hstep : Step.dropKey .unique (.columns ["Slug-Ü"]) ∈ dropping := by decide
  have hdrop : Command.dropKey .unique key ∈
      (Step.dropKey .unique (.columns ["Slug-Ü"])).commands "Blog-Posts" := by decide +kernel
  have hquoted : String.ofList (g.quoteChar ::
      ((conventionalName "Blog-Posts" ["Slug-Ü"] .unique).toList ++ [g.quoteChar])) =
        "\"blog_posts_slug_ü_unique\"" := by decide +kernel
  obtain ⟨made', dropped', hmade, hnames, hdropped, hnames'⟩ :=
    dropped_by_columns hkind hmakes hstep hdrop
  have hmade' : made' = made :=
    hmade.eq_of_emitted rfl { dialect := .sqlServer } (by decide +kernel)
  have hdropped' : dropped' = dropped :=
    hdropped.eq_of_emitted rfl { dialect := .sqlServer } (by decide +kernel)
  rw [hquoted] at hnames hnames'
  rw [hmade'] at hmade hnames
  rw [hdropped'] at hdropped hnames'
  exact ⟨hsurviving, hmade, hnames, hdropped, hnames'⟩

end Blueprint
end TableDdl
