/-
Keys inside a table definition.

SQLite adds no primary or foreign key to a table that exists, so there the statement that creates a
table carries the keys of the whole blueprint behind its columns.  Every foreign key is carried,
wherever its command stood, in the words that the other dialects put into a statement of its own
(`compile_keeps_foreign_keys`).  Of the primary keys only the first is
(`compile_keeps_first_primary_key`).
-/
import TableDdl.Proofs.Preview
import TableDdl.Proofs.Visit

namespace TableDdl

variable {σ : Type}

/-- Texts that follow others each bring a separator along. -/
theorem intercalate_append (separator : String) {texts : List String} (h : texts ≠ [])
    (more : List String) :
    separator.intercalate (texts ++ more) =
      separator.intercalate texts ++ String.join (more.map (separator ++ ·)) := by
  induction more generalizing texts with
  | nil => rw [List.append_nil, List.map_nil, String.join_nil, String.append_empty]
  | cons text rest ih =>
      have hlast : separator.intercalate (texts ++ [text]) =
          separator.intercalate texts ++ separator ++ text := by
        rw [String.intercalate_append_of_ne_nil h (List.cons_ne_nil text []),
          String.intercalate_singleton]
      have hrest := ih (List.append_ne_nil_of_left_ne_nil h [text])
      rw [List.append_assoc] at hrest
      rw [List.map_cons, String.join_cons, ← String.append_assoc, ← String.append_assoc, ← hlast]
      exact hrest

theorem flatMap_filter_isSome {α β γ : Type} {f : α → Option β} {blocks : α → List γ}
    {block : β → List γ} {items : List α}
    (h : ∀ a ∈ items, ∀ found, f a = some found → blocks a = block found) :
    (items.filter fun a => (f a).isSome).flatMap blocks = (items.filterMap f).flatMap block := by
  induction items with
  | nil => rfl
  | cons a rest ih =>
      have hrest := ih fun a' ha' => h a' (List.mem_cons_of_mem a ha')
      cases ha : f a with
      | none => simpa [ha] using hrest
      | some found => simp [ha, h a List.mem_cons_self found ha, hrest]

/-- What a foreign key says, under a quote character and a table prefix. -/
def ForeignKey.clause (q : Char) (tablePrefix : String) (key : ForeignKey) : String :=
  let quoted s := String.ofList (Identifier.reference q tablePrefix.toList s.toList)
  "foreign key (" ++ ", ".intercalate (key.columns.map quoted) ++ ") references " ++
    quoted (tablePrefix ++ key.table) ++ " (" ++ ", ".intercalate (key.references.map quoted) ++
    ")" ++
    (match key.onDelete with
      | none => ""
      | some action => " on delete " ++ action) ++
    (match key.onUpdate with
      | none => ""
      | some action => " on update " ++ action)

namespace Blueprint

def foreignKeys (b : Blueprint) : List ForeignKey := b.commands.filterMap Command.foreignKey?

/-- The primary keys of a blueprint, those implied by its columns included. -/
def primaryKeys (b : Blueprint) : List Index :=
  b.finalized.commands.filterMap Command.primaryKey?

theorem finalized_foreignKeys (b : Blueprint) : b.finalized.foreignKeys = b.foreignKeys :=
  b.finalized_filterMap rfl fun _ _ => rfl

end Blueprint

theorem Dialect.quoteChar_of_ne_mysql {d : Dialect} (h : d ≠ .mysql) : d.quoteChar = '"' := by
  cases d with
  | mysql => exact absurd rfl h
  | postgres | sqlServer | sqlite => rfl

/-! ## What a table definition carries -/

namespace Grammar

variable (g : Grammar) (connection : Connection) (b : Blueprint)

def primaryKeyClause (key : Index) : String :=
  "primary key (" ++ ", ".intercalate (key.columns.map g.reference) ++ ")"

theorem foreignClause_eq (key : ForeignKey) :
    g.foreignClause key = key.clause g.quoteChar g.tablePrefix := by
  unfold foreignClause ForeignKey.clause
  cases key.onDelete <;> cases key.onUpdate <;> rfl

theorem inlineForeignKeys_eq :
    g.inlineForeignKeys b =
      String.join (b.foreignKeys.map fun key => ", " ++ key.clause g.quoteChar g.tablePrefix) := by
  simp only [inlineForeignKeys, Blueprint.foreignKeys, foreignClause_eq]

theorem inlinePrimaryKey_eq :
    g.inlinePrimaryKey b.finalized =
      String.join ((b.primaryKeys.take 1).map fun key => ", " ++ g.primaryKeyClause key) := by
  unfold inlinePrimaryKey Blueprint.primaryKeys
  rw [List.take_one, List.head?_filterMap]
  cases b.finalized.commands.findSome? Command.primaryKey? with
  | none => rfl
  | some key =>
      have hopening : ", primary key (" = ", " ++ "primary key (" := rfl
      show ", primary key (" ++ g.columnList key.columns ++ ")" =
        String.join [", " ++ g.primaryKeyClause key]
      rw [hopening, String.join_cons, String.join_nil, String.append_empty]
      unfold primaryKeyClause columnList
      simp only [String.append_assoc]

variable {g}

theorem createTable_sqlite (hd : g.dialect = .sqlite) :
    g.createTable connection b.finalized =
      "create table " ++ g.tableReference b.table ++ " (" ++
        ", ".intercalate (b.columns.map g.definition) ++
        String.join (b.foreignKeys.map fun key => ", " ++ key.clause g.quoteChar g.tablePrefix) ++
        String.join ((b.primaryKeys.take 1).map fun key => ", " ++ g.primaryKeyClause key) ++
        ")" := by
  rw [← g.inlinePrimaryKey_eq, ← b.finalized_foreignKeys, ← g.inlineForeignKeys_eq]
  simp only [createTable, hd]
  rfl

/-- Beside columns, the keys are further items of one list. -/
theorem createTable_sqlite_of_columns (hd : g.dialect = .sqlite) (hcolumns : b.columns ≠ []) :
    g.createTable connection b.finalized =
      "create table " ++ g.tableReference b.table ++ " (" ++
        ", ".intercalate (b.columns.map g.definition ++
          b.foreignKeys.map (ForeignKey.clause g.quoteChar g.tablePrefix) ++
          (b.primaryKeys.take 1).map g.primaryKeyClause) ++ ")" := by
  have hdefinitions : b.columns.map g.definition ≠ [] := by simpa using hcolumns
  rw [createTable_sqlite connection b hd, List.append_assoc (b.columns.map g.definition),
    intercalate_append ", " hdefinitions, List.map_append, String.join_append, List.map_map,
    List.map_map]
  simp only [String.append_assoc]
  rfl

theorem addForeignKey_eq (key : ForeignKey) :
    g.addForeignKey b key =
      if g.dialect = .sqlite then []
      else
        ["alter table " ++ g.tableReference b.table ++ " add constraint " ++ g.quote key.name ++
          " " ++ key.clause g.quoteChar g.tablePrefix] := by
  unfold addForeignKey
  rw [g.foreignClause_eq]
  cases g.dialect <;> rfl

end Grammar

/-! ## Compiling a blueprint with keys -/

theorem Command.eq_foreign_of_foreignKey? {c : Command} {key : ForeignKey}
    (h : c.foreignKey? = some key) : c = .foreign key := by
  cases c with
  | foreign key' =>
      cases h
      rfl
  | _ => cases h

namespace Blueprint

/-- Every foreign key is kept.  In SQLite each creating statement carries all of them, in the order
of their commands, between the columns and the primary key.  In the other dialects each is one
statement of its own, in that order too.  What it says depends on the quote character and the prefix
alone, and only MySQL has a quote character of its own. -/
theorem compile_keeps_foreign_keys (b : Blueprint) (g : Grammar) (connection : Connection)
    (i : Option (Introspector σ)) (s : σ) :
    let clause (key : ForeignKey) := key.clause g.quoteChar g.tablePrefix
    let alone (key : ForeignKey) : List String :=
      if g.dialect = .sqlite then []
      else
        ["alter table " ++ g.tableReference b.table ++ " add constraint " ++ g.quote key.name ++
          " " ++ clause key]
    let created :=
      "create table " ++ g.tableReference b.table ++ " (" ++
        ", ".intercalate (b.columns.map g.definition) ++
        String.join (b.foreignKeys.map fun key => ", " ++ clause key) ++
        String.join ((b.primaryKeys.take 1).map fun key => ", " ++ g.primaryKeyClause key) ++ ")"
    let visits := b.visits g connection i s
    (∀ v ∈ visits, ∀ key, v.command = .foreign key → v.outcome.result = .ok (alone key)) ∧
      (g.dialect = .sqlite →
        ∀ v ∈ visits, v.command = .create → v.outcome.result = .ok [created]) ∧
      (∀ sql, (b.compile g connection i s).result = .ok sql →
        visits.map Visit.command = b.finalized.commands ∧
        visits.flatMap Visit.statements = sql ∧
        (visits.filter fun v => v.command.foreignKey?.isSome).flatMap Visit.statements =
          b.foreignKeys.flatMap alone) ∧
      ∀ g' : Grammar, g.dialect ≠ .mysql → g'.dialect ≠ .mysql → g'.tablePrefix = g.tablePrefix →
        ∀ key : ForeignKey, key.clause g'.quoteChar g'.tablePrefix = clause key := by
  intro clause alone created visits
  have halone : ∀ v ∈ visits, ∀ key, v.command = .foreign key →
      v.outcome.result = .ok (alone key) := by
    intro v hv key hkey
    rw [result_of_mem_visits b g connection i hv hkey rfl]
    exact congrArg Except.ok (Grammar.addForeignKey_eq b.finalized key)
  refine ⟨halone, ?_, ?_, ?_⟩
  · intro hd v hv hcreate
    rw [result_of_mem_visits b g connection i hv hcreate rfl]
    exact congrArg (fun sql => Except.ok [sql]) (Grammar.createTable_sqlite connection b hd)
  · intro sql hok
    have hall := (b.visits_inOrder g connection i s).complete sql hok
    refine ⟨hall, visits_statements b g connection i hok, ?_⟩
    have hkeys : visits.filterMap (fun v => v.command.foreignKey?) = b.foreignKeys := by
      rw [← b.finalized_foreignKeys, foreignKeys, ← hall, List.filterMap_map]
      rfl
    rw [← hkeys]
    refine flatMap_filter_isSome fun v hv key hkey => ?_
    exact Visit.statements_of_ok (halone v hv key (Command.eq_foreign_of_foreignKey? hkey))
  · intro g' hd hd' hprefix key
    have hquote : g'.quoteChar = g.quoteChar :=
      (Dialect.quoteChar_of_ne_mysql hd').trans (Dialect.quoteChar_of_ne_mysql hd).symm
    rw [hquote, hprefix]

/-- One foreign key is declared before the table is created and one after it. -/
theorem compile_keeps_foreign_keys_posts :
    let b := ofSteps "posts"
      [.foreign ["user_id"] none [.references ["id"], .table "users", .onDelete "cascade"], .create,
       .column .integer "user_id" [.primary .unnamed], .column .integer "team_id" [.index .unnamed],
       .foreign ["team_id", "user_id"] (some "member")
         [.onUpdate "restrict", .table "members", .references ["team", "user"]]]
    let sqlite : Grammar := { dialect := .sqlite, tablePrefix := "app_" }
    let sqlServer : Grammar := { dialect := .sqlServer, tablePrefix := "app_" }
    let inSqlite := b.compile sqlite { dialect := .sqlite } (none : Option (Introspector Unit)) ()
    let visits := b.visits sqlServer { dialect := .sqlite } (none : Option (Introspector Unit)) ()
    let user := "foreign key (\"user_id\") references \"app_users\" (\"id\") on delete cascade"
    let member := "foreign key (\"team_id\", \"user_id\") references \"app_members\" " ++
      "(\"team\", \"user\") on update restrict"
    inSqlite.result = .ok
        ["create table \"app_posts\" (\"user_id\" integer not null, " ++
          "\"team_id\" integer not null, " ++ user ++ ", " ++ member ++
          ", primary key (\"user_id\"))",
         "create index \"posts_team_id_index\" on \"app_posts\" (\"team_id\")"] ∧
      (visits.filter fun v => v.command.foreignKey?.isSome).flatMap Visit.statements =
        ["alter table \"app_posts\" add constraint \"posts_user_id_foreign\" " ++ user,
         "alter table \"app_posts\" add constraint \"member\" " ++ member] ∧
      ∀ key : ForeignKey, key.clause sqlite.quoteChar sqlite.tablePrefix =
        key.clause sqlServer.quoteChar sqlServer.tablePrefix := by
  intro b sqlite sqlServer inSqlite visits user member
  obtain ⟨-, -, hconserved, hsame⟩ := compile_keeps_foreign_keys b sqlServer { dialect := .sqlite }
    (none : Option (Introspector Unit)) ()
  have hok := (preview_eq_ok_iff b sqlServer { dialect := .sqlite } _).mpr ⟨rfl, by decide, rfl⟩
  obtain ⟨-, -, hforeign⟩ := hconserved _ hok
  exact ⟨(preview_eq_ok_iff b sqlite _ _).mpr (by decide +kernel),
    hforeign.trans (by decide +kernel), hsame sqlite (by decide) (by decide) rfl⟩

/-- Of the primary keys of a blueprint that creates a table in SQLite, the first stands in the
creating statement and any other leaves nothing behind.  So all are kept exactly when the columns of
each are among those of the first. -/
theorem compile_keeps_first_primary_key {b : Blueprint} {g : Grammar} {connection : Connection}
    {i : Option (Introspector σ)} {s : σ} {sql : List String} (hd : g.dialect = .sqlite)
    (hcreate : Command.create ∈ b.commands) (hcolumns : b.columns ≠ [])
    (hok : (b.compile g connection i s).result = .ok sql) :
    let listed (key : Index) := key.columns.map g.reference
    let kept := b.primaryKeys.take 1
    let created :=
      "create table " ++ g.tableReference b.table ++ " (" ++
        ", ".intercalate (b.columns.map g.definition ++
          b.foreignKeys.map (ForeignKey.clause g.quoteChar g.tablePrefix) ++
          kept.map fun key => "primary key (" ++ ", ".intercalate (listed key) ++ ")") ++ ")"
    let visits := b.visits g connection i s
    visits.map Visit.command = b.finalized.commands ∧
      visits.flatMap Visit.statements = sql ∧
      (∀ v ∈ visits, v.command = .create → v.statements = [created]) ∧
      (∀ v ∈ visits, ∀ key, v.command = .index .primary key → v.statements = []) ∧
      created ∈ sql ∧
      ((∀ key ∈ b.primaryKeys, ∃ k ∈ kept, listed key ⊆ listed k) ↔
        ∀ first others, b.primaryKeys = first :: others →
          ∀ key ∈ others, listed key ⊆ listed first) := by
  intro listed kept created visits
  have hcreated : ∀ v ∈ visits, v.command = .create → v.statements = [created] := by
    intro v hv hc
    rw [Visit.statements_of_ok (result_of_mem_visits b g connection i hv hc rfl)]
    exact congrArg (fun sql => [sql])
      (Grammar.createTable_sqlite_of_columns connection b hd hcolumns)
  have hall := (b.visits_inOrder g connection i s).complete sql hok
  refine ⟨hall, visits_statements b g connection i hok, hcreated, ?_, ?_, ?_⟩
  · intro v hv key hkey
    rw [Visit.statements_of_ok (result_of_mem_visits b g connection i hv hkey rfl)]
    show g.addPrimaryKey b.finalized key = []
    simp only [Grammar.addPrimaryKey, hd]
  · have hmem : Command.create ∈ b.finalized.commands :=
      (mem_finalized_iff (by decide) fun _ _ => by simp).mpr hcreate
    obtain ⟨v, hv, hc⟩ := exists_visit_of_ok b g connection i hok hmem
    rw [← visits_statements b g connection i hok]
    refine List.mem_flatMap.mpr ⟨v, hv, ?_⟩
    rw [hcreated v hv hc]
    exact List.mem_singleton_self created
  · show (∀ key ∈ b.primaryKeys, ∃ k ∈ b.primaryKeys.take 1, listed key ⊆ listed k) ↔ _
    cases b.primaryKeys with
    | nil => simp
    | cons first others => simp

/-- Two columns carry a marker each, and the second is lost. -/
theorem compile_keeps_first_primary_key_memberships :
    let b := ofSteps "memberships"
      [.create, .column .integer "user_id" [.primary .unnamed],
       .column .integer "team_id" [.primary .unnamed]]
    let g : Grammar := { dialect := .sqlite }
    let sql :=
      ["create table \"memberships\" (\"user_id\" integer not null, " ++
        "\"team_id\" integer not null, primary key (\"user_id\"))"]
    (b.compile g { dialect := .sqlite } (none : Option (Introspector Unit)) ()).result = .ok sql ∧
      b.primaryKeys.map Index.columns = [["user_id"], ["team_id"]] ∧
      ¬ ∀ key ∈ b.primaryKeys, ∃ k ∈ b.primaryKeys.take 1,
        key.columns.map g.reference ⊆ k.columns.map g.reference := by
  intro b g sql
  have hok : (b.compile g { dialect := .sqlite } (none : Option (Introspector Unit)) ()).result =
      .ok sql := (preview_eq_ok_iff b g _ _).mpr (by decide +kernel)
  obtain ⟨-, -, -, -, -, hiff⟩ :=
    compile_keeps_first_primary_key (g := g) (b := b) rfl (by decide) (by decide) hok
  refine ⟨hok, by decide +kernel, fun hkept => ?_⟩
  exact absurd (hiff.mp hkept _ _ rfl) (by decide +kernel)

end Blueprint
end TableDdl
