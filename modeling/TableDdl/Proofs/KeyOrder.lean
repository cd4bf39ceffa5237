/-
The place of keys among other commands.

SQLite writes keys into the table definition: every foreign key, in the order of the commands, and
the first primary key.  Where its command stands a key becomes nothing.  So it does not matter how
the commands of foreign keys, those of primary keys and all others are interleaved, only in which
order each of the three comes (`compile_rearranged`).
-/
import TableDdl.Database.Scripted
import TableDdl.Proofs.Accumulation
import TableDdl.Proofs.Sequence

namespace TableDdl

variable {σ : Type}

/-- What is left of the commands without the keys. -/
theorem leavesOut_keys (commands : List Command) :
    LeavesOut (Dialect.sqlite.inlinesKey · = true) commands
      (commands.filter (!Dialect.sqlite.inlinesKey ·)) :=
  .filter (fun c h => by simpa using h) commands

/-- The same commands, with foreign keys, primary keys and all others each in the same order. -/
structure Rearranged (commands commands' : List Command) : Prop where
  foreign : commands.filterMap Command.foreignKey? = commands'.filterMap Command.foreignKey?
  primary : commands.filterMap Command.primaryKey? = commands'.filterMap Command.primaryKey?
  others : commands.filter (!Dialect.sqlite.inlinesKey ·) =
    commands'.filter (!Dialect.sqlite.inlinesKey ·)

/-- The commands of the keys can be taken out and put in front. -/
theorem keysFirst_perm (commands : List Command) :
    ((commands.filterMap Command.foreignKey?).map Command.foreign ++
        ((commands.filterMap Command.primaryKey?).map (Command.index .primary) ++
          commands.filter (!Dialect.sqlite.inlinesKey ·))).Perm commands := by
  induction commands with
  | nil => exact .refl []
  | cons c rest ih =>
      have hother : ((rest.filterMap Command.foreignKey?).map Command.foreign ++
          ((rest.filterMap Command.primaryKey?).map (Command.index .primary) ++
            c :: rest.filter (!Dialect.sqlite.inlinesKey ·))).Perm (c :: rest) := by
        rw [← List.append_assoc] at ih ⊢
        exact List.perm_middle.trans (ih.cons c)
      cases c with
      | foreign key => exact ih.cons (.foreign key)
      | index kind key =>
          cases kind with
          | primary => exact List.perm_middle.trans (ih.cons (.index .primary key))
          | unique | plain => exact hother
      | _ => exact hother

namespace Rearranged

variable {commands commands' more : List Command} (h : Rearranged commands commands')
include h

theorem perm : commands.Perm commands' := by
  have hkeys := keysFirst_perm commands
  rw [h.foreign, h.primary, h.others] at hkeys
  exact hkeys.symm.trans (keysFirst_perm commands')

theorem inside (before after : List Command) :
    Rearranged (before ++ commands ++ after) (before ++ commands' ++ after) where
  foreign := by simp only [List.filterMap_append, h.foreign]
  primary := by simp only [List.filterMap_append, h.primary]
  others := by simp only [List.filter_append, h.others]

/-- Only commands other than keys hold a column. -/
theorem modifiedColumns :
    commands.filterMap Command.modifiedColumn? = commands'.filterMap Command.modifiedColumn? := by
  have hothers : ∀ commands : List Command,
      (commands.filter (!Dialect.sqlite.inlinesKey ·)).filterMap Command.modifiedColumn? =
        commands.filterMap Command.modifiedColumn? := by
    intro commands
    refine (leavesOut_keys commands).filterMap_eq fun c hc => ?_
    cases c with
    | modifyColumn column => cases hc
    | _ => rfl
  rw [← hothers, h.others, hothers]

end Rearranged

namespace Blueprint

variable {b b' : Blueprint} {g : Grammar}

theorem finalized_rearranged (htable : b.table = b'.table) (hcolumns : b.columns = b'.columns)
    (h : Rearranged b.commands b'.commands) :
    Rearranged b.finalized.commands b'.finalized.commands := by
  have hadd : b.impliedAdd = b'.impliedAdd :=
    impliedAdd_congr (congrArg List.isEmpty hcolumns) h.perm.mem_iff
  have hindex : b.impliedIndex? = b'.impliedIndex? := by
    funext c
    simp only [impliedIndex?, key, keyName, htable]
  have hinside := h.inside b.impliedAdd (b.columns.filterMap b.impliedIndex?)
  show Rearranged _ (b'.impliedAdd ++ b'.commands ++ b'.columns.filterMap b'.impliedIndex?)
  rw [← hadd, ← hcolumns, ← hindex]
  exact hinside

theorem alike_of_rearranged (hd : g.dialect = .sqlite) (htable : b.table = b'.table)
    (hcolumns : b.columns = b'.columns) (h : Rearranged b.commands b'.commands) :
    b.finalized.Alike g b'.finalized := by
  have hfinalized := finalized_rearranged htable hcolumns h
  refine .of_keys htable (congrArg (List.map g.definition) hcolumns) (fun hmysql => ?_)
    hfinalized.foreign hfinalized.primary
  rw [hd] at hmysql
  cases hmysql

/-- The commands of the keys become nothing where they stand. -/
theorem compileCommands_others (hd : g.dialect = .sqlite) (b : Blueprint) (connection : Connection)
    (i : Option (Introspector σ)) (commands : List Command) :
    b.compileCommands g connection i (commands.filter (!Dialect.sqlite.inlinesKey ·)) =
      b.compileCommands g connection i commands := by
  rw [compileCommands_eq_gather, compileCommands_eq_gather]
  refine Run.gather_leavesOut (leavesOut_keys commands) fun c hc =>
    compileCommand_of_inlinesKey ?_
  rw [hd]
  exact hc

/-- In SQLite blueprints on the same columns, whose commands are the same up to the place of the
keys, compile to the same run: the same statements or the same error, the same questions about the
live table and the same log. -/
theorem compile_rearranged (hd : g.dialect = .sqlite) (htable : b.table = b'.table)
    (hcolumns : b.columns = b'.columns) (h : Rearranged b.commands b'.commands)
    (connection : Connection) (i : Option (Introspector σ)) :
    b.compile g connection i = b'.compile g connection i := by
  have hfinalized := finalized_rearranged htable hcolumns h
  have hcheck : b.check = b'.check := by
    refine check_congr htable ?_
    rw [definedColumns, definedColumns, hcolumns, h.modifiedColumns]
  refine compile_of_commands hcheck htable hfinalized.perm.length_eq ?_
  rw [← compileCommands_others hd, hfinalized.others, compileCommands_others hd]
  exact compileCommands_congr (alike_of_rearranged hd htable hcolumns h) i _

/-- Keys before the table is created, and behind everything else. -/
theorem compile_rearranged_posts :
    let user : Step := .foreign ["user_id"] none [.references ["id"], .table "users"]
    let topic : Step := .foreign ["topic_id"] none [.references ["id"], .table "topics"]
    let primary : Step := .index .primary ["user_id", "topic_id"] none
    let columns : List Step := [.column .integer "user_id" [], .column .integer "topic_id" []]
    let slug : Step := .index .unique ["slug"] none
    let b := ofSteps "posts" (columns ++ [user, .create, primary, slug, topic, .dropSoftDeletes])
    let b' := ofSteps "posts" (columns ++ [.create, slug, .dropSoftDeletes, user, topic, primary])
    let live : List LiveColumn := [{ name := "deleted_at", nativeType := "datetime" }]
    let catalogue : Catalogue := { dialect := .sqlite, tables := [("posts", live)] }
    let g : Grammar := { dialect := .sqlite }
    let connection : Connection := { dialect := .sqlite }
    let compiled (b : Blueprint) := b.compile g connection (some catalogue.introspector) ()
    let expected :=
      ["create table \"posts\" (\"user_id\" integer not null, \"topic_id\" integer not null, " ++
          "foreign key (\"user_id\") references \"users\" (\"id\"), " ++
          "foreign key (\"topic_id\") references \"topics\" (\"id\"), " ++
          "primary key (\"user_id\", \"topic_id\"))",
       "create unique index \"posts_slug_unique\" on \"posts\" (\"slug\")",
       "alter table \"posts\" drop column \"deleted_at\""]
    compiled b = compiled b' ∧ (compiled b).result = .ok expected := by
  intro user topic primary columns slug b b' live catalogue g connection compiled expected
  have hcommands : Rearranged b.commands b'.commands :=
    ⟨by decide +kernel, by decide +kernel, by decide +kernel⟩
  have hcolumns : b.columns = b'.columns := by decide +kernel
  have htable : b.table = b'.table := by decide +kernel
  have hsame := compile_rearranged (g := g) rfl htable hcolumns hcommands connection
    (some (catalogue.introspector : Introspector Unit))
  exact ⟨congrFun hsame (), ok_of_toOption (by decide +kernel)⟩

end Blueprint
end TableDdl
