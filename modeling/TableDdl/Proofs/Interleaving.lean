/-
The order of steps.

A column step touches the columns, a command step the commands, and an engine step the engine.  None
of them looks at what another kind has left, and the name of a key is worked out from the table, which
no step changes.  So a blueprint is told by its column steps, its command steps and its last engine
(`ofSteps_eq`), however they are interleaved, and of the modifiers of a step by the last one for each
attribute (`compile_regrouped`).
-/
import Mathlib.Data.List.Forall2
import TableDdl.Compile
import TableDdl.Database.Scripted
import TableDdl.Proofs.Accumulation
import TableDdl.Proofs.LastWrite
import TableDdl.Proofs.Run

namespace TableDdl

variable {σ : Type}

namespace Step

/-- Whether the step declares columns or takes them back. -/
def isColumn : Step → Bool
  | .column _ _ _ | .removeColumn _ | .timestamps | .nullableTimestamps | .softDeletes
  | .morphs _ => true
  | _ => false

def engine? : Step → Option String
  | .engine name => some name
  | _ => none

/-- The same call, on modifiers with the same last write to every attribute. -/
inductive Equivalent : Step → Step → Prop
  | refl (s : Step) : Equivalent s s
  | column (declaration : Declaration) (name : String) {modifiers modifiers' : List ColumnModifier}
      (h : SameLast ColumnModifier.attribute modifiers modifiers') :
      Equivalent (.column declaration name modifiers) (.column declaration name modifiers')
  | modifyColumn (name : String) (type : ColumnType) {modifiers modifiers' : List ColumnModifier}
      (h : SameLast ColumnModifier.attribute modifiers modifiers') :
      Equivalent (.modifyColumn name type modifiers) (.modifyColumn name type modifiers')
  | foreign (columns : List String) (name : Option String)
      {modifiers modifiers' : List ForeignKeyModifier}
      (h : SameLast ForeignKeyModifier.attribute modifiers modifiers') :
      Equivalent (.foreign columns name modifiers) (.foreign columns name modifiers')

/-- The column steps are the same one by one, and so are the command steps, each in their order, and
the engine is last set in the same way. -/
structure Regrouped (steps steps' : List Step) : Prop where
  columns : List.Forall₂ Equivalent (steps.filter isColumn) (steps'.filter isColumn)
  commands : List.Forall₂ Equivalent (steps.filter isCommand) (steps'.filter isCommand)
  engine : (steps.filterMap engine?).getLast? = (steps'.filterMap engine?).getLast?

/-- The column steps, then the command steps, then those that set the engine. -/
def grouped (steps : List Step) : List Step :=
  steps.filter isColumn ++ steps.filter isCommand ++ steps.filter (·.engine?.isSome)

namespace Equivalent

variable {s s' : Step} (h : Equivalent s s')
include h

theorem columns_eq : s.columns = s'.columns := by
  cases h with
  | refl s => rfl
  | column declaration name h =>
      exact congrArg ([] ++ [·]) (Column.modify_overwrites.foldl_eq_of_sameLast h _)
  | modifyColumn name type h => rfl
  | foreign columns name h => rfl

theorem keeps_eq : s.keeps = s'.keeps := by
  cases h <;> rfl

theorem commands_eq (table : String) : s.commands table = s'.commands table := by
  cases h with
  | refl s => rfl
  | column declaration name h => rfl
  | modifyColumn name type h =>
      exact congrArg ([] ++ [Command.modifyColumn ·])
        (Column.modify_overwrites.foldl_eq_of_sameLast h _)
  | foreign columns name h =>
      exact congrArg ([] ++ [Command.foreign ·])
        (ForeignKey.modify_overwrites.foldl_eq_of_sameLast h _)

end Equivalent

/-- No step is of two kinds. -/
theorem kinds_apart (s : Step) :
    (s.isColumn && s.isCommand) = false ∧ (s.isCommand && s.isColumn) = false ∧
      (s.isColumn && s.engine?.isSome) = false ∧ (s.isCommand && s.engine?.isSome) = false := by
  cases s <;> exact ⟨rfl, rfl, rfl, rfl⟩

theorem regrouped_grouped (steps : List Step) : Regrouped steps (grouped steps) := by
  have hcolumns : (grouped steps).filter isColumn = steps.filter isColumn := by
    simp [grouped, List.filter_append, List.filter_filter, kinds_apart]
  have hcommands : (grouped steps).filter isCommand = steps.filter isCommand := by
    simp [grouped, List.filter_append, List.filter_filter, kinds_apart]
  have hothers : ∀ kind : Step → Bool, (∀ s, (kind s && s.engine?.isSome) = false) →
      (steps.filter kind).filterMap engine? = [] := by
    intro kind hkind
    rw [List.filterMap_eq_nil_iff]
    intro s hs
    simpa [(List.mem_filter.mp hs).2] using hkind s
  have hengines : (steps.filter (·.engine?.isSome)).filterMap engine? =
      steps.filterMap engine? := by
    rw [List.filterMap_filter]
    congr
    funext s
    cases s.engine? <;> rfl
  refine ⟨?_, ?_, ?_⟩
  · rw [hcolumns]
    exact List.forall₂_same.mpr fun s _ => .refl s
  · rw [hcommands]
    exact List.forall₂_same.mpr fun s _ => .refl s
  · rw [grouped, List.filterMap_append, List.filterMap_append, hengines,
      hothers isColumn fun s => s.kinds_apart.2.2.1,
      hothers isCommand fun s => s.kinds_apart.2.2.2]
    rfl

end Step

/-! ## The parts of a blueprint -/

theorem surviving_filter (steps : List Step) :
    surviving (steps.filter Step.isColumn) = surviving steps := by
  have hkeeps : ∀ (c : Column) (steps : List Step),
      (steps.filter Step.isColumn).all (·.keeps c) = steps.all (·.keeps c) := by
    intro c steps
    rw [List.all_filter]
    congr
    funext s
    cases s <;> rfl
  induction steps with
  | nil => rfl
  | cons s rest ih =>
      rw [List.filter_cons, surviving]
      split
      · simp only [surviving, hkeeps, ih]
      · rename_i hs
        have hcolumns : s.columns = [] := by
          cases s <;> first | rfl | exact absurd rfl hs
        rw [hcolumns, ih]
        rfl

theorem surviving_congr {steps steps' : List Step}
    (h : List.Forall₂ Step.Equivalent steps steps') : surviving steps = surviving steps' := by
  have hkeeps : ∀ c : Column, ∀ {steps steps' : List Step},
      List.Forall₂ Step.Equivalent steps steps' →
        steps.all (·.keeps c) = steps'.all (·.keeps c) := by
    intro c steps steps' h
    induction h with
    | nil => rfl
    | cons hs _ ih => rw [List.all_cons, List.all_cons, hs.keeps_eq, ih]
  induction h with
  | nil => rfl
  | cons hs hrest ih => simp only [surviving, hs.columns_eq, hkeeps _ hrest, ih]

theorem flatMap_commands_filter (table : String) (steps : List Step) :
    (steps.filter Step.isCommand).flatMap (Step.commands table) =
      steps.flatMap (Step.commands table) := by
  induction steps with
  | nil => rfl
  | cons s rest ih =>
      rw [List.filter_cons, List.flatMap_cons, ← ih]
      split
      · exact List.flatMap_cons
      · rename_i hs
        have hcommands : s.commands table = [] := by
          cases s <;> first | rfl | exact absurd rfl hs
        rw [hcommands, List.nil_append]

theorem flatMap_commands_congr (table : String) {steps steps' : List Step}
    (h : List.Forall₂ Step.Equivalent steps steps') :
    steps.flatMap (Step.commands table) = steps'.flatMap (Step.commands table) := by
  induction h with
  | nil => rfl
  | cons hs _ ih => rw [List.flatMap_cons, List.flatMap_cons, hs.commands_eq, ih]

namespace Blueprint

theorem apply_engine (b : Blueprint) (s : Step) : (b.apply s).engine = s.engine?.or b.engine := by
  cases s <;> rfl

theorem applyAll_engine (b : Blueprint) (steps : List Step) :
    (b.applyAll steps).engine = (steps.filterMap Step.engine?).getLast?.or b.engine := by
  induction steps generalizing b with
  | nil => rfl
  | cons s rest ih =>
      show ((b.apply s).applyAll rest).engine = _
      rw [ih, apply_engine, List.filterMap_cons]
      cases s.engine? with
      | none => rfl
      | some engine =>
          rw [List.getLast?_cons]
          cases (rest.filterMap Step.engine?).getLast? <;> rfl

theorem eq_of_parts {b b' : Blueprint} (htable : b.table = b'.table)
    (hcolumns : b.columns = b'.columns) (hcommands : b.commands = b'.commands)
    (hengine : b.engine = b'.engine) : b = b' := by
  cases b
  cases htable
  cases hcolumns
  cases hcommands
  cases hengine
  rfl

/-- What steps leave in a blueprint, part by part. -/
theorem ofSteps_eq (table : String) (steps : List Step) :
    ofSteps table steps =
      { table
        columns := surviving steps
        commands := steps.flatMap (Step.commands table)
        engine := (steps.filterMap Step.engine?).getLast? } :=
  eq_of_parts (ofSteps_table table steps) (ofSteps_columns table steps)
    (ofSteps_commands table steps) ((applyAll_engine _ steps).trans Option.or_none)

theorem ofSteps_regrouped (table : String) {steps steps' : List Step}
    (h : Step.Regrouped steps steps') : ofSteps table steps = ofSteps table steps' := by
  have hcolumns : surviving steps = surviving steps' := by
    rw [← surviving_filter steps, surviving_congr h.columns, surviving_filter]
  have hcommands : steps.flatMap (Step.commands table) = steps'.flatMap (Step.commands table) := by
    rw [← flatMap_commands_filter, flatMap_commands_congr table h.commands,
      flatMap_commands_filter]
  rw [ofSteps_eq, ofSteps_eq, hcolumns, hcommands, h.engine]

/-- Two sequences of steps leave the same blueprint, and so compile to the same run, when they have the
same column steps, the same command steps and the same last engine, and the modifiers of each step
agree on the last write to every attribute.  In particular each leaves what it leaves in groups. -/
theorem compile_regrouped {steps steps' : List Step} (h : Step.Regrouped steps steps')
    (table : String) (g : Grammar) (connection : Connection) (i : Option (Introspector σ)) :
    let b := ofSteps table steps
    let b' := ofSteps table steps'
    b = b' ∧ b.compile g connection i = b'.compile g connection i ∧
      b = ofSteps table (Step.grouped steps) := by
  intro b b'
  have hsame : b = b' := ofSteps_regrouped table h
  refine ⟨hsame, ?_, ofSteps_regrouped table (Step.regrouped_grouped steps)⟩
  rw [hsame]

/-- The first sequence declares columns between its commands and writes some attributes more than once.
In the second the commands come first and each attribute is written once, in another order. -/
theorem compile_regrouped_posts :
    let steps : List Step :=
      [.engine "MyISAM",
       .column (.string 80) "Slug"
        [.nullable, .defaultValue (.string "new"), .unique (.named "slug"), .unique .unnamed,
          .defaultValue (.expression "'none'")],
       .create, .column .integer "user_id" [.unsigned, .after "Slug"],
       .foreign ["user_id"] none [.table "people", .references ["id"], .table "users"],
       .column .text "draft" [], .engine "InnoDB", .removeColumn "draft",
       .index .plain ["user_id", "Slug"] none]
    let steps' : List Step :=
      [.create, .foreign ["user_id"] none [.references ["id"], .table "users"],
       .index .plain ["user_id", "Slug"] none, .engine "InnoDB",
       .column (.string 80) "Slug"
        [.unique .unnamed, .defaultValue (.expression "'none'"), .nullable],
       .column .integer "user_id" [.after "Slug", .unsigned], .column .text "draft" [],
       .removeColumn "draft"]
    let g : Grammar := { dialect := .mysql }
    let connection : Connection := { dialect := .mysql }
    let expected :=
      ["create table `posts` (`Slug` varchar(80) null default 'none', " ++
          "`user_id` int unsigned not null after `Slug`) engine = InnoDB",
       "alter table `posts` add constraint `posts_user_id_foreign` foreign key (`user_id`) " ++
          "references `users` (`id`)",
       "alter table `posts` add index `posts_user_id_slug_index`(`user_id`, `Slug`)",
       "alter table `posts` add unique `posts_slug_unique`(`Slug`)"]
    ofSteps "posts" steps = ofSteps "posts" steps' ∧
      (ofSteps "posts" steps).preview connection g = .ok expected ∧
      (ofSteps "posts" steps').preview connection g = .ok expected := by
  intro steps steps' g connection expected
  have hcolumns : List.Forall₂ Step.Equivalent (steps.filter Step.isColumn)
      (steps'.filter Step.isColumn) :=
    .cons (.column _ _ fun a => by cases a <;> rfl)
      (.cons (.column _ _ (sameLast_swap (by decide) [] []))
        (.cons (.refl _) (.cons (.refl _) .nil)))
  have hcommands : List.Forall₂ Step.Equivalent (steps.filter Step.isCommand)
      (steps'.filter Step.isCommand) :=
    .cons (.refl _) (.cons (.foreign _ _ fun a => by cases a <;> rfl) (.cons (.refl _) .nil))
  have hregrouped : Step.Regrouped steps steps' := ⟨hcolumns, hcommands, rfl⟩
  obtain ⟨hsame, hcompile, -⟩ := compile_regrouped hregrouped "posts" g connection
    (none : Option (Introspector Unit))
  have hpreview : (ofSteps "posts" steps).preview connection g = .ok expected :=
    ok_of_toOption (by decide +kernel)
  refine ⟨hsame, hpreview, Eq.trans ?_ hpreview⟩
  exact congrArg Outcome.result (congrFun hcompile ()).symm

end Blueprint
end TableDdl
