/-
Index markers are shorthand for index calls.

`desugared` clears the markers of every column and makes, at the end, the call that each marked
column stands for.  A call made at the end appends just what finalizing would have implied, and
the definition of a column does not show its markers, so both blueprints compile to the same run.
-/
import TableDdl.Proofs.Accumulation
import TableDdl.Proofs.Compile

namespace TableDdl

variable {σ : Type}

namespace Column

def unmarked (c : Column) : Column := { c with primary := none, unique := none, index := none }

/-- The call that the markers of a column stand for.  Only the first of them counts. -/
def indexStep? (c : Column) : Option Step :=
  match c.primary, c.unique, c.index with
  | some marker, _, _ => some (.index .primary [c.name] marker.name?)
  | none, some marker, _ => some (.index .unique [c.name] marker.name?)
  | none, none, some marker => some (.index .plain [c.name] marker.name?)
  | none, none, none => none

end Column

theorem Grammar.definition_unmarked (g : Grammar) (c : Column) :
    g.definition c.unmarked = g.definition c := rfl

namespace Blueprint

/-- The blueprint with an explicit call in place of the markers of each column. -/
def desugared (b : Blueprint) : Blueprint :=
  ({ b with columns := b.columns.map Column.unmarked }).applyAll
    (b.columns.filterMap Column.indexStep?)

theorem impliedIndex?_unmarked (b : Blueprint) (c : Column) :
    b.impliedIndex? c.unmarked = none := rfl

/-- A call that stands for markers appends what the markers imply. -/
theorem impliedIndex?_eq (b : Blueprint) (c : Column) :
    (c.indexStep? = none ∧ b.impliedIndex? c = none) ∨
      ∃ s implied, c.indexStep? = some s ∧ b.impliedIndex? c = some implied ∧
        b.apply s = b.addCommand implied := by
  unfold Column.indexStep? impliedIndex? Column.marker?
  cases c.primary with
  | some marker => exact .inr ⟨_, _, rfl, rfl, rfl⟩
  | none =>
      cases c.unique with
      | some marker => exact .inr ⟨_, _, rfl, rfl, rfl⟩
      | none =>
          cases c.index with
          | some marker => exact .inr ⟨_, _, rfl, rfl, rfl⟩
          | none => exact .inl ⟨rfl, rfl⟩

theorem applyAll_indexSteps (b : Blueprint) (columns : List Column) :
    b.applyAll (columns.filterMap Column.indexStep?) =
      { b with commands := b.commands ++ columns.filterMap b.impliedIndex? } := by
  induction columns generalizing b with
  | nil => simp [applyAll]
  | cons c rest ih =>
      rcases b.impliedIndex?_eq c with ⟨hstep, himplied⟩ | ⟨s, implied, hstep, himplied, happly⟩
      · rw [List.filterMap_cons_none hstep, List.filterMap_cons_none himplied]
        exact ih b
      · rw [List.filterMap_cons_some hstep, List.filterMap_cons_some himplied]
        -- What a marker implies depends on the table alone, which no call changes.
        have hsame : (b.addCommand implied).impliedIndex? = b.impliedIndex? := rfl
        show (b.apply s).applyAll _ = _
        rw [happly, ih, hsame]
        simp [addCommand]

theorem desugared_eq (b : Blueprint) :
    b.desugared =
      { b with
        columns := b.columns.map Column.unmarked
        commands := b.commands ++ b.columns.filterMap b.impliedIndex? } :=
  applyAll_indexSteps _ _

theorem create_mem_desugared_iff (b : Blueprint) :
    Command.create ∈ b.desugared.commands ↔ Command.create ∈ b.commands := by
  rw [desugared_eq]
  show Command.create ∈ b.commands ++ b.columns.filterMap b.impliedIndex? ↔ _
  rw [List.mem_append, or_iff_left]
  intro himplied
  obtain ⟨kind, key, heq⟩ := eq_index_of_mem_implied himplied
  cases heq

/-- What finalizing implied for the markers is in the blueprint already. -/
theorem desugared_finalized_commands (b : Blueprint) :
    b.desugared.finalized.commands = b.finalized.commands := by
  have hempty : b.desugared.columns.isEmpty = b.columns.isEmpty := by
    rw [desugared_eq]
    exact List.isEmpty_map
  have hadd : b.desugared.impliedAdd = b.impliedAdd :=
    impliedAdd_congr hempty b.create_mem_desugared_iff
  have himplied : b.desugared.columns.filterMap b.desugared.impliedIndex? = [] := by
    rw [List.filterMap_eq_nil_iff, desugared_eq]
    intro c hc
    obtain ⟨d, _, rfl⟩ := List.mem_map.mp hc
    exact impliedIndex?_unmarked _ d
  show b.desugared.impliedAdd ++ b.desugared.commands ++ _ = _
  rw [hadd, himplied, desugared_eq, List.append_nil, ← List.append_assoc]
  rfl

theorem desugared_check (b : Blueprint) : b.desugared.check = b.check := by
  have hmodified : (b.columns.filterMap b.impliedIndex?).filterMap Command.modifiedColumn? = [] :=
    b.implied_filterMap b.columns fun _ _ => rfl
  rw [desugared_eq]
  refine check_congr rfl ?_
  simp only [definedColumns, List.filterMap_append, hmodified, List.append_nil, List.map_append,
    List.map_map]
  rfl

theorem desugared_alike (g : Grammar) (b : Blueprint) :
    b.desugared.finalized.Alike g b.finalized := by
  have hcommands := b.desugared_finalized_commands
  refine .of_keys ?_ ?_ (fun _ => ?_) (congrArg (List.filterMap Command.foreignKey?) hcommands)
    (congrArg (List.filterMap Command.primaryKey?) hcommands)
  · rw [desugared_eq]
    rfl
  · rw [desugared_eq]
    show (b.columns.map Column.unmarked).map g.definition = b.columns.map g.definition
    rw [List.map_map]
    exact List.map_congr_left fun c _ => g.definition_unmarked c
  · rw [desugared_eq]
    rfl

/-- Markers and the calls they stand for compile to the same run: the same statements or the same
error, the same questions about the live table and the same log. -/
theorem compile_desugared (b : Blueprint) (g : Grammar) (connection : Connection)
    (i : Option (Introspector σ)) :
    b.desugared.compile g connection i = b.compile g connection i :=
  compile_congr b.desugared_check b.desugared_finalized_commands (desugared_alike g b) i

end Blueprint
end TableDdl
