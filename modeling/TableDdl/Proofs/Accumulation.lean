/-
What a sequence of steps leaves in a blueprint.

A step adds to a blueprint what it adds to an empty one of the same table, and besides that only
`remove_column` takes anything back.  So the commands are those of the steps, one after the other,
and the columns are those declared by a step and kept by every later one.  No step appends `add`:
it enters a blueprint only when it is finalized, in front of everything else.
-/
import TableDdl.Blueprint

namespace TableDdl

namespace Step

def commands (table : String) (s : Step) : List Command :=
  (({ table } : Blueprint).apply s).commands

def columns (s : Step) : List Column := (({ table := "" } : Blueprint).apply s).columns

/-- Whether a step leaves a column declared before it in place. -/
def keeps (s : Step) (c : Column) : Bool :=
  match s with
  | .removeColumn name => c.name != name
  | _ => true

/-- Whether the step gives a command.  The others declare columns or take them back, and one sets the
engine. -/
def isCommand : Step → Bool
  | .column _ _ _ | .removeColumn _ | .timestamps | .nullableTimestamps | .softDeletes | .morphs _
  | .engine _ => false
  | _ => true

theorem filter_keeps {s : Step} (h : ∀ name, s ≠ .removeColumn name) (columns : List Column) :
    columns.filter s.keeps = columns := by
  refine List.filter_eq_self.mpr fun c _ => ?_
  cases s with
  | removeColumn name => exact absurd rfl (h name)
  | _ => rfl

theorem create_mem_commands_iff (table : String) (s : Step) :
    Command.create ∈ s.commands table ↔ s = .create := by
  cases s <;> simp [commands, Blueprint.apply, Blueprint.addCommand, Blueprint.addColumn]

theorem add_not_mem_commands (table : String) (s : Step) : Command.add ∉ s.commands table := by
  cases s <;> simp [commands, Blueprint.apply, Blueprint.addCommand, Blueprint.addColumn]

end Step

/-- The columns declared by a step and kept by every later one, in declaration order. -/
def surviving : List Step → List Column
  | [] => []
  | s :: rest => s.columns.filter (fun c => rest.all (·.keeps c)) ++ surviving rest

namespace Blueprint

theorem apply_commands (b : Blueprint) (s : Step) :
    (b.apply s).commands = b.commands ++ s.commands b.table := by
  cases s with
  | dropKey kind reference => cases reference <;> rfl
  | _ => simp [Step.commands, apply, addCommand, addColumn, key, keyName]

theorem applyAll_commands (b : Blueprint) (steps : List Step) :
    (b.applyAll steps).commands = b.commands ++ steps.flatMap (Step.commands b.table) := by
  induction steps generalizing b with
  | nil => exact (List.append_nil _).symm
  | cons s rest ih =>
      show ((b.apply s).applyAll rest).commands = _
      rw [ih, apply_commands, apply_table, List.flatMap_cons, List.append_assoc]

theorem apply_columns (b : Blueprint) (s : Step) :
    (b.apply s).columns = b.columns.filter s.keeps ++ s.columns := by
  cases s with
  | removeColumn name => exact (List.append_nil _).symm
  | _ =>
      rw [Step.filter_keeps (fun name => by simp)]
      simp [Step.columns, apply, addCommand, addColumn]

theorem applyAll_columns (b : Blueprint) (steps : List Step) :
    (b.applyAll steps).columns =
      b.columns.filter (fun c => steps.all (·.keeps c)) ++ surviving steps := by
  induction steps generalizing b with
  | nil =>
      rw [surviving, List.append_nil]
      exact (List.filter_eq_self.mpr fun _ _ => rfl).symm
  | cons s rest ih =>
      show ((b.apply s).applyAll rest).columns = _
      rw [ih, apply_columns, List.filter_append, List.filter_filter, surviving, List.append_assoc]
      simp only [List.all_cons, Bool.and_comm]

variable (table : String) (steps : List Step)

theorem ofSteps_table : (ofSteps table steps).table = table := applyAll_table _ _

theorem ofSteps_commands :
    (ofSteps table steps).commands = steps.flatMap (Step.commands table) := by
  rw [ofSteps, applyAll_commands, List.nil_append]

theorem ofSteps_columns : (ofSteps table steps).columns = surviving steps := by
  rw [ofSteps, applyAll_columns, List.filter_nil, List.nil_append]

theorem creating_iff {b : Blueprint} : b.creating = true ↔ Command.create ∈ b.commands := by
  simp [creating]

/-- Whether columns are added depends on whether there are any and whether a `create` is among the
commands. -/
theorem impliedAdd_congr {b b' : Blueprint} (hcolumns : b.columns.isEmpty = b'.columns.isEmpty)
    (hcreate : Command.create ∈ b.commands ↔ Command.create ∈ b'.commands) :
    b.impliedAdd = b'.impliedAdd := by
  have hcreating : b.creating = b'.creating := by
    rw [Bool.eq_iff_iff, creating_iff, creating_iff, hcreate]
  rw [impliedAdd, impliedAdd, hcolumns, hcreating]

theorem ofSteps_creating_iff : (ofSteps table steps).creating = true ↔ Step.create ∈ steps := by
  rw [creating_iff, ofSteps_commands, List.mem_flatMap]
  simp only [Step.create_mem_commands_iff, exists_eq_right]

theorem add_not_mem_ofSteps_commands : Command.add ∉ (ofSteps table steps).commands := by
  rw [ofSteps_commands]
  intro h
  obtain ⟨s, _, hs⟩ := List.mem_flatMap.mp h
  exact s.add_not_mem_commands table hs

/-- A blueprint of steps adds columns to its table when some survive and no step creates it. -/
theorem ofSteps_impliedAdd :
    (ofSteps table steps).impliedAdd =
      if surviving steps ≠ [] ∧ Step.create ∉ steps then [Command.add] else [] := by
  rw [impliedAdd, ofSteps_columns]
  by_cases hcreate : Step.create ∈ steps
  · simp [hcreate, (ofSteps_creating_iff table steps).mpr hcreate]
  · have hnot : (ofSteps table steps).creating = false := by
      rw [← Bool.not_eq_true, ofSteps_creating_iff]
      exact hcreate
    by_cases hcolumns : surviving steps = [] <;> simp [hcreate, hnot, hcolumns]

theorem eq_add_of_mem_impliedAdd {b : Blueprint} {implied : Command} (h : implied ∈ b.impliedAdd) :
    implied = .add := by
  unfold impliedAdd at h
  split at h
  · cases h
  · exact List.mem_singleton.mp h

theorem eq_index_of_mem_implied {b : Blueprint} {columns : List Column} {implied : Command}
    (h : implied ∈ columns.filterMap b.impliedIndex?) :
    ∃ kind key, implied = .index kind key := by
  obtain ⟨c, _, hc⟩ := List.mem_filterMap.mp h
  obtain ⟨⟨kind, marker⟩, _, rfl⟩ := Option.map_eq_some_iff.mp hc
  exact ⟨kind, _, rfl⟩

theorem implied_filterMap {α : Type} (b : Blueprint) (columns : List Column)
    {f : Command → Option α} (hindex : ∀ kind key, f (.index kind key) = none) :
    (columns.filterMap b.impliedIndex?).filterMap f = [] := by
  rw [List.filterMap_eq_nil_iff]
  intro implied hmem
  obtain ⟨kind, key, rfl⟩ := eq_index_of_mem_implied hmem
  exact hindex kind key

/-- Finalizing adds nothing but `add` and indexes. -/
theorem finalized_filterMap {α : Type} (b : Blueprint) {f : Command → Option α}
    (hadd : f .add = none) (hindex : ∀ kind key, f (.index kind key) = none) :
    b.finalized.commands.filterMap f = b.commands.filterMap f := by
  have himpliedAdd : b.impliedAdd.filterMap f = [] := by
    rw [List.filterMap_eq_nil_iff]
    intro implied hmem
    rw [eq_add_of_mem_impliedAdd hmem]
    exact hadd
  show (b.impliedAdd ++ b.commands ++ _).filterMap f = _
  rw [List.filterMap_append, List.filterMap_append, himpliedAdd,
    b.implied_filterMap b.columns hindex, List.nil_append, List.append_nil]

theorem mem_finalized_iff {b : Blueprint} {c : Command} (hadd : c ≠ .add)
    (hindex : ∀ kind key, c ≠ .index kind key) : c ∈ b.finalized.commands ↔ c ∈ b.commands := by
  constructor
  · intro h
    rcases List.mem_append.mp h with h | h
    · rcases List.mem_append.mp h with h | h
      · exact absurd (eq_add_of_mem_impliedAdd h) hadd
      · exact h
    · obtain ⟨kind, key, heq⟩ := eq_index_of_mem_implied h
      exact absurd heq (hindex kind key)
  · intro h
    exact List.mem_append_left _ (List.mem_append_right _ h)

theorem ofSteps_finalized_commands :
    (ofSteps table steps).finalized.commands =
      (if surviving steps ≠ [] ∧ Step.create ∉ steps then [Command.add] else []) ++
        steps.flatMap (Step.commands table) ++
        (surviving steps).filterMap (ofSteps table steps).impliedIndex? := by
  rw [← ofSteps_impliedAdd table, ← ofSteps_commands, ← ofSteps_columns table]
  rfl

end Blueprint
end TableDdl
