/-
Columns that are taken back.

`remove_column` takes all columns of a name out of a blueprint.  What it leaves is the blueprint of
the same steps without any declaration of that name (`removeColumn_retracts`), so nothing else shows
that there was one: no definition, no index, no fault, and no `add` if it was the only column.

A step that declares several columns stands for several steps, its `parts`, so that one of them can
be left out and the others stay.  Taking a name back before or after such a part comes to the same,
unless the part declares the name, and then it is undone (`retract_apply`).
-/
import TableDdl.Compile
import TableDdl.Proofs.Accumulation
import TableDdl.Proofs.Run

namespace TableDdl

variable {σ : Type}

namespace Step

/-- The steps for which a step stands, each with one column at most. -/
def parts : Step → List Step
  | .timestamps => [.column .timestamp "created_at" [], .column .timestamp "updated_at" []]
  | .nullableTimestamps =>
      [.column .timestamp "created_at" [.nullable], .column .timestamp "updated_at" [.nullable]]
  | .softDeletes => [.column .timestamp "deleted_at" [.nullable]]
  | .morphs name =>
      [.column .unsignedInteger (name ++ "_id") [], .column (.string 255) (name ++ "_type") []]
  | s => [s]

/-- Whether the step declares a column of this name. -/
def declares (name : String) (s : Step) : Bool := s.columns.any (·.name == name)

/-- The steps without every declaration of this name. -/
def undeclared (name : String) (steps : List Step) : List Step :=
  (steps.flatMap parts).filter (!·.declares name)

theorem parts_of_mem_parts {s part : Step} (h : part ∈ s.parts) : part.parts = [part] := by
  cases s with
  | timestamps | nullableTimestamps | softDeletes | morphs name =>
      simp only [parts, List.mem_cons, List.not_mem_nil, or_false] at h
      rcases h with rfl | rfl <;> rfl
  | _ =>
      rw [List.mem_singleton.mp h]
      rfl

theorem parts_of_mem_flatMap {steps : List Step} : ∀ s ∈ steps.flatMap parts, s.parts = [s] := by
  intro s hs
  obtain ⟨t, _, hst⟩ := List.mem_flatMap.mp hs
  exact parts_of_mem_parts hst

theorem parts_columns (s : Step) : s.parts.flatMap columns = s.columns := by
  cases s <;> rfl

theorem columns_of_part {s : Step} (hs : s.parts = [s]) :
    s.columns = [] ∨ ∃ c, s.columns = [c] := by
  cases s with
  | timestamps | nullableTimestamps | softDeletes | morphs name => cases hs
  | column declaration name modifiers => exact .inr ⟨_, rfl⟩
  | _ => exact .inl rfl

theorem declared_columns {s : Step} (hs : s.parts = [s]) (name : String) :
    (if s.declares name then [] else s.columns) = s.columns.filter (·.name != name) := by
  unfold declares
  rcases columns_of_part hs with h | ⟨c, h⟩
  · rw [h]
    rfl
  · rw [h]
    by_cases hname : c.name = name <;> simp [hname]

/-- The other columns are declared as before. -/
theorem undeclared_columns (name : String) (steps : List Step) :
    (undeclared name steps).flatMap columns =
      (steps.flatMap columns).filter (·.name != name) := by
  have hparts : ∀ parts : List Step, (∀ s ∈ parts, s.parts = [s]) →
      (parts.filter (!·.declares name)).flatMap columns =
        (parts.flatMap columns).filter (·.name != name) := by
    intro parts hparts
    induction parts with
    | nil => rfl
    | cons s rest ih =>
        have hrest := ih fun t ht => hparts t (List.mem_cons_of_mem s ht)
        rw [List.flatMap_cons, List.filter_append, ← hrest,
          ← declared_columns (hparts s List.mem_cons_self) name]
        cases h : s.declares name <;> simp [h]
  have hcolumns : (steps.flatMap parts).flatMap columns = steps.flatMap columns := by
    rw [List.flatMap_assoc]
    simp only [parts_columns]
  rw [undeclared, hparts _ parts_of_mem_flatMap, hcolumns]

end Step

namespace Blueprint

theorem applyAll_parts (b : Blueprint) (steps : List Step) :
    b.applyAll (steps.flatMap Step.parts) = b.applyAll steps := by
  have hstep : ∀ (b : Blueprint) (s : Step), b.applyAll s.parts = b.apply s := by
    intro b s
    cases s <;> rfl
  induction steps generalizing b with
  | nil => rfl
  | cons s rest ih =>
      rw [List.flatMap_cons, applyAll_append, hstep, ih]
      rfl

/-- A name that is taken back after a step may be taken back before it. -/
theorem retract_apply (b : Blueprint) (name : String) {s : Step} (hs : s.parts = [s]) :
    (b.apply s).apply (.removeColumn name) =
      if s.declares name then b.apply (.removeColumn name)
      else (b.apply (.removeColumn name)).apply s := by
  cases s with
  | timestamps | nullableTimestamps | softDeletes | morphs name => cases hs
  | column declaration column modifiers =>
      -- The columns before the new one lose the name, and so does the new one if it has it.
      let c := (declaration.column column).modifyAll modifiers
      have hcolumns : (b.columns ++ [c]).filter (·.name != name) =
          if c.name == name then b.columns.filter (·.name != name)
          else b.columns.filter (·.name != name) ++ [c] := by
        rw [List.filter_append]
        by_cases h : c.name = name <;> simp [h]
      have hdeclares : (Step.column declaration column modifiers).declares name =
          (c.name == name) := Bool.or_false _
      rw [hdeclares]
      show ({ b with columns := (b.columns ++ [c]).filter (·.name != name) } : Blueprint) = _
      rw [hcolumns]
      split <;> rfl
  | removeColumn other =>
      show ({ b with columns := (b.columns.filter (·.name != other)).filter (·.name != name) } :
        Blueprint) = { b with columns := (b.columns.filter (·.name != name)).filter (·.name != other) }
      simp only [List.filter_filter, Bool.and_comm]
  | dropKey kind reference => cases reference <;> rfl
  | _ => rfl

theorem retract_applyAll (b : Blueprint) (name : String) {steps : List Step}
    (h : ∀ s ∈ steps, s.parts = [s]) :
    (b.applyAll steps).apply (.removeColumn name) =
      (b.apply (.removeColumn name)).applyAll (steps.filter (!·.declares name)) := by
  induction steps generalizing b with
  | nil => rfl
  | cons s rest ih =>
      have hrest := ih (b.apply s) fun t ht => h t (List.mem_cons_of_mem s ht)
      show ((b.apply s).applyAll rest).apply _ = _
      rw [hrest, retract_apply b name (h s List.mem_cons_self), List.filter_cons]
      cases s.declares name <;> rfl

theorem ofSteps_removeColumn (table : String) (steps : List Step) (name : String) :
    ofSteps table (steps ++ [.removeColumn name]) =
      (ofSteps table steps).apply (.removeColumn name) :=
  applyAll_append _ steps [.removeColumn name]

theorem ofSteps_undeclared (table : String) (steps : List Step) (name : String) :
    (ofSteps table steps).apply (.removeColumn name) =
      ofSteps table (Step.undeclared name steps) := by
  rw [ofSteps, ← applyAll_parts, retract_applyAll _ name Step.parts_of_mem_flatMap]
  rfl

/-- Taking a name back leaves the blueprint of the steps that do not declare it, so both compile to
the same.  The commands and the engine are those of all steps, and the columns those of another name.
What is checked and what is implied comes from these alone: without other columns nothing is added,
and without a column of the name nothing changes. -/
theorem removeColumn_retracts (table : String) (steps : List Step) (name : String) (g : Grammar)
    (connection : Connection) (i : Option (Introspector σ)) :
    let declared := ofSteps table steps
    let others := declared.columns.filter (·.name != name)
    let removed := ofSteps table (steps ++ [.removeColumn name])
    let undeclared := ofSteps table (Step.undeclared name steps)
    (Step.undeclared name steps).flatMap Step.columns =
        (steps.flatMap Step.columns).filter (·.name != name) ∧
      removed = undeclared ∧
      removed.compile g connection i = undeclared.compile g connection i ∧
      removed = { declared with columns := others } ∧
      removed.definedColumns = others ++ declared.commands.filterMap Command.modifiedColumn? ∧
      removed.finalized.commands =
        (if others ≠ [] ∧ Step.create ∉ steps then [Command.add] else []) ++ declared.commands ++
          others.filterMap declared.impliedIndex? ∧
      ((∀ c ∈ declared.columns, c.name ≠ name) → removed = declared) := by
  intro declared others removed undeclared
  have hremoved : removed = { declared with columns := others } :=
    ofSteps_removeColumn table steps name
  have hundeclared : removed = undeclared :=
    hremoved.trans (ofSteps_undeclared table steps name)
  have hadd : removed.impliedAdd =
      if others ≠ [] ∧ Step.create ∉ steps then [Command.add] else [] := by
    have hcreate : Step.create ∈ steps ++ [.removeColumn name] ↔ Step.create ∈ steps := by simp
    have hothers : surviving (steps ++ [.removeColumn name]) = others := by
      rw [← ofSteps_columns table]
      exact congrArg Blueprint.columns hremoved
    have himplied := ofSteps_impliedAdd table (steps ++ [.removeColumn name])
    simp only [hothers, hcreate] at himplied
    exact himplied
  refine ⟨Step.undeclared_columns name steps, hundeclared, ?_, hremoved, ?_, ?_, fun h => ?_⟩
  · rw [hundeclared]
  · rw [hremoved]
    rfl
  · rw [← hadd, hremoved]
    rfl
  · have hothers : others = declared.columns :=
      List.filter_eq_self.mpr fun c hc => bne_iff_ne.mpr (h c hc)
    rw [hremoved, hothers]

/-- The name is declared with an index, as one half of a pair, and once more after it was taken back.
The last declaration is faulty, and goes as well.  The call that names the column stays. -/
theorem removeColumn_retracts_notes :
    let steps : List Step :=
      [.column .integer "owner_id" [.primary .unnamed], .morphs "owner", .removeColumn "owner_id",
       .index .plain ["owner_id"] none, .column (.enumeration []) "owner_id" [.unique .unnamed]]
    let declared := ofSteps "notes" steps
    let removed := ofSteps "notes" (steps ++ [.removeColumn "owner_id"])
    let connection : Connection := { dialect := .postgres }
    let g : Grammar := { dialect := .postgres }
    declared.preview connection g = .error (.invalidColumn "notes" "owner_id" .noAllowedValues) ∧
      removed.preview connection g =
        .ok ["alter table \"notes\" add column \"owner_type\" varchar(255) not null",
          "create index \"notes_owner_id_index\" on \"notes\" (\"owner_id\")"] ∧
      removed = ofSteps "notes"
        [.column (.string 255) "owner_type" [], .removeColumn "owner_id",
         .index .plain ["owner_id"] none] ∧
      ofSteps "notes" (steps ++ [.removeColumn "owner"]) = declared := by
  intro steps declared removed connection g
  obtain ⟨-, hundeclared, -⟩ := removeColumn_retracts "notes" steps "owner_id" g connection
    (none : Option (Introspector Unit))
  obtain ⟨-, -, -, -, -, -, habsent⟩ := removeColumn_retracts "notes" steps "owner" g connection
    (none : Option (Introspector Unit))
  have hsteps : Step.undeclared "owner_id" steps =
      [.column (.string 255) "owner_type" [], .removeColumn "owner_id",
       .index .plain ["owner_id"] none] := by decide +kernel
  refine ⟨rfl, ok_of_toOption (by decide +kernel), hsteps ▸ hundeclared, habsent (by decide +kernel)⟩

end Blueprint
end TableDdl
