/-
When a preview fails, and with which error.

The columns are checked before any command is compiled: those that survive the steps, then those of
`modify_column` commands, whether or not the dialect has a form for that command.  The first that
cannot be compiled is the error.  If there is none, the first command that needs the live table is.
Nothing else can go wrong (`preview_refused_iff`).
-/
import TableDdl.Proofs.LiveTable
import TableDdl.Proofs.Preview
import TableDdl.Proofs.Trim

namespace TableDdl

namespace Column

/-- Nothing can be compiled from the column. -/
def Faulty (c : Column) : Prop := Text.trim c.name = "" ∨ c.type = .enumeration ∧ c.allowed = []

theorem faulty_iff (c : Column) : c.Faulty ↔ c.fault? ≠ none := by
  unfold fault? Faulty
  rw [Text.trim_eq_empty_iff]
  split <;> simp_all

theorem fault?_eq_blankName_iff (c : Column) :
    c.fault? = some .blankName ↔ Text.trim c.name = "" := by
  unfold fault?
  rw [Text.trim_eq_empty_iff]
  split <;> simp_all

theorem fault?_eq_noAllowedValues_iff (c : Column) :
    c.fault? = some .noAllowedValues ↔ c.Faulty ∧ Text.trim c.name ≠ "" := by
  unfold fault? Faulty
  simp only [ne_eq, Text.trim_eq_empty_iff]
  split <;> simp_all

end Column

namespace Blueprint

/-- The columns that steps define, in the order in which they are checked. -/
def definedBy (table : String) (steps : List Step) : List Column :=
  surviving steps ++ (steps.flatMap (Step.commands table)).filterMap Command.modifiedColumn?

/-- The errors with which the preview of a blueprint can fail.  There is at most one. -/
inductive Refused (table : String) (steps : List Step) (d : Dialect) : SchemaError → Prop
  | blankName (c : Column) (h : First Column.Faulty (definedBy table steps) c)
      (hname : Text.trim c.name = "") : Refused table steps d (.invalidColumn table c.name .blankName)
  | noAllowedValues (c : Column) (h : First Column.Faulty (definedBy table steps) c)
      (hname : Text.trim c.name ≠ "") :
      Refused table steps d (.invalidColumn table c.name .noAllowedValues)
  | needsTable (hsound : ∀ c ∈ definedBy table steps, ¬ c.Faulty) (c : Command)
      (h : First (Command.NeedsTable d) (steps.flatMap (Step.commands table)) c) :
      Refused table steps d (.introspectionUnavailable c.name)

variable (table : String) (steps : List Step)

theorem ofSteps_definedColumns : (ofSteps table steps).definedColumns = definedBy table steps := by
  rw [definedColumns, ofSteps_columns, ofSteps_commands]
  rfl

theorem ofSteps_fault?_eq_some_iff (c : Column) (fault : ColumnFault) :
    (ofSteps table steps).fault? = some (c, fault) ↔
      First Column.Faulty (definedBy table steps) c ∧ c.fault? = some fault := by
  have hfaulty : (fun c : Column => c.fault?.map (c, ·) ≠ none) = Column.Faulty := by
    funext c
    rw [Ne, Option.map_eq_none_iff, ← Ne, c.faulty_iff]
  rw [fault?, ofSteps_definedColumns, findSome?_eq_some_iff_first, hfaulty]
  constructor
  · rintro ⟨d, hfirst, hd⟩
    obtain ⟨fault', hfault, heq⟩ := Option.map_eq_some_iff.mp hd
    cases heq
    exact ⟨hfirst, hfault⟩
  · rintro ⟨hfirst, hfault⟩
    exact ⟨c, hfirst, by rw [hfault]; rfl⟩

theorem fault?_eq_none_iff {b : Blueprint} :
    b.fault? = none ↔ ∀ c ∈ b.definedColumns, ¬ c.Faulty := by
  rw [fault?, List.findSome?_eq_none_iff]
  refine forall₂_congr fun c _ => ?_
  rw [Option.map_eq_none_iff, c.faulty_iff, Decidable.not_not]

theorem check_of_sound {b : Blueprint} (h : ∀ c ∈ b.definedColumns, ¬ c.Faulty) :
    b.check = .ok () := by
  rw [check, fault?_eq_none_iff.mpr h]

theorem ofSteps_fault?_eq_none_iff :
    (ofSteps table steps).fault? = none ↔ ∀ c ∈ definedBy table steps, ¬ c.Faulty := by
  rw [fault?_eq_none_iff, ofSteps_definedColumns]

variable (connection : Connection) (g : Grammar)

theorem ofSteps_preview_eq :
    (ofSteps table steps).preview connection g =
      match (ofSteps table steps).fault? with
      | some (c, fault) => .error (.invalidColumn table c.name fault)
      | none =>
          match (steps.flatMap (Step.commands table)).findSome? g.dialect.alteration? with
          | some a => .error (.introspectionUnavailable a.command)
          | none =>
              .ok ((ofSteps table steps).finalized.commands.flatMap fun c =>
                (g.plan connection (ofSteps table steps).finalized c).emitted) := by
  have heq := preview_eq (ofSteps table steps) g connection
  rw [finalized_findSome?_alteration?, ofSteps_commands, ofSteps_table] at heq
  exact heq

theorem refused_of_preview {e : SchemaError}
    (h : (ofSteps table steps).preview connection g = .error e) :
    Refused table steps g.dialect e := by
  rw [ofSteps_preview_eq] at h
  cases hfault : (ofSteps table steps).fault? with
  | some found =>
      obtain ⟨c, fault⟩ := found
      obtain ⟨hfirst, hc⟩ := (ofSteps_fault?_eq_some_iff table steps c fault).mp hfault
      rw [hfault] at h
      cases h
      cases fault with
      | blankName => exact .blankName c hfirst (c.fault?_eq_blankName_iff.mp hc)
      | noAllowedValues =>
          exact .noAllowedValues c hfirst (c.fault?_eq_noAllowedValues_iff.mp hc).2
  | none =>
      have hsound := (ofSteps_fault?_eq_none_iff table steps).mp hfault
      rw [hfault] at h
      cases hlive : (steps.flatMap (Step.commands table)).findSome? g.dialect.alteration? with
      | none =>
          rw [hlive] at h
          cases h
      | some a =>
          obtain ⟨c, hfirst, hc⟩ := Dialect.findSome?_alteration?_eq_some_iff.mp hlive
          rw [hlive] at h
          cases h
          rw [Dialect.command_of_alteration? hc]
          exact .needsTable hsound c hfirst

theorem preview_of_refused {e : SchemaError} (h : Refused table steps g.dialect e) :
    (ofSteps table steps).preview connection g = .error e := by
  have hfaulty : ∀ c fault, First Column.Faulty (definedBy table steps) c →
      c.fault? = some fault →
      (ofSteps table steps).preview connection g = .error (.invalidColumn table c.name fault) := by
    intro c fault hfirst hc
    rw [ofSteps_preview_eq, (ofSteps_fault?_eq_some_iff table steps c fault).mpr ⟨hfirst, hc⟩]
  cases h with
  | blankName c hfirst hname =>
      exact hfaulty c _ hfirst (c.fault?_eq_blankName_iff.mpr hname)
  | noAllowedValues c hfirst hname =>
      exact hfaulty c _ hfirst (c.fault?_eq_noAllowedValues_iff.mpr ⟨hfirst.holds, hname⟩)
  | needsTable hsound c hfirst =>
      have hlive := Dialect.alteration?_ne_none_iff.mpr hfirst.holds
      obtain ⟨a, ha⟩ := Option.ne_none_iff_exists'.mp hlive
      rw [ofSteps_preview_eq, (ofSteps_fault?_eq_none_iff table steps).mpr hsound,
        Dialect.findSome?_alteration?_eq_some_iff.mpr ⟨c, hfirst, ha⟩, ← Dialect.command_of_alteration? ha]

/-- A preview fails on the first column that cannot be compiled, else on the first command that needs
the live table, and with no other error. -/
theorem preview_refused_iff :
    let preview := (ofSteps table steps).preview connection g
    let columns := definedBy table steps
    let commands := steps.flatMap (Step.commands table)
    (∀ e, preview = .error e ↔ Refused table steps g.dialect e) ∧
      ((∃ column fault, preview = .error (.invalidColumn table column fault)) ↔
        ∃ c ∈ columns, c.Faulty) ∧
      ((∃ command, preview = .error (.introspectionUnavailable command)) ↔
        (∀ c ∈ columns, ¬ c.Faulty) ∧ ∃ c ∈ commands, c.NeedsTable g.dialect) ∧
      ((∃ sql, preview = .ok sql) ↔
        (∀ c ∈ columns, ¬ c.Faulty) ∧ ∀ c ∈ commands, ¬ c.NeedsTable g.dialect) := by
  intro preview columns commands
  have herror : ∀ e, preview = .error e ↔ Refused table steps g.dialect e := fun e =>
    ⟨refused_of_preview table steps connection g, preview_of_refused table steps connection g⟩
  refine ⟨herror, ?_, ?_, ?_⟩
  · simp only [herror]
    rw [← exists_first_iff]
    constructor
    · rintro ⟨column, fault, h⟩
      cases h with
      | blankName c hfirst _ => exact ⟨c, hfirst⟩
      | noAllowedValues c hfirst _ => exact ⟨c, hfirst⟩
    · rintro ⟨c, hfirst⟩
      by_cases hname : Text.trim c.name = ""
      · exact ⟨_, _, .blankName c hfirst hname⟩
      · exact ⟨_, _, .noAllowedValues c hfirst hname⟩
  · simp only [herror]
    rw [← exists_first_iff]
    constructor
    · rintro ⟨command, h⟩
      cases h with
      | needsTable hsound c hfirst => exact ⟨hsound, c, hfirst⟩
    · rintro ⟨hsound, c, hfirst⟩
      exact ⟨_, .needsTable hsound c hfirst⟩
  · rw [← ofSteps_fault?_eq_none_iff, ← Dialect.findSome?_alteration?_eq_none_iff]
    show (∃ sql, (ofSteps table steps).preview connection g = .ok sql) ↔ _
    rw [ofSteps_preview_eq]
    cases (ofSteps table steps).fault? with
    | some found => simp
    | none => cases commands.findSome? g.dialect.alteration? <;> simp

end Blueprint
end TableDdl
