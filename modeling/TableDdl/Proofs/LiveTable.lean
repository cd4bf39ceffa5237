/-
Which commands need the live table.

Renaming a column does in every dialect, dropping one in SQLite.  The commands that finalizing adds
never do, so it is enough to look at those of the blueprint itself.
-/
import TableDdl.Proofs.Accumulation
import TableDdl.Proofs.First
import TableDdl.Proofs.Plan

namespace TableDdl

/-- Whether the command is worked out against the live table. -/
def Command.NeedsTable (d : Dialect) : Command → Prop
  | .renameColumn _ _ => True
  | .dropColumn _ => d = .sqlite
  | _ => False

namespace Dialect

variable {d : Dialect} {c : Command} {a : Alteration}

theorem alteration?_ne_none_iff : d.alteration? c ≠ none ↔ c.NeedsTable d := by
  cases c with
  | renameColumn old new => simp [alteration?, Command.NeedsTable]
  | dropColumn columns => by_cases h : d = .sqlite <;> simp [alteration?, Command.NeedsTable, h]
  | _ => simp [alteration?, Command.NeedsTable]

theorem alteration?_eq_none_iff : d.alteration? c = none ↔ ¬ c.NeedsTable d := by
  rw [← alteration?_ne_none_iff, Decidable.not_not]

theorem findSome?_alteration?_eq_none_iff {commands : List Command} :
    commands.findSome? d.alteration? = none ↔ ∀ c ∈ commands, ¬ c.NeedsTable d := by
  rw [List.findSome?_eq_none_iff]
  exact forall₂_congr fun c _ => alteration?_eq_none_iff

/-- The search for an alteration finds the first command that needs the live table. -/
theorem findSome?_alteration?_eq_some_iff {commands : List Command} :
    commands.findSome? d.alteration? = some a ↔
      ∃ c, First (Command.NeedsTable d) commands c ∧ d.alteration? c = some a := by
  have hneeds : (fun c => d.alteration? c ≠ none) = Command.NeedsTable d := by
    funext c
    rw [alteration?_ne_none_iff]
  rw [findSome?_eq_some_iff_first, hneeds]

/-- An error that names an alteration names the command it was made from. -/
theorem command_of_alteration? (h : d.alteration? c = some a) : a.command = c.name := by
  cases c with
  | renameColumn old new =>
      cases h
      rfl
  | dropColumn columns =>
      obtain ⟨-, heq⟩ := Option.ite_none_right_eq_some.mp h
      cases heq
      rfl
  | _ => cases h

end Dialect

namespace Blueprint

/-- Finalizing adds nothing that needs the live table. -/
theorem finalized_findSome?_alteration? (b : Blueprint) (d : Dialect) :
    b.finalized.commands.findSome? d.alteration? = b.commands.findSome? d.alteration? := by
  rw [← List.head?_filterMap, ← List.head?_filterMap, b.finalized_filterMap rfl fun _ _ => rfl]

end Blueprint
end TableDdl
