/-
A compilation does not tell states apart in which the introspector answers alike.

If the introspector tracks a relation on states, so does every compilation (`compile_tracks`).  For
an introspector whose answers depend on the questions alone all states are alike, and what a
blueprint compiles to is the same from any of them (`compile_steady`).
-/
import TableDdl.Database.Scripted
import TableDdl.Proofs.Question

namespace TableDdl

variable {σ : Type}

/-- The introspector answers alike in related states, and leaves related states behind. -/
structure Introspector.Tracks (i : Introspector σ) (R : σ → σ → Prop) : Prop where
  describe : ∀ table, (i.describe table).Tracks R
  alter : ∀ diff, (i.alter diff).Tracks R

namespace Introspector.Tracks

variable {i : Introspector σ} {R : σ → σ → Prop} (h : i.Tracks R)
include h

theorem describeTable (table : String) : (i.describeTable table).Tracks R :=
  Run.tracks_bind (Run.tracks_note _) fun _ => Run.tracks_mapTrace (h.describe table)

theorem alterTable (diff : TableDiff) : (i.alterTable diff).Tracks R :=
  Run.tracks_bind (Run.tracks_note _) fun _ => Run.tracks_mapTrace (h.alter diff)

theorem column (table name : String) : (i.column table name).Tracks R := by
  refine Run.tracks_bind (h.describeTable table) fun columns => ?_
  cases columns.find? (·.name == name) with
  | some column => exact Run.tracks_pure column
  | none => exact Run.tracks_fail _

theorem columns (table : String) (names : List String) : (i.columns table names).Tracks R := by
  induction names with
  | nil => exact Run.tracks_pure []
  | cons name rest ih =>
      exact Run.tracks_bind (h.column table name) fun _ =>
        Run.tracks_bind ih fun _ => Run.tracks_pure _

theorem statements (g : Grammar) (b : Blueprint) (a : Alteration) :
    (a.statements g b i).Tracks R := by
  rw [Alteration.statements_eq]
  exact Run.tracks_bind (h.describeTable _) fun _ =>
    Run.tracks_bind (h.columns _ _) fun _ => h.alterTable _

end Introspector.Tracks

/-- The tables of a catalogue stay as they are, whatever happens to the state. -/
theorem Catalogue.tracks (c : Catalogue) (R : σ → σ → Prop) : c.introspector.Tracks R where
  describe table := Run.tracks_ofExcept (c.describe table)
  alter diff := Run.tracks_ofExcept (c.alter diff)

namespace Blueprint

variable {b : Blueprint} {g : Grammar} {connection : Connection} {i : Option (Introspector σ)}
  {R : σ → σ → Prop} (h : ∀ j ∈ i, j.Tracks R)
include h

theorem compileCommand_tracks (c : Command) : (b.compileCommand g connection i c).Tracks R := by
  unfold compileCommand
  cases g.plan connection b c with
  | unsupported => exact Run.tracks_bind (Run.tracks_note _) fun _ => Run.tracks_pure []
  | statements statements => exact Run.tracks_pure statements
  | alteration a =>
      cases i with
      | none => exact Run.tracks_fail _
      | some j => exact (h j rfl).statements g b a

theorem compileCommands_tracks (commands : List Command) :
    (b.compileCommands g connection i commands).Tracks R := by
  induction commands with
  | nil => exact Run.tracks_pure []
  | cons c rest ih =>
      exact Run.tracks_bind (compileCommand_tracks h c) fun _ =>
        Run.tracks_bind ih fun _ => Run.tracks_pure _

theorem compile_tracks : (b.compile g connection i).Tracks R := by
  intro s s' hs
  cases hfault : b.fault? with
  | some f =>
      rw [compile_of_fault hfault, compile_of_fault hfault]
      exact ⟨rfl, hs⟩
  | none =>
      rw [compile_of_sound hfault, compile_of_sound hfault]
      exact compileCommands_tracks h b.finalized.commands s s' hs

end Blueprint

/-! ## Answers that depend on the questions alone -/

/-- A question has the same answer whenever it is asked. -/
structure Introspector.Steady (i : Introspector σ) : Prop where
  describe : ∀ table s s', (i.describe table s).result = (i.describe table s').result
  alter : ∀ diff s s', (i.alter diff s).result = (i.alter diff s').result

theorem Introspector.Steady.tracks {i : Introspector σ} (h : i.Steady) :
    i.Tracks fun _ _ => True where
  describe table s s' _ := ⟨h.describe table s s', trivial⟩
  alter diff s s' _ := ⟨h.alter diff s s', trivial⟩

theorem Catalogue.steady (c : Catalogue) : (c.introspector : Introspector σ).Steady where
  describe _ _ _ := rfl
  alter _ _ _ := rfl

theorem Blueprint.compile_steady {i : Option (Introspector σ)} (h : ∀ j ∈ i, j.Steady)
    (b : Blueprint) (g : Grammar) (connection : Connection) (s s' : σ) :
    (b.compile g connection i s).result = (b.compile g connection i s').result := by
  have htracks : ∀ j ∈ i, j.Tracks fun _ _ => True := fun j hj => (h j hj).tracks
  exact (compile_tracks htracks s s' trivial).1

end TableDdl
