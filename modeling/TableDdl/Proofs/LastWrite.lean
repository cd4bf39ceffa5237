/-
Writes of which the last to each place counts.

A modifier writes one attribute of a column or of a foreign key.  A later write to the same attribute
overwrites it, and writes to different attributes do not see each other.  So what a list of modifiers
leaves is told by the last write to each attribute alone (`foldl_eq_of_sameLast`).

The proof drops every write that a later one overwrites.  What stands holds one write for each place
that is written at all, in some order, and the order of writes to different places does not matter.
-/
import TableDdl.Command

namespace TableDdl

section Writes

variable {σ μ α : Type} [DecidableEq α] {write : σ → μ → σ} {place : μ → α}

/-- A later write to the same place wins, and writes to different places may be swapped. -/
structure Overwrites (write : σ → μ → σ) (place : μ → α) : Prop where
  same : ∀ s m m', place m = place m' → write (write s m) m' = write s m'
  other : ∀ s m m', place m ≠ place m' → write (write s m) m' = write (write s m') m

/-- The last of the writes to a place. -/
def lastWrite? (place : μ → α) (a : α) (writes : List μ) : Option μ :=
  (writes.filter (place · = a)).getLast?

/-- Each place is written last in the same way, or in neither list. -/
def SameLast (place : μ → α) (writes writes' : List μ) : Prop :=
  ∀ a, lastWrite? place a writes = lastWrite? place a writes'

/-- The writes that no later one overwrites. -/
def standing (place : μ → α) : List μ → List μ
  | [] => []
  | m :: rest =>
      if lastWrite? place (place m) rest = none then m :: standing place rest
      else standing place rest

theorem lastWrite?_cons_self (m : μ) (rest : List μ) :
    lastWrite? place (place m) (m :: rest) = some ((lastWrite? place (place m) rest).getD m) := by
  simp [lastWrite?, List.getLast?_cons]

theorem lastWrite?_cons_of_ne {m : μ} {a : α} (h : place m ≠ a) (rest : List μ) :
    lastWrite? place a (m :: rest) = lastWrite? place a rest := by
  simp [lastWrite?, h]

theorem mem_standing_iff {m : μ} {writes : List μ} :
    m ∈ standing place writes ↔ lastWrite? place (place m) writes = some m := by
  induction writes with
  | nil => simp [standing, lastWrite?]
  | cons x rest ih =>
      by_cases hplace : place x = place m
      · have hcons : lastWrite? place (place x) (x :: rest) =
            some ((lastWrite? place (place x) rest).getD x) := lastWrite?_cons_self x rest
        rw [hplace] at hcons
        rw [standing, hplace, hcons]
        cases hlast : lastWrite? place (place m) rest with
        | none =>
            rw [hlast] at ih
            simp [ih, eq_comm]
        | some last =>
            rw [hlast] at ih
            simp [ih]
      · have hne : m ≠ x := fun h => hplace (h ▸ rfl)
        rw [lastWrite?_cons_of_ne hplace, standing]
        split
        · rw [List.mem_cons, ih]
          simp [hne]
        · exact ih

theorem standing_pairwise (writes : List μ) :
    (standing place writes).Pairwise fun m m' => place m ≠ place m' := by
  induction writes with
  | nil => exact .nil
  | cons x rest ih =>
      rw [standing]
      split
      · rename_i hlast
        refine ih.cons fun m hm heq => ?_
        rw [mem_standing_iff, ← heq, hlast] at hm
        cases hm
      · exact ih

theorem standing_nodup (writes : List μ) : (standing place writes).Nodup :=
  (standing_pairwise writes).imp fun hne heq => hne (congrArg place heq)

theorem standing_perm {writes writes' : List μ} (h : SameLast place writes writes') :
    (standing place writes).Perm (standing place writes') := by
  refine (List.perm_ext_iff_of_nodup (standing_nodup writes) (standing_nodup writes')).mpr ?_
  intro m
  rw [mem_standing_iff, mem_standing_iff, h]

/-- A list keeps its last writes when neighbours that write different places are swapped. -/
theorem sameLast_swap {m m' : μ} (h : place m ≠ place m') (before after : List μ) :
    SameLast place (before ++ m :: m' :: after) (before ++ m' :: m :: after) := by
  intro a
  unfold lastWrite?
  by_cases hm : place m = a
  · have hm' : place m' ≠ a := fun heq => h (hm.trans heq.symm)
    simp [hm, hm']
  · simp [List.filter_cons, hm]

namespace Overwrites

variable (h : Overwrites write place)
include h

theorem foldl_of_overwritten {m : μ} {rest : List μ}
    (hlast : lastWrite? place (place m) rest ≠ none) (s : σ) :
    rest.foldl write (write s m) = rest.foldl write s := by
  induction rest generalizing s with
  | nil => exact absurd rfl hlast
  | cons x rest ih =>
      rw [List.foldl_cons, List.foldl_cons]
      by_cases hplace : place m = place x
      · rw [h.same s m x hplace]
      · rw [lastWrite?_cons_of_ne (Ne.symm hplace)] at hlast
        rw [h.other s m x hplace, ih hlast]

theorem foldl_standing (writes : List μ) (s : σ) :
    (standing place writes).foldl write s = writes.foldl write s := by
  induction writes generalizing s with
  | nil => rfl
  | cons m rest ih =>
      rw [standing]
      split
      · exact ih (write s m)
      · rename_i hlast
        rw [List.foldl_cons, h.foldl_of_overwritten hlast, ih]

/-- What a list of writes leaves depends on the last write to each place alone. -/
theorem foldl_eq_of_sameLast {writes writes' : List μ} (hlast : SameLast place writes writes')
    (s : σ) : writes.foldl write s = writes'.foldl write s := by
  have hswap : ∀ m ∈ standing place writes, ∀ m' ∈ standing place writes, ∀ s,
      write (write s m) m' = write (write s m') m := by
    intro m hm m' hm' s
    by_cases hplace : place m = place m'
    · -- Only one write to a place stands.
      rw [mem_standing_iff] at hm hm'
      rw [hplace, hm'] at hm
      cases hm
      rfl
    · exact h.other s m m' hplace
  calc writes.foldl write s
      = (standing place writes).foldl write s := (h.foldl_standing writes s).symm
    _ = (standing place writes').foldl write s := (standing_perm hlast).foldl_eq' hswap s
    _ = writes'.foldl write s := h.foldl_standing writes' s

end Overwrites

end Writes

/-! ## Modifiers -/

inductive ColumnAttribute where
  | nullable | unsigned | autoIncrement | defaultValue | after
  | primary | unique | index
  | length | total | places | allowed
deriving DecidableEq

/-- The attribute of a column that the modifier writes. -/
def ColumnModifier.attribute : ColumnModifier → ColumnAttribute
  | .nullable => .nullable
  | .unsigned => .unsigned
  | .autoIncrement => .autoIncrement
  | .defaultValue _ => .defaultValue
  | .after _ => .after
  | .primary _ => .primary
  | .unique _ => .unique
  | .index _ => .index
  | .length _ => .length
  | .total _ => .total
  | .places _ => .places
  | .allowed _ => .allowed

inductive ForeignKeyAttribute where
  | references | table | onDelete | onUpdate
deriving DecidableEq

/-- The attribute of a foreign key that the modifier writes. -/
def ForeignKeyModifier.attribute : ForeignKeyModifier → ForeignKeyAttribute
  | .references _ => .references
  | .table _ => .table
  | .onDelete _ => .onDelete
  | .onUpdate _ => .onUpdate

theorem Column.modify_overwrites : Overwrites Column.modify ColumnModifier.attribute where
  same c m m' h := by cases m <;> cases m' <;> first | rfl | cases h
  other c m m' h := by cases m <;> cases m' <;> first | rfl | exact absurd rfl h

theorem ForeignKey.modify_overwrites :
    Overwrites ForeignKey.modify ForeignKeyModifier.attribute where
  same key m m' h := by cases m <;> cases m' <;> first | rfl | cases h
  other key m m' h := by cases m <;> cases m' <;> first | rfl | exact absurd rfl h

end TableDdl
