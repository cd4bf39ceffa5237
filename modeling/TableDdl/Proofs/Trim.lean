/-
Trimmed texts.

Nothing is left of a text exactly when it is all blanks (`trim_eq_empty_iff`).  What is left
otherwise is known by the blanks around it, if it neither starts nor ends with one (`trimChars_eq_iff`).
-/
import Mathlib.Data.List.Basic
import Mathlib.Data.List.TakeWhile
import TableDdl.Text.Blank

namespace TableDdl
namespace Text

theorem trimChars_eq_nil_iff (s : List Char) : trimChars s = [] ↔ s.all isBlank = true := by
  rw [trimChars, List.reverse_eq_nil_iff, List.dropWhile_eq_nil_iff, List.all_eq_true]
  simp only [List.mem_reverse]
  constructor
  · intro h c hc
    rw [← List.takeWhile_append_dropWhile (p := isBlank) (l := s)] at hc
    rcases List.mem_append.mp hc with hc | hc
    · exact List.all_eq_true.mp List.all_takeWhile c hc
    · exact h c hc
  · intro h c hc
    exact h c ((List.dropWhile_sublist isBlank).subset hc)

theorem trim_eq_empty_iff (s : String) : trim s = "" ↔ isBlankText s = true := by
  unfold trim isBlankText
  rw [← trimChars_eq_nil_iff, ← String.toList_inj]
  simp

theorem dropWhile_blanks {front rest : List Char} (hfront : ∀ c ∈ front, isBlank c = true)
    (hrest : ∀ c, rest.head? = some c → isBlank c = false) :
    (front ++ rest).dropWhile isBlank = rest := by
  rw [List.dropWhile_append_of_pos hfront]
  cases rest with
  | nil => rfl
  | cons c tail => simp [hrest c rfl]

theorem trimChars_eq_iff {s word : List Char} (hne : word ≠ [])
    (hword : ∀ c ∈ word, isBlank c = false) :
    trimChars s = word ↔
      ∃ front back, s = front ++ word ++ back ∧ (∀ c ∈ front, isBlank c = true) ∧
        ∀ c ∈ back, isBlank c = true := by
  constructor
  · rintro rfl
    have hback : s.dropWhile isBlank =
        trimChars s ++ ((s.dropWhile isBlank).reverse.takeWhile isBlank).reverse := by
      rw [trimChars, ← List.reverse_append, List.takeWhile_append_dropWhile, List.reverse_reverse]
    refine ⟨s.takeWhile isBlank, ((s.dropWhile isBlank).reverse.takeWhile isBlank).reverse, ?_,
      List.all_eq_true.mp List.all_takeWhile, fun c hc => ?_⟩
    · rw [List.append_assoc, ← hback, List.takeWhile_append_dropWhile]
    · exact List.all_eq_true.mp List.all_takeWhile c (List.mem_reverse.mp hc)
  · rintro ⟨front, back, rfl, hfront, hback⟩
    have hhead : ∀ c, (word ++ back).head? = some c → isBlank c = false := by
      intro c hc
      rw [List.head?_append_of_ne_nil word hne] at hc
      exact hword c (List.mem_of_head? hc)
    have hlast : ∀ c, word.reverse.head? = some c → isBlank c = false := fun c hc =>
      hword c (List.mem_reverse.mp (List.mem_of_head? hc))
    have hback' : ∀ c ∈ back.reverse, isBlank c = true := fun c hc =>
      hback c (List.mem_reverse.mp hc)
    rw [trimChars, List.append_assoc, dropWhile_blanks hfront hhead, List.reverse_append,
      dropWhile_blanks hback' hlast, List.reverse_reverse]

end Text
end TableDdl
