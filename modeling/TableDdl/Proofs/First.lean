/-
The first item of a list with a property, and the searches that find it.
-/

namespace TableDdl

variable {α β : Type} {p : α → Prop} {items : List α} {x y : α}

/-- The first item of a list that has the property. -/
def First (p : α → Prop) (items : List α) (x : α) : Prop :=
  ∃ before after, items = before ++ x :: after ∧ p x ∧ ∀ y ∈ before, ¬ p y

theorem First.mem (h : First p items x) : x ∈ items := by
  obtain ⟨before, after, rfl, -, -⟩ := h
  exact List.mem_append_right _ List.mem_cons_self

theorem First.holds (h : First p items x) : p x := by
  obtain ⟨-, -, -, hx, -⟩ := h
  exact hx

theorem first_head (h : p x) (items : List α) : First p (x :: items) x :=
  ⟨[], items, rfl, h, fun _ hmem => absurd hmem List.not_mem_nil⟩

theorem First.cons (h : First p items x) (hy : ¬ p y) : First p (y :: items) x := by
  obtain ⟨before, after, rfl, hx, hbefore⟩ := h
  refine ⟨y :: before, after, rfl, hx, fun z hz => ?_⟩
  rcases List.mem_cons.mp hz with rfl | hz
  · exact hy
  · exact hbefore z hz

theorem exists_first_iff : (∃ x, First p items x) ↔ ∃ x ∈ items, p x := by
  constructor
  · rintro ⟨x, h⟩
    exact ⟨x, h.mem, h.holds⟩
  · rintro ⟨x, hmem, hx⟩
    induction items with
    | nil => cases hmem
    | cons y rest ih =>
        by_cases hy : p y
        · exact ⟨y, first_head hy rest⟩
        · have hrest : x ∈ rest := by
            rcases List.mem_cons.mp hmem with rfl | h
            · exact absurd hx hy
            · exact h
          obtain ⟨z, hz⟩ := ih hrest
          exact ⟨z, hz.cons hy⟩

theorem find?_eq_some_iff_first {p : α → Bool} :
    items.find? p = some x ↔ First (fun y => p y = true) items x := by
  rw [List.find?_eq_some_iff_append]
  constructor
  · rintro ⟨hx, before, after, rfl, hbefore⟩
    exact ⟨before, after, rfl, hx, fun y hy => by simpa using hbefore y hy⟩
  · rintro ⟨before, after, rfl, hx, hbefore⟩
    exact ⟨hx, before, after, rfl, fun y hy => by simpa using hbefore y hy⟩

/-- What a search finds comes from the first item that has something to be found. -/
theorem findSome?_eq_some_iff_first {f : α → Option β} {found : β} :
    items.findSome? f = some found ↔
      ∃ x, First (fun y => f y ≠ none) items x ∧ f x = some found := by
  rw [List.findSome?_eq_some_iff]
  constructor
  · rintro ⟨before, x, after, rfl, hx, hbefore⟩
    have hfound : f x ≠ none := by
      rw [hx]
      exact Option.some_ne_none found
    exact ⟨x, ⟨before, after, rfl, hfound, fun z hz => not_not_intro (hbefore z hz)⟩, hx⟩
  · rintro ⟨x, ⟨before, after, rfl, -, hbefore⟩, hx⟩
    exact ⟨before, x, after, rfl, hx, fun z hz => Decidable.not_not.mp (hbefore z hz)⟩

end TableDdl
