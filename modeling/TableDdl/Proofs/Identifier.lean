/-
What the table prefix does to a reference.

The prefix goes to the first name of every dotted path, so it changes a reference exactly when it
is not empty and the reference has a dot (`reference_eq_bare_iff`).  Two paths joined by the alias
keyword cannot be told apart by where the keyword stands in the text they make, since a name may
hold anything.  The lengths decide instead.  The one name that is not quoted is made up for in
`weight`, under which a longer name always makes a heavier text.
-/
import TableDdl.Identifier

namespace TableDdl
namespace Identifier

variable {q : Char} {tablePrefix s left right : List Char}

theorem infix_intercalate (separator : List Char) {part : List Char} {parts : List (List Char)}
    (h : part ∈ parts) : part <:+: separator.intercalate parts := by
  induction parts with
  | nil => cases h
  | cons first others ih =>
      cases others with
      | nil =>
          obtain rfl := List.mem_singleton.mp h
          simp
      | cons second others =>
          rw [List.intercalate_cons_cons]
          rcases List.mem_cons.mp h with rfl | h
          · exact List.infix_append_of_infix_left List.infix_append_left
          · exact List.infix_append_of_infix_right (ih h)

theorem reference_of_split (h : splitAlias? s = some (left, right)) :
    reference q tablePrefix s =
      reference q tablePrefix left ++ aliasKeyword ++ reference q tablePrefix right := by
  rw [reference]
  split
  · rename_i l r hlr
    rw [h] at hlr
    cases hlr
    rfl
  · rename_i hnone
    rw [h] at hnone
    cases hnone

theorem reference_of_not_split (h : splitAlias? s = none) :
    reference q tablePrefix s = path q tablePrefix s := by
  rw [reference]
  split
  · rename_i l r hlr
    rw [h] at hlr
    cases hlr
  · rfl

/-- The keyword between the two sides has no dot. -/
theorem dot_mem_iff_of_split (h : splitAlias? s = some (left, right)) :
    '.' ∈ s ↔ '.' ∈ left ∨ '.' ∈ right := by
  obtain ⟨a, b, ha, hb, rfl⟩ := eq_of_splitAlias? h
  have hdot : Text.asciiLower '.' = '.' := by decide
  have ha' : '.' ≠ a := by
    rintro rfl
    rw [hdot] at ha
    exact absurd ha (by decide)
  have hb' : '.' ≠ b := by
    rintro rfl
    rw [hdot] at hb
    exact absurd hb (by decide)
  simp [ha', hb']

/-! ## Paths -/

theorem path_of_single (h : '.' ∉ s) : path q tablePrefix s = quoted q s := by
  unfold path
  rw [List.splitOn_eq_singleton h]

/-- A path is its first name and the rest, which the prefix does not reach. -/
theorem path_of_dotted {first rest : List Char} (h : '.' ∉ first) :
    path q tablePrefix (first ++ '.' :: rest) =
      quoted q (tablePrefix ++ first) ++ '.' ::
        ['.'].intercalate ((rest.splitOn '.').map (quoted q)) := by
  unfold path
  rw [List.splitOn_append_cons_self_of_not_mem h]
  cases hrest : rest.splitOn '.' with
  | nil => exact absurd hrest (List.splitOn_ne_nil '.' rest)
  | cons second others =>
      show ['.'].intercalate (_ :: quoted q second :: others.map (quoted q)) = _
      rw [List.intercalate_cons_cons, List.append_assoc, List.singleton_append]
      rfl

/-- A dotted path that already starts with the prefix is given it once more. -/
theorem path_prefixed (hp : '.' ∉ tablePrefix) (h : '.' ∈ s) :
    path q tablePrefix s = path q [] (tablePrefix ++ s) := by
  obtain ⟨first, rest, rfl, hfirst⟩ := List.eq_append_cons_of_mem h
  have hboth : '.' ∉ tablePrefix ++ first := by
    rw [List.mem_append]
    exact not_or.mpr ⟨hp, hfirst⟩
  rw [← List.append_assoc, path_of_dotted hfirst, path_of_dotted hboth]
  rfl

/-! ## The prefix changes a dotted reference -/

/-- The length of a text, in which a `*` counts for three. -/
def weight (s : List Char) : Nat := s.length + 2 * s.count '*'

theorem weight_append (s t : List Char) : weight (s ++ t) = weight s + weight t := by
  unfold weight
  rw [List.length_append, List.count_append]
  omega

theorem weight_pos (h : s ≠ []) : 0 < weight s := by
  have hlength := List.length_pos_iff.mpr h
  unfold weight
  omega

theorem weight_cons (c : Char) (s : List Char) : weight (c :: s) = weight [c] + weight s :=
  weight_append [c] s

theorem weight_quoted (hq : q ≠ '*') (h : s ≠ ['*']) : weight (quoted q s) = weight s + 2 := by
  have hone : weight [q] = 1 := by simp [weight, hq]
  rw [quoted, if_neg h, weight_cons, weight_append, hone]
  omega

theorem weight_quoted_le (hq : q ≠ '*') (s : List Char) :
    weight (quoted q s) ≤ weight s + 2 := by
  by_cases h : s = ['*']
  · rw [quoted, if_pos h]
    omega
  · exact Nat.le_of_eq (weight_quoted hq h)

/-- A prefix makes a quoted name heavier, also where it takes the quotes away. -/
theorem weight_quoted_lt (hq : q ≠ '*') (hp : tablePrefix ≠ []) (s : List Char) :
    weight (quoted q s) < weight (quoted q (tablePrefix ++ s)) := by
  by_cases h : tablePrefix ++ s = ['*']
  · obtain ⟨rfl, rfl⟩ : tablePrefix = ['*'] ∧ s = [] := by
      simpa [List.append_eq_singleton_iff, hp] using h
    rw [weight_quoted hq (by decide), List.append_nil, quoted, if_pos rfl]
    decide
  · have hle := weight_quoted_le hq s
    have hpos := weight_pos hp
    rw [weight_quoted hq h, weight_append]
    omega

theorem weight_path_lt (hq : q ≠ '*') (hp : tablePrefix ≠ []) (h : '.' ∈ s) :
    weight (path q [] s) < weight (path q tablePrefix s) := by
  obtain ⟨first, rest, rfl, hfirst⟩ := List.eq_append_cons_of_mem h
  rw [path_of_dotted hfirst, path_of_dotted hfirst, weight_append, weight_append]
  have hlt := weight_quoted_lt hq hp first
  rw [List.nil_append]
  omega

/-- Without a dot there is no path for the prefix to go to. -/
theorem reference_of_no_dot (h : '.' ∉ s) : reference q tablePrefix s = reference q [] s := by
  induction s using reference.induct with
  | case1 s left right hsplit _ ihleft ihright =>
      rw [dot_mem_iff_of_split hsplit, not_or] at h
      rw [reference_of_split hsplit, reference_of_split hsplit, ihleft h.1, ihright h.2]
  | case2 s hnone =>
      rw [reference_of_not_split hnone, reference_of_not_split hnone, path_of_single h,
        path_of_single h]

theorem weight_reference_lt (hq : q ≠ '*') (hp : tablePrefix ≠ []) (h : '.' ∈ s) :
    weight (reference q [] s) < weight (reference q tablePrefix s) := by
  induction s using reference.induct with
  | case1 s left right hsplit _ ihleft ihright =>
      have hle : ∀ t, ('.' ∈ t →
          weight (reference q [] t) < weight (reference q tablePrefix t)) →
          weight (reference q [] t) ≤ weight (reference q tablePrefix t) := by
        intro t ht
        by_cases hdot : '.' ∈ t
        · exact Nat.le_of_lt (ht hdot)
        · have heq : reference q tablePrefix t = reference q [] t := reference_of_no_dot hdot
          exact Nat.le_of_eq (congrArg weight heq.symm)
      have hleft := hle left ihleft
      have hright := hle right ihright
      rw [reference_of_split hsplit, reference_of_split hsplit]
      simp only [weight_append]
      -- A side without a dot stays as it is, and at least one has a dot.
      rcases (dot_mem_iff_of_split hsplit).mp h with hdot | hdot
      · have hlt := ihleft hdot
        omega
      · have hlt := ihright hdot
        omega
  | case2 s hnone =>
      rw [reference_of_not_split hnone, reference_of_not_split hnone]
      exact weight_path_lt hq hp h

theorem reference_eq_bare_iff (hq : q ≠ '*') :
    reference q tablePrefix s = reference q [] s ↔ tablePrefix = [] ∨ '.' ∉ s := by
  constructor
  · intro heq
    by_cases hp : tablePrefix = []
    · exact .inl hp
    · refine .inr fun hdot => ?_
      have hlt := weight_reference_lt hq hp hdot
      rw [heq] at hlt
      exact Nat.lt_irrefl _ hlt
  · rintro (rfl | hdot)
    · rfl
    · exact reference_of_no_dot hdot

end Identifier
end TableDdl
