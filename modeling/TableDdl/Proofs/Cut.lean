/-
A reference as one pass over its text.

Quoting a reference takes both sides of the leftmost alias keyword and goes on in each.  The same
cuts are made by a walk from left to right that never turns back: the left side of a keyword has
none left in it, so only the right side is looked at again.  `Cut` says where the cuts are by what
stands in the text, and `cut_iff` that there is exactly one way to make them.

Keywords may overlap, as in `a as as b`.  The leftmost is the one that counts: no other may end
before it does, and the search goes on behind its last blank.
-/
import TableDdl.Connection
import TableDdl.Proofs.Lowercase
import TableDdl.Proofs.Reading

namespace TableDdl

/-- No other character becomes a blank in lower case. -/
theorem Text.asciiLower_eq_blank_iff {c : Char} : asciiLower c = ' ' ↔ c = ' ' := by
  constructor
  · intro h
    exact eq_of_asciiLower h rfl
  · rintro rfl
    rfl

namespace Identifier

/-- The sides of a text that is cut at its alias keywords from left to right. -/
inductive Cut : List Char → List (List Char) → Prop
  | whole {s} (h : ¬ HasAlias s) : Cut s [s]
  /-- No keyword ends before this one does, so it is the leftmost. -/
  | keyword {left right sides} {a b : Char} (ha : Text.asciiLower a = 'a')
      (hb : Text.asciiLower b = 's') (hfirst : ¬ HasAlias (left ++ [' ', a, b]))
      (hright : Cut right sides) : Cut (left ++ ' ' :: a :: b :: ' ' :: right) (left :: sides)

/-- The same text but for the letter case of the keywords that it is cut at. -/
inductive Recased : List Char → List Char → Prop
  | whole {s} (h : ¬ HasAlias s) : Recased s s
  | keyword {left right right'} {a b a' b' : Char} (ha : Text.asciiLower a = 'a')
      (hb : Text.asciiLower b = 's') (ha' : Text.asciiLower a' = 'a')
      (hb' : Text.asciiLower b' = 's') (hfirst : ¬ HasAlias (left ++ [' ', a, b]))
      (hright : Recased right right') :
      Recased (left ++ ' ' :: a :: b :: ' ' :: right) (left ++ ' ' :: a' :: b' :: ' ' :: right')

variable {q : Char} {s t left right : List Char} {a b : Char}

/-! ## The leftmost keyword -/

theorem splitAlias?_cons_eq_none_iff {c : Char} :
    splitAlias? (c :: s) = none ↔ afterAlias? (c :: s) = none ∧ splitAlias? s = none := by
  rw [splitAlias?]
  split
  · simp_all
  · simp_all

/-- A keyword in the lower-case copy comes from one in the text, at the same place. -/
theorem exists_keyword_of_lower {front back : List Char}
    (h : s.map Text.asciiLower = front ++ aliasKeyword ++ back) :
    ∃ left a b right, Text.asciiLower a = 'a' ∧ Text.asciiLower b = 's' ∧
      s = left ++ ' ' :: a :: b :: ' ' :: right ∧ left.map Text.asciiLower = front := by
  obtain ⟨upTo, right, rfl, hupTo, -⟩ := List.map_eq_append_iff.mp h
  obtain ⟨left, keyword, rfl, hleft, hkeyword⟩ := List.map_eq_append_iff.mp hupTo
  simp only [aliasKeyword, List.map_eq_cons_iff, List.map_eq_nil_iff,
    Text.asciiLower_eq_blank_iff] at hkeyword
  obtain ⟨_, _, rfl, rfl, a, _, rfl, ha, b, _, rfl, hb, _, _, rfl, rfl, rfl⟩ := hkeyword
  exact ⟨left, a, b, right, ha, hb, by simp, hleft⟩

/-- A keyword is one in the lower-case copy of the text. -/
theorem hasAlias_iff_lower : HasAlias s ↔ aliasKeyword <:+: s.map Text.asciiLower := by
  constructor
  · rintro ⟨left, a, b, right, ha, hb, rfl⟩
    refine ⟨left.map Text.asciiLower, right.map Text.asciiLower, ?_⟩
    simp [aliasKeyword, ha, hb]
    rfl
  · rintro ⟨front, back, h⟩
    obtain ⟨left, a, b, right, ha, hb, heq, -⟩ := exists_keyword_of_lower h.symm
    exact ⟨left, a, b, right, ha, hb, heq⟩

theorem hasAlias_congr (h : s.map Text.asciiLower = t.map Text.asciiLower) :
    HasAlias s ↔ HasAlias t := by
  rw [hasAlias_iff_lower, hasAlias_iff_lower, h]

/-- Whether a text starts with the keyword is seen from its first four characters. -/
theorem afterAlias?_of_append {found : List Char} (h : afterAlias? (s ++ t) = some found)
    (hs : 4 ≤ s.length) : afterAlias? s ≠ none := by
  obtain ⟨a, b, ha, hb, heq⟩ := eq_of_afterAlias? h
  match s, hs, heq with
  | _ :: _ :: _ :: _ :: rest, _, heq =>
      simp only [List.cons_append, List.cons.injEq] at heq
      obtain ⟨rfl, rfl, rfl, rfl, -⟩ := heq
      simp [afterAlias?, ha, hb]

/-- The text is split at the keyword before whose last blank there is no other. -/
theorem splitAlias?_of_first (ha : Text.asciiLower a = 'a') (hb : Text.asciiLower b = 's')
    (hfirst : ¬ HasAlias (left ++ [' ', a, b])) :
    splitAlias? (left ++ ' ' :: a :: b :: ' ' :: right) = some (left, right) := by
  induction left with
  | nil => simp [splitAlias?, afterAlias?, ha, hb]
  | cons c left ih =>
      rw [← splitAlias?_eq_none_iff, List.cons_append, splitAlias?_cons_eq_none_iff,
        splitAlias?_eq_none_iff] at hfirst
      rw [List.cons_append, splitAlias?]
      split
      · rename_i found hfound
        -- A keyword that starts here would end before the last blank of the given one.
        have hhere : afterAlias? ((c :: (left ++ [' ', a, b])) ++ ' ' :: right) = some found := by
          simpa using hfound
        exact absurd hfirst.1 (afterAlias?_of_append hhere (by simp))
      · rw [ih hfirst.2]
        rfl

theorem first_of_splitAlias? (h : splitAlias? s = some (left, right)) :
    ∃ a b, Text.asciiLower a = 'a' ∧ Text.asciiLower b = 's' ∧
      s = left ++ ' ' :: a :: b :: ' ' :: right ∧ ¬ HasAlias (left ++ [' ', a, b]) := by
  induction s generalizing left with
  | nil => cases h
  | cons c rest ih =>
      rw [splitAlias?] at h
      split at h
      · rename_i found hfound
        cases h
        obtain ⟨a, b, ha, hb, heq⟩ := eq_of_afterAlias? hfound
        refine ⟨a, b, ha, hb, heq, ?_⟩
        rw [← splitAlias?_eq_none_iff]
        simp [splitAlias?, afterAlias?]
      · rename_i hnone
        obtain ⟨⟨l, r⟩, hsplit, heq⟩ := Option.map_eq_some_iff.mp h
        cases heq
        obtain ⟨a, b, ha, hb, hrest, hfirst⟩ := ih hsplit
        refine ⟨a, b, ha, hb, congrArg (c :: ·) hrest, ?_⟩
        rw [← splitAlias?_eq_none_iff] at hfirst ⊢
        rw [List.cons_append, splitAlias?_cons_eq_none_iff]
        refine ⟨?_, hfirst⟩
        cases hfound : afterAlias? (c :: (l ++ [' ', a, b])) with
        | none => rfl
        | some found =>
            -- A keyword at this character would start the whole text.
            have hwhole := afterAlias?_append hfound (' ' :: right)
            rw [List.cons_append, List.append_assoc] at hwhole
            rw [hrest] at hnone
            cases hnone.symm.trans hwhole

/-! ## The cuts -/

theorem cut_sides (s : List Char) : Cut s (sides s) := by
  fun_induction sides s with
  | case1 s left right hsplit _ ih =>
      obtain ⟨a, b, ha, hb, rfl, hfirst⟩ := first_of_splitAlias? hsplit
      exact .keyword ha hb hfirst ih
  | case2 s hnone => exact .whole (splitAlias?_eq_none_iff.mp hnone)

/-- There is one way to cut a text. -/
theorem cut_iff {cut : List (List Char)} : Cut s cut ↔ cut = sides s := by
  constructor
  · intro h
    induction h with
    | whole h => rw [sides_of_not_split (splitAlias?_eq_none_iff.mpr h)]
    | keyword ha hb hfirst _ ih => rw [sides_of_split (splitAlias?_of_first ha hb hfirst), ih]
  · rintro rfl
    exact cut_sides s

theorem Recased.sides_eq (h : Recased s t) : sides t = sides s := by
  induction h with
  | whole => rfl
  | @keyword left right right' a b a' b' ha hb ha' hb' hfirst _ ih =>
      have hfirst' : ¬ HasAlias (left ++ [' ', a', b']) := by
        rw [hasAlias_congr (t := left ++ [' ', a, b]) (by simp [ha, hb, ha', hb'])]
        exact hfirst
      rw [sides_of_split (splitAlias?_of_first ha hb hfirst),
        sides_of_split (splitAlias?_of_first ha' hb' hfirst'), ih]

/-! ## Names and quotes -/

/-- A side without a dot is a name, and one with dots is the names between them. -/
theorem names_eq (tablePrefix s : List Char) :
    names tablePrefix s =
      if '.' ∈ s then (s.splitOn '.').modifyHead (tablePrefix ++ ·) else [s] := by
  by_cases hdot : '.' ∈ s
  · obtain ⟨first, rest, rfl, hfirst⟩ := List.eq_append_cons_of_mem hdot
    rw [if_pos hdot, names, List.splitOn_append_cons_self_of_not_mem hfirst]
    cases hrest : rest.splitOn '.' with
    | nil => exact absurd hrest (List.splitOn_ne_nil '.' rest)
    | cons second others => rfl
  · rw [if_neg hdot, names, List.splitOn_eq_singleton hdot]

theorem quoted_of_ne_star {name : List Char} (h : name ≠ ['*']) :
    quoted q name = q :: (name ++ [q]) :=
  if_neg h

theorem quoted_eq_self_iff {name : List Char} : quoted q name = name ↔ name = ['*'] := by
  constructor
  · intro heq
    by_cases h : name = ['*']
    · exact h
    have hlength := congrArg List.length heq
    rw [quoted_of_ne_star h, List.length_cons, List.length_append] at hlength
    simp at hlength
    omega
  · exact fun h => if_pos h

end Identifier

namespace Grammar

/-- A reference is the sides of its text, cut once from left to right, with the names of each quoted
one by one.  Nothing but the keywords is lost, and their letter case makes no difference. -/
theorem reference_of_cut (g : Grammar) (text : String) :
    ∃ sides, (∀ cut, Identifier.Cut text.toList cut ↔ cut = sides) ∧
      (g.reference text).toList = " as ".toList.intercalate (sides.map fun side =>
        ['.'].intercalate
          ((Identifier.names g.tablePrefix.toList side).map (Identifier.quoted g.quoteChar))) ∧
      (∀ side ∈ sides, Identifier.names g.tablePrefix.toList side =
        if '.' ∈ side then (side.splitOn '.').modifyHead (g.tablePrefix.toList ++ ·)
        else [side]) ∧
      (∀ name, (Identifier.quoted g.quoteChar name = name ↔ name = ['*']) ∧
        (name ≠ ['*'] →
          Identifier.quoted g.quoteChar name = g.quoteChar :: (name ++ [g.quoteChar]))) ∧
      ∀ other : String, Identifier.Recased text.toList other.toList →
        g.reference other = g.reference text := by
  refine ⟨Identifier.sides text.toList, fun cut => Identifier.cut_iff, ?_, ?_, ?_, ?_⟩
  · have hwritten :=
      Identifier.reference_eq g.quoteChar g.tablePrefix.toList text.toList
    rw [Identifier.writtenReference, List.map_map] at hwritten
    rw [reference, String.toList_ofList]
    exact hwritten
  · exact fun side _ => Identifier.names_eq _ side
  · exact fun name => ⟨Identifier.quoted_eq_self_iff, Identifier.quoted_of_ne_star⟩
  · intro other hother
    rw [reference, reference, Identifier.reference_eq, Identifier.reference_eq, hother.sides_eq]

/-- The keyword overlaps with another, which is left in the second side. -/
theorem reference_of_cut_overlapping :
    let g : Grammar := { dialect := .postgres, tablePrefix := "t_" }
    let text := "ö as AS b.* As c"
    let other := "ö AS AS b.* aS c"
    Identifier.Recased text.toList other.toList ∧
      g.reference other = g.reference text ∧
      g.reference text = "\"ö\" as \"t_AS b\".* as \"c\"" := by
  intro g text other
  have hother : Identifier.Recased text.toList other.toList := by
    have htext : text.toList = ['ö'] ++ ' ' :: 'a' :: 's' :: ' ' ::
        ("AS b.*".toList ++ ' ' :: 'A' :: 's' :: ' ' :: ['c']) := by decide +kernel
    have hother : other.toList = ['ö'] ++ ' ' :: 'A' :: 'S' :: ' ' ::
        ("AS b.*".toList ++ ' ' :: 'a' :: 'S' :: ' ' :: ['c']) := by decide +kernel
    rw [htext, hother]
    refine .keyword rfl rfl rfl rfl ?_ (.keyword rfl rfl rfl rfl ?_ (.whole ?_))
    all_goals
      rw [← Identifier.splitAlias?_eq_none_iff]
      decide +kernel
  obtain ⟨sides, -, -, -, -, hcase⟩ := reference_of_cut g text
  exact ⟨hother, hcase other hother, by decide +kernel⟩

end Grammar
end TableDdl
