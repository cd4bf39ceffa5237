/-
Quoted references to tables and columns.

A reference is a name, a path of names joined by dots, or two references joined by the keyword
`as`.  `reference` quotes every name in it and adds the table prefix to the first name of a path.
A lone `*` is never quoted, and a quote character inside a name is left as it stands.

The keyword is found by its leftmost occurrence, in either letter case, and both sides are
quoted the same way again.  `eq_of_splitAlias?` gives the text back from the two sides, so
neither side is as long as the whole and the recursion ends.
-/
import TableDdl.Text.Lowercase

namespace TableDdl
namespace Identifier

/-- One name between quote characters. -/
def quoted (q : Char) (name : List Char) : List Char :=
  if name = ['*'] then name else q :: (name ++ [q])

/-- What follows the keyword `as` and the blanks around it, when `s` starts with them. -/
def afterAlias? : List Char → Option (List Char)
  | ' ' :: a :: s :: ' ' :: rest =>
      if Text.asciiLower a = 'a' ∧ Text.asciiLower s = 's' then some rest else none
  | _ => none

/-- The two sides of the leftmost alias keyword. -/
def splitAlias? : List Char → Option (List Char × List Char)
  | [] => none
  | c :: rest =>
      match afterAlias? (c :: rest) with
      | some right => some ([], right)
      | none => (splitAlias? rest).map fun (left, right) => (c :: left, right)

theorem eq_of_afterAlias? {s right : List Char} (h : afterAlias? s = some right) :
    ∃ a b, Text.asciiLower a = 'a' ∧ Text.asciiLower b = 's' ∧
      s = ' ' :: a :: b :: ' ' :: right := by
  unfold afterAlias? at h
  split at h
  · rename_i a b rest
    split at h
    · rename_i hab
      cases h
      exact ⟨a, b, hab.1, hab.2, rfl⟩
    · cases h
  · cases h

theorem eq_of_splitAlias? {s left right : List Char} (h : splitAlias? s = some (left, right)) :
    ∃ a b, Text.asciiLower a = 'a' ∧ Text.asciiLower b = 's' ∧
      s = left ++ ' ' :: a :: b :: ' ' :: right := by
  induction s generalizing left right with
  | nil => simp [splitAlias?] at h
  | cons c rest ih =>
      unfold splitAlias? at h
      split at h
      · rename_i r hr
        cases h
        simpa using eq_of_afterAlias? hr
      · obtain ⟨⟨l, r⟩, hlr, heq⟩ := Option.map_eq_some_iff.mp h
        cases heq
        obtain ⟨a, b, ha, hb, hrest⟩ := ih hlr
        exact ⟨a, b, ha, hb, by simp [hrest]⟩

theorem length_lt_of_splitAlias? {s left right : List Char}
    (h : splitAlias? s = some (left, right)) :
    left.length < s.length ∧ right.length < s.length := by
  obtain ⟨a, b, _, _, rfl⟩ := eq_of_splitAlias? h
  simp
  omega

/-- A path of dotted names.  A single name is no path and takes no prefix. -/
def path (q : Char) (tablePrefix s : List Char) : List Char :=
  match s.splitOn '.' with
  | first :: second :: rest =>
      ['.'].intercalate (quoted q (tablePrefix ++ first) :: (second :: rest).map (quoted q))
  | _ => quoted q s

def aliasKeyword : List Char := [' ', 'a', 's', ' ']

/-- The quoted form of a reference. -/
def reference (q : Char) (tablePrefix s : List Char) : List Char :=
  match h : splitAlias? s with
  | some (left, right) =>
      have := length_lt_of_splitAlias? h
      reference q tablePrefix left ++ aliasKeyword ++ reference q tablePrefix right
  | none => path q tablePrefix s
termination_by s.length
decreasing_by
  · exact this.1
  · exact this.2

end Identifier
end TableDdl
