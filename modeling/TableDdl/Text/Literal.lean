/-
Quoted SQL text.  Inside quotes a quote character is written twice, so a literal ends at the
first quote that stands alone.  `read?` is that rule, and `read?_quote` says it recovers what
`quote` wrote and stops right after it.
-/

namespace TableDdl
namespace Text

/-- Every `q` written twice. -/
def doubled (q : Char) : List Char → List Char
  | [] => []
  | c :: rest => if c = q then q :: q :: doubled q rest else c :: doubled q rest

theorem doubled_append (q : Char) (s t : List Char) :
    doubled q (s ++ t) = doubled q s ++ doubled q t := by
  induction s with
  | nil => rfl
  | cons c rest ih => by_cases h : c = q <;> simp [doubled, h, ih]

/-- Reads up to the first `q` that is not doubled: the text read, and what follows that `q`. -/
def readQuoted? (q : Char) : List Char → Option (List Char × List Char)
  | [] => none
  | [c] => if c = q then some ([], []) else none
  | c :: d :: rest =>
      if c = q then
        if d = q then (readQuoted? q rest).map fun (text, after) => (q :: text, after)
        else some ([], d :: rest)
      else (readQuoted? q (d :: rest)).map fun (text, after) => (c :: text, after)

/-- `s` with each single quote doubled. -/
def escapeQuotes (s : String) : String := String.ofList (doubled '\'' s.toList)

/-- `s` as a single-quoted literal. -/
def quoteLiteral (s : String) : String := "'" ++ escapeQuotes s ++ "'"

theorem readQuoted?_doubled (q : Char) (s rest : List Char) (h : rest.head? ≠ some q) :
    readQuoted? q (doubled q s ++ q :: rest) = some (s, rest) := by
  induction s with
  | nil =>
      cases rest with
      | nil => simp [doubled, readQuoted?]
      | cons d after =>
          have hd : d ≠ q := by simpa using h
          simp [doubled, readQuoted?, hd]
  | cons c s ih =>
      by_cases hc : c = q
      · subst hc
        simp [doubled, readQuoted?, ih]
      · simp only [doubled, hc, if_false, List.cons_append]
        cases hs : doubled q s ++ q :: rest with
        | nil => simp at hs
        | cons d after =>
            rw [hs] at ih
            simp [readQuoted?, hc, ih]

theorem doubled_of_not_mem {q : Char} {s : List Char} (h : q ∉ s) : doubled q s = s := by
  induction s with
  | nil => rfl
  | cons c rest ih =>
      rw [List.mem_cons, not_or] at h
      rw [doubled, if_neg (Ne.symm h.1), ih h.2]

/-- What was read is what stood there, with its quotes doubled. -/
theorem eq_of_readQuoted? {q : Char} {s text after : List Char}
    (h : readQuoted? q s = some (text, after)) : s = doubled q text ++ q :: after := by
  fun_induction readQuoted? q s generalizing text after with
  | case1 => cases h
  | case2 => cases h; rfl
  | case3 => cases h
  | case4 rest ih =>
      obtain ⟨⟨t, a⟩, hta, heq⟩ := Option.map_eq_some_iff.mp h
      cases heq
      simp [doubled, ← ih hta]
  | case5 => cases h; rfl
  | case6 c d rest hc ih =>
      obtain ⟨⟨t, a⟩, hta, heq⟩ := Option.map_eq_some_iff.mp h
      cases heq
      simp [doubled, hc, ← ih hta]

theorem length_le_doubled (q : Char) (s : List Char) : s.length ≤ (doubled q s).length := by
  induction s with
  | nil => exact Nat.le_refl 0
  | cons c rest ih =>
      rw [doubled]
      split
      · simp only [List.length_cons]
        omega
      · exact Nat.succ_le_succ ih

/-- What follows a quoted text is shorter than the text with its end quote. -/
theorem length_of_readQuoted? {q : Char} {s text after : List Char}
    (h : readQuoted? q s = some (text, after)) : text.length + after.length < s.length := by
  have hlength := length_le_doubled q text
  rw [eq_of_readQuoted? h, List.length_append, List.length_cons]
  omega

end Text
end TableDdl
