/-
Literals under a rule in which a backslash is no ordinary character.

MySQL by default takes a backslash inside a literal together with the character behind it, which then
stands for itself.  Literals are written with their quotes doubled and their backslashes as they are,
so under this rule they hold what was meant exactly when there is no backslash in it
(`mysql_literals_iff`).

A text with a backslash is never read back, wherever the literal then ends.  For this `weight` counts
quotes and backslashes once and every other character twice.  What a reader makes one character of
weighs at least two, and the literal of a text weighs one less for each of its backslashes.
-/
import TableDdl.Proofs.Literal

namespace TableDdl
namespace Text

/-- Reads up to the first quote that is neither doubled nor behind a backslash: the text read, and what
follows that quote. -/
def readEscaped? : List Char → Option (List Char × List Char)
  | [] => none
  | [c] => if c = '\'' then some ([], []) else none
  | c :: d :: rest =>
      if c = '\\' then (readEscaped? rest).map fun read => (d :: read.1, read.2)
      else if c = '\'' then
        if d = '\'' then (readEscaped? rest).map fun read => ('\'' :: read.1, read.2)
        else some ([], d :: rest)
      else (readEscaped? (d :: rest)).map fun read => (c :: read.1, read.2)

def weight : List Char → Nat
  | [] => 0
  | c :: rest => (if c = '\'' ∨ c = '\\' then 1 else 2) + weight rest

variable {s t text after : List Char}

@[simp]
theorem weight_nil : weight [] = 0 := rfl

@[simp]
theorem weight_cons (c : Char) (s : List Char) :
    weight (c :: s) = (if c = '\'' ∨ c = '\\' then 1 else 2) + weight s := rfl

@[simp]
theorem weight_append (s t : List Char) : weight (s ++ t) = weight s + weight t := by
  induction s with
  | nil => simp
  | cons c rest ih => simp [ih, Nat.add_assoc]

theorem weight_doubled (s : List Char) : weight (doubled '\'' s) + s.count '\\' = 2 * s.length := by
  induction s with
  | nil => rfl
  | cons c rest ih =>
      by_cases hquote : c = '\''
      · subst hquote
        simp [doubled]
        omega
      · by_cases hbackslash : c = '\\'
        · subst hbackslash
          simp [doubled]
          omega
        · simp [doubled, hquote, hbackslash]
          omega

/-- Every character read is made of characters that weigh two together. -/
theorem weight_of_readEscaped? (h : readEscaped? s = some (text, after)) :
    ∃ body, s = body ++ '\'' :: after ∧ 2 * text.length ≤ weight body := by
  fun_induction readEscaped? s generalizing text after with
  | case1 => cases h
  | case2 =>
      cases h
      exact ⟨[], rfl, Nat.le_refl 0⟩
  | case3 => cases h
  | case4 d rest ih =>
      obtain ⟨read, hread, heq⟩ := Option.map_eq_some_iff.mp h
      cases heq
      obtain ⟨body, rfl, hweight⟩ := ih hread
      refine ⟨'\\' :: d :: body, rfl, ?_⟩
      simp only [weight_cons, List.length_cons]
      split <;> split <;> omega
  | case5 rest hc ih =>
      obtain ⟨read, hread, heq⟩ := Option.map_eq_some_iff.mp h
      cases heq
      obtain ⟨body, rfl, hweight⟩ := ih hread
      refine ⟨'\'' :: '\'' :: body, rfl, ?_⟩
      simp
      omega
  | case6 d rest hc hd =>
      cases h
      exact ⟨[], rfl, Nat.le_refl 0⟩
  | case7 c d rest hbackslash hquote ih =>
      obtain ⟨read, hread, heq⟩ := Option.map_eq_some_iff.mp h
      cases heq
      obtain ⟨body, hbody, hweight⟩ := ih hread
      refine ⟨c :: body, by rw [hbody]; rfl, ?_⟩
      simp [hbackslash, hquote]
      omega

/-- A text without a backslash is read back. -/
theorem readEscaped?_doubled (hs : '\\' ∉ s) (hafter : after.head? ≠ some '\'') :
    readEscaped? (doubled '\'' s ++ '\'' :: after) = some (s, after) := by
  induction s with
  | nil =>
      cases after with
      | nil => rfl
      | cons d after =>
          have hd : d ≠ '\'' := by simpa using hafter
          simp [doubled, readEscaped?, hd]
  | cons c rest ih =>
      rw [List.mem_cons, not_or] at hs
      have hrest := ih hs.2
      by_cases hc : c = '\''
      · subst hc
        simp [doubled, readEscaped?, hrest]
      · rw [doubled, if_neg hc, List.cons_append]
        cases hnext : doubled '\'' rest ++ '\'' :: after with
        | nil => simp at hnext
        | cons d more =>
            rw [hnext] at hrest
            simp [readEscaped?, hc, Ne.symm hs.1, hrest]

end Text

namespace LiteralRule

/-- A literal ends at the first quote that is neither doubled nor behind a backslash. -/
def escaping : LiteralRule where
  body? := Text.readEscaped?
  shorter h := by
    obtain ⟨body, rfl, -⟩ := Text.weight_of_readEscaped? h
    rw [List.length_append, List.length_cons]
    omega

theorem escaping_recovers {s : List Char} (hs : '\\' ∉ s) : escaping.Recovers s :=
  fun _ hafter => Text.readEscaped?_doubled hs hafter

variable {s text after : List Char} {texts : List (List Char)}

theorem weight_of_literal? (h : escaping.literal? s = some (text, after)) :
    ∃ body, s = body ++ after ∧ 2 * text.length + 2 ≤ Text.weight body := by
  cases s with
  | nil => cases h
  | cons c rest =>
      rw [literal?] at h
      split at h
      · rename_i hc
        obtain ⟨body, rfl, hweight⟩ := Text.weight_of_readEscaped? h
        refine ⟨c :: (body ++ ['\'']), by simp, ?_⟩
        simp [hc]
        omega
      · cases h

/-- In a list, four more for the comma and the blank between two literals. -/
theorem weight_of_literals? (h : escaping.literals? s = some (texts, after)) :
    ∃ body, s = body ++ after ∧
      2 * texts.flatten.length + 6 * texts.length ≤ Text.weight body + 4 := by
  fun_induction escaping.literals? s generalizing texts after with
  | case1 s hs =>
      cases h
      exact ⟨[], rfl, Nat.zero_le _⟩
  | case2 s hs hnone => cases h
  | case3 s hs text rest hliteral hend =>
      cases h
      obtain ⟨body, rfl, hweight⟩ := weight_of_literal? hliteral
      refine ⟨body, rfl, ?_⟩
      simp
      omega
  | case4 s hs text rest hliteral _ _ ih =>
      obtain ⟨others, hothers, heq⟩ := Option.map_eq_some_iff.mp h
      cases heq
      obtain ⟨first, rfl, hfirst⟩ := weight_of_literal? hliteral
      obtain ⟨body, rfl, hbody⟩ := ih hothers
      have hwhole : Text.weight (first ++ ',' :: ' ' :: body) =
          Text.weight first + (4 + Text.weight body) := by
        simp
        omega
      refine ⟨first ++ ',' :: ' ' :: body, by simp, ?_⟩
      rw [hwhole, List.flatten_cons, List.length_append, List.length_cons]
      omega

theorem weight_quoteLiteral (s : String) :
    Text.weight (Text.quoteLiteral s).toList + s.toList.count '\\' = 2 * s.toList.length + 2 := by
  have hbody := Text.weight_doubled s.toList
  rw [Text.quoteLiteral_toList]
  simp
  omega

/-- A list of literals weighs one less for each backslash in its values. -/
theorem weight_literalList {values : List String} (h : values ≠ []) :
    Text.weight (Text.literalList values).toList + 4 +
        (values.map String.toList).flatten.count '\\' =
      2 * (values.map String.toList).flatten.length + 6 * values.length := by
  induction values with
  | nil => exact absurd rfl h
  | cons value others ih =>
      have hvalue := weight_quoteLiteral value
      cases others with
      | nil =>
          rw [Text.literalList, List.map_singleton, String.intercalate_singleton]
          simp
          omega
      | cons second others =>
          have hothers := ih (List.cons_ne_nil _ _)
          have hcomma : Text.weight ", ".toList = 4 := by decide
          rw [Text.literalList_cons_cons, String.toList_append, String.toList_append,
            Text.weight_append, Text.weight_append, hcomma, List.map_cons, List.flatten_cons,
            List.count_append, List.length_append, List.length_cons]
          omega

theorem literal?_quoteLiteral_iff {s : String} (hafter : after.head? ≠ some '\'') :
    escaping.literal? ((Text.quoteLiteral s).toList ++ after) = some (s.toList, after) ↔
      '\\' ∉ s.toList := by
  constructor
  · intro hread
    obtain ⟨body, hbody, hweight⟩ := weight_of_literal? hread
    rw [← List.append_cancel_right hbody] at hweight
    have hliteral := weight_quoteLiteral s
    exact List.count_eq_zero.mp (by omega)
  · exact fun hs => literal?_quoteLiteral (escaping_recovers hs) hafter

theorem literals?_literalList_iff {values : List String} (hafter : after.head? ≠ some '\'')
    (hend : next? after = none) :
    escaping.literals? ((Text.literalList values).toList ++ after) =
        some (values.map String.toList, after) ↔
      ∀ v ∈ values, '\\' ∉ v.toList := by
  constructor
  · intro hread v hv hmem
    obtain ⟨body, hbody, hweight⟩ := weight_of_literals? hread
    rw [← List.append_cancel_right hbody, List.length_map] at hweight
    have hlist := weight_literalList (List.ne_nil_of_mem hv)
    have hcount : (values.map String.toList).flatten.count '\\' = 0 := by omega
    exact List.count_eq_zero.mp hcount
      (List.mem_flatten.mpr ⟨v.toList, List.mem_map_of_mem hv, hmem⟩)
  · exact fun hvalues => literals?_literalList (fun v hv => escaping_recovers (hvalues v hv)) hafter hend

end LiteralRule

namespace Grammar

/-- In a default clause, in a changed default and in the values of an enumeration, MySQL reads back
the texts that have no backslash, and no other. -/
theorem mysql_literals_iff {g : Grammar} (hg : g.dialect = .mysql) {after : List Char}
    (hafter : after.head? ≠ some '\'') :
    (∀ (c : Column) (s : String), c.defaultValue = some (.string s) →
      ∃ literal : String, g.clause? .default c = some (" default " ++ literal) ∧
        (LiteralRule.escaping.literal? (literal.toList ++ after) = some (s.toList, after) ↔
          '\\' ∉ s.toList)) ∧
    (∀ (connection : Connection) (b : Blueprint) (column s : String),
      ∃ literal : String, g.plan connection b (.modifyDefault column (.set (.string s))) =
          .statements [g.alterTable b ++ " alter column " ++ g.reference column ++
            (" set default " ++ literal)] ∧
        (LiteralRule.escaping.literal? (literal.toList ++ after) = some (s.toList, after) ↔
          '\\' ∉ s.toList)) ∧
    ∀ c : Column, c.type = .enumeration →
      (LiteralRule.escaping.Lists "enum(" (g.nativeType c) ")" after
          (c.allowed.map String.toList) ↔
        ∀ v ∈ c.allowed, '\\' ∉ v.toList) := by
  refine ⟨?_, ?_, ?_⟩
  · intro c s hc
    refine ⟨Text.quoteLiteral s, ?_, LiteralRule.literal?_quoteLiteral_iff hafter⟩
    rw [clause?_default, hc]
    rfl
  · intro connection b column s
    refine ⟨Text.quoteLiteral s, ?_, LiteralRule.literal?_quoteLiteral_iff hafter⟩
    show g.modifyDefault b column (.set (.string s)) = _
    unfold modifyDefault
    rw [hg]
    rfl
  · intro c hc
    have htype := nativeType_of_mysql hg hc
    have hlist : LiteralRule.escaping.literals?
        ((Text.literalList c.allowed).toList ++ ')' :: after) =
          some (c.allowed.map String.toList, ')' :: after) ↔ ∀ v ∈ c.allowed, '\\' ∉ v.toList :=
      LiteralRule.literals?_literalList_iff (by simp) rfl
    rw [← hlist]
    constructor
    · rintro ⟨list, hlisted, hread⟩
      obtain rfl : Text.literalList c.allowed = list := by
        simpa [← String.toList_inj, htype] using hlisted
      exact hread
    · intro hread
      exact ⟨_, htype, hread⟩

/-- A path that ends in a backslash takes the quote behind it into the literal, which then has no end.
Quotes in the values of an enumeration do no harm. -/
theorem mysql_literals_iff_path :
    let g : Grammar := { dialect := .mysql }
    let path : Column :=
      { name := "path", type := .string, defaultValue := some (.string "C:\\") }
    let status : Column :=
      { name := "status", type := .enumeration, allowed := ["it's", "', '", ""] }
    let rest := ", `kind` text)".toList
    rest.head? ≠ some '\'' ∧
      (∃ literal : String, g.clause? .default path = some (" default " ++ literal) ∧
        LiteralRule.escaping.literal? (literal.toList ++ rest) ≠ some ("C:\\".toList, rest)) ∧
      LiteralRule.escaping.literal? ("'C:\\'".toList ++ rest) = none ∧
      LiteralRule.escaping.Lists "enum(" (g.nativeType status) ")" rest
        ["it's".toList, "', '".toList, "".toList] := by
  intro g path status rest
  have hrest : rest.head? ≠ some '\'' := by decide
  obtain ⟨hdefault, -, hallowed⟩ := mysql_literals_iff (g := g) rfl hrest
  obtain ⟨literal, hclause, hiff⟩ := hdefault path "C:\\" rfl
  exact ⟨hrest, ⟨literal, hclause, mt hiff.mp (by decide)⟩, by decide +kernel,
    (hallowed status rfl).mpr (by decide)⟩

end Grammar
end TableDdl
