/-
Reading a reference back.

A reader of a statement takes the names of a reference apart without knowing the text they were
written from: a name stands between quotes and ends at the first quote that is not doubled, a `*`
stands for itself, and dots and alias keywords join.  `readReference?` is that reader.

Writing a reference cuts its text at every alias keyword and each side at its dots
(`reference_eq`), and the reader finds those names again, the prefix in front of the first name of
each dotted side (`readReference?_reference`).  That takes names without the quote character, since
such a character is written as it stands.
-/
import TableDdl.Proofs.Identifier
import TableDdl.Text.Literal

namespace TableDdl
namespace Identifier

variable {q : Char} {tablePrefix s left right rest : List Char}

/-- The text has the alias keyword in it, in either letter case and with blanks around it. -/
def HasAlias (s : List Char) : Prop :=
  ∃ left a b right, Text.asciiLower a = 'a' ∧ Text.asciiLower b = 's' ∧
    s = left ++ ' ' :: a :: b :: ' ' :: right

/-- The sides of a reference. -/
def sides (s : List Char) : List (List Char) :=
  match h : splitAlias? s with
  | some (left, right) =>
      have := length_lt_of_splitAlias? h
      left :: sides right
  | none => [s]
termination_by s.length
decreasing_by exact this.2

/-- The names on one side, under a prefix when there are several. -/
def names (tablePrefix s : List Char) : List (List Char) :=
  match s.splitOn '.' with
  | first :: second :: rest => (tablePrefix ++ first) :: second :: rest
  | _ => [s]

/-! ## The reader -/

/-- Reads one name: the name, and what follows it. -/
def readName? (q : Char) : List Char → Option (List Char × List Char)
  | [] => none
  | c :: rest =>
      if c = q then Text.readQuoted? q rest
      else if c = '*' then some (['*'], rest) else none

theorem length_lt_of_readName? {name after : List Char} (h : readName? q s = some (name, after)) :
    after.length < s.length := by
  cases s with
  | nil => cases h
  | cons c rest =>
      simp only [readName?] at h
      split at h
      · have hlength := Text.length_of_readQuoted? h
        simp only [List.length_cons]
        omega
      · split at h
        · cases h
          exact Nat.lt_succ_self _
        · cases h

/-- Reads names up to the first that no dot follows. -/
def readPath? (q : Char) (s : List Char) : Option (List (List Char) × List Char) :=
  match h : readName? q s with
  | none => none
  | some (name, '.' :: rest) =>
      have := length_lt_of_readName? h
      (readPath? q rest).map fun (others, after) => (name :: others, after)
  | some (name, after) => some ([name], after)
termination_by s.length
decreasing_by
  simp only [List.length_cons] at this
  omega

theorem length_lt_of_readPath? {path : List (List Char)} {after : List Char}
    (h : readPath? q s = some (path, after)) : after.length < s.length := by
  fun_induction readPath? q s generalizing path after with
  | case1 => cases h
  | case2 s name rest hname hlt ih =>
      obtain ⟨⟨others, a⟩, hothers, heq⟩ := Option.map_eq_some_iff.mp h
      cases heq
      have hrest := ih hothers
      simp only [List.length_cons] at hlt
      omega
  | case3 s name after hnot hname =>
      cases h
      exact length_lt_of_readName? hname

/-- Reads sides up to the first that no alias keyword follows. -/
def readReference? (q : Char) (s : List Char) :
    Option (List (List (List Char)) × List Char) :=
  match h : readPath? q s with
  | none => none
  | some (path, after) =>
      match halias : afterAlias? after with
      | none => some ([path], after)
      | some rest =>
          have := length_lt_of_readPath? h
          have := eq_of_afterAlias? halias
          (readReference? q rest).map fun (others, after) => (path :: others, after)
termination_by s.length
decreasing_by
  obtain ⟨a, b, _, _, rfl⟩ := ‹∃ a b, _›
  simp only [List.length_cons] at *
  omega

theorem readPath?_of_dot {name after : List Char} (h : readName? q s = some (name, '.' :: after)) :
    readPath? q s = (readPath? q after).map fun (others, after) => (name :: others, after) := by
  rw [readPath?]
  split
  next hname =>
    rw [h] at hname
    cases hname
  next hname =>
    rw [h] at hname
    cases hname
    rfl
  next hnot hname =>
    rw [h] at hname
    cases hname
    exact (hnot _ rfl).elim

theorem readPath?_of_end {name after : List Char} (h : readName? q s = some (name, after))
    (hend : after.head? ≠ some '.') : readPath? q s = some ([name], after) := by
  rw [readPath?]
  split
  next hname =>
    rw [h] at hname
    cases hname
  next hname =>
    rw [h] at hname
    cases hname
    exact absurd rfl hend
  next hname =>
    rw [h] at hname
    cases hname
    rfl

theorem readReference?_of_alias {path : List (List Char)} {after rest : List Char}
    (h : readPath? q s = some (path, after)) (halias : afterAlias? after = some rest) :
    readReference? q s =
      (readReference? q rest).map fun (others, after) => (path :: others, after) := by
  rw [readReference?]
  split
  next hpath =>
    rw [h] at hpath
    cases hpath
  next hpath =>
    rw [h] at hpath
    cases hpath
    split
    next hnone =>
      rw [halias] at hnone
      cases hnone
    next hrest =>
      rw [halias] at hrest
      cases hrest
      rfl

theorem readReference?_of_end {path : List (List Char)} {after : List Char}
    (h : readPath? q s = some (path, after)) (hend : afterAlias? after = none) :
    readReference? q s = some ([path], after) := by
  rw [readReference?]
  split
  next hpath =>
    rw [h] at hpath
    cases hpath
  next hpath =>
    rw [h] at hpath
    cases hpath
    split
    next => rfl
    next hrest =>
      rw [hend] at hrest
      cases hrest

/-! ## Reading what was written -/

/-- Names as they stand in a path. -/
def writtenPath (q : Char) (path : List (List Char)) : List Char :=
  ['.'].intercalate (path.map (quoted q))

/-- Paths as they stand in a reference. -/
def writtenReference (q : Char) (paths : List (List (List Char))) : List Char :=
  aliasKeyword.intercalate (paths.map (writtenPath q))

theorem writtenPath_singleton (q : Char) (name : List Char) :
    writtenPath q [name] = quoted q name := by
  rw [writtenPath, List.map_singleton, List.intercalate_singleton]

theorem writtenPath_cons_cons (q : Char) (name second : List Char) (others : List (List Char)) :
    writtenPath q (name :: second :: others) =
      quoted q name ++ '.' :: writtenPath q (second :: others) := by
  simp only [writtenPath, List.map_cons, List.intercalate_cons_cons, List.append_assoc]
  rfl

theorem writtenReference_singleton (q : Char) (path : List (List Char)) :
    writtenReference q [path] = writtenPath q path := by
  rw [writtenReference, List.map_singleton, List.intercalate_singleton]

theorem writtenReference_cons_cons (q : Char) (path second : List (List Char))
    (others : List (List (List Char))) :
    writtenReference q (path :: second :: others) =
      writtenPath q path ++ (aliasKeyword ++ writtenReference q (second :: others)) := by
  simp only [writtenReference, List.map_cons, List.intercalate_cons_cons, List.append_assoc]

theorem readName?_quoted (hq : q ≠ '*') {name : List Char} (hname : q ∉ name)
    (hrest : rest.head? ≠ some q) : readName? q (quoted q name ++ rest) = some (name, rest) := by
  by_cases hstar : name = ['*']
  · rw [quoted, if_pos hstar, hstar]
    simp [readName?, hq.symm]
  · have hread := Text.readQuoted?_doubled q name rest hrest
    rw [Text.doubled_of_not_mem hname] at hread
    rw [quoted, if_neg hstar]
    simpa [readName?] using hread

theorem readPath?_writtenPath (hq : q ≠ '*') (hdot : q ≠ '.') {path : List (List Char)}
    (hpath : path ≠ []) (hnames : ∀ name ∈ path, q ∉ name) (hrest : rest.head? ≠ some q)
    (hend : rest.head? ≠ some '.') : readPath? q (writtenPath q path ++ rest) = some (path, rest) := by
  induction path with
  | nil => exact absurd rfl hpath
  | cons name others ih =>
      have hname := hnames name List.mem_cons_self
      cases others with
      | nil =>
          rw [writtenPath_singleton]
          exact readPath?_of_end (readName?_quoted hq hname hrest) hend
      | cons second others =>
          have hothers := ih (List.cons_ne_nil _ _) fun n hn => hnames n (List.mem_cons_of_mem _ hn)
          have hnext : ('.' :: (writtenPath q (second :: others) ++ rest)).head? ≠ some q := by
            simpa using hdot.symm
          rw [writtenPath_cons_cons, List.append_assoc, List.cons_append,
            readPath?_of_dot (readName?_quoted hq hname hnext), hothers]
          rfl

theorem readReference?_writtenReference (hq : q ≠ '*') (hdot : q ≠ '.') (hblank : q ≠ ' ')
    {paths : List (List (List Char))} (hpaths : paths ≠ []) (hpath : ∀ path ∈ paths, path ≠ [])
    (hnames : ∀ path ∈ paths, ∀ name ∈ path, q ∉ name) (hrest : rest.head? ≠ some q)
    (hend : rest.head? ≠ some '.') (halias : afterAlias? rest = none) :
    readReference? q (writtenReference q paths ++ rest) = some (paths, rest) := by
  induction paths with
  | nil => exact absurd rfl hpaths
  | cons path others ih =>
      have hfirst := hpath path List.mem_cons_self
      have hfree := hnames path List.mem_cons_self
      cases others with
      | nil =>
          rw [writtenReference_singleton]
          exact readReference?_of_end (readPath?_writtenPath hq hdot hfirst hfree hrest hend) halias
      | cons second others =>
          have hothers := ih (List.cons_ne_nil _ _)
            (fun p hp => hpath p (List.mem_cons_of_mem _ hp))
            fun p hp => hnames p (List.mem_cons_of_mem _ hp)
          have hread : readPath? q (writtenPath q path ++
              (aliasKeyword ++ (writtenReference q (second :: others) ++ rest))) = _ :=
            readPath?_writtenPath hq hdot hfirst hfree
              (by simpa [aliasKeyword] using hblank.symm) (by simp [aliasKeyword])
          rw [writtenReference_cons_cons, List.append_assoc, List.append_assoc,
            readReference?_of_alias hread rfl]
          exact congrArg (Option.map _) hothers

/-! ## How a reference is written -/

theorem afterAlias?_append (h : afterAlias? s = some rest) (t : List Char) :
    afterAlias? (s ++ t) = some (rest ++ t) := by
  obtain ⟨a, b, ha, hb, rfl⟩ := eq_of_afterAlias? h
  simp [afterAlias?, ha, hb]

/-- A text with the keyword in it is cut. -/
theorem splitAlias?_ne_none (h : HasAlias s) : splitAlias? s ≠ none := by
  obtain ⟨left, a, b, right, ha, hb, rfl⟩ := h
  induction left with
  | nil => simp [splitAlias?, afterAlias?, ha, hb]
  | cons c left ih =>
      rw [List.cons_append, splitAlias?]
      split
      · exact Option.some_ne_none _
      · rw [Ne, Option.map_eq_none_iff]
        exact ih

theorem splitAlias?_eq_none_iff : splitAlias? s = none ↔ ¬ HasAlias s := by
  constructor
  · exact fun hnone halias => splitAlias?_ne_none halias hnone
  · intro halias
    cases hsplit : splitAlias? s with
    | none => rfl
    | some sides =>
        obtain ⟨left, right⟩ := sides
        obtain ⟨a, b, ha, hb, heq⟩ := eq_of_splitAlias? hsplit
        exact absurd ⟨_, a, b, _, ha, hb, heq⟩ halias

/-- Nothing is left to cut before the leftmost keyword. -/
theorem splitAlias?_left (h : splitAlias? s = some (left, right)) : splitAlias? left = none := by
  induction s generalizing left with
  | nil => cases h
  | cons c rest ih =>
      rw [splitAlias?] at h
      split at h
      · cases h
        rfl
      · rename_i hnone
        obtain ⟨⟨l, r⟩, hsplit, heq⟩ := Option.map_eq_some_iff.mp h
        cases heq
        obtain ⟨a, b, _, _, hrest⟩ := eq_of_splitAlias? hsplit
        rw [splitAlias?]
        split
        · -- A keyword that starts the left side starts the whole text.
          rename_i found hfound
          have hwhole := afterAlias?_append hfound (' ' :: a :: b :: ' ' :: right)
          rw [List.cons_append, ← hrest, hnone] at hwhole
          cases hwhole
        · rw [ih hsplit]
          rfl

theorem path_eq (q : Char) (tablePrefix s : List Char) :
    path q tablePrefix s = writtenPath q (names tablePrefix s) := by
  cases hs : s.splitOn '.' with
  | nil => exact absurd hs (List.splitOn_ne_nil '.' s)
  | cons first others =>
      cases others with
      | nil => rw [path, names, hs, writtenPath_singleton]
      | cons second others => rw [path, names, hs, writtenPath, List.map_cons]

theorem sides_of_split (h : splitAlias? s = some (left, right)) : sides s = left :: sides right := by
  rw [sides]
  split
  next hsplit =>
    rw [h] at hsplit
    cases hsplit
    rfl
  next hnone =>
    rw [h] at hnone
    cases hnone

theorem sides_of_not_split (h : splitAlias? s = none) : sides s = [s] := by
  rw [sides]
  split
  next hsplit =>
    rw [h] at hsplit
    cases hsplit
  next => rfl

theorem sides_ne_nil (s : List Char) : sides s ≠ [] := by
  cases h : splitAlias? s with
  | none =>
      rw [sides_of_not_split h]
      exact List.cons_ne_nil _ _
  | some cut =>
      rw [sides_of_split h]
      exact List.cons_ne_nil _ _

theorem reference_eq (q : Char) (tablePrefix s : List Char) :
    reference q tablePrefix s = writtenReference q ((sides s).map (names tablePrefix)) := by
  fun_induction sides s with
  | case1 s left right hsplit _ ih =>
      obtain ⟨second, others, hsides⟩ := List.exists_cons_of_ne_nil (sides_ne_nil right)
      rw [hsides] at ih
      rw [hsides, reference_of_split hsplit, reference_of_not_split (splitAlias?_left hsplit),
        path_eq, ih, List.append_assoc]
      exact (writtenReference_cons_cons _ _ _ _).symm
  | case2 s hnone =>
      rw [reference_of_not_split hnone, path_eq, List.map_singleton, writtenReference_singleton]

/-- A reference begins with a quoted name, and unless it is a single name more follows. -/
theorem exists_reference_eq (q : Char) (tablePrefix s : List Char) :
    ∃ name more, reference q tablePrefix s = quoted q name ++ more ∧
      (more = [] → '.' ∉ s ∧ splitAlias? s = none) := by
  have hpath : ∀ t, ∃ name more, path q tablePrefix t = quoted q name ++ more ∧
      (more = [] → '.' ∉ t) := by
    intro t
    by_cases hdot : '.' ∈ t
    · obtain ⟨first, rest, rfl, hfirst⟩ := List.eq_append_cons_of_mem hdot
      exact ⟨tablePrefix ++ first, _, path_of_dotted hfirst, fun h => absurd h (List.cons_ne_nil _ _)⟩
    · exact ⟨t, [], by rw [path_of_single hdot, List.append_nil], fun _ => hdot⟩
  cases hsplit : splitAlias? s with
  | none =>
      obtain ⟨name, more, hs, hmore⟩ := hpath s
      exact ⟨name, more, by rw [reference_of_not_split hsplit, hs], fun h => ⟨hmore h, rfl⟩⟩
  | some cut =>
      obtain ⟨name, more, hleft, -⟩ := hpath cut.1
      refine ⟨name, more ++ (aliasKeyword ++ reference q tablePrefix cut.2), ?_, ?_⟩
      · rw [reference_of_split hsplit, reference_of_not_split (splitAlias?_left hsplit), hleft]
        simp only [List.append_assoc]
      · intro h
        simp [aliasKeyword] at h

/-- The texts that are quoted as one name, whatever the prefix. -/
theorem reference_eq_quoted_iff (hq : q ≠ '*') (hs : q ∉ s) :
    reference q tablePrefix s = q :: (s ++ [q]) ↔ s ≠ ['*'] ∧ '.' ∉ s ∧ ¬ HasAlias s := by
  rw [← splitAlias?_eq_none_iff]
  constructor
  · intro heq
    have hwhole : s ≠ ['*'] := by
      rintro rfl
      rw [reference_of_not_split rfl, path_of_single (by decide)] at heq
      exact hq (List.cons.inj heq).1.symm
    obtain ⟨name, more, hname, hmore⟩ := exists_reference_eq q tablePrefix s
    rw [hname] at heq
    have hstar : name ≠ ['*'] := by
      rintro rfl
      exact hq (List.cons.inj heq).1.symm
    -- The quote that ends the first name is the first in the text, so it is the last character.
    have hends : more = [] := by
      rw [quoted, if_neg hstar, List.cons_append, List.append_assoc] at heq
      rcases List.append_eq_append_iff.mp (List.cons.inj heq).2 with ⟨t, rfl, ht⟩ | ⟨t, rfl, ht⟩
      · cases t with
        | nil => exact (List.cons.inj ht).2
        | cons c t =>
            cases (List.cons.inj ht).1
            simp at hs
      · cases t with
        | nil => exact (List.cons.inj ht).2.symm
        | cons c t => simp at ht
    exact ⟨hwhole, hmore hends⟩
  · rintro ⟨hstar, hdot, hsplit⟩
    rw [reference_of_not_split hsplit, path_of_single hdot, quoted, if_neg hstar]

/-! ## The law of the reader -/

theorem names_ne_nil (tablePrefix s : List Char) : names tablePrefix s ≠ [] := by
  unfold names
  split <;> exact List.cons_ne_nil _ _

theorem mem_of_mem_names {c : Char} {name : List Char} (hname : name ∈ names tablePrefix s)
    (hc : c ∈ name) : c ∈ s ∨ c ∈ tablePrefix ∧ '.' ∈ s := by
  have hjoined : ['.'].intercalate (s.splitOn '.') = s := List.intercalate_splitOn '.'
  have hpart : ∀ part ∈ s.splitOn '.', c ∈ part → c ∈ s := by
    intro part hpart hc
    rw [← hjoined]
    exact (infix_intercalate ['.'] hpart).subset hc
  cases hsplit : s.splitOn '.' with
  | nil => exact absurd hsplit (List.splitOn_ne_nil '.' s)
  | cons first others =>
      rw [hsplit] at hpart
      cases others with
      | nil =>
          rw [names, hsplit] at hname
          rw [← List.mem_singleton.mp hname]
          exact .inl hc
      | cons second others =>
          have hdotted : '.' ∈ s := by
            rw [← hjoined, hsplit, List.intercalate_cons_cons]
            simp
          rw [names, hsplit] at hname
          rcases List.mem_cons.mp hname with rfl | hname
          · rcases List.mem_append.mp hc with hc | hc
            · exact .inr ⟨hc, hdotted⟩
            · exact .inl (hpart first List.mem_cons_self hc)
          · exact .inl (hpart name (List.mem_cons_of_mem _ hname) hc)

theorem mem_of_mem_sides {c : Char} {side : List Char} (hside : side ∈ sides s) (hc : c ∈ side) :
    c ∈ s := by
  fun_induction sides s with
  | case1 s left right hsplit _ ih =>
      obtain ⟨a, b, _, _, rfl⟩ := eq_of_splitAlias? hsplit
      rcases List.mem_cons.mp hside with rfl | hside
      · exact List.mem_append_left _ hc
      · have hright := ih hside
        simp [hright]
  | case2 s hnone =>
      rw [← List.mem_singleton.mp hside]
      exact hc

/-- The names of a reference are read back, each as it was written. -/
theorem readReference?_reference (hq : q ≠ '*') (hdot : q ≠ '.') (hblank : q ≠ ' ') (hs : q ∉ s)
    (hp : q ∉ tablePrefix ∨ '.' ∉ s) (hrest : rest.head? ≠ some q) (hend : rest.head? ≠ some '.')
    (halias : afterAlias? rest = none) :
    readReference? q (reference q tablePrefix s ++ rest) =
      some ((sides s).map (names tablePrefix), rest) := by
  rw [reference_eq]
  refine readReference?_writtenReference hq hdot hblank ?_ ?_ ?_ hrest hend halias
  · simpa using sides_ne_nil s
  · intro path hpath
    obtain ⟨side, _, rfl⟩ := List.mem_map.mp hpath
    exact names_ne_nil tablePrefix side
  · intro path hpath name hname hmem
    obtain ⟨side, hside, rfl⟩ := List.mem_map.mp hpath
    rcases mem_of_mem_names hname hmem with hin | ⟨hin, hdotted⟩
    · exact hs (mem_of_mem_sides hside hin)
    · rcases hp with hp | hp
      · exact hp hin
      · exact hp (mem_of_mem_sides hside hdotted)

end Identifier
end TableDdl
