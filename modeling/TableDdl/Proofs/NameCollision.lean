/-
When two keys get the same conventional name.

A conventional name is the table, the columns and the kind, each in lower case, with `_` between them
(`conventionalName_toList`).  The `_` is a boundary for lower case, so no part sees the letters of
another, and lower case makes no `_` where there was none.  Columns without a separator of their own
can therefore be read back from the name, and two names on one table are the same only for the same
kind and columns that differ in nothing but letter case (`conventionalName_eq_iff`).
-/
import TableDdl.Blueprint
import TableDdl.Proofs.Lowercase

namespace TableDdl

/-- The text has none of the characters that a conventional name has between its parts, or turns into
those. -/
def Unseparated (s : String) : Prop := ∀ c ∈ s.toList, c ≠ '_' ∧ c ≠ '-' ∧ c ≠ '.'

instance (s : String) : Decidable (Unseparated s) :=
  List.decidableBAll (fun c => c ≠ '_' ∧ c ≠ '-' ∧ c ≠ '.') s.toList

/-- One part of a conventional name. -/
def namePart (s : List Char) : List Char :=
  (Text.lowerChars s).map fun c => if c = '-' ∨ c = '.' then '_' else c

theorem namePart_underscore (s t : List Char) :
    namePart (s ++ '_' :: t) = namePart s ++ '_' :: namePart t := by
  simp [namePart, Text.lowerChars_underscore]

theorem namePart_intercalate {parts : List (List Char)} (h : parts ≠ []) :
    namePart (['_'].intercalate parts) = ['_'].intercalate (parts.map namePart) := by
  induction parts with
  | nil => exact absurd rfl h
  | cons first rest ih =>
      cases rest with
      | nil => simp
      | cons second rest =>
          rw [List.intercalate_cons_cons, List.append_assoc, List.singleton_append,
            namePart_underscore, ih (List.cons_ne_nil second rest)]
          simp [List.intercalate_cons_cons]

theorem intercalate_append_last {parts : List (List Char)} (h : parts ≠ []) (last : List Char) :
    ['_'].intercalate (parts ++ [last]) = ['_'].intercalate parts ++ '_' :: last := by
  induction parts with
  | nil => exact absurd rfl h
  | cons first rest ih =>
      cases rest with
      | nil => simp [List.intercalate_cons_cons]
      | cons second rest =>
          have hrest := ih (List.cons_ne_nil second rest)
          simp only [List.cons_append, List.intercalate_cons_cons] at hrest ⊢
          rw [hrest, ← List.append_assoc]

/-- A conventional name part by part. -/
theorem conventionalName_toList {columns : List String} (h : columns ≠ []) (table : String)
    (kind : KeyKind) :
    (conventionalName table columns kind).toList =
      namePart table.toList ++ '_' ::
        ['_'].intercalate (columns.map (fun c => namePart c.toList) ++ [namePart kind.name.toList]) := by
  have hjoined : (table ++ "_" ++ "_".intercalate columns ++ "_" ++ kind.name).toList =
      table.toList ++ '_' ::
        (['_'].intercalate (columns.map String.toList) ++ '_' :: kind.name.toList) := by
    simp [String.toList_intercalate]
  have hcolumns : columns.map String.toList ≠ [] := by simpa using h
  have hparts : columns.map (fun c => namePart c.toList) ≠ [] := by simpa using h
  rw [conventionalName, String.toList_ofList]
  show namePart _ = _
  rw [hjoined, namePart_underscore, namePart_underscore, namePart_intercalate hcolumns,
    intercalate_append_last hparts, List.map_map]
  rfl

/-! ## Parts without a separator -/

theorem namePart_of_unseparated {s : String} (h : Unseparated s) :
    namePart s.toList = (Text.lower s).toList := by
  have hkept : ∀ c ∈ Text.lowerChars s.toList, (if c = '-' ∨ c = '.' then '_' else c) = c := by
    intro c hc
    have hdash : c ≠ '-' := by
      rintro rfl
      exact (h '-' (Text.mem_of_mem_lowerAfter (by decide) rfl hc)).2.1 rfl
    have hdot : c ≠ '.' := by
      rintro rfl
      exact (h '.' (Text.mem_of_mem_lowerAfter (by decide) rfl hc)).2.2 rfl
    simp [hdash, hdot]
  rw [namePart, Text.lower, String.toList_ofList]
  exact (List.map_congr_left hkept).trans (List.map_id _)

theorem underscore_not_mem_lower {s : String} (h : Unseparated s) :
    '_' ∉ (Text.lower s).toList := by
  intro hmem
  rw [Text.lower, String.toList_ofList] at hmem
  exact (h '_' (Text.mem_of_mem_lowerAfter (by decide) rfl hmem)).1 rfl

theorem KeyKind.name_unseparated (kind : KeyKind) : Unseparated kind.name := by
  cases kind <;> decide

theorem KeyKind.lower_name_inj {kind kind' : KeyKind}
    (h : Text.lower kind.name = Text.lower kind'.name) : kind = kind' := by
  revert h
  cases kind <;> cases kind' <;> decide +kernel

/-- Parts without a separator are read back by cutting at the separators. -/
theorem intercalate_inj {parts parts' : List (List Char)} (h : parts ≠ []) (h' : parts' ≠ [])
    (hparts : ∀ part ∈ parts, '_' ∉ part) (hparts' : ∀ part ∈ parts', '_' ∉ part) :
    ['_'].intercalate parts = ['_'].intercalate parts' ↔ parts = parts' := by
  constructor
  · intro heq
    rw [← List.splitOn_intercalate '_' hparts h, heq, List.splitOn_intercalate '_' hparts' h']
  · exact congrArg _

/-- The columns and the kind as they stand in the name. -/
theorem nameParts_eq {columns : List String} (h : ∀ c ∈ columns, Unseparated c) (kind : KeyKind) :
    columns.map (fun c => namePart c.toList) ++ [namePart kind.name.toList] =
      ((columns ++ [kind.name]).map Text.lower).map String.toList := by
  simp only [List.map_append, List.map_map, List.map_singleton,
    namePart_of_unseparated kind.name_unseparated]
  rw [List.map_congr_left fun c hc => namePart_of_unseparated (h c hc)]
  rfl

theorem underscore_not_mem_nameParts {columns : List String} (h : ∀ c ∈ columns, Unseparated c)
    (kind : KeyKind) :
    ∀ part ∈ ((columns ++ [kind.name]).map Text.lower).map String.toList, '_' ∉ part := by
  intro part hpart
  simp only [List.map_map, List.mem_map, List.mem_append, List.mem_singleton] at hpart
  obtain ⟨c, hc | rfl, rfl⟩ := hpart
  · exact underscore_not_mem_lower (h c hc)
  · exact underscore_not_mem_lower kind.name_unseparated

/-- On one table the conventional names of keys over columns without separators are the same exactly
when the kinds are, and the columns one by one but for letter case. -/
theorem conventionalName_eq_iff {columns columns' : List String} (hne : columns ≠ [])
    (hne' : columns' ≠ []) (h : ∀ c ∈ columns, Unseparated c) (h' : ∀ c ∈ columns', Unseparated c)
    (table : String) (kind kind' : KeyKind) :
    conventionalName table columns kind = conventionalName table columns' kind' ↔
      kind = kind' ∧ columns.map Text.lower = columns'.map Text.lower := by
  have hname : conventionalName table columns kind = conventionalName table columns' kind' ↔
      (columns ++ [kind.name]).map Text.lower = (columns' ++ [kind'.name]).map Text.lower := by
    rw [← String.toList_inj, conventionalName_toList hne, conventionalName_toList hne',
      nameParts_eq h, nameParts_eq h', List.append_cancel_left_eq, List.cons.injEq, eq_self_iff_true,
      true_and,
      intercalate_inj (by simp) (by simp) (underscore_not_mem_nameParts h kind)
        (underscore_not_mem_nameParts h' kind'),
      List.map_inj_right fun _ _ => String.toList_inj.mp]
  rw [hname, List.map_append, List.map_append]
  constructor
  · intro heq
    obtain ⟨hcolumns, hkind⟩ := List.append_inj' heq rfl
    exact ⟨KeyKind.lower_name_inj (List.singleton_inj.mp hkind), hcolumns⟩
  · rintro ⟨rfl, hcolumns⟩
    rw [hcolumns]

/-- A final sigma in capitals and the Kelvin sign make the name that small letters make.  Another kind,
one column in place of two, and a sigma that is not final make other names. -/
theorem conventionalName_eq_iff_streets :
    let columns := ["ΟΔΟΣ", "\u212aM"]
    let columns' := ["οδος", "km"]
    let name := conventionalName "Blog-Posts"
    name columns .unique = "blog_posts_οδος_km_unique" ∧
      name columns .unique = name columns' .unique ∧
      name columns .unique ≠ name columns' .index ∧
      name columns .unique ≠ name ["οδος km"] .unique ∧
      name columns .unique ≠ name ["οδοσ", "km"] .unique := by
  intro columns columns' name
  have hne : columns ≠ [] := by decide
  have hplain : ∀ c ∈ columns, Unseparated c := by decide
  have hiff : ∀ (others : List String) (kind : KeyKind), others ≠ [] →
      (∀ c ∈ others, Unseparated c) →
      (name columns .unique = name others kind ↔
        .unique = kind ∧ columns.map Text.lower = others.map Text.lower) :=
    fun others kind hothers hseparate =>
      conventionalName_eq_iff hne hothers hplain hseparate "Blog-Posts" .unique kind
  refine ⟨by decide +kernel, ?_, ?_, ?_, ?_⟩
  · exact (hiff columns' .unique (by decide) (by decide)).mpr (by decide +kernel)
  · exact mt (hiff columns' .index (by decide) (by decide)).mp (by decide +kernel)
  · exact mt (hiff ["οδος km"] .unique (by decide) (by decide)).mp (by decide +kernel)
  · exact mt (hiff ["οδοσ", "km"] .unique (by decide) (by decide)).mp (by decide +kernel)

end TableDdl
