/-
The alias keyword by its byte offset.

The keyword of a reference can be found by counting bytes: it is looked for in the bytes of a copy in
lower case, and the text itself is sliced there.  That is safe for two reasons.  Lower case of ASCII
letters keeps the size of every character, so an offset into the copy is one into the text.  And
bytes that spell a word never start or end inside a character, so the text can be sliced before and
behind them (`exists_append_of_extract`).

Hence the keyword stands in the text where its bytes stand in the copy (`keywordAt_iff`).  Both slices
are shorter than the text, so slicing them again comes to an end, and quoting them at the leftmost
keyword is what quoting a reference does (`reference_at_offset`).
-/
import TableDdl.Proofs.Cut

namespace TableDdl
namespace Text

/-! ## Bytes and characters -/

/-- The text up to a byte offset, unless the offset is inside a character or behind the text. -/
def sliceTo? (s : String) (offset : Nat) : Option String :=
  if h : (⟨offset⟩ : String.Pos.Raw).IsValid s then some (s.sliceTo (s.pos ⟨offset⟩ h)).copy
  else none

/-- The text from a byte offset on, unless the offset is inside a character or behind the text. -/
def sliceFrom? (s : String) (offset : Nat) : Option String :=
  if h : (⟨offset⟩ : String.Pos.Raw).IsValid s then some (s.sliceFrom (s.pos ⟨offset⟩ h)).copy
  else none

theorem isValid_append (s t : String) : (⟨s.utf8ByteSize⟩ : String.Pos.Raw).IsValid (s ++ t) :=
  String.Pos.Raw.isValid_iff_exists_append.mpr ⟨s, t, rfl, rfl⟩

theorem sliceTo?_append (s t : String) : sliceTo? (s ++ t) s.utf8ByteSize = some s := by
  rw [sliceTo?, dif_pos (isValid_append s t)]
  congr 1
  rw [← String.toByteArray_inj, String.Slice.toByteArray_copy]
  simp [ByteArray.extract_append_eq_left]

theorem sliceFrom?_append (s t : String) : sliceFrom? (s ++ t) s.utf8ByteSize = some t := by
  rw [sliceFrom?, dif_pos (isValid_append s t)]
  congr 1
  rw [← String.toByteArray_inj, String.Slice.toByteArray_copy]
  simp [ByteArray.extract_append_eq_right]

theorem extract_front (front back : String) :
    (front ++ back).toByteArray.extract 0 front.utf8ByteSize = front.toByteArray := by
  rw [String.toByteArray_append]
  exact ByteArray.extract_append_eq_left rfl

theorem extract_split (s : String) (offset n : Nat) :
    s.toByteArray.extract 0 (offset + n) =
      s.toByteArray.extract 0 offset ++ s.toByteArray.extract offset (offset + n) :=
  ByteArray.extract_eq_extract_append_extract offset (Nat.zero_le _) (Nat.le_add_right _ _)

theorem extract_word (front word back : String) :
    (front ++ word ++ back).toByteArray.extract front.utf8ByteSize
      (front.utf8ByteSize + word.utf8ByteSize) = word.toByteArray := by
  have hfront : (front ++ word ++ back).toByteArray.extract 0 front.utf8ByteSize =
      front.toByteArray := by
    rw [String.append_assoc, extract_front]
  have hboth : (front ++ word ++ back).toByteArray.extract 0
      (front.utf8ByteSize + word.utf8ByteSize) = front.toByteArray ++ word.toByteArray := by
    rw [← String.utf8ByteSize_append, extract_front, String.toByteArray_append]
  have hsplit := extract_split (front ++ word ++ back) front.utf8ByteSize word.utf8ByteSize
  rw [hfront, hboth] at hsplit
  exact ((ByteArray.append_right_inj front.toByteArray).mp hsplit).symm

variable {s word : String} {offset : Nat}

/-- Bytes that spell a word start and end where characters do. -/
theorem isValid_of_extract (hword : word ≠ "")
    (h : s.toByteArray.extract offset (offset + word.utf8ByteSize) = word.toByteArray) :
    (⟨offset⟩ : String.Pos.Raw).IsValid s ∧
      (⟨offset + word.utf8ByteSize⟩ : String.Pos.Raw).IsValid s := by
  have hsize := congrArg ByteArray.size h
  rw [ByteArray.size_extract, String.size_toByteArray, String.size_toByteArray] at hsize
  have hpos : word.utf8ByteSize ≠ 0 := fun hzero =>
    hword (String.utf8ByteSize_eq_zero_iff.mp hzero)
  have hvalid : (s.toByteArray.extract offset (offset + word.utf8ByteSize)).IsValidUTF8 := by
    rw [h]
    exact word.isValidUTF8
  have hle : (⟨offset⟩ : String.Pos.Raw) ≤ ⟨offset + word.utf8ByteSize⟩ :=
    String.Pos.Raw.le_iff.mpr (Nat.le_add_right _ _)
  have hend : (⟨offset + word.utf8ByteSize⟩ : String.Pos.Raw) ≤ s.rawEndPos := by
    rw [String.Pos.Raw.le_iff, String.byteIdx_rawEndPos]
    show offset + word.utf8ByteSize ≤ s.utf8ByteSize
    omega
  refine ((String.Pos.Raw.isValidUTF8_extract_iff _ _ hle hend).mp hvalid).resolve_left ?_
  intro hsame
  have hoffset : offset = offset + word.utf8ByteSize := congrArg String.Pos.Raw.byteIdx hsame
  omega

/-- Where the bytes of a text spell a word, the word stands in the text. -/
theorem exists_append_of_extract (hword : word ≠ "")
    (h : s.toByteArray.extract offset (offset + word.utf8ByteSize) = word.toByteArray) :
    ∃ front back, s = front ++ word ++ back ∧ front.utf8ByteSize = offset := by
  obtain ⟨hstart, hstop⟩ := isValid_of_extract hword h
  obtain ⟨front, rest, hfront, hoffset⟩ := String.Pos.Raw.isValid_iff_exists_append.mp hstart
  obtain ⟨both, back, hboth, hend⟩ := String.Pos.Raw.isValid_iff_exists_append.mp hstop
  have hsize : front.utf8ByteSize = offset := (congrArg String.Pos.Raw.byteIdx hoffset).symm
  have hsizes : both.utf8ByteSize = offset + word.utf8ByteSize :=
    (congrArg String.Pos.Raw.byteIdx hend).symm
  have hspelled : both = front ++ word := by
    rw [← String.toByteArray_inj, String.toByteArray_append]
    calc both.toByteArray
        = s.toByteArray.extract 0 (offset + word.utf8ByteSize) := by
          rw [hboth, ← hsizes, extract_front]
      _ = s.toByteArray.extract 0 offset ++
            s.toByteArray.extract offset (offset + word.utf8ByteSize) := extract_split s _ _
      _ = front.toByteArray ++ word.toByteArray := by
          rw [h, hfront, ← hsize, extract_front]
  exact ⟨front, back, by rw [hboth, hspelled], hsize⟩

/-! ## The copy in lower case -/

/-- The copy of a text with its ASCII letters in lower case. -/
def asciiLowered (s : String) : String := String.ofList (s.toList.map asciiLower)

theorem utf8Size_asciiLower (c : Char) : (asciiLower c).utf8Size = c.utf8Size := by
  have hlower := toNat_asciiLower c
  split at hlower
  · have hone : ∀ d : Char, d.toNat ≤ 127 → d.utf8Size = 1 := fun d hd =>
      Char.utf8Size_eq_one_iff.mpr (UInt32.le_iff_toNat_le.mpr hd)
    rw [hone c (by omega), hone (asciiLower c) (by omega)]
  · rw [Char.toNat_inj.mp hlower]

theorem asciiLowered_append (s t : String) :
    asciiLowered (s ++ t) = asciiLowered s ++ asciiLowered t := by
  rw [asciiLowered, String.toList_append, List.map_append, String.ofList_append]
  rfl

theorem utf8ByteSize_asciiLowered (s : String) :
    (asciiLowered s).utf8ByteSize = s.utf8ByteSize := by
  obtain ⟨l, rfl⟩ := s.exists_eq_ofList
  unfold asciiLowered
  rw [String.toList_ofList]
  induction l with
  | nil => rfl
  | cons c rest ih =>
      rw [List.map_cons, String.ofList_cons, String.ofList_cons, String.utf8ByteSize_append,
        String.utf8ByteSize_append, ih, String.utf8ByteSize_singleton,
        String.utf8ByteSize_singleton, utf8Size_asciiLower]

end Text

namespace Identifier

/-- The bytes of the alias keyword stand at this offset in the copy in lower case. -/
def KeywordAt (v : String) (pos : Nat) : Prop :=
  (Text.asciiLowered v).toByteArray.extract pos (pos + 4) = " as ".toByteArray

instance (v : String) (pos : Nat) : Decidable (KeywordAt v pos) :=
  inferInstanceAs (Decidable (_ = _))

/-- The keyword stands in the text where its bytes stand in the copy. -/
theorem keywordAt_iff {v : String} {pos : Nat} :
    KeywordAt v pos ↔ ∃ left a b right, Text.asciiLower a = 'a' ∧ Text.asciiLower b = 's' ∧
      v = left ++ String.ofList [' ', a, b, ' '] ++ right ∧ left.utf8ByteSize = pos := by
  have hsize : " as ".utf8ByteSize = 4 := rfl
  constructor
  · intro h
    rw [KeywordAt, ← hsize] at h
    obtain ⟨front, back, hcopy, hpos⟩ := Text.exists_append_of_extract (by decide) h
    have hchars : v.toList.map Text.asciiLower = front.toList ++ aliasKeyword ++ back.toList := by
      have hlist := congrArg String.toList hcopy
      rw [Text.asciiLowered, String.toList_ofList, String.toList_append,
        String.toList_append] at hlist
      exact hlist
    obtain ⟨left, a, b, right, ha, hb, hv, hleft⟩ := exists_keyword_of_lower hchars
    refine ⟨String.ofList left, a, b, String.ofList right, ha, hb, ?_, ?_⟩
    · rw [← String.ofList_append, ← String.ofList_append, ← String.toList_inj,
        String.toList_ofList, hv]
      simp
    · rw [← Text.utf8ByteSize_asciiLowered, Text.asciiLowered, String.toList_ofList, hleft,
        String.ofList_toList]
      exact hpos
  · rintro ⟨left, a, b, right, ha, hb, rfl, rfl⟩
    have hkeyword : Text.asciiLowered (String.ofList [' ', a, b, ' ']) = " as " := by
      simp only [Text.asciiLowered, String.toList_ofList, List.map_cons, List.map_nil, ha, hb]
      rfl
    have hword := Text.extract_word (Text.asciiLowered left) " as " (Text.asciiLowered right)
    rw [Text.utf8ByteSize_asciiLowered] at hword
    rw [KeywordAt, Text.asciiLowered_append, Text.asciiLowered_append, hkeyword, ← hsize]
    exact hword

/-! ## Slicing at a keyword -/

/-- The text can be sliced before and behind the four bytes at this offset.  They spell the keyword,
and they are all that the two slices leave out. -/
structure Sliced (v : String) (pos : Nat) (left right : String) : Prop where
  start : (⟨pos⟩ : String.Pos.Raw).IsValid v
  stop : (⟨pos + 4⟩ : String.Pos.Raw).IsValid v
  bound : pos + 4 ≤ v.utf8ByteSize
  sliceTo : Text.sliceTo? v pos = some left
  sliceFrom : Text.sliceFrom? v (pos + 4) = some right
  keyword : ∃ a b : UInt8, v.toByteArray.extract pos (pos + 4) = ⟨#[0x20, a, b, 0x20]⟩ ∧
    (a = 0x61 ∨ a = 0x41) ∧ (b = 0x73 ∨ b = 0x53)
  whole : v.toByteArray =
    left.toByteArray ++ v.toByteArray.extract pos (pos + 4) ++ right.toByteArray
  left_lt : left.utf8ByteSize < v.utf8ByteSize
  right_lt : right.utf8ByteSize < v.utf8ByteSize

/-- One of the two slices at a keyword. -/
inductive Side (v : String) : String → Prop
  | left {pos : Nat} {part : String} (h : KeywordAt v pos)
      (hpart : Text.sliceTo? v pos = some part) : Side v part
  | right {pos : Nat} {part : String} (h : KeywordAt v pos)
      (hpart : Text.sliceFrom? v (pos + 4) = some part) : Side v part

variable {v left right : String} {a b : Char} {pos : Nat}

theorem keyword_bytes (ha : Text.asciiLower a = 'a') (hb : Text.asciiLower b = 's') :
    ∃ x y : UInt8, (String.ofList [' ', a, b, ' ']).toByteArray = ⟨#[0x20, x, y, 0x20]⟩ ∧
      (x = 0x61 ∨ x = 0x41) ∧ (y = 0x73 ∨ y = 0x53) := by
  rcases (Text.asciiLower_eq_iff rfl).mp ha with rfl | rfl <;>
    rcases (Text.asciiLower_eq_iff rfl).mp hb with rfl | rfl
  · exact ⟨0x61, 0x73, by decide +kernel, .inl rfl, .inl rfl⟩
  · exact ⟨0x61, 0x53, by decide +kernel, .inl rfl, .inr rfl⟩
  · exact ⟨0x41, 0x73, by decide +kernel, .inr rfl, .inl rfl⟩
  · exact ⟨0x41, 0x53, by decide +kernel, .inr rfl, .inr rfl⟩

theorem sliced_of_append (ha : Text.asciiLower a = 'a') (hb : Text.asciiLower b = 's') :
    Sliced (left ++ String.ofList [' ', a, b, ' '] ++ right) left.utf8ByteSize left right := by
  obtain ⟨x, y, hbytes, hx, hy⟩ := keyword_bytes ha hb
  have hsize : (String.ofList [' ', a, b, ' ']).utf8ByteSize = 4 := congrArg ByteArray.size hbytes
  generalize String.ofList [' ', a, b, ' '] = keyword at hbytes hsize ⊢
  have hextract := Text.extract_word left keyword right
  have hstop := Text.isValid_append (left ++ keyword) right
  have hfrom := Text.sliceFrom?_append (left ++ keyword) right
  rw [String.utf8ByteSize_append, hsize] at hstop hfrom
  rw [hsize] at hextract
  have hlength : (left ++ keyword ++ right).utf8ByteSize =
      left.utf8ByteSize + 4 + right.utf8ByteSize := by
    rw [String.utf8ByteSize_append, String.utf8ByteSize_append, hsize]
  refine ⟨?_, hstop, ?_, ?_, hfrom, ⟨x, y, hextract.trans hbytes, hx, hy⟩, ?_, ?_, ?_⟩
  · rw [String.append_assoc]
    exact Text.isValid_append left _
  · omega
  · rw [String.append_assoc]
    exact Text.sliceTo?_append left _
  · rw [hextract, String.toByteArray_append, String.toByteArray_append]
  · omega
  · omega

theorem KeywordAt.exists_sliced (h : KeywordAt v pos) : ∃ left right, Sliced v pos left right := by
  obtain ⟨left, a, b, right, ha, hb, rfl, rfl⟩ := keywordAt_iff.mp h
  exact ⟨left, right, sliced_of_append ha hb⟩

/-- Both slices of a text are shorter, so slicing comes to an end. -/
theorem lt_of_side (h : Side v left) : left.utf8ByteSize < v.utf8ByteSize := by
  cases h with
  | left h hpart =>
      obtain ⟨_, _, hsliced⟩ := h.exists_sliced
      cases hpart.symm.trans hsliced.sliceTo
      exact hsliced.left_lt
  | right h hpart =>
      obtain ⟨_, _, hsliced⟩ := h.exists_sliced
      cases hpart.symm.trans hsliced.sliceFrom
      exact hsliced.right_lt

theorem acc_side (v : String) : Acc (fun part whole => Side whole part) v :=
  (Subrelation.wf (fun h => lt_of_side h) (measure String.utf8ByteSize).wf).apply v

/-- Ahead of the leftmost offset there is no keyword, also none that overlaps with the one there. -/
theorem not_hasAlias_of_first
    (hfirst : ∀ earlier < left.utf8ByteSize,
      ¬ KeywordAt (left ++ String.ofList [' ', a, b, ' '] ++ right) earlier) :
    ¬ HasAlias (left.toList ++ [' ', a, b]) := by
  rintro ⟨front, a', b', back, ha', hb', heq⟩
  -- The keyword ahead stands in the whole text as well, at an earlier offset.
  have hwhole : left ++ String.ofList [' ', a, b, ' '] ++ right =
      String.ofList front ++ String.ofList [' ', a', b', ' '] ++
        String.ofList (back ++ ' ' :: right.toList) := by
    have hlist := congrArg (· ++ ' ' :: right.toList) heq
    rw [← String.toList_inj]
    simpa using hlist
  refine hfirst (String.ofList front).utf8ByteSize ?_
    (keywordAt_iff.mpr ⟨_, a', b', _, ha', hb', hwhole, rfl⟩)
  -- Four characters do not fit behind the left slice, so the other keyword starts inside it.
  obtain ⟨gap, hfront, hgap⟩ | ⟨gap, hleft, hgap⟩ := List.append_eq_append_iff.mp heq
  all_goals
    have hlength := congrArg List.length hgap
    simp only [List.length_append, List.length_cons, List.length_nil] at hlength
  · omega
  · cases gap with
    | nil =>
        rw [List.length_nil] at hlength
        omega
    | cons c rest =>
        rw [← String.ofList_toList (s := left), hleft, String.ofList_append, String.ofList_cons,
          String.utf8ByteSize_append, String.utf8ByteSize_append, String.utf8ByteSize_singleton]
        have hpos := c.utf8Size_pos
        omega

end Identifier

namespace Grammar

/-- Wherever the bytes of the keyword stand in the copy in lower case, the text itself can be sliced
there.  A reference is quoted by slicing it at the leftmost such offset and going on in both slices,
which comes to an end. -/
theorem reference_at_offset (g : Grammar) (v : String) :
    (∀ pos, Identifier.KeywordAt v pos → ∃ left right, Identifier.Sliced v pos left right ∧
      ((∀ earlier < pos, ¬ Identifier.KeywordAt v earlier) →
        g.reference v = g.reference left ++ " as " ++ g.reference right)) ∧
    ((∀ pos, ¬ Identifier.KeywordAt v pos) →
      g.reference v =
        String.ofList (Identifier.path g.quoteChar g.tablePrefix.toList v.toList)) ∧
    Acc (fun part whole => Identifier.Side whole part) v := by
  refine ⟨?_, ?_, Identifier.acc_side v⟩
  · intro pos h
    obtain ⟨left, a, b, right, ha, hb, rfl, rfl⟩ := Identifier.keywordAt_iff.mp h
    refine ⟨left, right, Identifier.sliced_of_append ha hb, fun hfirst => ?_⟩
    have hsplit : Identifier.splitAlias? (left.toList ++ ' ' :: a :: b :: ' ' :: right.toList) =
        some (left.toList, right.toList) :=
      Identifier.splitAlias?_of_first ha hb (Identifier.not_hasAlias_of_first hfirst)
    have hchars : (left ++ String.ofList [' ', a, b, ' '] ++ right).toList =
        left.toList ++ ' ' :: a :: b :: ' ' :: right.toList := by simp
    rw [reference, hchars, Identifier.reference_of_split hsplit, String.ofList_append,
      String.ofList_append]
    rfl
  · intro hnone
    have hsplit : Identifier.splitAlias? v.toList = none := by
      rw [Identifier.splitAlias?_eq_none_iff]
      rintro ⟨left, a, b, right, ha, hb, heq⟩
      refine hnone _ (Identifier.keywordAt_iff.mpr
        ⟨String.ofList left, a, b, String.ofList right, ha, hb, ?_, rfl⟩)
      rw [← String.toList_inj, heq]
      simp
    rw [reference, Identifier.reference_of_not_split hsplit]

/-- Two letters ahead of the keyword take two bytes each. -/
theorem reference_at_offset_umlaut :
    let g : Grammar := { dialect := .postgres, tablePrefix := "t_" }
    let v := "größe AS b.ö as é"
    Identifier.KeywordAt v 7 ∧ (∀ earlier < 7, ¬ Identifier.KeywordAt v earlier) ∧
      Identifier.Sliced v 7 "größe" "b.ö as é" ∧
      g.reference v = g.reference "größe" ++ " as " ++ g.reference "b.ö as é" ∧
      (∀ pos, ¬ Identifier.KeywordAt "größe" pos) ∧ g.reference "größe" = "\"größe\"" ∧
      g.reference v = "\"größe\" as \"t_b\".\"ö\" as \"é\"" := by
  intro g v
  have hkeyword : Identifier.KeywordAt v 7 := by decide +kernel
  have hfirst : ∀ earlier < 7, ¬ Identifier.KeywordAt v earlier := by decide +kernel
  have hnone : ∀ pos, ¬ Identifier.KeywordAt "größe" pos := by
    intro pos hpos
    obtain ⟨left, right, hsliced, -⟩ := (reference_at_offset g "größe").1 pos hpos
    have hbound : pos + 4 ≤ 7 := hsliced.bound
    have hshort : ∀ pos < 4, ¬ Identifier.KeywordAt "größe" pos := by decide +kernel
    exact hshort pos (by omega) hpos
  obtain ⟨left, right, hsliced, hquoted⟩ := (reference_at_offset g v).1 7 hkeyword
  have hleft : Text.sliceTo? v 7 = some "größe" := Text.sliceTo?_append "größe" " AS b.ö as é"
  have hright : Text.sliceFrom? v 11 = some "b.ö as é" :=
    Text.sliceFrom?_append "größe AS " "b.ö as é"
  cases hleft.symm.trans hsliced.sliceTo
  cases hright.symm.trans hsliced.sliceFrom
  refine ⟨hkeyword, hfirst, hsliced, hquoted hfirst, hnone, ?_, by decide +kernel⟩
  rw [(reference_at_offset g "größe").2.1 hnone]
  decide +kernel

end Grammar
end TableDdl
