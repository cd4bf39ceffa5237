/-
What lower case keeps apart.

Only a final sigma makes lower case look at the characters around.  A character that is neither cased
nor passed over, such as `_`, ends that search on both sides, so a text is put in lower case piece by
piece between them (`lowerChars_boundary`).

Lower case does not lead into ASCII, but for two letters: the Kelvin sign becomes a `k`, and a capital
`I` with a dot becomes an `i` that keeps the dot as a mark.  So what is no letter in a lower-case text
was in the text before (`mem_of_mem_lowerAfter`), and a word in ASCII without a `k` comes from its
ASCII spellings alone (`lowerChars_eq_ascii_iff`).
-/
import TableDdl.Text.Lowercase

namespace TableDdl
namespace Text

theorem length_lowerChar_pos (c : Char) : 0 < (lowerChar c).length := by
  unfold lowerChar
  split
  · exact Nat.one_pos
  · split
    · exact Nat.two_pos
    · split <;> exact Nat.one_pos

theorem length_le_lowerAfter (before s : List Char) :
    s.length ≤ (lowerAfter before s).length := by
  induction s generalizing before with
  | nil => exact Nat.le_refl 0
  | cons c rest ih =>
      have hchar := length_lowerChar_pos c
      have hrest := ih (c :: before)
      rw [lowerAfter, List.length_append, List.length_cons]
      split
      · simp only [List.length_singleton]
        omega
      · omega

/-! ## Pieces of a text -/

/-- A character that ends the search for cased characters around a sigma. -/
structure IsBoundary (c : Char) : Prop where
  cased : isCased c = false
  ignorable : isCaseIgnorable c = false

theorem meetsCased_cons (c : Char) (rest : List Char) :
    meetsCased (c :: rest) = if isCaseIgnorable c then meetsCased rest else isCased c := by
  unfold meetsCased
  rw [List.dropWhile_cons]
  by_cases h : isCaseIgnorable c = true <;> simp [h]

theorem isBoundary_underscore : IsBoundary '_' := ⟨by decide +kernel, by decide +kernel⟩

section Boundary

variable {c : Char} (hc : IsBoundary c)
include hc

theorem IsBoundary.ne_sigma : c ≠ 'Σ' := by
  rintro rfl
  exact absurd hc.cased (by decide +kernel)

theorem meetsCased_boundary (s more : List Char) : meetsCased (s ++ c :: more) = meetsCased s := by
  induction s with
  | nil => simp [meetsCased, hc.cased, hc.ignorable]
  | cons d rest ih => rw [List.cons_append, meetsCased_cons, meetsCased_cons, ih]

/-- What stands ahead of a boundary does not show behind it. -/
theorem lowerAfter_behind (before more s : List Char) :
    lowerAfter (before ++ c :: more) s = lowerAfter before s := by
  induction s generalizing before with
  | nil => rfl
  | cons d rest ih =>
      have hrest := ih (d :: before)
      rw [List.cons_append] at hrest
      simp only [lowerAfter, sigma, meetsCased_boundary hc, hrest]

/-- What stands behind a boundary does not show ahead of it. -/
theorem lowerAfter_ahead (before s more : List Char) :
    lowerAfter before (s ++ c :: more) =
      lowerAfter before s ++ lowerAfter (s.reverse ++ before) (c :: more) := by
  induction s generalizing before with
  | nil => rfl
  | cons d rest ih =>
      simp only [List.cons_append, lowerAfter, sigma, meetsCased_boundary hc, ih, List.append_assoc,
        List.reverse_cons, List.nil_append]

/-- The two sides of a boundary are put in lower case each on its own. -/
theorem lowerChars_boundary (s t : List Char) :
    lowerChars (s ++ c :: t) = lowerChars s ++ lowerChar c ++ lowerChars t := by
  have hbehind := lowerAfter_behind hc [] (s.reverse ++ []) t
  rw [List.nil_append] at hbehind
  unfold lowerChars
  rw [lowerAfter_ahead hc, lowerAfter, if_neg hc.ne_sigma, hbehind, List.append_assoc]

end Boundary

theorem lowerChars_underscore (s t : List Char) :
    lowerChars (s ++ '_' :: t) = lowerChars s ++ '_' :: lowerChars t := by
  rw [lowerChars_boundary isBoundary_underscore, List.append_assoc]
  rfl

/-! ## ASCII -/

theorem toNat_asciiLower (c : Char) :
    (asciiLower c).toNat =
      if 65 ≤ c.toNat ∧ c.toNat ≤ 90 then c.toNat + 32 else c.toNat := by
  have hupper : (c.val ≥ 'A'.val ∧ c.val ≤ 'Z'.val) ↔ 65 ≤ c.toNat ∧ c.toNat ≤ 90 := by
    simp [UInt32.le_iff_toNat_le]
  unfold asciiLower Char.toLower
  simp only [hupper]
  split
  · show (c.val + ('a'.val - 'A'.val)).toNat = _
    have hc : c.val.toNat = c.toNat := rfl
    simp
    omega
  · rfl

theorem toNat_toUpper (c : Char) :
    c.toUpper.toNat = if 97 ≤ c.toNat ∧ c.toNat ≤ 122 then c.toNat - 32 else c.toNat := by
  have hlower : ('a'.val ≤ c.val ∧ c.val ≤ 'z'.val) ↔ 97 ≤ c.toNat ∧ c.toNat ≤ 122 := by
    simp [UInt32.le_iff_toNat_le]
  unfold Char.toUpper
  simp only [hlower]
  split
  · show (c.val + ('A'.val - 'a'.val)).toNat = _
    have hc : c.val.toNat = c.toNat := rfl
    simp
    omega
  · rfl

theorem asciiLower_eq_iff {c w : Char} (hw : asciiLower w = w) :
    asciiLower c = w ↔ c = w ∨ c = w.toUpper := by
  have hlower := toNat_asciiLower w
  rw [hw] at hlower
  rw [← Char.toNat_inj, ← Char.toNat_inj, ← Char.toNat_inj, toNat_asciiLower, toNat_toUpper]
  split at hlower <;> split <;> split <;> omega

/-- A run outside ASCII leads outside ASCII, and to characters at all.  The Kelvin sign is a run of
its own. -/
theorem caseRuns_outside : ∀ r ∈ caseRuns,
    r.last < 0x80 ∨ r.first = 0x212A ∧ r.last = 0x212A ∧ r.shift = -8383 ∨
      0x80 ≤ r.first + r.shift ∧
        (r.last + r.shift < 0xD800 ∨ 0xE000 ≤ r.first + r.shift ∧ r.last + r.shift < 0x110000) := by
  decide +kernel

/-- Lower case leads into ASCII from there, from the Kelvin sign and from the `I` with a dot. -/
theorem ascii_of_mem_lowerChar {c d : Char} (hd : d ∈ lowerChar c) (hascii : d.toNat < 0x80) :
    (c.toNat < 0x80 ∧ d = asciiLower c) ∨ (c = Char.ofNat 0x212A ∧ d = 'k') ∨
      (c = Char.ofNat 0x130 ∧ d = 'i') := by
  unfold lowerChar at hd
  split at hd
  · rename_i hc
    exact .inl ⟨hc, List.mem_singleton.mp hd⟩
  rename_i houtside
  split at hd
  · rename_i hc
    refine .inr (.inr ⟨by rw [← hc, Char.ofNat_toNat], ?_⟩)
    simp only [List.mem_cons, List.not_mem_nil, or_false] at hd
    rcases hd with rfl | rfl
    · rfl
    · exact absurd hascii (by decide)
  split at hd
  · rename_i r hfound
    have hcovers := List.find?_some hfound
    simp only [CaseRun.covers, Bool.and_eq_true, decide_eq_true_eq] at hcovers
    have htarget : d = Char.ofNat (r.target c.toNat) := List.mem_singleton.mp hd
    rcases caseRuns_outside r (List.mem_of_find?_eq_some hfound) with h | ⟨hfirst, hlast, hshift⟩ | h
    · omega
    · have hc : c.toNat = 0x212A := by omega
      refine .inr (.inl ⟨by rw [← hc, Char.ofNat_toNat], ?_⟩)
      rw [htarget, CaseRun.target, hc, hshift]
      rfl
    · exfalso
      have hn : 0x80 ≤ r.target c.toNat ∧ (r.target c.toNat).isValidChar := by
        unfold CaseRun.target Nat.isValidChar
        omega
      have hd : d.toNat = r.target c.toNat := by
        rw [htarget, Char.ofNat, dif_pos hn.2]
        rfl
      omega
  · rw [List.mem_singleton.mp hd] at hascii
    exact absurd hascii houtside

theorem sigma_outside (before after : List Char) : 0x80 ≤ (sigma before after).toNat := by
  unfold sigma
  split <;> decide

theorem eq_of_asciiLower {c d : Char} (h : asciiLower c = d) (hd : d.isLower = false) : c = d := by
  have hletter : ¬ (97 ≤ d.toNat ∧ d.toNat ≤ 122) := by
    have hrange : (decide ('a'.val ≤ d.val) && decide (d.val ≤ 'z'.val)) = false := hd
    simpa [UInt32.le_iff_toNat_le] using hrange
  have hlower := toNat_asciiLower c
  rw [h] at hlower
  rw [← Char.toNat_inj]
  split at hlower <;> omega

theorem ascii_of_asciiLower {c : Char} (h : (asciiLower c).toNat < 0x80) : c.toNat < 0x80 := by
  rw [toNat_asciiLower] at h
  split at h <;> omega

/-- What is no letter is in a lower-case text only if it was in the text. -/
theorem mem_of_mem_lowerAfter {d : Char} {before s : List Char} (hascii : d.toNat < 0x80)
    (hletter : d.isLower = false) (h : d ∈ lowerAfter before s) : d ∈ s := by
  induction s generalizing before with
  | nil => exact h
  | cons c rest ih =>
      rw [lowerAfter, List.mem_append] at h
      rcases h with h | h
      · split at h
        · have houtside := sigma_outside before rest
          rw [← List.mem_singleton.mp h] at houtside
          omega
        · rcases ascii_of_mem_lowerChar h hascii with ⟨-, hlower⟩ | ⟨-, rfl⟩ | ⟨-, rfl⟩
          · rw [← eq_of_asciiLower hlower.symm hletter]
            exact List.mem_cons_self
          · cases hletter
          · cases hletter
      · exact List.mem_cons_of_mem c (ih h)

theorem ascii_of_lowerChar {c : Char} (h : ∀ d ∈ lowerChar c, d.toNat < 0x80 ∧ d ≠ 'k') :
    c.toNat < 0x80 := by
  obtain ⟨d, hd⟩ := List.exists_mem_of_length_pos (length_lowerChar_pos c)
  rcases ascii_of_mem_lowerChar hd (h d hd).1 with ⟨hc, -⟩ | ⟨-, hkelvin⟩ | ⟨rfl, -⟩
  · exact hc
  · exact absurd hkelvin (h d hd).2
  · -- The dot of the capital stays behind the letter.
    have hdot := (h (Char.ofNat 0x307) (by decide +kernel)).1
    exact absurd hdot (by decide)

theorem ascii_of_lowerAfter {before s : List Char}
    (h : ∀ d ∈ lowerAfter before s, d.toNat < 0x80 ∧ d ≠ 'k') : ∀ c ∈ s, c.toNat < 0x80 := by
  induction s generalizing before with
  | nil => exact fun _ hc => absurd hc List.not_mem_nil
  | cons first rest ih =>
      rw [lowerAfter] at h
      intro c hc
      rcases List.mem_cons.mp hc with rfl | hc
      · split at h
        · have hsigma := (h (sigma before rest) (List.mem_append_left _ List.mem_cons_self)).1
          have houtside := sigma_outside before rest
          omega
        · exact ascii_of_lowerChar fun d hd => h d (List.mem_append_left _ hd)
      · exact ih (fun d hd => h d (List.mem_append_right _ hd)) c hc

theorem lowerAfter_of_ascii {before s : List Char} (h : ∀ c ∈ s, c.toNat < 0x80) :
    lowerAfter before s = s.map asciiLower := by
  induction s generalizing before with
  | nil => rfl
  | cons c rest ih =>
      have hc : c.toNat < 0x80 := h c List.mem_cons_self
      have hsigma : c ≠ 'Σ' := by
        rintro rfl
        exact absurd hc (by decide)
      rw [lowerAfter, if_neg hsigma, lowerChar, if_pos hc,
        ih fun d hd => h d (List.mem_cons_of_mem c hd)]
      rfl

/-- A word in ASCII that has no `k` is the lower case of its ASCII spellings and of nothing else. -/
theorem lowerChars_eq_ascii_iff {s word : List Char}
    (hword : ∀ d ∈ word, d.toNat < 0x80 ∧ d ≠ 'k') :
    lowerChars s = word ↔ s.map asciiLower = word := by
  constructor
  · intro h
    subst h
    exact (lowerAfter_of_ascii (ascii_of_lowerAfter hword)).symm
  · intro h
    subst h
    refine lowerAfter_of_ascii fun c hc => ascii_of_asciiLower ?_
    exact (hword _ (List.mem_map_of_mem hc)).1

end Text
end TableDdl
