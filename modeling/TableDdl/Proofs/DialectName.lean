/-
The identifiers that select a dialect.

Resolving an identifier cuts it at the first colon, trims it and puts it in lower case, all for the
whole of Unicode, and then looks it up.  What this accepts is a small grammar: blanks, a name of the
dialect in ASCII letters of any case, blanks, and then nothing or a colon and anything at all
(`resolve_iff`).  No name has a `k`, the one letter that lower case makes of a sign outside ASCII
without leaving a mark, so no other spelling gets in.
-/
import Mathlib.Data.List.Forall2
import TableDdl.Connection
import TableDdl.Proofs.Lowercase
import TableDdl.Proofs.Trim

namespace TableDdl

namespace Text

/-! ## Cutting -/

theorem takeWhile_colon_eq_iff {s t : List Char} :
    s.takeWhile (· != ':') = t ↔
      ':' ∉ t ∧ ∃ rest, s = t ++ rest ∧ (rest = [] ∨ ∃ tail, rest = ':' :: tail) := by
  constructor
  · rintro rfl
    refine ⟨fun hmem => ?_, s.dropWhile (· != ':'), List.takeWhile_append_dropWhile.symm, ?_⟩
    · have hall := List.all_eq_true.mp (List.all_takeWhile (p := (· != ':')) (l := s)) ':' hmem
      simp at hall
    · have hhead := List.head?_dropWhile_not (· != ':') s
      cases hrest : s.dropWhile (· != ':') with
      | nil => exact .inl rfl
      | cons c tail =>
          rw [hrest] at hhead
          have hc : c = ':' := by simpa using hhead
          exact .inr ⟨tail, by rw [hc]⟩
  · rintro ⟨hcolon, rest, rfl, hrest⟩
    have hall : ∀ c ∈ t, (c != ':') = true := fun c hc => by
      rw [bne_iff_ne]
      exact fun h => hcolon (h ▸ hc)
    rw [List.takeWhile_append_of_pos hall]
    rcases hrest with rfl | ⟨tail, rfl⟩ <;> simp

/-! ## Letters of any case -/

/-- The text is the word in ASCII letters of any case. -/
def InAnyCase (word s : List Char) : Prop := List.Forall₂ (fun w c => c = w ∨ c = w.toUpper) word s

theorem map_asciiLower_eq_iff {word s : List Char} (hword : ∀ w ∈ word, asciiLower w = w) :
    s.map asciiLower = word ↔ InAnyCase word s := by
  unfold InAnyCase
  induction s generalizing word with
  | nil => cases word <;> simp
  | cons c rest ih =>
      cases word with
      | nil => simp
      | cons w word =>
          have hrest := ih fun v hv => hword v (List.mem_cons_of_mem w hv)
          rw [List.map_cons, List.cons.injEq, asciiLower_eq_iff (hword w List.mem_cons_self), hrest,
            List.forall₂_cons]

theorem InAnyCase.exists_of_mem {word s : List Char} (h : InAnyCase word s) {c : Char}
    (hc : c ∈ s) : ∃ w ∈ word, c = w ∨ c = w.toUpper := by
  unfold InAnyCase at h
  induction h with
  | nil => exact absurd hc List.not_mem_nil
  | cons hfirst _ ih =>
      rcases List.mem_cons.mp hc with rfl | hc
      · exact ⟨_, List.mem_cons_self, hfirst⟩
      · obtain ⟨w, hw, hcase⟩ := ih hc
        exact ⟨w, List.mem_cons_of_mem _ hw, hcase⟩

end Text

/-! ## Names of dialects -/

namespace Dialect

/-- What all characters in the names of dialects have in common. -/
structure NameChar (w : Char) : Prop where
  ascii : w.toNat < 0x80
  ne_k : w ≠ 'k'
  lower : Text.asciiLower w = w
  unblank : Text.isBlank w = false ∧ Text.isBlank w.toUpper = false
  uncut : w ≠ ':' ∧ w.toUpper ≠ ':'

theorem nameChar_of_mem {d : Dialect} {name : String} (hname : name ∈ d.aliases) {w : Char}
    (hw : w ∈ name.toList) : NameChar w := by
  have hall : ∀ name ∈ d.aliases, name.toList.all (fun w => decide
      (w.toNat < 0x80 ∧ w ≠ 'k' ∧ Text.asciiLower w = w ∧
        (Text.isBlank w = false ∧ Text.isBlank w.toUpper = false) ∧ w ≠ ':' ∧ w.toUpper ≠ ':')) := by
    cases d <;> decide +kernel
  obtain ⟨hascii, hk, hlower, hblank, hcolon⟩ :=
    of_decide_eq_true (List.all_eq_true.mp (hall name hname) w hw)
  exact ⟨hascii, hk, hlower, hblank, hcolon⟩

theorem name_ne_empty {d : Dialect} {name : String} (hname : name ∈ d.aliases) :
    name.toList ≠ [] := by
  have hall : ∀ name ∈ d.aliases, name.toList ≠ [] := by
    cases d <;> decide +kernel
  exact hall name hname

/-- No name is shared by two dialects. -/
theorem eq_of_mem_aliases {d d' : Dialect} {name : String} (h : name ∈ d.aliases)
    (h' : name ∈ d'.aliases) : d = d' := by
  have hall : ∀ name ∈ d.aliases, name ∈ d'.aliases → d = d' := by
    cases d <;> cases d' <;> decide +kernel
  exact hall name h h'

theorem ofIdentifier?_eq_some_iff {identifier : String} {d : Dialect} :
    ofIdentifier? identifier = some d ↔ driverName identifier ∈ d.aliases := by
  unfold ofIdentifier?
  generalize driverName identifier = name
  constructor
  · intro h
    have hname := List.find?_some h
    simpa using hname
  · intro h
    cases hfound : all.find? fun d => d.aliases.contains name with
    | none =>
        have hnone := List.find?_eq_none.mp hfound d d.mem_all
        exact absurd h (by simpa using hnone)
    | some other =>
        have hname := List.find?_some hfound
        have hother : name ∈ other.aliases := by simpa using hname
        rw [eq_of_mem_aliases hother h]

/-- Blanks, a name of the dialect in ASCII letters of any case, blanks, and then nothing or a colon and
anything behind it. -/
def Selects (d : Dialect) (identifier : String) : Prop :=
  ∃ front word back rest : List Char,
    identifier.toList = front ++ word ++ back ++ rest ∧
      (∀ c ∈ front, Text.isBlank c = true) ∧
      (∃ name ∈ d.aliases, Text.InAnyCase name.toList word) ∧
      (∀ c ∈ back, Text.isBlank c = true) ∧
      (rest = [] ∨ ∃ tail, rest = ':' :: tail)

/-- A spelling of a name has no blank, no colon and nothing outside ASCII. -/
theorem spelled_char {d : Dialect} {name : String} (hname : name ∈ d.aliases) {word : List Char}
    (hword : Text.InAnyCase name.toList word) {c : Char} (hc : c ∈ word) :
    Text.isBlank c = false ∧ c ≠ ':' ∧ c.toNat < 0x80 := by
  obtain ⟨w, hw, hcase⟩ := hword.exists_of_mem hc
  have hchar := nameChar_of_mem hname hw
  have hupper := Text.toNat_toUpper w
  have hascii := hchar.ascii
  rcases hcase with rfl | rfl
  · exact ⟨hchar.unblank.1, hchar.uncut.1, hascii⟩
  · refine ⟨hchar.unblank.2, hchar.uncut.2, ?_⟩
    split at hupper <;> omega

theorem spelled_ne_nil {d : Dialect} {name : String} (hname : name ∈ d.aliases) {word : List Char}
    (hword : Text.InAnyCase name.toList word) : word ≠ [] := by
  rintro rfl
  exact name_ne_empty hname (List.forall₂_nil_right_iff.mp hword)

theorem driverName_eq_iff {d : Dialect} {name : String} (hname : name ∈ d.aliases)
    (identifier : String) :
    driverName identifier = name ↔
      Text.InAnyCase name.toList
        (Text.trimChars (identifier.toList.takeWhile (· != ':'))) := by
  rw [← Text.map_asciiLower_eq_iff fun w hw => (nameChar_of_mem hname hw).lower,
    ← Text.lowerChars_eq_ascii_iff fun w hw =>
      ⟨(nameChar_of_mem hname hw).ascii, (nameChar_of_mem hname hw).ne_k⟩,
    ← String.toList_inj]
  simp [driverName, Text.lower, Text.trim]

/-- What stands ahead of the first colon decides. -/
theorem selects_iff {d : Dialect} {identifier : String} :
    d.Selects identifier ↔
      ∃ front word back, identifier.toList.takeWhile (· != ':') = front ++ word ++ back ∧
        (∀ c ∈ front, Text.isBlank c = true) ∧
        (∃ name ∈ d.aliases, Text.InAnyCase name.toList word) ∧
        ∀ c ∈ back, Text.isBlank c = true := by
  constructor
  · rintro ⟨front, word, back, rest, hcut, hfront, ⟨name, hname, hword⟩, hback, hrest⟩
    have hcolon : ':' ∉ front ++ word ++ back := by
      simp only [List.mem_append, not_or]
      refine ⟨⟨fun h => ?_, fun h => (spelled_char hname hword h).2.1 rfl⟩, fun h => ?_⟩
      · exact absurd (hfront ':' h) (by decide)
      · exact absurd (hback ':' h) (by decide)
    exact ⟨front, word, back, Text.takeWhile_colon_eq_iff.mpr ⟨hcolon, rest, hcut, hrest⟩, hfront,
      ⟨name, hname, hword⟩, hback⟩
  · rintro ⟨front, word, back, hdriver, hfront, hname, hback⟩
    obtain ⟨-, rest, hcut, hrest⟩ := Text.takeWhile_colon_eq_iff.mp hdriver
    exact ⟨front, word, back, rest, hcut, hfront, hname, hback, hrest⟩

theorem driverName_mem_iff {identifier : String} {d : Dialect} :
    driverName identifier ∈ d.aliases ↔ d.Selects identifier := by
  rw [selects_iff]
  constructor
  · intro h
    have hword := (driverName_eq_iff h identifier).mp rfl
    obtain ⟨front, back, hdriver, hfront, hback⟩ :=
      (Text.trimChars_eq_iff (spelled_ne_nil h hword) fun c hc => (spelled_char h hword hc).1).mp rfl
    exact ⟨front, _, back, hdriver, hfront, ⟨_, h, hword⟩, hback⟩
  · rintro ⟨front, word, back, hdriver, hfront, ⟨name, hname, hword⟩, hback⟩
    have htrim : Text.trimChars (identifier.toList.takeWhile (· != ':')) = word :=
      (Text.trimChars_eq_iff (spelled_ne_nil hname hword) fun c hc =>
        (spelled_char hname hword hc).1).mpr ⟨front, back, hdriver, hfront, hback⟩
    have heq : driverName identifier = name := by
      rw [driverName_eq_iff hname, htrim]
      exact hword
    rw [heq]
    exact hname

theorem resolve_eq_ok_iff {identifier : String} {d : Dialect} :
    resolve identifier = .ok d ↔ d.Selects identifier := by
  rw [← driverName_mem_iff, ← ofIdentifier?_eq_some_iff]
  unfold resolve
  cases ofIdentifier? identifier <;> simp

/-- An identifier resolves to a dialect exactly when it is spelled as one of its names, and otherwise
it is refused as it was written.  Signs outside ASCII are refused ahead of the colon, blanks apart. -/
theorem resolve_iff (identifier : String) :
    (∀ d, resolve identifier = .ok d ↔ d.Selects identifier) ∧
      (∀ e, resolve identifier = .error e ↔
        e = .unsupportedDialect identifier ∧ ∀ d : Dialect, ¬ d.Selects identifier) ∧
      ((∃ c ∈ identifier.toList.takeWhile (· != ':'), 0x80 ≤ c.toNat ∧ Text.isBlank c = false) →
        resolve identifier = .error (.unsupportedDialect identifier)) := by
  have hrefused : ∀ e, resolve identifier = .error e ↔
      e = .unsupportedDialect identifier ∧ ∀ d : Dialect, ¬ d.Selects identifier := by
    intro e
    simp only [← resolve_eq_ok_iff]
    unfold resolve
    cases ofIdentifier? identifier <;> simp [eq_comm]
  refine ⟨fun d => resolve_eq_ok_iff, hrefused, ?_⟩
  rintro ⟨c, hc, houtside, hblank⟩
  refine (hrefused _).mpr ⟨rfl, ?_⟩
  intro d hselects
  obtain ⟨front, word, back, hdriver, hfront, ⟨name, hname, hword⟩, hback⟩ := selects_iff.mp hselects
  rw [hdriver, List.mem_append, List.mem_append] at hc
  rcases hc with (hc | hc) | hc
  · rw [hfront c hc] at hblank
    cases hblank
  · have hascii := (spelled_char hname hword hc).2.2
    omega
  · rw [hback c hc] at hblank
    cases hblank

end Dialect
end TableDdl
