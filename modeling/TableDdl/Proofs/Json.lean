/-
Reading back what was written.

A written document is read back as it was (`parse?_write`).  Each reader takes from the front of
its input exactly what the writer of the same kind put there, and leaves what follows alone.  So
the readers are followed one step at a time, and the induction is on the supply of the reader: a
value needs at most twice as many steps as it has characters.

A number ends only where something else begins, so what follows a value has to be the end of the
document, a comma or a closing bracket (`Ends`).  Strings hold any characters at all.
-/
import TableDdl.Json.Reader
import TableDdl.Json.Writer

namespace TableDdl
namespace Json

/-! ## Characters and strings -/

theorem hexDigit?_hexDigit : ∀ n < 16, hexDigit? (hexDigit n) = some n := by
  decide

theorem hexCode?_control {n : Nat} (h : n < 0x20) :
    hexCode? '0' '0' (hexDigit (n / 16)) (hexDigit (n % 16)) = some n := by
  have hzero : hexDigit? '0' = some 0 := by decide
  have hhigh := hexDigit?_hexDigit (n / 16) (by omega)
  have hlow := hexDigit?_hexDigit (n % 16) (by omega)
  unfold hexCode?
  rw [hzero, hhigh, hlow]
  show some _ = some n
  congr 1
  omega

/-- One character is read as its own code, however it is written. -/
theorem readCodes?_escaped (c : Char) (rest : List Char) :
    readCodes? (escaped c ++ rest) =
      (readCodes? rest).map fun read => (c.toNat :: read.1, read.2) := by
  have hread : ∀ (code : Nat) (r : Option (List Nat × List Char)),
      (r.bind fun read => some (code :: read.1, read.2)) =
        r.map fun read => (code :: read.1, read.2) := by
    intro code r
    cases r <;> rfl
  unfold escaped
  split
  case h_8 hquote hbackslash _ _ _ _ _ =>
    split
    next hcontrol =>
      simp only [List.cons_append, List.nil_append]
      rw [readCodes?, hexCode?_control hcontrol]
      exact hread _ _
    next hcontrol =>
      rw [List.singleton_append, readCodes?.eq_5 _ _ hquote, if_neg hcontrol]
      · exact hread _ _
      · intro _ _ _ _ _ h _
        exact hbackslash h
      · intro _ _ h _
        exact hbackslash h
  all_goals exact hread _ _

theorem readCodes?_flatMap_escaped (s rest : List Char) :
    readCodes? (s.flatMap escaped ++ '"' :: rest) = some (s.map Char.toNat, rest) := by
  induction s with
  | nil => rfl
  | cons c s ih =>
      rw [List.flatMap_cons, List.append_assoc, readCodes?_escaped, ih]
      rfl

theorem not_surrogate (c : Char) :
    isHighSurrogate c.toNat = false ∧ isLowSurrogate c.toNat = false := by
  have hvalid : c.toNat < 0xD800 ∨ 0xDFFF < c.toNat ∧ c.toNat < 0x110000 := c.valid
  unfold isHighSurrogate isLowSurrogate
  constructor <;> simp only [Bool.and_eq_false_iff, decide_eq_false_iff_not] <;> omega

/-- The codes of characters stand for these characters, since none of them is a surrogate. -/
theorem charsOfCodes?_map_toNat (s : List Char) : charsOfCodes? (s.map Char.toNat) = some s := by
  induction s with
  | nil => rfl
  | cons c s ih =>
      obtain ⟨hhigh, hlow⟩ := not_surrogate c
      cases s with
      | nil => simp [charsOfCodes?, hhigh, hlow]
      | cons d s =>
          rw [List.map_cons] at ih
          simp [charsOfCodes?, hhigh, hlow, ih]

/-- A string ends where its closing quote was written, whatever follows it. -/
theorem readString?_writeString (content : Option String) (rest : List Char) :
    ∃ body, writeString content = '"' :: body ∧
      readString? (body ++ rest) = some (content, rest) := by
  cases content with
  | none => exact ⟨_, rfl, rfl⟩
  | some content =>
      refine ⟨content.toList.flatMap escaped ++ ['"'], rfl, ?_⟩
      unfold readString?
      rw [List.append_assoc, List.singleton_append, readCodes?_flatMap_escaped]
      show some ((charsOfCodes? (content.toList.map Char.toNat)).map String.ofList, rest) = _
      rw [charsOfCodes?_map_toNat, Option.map_some, String.ofList_toList]

/-! ## How a value begins and ends -/

/-- What may follow a value inside an array or an object, or at the end of a document. -/
def Ends (rest : List Char) : Prop :=
  ∀ c, rest.head? = some c → c = ',' ∨ c = ']' ∨ c = '\x7d'

theorem skipBlanks_cons {c : Char} (h : c ∉ [' ', '\t', '\n', '\r']) (rest : List Char) :
    skipBlanks (c :: rest) = c :: rest := by
  simp only [List.mem_cons, List.not_mem_nil, or_false, not_or] at h
  refine List.dropWhile_cons_of_neg ?_
  simp [h]

theorem afterNumber?_zero {rest : List Char} (h : Ends rest) :
    afterNumber? ('0' :: rest) = some rest := by
  show (afterFraction? rest).bind afterExponent? = some rest
  cases rest with
  | nil => rfl
  | cons c rest =>
      rcases h c rfl with rfl | rfl | rfl <;> rfl

/-- A character that may stand in front of a value: it is not blank and closes nothing. -/
def Begins (c : Char) : Prop := c ∉ [' ', '\t', '\n', '\r', ']', '\x7d']

instance : DecidablePred Begins := fun c => inferInstanceAs (Decidable (c ∉ _))

theorem writeChars_head (j : Json) : ∃ c body, j.writeChars = c :: body ∧ Begins c := by
  cases j with
  | null => exact ⟨_, _, rfl, by decide⟩
  | boolean value => cases value <;> exact ⟨_, _, rfl, by decide⟩
  | number => exact ⟨_, _, rfl, by decide⟩
  | string content =>
      obtain ⟨body, hbody, -⟩ := readString?_writeString content []
      exact ⟨'"', body, by rw [writeChars, hbody], by decide⟩
  | array items => exact ⟨'[', writeItems items ++ [']'], by rw [writeChars]; rfl, by decide⟩
  | object members =>
      exact ⟨'\x7b', writeMembers members ++ ['\x7d'], by rw [writeChars]; rfl, by decide⟩

theorem writeItems_cons_cons (item next : Json) (items : List Json) :
    writeItems (item :: next :: items) = item.writeChars ++ ',' :: writeItems (next :: items) :=
  writeItems.eq_3 item (next :: items) (by simp)

theorem writeMembers_cons_cons (name : Option String) (value : Json) (next : Option String × Json)
    (members : List (Option String × Json)) :
    writeMembers ((name, value) :: next :: members) =
      writeString name ++ ':' :: value.writeChars ++ ',' :: writeMembers (next :: members) :=
  writeMembers.eq_3 name value (next :: members) (by simp)

theorem writeItems_head (item : Json) (items : List Json) :
    ∃ c body, writeItems (item :: items) = c :: body ∧ Begins c := by
  obtain ⟨c, body, hbody, hc⟩ := item.writeChars_head
  cases items with
  | nil => exact ⟨c, body, by rw [writeItems, hbody], hc⟩
  | cons next items =>
      refine ⟨c, body ++ ',' :: writeItems (next :: items), ?_, hc⟩
      rw [writeItems_cons_cons, hbody, List.cons_append]

theorem writeMembers_head (member : Option String × Json) (members : List (Option String × Json)) :
    ∃ body, writeMembers (member :: members) = '"' :: body := by
  obtain ⟨name, value⟩ := member
  obtain ⟨body, hbody, -⟩ := readString?_writeString name []
  cases members with
  | nil => exact ⟨body ++ ':' :: value.writeChars, by rw [writeMembers, hbody, List.cons_append]⟩
  | cons next members =>
      refine ⟨body ++ ':' :: value.writeChars ++ ',' :: writeMembers (next :: members), ?_⟩
      rw [writeMembers_cons_cons, hbody, List.cons_append, List.cons_append]

theorem ends_cons {c : Char} (h : c ∈ [',', ']', '\x7d']) (rest : List Char) :
    Ends (c :: rest) := by
  intro d hd
  cases hd
  simpa using h

/-! ## One step of each reader -/

section Steps

variable {supply : Nat} {s rest after : List Char}

theorem readValue?_items {c : Char} {items : List Json} (hc : Begins c)
    (h : readItems? supply (c :: rest) = some (items, after)) :
    readValue? (supply + 1) ('[' :: c :: rest) = some (.array items, after) := by
  simp only [Begins, List.mem_cons, List.not_mem_nil, or_false, not_or] at hc
  have hskip : skipBlanks (c :: rest) = c :: rest := skipBlanks_cons (by simp [hc]) rest
  rw [readValue?, skipBlanks_cons (by decide)]
  split
  next heq => cases heq
  next heq =>
    cases heq
    rw [hskip, h]
    split
    next heq => exact absurd (List.cons.inj heq).1 hc.2.2.2.2.1
    next => rfl
  next heq => cases heq
  next heq => cases heq
  next heq => cases heq
  next heq => cases heq
  next hbracket _ _ _ _ => exact absurd rfl (hbracket _)

theorem readValue?_members {members : List (Option String × Json)}
    (h : readMembers? supply ('"' :: rest) = some (members, after)) :
    readValue? (supply + 1) ('\x7b' :: '"' :: rest) = some (.object members, after) := by
  rw [readValue?, skipBlanks_cons (by decide)]
  show (readMembers? supply ('"' :: rest)).map _ = _
  rw [h]
  rfl

theorem readItems?_last {item : Json} (h : readValue? supply s = some (item, ']' :: after)) :
    readItems? (supply + 1) s = some ([item], after) := by
  rw [readItems?, h]
  rfl

theorem readItems?_more {item : Json} {items : List Json}
    (h : readValue? supply s = some (item, ',' :: rest))
    (hrest : readItems? supply rest = some (items, after)) :
    readItems? (supply + 1) s = some (item :: items, after) := by
  have hstep : readItems? (supply + 1) s =
      (readItems? supply rest).map fun read => (item :: read.1, read.2) := by
    rw [readItems?, h]
    show (readItems? supply rest).bind _ = _
    cases readItems? supply rest <;> rfl
  rw [hstep, hrest]
  rfl

variable {name : Option String} {value : Json}

theorem readMembers?_last (hname : readString? s = some (name, ':' :: rest))
    (h : readValue? supply rest = some (value, '\x7d' :: after)) :
    readMembers? (supply + 1) ('"' :: s) = some ([(name, value)], after) := by
  rw [readMembers?, skipBlanks_cons (by decide)]
  show (readString? s).bind _ = _
  rw [hname]
  show (readValue? supply rest).bind _ = _
  rw [h]
  rfl

theorem readMembers?_more {more : List Char} {members : List (Option String × Json)}
    (hname : readString? s = some (name, ':' :: rest))
    (h : readValue? supply rest = some (value, ',' :: more))
    (hmore : readMembers? supply more = some (members, after)) :
    readMembers? (supply + 1) ('"' :: s) = some ((name, value) :: members, after) := by
  rw [readMembers?, skipBlanks_cons (by decide)]
  show (readString? s).bind _ = _
  rw [hname]
  show (readValue? supply rest).bind _ = _
  rw [h]
  show (readMembers? supply more).bind _ = _
  rw [hmore]
  rfl

end Steps

/-! ## Reading what was written -/

mutual
/-- What was written is read back and nothing behind it is touched, when the supply is twice its
length. -/
theorem readValue?_writeChars (j : Json) {supply : Nat} {rest : List Char} (hrest : Ends rest)
    (hsupply : 2 * j.writeChars.length ≤ supply) :
    readValue? supply (j.writeChars ++ rest) = some (j, rest) := by
  obtain ⟨first, body, hhead, hfirst⟩ := j.writeChars_head
  cases supply with
  | zero =>
      rw [hhead] at hsupply
      cases hsupply
  | succ supply =>
      cases j with
      | null => rfl
      | boolean value => cases value <;> rfl
      | number =>
          rw [writeChars, List.singleton_append, readValue?, skipBlanks_cons (by decide)]
          show (afterNumber? ('0' :: rest)).map _ = _
          rw [afterNumber?_zero hrest]
          rfl
      | string content =>
          obtain ⟨body, hbody, hread⟩ := readString?_writeString content rest
          rw [writeChars, hbody, List.cons_append, readValue?, skipBlanks_cons (by decide)]
          show (readString? (body ++ rest)).map _ = _
          rw [hread]
          rfl
      | array items =>
          cases items with
          | nil => rfl
          | cons item items =>
              have hitems : 2 * (writeItems (item :: items)).length < supply := by
                rw [writeChars, List.length_append, List.length_cons, List.length_singleton]
                  at hsupply
                omega
              have hread := readItems?_writeItems item items rest hitems
              obtain ⟨c, body, hhead, hc⟩ := writeItems_head item items
              rw [writeChars, List.cons_append, List.cons_append, List.append_assoc,
                List.singleton_append]
              rw [hhead] at hread ⊢
              exact readValue?_items hc hread
      | object members =>
          cases members with
          | nil => rfl
          | cons member members =>
              have hmembers : 2 * (writeMembers (member :: members)).length < supply := by
                rw [writeChars, List.length_append, List.length_cons, List.length_singleton]
                  at hsupply
                omega
              have hread := readMembers?_writeMembers member members rest hmembers
              obtain ⟨body, hhead⟩ := writeMembers_head member members
              rw [writeChars, List.cons_append, List.cons_append, List.append_assoc,
                List.singleton_append]
              rw [hhead] at hread ⊢
              exact readValue?_members hread
termination_by supply

theorem readItems?_writeItems (item : Json) (items : List Json) {supply : Nat} (rest : List Char)
    (hsupply : 2 * (writeItems (item :: items)).length < supply) :
    readItems? supply (writeItems (item :: items) ++ ']' :: rest) = some (item :: items, rest) := by
  cases supply with
  | zero => cases hsupply
  | succ supply =>
      cases items with
      | nil =>
          rw [writeItems] at hsupply ⊢
          refine readItems?_last (readValue?_writeChars item (ends_cons (by decide) rest) ?_)
          omega
      | cons next items =>
          rw [writeItems_cons_cons, List.length_append, List.length_cons] at hsupply
          rw [writeItems_cons_cons, List.append_assoc, List.cons_append]
          refine readItems?_more (readValue?_writeChars item (ends_cons (by decide) _) ?_)
            (readItems?_writeItems next items rest ?_) <;> omega
termination_by supply

theorem readMembers?_writeMembers (member : Option String × Json)
    (members : List (Option String × Json)) {supply : Nat} (rest : List Char)
    (hsupply : 2 * (writeMembers (member :: members)).length < supply) :
    readMembers? supply (writeMembers (member :: members) ++ '\x7d' :: rest) =
      some (member :: members, rest) := by
  obtain ⟨name, value⟩ := member
  cases supply with
  | zero => cases hsupply
  | succ supply =>
      cases members with
      | nil =>
          let behind := value.writeChars ++ '\x7d' :: rest
          obtain ⟨body, hbody, hname⟩ := readString?_writeString name (':' :: behind)
          rw [writeMembers, hbody, List.length_append, List.length_cons, List.length_cons]
            at hsupply
          rw [writeMembers, hbody, List.append_assoc, List.cons_append, List.cons_append]
          refine readMembers?_last hname
            (readValue?_writeChars value (ends_cons (by decide) rest) ?_)
          omega
      | cons next members =>
          let more := writeMembers (next :: members) ++ '\x7d' :: rest
          let behind := value.writeChars ++ ',' :: more
          obtain ⟨body, hbody, hname⟩ := readString?_writeString name (':' :: behind)
          rw [writeMembers_cons_cons, hbody] at hsupply
          simp only [List.length_append, List.length_cons] at hsupply
          rw [writeMembers_cons_cons, hbody]
          simp only [List.append_assoc, List.cons_append]
          refine readMembers?_more hname
            (readValue?_writeChars value (ends_cons (by decide) more) ?_)
            (readMembers?_writeMembers next members rest ?_) <;> omega
termination_by supply
end

/-- Every document is read back from its written form. -/
theorem parse?_write (j : Json) : parse? j.write = some j := by
  unfold parse? write
  rw [String.toList_ofList]
  have hread : readValue? (2 * j.writeChars.length + 2) (j.writeChars ++ []) = some (j, []) :=
    readValue?_writeChars j (fun _ h => nomatch h) (Nat.le_add_right _ 2)
  rw [List.append_nil] at hread
  rw [hread]
  rfl

example : (string (some "\"\\/\n\x01\x7fé")).write = "\"\\\"\\\\/\\n\\u0001\x7fé\"" := by
  decide +kernel

end Json
end TableDdl
