/-
Lower case for all of Unicode.  Two characters do not map to one fixed partner: `İ` becomes an
`i` with a dot above it, and a `Σ` that ends a word becomes `ς` where any other becomes `σ`.
-/
import TableDdl.Text.CaseTable

namespace TableDdl
namespace Text

/-- Lower case of the ASCII letters alone. -/
def asciiLower (c : Char) : Char := c.toLower

def isCased (c : Char) : Bool := inRanges casedRanges c.toNat

def isCaseIgnorable (c : Char) : Bool := inRanges caseIgnorableRanges c.toNat

/-- Lower case of one character, out of context. -/
def lowerChar (c : Char) : List Char :=
  if c.toNat < 0x80 then [asciiLower c]
  else if c.toNat = 0x130 then ['i', Char.ofNat 0x307]
  else
    match caseRuns.find? (·.covers c.toNat) with
    | some r => [Char.ofNat (r.target c.toNat)]
    | none => [c]

/-- Whether the first character that is not passed over is cased. -/
def meetsCased (s : List Char) : Bool :=
  match s.dropWhile isCaseIgnorable with
  | [] => false
  | c :: _ => isCased c

/-- A sigma ends a word when a cased character leads up to it and none follows it. -/
def sigma (before after : List Char) : Char :=
  if meetsCased before && !meetsCased after then 'ς' else 'σ'

/-- Lower case of `s`, where `before` holds the characters ahead of it, nearest first. -/
def lowerAfter (before : List Char) : List Char → List Char
  | [] => []
  | c :: rest =>
      (if c = 'Σ' then [sigma before rest] else lowerChar c) ++ lowerAfter (c :: before) rest

def lowerChars (s : List Char) : List Char := lowerAfter [] s

def lower (s : String) : String := String.ofList (lowerChars s.toList)

example : lower "ΟΔΟΣ ΟΔΟΣΑ Σ" = "οδος οδοσα σ" := by decide +kernel

example : lower "İK-Ünï" = "i̇k-ünï" := by decide +kernel

end Text
end TableDdl
