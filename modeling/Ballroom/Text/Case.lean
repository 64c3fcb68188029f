import Ballroom.Text.CaseTable
import Ballroom.Text.Classes

/-! # Upper and lower case

Tag names and table entries are found whatever the case of their ASCII letters; all other
characters have to agree as they stand.

A search goes by the lower-case form of a text by the rules of Unicode that depend on no
language.  Every character is mapped by itself, except the capital sigma, which becomes a
final sigma at the end of a word. -/

namespace Ballroom.Text

/-! ### Names -/

/-- Whether two texts agree up to the case of the ASCII letters. -/
def sameName (a b : String) : Bool :=
  a.toList.map Char.toLower == b.toList.map Char.toLower

/-- A name agrees with itself. -/
@[simp] theorem sameName_self (a : String) : sameName a a := by simp [sameName]

/-- Agreement of names is symmetric. -/
theorem sameName_comm (a b : String) : sameName a b = sameName b a :=
  BEq.comm

/-- Agreement of names is transitive. -/
theorem sameName_trans {a b c : String} (hab : sameName a b) (hbc : sameName b c) :
    sameName a c := by
  simp only [sameName, beq_iff_eq] at *
  exact hab.trans hbc

/-! ### The lower-case form -/

/-- The lower-case form of a character. -/
def lowerChar (c : Char) : List Char :=
  if c.toNat < 0x80 then [c.toLower]
  -- The one character whose lower case is two.
  else if c = 'İ' then ['i', '\u0307']
  else
    let n := c.toNat
    match lowerRuns.find? fun run => run.1 ≤ n && n ≤ run.2.1 && (n - run.1) % run.2.2.1 == 0 with
    | some run => [Char.ofNat ((n : Int) + run.2.2.2).toNat]
    | none => [c]

/-- Whether the first character that is not case-ignorable is cased. -/
def meetsCased (cs : List Char) : Bool :=
  match cs.find? fun c => !inRanges caseIgnorableRanges c.toNat with
  | some c => inRanges casedRanges c.toNat
  | none => false

/-- Whether a sigma ends a word: a cased character stands before it and none behind it.
The characters before it are given from the nearest on. -/
def endsWord (before after : List Char) : Bool := meetsCased before && !meetsCased after

/-- The lower-case form of the characters that follow `before`, which is reversed. -/
def lowerFrom (before : List Char) : List Char → List Char
  | [] => []
  | c :: rest =>
    (if c = 'Σ' then [if endsWord before rest then 'ς' else 'σ'] else lowerChar c)
      ++ lowerFrom (c :: before) rest

/-- The lower-case form of a text. -/
def lowercase (s : String) : String := String.ofList (lowerFrom [] s.toList)

/-- Whether `part` stands somewhere in a run of characters. -/
def containsChars (part : List Char) : List Char → Bool
  | [] => part.isEmpty
  | c :: rest => part.isPrefixOf (c :: rest) || containsChars part rest

/-- Whether `part` stands somewhere in a text. -/
def contains (s part : String) : Bool := containsChars part.toList s.toList

end Ballroom.Text
