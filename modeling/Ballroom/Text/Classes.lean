import Ballroom.Text.LetterTable
import Ballroom.Text.VisibleTable

/-! # Classes of characters

A property of characters is a table: the code points that have it, as ranges.  Such tables
say which characters are letters or numbers, in any script, and which cannot be seen, so
that a text between quotes has to escape them. -/

namespace Ballroom.Text

/-- Whether a number lies in one of the ranges, their ends included. -/
def inRanges (ranges : List (Nat × Nat)) (n : Nat) : Bool :=
  ranges.any fun range => range.1 ≤ n && n ≤ range.2

/-! ### Letters and numbers -/

/-- Whether a character is a letter: the Unicode property `Alphabetic`. -/
def isLetter (c : Char) : Bool :=
  if c.toNat < 0x80 then c.isAlpha else inRanges alphabeticRanges c.toNat

/-- Whether a character is a letter or a number of any kind. -/
def isLetterOrNumber (c : Char) : Bool :=
  isLetter c || if c.toNat < 0x80 then c.isDigit else inRanges numericRanges c.toNat

/-! ### Quoted texts -/

/-- A character between quotes. -/
def quoteChar (c : Char) : List Char :=
  if c = '\x00' then ['\\', '0']
  else if c = '\t' then ['\\', 't']
  else if c = '\r' then ['\\', 'r']
  else if c = '\n' then ['\\', 'n']
  else if c = '"' then ['\\', '"']
  else if c = '\\' then ['\\', '\\']
  else if c.toNat < 0x20 || c.toNat = 0x7F || inRanges invisibleRanges c.toNat then
    '\\' :: 'u' :: '\x7b' :: Nat.toDigits 16 c.toNat ++ ['\x7d']
  else [c]

/-- A text between quotes. -/
def quoted (s : String) : String := String.ofList ('"' :: s.toList.flatMap quoteChar ++ ['"'])

end Ballroom.Text
