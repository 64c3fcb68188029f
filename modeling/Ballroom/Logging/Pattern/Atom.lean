import Ballroom.Logging.Pattern.Flags

/-! # Smallest parts of a pattern

A character that stands for itself, or for a class of characters or a place in the text,
if it is special or escaped.  No table of Unicode classes is at hand: a part that needs
one is no part of a pattern. -/

namespace Ballroom.LogPattern

/-- A smallest part of a pattern. -/
inductive Atom where
  /-- One character; `byte` tells that it was given as a byte, by two digits. -/
  | literal (c : Char) (byte : Bool)
  /-- Any character. -/
  | any
  /-- The start or the end of a line or of the text. -/
  | anchor
  /-- The edge of a word, or a place that is none. -/
  | wordEdge
  /-- The digits, the blanks or the characters of words, or all others. -/
  | charClass (negated : Bool)
  deriving DecidableEq, Repr

/-- The characters that stand for themselves behind a backslash although they are
special elsewhere, and all other ASCII characters but letters, digits and angle
brackets. -/
def isEscapable (c : Char) : Bool :=
  c.toNat < 0x80 && !c.isAlphanum && c ≠ '<' && c ≠ '>'

/-- The value of a hexadecimal digit. -/
def hexDigit? (c : Char) : Option Nat :=
  if c.isDigit then some (c.toNat - '0'.toNat)
  else if 'a' ≤ c ∧ c ≤ 'f' then some (c.toNat - 'a'.toNat + 10)
  else if 'A' ≤ c ∧ c ≤ 'F' then some (c.toNat - 'A'.toNat + 10)
  else none

/-- Reads a character that is given by a number of hexadecimal digits. -/
def readHex? (flags : Flags) (value : Nat) : Nat → List Char → Option (Char × List Char)
  | 0, cs => if Nat.isValidChar value then some (Char.ofNat value, cs) else none
  | digits + 1, cs =>
    match flags.skip cs with
    | [] => none
    | c :: rest => (hexDigit? c).bind fun d => readHex? flags (16 * value + d) digits rest

/-- Reads what stands behind a backslash. -/
def readEscape? (flags : Flags) : List Char → Option (Atom × List Char)
  | [] => none
  | c :: rest =>
    if c = 'x' then (readHex? flags 0 2 rest).map fun (c, rest) => (.literal c true, rest)
    else if c = 'u' then (readHex? flags 0 4 rest).map fun (c, rest) => (.literal c false, rest)
    else if c = 'U' then (readHex? flags 0 8 rest).map fun (c, rest) => (.literal c false, rest)
    else if c ∈ ['d', 's', 'w'] then some (.charClass false, rest)
    else if c ∈ ['D', 'S', 'W'] then some (.charClass true, rest)
    else if c = 'a' then some (.literal '\x07' false, rest)
    else if c = 'f' then some (.literal '\x0C' false, rest)
    else if c = 't' then some (.literal '\t' false, rest)
    else if c = 'n' then some (.literal '\n' false, rest)
    else if c = 'r' then some (.literal '\r' false, rest)
    else if c = 'v' then some (.literal '\x0B' false, rest)
    else if c ∈ ['A', 'z'] then some (.anchor, rest)
    else if c ∈ ['b', 'B', '<', '>'] then some (.wordEdge, rest)
    else if isEscapable c then some (.literal c false, rest)
    else none

/-- Reads a smallest part outside brackets. -/
def readAtom? (flags : Flags) : List Char → Option (Atom × List Char)
  | [] => none
  | '\\' :: rest => readEscape? flags rest
  | '.' :: rest => some (.any, rest)
  | '^' :: rest => some (.anchor, rest)
  | '$' :: rest => some (.anchor, rest)
  | c :: rest => some (.literal c false, rest)

/-- Reads a smallest part inside brackets, where only the backslash is special. -/
def readMember? (flags : Flags) : List Char → Option (Atom × List Char)
  | [] => none
  | '\\' :: rest => readEscape? flags rest
  | c :: rest => some (.literal c false, rest)

namespace Atom

/-- Whether a part can stand outside brackets.  With Unicode, the two cases of a character,
classes and the edges of words would need tables; without, only what keeps to whole
characters is left. -/
def isKnown (flags : Flags) : Atom → Bool
  | literal c byte => !flags.foldsCase && (flags.unicode || !byte || c.toNat < 0x80)
  | any => flags.unicode
  | anchor => true
  | wordEdge => !flags.unicode
  | charClass negated => !flags.unicode && !negated

/-- Whether a part can stand inside brackets, which without Unicode hold ASCII only. -/
def isMember (flags : Flags) : Atom → Bool
  | literal c _ => !flags.foldsCase && (flags.unicode || c.toNat < 0x80)
  | charClass negated => !flags.unicode && !negated
  | _ => false

/-- Whether two parts are the ends of a range of characters. -/
def isRange : Atom → Atom → Bool
  | literal low _, literal high _ => low ≤ high
  | _, _ => false

end Atom

end Ballroom.LogPattern
