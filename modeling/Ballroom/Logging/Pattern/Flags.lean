import Ballroom.Text.Splitting

/-! # Flags of a pattern

Flags change how the rest of a group is read: `(?x)` lets blanks and comments stand
between the parts of a pattern, `(?i)` takes letters in either case, `(?-u)` leaves
Unicode aside.  The other flags change what a pattern finds, and not what a pattern is. -/

namespace Ballroom.LogPattern

/-- The flags that decide what a pattern is. -/
structure Flags where
  /-- Letters stand for both of their cases. -/
  anyCase : Bool := false
  /-- Characters and classes are those of Unicode. -/
  unicode : Bool := true
  /-- Blanks and comments stand for nothing. -/
  spaced : Bool := false
  deriving DecidableEq, Repr

namespace Flags

/-- Whether characters have to be known in both cases, which takes a table of Unicode. -/
def foldsCase (flags : Flags) : Bool := flags.unicode && flags.anyCase

/-- The letters of all flags. -/
def letters : List Char := ['i', 'm', 's', 'U', 'u', 'R', 'x']

/-- Sets or clears the flag of a letter. -/
def put (flags : Flags) (letter : Char) (value : Bool) : Flags :=
  if letter = 'i' then { flags with anyCase := value }
  else if letter = 'u' then { flags with unicode := value }
  else if letter = 'x' then { flags with spaced := value }
  else flags

/-- Reads flags up to the mark that ends them, and returns the mark with what follows it.
What stands behind a minus sign is cleared.  `seen` holds what was read before, the last
one first: nothing may stand twice, and a minus sign not at the end. -/
def read? (seen : List Char) (flags : Flags) : List Char → Option (Flags × Char × List Char)
  | [] => none
  | c :: rest =>
    if c = ':' then (if seen.head? = some '-' then none else some (flags, ':', rest))
    -- Flags for the rest of the group have to be some.
    else if c = ')' then
      (if seen = [] ∨ seen.head? = some '-' then none else some (flags, ')', rest))
    else if c ∈ seen then none
    else if c = '-' then read? (c :: seen) flags rest
    else if c ∈ letters then read? (c :: seen) (flags.put c (decide ('-' ∉ seen))) rest
    else none

end Flags

/-- Drops blanks and comments; `comment` tells that the first character is inside a
comment, which ends with its line. -/
def dropSpace (comment : Bool) : List Char → List Char
  | [] => []
  | c :: rest =>
    if comment then dropSpace (c ≠ '\n') rest
    else if Text.isBlank c then dropSpace false rest
    else if c = '#' then dropSpace true rest
    else c :: rest

/-- Drops what stands for nothing under the flags. -/
def Flags.skip (flags : Flags) (cs : List Char) : List Char :=
  if flags.spaced then dropSpace false cs else cs

end Ballroom.LogPattern
