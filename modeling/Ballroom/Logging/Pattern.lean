import Ballroom.Logging.Pattern.Bracket
import Ballroom.Text.Classes

/-! # Patterns

The patterns that the fields of a log filter may be compared with: characters, brackets,
groups, alternatives and repetitions.  What counts here is only whether a text is a
pattern, which takes its notation and a bound on its height: the number of groups,
repetitions, runs, alternatives and brackets that stand in each other. -/

namespace Ballroom.LogPattern

/-- A group that has been opened, or the whole pattern. -/
structure Group where
  /-- The flags behind the group. -/
  restored : Flags
  /-- The greatest height of an alternative, if one has been finished. -/
  tallest? : Option Nat := none
  /-- The parts of the alternative that is read. -/
  items : Run := {}
  /-- The height of the last part, if it can be repeated. -/
  last? : Option Nat := none
  deriving DecidableEq, Repr

namespace Group

/-- Adds a part of a height. -/
def push (group : Group) (height : Nat) : Group :=
  { group with items := group.items.push height, last? := some height }

/-- Adds flags, which count as a part but cannot be repeated. -/
def pushFlags (group : Group) : Group :=
  { group with items := group.items.push 0, last? := none }

/-- Repeats the last part. -/
def repeat? (group : Group) : Option Group :=
  group.last?.map fun height =>
    { group with
      items := { group.items with tallest := max group.items.tallest (height + 1) }
      last? := some (height + 1) }

/-- The height of all alternatives, the last one included. -/
def content (group : Group) : Nat :=
  match group.tallest? with
  | none => group.items.height
  | some tallest => max tallest group.items.height + 1

/-- Goes on with another alternative. -/
def alternative (group : Group) : Group :=
  { group with
    tallest? := some (max (group.tallest?.getD 0) group.items.height), items := {}, last? := none }

end Group

/-- Reads the name of a group up to its angle bracket. -/
def readName? (cs : List Char) : Option (List Char × List Char) :=
  let (name, rest) := cs.span (· ≠ '>')
  match name, rest with
  | first :: later, _ :: rest =>
    if (first = '_' || Text.isLetter first)
        && later.all fun c => c ∈ ['_', '.', '[', ']'] || Text.isLetterOrNumber c then
      some (name, rest)
    else none
  | _, _ => none

/-- What an opening parenthesis begins. -/
inductive Opening where
  /-- A group with a name, if it has one, in which the flags hold. -/
  | group (name? : Option (List Char)) (flags : Flags)
  /-- Flags for the rest of the group around them. -/
  | change (flags : Flags)

/-- Reads what stands behind an opening parenthesis. -/
def readOpening? (flags : Flags) (cs : List Char) : Option (Opening × List Char) :=
  let named (rest : List Char) : Option (Opening × List Char) :=
    (readName? rest).map fun (name, rest) => (.group (some name) flags, rest)
  match flags.skip cs with
  | '?' :: 'P' :: '<' :: rest => named rest
  | '?' :: '<' :: rest => named rest
  | '?' :: rest =>
    (flags.read? [] rest).map fun (flags, mark, rest) =>
      (if mark = ':' then .group none flags else .change flags, rest)
  | rest => some (.group none flags, rest)

/-- Drops the question mark behind a repetition, which makes it a short one. -/
def dropShort : List Char → List Char
  | '?' :: rest => rest
  | cs => cs

/-- Reads a pattern to its end and returns its height.  `group` is the innermost group,
`outer` are those around it, and `names` are the names of groups so far.  Every step takes
a character; `steps` bounds them. -/
def height? : Nat → Flags → Group → List Group → List (List Char) → List Char → Option Nat
  | 0, _, _, _, _, _ => none
  | steps + 1, flags, group, outer, names, cs =>
    match flags.skip cs with
    | [] => if outer.isEmpty then some group.content else none
    | '(' :: rest =>
      match readOpening? flags rest with
      | none => none
      | some (.change flags, rest) => height? steps flags group.pushFlags outer names rest
      | some (.group none inner, rest) =>
        height? steps inner { restored := flags } (group :: outer) names rest
      | some (.group (some name) inner, rest) =>
        if name ∈ names then none
        else height? steps inner { restored := flags } (group :: outer) (name :: names) rest
    | ')' :: rest =>
      match outer with
      | [] => none
      | around :: outer =>
        height? steps group.restored (around.push (group.content + 1)) outer names rest
    | '|' :: rest => height? steps flags group.alternative outer names rest
    | '[' :: rest => do
      let (bracket, rest) ← Bracket.start? flags rest
      let (height, rest) ← readBracket? flags (rest.length + 1) bracket [] rest
      height? steps flags (group.push height) outer names rest
    -- A count in braces has no end: the field ends at its closing brace.
    | '\x7b' :: _ => none
    | c :: rest =>
      if c ∈ ['?', '*', '+'] then
        group.repeat?.bind fun group => height? steps flags group outer names (dropShort rest)
      else do
        let (atom, rest) ← readAtom? flags (c :: rest)
        if atom.isKnown flags then height? steps flags (group.push 0) outer names rest else none

/-- The greatest height of a pattern. -/
def maxHeight : Nat := 250

/-- Whether the characters are a pattern. -/
def isPattern (cs : List Char) : Bool :=
  match height? (cs.length + 1) {} { restored := {} } [] [] cs with
  | some height => height ≤ maxHeight
  | none => false

end Ballroom.LogPattern
