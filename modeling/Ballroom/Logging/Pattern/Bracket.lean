import Ballroom.Logging.Pattern.Atom

/-! # Brackets of a pattern

A set of characters in square brackets: characters, ranges of them, classes with a name
and brackets inside of brackets, with operators between two sets.  Reading one gives its
height, the number of brackets, unions and operators that stand in each other. -/

namespace Ballroom.LogPattern

/-- A run of parts that follow each other. -/
structure Run where
  /-- How many parts there are. -/
  count : Nat := 0
  /-- The greatest height of a part. -/
  tallest : Nat := 0
  deriving DecidableEq, Repr

namespace Run

/-- Adds a part of a height. -/
def push (run : Run) (height : Nat) : Run := ⟨run.count + 1, max run.tallest height⟩

/-- The height of the whole run: a single part is not nested by standing in it. -/
def height (run : Run) : Nat := if 2 ≤ run.count then run.tallest + 1 else run.tallest

end Run

/-- Square brackets that have been opened. -/
structure Bracket where
  /-- Whether they stand for what is not in them. -/
  negated : Bool
  /-- The height of what stands before the last operator, if there is one. -/
  operand? : Option Nat := none
  /-- What has been read behind it. -/
  items : Run := {}
  deriving DecidableEq, Repr

namespace Bracket

/-- Adds a part of a height. -/
def push (bracket : Bracket) (height : Nat) : Bracket :=
  { bracket with items := bracket.items.push height }

/-- The height of what has been read, both sides of an operator taken together. -/
def content (bracket : Bracket) : Nat :=
  match bracket.operand? with
  | none => bracket.items.height
  | some operand => max operand bracket.items.height + 1

/-- Goes on behind an operator. -/
def operator (bracket : Bracket) : Bracket :=
  { bracket with operand? := some bracket.content, items := {} }

/-- Reads hyphens at the start of brackets, which stand for themselves. -/
def openHyphens (flags : Flags) (bracket : Bracket) : Nat → List Char → Bracket × List Char
  | 0, cs => (bracket, cs)
  | steps + 1, cs =>
    match flags.skip cs with
    | '-' :: rest => openHyphens flags (bracket.push 0) steps rest
    | cs => (bracket, cs)

/-- Opens brackets behind their first sign.  A closing bracket that stands first stands
for itself. -/
def start? (flags : Flags) (cs : List Char) : Option (Bracket × List Char) :=
  let (negated, cs) := match flags.skip cs with
    | '^' :: rest => (true, rest)
    | cs => (false, cs)
  let (bracket, cs) := openHyphens flags { negated } cs.length cs
  let (bracket, cs) := match flags.skip cs with
    | ']' :: rest => if bracket.items.count = 0 then (bracket.push 0, rest) else (bracket, cs)
    | _ => (bracket, cs)
  if flags.foldsCase && bracket.items.count ≠ 0 then none else some (bracket, cs)

end Bracket

/-- The names of classes between colons. -/
def classNames : List String :=
  ["alnum", "alpha", "ascii", "blank", "cntrl", "digit", "graph", "lower", "print", "punct",
    "space", "upper", "word", "xdigit"]

/-- Reads a class with a name, such as `[:alpha:]`, behind its first bracket: whether it
is negated, and what follows it. -/
def readNamed? : List Char → Option (Bool × List Char)
  | ':' :: rest =>
    let (negated, rest) := match rest with
      | '^' :: rest => (true, rest)
      | _ => (false, rest)
    let (name, rest) := rest.span (· ≠ ':')
    match rest with
    | ':' :: ']' :: rest =>
      if String.ofList name ∈ classNames then some (negated, rest) else none
    | _ => none
  | _ => none

/-- The character that decides whether a hyphen before it makes a range: blanks and the
sign of a comment are passed over if they stand for nothing. -/
def afterHyphen? (flags : Flags) (cs : List Char) : Option Char :=
  if flags.spaced then
    match Text.trimLeft cs with
    | '#' :: rest => (Text.trimLeft rest).head?
    | rest => rest.head?
  else cs.head?

/-- Reads a character, a range or a class inside brackets. -/
def readItem? (flags : Flags) (cs : List Char) : Option (List Char) := do
  let (low, rest) ← readMember? flags cs
  let single := if low.isMember flags then some (flags.skip rest) else none
  match flags.skip rest with
  | '-' :: behind =>
    match afterHyphen? flags behind with
    | some ']' => single
    | some '-' => single
    | _ =>
      let (high, rest) ← readMember? flags (flags.skip behind)
      if low.isRange high && low.isMember flags && high.isMember flags then some rest else none
  | _ => single

/-- Whether a named class can stand in brackets. -/
def knowsNamed (flags : Flags) (negated : Bool) : Bool :=
  !flags.foldsCase && (flags.unicode || !negated)

/-- Reads brackets up to their end, `outer` being those around them.  Every step takes a
character; `steps` bounds them. -/
def readBracket? (flags : Flags) : Nat → Bracket → List Bracket → List Char →
    Option (Nat × List Char)
  | 0, _, _, _ => none
  | steps + 1, bracket, outer, cs =>
    match flags.skip cs with
    | [] => none
    | '[' :: rest =>
      match readNamed? rest with
      | some (negated, rest) =>
        if knowsNamed flags negated then readBracket? flags steps (bracket.push 0) outer rest
        else none
      | none =>
        (Bracket.start? flags rest).bind fun (inner, rest) =>
          readBracket? flags steps inner (bracket :: outer) rest
    | ']' :: rest =>
      -- What is not in the brackets is more than ASCII.
      if bracket.negated && !flags.unicode then none
      else
        let height := bracket.content + 1
        match outer with
        | [] => some (height, rest)
        | around :: outer => readBracket? flags steps (around.push height) outer rest
    | '&' :: '&' :: rest => readBracket? flags steps bracket.operator outer rest
    | '-' :: '-' :: rest => readBracket? flags steps bracket.operator outer rest
    | '~' :: '~' :: rest => readBracket? flags steps bracket.operator outer rest
    | cs => (readItem? flags cs).bind (readBracket? flags steps (bracket.push 0) outer)

end Ballroom.LogPattern
