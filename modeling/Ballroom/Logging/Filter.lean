import Ballroom.Logging.Pattern
import Ballroom.Number.Binary64

/-! # Log filters

The notation of log filters: directives with commas between them, each of which sets a
level for a target, for a span with certain fields or for everything.

A directive is read without the blanks around it, but what stands in it is cut from the
whole piece between the commas, at the same distance from its start.  So blanks behind a
directive belong to its level, and blanks in front of it move every cut. -/

namespace Ballroom.LogFilter

/-- The characters behind the first `size` bytes, unless a character is cut in two. -/
def dropSize? : Nat → List Char → Option (List Char)
  | 0, cs => some cs
  | _ + 1, [] => none
  | size + 1, c :: rest =>
    if c.utf8Size ≤ size + 1 then dropSize? (size + 1 - c.utf8Size) rest else none

/-- The characters of the first `size` bytes, unless a character is cut in two. -/
def takeSize? : Nat → List Char → Option (List Char)
  | 0, _ => some []
  | _ + 1, [] => none
  | size + 1, c :: rest =>
    if c.utf8Size ≤ size + 1 then (takeSize? (size + 1 - c.utf8Size) rest).map (c :: ·) else none

/-- The characters between two distances from the start, in bytes. -/
def cut? (first last : Nat) (cs : List Char) : Option (List Char) :=
  (dropSize? first cs).bind (takeSize? (last - first))

/-- Whether a word is a level, by name or by number. -/
def isLevel (word : List Char) : Bool :=
  let name := String.ofList (word.map Char.toLower)
  -- Nothing behind the equals sign stands for every level.
  word.isEmpty || name ∈ ["off", "error", "warn", "info", "debug", "trace"]
    || (Number.readNat? 5 word).isSome

/-- Whether the characters are a field of a span: a name and, behind an equals sign, what
it is compared with, a number or a pattern.  Nothing is asked of the name or of what
stands behind a second equals sign. -/
def isField (cs : List Char) : Bool :=
  match cs.dropWhile (· ≠ '=') with
  | _ :: rest =>
    let value := rest.takeWhile (· ≠ '=')
    (Number.FloatText.read? value).isSome || LogPattern.isPattern value
  | [] => !cs.isEmpty

/-- Where the reading of a directive stands.  A word that is still read has the distance
in bytes at which it starts. -/
inductive State where
  /-- Nothing has been read. -/
  | start
  /-- Inside a level or the name of a target. -/
  | levelOrTarget
  /-- Inside the name of a span. -/
  | span (start : Nat)
  /-- Inside a field of a span. -/
  | field (start : Nat)
  /-- Behind the fields of a span. -/
  | fields
  /-- Behind a span. -/
  | target
  /-- Inside a level. -/
  | level (start : Nat)
  deriving DecidableEq, Repr

/-- Whether a character may start a directive. -/
def isStart (c : Char) : Bool := c ∈ ['-', ':', '_'] || Text.isLetterOrNumber c

/-- The state behind a character that stands `size` bytes behind the start, unless no
directive goes on like that. -/
def step? (piece : List Char) (size : Nat) (c : Char) : State → Option State
  | .start =>
    if c = '[' then some (.span (size + 1))
    else if isStart c then some .levelOrTarget
    else none
  -- A word is a level or a target; nothing in it can be wrong.
  | .levelOrTarget =>
    if c = '=' then (cut? 0 size piece).map fun _ => .level (size + 1)
    else if c = '[' then (cut? 0 size piece).map fun _ => .span (size + 1)
    else some .levelOrTarget
  | .target => if c = '=' then some (.level (size + 1)) else none
  | .span start =>
    if c = ']' then (cut? start size piece).map fun _ => .target
    else if c = '\x7b' then (cut? start size piece).map fun _ => .field (size + 1)
    else some (.span start)
  | .field start =>
    if c = '\x7d' then
      (cut? start size piece).bind fun field => if isField field then some .fields else none
    else some (.field start)
  | .fields => if c = ']' then some .target else none
  | .level start => some (.level start)

/-- The state behind characters of which the first stands `size` bytes behind the start. -/
def run? (piece : List Char) : Nat → State → List Char → Option State
  | _, state, [] => some state
  | size, state, c :: rest =>
    (step? piece size c state).bind fun state => run? piece (size + c.utf8Size) state rest

/-- Whether a directive may end in a state. -/
def mayEnd (piece : List Char) : State → Bool
  | .levelOrTarget => true
  | .target => true
  | .level start => (dropSize? start piece).any isLevel
  | _ => false

/-- Whether a piece between commas is one directive. -/
def isDirective (piece : List Char) : Bool :=
  (run? piece 0 .start (Text.trim piece)).any (mayEnd piece)

/-- The pieces between commas. -/
def pieces : List Char → List (List Char)
  | [] => [[]]
  | ',' :: rest => [] :: pieces rest
  | c :: rest =>
    match pieces rest with
    | [] => [[c]]
    | piece :: later => (c :: piece) :: later

/-- Whether a text is a filter.  Empty pieces are passed over. -/
def isValid (filter : String) : Bool :=
  (pieces filter.toList).all fun piece => piece.isEmpty || isDirective piece

end Ballroom.LogFilter
