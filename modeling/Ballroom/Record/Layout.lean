import Ballroom.Text.Splitting
import Ballroom.Text.Utf8

/-! # Layout of a record

A record is a sequence of pairs of lines: a name, and below it a value behind the mark
`..`.  Empty lines are allowed where a name is expected.  `Record.render` writes pairs and
`Record.readPairs` reads the lines back. -/

namespace Ballroom.Record

/-- The mark in front of every value. -/
def mark : String := ".."

/-- Why bytes are no record. -/
inductive Fault where
  | notText (fault : Text.Utf8.Fault)
  | missingValue (name : String)
  | missingMark (name : String)
  | missingFile
  deriving DecidableEq, Repr

/-- The wording of a fault. -/
def Fault.message : Fault → String
  | notText fault => "record is not UTF-8: " ++ fault.message
  | missingValue name => "tag " ++ name ++ " has no value"
  | missingMark name => "value for " ++ name ++ " lacks the value marker"
  | missingFile => "record has no FILE tag"

/-- The two lines of a pair. -/
def renderPair (pair : String × String) : String :=
  pair.1 ++ "\n" ++ mark ++ pair.2 ++ "\n"

/-- The lines of a sequence of pairs. -/
def render (pairs : List (String × String)) : String := String.join (pairs.map renderPair)

/-- The value of a line that starts with the mark. -/
def unmarked? (line : String) : Option String :=
  match line.toList with
  | '.' :: '.' :: rest => some (String.ofList rest)
  | _ => none

/-- The pairs that lines consist of. -/
def readPairs : List String → Except Fault (List (String × String))
  | [] => .ok []
  -- A name on the last line has no room for its value.
  | [name] => if name.isEmpty then .ok [] else .error (.missingValue name)
  | name :: line :: rest =>
    -- Only the line of a name may be empty: a value line holds at least the mark.
    if name.isEmpty then readPairs (line :: rest)
    else match unmarked? line with
      | none => .error (.missingMark name)
      | some value => (readPairs rest).map ((name, value) :: ·)

end Ballroom.Record
