import Ballroom.Song
import Ballroom.Tables
import Ballroom.Text.Splitting
import Ballroom.Number.Binary64

/-! # Values in a record

How the value of a tag is written in a record and read from one.  A value takes one line
and a slot ends at its first NUL, so line breaks become blanks and NULs vanish.  What is
read is never refused: a text that spells no number or no entry of a table stays text. -/

namespace Ballroom.Record

/-- The number at the front of a text, up to a slash: `3/12` reads as 3 and `120.6` as 121. -/
def parseNumber? (s : String) : Option Int64 :=
  -- Blanks may stand around the number and around all of it.
  let head := Text.trim ((Text.trim s.toList).takeWhile (· ≠ '/'))
  (Number.readInt64? head).or ((Number.FloatText.read? head).map (·.toInt64))

/-- The value of a tag from its text in a record. -/
def parseValue (tables : Tables) (tag : Tag) (raw : String) : TagValue :=
  match tag.kind with
  | .text => .text raw
  | .words => .words (Text.wordsOf raw)
  | .number => ((parseNumber? raw).map TagValue.number).getD (.text raw)
  | .entry table => ((tables.index? table raw).map TagValue.number).getD (.text raw)

/-- A character of a value: line breaks become blanks. -/
def flattenChar (c : Char) : Char := if c = '\n' ∨ c = '\r' then ' ' else c

/-- A text on one line without NULs. -/
def flatten (s : String) : String :=
  String.ofList ((s.toList.filter (· ≠ '\x00')).map flattenChar)

/-- The text of a value before it is flattened: the name of an entry of a table, where the
tag refers to one, otherwise the value itself. -/
def valueText (tables : Tables) (tag : Tag) (value : TagValue) : String :=
  match tag.kind, value with
  | .entry table, .number n => (tables.name? table n).getD value.toText
  | _, _ => value.toText

/-- The text of a value in a record. -/
def formatValue (tables : Tables) (tag : Tag) (value : TagValue) : String :=
  flatten (valueText tables tag value)

end Ballroom.Record
