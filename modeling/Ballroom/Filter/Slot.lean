import Ballroom.Tables

/-! # Slots of a filter

A filter has one slot for each condition it can put on songs.  A slot holds a value of
its own kind and is armed or not: a condition counts only while its slot is armed, and
keeps its value while it is not. -/

namespace Ballroom

/-- The conditions of a filter. -/
inductive FilterSlot where
  /-- The dance. -/
  | dance
  /-- The dances to choose from, each with bounds of its speed. -/
  | danceList
  /-- The genre. -/
  | genre
  /-- The least rating. -/
  | rating
  /-- The least level, together with the greatest one. -/
  | levelLow
  /-- The greatest level, together with the least one. -/
  | levelHigh
  /-- The status. -/
  | status
  /-- The favourite mark. -/
  | favorite
  /-- Only songs that may be played, whatever the value. -/
  | statusPlayable
  /-- The keywords to choose from. -/
  | keyword
  /-- A text to look for. -/
  | search
  /-- A playlist. -/
  | playlist
  deriving DecidableEq, Repr

/-- The kinds of values of slots. -/
inductive SlotKind where
  | number
  | text
  | dances
  | keywords
  deriving DecidableEq, Repr

/-- The name of a kind. -/
def SlotKind.name : SlotKind → String
  | number => "Num"
  | text => "Str"
  | dances => "DanceList"
  | keywords => "Keywords"

namespace FilterSlot

/-- Every slot. -/
def all : List FilterSlot :=
  [dance, danceList, genre, rating, levelLow, levelHigh, status, favorite, statusPlayable,
    keyword, search, playlist]

/-- The name of a slot. -/
def name : FilterSlot → String
  | dance => "Dance"
  | danceList => "DanceList"
  | genre => "Genre"
  | rating => "Rating"
  | levelLow => "LevelLow"
  | levelHigh => "LevelHigh"
  | status => "Status"
  | favorite => "Favorite"
  | statusPlayable => "StatusPlayable"
  | keyword => "Keyword"
  | search => "Search"
  | playlist => "Playlist"

/-- The kind of value that a slot holds. -/
def kind : FilterSlot → SlotKind
  | danceList => .dances
  | keyword => .keywords
  | search => .text
  | playlist => .text
  | _ => .number

end FilterSlot

/-- Dances to choose from: the bounds of each, a dance at most once. -/
abbrev DanceRanges := List (Int64 × BpmRange)

/-- Adds a dance, in place of an earlier entry for it. -/
def DanceRanges.insert (ranges : DanceRanges) (dance : Int64) (range : BpmRange) : DanceRanges :=
  (dance, range) :: ranges.filter fun entry => entry.1 != dance

/-- The value of a slot; the first one of each kind below is that of a slot never set. -/
inductive SlotValue where
  /-- A number; a negative one counts as none. -/
  | number (n : Int64)
  | text (s? : Option String)
  | dances (ranges : DanceRanges)
  | keywords (words? : Option (List String))
  deriving DecidableEq, Repr

namespace SlotValue

/-- The kind of a value. -/
def kind : SlotValue → SlotKind
  | number _ => .number
  | text _ => .text
  | dances _ => .dances
  | keywords _ => .keywords

/-- The value of a kind that stands for none. -/
def empty : SlotKind → SlotValue
  | .number => number (-1)
  | .text => text none
  | .dances => dances []
  | .keywords => keywords none

/-- Whether there is something to arm a slot with. -/
def isSet : SlotValue → Bool
  | number n => 0 ≤ n.toInt
  | text s? => s?.isSome
  | dances ranges => !ranges.isEmpty
  | keywords words? => words?.isSome

end SlotValue

/-- The state of a slot. -/
structure Slot where
  value : SlotValue
  armed : Bool := false
  deriving DecidableEq, Repr

end Ballroom
