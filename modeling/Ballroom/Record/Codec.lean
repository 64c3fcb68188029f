import Ballroom.Record.Layout
import Ballroom.Record.Value
import Ballroom.Calendar.Date

/-! # Songs as records

`Record.encode` writes a song as the text of its record and `Record.decode` reads the
bytes of a record as a song.  The writer adds what it knows itself: the number of the
record, the time of writing, the date of a new song, and a status for a song without
one.  The reader drops names that are no tags; of several pairs with one name the last
counts. -/

namespace Ballroom.Record

/-- What the writer adds to a record. -/
structure Stamp where
  /-- The number of the slot that the record is written to. -/
  number : Nat
  /-- Whether this is the first record of the song. -/
  isNew : Bool
  /-- The time of writing. -/
  now : Instant

/-- The date of a song that is written for the first time. -/
def Stamp.dateText (stamp : Stamp) : String := stamp.now.date.text

/-- The time of writing in seconds. -/
def Stamp.timeText (stamp : Stamp) : String := toString stamp.now.seconds

/-- Whether a tag's value comes from the song rather than from the stamp. -/
def isOwn (stamp : Stamp) (tag : Tag) : Bool :=
  tag != .file && tag != .lastUpdated && tag != .recordNumber
    && !(tag == .addDate && stamp.isNew)

/-- The pairs of a song's record, in the order in which they are written. -/
def pairs (tables : Tables) (stamp : Stamp) (song : Song) : List (Tag × String) :=
  (.file, flatten (song.path?.getD ""))
    :: ((song.entries.filter fun entry => isOwn stamp entry.1).map fun entry =>
        (entry.1, formatValue tables entry.1 entry.2))
    ++ (if stamp.isNew then [(.addDate, stamp.dateText)] else [])
    -- Behind the song's own pairs comes what the writer adds.
    ++ (if song.has .status then [] else [(.status, tables.defaultStatus)])
    ++ [(.lastUpdated, stamp.timeText), (.recordNumber, toString stamp.number)]

/-- The text of a song's record. -/
def encode (tables : Tables) (stamp : Stamp) (song : Song) : String :=
  render ((pairs tables stamp song).map fun pair => (pair.1.name, pair.2))

/-- Sets the tag that a pair names, if it names one. -/
def setPair (tables : Tables) (song : Song) (pair : String × String) : Song :=
  match Tag.ofName? pair.1 with
  | some tag => song.set tag (parseValue tables tag pair.2)
  | none => song

/-- The song that a sequence of pairs describes. -/
def songOfPairs (tables : Tables) (pairs : List (String × String)) : Song :=
  pairs.foldl (setPair tables) .empty

/-- A song that names its audio file. -/
def withFile (song : Song) : Except Fault Song :=
  match song.path? with
  | some path => if path.isEmpty then .error .missingFile else .ok song
  | none => .error .missingFile

/-- The song of a record's text. -/
def decodeText (tables : Tables) (text : String) : Except Fault Song :=
  match readPairs (Text.linesOf text) with
  | .error fault => .error fault
  | .ok pairs => withFile (songOfPairs tables pairs)

/-- The song of a record. -/
def decode (tables : Tables) (data : Bytes) : Except Fault Song :=
  match Text.Utf8.decode data with
  | .error fault => .error (.notText fault)
  | .ok text => decodeText tables text

end Ballroom.Record
