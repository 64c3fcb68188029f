import Ballroom.Text.Case

/-! # Tags

The tags that describe a song, in the order in which a record lists them, with the name
each has in records and sort specifications and the kind of value it holds. -/

namespace Ballroom

/-- The tables that tags refer to. -/
inductive TableKind where
  | dance
  | level
  | rating
  | genre
  | status
  | favorite
  deriving DecidableEq, Repr

namespace TableKind

/-- Every kind of table. -/
def all : List TableKind := [dance, level, rating, genre, status, favorite]

/-- The name of the kind. -/
def name : TableKind → String
  | dance => "Dance"
  | level => "Level"
  | rating => "Rating"
  | genre => "Genre"
  | status => "Status"
  | favorite => "Favorite"

end TableKind

/-- A tag of a song. -/
inductive Tag where
  | file
  | addDate
  | lastUpdated
  | recordNumber
  | dance
  | danceLevel
  | danceRating
  | genre
  | status
  | favorite
  | title
  | artist
  | albumArtist
  | album
  | composer
  | conductor
  | trackNumber
  | trackTotal
  | discNumber
  | discTotal
  | bpm
  | duration
  | date
  | keyword
  | tags
  | notes
  deriving DecidableEq, Repr

/-- How the value of a tag is held in memory. -/
inductive TagKind where
  /-- Text as it stands. -/
  | text
  /-- A whole number. -/
  | number
  /-- Words with blanks between them. -/
  | words
  /-- An entry of a table: its name in a record, its place in the table in memory. -/
  | entry (table : TableKind)
  deriving DecidableEq, Repr

/-- The name of the kind. -/
def TagKind.name : TagKind → String
  | text => "Str"
  | number => "Num"
  | words => "List"
  | entry table => "Indexed(" ++ table.name ++ ")"

namespace Tag

/-- Every tag, in record order. -/
def all : List Tag :=
  [file, addDate, lastUpdated, recordNumber, dance, danceLevel, danceRating, genre, status,
    favorite, title, artist, albumArtist, album, composer, conductor, trackNumber, trackTotal,
    discNumber, discTotal, bpm, duration, date, keyword, tags, notes]

/-- The name of the tag in records and sort specifications. -/
def name : Tag → String
  | file => "FILE"
  | addDate => "DBADDDATE"
  | lastUpdated => "LASTUPDATED"
  | recordNumber => "RRN"
  | dance => "DANCE"
  | danceLevel => "DANCELEVEL"
  | danceRating => "DANCERATING"
  | genre => "GENRE"
  | status => "STATUS"
  | favorite => "FAVORITE"
  | title => "TITLE"
  | artist => "ARTIST"
  | albumArtist => "ALBUMARTIST"
  | album => "ALBUM"
  | composer => "COMPOSER"
  | conductor => "CONDUCTOR"
  | trackNumber => "TRACKNUMBER"
  | trackTotal => "TRACKTOTAL"
  | discNumber => "DISCNUMBER"
  | discTotal => "DISCTOTAL"
  | bpm => "BPM"
  | duration => "DURATION"
  | date => "DATE"
  | keyword => "KEYWORD"
  | tags => "TAGS"
  | notes => "NOTES"

/-- The kind of value that the tag holds. -/
def kind : Tag → TagKind
  | dance => .entry .dance
  | danceLevel => .entry .level
  | danceRating => .entry .rating
  | genre => .entry .genre
  | status => .entry .status
  | favorite => .entry .favorite
  | lastUpdated => .number
  | recordNumber => .number
  | trackNumber => .number
  | trackTotal => .number
  | discNumber => .number
  | discTotal => .number
  | bpm => .number
  | duration => .number
  | tags => .words
  | _ => .text

/-- The tag with the given name, whatever the case of its letters. -/
def ofName? (name : String) : Option Tag := all.find? fun tag => Text.sameName tag.name name

/-- `all` lists every tag. -/
theorem mem_all (tag : Tag) : tag ∈ all := by cases tag <;> decide

/-- `all` lists no tag twice. -/
theorem nodup_all : all.Nodup := by decide

end Tag

end Ballroom
