import Ballroom.Record.Value
import Ballroom.Calendar.Date

/-! # Sort keys

A sort specification is a list of tags, and a song's key under it is a text: a slash and a
segment for each tag.  Keys are compared by their bytes.  Numbers are padded with zeros;
dates and times are inverted, so that what is newer comes first. -/

namespace Ballroom

/-- The tags to sort by, the most important first. -/
abbrev SortSpec := List Tag

namespace SortSpec

/-- The tags that a word of a specification stands for: songs that were added on one day
are sorted by title, and a word that names no tag stands for none. -/
def tagsOfWord (word : String) : List Tag :=
  match Tag.ofName? word with
  | none => []
  | some .addDate => [.addDate, .title]
  | some tag => [tag]

/-- Reads a specification: names of tags with blanks between them. -/
def parse (spec : String) : SortSpec := (Text.wordsOf spec).flatMap tagsOfWord

end SortSpec

namespace SortKey

/-- The segment of a song that has no readable date. -/
def unknownDate : String := "9999-99-99"

/-- A date, inverted: later dates have lesser segments. -/
def dateSegment (date : Date) : String :=
  Number.padded 4 (9999 - date.year) ++ "-" ++ Number.padded 2 (99 - (date.month : Int)) ++ "-"
    ++ Number.padded 2 (99 - (date.day : Int))

/-- A time, inverted: the complement of its 64 bits. -/
def timeSegment (n : Int64) : String :=
  Number.hex64 (Number.maxUInt64 - n.toUInt64.toNat)

/-- The number of a tag, or `default` if it holds none. -/
def numberOr (song : Song) (tag : Tag) (default : Int64) : Int :=
  ((song.number? tag).getD default).toInt

/-- The segment of a tag. -/
def segment (tables : Tables) (song : Song) (tag : Tag) : String :=
  match tag with
  | .dance =>
    (((song.number? .dance).bind (tables.name? .dance)).or (song.text? .dance)).getD ""
  | .danceLevel => Number.padded 2 (numberOr song .danceLevel 0)
  | .danceRating => Number.padded 2 (numberOr song .danceRating 0)
  | .genre => Number.padded 2 (numberOr song .genre 0)
  | .addDate =>
    match (song.text? .addDate).bind Date.read? with
    | some date => dateSegment date
    | none => unknownDate
  | .lastUpdated => timeSegment ((song.number? .lastUpdated).getD 0)
  -- Tracks are counted on each disc of an album.
  | .trackNumber =>
    Number.padded 3 (numberOr song .discNumber 1) ++ "/"
      ++ Number.padded 4 (numberOr song .trackNumber 1)
  | .bpm => Number.padded 3 (numberOr song .bpm 1)
  | tag =>
    match song.value? tag with
    | some value => Record.formatValue tables tag value
    | none => ""

/-- The key of a song: its segments, each behind a slash. -/
def key (tables : Tables) (spec : SortSpec) (song : Song) : String :=
  String.join (spec.map fun tag => "/" ++ segment tables song tag)

end SortKey

end Ballroom
