import Ballroom.Json.Document
import Ballroom.Song
import Ballroom.Tables
import Ballroom.Playlist
import Ballroom.Logging
import Ballroom.Display

/-! # The documents of the library

The document forms of tables, tag values, playlists and logging settings, in which hosts
keep them in files of their own. -/

namespace Ballroom

open Json (Document Shape)
open Json.Document (member? toJson shape)

namespace Documents

/-- The record whose fields are given with their shapes, all of them required. -/
def record (fields : List (String × Shape)) : Shape :=
  .record (fields.map fun field => Shape.required field.1 field.2)

instance : Document BpmRange where
  shape := record [("low", shape Nat), ("high", shape Nat)]
  toJson r := Json.ofMembers [("low", toJson r.low), ("high", toJson r.high)]
  ofJson? v := do return ⟨← member? Nat v "low", ← member? Nat v "high"⟩

instance : Document Dance where
  shape := .record [Shape.required "name" .text,
    Shape.defaulted "bpm" (shape BpmRange) (toJson BpmRange.none)]
  toJson d := Json.ofMembers [("name", toJson d.name), ("bpm", toJson d.bpm)]
  ofJson? v := do return ⟨← member? String v "name", ← member? BpmRange v "bpm"⟩

instance : Document Rating where
  shape := record [("name", .text), ("weight", shape Nat)]
  toJson r := Json.ofMembers [("name", toJson r.name), ("weight", toJson r.weight)]
  ofJson? v := do return ⟨← member? String v "name", ← member? Nat v "weight"⟩

instance : Document Level where
  shape := record [("name", .text), ("weight", shape Nat)]
  toJson l := Json.ofMembers [("name", toJson l.name), ("weight", toJson l.weight)]
  ofJson? v := do return ⟨← member? String v "name", ← member? Nat v "weight"⟩

instance : Document Status where
  shape := record [("name", .text), ("playable", .flag)]
  toJson s := Json.ofMembers [("name", toJson s.name), ("playable", toJson s.playable)]
  ofJson? v := do return ⟨← member? String v "name", ← member? Bool v "playable"⟩

instance : Document Genre where
  shape := record [("name", .text)]
  toJson g := Json.ofMembers [("name", toJson g.name)]
  ofJson? v := do return ⟨← member? String v "name"⟩

instance : Document Favorite where
  shape := record [("name", .text)]
  toJson f := Json.ofMembers [("name", toJson f.name)]
  ofJson? v := do return ⟨← member? String v "name"⟩

instance : Document Tables where
  shape := record [("dances", shape (List Dance)), ("ratings", shape (List Rating)),
    ("levels", shape (List Level)), ("statuses", shape (List Status)),
    ("genres", shape (List Genre)), ("favorites", shape (List Favorite))]
  toJson t := Json.ofMembers [("dances", toJson t.dances), ("ratings", toJson t.ratings),
    ("levels", toJson t.levels), ("statuses", toJson t.statuses),
    ("genres", toJson t.genres), ("favorites", toJson t.favorites)]
  ofJson? v := do
    return {
      dances := ← member? (List Dance) v "dances"
      ratings := ← member? (List Rating) v "ratings"
      levels := ← member? (List Level) v "levels"
      statuses := ← member? (List Status) v "statuses"
      genres := ← member? (List Genre) v "genres"
      favorites := ← member? (List Favorite) v "favorites" }

instance : Document TableKind := Document.ofNames TableKind.all TableKind.name

/-- The name of a tag in a document. -/
def tagName : Tag → String
  | .file => "File"
  | .addDate => "DbAddDate"
  | .lastUpdated => "LastUpdated"
  | .recordNumber => "Rrn"
  | .dance => "Dance"
  | .danceLevel => "DanceLevel"
  | .danceRating => "DanceRating"
  | .genre => "Genre"
  | .status => "Status"
  | .favorite => "Favorite"
  | .title => "Title"
  | .artist => "Artist"
  | .albumArtist => "AlbumArtist"
  | .album => "Album"
  | .composer => "Composer"
  | .conductor => "Conductor"
  | .trackNumber => "TrackNumber"
  | .trackTotal => "TrackTotal"
  | .discNumber => "DiscNumber"
  | .discTotal => "DiscTotal"
  | .bpm => "Bpm"
  | .duration => "Duration"
  | .date => "Date"
  | .keyword => "Keyword"
  | .tags => "Tags"
  | .notes => "Notes"

instance : Document Tag := Document.ofNames Tag.all tagName

instance : Document TagValue where
  shape := .choice [("Str", some .text), ("Num", some .signed), ("List", some (.list .text))]
  toJson v := match v with
    | .text s => .object [("Str", toJson s)]
    | .number n => .object [("Num", toJson n)]
    | .words ws => .object [("List", toJson ws)]
  ofJson? v := match v with
    | .object [("Str", .text s)] => some (.text s)
    | .object [("Num", .number (.whole n))] => some (.number (Int64.ofInt n))
    | .object [("List", ws)] => (Document.ofJson? ws).map TagValue.words
    | _ => none

/-- Every kind of playlist. -/
def playlistKinds : List PlaylistKind := [.songList, .sequence, .automatic]

/-- The name of a kind of playlist in a document. -/
def playlistKindName : PlaylistKind → String
  | .songList => "SongList"
  | .sequence => "Sequence"
  | .automatic => "Automatic"

instance : Document PlaylistKind := Document.ofNames playlistKinds playlistKindName

instance : Document Playlist where
  shape := .record [Shape.required "name" .text, Shape.required "kind" (shape PlaylistKind),
    Shape.defaulted "songs" (.list .text) (.list [])]
  toJson p := Json.ofMembers
    [("name", toJson p.name), ("kind", toJson p.kind), ("songs", toJson p.songs)]
  ofJson? v := do
    return ⟨← member? String v "name", ← member? PlaylistKind v "kind",
      ← member? (List String) v "songs"⟩

instance : Document DisplayKey := Document.ofNames DisplayKey.all DisplayKey.name

instance : Document LogLevel := Document.ofNames LogLevel.all LogLevel.name

instance : Document LogFormat := Document.ofNames LogFormat.all LogFormat.name

instance : Document LoggingConfig where
  shape := .record [Shape.required "format" (shape LogFormat),
    Shape.required "level" (shape LogLevel), Shape.nullable "filter" .text,
    Shape.required "enable_spans" .flag, Shape.required "display_target" .flag,
    Shape.required "display_thread_info" .flag]
  toJson c := Json.ofMembers [("format", toJson c.format), ("level", toJson c.level),
    ("filter", toJson c.filter?), ("enable_spans", toJson c.enableSpans),
    ("display_target", toJson c.displayTarget),
    ("display_thread_info", toJson c.displayThreadInfo)]
  ofJson? v := do
    return {
      format := ← member? LogFormat v "format"
      level := ← member? LogLevel v "level"
      filter? := ← member? (Option String) v "filter"
      enableSpans := ← member? Bool v "enable_spans"
      displayTarget := ← member? Bool v "display_target"
      displayThreadInfo := ← member? Bool v "display_thread_info" }

end Documents

end Ballroom
