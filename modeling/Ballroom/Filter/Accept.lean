import Ballroom.Filter.Basic

/-! # Which songs a filter accepts

Each condition by itself, and the filter as all of them together.  A slot that is not
armed, or armed without a value it could use, accepts every song. -/

namespace Ballroom.SongFilter

/-- Whether a condition holds for the value of an armed slot, if there is one. -/
def whenSome {α : Type} (value? : Option α) (condition : α → Bool) : Bool :=
  match value? with
  | some value => condition value
  | none => true

/-- The dances to choose from, if their slot is armed. -/
def armedDances? (f : SongFilter) : Option DanceRanges :=
  match f.armed? .danceList with
  | some (.dances ranges) => some ranges
  | _ => none

/-- The keywords to choose from, if their slot is armed. -/
def armedKeywords? (f : SongFilter) : Option (List String) :=
  match f.armed? .keyword with
  | some (.keywords words?) => words?
  | _ => none

/-- The song is of the dance. -/
def acceptsDance (f : SongFilter) (song : Song) : Bool :=
  whenSome (f.armedNumber? .dance) fun d => song.number? .dance = some d

/-- The song is of one of the dances. -/
def acceptsDanceList (f : SongFilter) (song : Song) : Bool :=
  whenSome f.armedDances? fun ranges =>
    match song.number? .dance with
    | some d => (ranges.lookup d).isSome
    | none => false

/-- The song is of the genre. -/
def acceptsGenre (f : SongFilter) (song : Song) : Bool :=
  whenSome (f.armedNumber? .genre) fun g => song.number? .genre = some g

/-- The song has a rating of some weight that is not below the least one. -/
def acceptsRating (f : SongFilter) (song : Song) : Bool :=
  whenSome (f.armedNumber? .rating) fun low =>
    match song.number? .danceRating with
    | some r =>
      let weight := ((f.tables.rating? r).map (·.weight)).getD 0
      weight != 0 && low ≤ r
    | none => false

/-- The song has a level of some weight between the least and the greatest one. -/
def acceptsLevel (f : SongFilter) (song : Song) : Bool :=
  match f.armedNumber? .levelLow, f.armedNumber? .levelHigh with
  | some low, some high =>
    match song.number? .danceLevel with
    | some l =>
      let weight := ((f.tables.level? l).map (·.weight)).getD 0
      weight != 0 && low ≤ l && l ≤ high
    | none => false
  | _, _ => true

/-- The song has the status. -/
def acceptsStatus (f : SongFilter) (song : Song) : Bool :=
  whenSome (f.armedNumber? .status) fun s => song.number? .status = some s

/-- The song has the favourite mark; a song without one has the first. -/
def acceptsFavorite (f : SongFilter) (song : Song) : Bool :=
  whenSome (f.armedNumber? .favorite) fun m => (song.number? .favorite).getD 0 = m

/-- The song may be played; a song without a status has the first. -/
def acceptsPlayable (f : SongFilter) (song : Song) : Bool :=
  whenSome (f.armed? .statusPlayable) fun _ =>
    match f.tables.status? ((song.number? .status).getD 0) with
    | some s => s.playable
    | none => false

/-- The speed of the song is within the bounds of its dance, if they are active. -/
def acceptsSpeed (f : SongFilter) (song : Song) : Bool :=
  whenSome f.armedDances? fun ranges =>
    -- Active bounds ask for a speed; a dance without bounds does not.
    let range := ((song.number? .dance).bind fun d => ranges.lookup d).getD .none
    !range.isActive || (match song.number? .bpm with
      | some bpm => range.contains bpm
      | none => false)

/-- The song has one of the keywords, or none at all. -/
def acceptsKeyword (f : SongFilter) (song : Song) : Bool :=
  whenSome f.armedKeywords? fun words =>
    match song.text? .keyword with
    -- A song without keyword passes.
    | some keyword => keyword.isEmpty || words.contains keyword
    | none => true

/-- The tags in which a text is looked for; the words of a list are looked at as well. -/
def searchedTags : List Tag :=
  [.title, .artist, .albumArtist, .notes, .keyword, .album, .composer, .conductor]

/-- Whether a text that is in lower case stands in one of the searched tags. -/
def matchesSearch (song : Song) (needle : String) : Bool :=
  let hit (text : String) : Bool := Text.contains (Text.lowercase text) needle
  (searchedTags.any fun tag => ((song.text? tag).map hit).getD false)
    || (((song.words? .tags).map fun words => words.any hit).getD false)

/-- The text stands in the song; an empty one does so in every song. -/
def acceptsSearch (f : SongFilter) (song : Song) : Bool :=
  whenSome (f.armedText? .search) fun needle => needle.isEmpty || matchesSearch song needle

/-- Whether a song meets every condition. -/
def accepts (f : SongFilter) (song : Song) : Bool :=
  f.acceptsDance song && f.acceptsDanceList song && f.acceptsGenre song
    && f.acceptsRating song && f.acceptsLevel song && f.acceptsStatus song
    && f.acceptsFavorite song && f.acceptsPlayable song && f.acceptsSpeed song
    && f.acceptsKeyword song && f.acceptsSearch song

end Ballroom.SongFilter
