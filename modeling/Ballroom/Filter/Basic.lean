import Ballroom.Filter.Slot
import Ballroom.SortKey
import Ballroom.Playlist
import Ballroom.Fault
import Ballroom.Text.Case

/-! # Filters

A filter chooses songs by its slots and puts them in the order of its sort
specification.  Setting a slot arms it; whatever changes a slot or the order makes the
rows of the last run stale, and stale rows read as none. -/

namespace Ballroom

/-- A choice of songs and their order, and the rows of the last run. -/
structure SongFilter where
  tables : Tables
  /-- Where the playlist of the playlist slot is looked up. -/
  playlists? : Option PlaylistSource := none
  slot : FilterSlot → Slot := fun s => ⟨.empty s.kind, false⟩
  sort : SortSpec := []
  /-- The indices of the songs that the last run found, in order. -/
  rows : List Int := []
  /-- Whether nothing has changed since the last run. -/
  fresh : Bool := false
  /-- The number of rows of each dance of the table. -/
  danceCounts : Array Nat := #[]

namespace SongFilter

/-- A filter that chooses every song. -/
def new (tables : Tables) (playlists? : Option PlaylistSource) : SongFilter where
  tables := tables
  playlists? := playlists?
  danceCounts := Array.replicate (tables.size .dance) 0

/-- Changes a slot, which makes the rows stale. -/
def update (f : SongFilter) (s : FilterSlot) (change : Slot → Slot) : SongFilter :=
  { f with
    slot := fun t => if t = s then change (f.slot s) else f.slot t
    fresh := false }

/-- A change of one slot leaves the other slots alone. -/
@[simp] theorem slot_update (f : SongFilter) (s t : FilterSlot) (change : Slot → Slot) :
    (f.update s change).slot t = if t = s then change (f.slot s) else f.slot t := rfl

/-- Puts a value into a slot and arms it. -/
def put (f : SongFilter) (s : FilterSlot) (value : SlotValue) : SongFilter :=
  f.update s fun _ => ⟨value, true⟩

/-- Refuses a value of a kind that a slot does not hold. -/
def checkKind (s : FilterSlot) (kind : SlotKind) : Except LibraryFault Unit :=
  if s.kind = kind then .ok ()
  else .error (.invalidInput s.name
    ("expects a " ++ s.kind.name ++ " value, got " ++ kind.name))

/-- Sets a slot that holds a text.  A text to look for is kept in lower case. -/
def setText (f : SongFilter) (s : FilterSlot) (text : String) : Except LibraryFault SongFilter :=
  match checkKind s .text with
  | .error fault => .error fault
  | .ok () =>
    .ok (f.put s (.text (some (if s = .search then Text.lowercase text else text))))

/-- Sets a slot that holds a number. -/
def setNumber (f : SongFilter) (s : FilterSlot) (n : Int64) : Except LibraryFault SongFilter :=
  match checkKind s .number with
  | .error fault => .error fault
  | .ok () => .ok (f.put s (.number n))

/-- Sets the dances to choose from. -/
def setDances (f : SongFilter) (ranges : DanceRanges) : SongFilter :=
  f.put .danceList (.dances ranges)

/-- Sets the keywords to choose from. -/
def setKeywords (f : SongFilter) (words : List String) : SongFilter :=
  f.put .keyword (.keywords (some words))

/-- Takes the value of a slot away. -/
def clear (f : SongFilter) (s : FilterSlot) : SongFilter :=
  f.update s fun _ => ⟨.empty s.kind, false⟩

/-- Disarms a slot, which keeps its value. -/
def off (f : SongFilter) (s : FilterSlot) : SongFilter :=
  f.update s fun slot => { slot with armed := false }

/-- Arms a slot again, if it has a value. -/
def on (f : SongFilter) (s : FilterSlot) : SongFilter :=
  f.update s fun slot => if slot.value.isSet then { slot with armed := true } else slot

/-- Clears every slot. -/
def reset (f : SongFilter) : SongFilter := FilterSlot.all.foldl clear f

/-- Sets the order of the songs. -/
def setSort (f : SongFilter) (spec : String) : SongFilter :=
  { f with sort := SortSpec.parse spec, fresh := false }

/-- Whether a slot is armed. -/
def isArmed (f : SongFilter) (s : FilterSlot) : Bool := (f.slot s).armed

/-- The number in a slot, armed or not. -/
def number? (f : SongFilter) (s : FilterSlot) : Option Int64 :=
  match (f.slot s).value with
  | .number n => if 0 ≤ n.toInt then some n else none
  | _ => none

/-- The text in a slot, armed or not. -/
def text? (f : SongFilter) (s : FilterSlot) : Option String :=
  match (f.slot s).value with
  | .text s? => s?
  | _ => none

/-- Whether the filter has to run before its rows can be read. -/
def needsProcess (f : SongFilter) : Bool := !f.fresh

/-- The number of rows. -/
def count (f : SongFilter) : Nat := if f.fresh then f.rows.length else 0

/-- The index of the song in a row. -/
def row? (f : SongFilter) (position : Nat) : Option Int :=
  if f.fresh then f.rows[position]? else none

/-- The key by which a song is sorted. -/
def sortKey (f : SongFilter) (song : Song) : String := SortKey.key f.tables f.sort song

/-- The value of a slot, if it is armed. -/
def armed? (f : SongFilter) (s : FilterSlot) : Option SlotValue :=
  if (f.slot s).armed then some (f.slot s).value else none

/-- The number in a slot, if it is armed. -/
def armedNumber? (f : SongFilter) (s : FilterSlot) : Option Int64 :=
  match f.armed? s with
  | some (.number n) => some n
  | _ => none

/-- The text in a slot, if it is armed. -/
def armedText? (f : SongFilter) (s : FilterSlot) : Option String :=
  match f.armed? s with
  | some (.text s?) => s?
  | _ => none

end SongFilter

end Ballroom
