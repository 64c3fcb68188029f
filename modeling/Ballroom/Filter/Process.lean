import Ballroom.Filter.Accept
import Ballroom.Library.Basic

/-! # Running a filter

A run finds the songs on record that the filter accepts, in the order of their sort keys,
songs of one key in the order of their indices.  A playlist that gives its songs itself
takes the place of all this: its songs are the rows, in its own order. -/

namespace Ballroom.SongFilter

variable {σ : Type}

/-- A song that was found, with its key. -/
structure Hit where
  key : String
  index : Int
  deriving DecidableEq

/-- The order of songs by key and, for one key, by index. -/
def Hit.le (a b : Hit) : Bool :=
  ((Text.compareBytes a.key b.key).then (compare a.index b.index)).isLE

/-- The playlist in effect: one that is found under the name in the armed playlist slot
and gives its songs itself. -/
def songList? (f : SongFilter) : Option Playlist :=
  match f.armedText? .playlist, f.playlists? with
  | some name, some source =>
    match source name with
    | .ok (some playlist) => if playlist.isSongList then some playlist else none
    | _ => none
  | _, _ => none

/-- The indices of the songs of a playlist, those not on record left out. -/
def playlistRows (lib : Library σ) (playlist : Playlist) : List Int :=
  playlist.songs.filterMap fun path => (lib.getByPath? path).bind (·.index?)

/-- The indices of the songs on record that the filter accepts, in their order. -/
def acceptedRows (f : SongFilter) (lib : Library σ) : List Int :=
  let accepted := lib.entries.filter fun entry => f.accepts entry.2
  if f.sort.isEmpty then accepted.map (·.1)
  else
    let hits := accepted.map fun entry => (⟨f.sortKey entry.2, entry.1⟩ : Hit)
    (hits.mergeSort Hit.le).map (·.index)

/-- The rows of a run. -/
def rowsFor (f : SongFilter) (lib : Library σ) : List Int :=
  match f.songList? with
  | some playlist => playlistRows lib playlist
  | none => f.acceptedRows lib

/-- The number of rows of each dance of the table. -/
def tally (f : SongFilter) (lib : Library σ) (rows : List Int) : Array Nat :=
  rows.foldl
    (fun counts index =>
      match (lib.getByIndex? index).bind Library.dancePlace? with
      | some d => counts.modify d (· + 1)
      | none => counts)
    (Array.replicate (f.tables.size .dance) 0)

/-- Runs the filter over a library. -/
def process (f : SongFilter) (lib : Library σ) : SongFilter :=
  let rows := f.rowsFor lib
  { f with rows := rows, fresh := true, danceCounts := f.tally lib rows }

end Ballroom.SongFilter
