import Ballroom.Library.Basic

/-! # Loading a library

`Library.load` looks at every slot of a store from the first to the last.  A slot gives a
song if it can be read and decoded, the audio file of the song is there, and no earlier
slot has given a song of the same path; the song takes the number of its slot, whatever
number the record carries.  Only a store that cannot be opened, counted or closed makes
loading fail. -/

namespace Ballroom.Library

variable {σ ω : Type}

/-- Whether an audio file is there, as a host finds out in its world. -/
abbrev AudioCheck (ω : Type) := ω → String → Except HostFault Bool

/-- Whether an audio file is known to be there. -/
def isThere (audio : AudioCheck ω) (w : ω) (path : String) : Bool :=
  match audio w path with
  | .ok found => found
  | .error _ => false

/-- The index of each path of songs in order. -/
def pathIndex (songs : List Song) : Std.HashMap String Nat :=
  songs.zipIdx.foldl (fun index (song, i) => match song.path? with
    | some path => index.insert path i
    | none => index) {}

/-- The order of songs by path. -/
def pathLE (a b : Song) : Bool :=
  (Text.compareBytes (a.path?.getD "") (b.path?.getD "")).isLE

/-- Takes the songs that were found into an empty library: in the order of their paths,
with their indices and counts. -/
def fill (lib : Library σ) (found : List Song) : Library σ :=
  let songs := (found.mergeSort pathLE).zipIdx.map fun (song, i) => song.withIndex i
  { lib with
    songs := songs.toArray
    byPath := pathIndex songs
    nextTemporary := songs.length
    danceCounts := found.foldl countIn lib.danceCounts }

variable [RecordStore σ ω]

/-- The song in a slot, unless the slot is empty or cannot be read or decoded. -/
def readSlot (tables : Tables) (number : Nat) : HandleStep σ ω (Option Song) := do
  match ← Step.attempt (StoreHandle.read number) with
  | .ok (some data) => return (Record.decode tables data).toOption
  | _ => return none

/-- The songs of the `left` slots from `number` on; `seen` are the paths found before. -/
def scan (audio : AudioCheck ω) (tables : Tables) (seen : Std.HashMap String Nat) :
    (left number : Nat) → HandleStep σ ω (List Song)
  | 0, _ => return []
  | left + 1, number => do
    let song? ← readSlot tables number
    let (_, w) ← get
    match song? with
    | none => scan audio tables seen left (number + 1)
    | some song =>
      -- A song that was read has a path, so that the default is never used.
      let path := song.path?.getD ""
      if isThere audio w path && !seen.contains path then
        let rest ← scan audio tables (seen.insert path number) left (number + 1)
        return song.setRecordNumber number :: rest
      else scan audio tables seen left (number + 1)

/-- The number of slots; a store that cannot be counted is closed. -/
def countOrClose : HandleStep σ ω Nat := do
  match ← Step.attempt StoreHandle.count with
  | .ok n => return n
  | .error fault =>
    -- The fault of the counting is the one to report.
    let _ ← Step.attempt StoreHandle.close
    Step.fail fault

/-- Looks at every slot of the store. -/
def scanStore (audio : AudioCheck ω) (tables : Tables) : HandleStep σ ω (List Song) := do
  StoreHandle.acquire
  let n ← countOrClose
  let songs ← scan audio tables {} n 1
  StoreHandle.close
  return songs

/-- Loads the library of a store.  A store that fails leaves no library. -/
def load (audio : AudioCheck ω) (handle : StoreHandle σ) (tables : Tables) :
    Step LibraryFault ω (Library σ) := fun w =>
  match scanStore audio tables (handle, w) with
  | .ok songs (handle, w) => .ok (fill (empty handle tables) songs) w
  | .error fault (_, w) => .error fault w

end Ballroom.Library
