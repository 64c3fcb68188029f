import Ballroom.Tag

/-! # Tables

The tables of dances, ratings, levels, statuses, genres and favourites of a library.
Records name the entries of a table, songs in memory hold their places in it. -/

namespace Ballroom

/-- Bounds of the beats per minute, both included; a zero on either side means none. -/
structure BpmRange where
  low : Nat
  high : Nat
  deriving DecidableEq, Repr, Inhabited

namespace BpmRange

/-- The range that bounds nothing. -/
def none : BpmRange := ⟨0, 0⟩

/-- Whether the range bounds anything. -/
def isActive (r : BpmRange) : Bool := 0 < r.low && 0 < r.high

/-- Whether a number of beats lies within the bounds. -/
def contains (r : BpmRange) (bpm : Int64) : Bool := r.low ≤ bpm.toInt && bpm.toInt ≤ r.high

end BpmRange

/-- A dance and its usual speed. -/
structure Dance where
  name : String
  bpm : BpmRange := .none
  deriving DecidableEq, Repr

/-- A rating; one of weight zero is left out of every filtered selection. -/
structure Rating where
  name : String
  weight : Nat
  deriving DecidableEq, Repr

/-- A level; one of weight zero is left out of every filtered selection. -/
structure Level where
  name : String
  weight : Nat
  deriving DecidableEq, Repr

/-- A status and whether songs that have it may be played. -/
structure Status where
  name : String
  playable : Bool
  deriving DecidableEq, Repr

/-- A genre. -/
structure Genre where
  name : String
  deriving DecidableEq, Repr

/-- A favourite mark. -/
structure Favorite where
  name : String
  deriving DecidableEq, Repr

/-- The tables of a library. -/
structure Tables where
  dances : List Dance
  ratings : List Rating
  levels : List Level
  statuses : List Status
  genres : List Genre
  favorites : List Favorite
  deriving DecidableEq, Repr

/-- The place in a table that a number stands for: none if it is negative. -/
def place? (n : Int64) : Option Nat := if 0 ≤ n.toInt then some n.toInt.toNat else none

/-- The number that stands for a place: none if it has more than 64 bits. -/
def placeNumber? (i : Nat) : Option Int64 :=
  if (i : Int) ≤ Int64.maxValue.toInt then some (Int64.ofInt i) else none

namespace Tables

/-- The names of a table, in order. -/
def names (t : Tables) : TableKind → List String
  | .dance => t.dances.map (·.name)
  | .level => t.levels.map (·.name)
  | .rating => t.ratings.map (·.name)
  | .genre => t.genres.map (·.name)
  | .status => t.statuses.map (·.name)
  | .favorite => t.favorites.map (·.name)

/-- The number of entries of a table. -/
def size (t : Tables) (kind : TableKind) : Nat := (t.names kind).length

/-- The name of an entry. -/
def name? (t : Tables) (kind : TableKind) (n : Int64) : Option String :=
  (place? n).bind fun i => (t.names kind)[i]?

/-- The place of the first entry with the given name, whatever the case of its letters. -/
def index? (t : Tables) (kind : TableKind) (name : String) : Option Int64 :=
  ((t.names kind).findIdx? fun entry => Text.sameName entry name).bind placeNumber?

/-- The dance at a place. -/
def dance? (t : Tables) (n : Int64) : Option Dance := (place? n).bind fun i => t.dances[i]?

/-- The rating at a place. -/
def rating? (t : Tables) (n : Int64) : Option Rating := (place? n).bind fun i => t.ratings[i]?

/-- The level at a place. -/
def level? (t : Tables) (n : Int64) : Option Level := (place? n).bind fun i => t.levels[i]?

/-- The status at a place. -/
def status? (t : Tables) (n : Int64) : Option Status := (place? n).bind fun i => t.statuses[i]?

/-- The status that is recorded for a song without one. -/
def defaultStatus (t : Tables) : String :=
  match t.statuses with
  | [] => "New"
  | s :: _ => s.name

/-- The tables of the ballroom dances. -/
def standard : Tables where
  dances :=
    [⟨"Waltz", ⟨84, 90⟩⟩, ⟨"Tango", ⟨124, 132⟩⟩, ⟨"Viennese Waltz", ⟨174, 180⟩⟩,
      ⟨"Foxtrot", ⟨112, 120⟩⟩, ⟨"Quickstep", ⟨200, 208⟩⟩, ⟨"Cha Cha", ⟨120, 128⟩⟩,
      ⟨"Rumba", ⟨100, 108⟩⟩, ⟨"Samba", ⟨96, 104⟩⟩, ⟨"Jive", ⟨168, 176⟩⟩,
      ⟨"Paso Doble", ⟨120, 124⟩⟩, ⟨"Bolero", ⟨96, 104⟩⟩, ⟨"West Coast Swing", ⟨0, 0⟩⟩]
  ratings :=
    [⟨"Unrated", 1⟩, ⟨"Bad", 0⟩, ⟨"Good", 20⟩, ⟨"Great", 40⟩, ⟨"Excellent", 60⟩]
  levels := [⟨"Easy", 10⟩, ⟨"Normal", 20⟩, ⟨"Advanced", 5⟩]
  statuses := [⟨"New", true⟩, ⟨"Complete", true⟩, ⟨"Needs Fixing", false⟩]
  genres := [⟨"Ballroom"⟩, ⟨"Classical"⟩, ⟨"Jazz"⟩, ⟨"Latin"⟩, ⟨"Pop"⟩, ⟨"Rock"⟩]
  favorites := [⟨""⟩, ⟨"Blue Star"⟩, ⟨"Red Heart"⟩, ⟨"Purple Heart"⟩]

end Tables

end Ballroom
