/-! # Playlists

A playlist as the filter sees it: its kind and the paths of its songs.  A source finds
playlists by name; a catalogue is a source that holds them in memory. -/

namespace Ballroom

/-- What a playlist consists of. -/
inductive PlaylistKind where
  /-- Given songs in a given order. -/
  | songList
  /-- A sequence of dances, for which songs are chosen. -/
  | sequence
  /-- Rules, by which songs are chosen. -/
  | automatic
  deriving DecidableEq, Repr

/-- A playlist. -/
structure Playlist where
  name : String
  kind : PlaylistKind
  /-- The paths of the songs, in order. -/
  songs : List String := []
  deriving DecidableEq, Repr

/-- Whether a playlist gives its songs itself. -/
def Playlist.isSongList (p : Playlist) : Bool := p.kind = .songList

/-- The reason for which a playlist that exists cannot be read. -/
structure PlaylistFault where
  message : String

/-- Where playlists are looked up by name: a source may know a playlist, not know it, or
fail to read it. -/
abbrev PlaylistSource := String → Except PlaylistFault (Option Playlist)

/-- Playlists by name, each name once. -/
structure PlaylistCatalogue where
  playlists : List Playlist := []

namespace PlaylistCatalogue

/-- The playlist of a name. -/
def find? (c : PlaylistCatalogue) (name : String) : Option Playlist :=
  c.playlists.find? fun p => p.name == name

/-- Adds a playlist, in place of the one of its name. -/
def insert (c : PlaylistCatalogue) (p : Playlist) : PlaylistCatalogue :=
  ⟨p :: c.playlists.filter fun q => q.name != p.name⟩

/-- The number of playlists. -/
def size (c : PlaylistCatalogue) : Nat := c.playlists.length

/-- The catalogue as a source. -/
def source (c : PlaylistCatalogue) : PlaylistSource := fun name => .ok (c.find? name)

end PlaylistCatalogue

end Ballroom
