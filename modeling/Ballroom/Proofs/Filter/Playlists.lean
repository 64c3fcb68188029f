import Ballroom.Proofs.Filter.Conditions
import Ballroom.Proofs.Filter.Rows

/-!
# Filters with a playlist

A playlist in effect decides alone what a run shows: the songs of its list that are on record,
in the order of the list (`Plays`), whatever the other slots and the order of the filter are.
A playlist that is not in effect makes no difference: the run shows what it shows with an empty
playlist slot.  In neither case does anything of an earlier run show (`process_of_reachable`).
-/

namespace Ballroom.SongFilter

variable {σ : Type} {f g : SongFilter} {lib : Library σ} {playlist : Playlist}

/-! ### Playlists in effect -/

/-- The songs of the playlist take the place of the songs that the filter accepts. -/
structure InEffect (f : SongFilter) (playlist : Playlist) : Prop where
  armed : f.isArmed .playlist = true
  /-- The playlist is found under the name in the slot. -/
  found : ∃ name source, (f.slot .playlist).value = .text (some name) ∧
    f.playlists? = some source ∧ source name = .ok (some playlist)
  /-- It is neither a sequence of dances nor made by rules. -/
  songList : playlist.kind = .songList

/-- A filter plays a song list if and only if that is in effect. -/
theorem songList?_eq_some_iff : f.songList? = some playlist ↔ f.InEffect playlist := by
  unfold songList?
  constructor
  · intro hsome
    split at hsome
    · rename_i name source hname hsource
      split at hsome
      · rename_i found hfound
        rw [Option.ite_none_right_eq_some] at hsome
        obtain ⟨hkind, hsame⟩ := hsome
        obtain rfl := Option.some.inj hsame
        obtain ⟨harmed, hvalue⟩ := armedText?_eq_some_iff.1 hname
        exact ⟨harmed, ⟨name, source, hvalue, hsource, hfound⟩, of_decide_eq_true hkind⟩
      · cases hsome
    · cases hsome
  · intro h
    -- The slot is armed, the source is asked, and what it has found is a song list.
    obtain ⟨name, source, hvalue, hsource, hfound⟩ := h.found
    rw [armedText?_eq_some_iff.2 ⟨h.armed, hvalue⟩, hsource]
    simp [hfound, Playlist.isSongList, h.songList]

/-- No playlist is in effect if and only if the filter looks at the songs itself. -/
theorem songList?_eq_none_iff : f.songList? = none ↔ ∀ playlist, ¬f.InEffect playlist := by
  simp only [Option.eq_none_iff_forall_ne_some, ne_eq, songList?_eq_some_iff]

/-- Which playlist is in effect is a matter of the source and of the playlist slot. -/
theorem InEffect.congr (hplaylists : f.playlists? = g.playlists?)
    (hslot : f.slot .playlist = g.slot .playlist) (h : f.InEffect playlist) :
    g.InEffect playlist := by
  refine ⟨?_, ?_, h.songList⟩
  · have harmed : (f.slot .playlist).armed = true := h.armed
    rwa [hslot] at harmed
  · rw [← hplaylists, ← hslot]
    exact h.found

/-- A filter with an empty playlist slot has no playlist in effect. -/
theorem songList?_clear (f : SongFilter) : (f.clear .playlist).songList? = none := by
  rw [songList?_eq_none_iff]
  intro playlist h
  have harmed : ((f.clear .playlist).slot .playlist).armed = true := h.armed
  cases harmed

/-! ### The rows of a playlist -/

/-- The rows of a list of paths: the indices of the songs on record that have them, one for
each time that a path is listed.  A path that no song on record has is passed over, even if a
temporary song has it. -/
inductive Plays (lib : Library σ) : List String → List Int → Prop where
  | nil : Plays lib [] []
  | onRecord {path : String} {paths : List String} {rows : List Int} {i : Nat} {song : Song}
      (hsong : lib.songs[i]? = some song) (hpath : song.path? = some path)
      (hrest : Plays lib paths rows) : Plays lib (path :: paths) ((i : Int) :: rows)
  | passedOver {path : String} {paths : List String} {rows : List Int}
      (habsent : ∀ song ∈ lib.songs, song.path? ≠ some path)
      (hrest : Plays lib paths rows) : Plays lib (path :: paths) rows

/-- The songs on record that have the paths of a list are its rows, because each of them
carries its own place as its index. -/
theorem plays_filterMap (h : Library.Consistent lib) (paths : List String) :
    Plays lib paths (paths.filterMap fun path => (lib.getByPath? path).bind (·.index?)) := by
  induction paths with
  | nil => exact .nil
  | cons path paths ih =>
    cases hfound : lib.getByPath? path with
    | none =>
      rw [List.filterMap_cons_none (by rw [hfound]; rfl)]
      -- A song on record that has the path would have been found.
      refine .passedOver (fun song hmem hpath => ?_) ih
      obtain ⟨i, hsong⟩ := Array.getElem?_of_mem hmem
      cases hfound.symm.trans (h.getByPath?.2 ⟨hpath, i, hsong⟩)
    | some song =>
      obtain ⟨hpath, i, hsong⟩ := h.getByPath?.1 hfound
      have hindex : song.index? = some (i : Int) := (h.onRecord i song hsong).index
      -- The song that was found carries its own place.
      rw [List.filterMap_cons_some (by rw [hfound]; exact hindex)]
      exact .onRecord hsong hpath ih

/-- A list of paths has one list of rows, because no two songs on record have one path. -/
theorem Plays.unique (h : Library.Consistent lib) {paths : List String} {rows rows' : List Int}
    (hrows : Plays lib paths rows) (hrows' : Plays lib paths rows') : rows = rows' := by
  induction hrows generalizing rows' with
  | nil =>
    cases hrows'
    rfl
  | @onRecord path _ _ i song hsong hpath _ ih =>
    cases hrows' with
    | @onRecord _ _ _ j other hother hpath' hrest =>
      -- A path leads to one place.
      have hi := (h.byPath path i).2 ⟨song, hsong, hpath⟩
      have hj := (h.byPath path j).2 ⟨other, hother, hpath'⟩
      obtain rfl := Option.some.inj (hi.symm.trans hj)
      rw [ih hrest]
    -- A path cannot be on record and passed over at once.
    | passedOver habsent _ => exact absurd hpath (habsent song (Array.mem_of_getElem? hsong))
  | passedOver habsent _ ih =>
    cases hrows' with
    | onRecord hother hpath' _ =>
      exact absurd hpath' (habsent _ (Array.mem_of_getElem? hother))
    | passedOver _ hrest => exact ih hrest

/-! ### Runs -/

/-- What a run shows whose rows are those of a playlist. -/
structure Played (lib : Library σ) (playlist : Playlist) (rows : List Int)
    (run : SongFilter) : Prop where
  plays : Plays lib playlist.songs rows
  count : run.count = rows.length
  row : ∀ position, run.row? position = rows[position]?
  danceCounts_size : run.danceCounts.size = run.tables.size .dance
  danceCounts : ∀ d < run.tables.size .dance,
    run.danceCounts[d]? = some (rows.countP (isOfDance lib d))

/-- A filter with what some earlier run has left in it. -/
def leftWith (f : SongFilter) (rows : List Int) (fresh : Bool) (danceCounts : Array Nat) :
    SongFilter :=
  { f with rows := rows, fresh := fresh, danceCounts := danceCounts }

/-- A run shows what it shows with an empty playlist slot, whatever an earlier run has left. -/
def RunsAsCleared (f : SongFilter) (lib : Library σ) : Prop :=
  ∀ (rows : List Int) (fresh : Bool) (danceCounts : Array Nat),
    (f.process lib).Shows (((f.clear .playlist).leftWith rows fresh danceCounts).process lib)

/-- Runs of filters with the same table of dances and the same rows show the same. -/
theorem shows_process (htables : f.tables = g.tables) (hrows : f.rowsFor lib = g.rowsFor lib) :
    (f.process lib).Shows (g.process lib) where
  count := congrArg List.length hrows
  rows position := congrArg (·[position]?) hrows
  danceCounts := by
    show f.tally lib (f.rowsFor lib) = g.tally lib (g.rowsFor lib)
    rw [hrows, tally, tally, htables]

/-- With a song list in effect its songs on record are the rows. -/
theorem InEffect.rowsFor (h : f.InEffect playlist) :
    f.rowsFor lib = playlistRows lib playlist := by
  rw [SongFilter.rowsFor, songList?_eq_some_iff.2 h]

/-- A playlist in effect is what a run over a consistent library shows. -/
theorem InEffect.played (hlib : Library.Consistent lib) (h : f.InEffect playlist) :
    Played lib playlist (playlistRows lib playlist) (f.process lib) := by
  have hrows : (f.process lib).rows = playlistRows lib playlist := h.rowsFor
  have hcounts : (f.process lib).danceCounts = f.tally lib (playlistRows lib playlist) :=
    congrArg (f.tally lib) hrows
  -- Count, rows and tally of the filter are those of the list.
  refine ⟨plays_filterMap hlib playlist.songs, ?_, ?_, ?_, ?_⟩
  · exact congrArg List.length hrows
  · exact fun position => congrArg (·[position]?) hrows
  · rw [hcounts]
    exact f.size_tally lib _
  · intro d hd
    rw [hcounts]
    exact f.getElem?_tally lib _ hd

/-- Without a playlist in effect the playlist slot makes no difference. -/
theorem runsAsCleared_of_none (hlist : f.songList? = none) : f.RunsAsCleared lib := by
  intro rows fresh danceCounts
  refine shows_process (g := (f.clear .playlist).leftWith rows fresh danceCounts) rfl ?_
  have hcleared : ((f.clear .playlist).leftWith rows fresh danceCounts).songList? = none :=
    f.songList?_clear
  rw [rowsFor, rowsFor, hlist, hcleared]
  -- No condition on songs looks at the playlist slot, and none looks at what a run has left.
  rfl

/-- Of two filters with the same tables and the same playlist, the runs over a library in any
state that it reaches show the same if the playlist is in effect, namely its songs on record.
Otherwise each of them runs as if it had no playlist. -/
theorem process_of_reachable {ω : Type} [RecordStore σ ω] {audio : Library.AudioCheck ω}
    {tables : Tables} {others : ω → ω → Prop} {w : ω}
    (h : Library.Reachable audio tables Library.CountsWithin others lib w)
    (htables : f.tables = g.tables) (hplaylists : f.playlists? = g.playlists?)
    (hslot : f.slot .playlist = g.slot .playlist) :
    (∀ playlist, f.InEffect playlist →
      (f.process lib).Shows (g.process lib) ∧
        ∃ rows, Played lib playlist rows (f.process lib)) ∧
      ((∀ playlist, ¬f.InEffect playlist) → f.RunsAsCleared lib ∧ g.RunsAsCleared lib) := by
  refine ⟨fun playlist hf => ⟨shows_process htables ?_, _, hf.played h.consistent⟩,
    fun hnone => ⟨?_, ?_⟩⟩
  · -- The playlist is in effect for the other filter as well, and rows are all that may
    -- differ.
    rw [hf.rowsFor, (hf.congr hplaylists hslot).rowsFor]
  · exact runsAsCleared_of_none (songList?_eq_none_iff.2 hnone)
  · refine runsAsCleared_of_none (songList?_eq_none_iff.2 fun playlist hg => ?_)
    exact hnone playlist (hg.congr hplaylists.symm hslot.symm)

/-- A playlist that names a song twice and one that is not on record, and one of dances. -/
private def catalogue : PlaylistCatalogue where
  playlists :=
    [{ name := "Evening", kind := .songList, songs := ["b.mp3", "c.mp3", "a.mp3", "b.mp3"] },
      { name := "Medley", kind := .sequence, songs := ["a.mp3"] }]

/-- A filter with a playlist and with nothing else. -/
private def playing (name : String) : SongFilter :=
  (new .standard (some catalogue.source)).put .playlist (.text (some name))

/-- The same, but in the order of titles, only with one dance and with rows of earlier. -/
private def playingWaltzes (name : String) : SongFilter :=
  (((playing name).put .dance (.number 0)).setSort "T").leftWith [7] true #[]

/-- The song list of the evening is in effect. -/
private theorem inEffect_playing :
    (playing "Evening").InEffect
      { name := "Evening", kind := .songList, songs := ["b.mp3", "c.mp3", "a.mp3", "b.mp3"] } :=
  ⟨rfl, ⟨"Evening", catalogue.source, rfl, rfl, rfl⟩, rfl⟩

/-- A medley is no song list, and no other playlist has its name. -/
private theorem not_inEffect_playing (playlist : Playlist) :
    ¬(playing "Medley").InEffect playlist := by
  intro h
  obtain ⟨name, source, hname, hsource, hfound⟩ := h.found
  have hname : SlotValue.text (some "Medley") = .text (some name) := hname
  obtain rfl := Option.some.inj (SlotValue.text.inj hname)
  obtain rfl := Option.some.inj hsource
  obtain rfl := Option.some.inj (Except.ok.inj hfound)
  exact absurd h.songList (by decide)

/-- The songs of a playlist are shown also by a filter for waltzes; a medley is not shown. -/
theorem process_of_reachable_dances :
    ∃ lib w,
      Library.load (fun _ _ => .ok true) Library.danceHandle .standard Library.danceStore =
        .ok lib w ∧
      ((playing "Evening").process lib).Shows ((playingWaltzes "Evening").process lib) ∧
      ((playing "Evening").process lib).rows = [1, 0, 1] ∧
      (playingWaltzes "Medley").RunsAsCleared lib := by
  obtain ⟨lib, calls, hload, _, _, hsongs⟩ := Library.load_danceStore
  have hreachable : Library.Reachable (fun _ _ => .ok true) .standard Library.CountsWithin
      (fun _ _ => True) lib { Library.danceStore with calls } :=
    .load (Library.countsWithin_memory (by decide)) hload
  obtain ⟨hshown, _⟩ := process_of_reachable (f := playing "Evening")
    (g := playingWaltzes "Evening") hreachable rfl rfl rfl
  obtain ⟨hsame, rows, hplayed⟩ := hshown _ inEffect_playing
  obtain ⟨_, hcleared⟩ := process_of_reachable (f := playing "Medley")
    (g := playingWaltzes "Medley") hreachable rfl rfl rfl
  refine ⟨lib, _, hload, hsame, ?_, (hcleared not_inEffect_playing).2⟩
  -- The rows are known by the list of paths, whatever the filter does to find them.
  have hfirst : lib.songs[0]? = some _ := hsongs 0
  have hsecond : lib.songs[1]? = some _ := hsongs 1
  have habsent : ∀ song ∈ lib.songs, song.path? ≠ some "c.mp3" := by
    rw [Library.songs_of_dances hsongs]
    decide +kernel
  -- The second song, one that is missing, the first and the second again.
  have hevening : Plays lib ["b.mp3", "c.mp3", "a.mp3", "b.mp3"] [1, 0, 1] :=
    .onRecord hsecond (by decide +kernel) <| .passedOver habsent <|
      .onRecord hfirst (by decide +kernel) <| .onRecord hsecond (by decide +kernel) .nil
  have hrows := hplayed.plays.unique hreachable.consistent hevening
  subst hrows
  apply List.ext_getElem?
  exact hplayed.row

end Ballroom.SongFilter
