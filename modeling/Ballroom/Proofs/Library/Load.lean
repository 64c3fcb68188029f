import Ballroom.Library.Load
import Ballroom.Proofs.Song
import Ballroom.Proofs.Step
import Ballroom.Proofs.Record.RoundTrip
import Ballroom.Proofs.Text.Bytes

/-!
# The songs that loading finds

A scan of the slots always comes to an end with songs of different paths, each under the
number of its slot (`scan_cases`); sorted by path they are in strict order, and `pathIndex`
leads from the path of each to its place.
-/

namespace Ballroom

namespace Library

variable {σ ω : Type}

/-! ### Lists in order -/

/-- What holds of all pairs of a list holds of what stands at two of its places. -/
theorem rel_of_pairwise {α : Type} {R : α → α → Prop} {l : List α} {a b : α} {i j : Nat}
    (h : l.Pairwise R) (hlt : i < j) (ha : l[i]? = some a) (hb : l[j]? = some b) : R a b := by
  obtain ⟨hi, rfl⟩ := List.getElem?_eq_some_iff.1 ha
  obtain ⟨hj, rfl⟩ := List.getElem?_eq_some_iff.1 hb
  exact List.pairwise_iff_getElem.1 h i j hi hj hlt

/-- Where all differ in something, what agrees in it stands at one place. -/
theorem eq_of_pairwise_ne {α β : Type} {f : α → β} {l : List α} {a b : α} {i j : Nat}
    (h : l.Pairwise fun a b => f a ≠ f b) (ha : l[i]? = some a) (hb : l[j]? = some b)
    (hsame : f a = f b) : i = j := by
  have hnodup : (l.map f).Nodup := List.pairwise_map.2 h
  obtain ⟨hi, _⟩ := List.getElem?_eq_some_iff.1 ha
  refine (List.getElem?_inj (by rwa [List.length_map]) hnodup).1 ?_
  rw [List.getElem?_map, List.getElem?_map, ha, hb, Option.map_some, Option.map_some, hsame]

/-! ### Scanning -/

/-- What a scan of the `left` slots from `first` on finds, apart from the paths `seen`. -/
structure Scanned (seen : Std.HashMap String Nat) (left first : Nat) (songs : List Song) :
    Prop where
  path : ∀ song ∈ songs, ∃ path, song.path? = some path ∧ path ≠ "" ∧ seen.contains path = false
  number : ∀ song ∈ songs, ∃ read n, song = Song.setRecordNumber read n ∧ first ≤ n ∧
    n < first + left
  lasting : ∀ song ∈ songs, song.temporary = false
  distinct : songs.Pairwise fun a b => a.path? ≠ b.path?
  length_le : songs.length ≤ left

/-- Without slots no song is found. -/
theorem scanned_nil (seen : Std.HashMap String Nat) (left first : Nat) :
    Scanned seen left first [] where
  path := by simp
  number := by simp
  lasting := by simp
  distinct := .nil
  length_le := Nat.zero_le _

/-- Passing over a slot loses nothing. -/
theorem Scanned.skip {seen : Std.HashMap String Nat} {left first : Nat} {songs : List Song}
    (h : Scanned seen left (first + 1) songs) : Scanned seen (left + 1) first songs where
  path := h.path
  number := by
    intro song hsong
    obtain ⟨read, n, hread, hfirst, hlast⟩ := h.number song hsong
    exact ⟨read, n, hread, by omega, by omega⟩
  lasting := h.lasting
  distinct := h.distinct
  length_le := Nat.le_succ_of_le h.length_le

/-- A song that is taken keeps its path from later slots. -/
theorem Scanned.take {seen : Std.HashMap String Nat} {left first : Nat} {songs : List Song}
    {song : Song} {path : String} (hpath : song.path? = some path) (hne : path ≠ "")
    (hnew : seen.contains path = false) (hlasting : song.temporary = false)
    (h : Scanned (seen.insert path first) left (first + 1) songs) :
    Scanned seen (left + 1) first (song.setRecordNumber first :: songs) where
  path := by
    intro other hother
    rcases List.mem_cons.1 hother with rfl | hother
    · exact ⟨path, by simpa using hpath, hne, hnew⟩
    · obtain ⟨p, hp, hpne, hcontains⟩ := h.path other hother
      rw [Std.HashMap.contains_insert, Bool.or_eq_false_iff] at hcontains
      -- What is new to the later slots is new to this one too.
      exact ⟨p, hp, hpne, hcontains.2⟩
  number := by
    intro other hother
    rcases List.mem_cons.1 hother with rfl | hother
    · exact ⟨song, first, rfl, Nat.le_refl _, by omega⟩
    · obtain ⟨read, n, hread, hfirst, hlast⟩ := h.number other hother
      exact ⟨read, n, hread, by omega, by omega⟩
  lasting := by
    intro other hother
    rcases List.mem_cons.1 hother with rfl | hother
    · exact hlasting
    · exact h.lasting other hother
  distinct := by
    refine List.Pairwise.cons ?_ h.distinct
    -- The path is noted, so that the songs of later slots have others.
    intro other hother heq
    obtain ⟨p, hp, _, hcontains⟩ := h.path other hother
    rw [Song.path?_setRecordNumber, hpath, hp, Option.some.injEq] at heq
    rw [heq, Std.HashMap.contains_insert_self] at hcontains
    exact absurd hcontains (by decide)
  length_le := Nat.succ_le_succ h.length_le

/-! ### Order and places -/

/-- Songs of different paths that are sorted by path are in strict order. -/
theorem Scanned.pairwise_mergeSort {seen : Std.HashMap String Nat} {left first : Nat}
    {songs : List Song} (h : Scanned seen left first songs) :
    (songs.mergeSort pathLE).Pairwise fun a b =>
      ∃ p q, a.path? = some p ∧ b.path? = some q ∧ Text.compareBytes p q = .lt := by
  have htrans : ∀ a b c : Song, pathLE a b → pathLE b c → pathLE a c :=
    fun a b c hab hbc => Text.compareBytes_isLE_trans hab hbc
  have htotal : ∀ a b : Song, pathLE a b || pathLE b a := by
    intro a b
    rw [Bool.or_eq_true]
    exact Text.compareBytes_isLE_total _ _
  have hsorted : (songs.mergeSort pathLE).Pairwise fun a b => pathLE a b :=
    List.pairwise_mergeSort htrans htotal songs
  have hdistinct : (songs.mergeSort pathLE).Pairwise fun a b => a.path? ≠ b.path? :=
    (List.mergeSort_perm songs pathLE).symm.pairwise h.distinct fun hab => Ne.symm hab
  -- Neighbours in order are not equal, as no path is there twice.
  refine (hsorted.and hdistinct).imp_of_mem ?_
  intro a b ha hb hab
  obtain ⟨p, hp, _⟩ := h.path a (List.mem_mergeSort.1 ha)
  obtain ⟨q, hq, _⟩ := h.path b (List.mem_mergeSort.1 hb)
  obtain ⟨hle, hne⟩ := hab
  rw [hp, hq] at hne
  simp only [pathLE, hp, hq, Option.getD_some] at hle
  exact ⟨p, q, hp, hq, Text.compareBytes_eq_lt hle fun heq => hne (by rw [heq])⟩

/-- Notes the place of a song under its path. -/
private abbrev notePlace (index : Std.HashMap String Nat) (entry : Song × Nat) :
    Std.HashMap String Nat :=
  match entry.1.path? with
  | some path => index.insert path entry.2
  | none => index

/-- Songs of other paths leave the place of a path alone. -/
private theorem getElem?_notePlace_of_ne {songs : List Song} {path : String}
    (h : ∀ song ∈ songs, song.path? ≠ some path) (index : Std.HashMap String Nat) (k : Nat) :
    ((songs.zipIdx k).foldl notePlace index)[path]? = index[path]? := by
  -- On the songs, wherever they begin and whatever was noted before.
  induction songs generalizing index k with
  | nil => rfl
  | cons song rest ih =>
    rw [List.zipIdx_cons, List.foldl_cons, ih fun other hother => h other (by simp [hother])]
    cases hpath : song.path? with
    | none => simp only [notePlace, hpath]
    | some p =>
      have hne : p ≠ path := by
        rintro rfl
        exact h song (by simp) hpath
      simp [notePlace, hpath, Std.HashMap.getElem?_insert, hne]

/-- Each of several songs of different paths is noted under its path. -/
private theorem getElem?_notePlace {songs : List Song} {path : String} {song : Song} {j : Nat}
    (hdistinct : songs.Pairwise fun a b => a.path? ≠ b.path?) (hsong : songs[j]? = some song)
    (hpath : song.path? = some path) (index : Std.HashMap String Nat) (k : Nat) :
    ((songs.zipIdx k).foldl notePlace index)[path]? = some (k + j) := by
  induction songs generalizing index k j with
  | nil => simp at hsong
  | cons head rest ih =>
    rw [List.pairwise_cons] at hdistinct
    rw [List.zipIdx_cons, List.foldl_cons]
    cases j with
    | zero =>
      obtain rfl : head = song := by simpa using hsong
      -- What follows has other paths, so that the first note stays.
      have hrest : ∀ other ∈ rest, other.path? ≠ some path := by
        intro other hother heq
        exact hdistinct.1 other hother (hpath.trans heq.symm)
      rw [getElem?_notePlace_of_ne hrest]
      simp [notePlace, hpath]
    | succ j =>
      rw [ih hdistinct.2 (by simpa using hsong)]
      congr 1
      omega

/-- The index of songs of different paths leads from each path to the song that has it. -/
theorem getElem?_pathIndex {songs : List Song}
    (hdistinct : songs.Pairwise fun a b => a.path? ≠ b.path?) (path : String) (i : Nat) :
    (pathIndex songs)[path]? = some i ↔
      ∃ song, songs[i]? = some song ∧ song.path? = some path := by
  have hindex : pathIndex songs = (songs.zipIdx 0).foldl notePlace {} := rfl
  rw [hindex]
  constructor
  · intro hi
    -- A path that no song has is not noted at all.
    by_cases hmem : ∃ song ∈ songs, song.path? = some path
    · obtain ⟨song, hsong, hpath⟩ := hmem
      obtain ⟨j, hj⟩ := List.getElem?_of_mem hsong
      rw [getElem?_notePlace hdistinct hj hpath, Nat.zero_add, Option.some.injEq] at hi
      exact ⟨song, hi ▸ hj, hpath⟩
    · have hne : ∀ song ∈ songs, song.path? ≠ some path :=
        fun song hsong hpath => hmem ⟨song, hsong, hpath⟩
      rw [getElem?_notePlace_of_ne hne, Std.HashMap.getElem?_empty] at hi
      cases hi
  · rintro ⟨song, hsong, hpath⟩
    rw [getElem?_notePlace hdistinct hsong hpath, Nat.zero_add]

variable [RecordStore σ ω]

/-! ### Runs of the scan -/

/-- Reading a slot never fails, and a song from it was decoded; it may end the program. -/
theorem readSlot_cases (tables : Tables) (number : Nat) (s : StoreHandle σ × ω) :
    (∃ song? t, readSlot tables number s = .ok song? t ∧
      ∀ song, song? = some song → ∃ data, Record.decode tables data = .ok song) ∨
    ∃ why t, readSlot tables number s = .error (.panic why) t := by
  unfold readSlot
  simp only [Step.bind_apply, Step.attempt_apply]
  rcases StoreHandle.read number s with ⟨data?, t⟩ | ⟨fault | why, t⟩
  · left
    cases data? with
    | none => exact ⟨none, t, rfl, by simp⟩
    | some data =>
      -- A record that cannot be decoded is passed over.
      refine ⟨(Record.decode tables data).toOption, t, rfl, ?_⟩
      intro song hsong
      cases hdecode : Record.decode tables data with
      | error fault => rw [hdecode] at hsong; cases hsong
      | ok read =>
        rw [hdecode] at hsong
        obtain rfl := Option.some.inj hsong
        exact ⟨data, hdecode⟩
  · -- So is a slot that cannot be read.
    exact .inl ⟨none, t, rfl, by simp⟩
  · exact .inr ⟨why, t, rfl⟩

/-- A scan never fails, though it may end the program. -/
theorem scan_cases (audio : AudioCheck ω) (tables : Tables) (seen : Std.HashMap String Nat)
    (left first : Nat) (s : StoreHandle σ × ω) :
    (∃ songs t, scan audio tables seen left first s = .ok songs t ∧
      Scanned seen left first songs) ∨
    ∃ why t, scan audio tables seen left first s = .error (.panic why) t := by
  induction left generalizing seen first s with
  | zero => exact .inl ⟨[], s, rfl, scanned_nil seen 0 first⟩
  | succ left ih =>
    obtain ⟨song?, t, hread, hdecoded⟩ | ⟨why, t, hread⟩ := readSlot_cases tables first s
    · simp only [scan, Step.bind_apply, Step.get_apply, hread]
      cases song? with
      | none =>
        -- A slot that holds no song is passed over.
        obtain ⟨songs, u, hscan, hscanned⟩ | hpanic := ih seen (first + 1) t
        · exact .inl ⟨songs, u, hscan, hscanned.skip⟩
        · exact .inr hpanic
      | some song =>
        obtain ⟨data, hdecode⟩ := hdecoded song rfl
        obtain ⟨⟨path, hpath, hne⟩, _, hlasting⟩ := Record.path_of_decode hdecode
        simp only [hpath, Option.getD_some, Step.ite_apply]
        split
        -- The song is taken if its file is there and its path is new.
        · rename_i htaken
          rw [Bool.and_eq_true, Bool.not_eq_true'] at htaken
          obtain ⟨songs, u, hscan, hscanned⟩ | ⟨why, u, hscan⟩ :=
            ih (seen.insert path first) (first + 1) t
          · refine .inl ⟨song.setRecordNumber first :: songs, u, ?_,
              hscanned.take hpath hne htaken.2 hlasting⟩
            simp only [Step.bind_apply, hscan, Step.pure_apply]
          · exact .inr ⟨why, u, by simp only [Step.bind_apply, hscan]⟩
        · obtain ⟨songs, u, hscan, hscanned⟩ | hpanic := ih seen (first + 1) t
          · exact .inl ⟨songs, u, hscan, hscanned.skip⟩
          · exact .inr hpanic
    · exact .inr ⟨why, t, by simp only [scan, Step.bind_apply, hread]⟩

/-- What a loaded library was filled with: the songs of all slots that were counted. -/
theorem load_eq_fill {audio : AudioCheck ω} {handle : StoreHandle σ} {tables : Tables}
    {w w' : ω} {lib : Library σ} (h : load audio handle tables w = .ok lib w') :
    ∃ songs opened n counted scanned closed,
      StoreHandle.acquire (handle, w) = .ok () opened ∧
      StoreHandle.count opened = .ok n counted ∧
      scan audio tables {} n 1 counted = .ok songs scanned ∧
      StoreHandle.close scanned = .ok () (closed, w') ∧
      Scanned {} n 1 songs ∧ lib = fill (empty closed tables) songs := by
  unfold load at h
  cases hscan : scanStore audio tables (handle, w) with
  | error stop t => rw [hscan] at h; cases h
  | ok songs t =>
    rw [hscan] at h
    obtain ⟨rfl, rfl⟩ := EStateM.Result.ok.inj h
    simp only [scanStore, countOrClose, Step.bind_apply, Step.attempt_apply] at hscan
    cases hopen : StoreHandle.acquire (handle, w) with
    | error stop t => rw [hopen] at hscan; cases hscan
    | ok a opened =>
      rw [hopen] at hscan
      dsimp only at hscan
      rcases hcount : StoreHandle.count opened with ⟨n, counted⟩ | ⟨fault | why, counted⟩
      · rw [hcount] at hscan
        simp only [Step.pure_apply] at hscan
        obtain ⟨found, u, hfound, hscanned⟩ | ⟨why, u, hfound⟩ :=
          scan_cases audio tables {} n 1 counted
        · simp only [hfound] at hscan
          cases hclose : StoreHandle.close u with
          | error stop v => simp [hclose] at hscan
          | ok b v =>
            rw [hclose] at hscan
            obtain ⟨rfl, rfl⟩ := EStateM.Result.ok.inj hscan
            exact ⟨found, opened, n, counted, u, v.1, rfl, hcount, hfound, hclose, hscanned, rfl⟩
        · -- The program has ended during the scan.
          simp only [hfound] at hscan
          cases hscan
      · -- The store is closed, and the fault of the counting stays.
        rw [hcount] at hscan
        simp only [Step.bind_apply, Step.attempt_apply, Step.fail_apply] at hscan
        rcases hclose : StoreHandle.close counted with ⟨_, _⟩ | ⟨_ | _, _⟩ <;>
          simp [hclose] at hscan
      · rw [hcount] at hscan
        cases hscan

end Library

end Ballroom
