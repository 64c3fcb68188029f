import Ballroom.Proofs.Library.Session
import Ballroom.Proofs.Library.Load
import Ballroom.Proofs.Library.DanceCounts

/-!
# A library keeps its parts in step

`Consistent` says how the songs, the index of paths, the counts and the temporary songs of
a library belong together.  Loading establishes it and every request keeps it.
-/

namespace Ballroom.Library

variable {σ ω : Type}

/-- A song on record at place `i`. -/
structure OnRecord (i : Nat) (song : Song) : Prop where
  path : ∃ path, song.path? = some path ∧ path ≠ ""
  index : song.index? = some (i : Int)
  number : ∃ n, song.recordNumber? = some n
  lasting : song.temporary = false

/-- The parts of a library belong together: songs on record stand in the order of their
paths, which are where `byPath` says, temporary songs come after them, and every dance of
the table is counted. -/
structure Consistent (lib : Library σ) : Prop where
  onRecord : ∀ (i : Nat) (song : Song), lib.songs[i]? = some song → OnRecord i song
  ordered : ∀ (i j : Nat) (a b : Song) (p q : String), i < j →
    lib.songs[i]? = some a → lib.songs[j]? = some b → a.path? = some p → b.path? = some q →
    Text.compareBytes p q = .lt
  byPath : ∀ (path : String) (i : Nat), lib.byPath[path]? = some i ↔
    ∃ song : Song, lib.songs[i]? = some song ∧ song.path? = some path
  temporary : ∀ (index : Int) (song : Song), lib.temporary[index]? = some song →
    (lib.songs.size : Int) ≤ index ∧ index < lib.nextTemporary ∧ song.index? = some index ∧
      song.temporary
  counts : ∀ d < lib.tables.size .dance,
    lib.danceCounts[d]? = some (lib.songs.toList.countP (hasDance d))
  counts_size : lib.danceCounts.size = lib.tables.size .dance
  /-- There are no more songs than record numbers, so that no count runs over. -/
  size_le : lib.songs.size ≤ maxRecordNumber

/-! ### Paths and places -/

/-- A path leads to the song that has it. -/
theorem Consistent.getByPath? {lib : Library σ} (h : Consistent lib) {path : String}
    {song : Song} :
    lib.getByPath? path = some song ↔
      song.path? = some path ∧ ∃ i : Nat, lib.songs[i]? = some song := by
  simp only [Library.getByPath?, Option.bind_eq_some_iff]
  constructor
  · rintro ⟨i, hi, hsong⟩
    obtain ⟨other, hother, hpath⟩ := (h.byPath path i).1 hi
    rw [hsong, Option.some.injEq] at hother
    exact ⟨hother ▸ hpath, i, hsong⟩
  · rintro ⟨hpath, i, hsong⟩
    exact ⟨i, (h.byPath path i).2 ⟨song, hsong, hpath⟩, hsong⟩

/-! ### Replacing a song -/

/-- A song that takes the place of one with the same path leaves every path where it is. -/
theorem replace_of_path_eq {lib : Library σ} {i : Nat} {old song : Song}
    (hold : lib.songs[i]? = some old) (hpath : song.path? = old.path?) :
    lib.replace i song =
      { lib with
        songs := lib.songs.setIfInBounds i song
        danceCounts := countIn (countOut lib.danceCounts old) song } := by
  simp only [replace, hold, hpath, if_true]

/-- Apart from the song at one place there is room for one more in every count. -/
private theorem countP_sub_lt_length {songs : List Song} {i : Nat} {old : Song}
    (p : Song → Bool) (hold : songs[i]? = some old) :
    songs.countP p - (if p old then 1 else 0) < songs.length := by
  obtain ⟨hi, rfl⟩ := List.getElem?_eq_some_iff.1 hold
  have hlength := List.length_eq_countP_add_countP p (l := songs)
  have hnot := List.boole_getElem_le_countP (p := fun song => ¬p song) hi
  -- The song at the place is counted and taken off, or it is not counted at all.
  cases hp : p songs[i] with
  | true =>
    simp only [if_true]
    omega
  | false =>
    simp only [hp, Bool.false_eq_true, not_false_eq_true, decide_true, if_true] at hnot
    simp only [Bool.false_eq_true, if_false]
    omega

/-- What stands at a place after a song has been put at another one's, or at the same. -/
private theorem getElem?_replaced {songs : Array Song} {i j : Nat} {song new : Song}
    (hnew : (songs.setIfInBounds i song)[j]? = some new) :
    (j = i ∧ new = song) ∨ songs[j]? = some new := by
  rw [Array.getElem?_setIfInBounds] at hnew
  split at hnew
  · rename_i hij
    split at hnew
    · exact .inl ⟨hij.symm, (Option.some.inj hnew).symm⟩
    · cases hnew
  · exact .inr hnew

/-- A song on record may be replaced by another one with the same path. -/
theorem Consistent.replace {lib : Library σ} (h : Consistent lib) {i : Nat} {old song : Song}
    (hold : lib.songs[i]? = some old) (hpath : song.path? = old.path?)
    (hindex : song.index? = some (i : Int)) (hnumber : ∃ n, song.recordNumber? = some n)
    (hlasting : song.temporary = false) : Consistent (lib.replace i song) := by
  rw [replace_of_path_eq hold hpath]
  have hi : i < lib.songs.size := (Array.getElem?_eq_some_iff.1 hold).1
  -- What stands at a place afterwards has the path of what stood there before.
  have hbefore : ∀ (j : Nat) (new : Song), (lib.songs.setIfInBounds i song)[j]? = some new →
      ∃ before : Song, lib.songs[j]? = some before ∧ new.path? = before.path? := by
    intro j new hnew
    rcases getElem?_replaced hnew with ⟨rfl, rfl⟩ | hsame
    · exact ⟨old, hold, hpath⟩
    · exact ⟨new, hsame, rfl⟩
  constructor
  case onRecord =>
    intro j new hnew
    rcases getElem?_replaced hnew with ⟨rfl, rfl⟩ | hsame
    · exact ⟨hpath ▸ (h.onRecord j old hold).path, hindex, hnumber, hlasting⟩
    · exact h.onRecord j new hsame
  case ordered =>
    intro j k a b p q hjk ha hb hp hq
    obtain ⟨a', ha', hpa⟩ := hbefore j a ha
    obtain ⟨b', hb', hpb⟩ := hbefore k b hb
    exact h.ordered j k a' b' p q hjk ha' hb' (hpa ▸ hp) (hpb ▸ hq)
  case byPath =>
    intro path j
    dsimp only
    rw [h.byPath, Array.getElem?_setIfInBounds]
    by_cases hij : i = j
    · subst hij
      have hget : lib.songs[i] = old := (Array.getElem?_eq_some_iff.1 hold).2
      simp [hi, hget, hpath]
    · simp [hij]
  case temporary =>
    intro index other hother
    simpa using h.temporary index other hother
  case counts =>
    -- The old song is counted, so that its count has room for taking it away and for one more.
    intro d hd
    have hlist : lib.songs.toList[i]? = some old := by simpa using hold
    obtain ⟨hlt, hget⟩ := List.getElem?_eq_some_iff.1 hlist
    have hroom := countP_sub_lt_length (hasDance d) hlist
    have hsize : lib.songs.toList.length ≤ Number.maxUInt32 := h.size_le
    dsimp only
    rw [getElem?_countIn_countOut (h.counts d hd) (by omega), Array.toList_setIfInBounds,
      List.countP_set hlt, hget]
  case counts_size => simpa using h.counts_size
  case size_le => simpa using h.size_le

/-- A song that takes its own place changes nothing. -/
theorem Consistent.replace_self {lib : Library σ} (h : Consistent lib) {i : Nat} {song : Song}
    (hsong : lib.songs[i]? = some song) : lib.replace i song = lib := by
  have hsongs : lib.songs.setIfInBounds i song = lib.songs := by
    apply Array.ext_getElem?
    intro j
    rw [Array.getElem?_setIfInBounds]
    split
    · rename_i hij
      rw [← hij, hsong, if_pos (Array.getElem?_eq_some_iff.1 hsong).1]
    · rfl
  have hcounts : countIn (countOut lib.danceCounts song) song = lib.danceCounts := by
    apply Array.ext_getElem?
    intro d
    by_cases hd : d < lib.tables.size .dance
    · have hcount := h.counts d hd
      have hlist : lib.songs.toList[i]? = some song := by simpa using hsong
      have hroom := countP_sub_lt_length (hasDance d) hlist
      have hsize : lib.songs.toList.length ≤ Number.maxUInt32 := h.size_le
      rw [getElem?_countIn_countOut hcount (by omega), hcount]
      cases hdance : hasDance d song with
      | false => rfl
      | true =>
        -- The song is counted, so that taking it off and adding it again is no change.
        have hpos : 0 < lib.songs.toList.countP (hasDance d) :=
          List.countP_pos_iff.2 ⟨song, List.mem_of_getElem? hlist, hdance⟩
        congr 1
        simp only [if_true]
        omega
    · -- Beyond the table nothing is counted.
      have hout : ∀ counts : Array Nat, counts.size = lib.danceCounts.size → counts[d]? = none := by
        intro counts hcounts
        rw [Array.getElem?_eq_none]
        rw [hcounts, h.counts_size]
        omega
      rw [hout _ (by simp), hout _ rfl]
  rw [replace_of_path_eq hsong rfl, hsongs, hcounts]

/-! ### Requests -/

/-- A library is consistent whatever its store does. -/
theorem Consistent.withHandle {lib : Library σ} (h : Consistent lib) (handle : StoreHandle σ) :
    Consistent (lib.withHandle handle) :=
  ⟨h.onRecord, h.ordered, h.byPath, h.temporary, h.counts, h.counts_size, h.size_le⟩

/-- A temporary song gets an index behind those of all songs, and no song on record changes.
-/
theorem Consistent.addTemporary {lib : Library σ} (h : Consistent lib) (song : Song) :
    Consistent (lib.addTemporary song).2 where
  onRecord := h.onRecord
  ordered := h.ordered
  byPath := h.byPath
  temporary := by
    intro index other hother
    simp only [Library.addTemporary, Std.HashMap.getElem?_insert] at hother ⊢
    split at hother
    · rename_i hindex
      -- The new index is the next one, and so it is above all others.
      obtain rfl := Option.some.inj hother
      rw [beq_iff_eq] at hindex
      subst hindex
      exact ⟨Int.le_max_right _ _, Int.lt_add_one_iff.2 (Int.le_refl _), rfl, rfl⟩
    · obtain ⟨hle, hlt, hindex, htemporary⟩ := h.temporary index other hother
      exact ⟨hle, by omega, hindex, htemporary⟩
  counts := h.counts
  counts_size := h.counts_size
  size_le := h.size_le

/-- Taking a temporary song away leaves the others where they are. -/
theorem Consistent.removeTemporary {lib : Library σ} (h : Consistent lib) (index : Int) :
    Consistent (lib.removeTemporary index).2 where
  onRecord := h.onRecord
  ordered := h.ordered
  byPath := h.byPath
  temporary := by
    intro i other hother
    simp only [Library.removeTemporary, Std.HashMap.getElem?_erase] at hother
    split at hother
    · cases hother
    · exact h.temporary i other hother
  counts := h.counts
  counts_size := h.counts_size
  size_le := h.size_le

/-- A library without songs and temporary songs is consistent if it counts none. -/
theorem Consistent.clear {lib : Library σ} (h : Consistent lib) : Consistent lib.clear where
  onRecord := by simp [Library.clear]
  ordered := by simp [Library.clear]
  byPath := by simp [Library.clear]
  temporary := by simp [Library.clear]
  counts := by
    intro d hd
    simp [Library.clear, h.counts d hd]
  counts_size := by simpa [Library.clear] using h.counts_size
  size_le := Nat.zero_le _

/-- A song whose path is on record takes the place of the song on record. -/
theorem Consistent.settle {lib : Library σ} (h : Consistent lib) {stamp : Record.Stamp}
    {song : Song} (hlasting : song.temporary = false)
    (hnumber : (song.path?.bind fun path => lib.byPath[path]?).isSome →
      1 ≤ stamp.number ∧ stamp.number ≤ maxRecordNumber) :
    Consistent (Library.settle stamp song lib).2 := by
  simp only [Library.settle, path?_stamped]
  cases hplace : song.path?.bind fun path => lib.byPath[path]? with
  | none => exact h
  | some i =>
    obtain ⟨path, hpath, hi⟩ := Option.bind_eq_some_iff.1 hplace
    obtain ⟨old, hold, hsame⟩ := (h.byPath path i).1 hi
    refine h.replace hold ?_ rfl ⟨stamp.number, ?_⟩ ?_
    · rw [Song.path?_withIndex, path?_stamped, hpath, hsame]
    · exact recordNumber?_stamped lib.tables stamp song (hnumber (by rw [hplace]; rfl))
    · exact (temporary_stamped lib.tables stamp song).trans hlasting

/-- A song on record has the number of its record. -/
theorem Consistent.number_of_onRecord? {lib : Library σ} (h : Consistent lib) {song old : Song}
    (hold : lib.onRecord? song = some old) : ∃ n, old.recordNumber? = some n := by
  obtain ⟨path, _, hpath⟩ := Option.bind_eq_some_iff.1 hold
  obtain ⟨_, i, hi⟩ := h.getByPath?.1 hpath
  exact (h.onRecord i old hi).number

/-- A song without a record of its own has a path that is not on record. -/
theorem Consistent.place_eq_none {lib : Library σ} (h : Consistent lib) {song : Song}
    (hrecord : lib.recordOf? song = none) :
    (song.path?.bind fun path => lib.byPath[path]?) = none := by
  rw [Option.bind_eq_none_iff]
  intro path hpath
  cases hplace : lib.byPath[path]? with
  | none => rfl
  | some i =>
    obtain ⟨old, hold, _⟩ := (h.byPath path i).1 hplace
    -- A song on record would lend its number.
    have hrecorded : lib.onRecord? song = some old := by
      simp [onRecord?, Library.getByPath?, hpath, hplace, hold]
    obtain ⟨n, hn⟩ := h.number_of_onRecord? hrecorded
    unfold recordOf? at hrecord
    rw [hrecorded] at hrecord
    cases hown : song.recordNumber? with
    | some m => simp [hown] at hrecord
    | none => simp [hown, hn] at hrecord

/-- A step on the handle leaves the songs alone. -/
theorem Consistent.onHandle {α : Type} {lib : Library σ} (h : Consistent lib)
    (step : HandleStep σ ω α) (w : ω) : Consistent (Step.after (onHandle step) (lib, w)).1 := by
  unfold Step.after Step.outcome Library.onHandle
  rw [Step.focus_apply]
  cases step (lib.handle, w) with
  | error stop t => exact h.withHandle t.1
  | ok a t => exact h.withHandle t.1

variable [RecordStore σ ω]

/-- Whether or not its record could be written, a song leaves the library consistent. -/
theorem Consistent.putRecord {lib : Library σ} (h : Consistent lib) (stamp : Record.Stamp)
    {song : Song} (w : ω) (hlasting : song.temporary = false)
    (hnumber : (song.path?.bind fun path => lib.byPath[path]?).isSome →
      1 ≤ stamp.number ∧ stamp.number ≤ maxRecordNumber) :
    Consistent (Step.after (Library.putRecord stamp) (song, lib, w)).2.1 := by
  cases hwrite : StoreHandle.write stamp.number
      (Text.bytes (Record.encode lib.tables stamp song)) (lib.handle, w) with
  -- The store has refused, and only the handle changes.
  | error stop t =>
    have hput : Library.putRecord stamp (song, lib, w) =
        .error stop (song, lib.withHandle t.1, t.2) := by
      simp only [Library.putRecord, hwrite]
    rw [Step.after_of_error hput]
    exact h.withHandle t.1
  | ok a t =>
    have hput : Library.putRecord stamp (song, lib, w) =
        .ok (Text.bytes (Record.encode lib.tables stamp song)).length
          ((Library.settle stamp song (lib.withHandle t.1)).1,
            (Library.settle stamp song (lib.withHandle t.1)).2, t.2) := by
      simp only [Library.putRecord, hwrite]
    rw [Step.after_of_ok hput]
    exact (h.withHandle t.1).settle hlasting hnumber

/-- Whether or not it was written, a song leaves the library consistent. -/
theorem Consistent.writeSong {lib : Library σ} (h : Consistent lib) (now : Instant) (song : Song)
    (w : ω) : Consistent ((Library.writeSong now).after (song, lib, w)).2.1 := by
  have hwrite := writeSong_apply now song lib w
  unfold Step.after Step.outcome
  rw [hwrite]
  cases htemporary : song.temporary with
  | true => simpa using h
  | false =>
    simp only [Bool.false_eq_true, if_false]
    cases hrecord : lib.recordOf? song with
    | some found =>
      obtain ⟨number, song'⟩ := found
      -- The song that is written is the given one, perhaps with the date of the record.
      have hlasting : song'.temporary = false := by
        rcases recordOf?_eq_some_iff.1 hrecord with ⟨_, rfl⟩ | ⟨_, old, _, _, rfl⟩
        · exact htemporary
        · rw [temporary_adoptDate, htemporary]
      exact h.putRecord ⟨number, false, now⟩ w hlasting fun _ =>
        number_of_recordOf? hrecord
    | none =>
      dsimp only
      cases StoreHandle.allocate (lib.handle, w) with
      | error stop t => exact h.withHandle t.1
      | ok number t =>
        -- A song that gets a new record is not on record, so that its number is not looked at.
        refine (h.withHandle t.1).putRecord ⟨number, true, now⟩ t.2 htemporary ?_
        intro hplace
        rw [show (song.path?.bind fun path => (lib.withHandle t.1).byPath[path]?) = none from
          h.place_eq_none hrecord] at hplace
        cases hplace

/-- A song that has been written leaves the library consistent. -/
theorem Consistent.of_writeSong {lib lib' : Library σ} {song song' : Song} {now : Instant}
    {w w' : ω} {n : Nat} (h : Consistent lib)
    (hwrite : Library.writeSong now (song, lib, w) = .ok n (song', lib', w')) :
    Consistent lib' := by
  have hafter := h.writeSong now song w
  rwa [Step.after_of_ok hwrite] at hafter

/-- An entry that is loaded again, or not, leaves the library consistent. -/
theorem Consistent.loadEntry {lib : Library σ} (h : Consistent lib) (index : Int) (w : ω) :
    Consistent ((Library.loadEntry index).after (lib, w)).1 := by
  rcases after_loadEntry index lib w with hsame | ⟨i, old, number, t, htarget, _, hleft⟩
  · rwa [hsame]
  obtain ⟨hi, hold, hnumber⟩ := target?_eq_some_iff.1 htarget
  -- Only the handle changes, or the song at the place is the one that was read.
  rcases hleft with hleft | ⟨data, song, hdecode, hpath, hleft⟩
  · rw [hleft]
    exact h.withHandle t.1
  · rw [hleft]
    obtain ⟨_, _, hlasting⟩ := Record.path_of_decode hdecode
    refine (h.withHandle t.1).replace hold ?_ ?_ ⟨number, ?_⟩ hlasting
    · rw [Song.path?_withIndex, Song.path?_setRecordNumber, hpath]
    · rw [← hi]
      rfl
    · exact song.recordNumber?_setRecordNumber (Song.recordNumber?_range hnumber)

/-- Closing leaves the library consistent. -/
theorem Consistent.close {lib : Library σ} (h : Consistent lib) (w : ω) :
    Consistent (Step.after Library.close (lib, w)).1 := by
  unfold Step.after Step.outcome Library.close Library.onHandle
  simp only [Step.bind_apply, Step.focus_apply]
  cases StoreHandle.close (lib.handle, w) with
  | error stop t => exact h.withHandle t.1
  | ok a t => exact (h.withHandle t.1).clear

/-- Every request keeps a library consistent, whether it succeeds or fails. -/
theorem Consistent.perform {lib : Library σ} (h : Consistent lib) (request : Request) (w : ω) :
    Consistent (request.perform (lib, w)).1 := by
  apply Request.perform_keeps (P := fun s => Consistent s.1) request h
  cases request with
  | write song now => exact h.writeSong now song w
  | load index => exact h.loadEntry index w
  | addTemporary song => exact h.addTemporary song
  | removeTemporary index => exact h.removeTemporary index
  | startBatch => exact h.onHandle StoreHandle.startBatch w
  | endBatch => exact h.onHandle StoreHandle.endBatch w
  | close => exact h.close w

/-! ### Loading -/

omit [RecordStore σ ω] in
/-- The song at a place of a library that was filled. -/
theorem getElem?_songs_fill (lib : Library σ) (found : List Song) (i : Nat) :
    (fill lib found).songs[i]? = ((found.mergeSort pathLE)[i]?).map fun song =>
      song.withIndex i := by
  simp only [fill, List.getElem?_toArray, List.getElem?_map, List.getElem?_zipIdx, Option.map_map,
    Nat.zero_add]
  rfl

omit [RecordStore σ ω] in
/-- Filling a library neither adds songs nor changes their dances. -/
theorem countP_songs_fill (lib : Library σ) (found : List Song) (d : Nat) :
    (fill lib found).songs.toList.countP (hasDance d) = found.countP (hasDance d) := by
  calc (fill lib found).songs.toList.countP (hasDance d)
      = (found.mergeSort pathLE).zipIdx.countP fun entry => hasDance d entry.1 := by
        simp only [fill, List.countP_map]
        rfl
    _ = ((found.mergeSort pathLE).zipIdx.map Prod.fst).countP (hasDance d) := by
        rw [List.countP_map]
        rfl
    _ = (found.mergeSort pathLE).countP (hasDance d) := by rw [List.zipIdx_map_fst]
    _ = found.countP (hasDance d) := (List.mergeSort_perm found pathLE).countP_eq _

omit [RecordStore σ ω] in
/-- The songs of a library that was filled from a scan are in strict order. -/
theorem pairwise_songs_fill (lib : Library σ) {found : List Song} {n : Nat}
    (h : Scanned {} n 1 found) :
    (fill lib found).songs.toList.Pairwise fun a b =>
      ∃ p q, a.path? = some p ∧ b.path? = some q ∧ Text.compareBytes p q = .lt := by
  have hpaths : (fill lib found).songs.toList.map Song.path? =
      (found.mergeSort pathLE).map Song.path? := by
    simp only [fill, List.map_map]
    rw [← congrArg (List.map Song.path?) (List.zipIdx_map_fst 0 (found.mergeSort pathLE)),
      List.map_map]
    rfl
  have hsorted := h.pairwise_mergeSort
  have hiff := fun songs : List Song => List.pairwise_map (l := songs) (f := Song.path?)
    (R := fun x y => ∃ p q, x = some p ∧ y = some q ∧ Text.compareBytes p q = .lt)
  rw [← hiff] at hsorted ⊢
  rwa [hpaths]

omit [RecordStore σ ω] in
/-- A library that is filled with the songs of a scan is consistent. -/
theorem consistent_fill {handle : StoreHandle σ} {tables : Tables} {found : List Song} {n : Nat}
    (h : Scanned {} n 1 found) (hn : n ≤ maxRecordNumber) :
    Consistent (fill (empty handle tables) found) := by
  have hsorted := pairwise_songs_fill (empty handle tables) h
  constructor
  case onRecord =>
    intro i song hsong
    rw [getElem?_songs_fill, Option.map_eq_some_iff] at hsong
    obtain ⟨read, hread, rfl⟩ := hsong
    have hmem : read ∈ found := List.mem_mergeSort.1 (List.mem_of_getElem? hread)
    obtain ⟨path, hpath, hne, _⟩ := h.path read hmem
    have hlasting : read.temporary = false := h.lasting read hmem
    -- The scan has given the song the number of its slot.
    obtain ⟨plain, number, rfl, hfirst, hlast⟩ := h.number read hmem
    exact ⟨⟨path, hpath, hne⟩, rfl,
      ⟨number, plain.recordNumber?_setRecordNumber ⟨hfirst, by omega⟩⟩, hlasting⟩
  case ordered =>
    intro i j a b p q hij ha hb hp hq
    rw [← Array.getElem?_toList] at ha hb
    obtain ⟨p', q', hp', hq', hlt⟩ := rel_of_pairwise hsorted hij ha hb
    obtain rfl : p' = p := Option.some.inj (hp'.symm.trans hp)
    obtain rfl : q' = q := Option.some.inj (hq'.symm.trans hq)
    exact hlt
  case byPath =>
    intro path i
    -- Paths in strict order are all different, so that every path has its own place.
    have hdistinct : (fill (empty handle tables) found).songs.toList.Pairwise fun a b =>
        a.path? ≠ b.path? := by
      refine hsorted.imp ?_
      rintro a b ⟨p, q, hp, hq, hlt⟩ heq
      obtain rfl : p = q := Option.some.inj (hp.symm.trans (heq.trans hq))
      rw [Text.compareBytes_self] at hlt
      cases hlt
    rw [show (fill (empty handle tables) found).byPath =
      pathIndex (fill (empty handle tables) found).songs.toList from rfl,
      getElem?_pathIndex hdistinct]
    simp only [Array.getElem?_toList]
  case temporary => simp [fill, empty]
  case counts =>
    intro d hd
    have hzero : (empty handle tables).danceCounts[d]? = some 0 := by
      rw [empty, Array.getElem?_replicate]
      exact if_pos hd
    -- There are no more songs than records, so that no count is full.
    have hroom : found.countP (hasDance d) ≤ Number.maxUInt32 :=
      (List.countP_le_length.trans h.length_le).trans hn
    rw [countP_songs_fill, ← Nat.zero_add (found.countP _)]
    exact getElem?_foldl_countIn hzero (by omega)
  case counts_size => simp [fill, empty]
  case size_le =>
    have hlength := h.length_le
    simp only [fill, List.size_toArray, List.length_map, List.length_zipIdx, List.length_mergeSort]
    omega

end Ballroom.Library
