import Ballroom.Proofs.Library.Reachable
import Ballroom.Proofs.Store.Openness

/-!
# Writes that fail

A write can fail when the store is opened, hands out a number, takes the record or is
closed.  Whichever of these fails, the library keeps everything but the state of its store
(`unchanged_of_writeSong_error`).  The song of the caller keeps everything but a date that
it has taken over from the song on record by then.
-/

namespace Ballroom

namespace Library

open StoreHandle (keepsBatch_allocate keepsBatch_write)

variable {σ ω : Type} {lib lib' : Library σ} {song song' : Song} {w w' : ω}
  {stop : Stop LibraryFault}

/-! ### The song of the caller -/

/-- The date that a song takes over from the song on record with its path, before it is
written: the song has no date and no record, and the song on record has both. -/
def takenDate? (lib : Library σ) (song : Song) : Option String :=
  if song.has .addDate ∨ song.recordNumber?.isSome then none
  else (lib.onRecord? song).bind fun old =>
    if old.recordNumber?.isSome then old.text? .addDate else none

/-- A song with the date that it takes over. -/
def dated (lib : Library σ) (song : Song) : Song :=
  match lib.takenDate? song with
  | some date => song.set .addDate (.text date)
  | none => song

/-- A song that has a record is written there with the date that it takes over. -/
theorem eq_dated_of_recordOf? {number : Nat} (h : lib.recordOf? song = some (number, song')) :
    song' = lib.dated song := by
  unfold dated takenDate?
  rcases recordOf?_eq_some_iff.1 h with ⟨hnumber, rfl⟩ | ⟨hnone, old, hold, hnumber, rfl⟩
  · simp [hnumber]
  · by_cases hhas : song.has .addDate
    · simp only [adoptDate, hhas, if_true, true_or]
      split <;> rfl
    · cases hdate : old.text? .addDate <;>
        simp [adoptDate, hhas, hnone, hold, hnumber, hdate]

/-- A song that is given a new record takes no date over. -/
theorem dated_of_recordOf?_eq_none (h : lib.recordOf? song = none) : lib.dated song = song := by
  unfold recordOf? at h
  unfold dated takenDate?
  cases hnumber : song.recordNumber? with
  | some number => simp
  | none =>
    rw [hnumber] at h
    cases hold : lib.onRecord? song with
    | none => simp
    | some old =>
      rw [hold] at h
      have hnone : old.recordNumber? = none := by simpa using h
      simp [hnone]

/-! ### A store that cannot be opened -/

/-- A song on record that has been read again. -/
private def known : Song := (asRead 1 moonRiver).withIndex 0

/-- A song without a record of its own. -/
private def unnumbered : Song := Song.empty.set .file (.text "a.mp3")

/-- The store of the two songs, which cannot be opened any more. -/
private def lockedStore (calls : List String) : MemoryStore :=
  { danceStore with calls, plan := ⟨[("open", .store (.other "disk full"))]⟩ }

/-- Nothing is written into a store that cannot be opened. -/
private theorem write_lockedStore (n : Nat) (data : Bytes) (calls : List String) :
    ∃ cause w, StoreHandle.write n data (danceHandle, lockedStore calls) =
      .error (.fault cause) (danceHandle, w) := by
  obtain ⟨w, hopen⟩ : ∃ w, RecordStore.openAt "db" 1 (MemoryHandle.mk, lockedStore calls) =
      .error (.fault (.store (.other "disk full"))) (MemoryHandle.mk, w) := ⟨_, rfl⟩
  have hacquire : StoreHandle.acquire (danceHandle, lockedStore calls) =
      .error (.fault (.host (.store (.other "disk full")))) (danceHandle, w) := by
    have hclosed : StoreHandle.isOpen danceHandle (lockedStore calls) = false := rfl
    simp only [StoreHandle.acquire, Step.bind_apply, Step.get_apply, Step.ite_apply, hclosed,
      Bool.not_false, if_true, StoreHandle.request_apply]
    rw [show RecordStore.openAt danceHandle.path danceHandle.version
      (danceHandle.store, lockedStore calls) = _ from hopen]
    rfl
  exact ⟨_, w, by rw [StoreHandle.write, Step.bind_apply, hacquire]⟩

/-! ### Every write that fails -/

variable [RecordStore σ ω]

/-- A record that could not be written leaves the song as it is. -/
theorem putRecord_error {stamp : Record.Stamp}
    (h : putRecord stamp (song, lib, w) = .error stop (song', lib', w')) :
    song' = song ∧ ∃ store, lib' = lib.withHandle { lib.handle with store := store } := by
  unfold putRecord at h
  dsimp only at h
  -- A batch is neither begun nor ended by a write, so that only the store may differ.
  obtain ⟨store, hstore⟩ := keepsBatch_write stamp.number
    (Text.bytes (Record.encode lib.tables stamp song)) lib.handle w
  cases hwrite : StoreHandle.write stamp.number
      (Text.bytes (Record.encode lib.tables stamp song)) (lib.handle, w) with
  | ok a t => rw [hwrite] at h; cases h
  | error stop' t =>
    rw [hwrite] at h
    rw [Step.after_of_error hwrite] at hstore
    obtain ⟨-, hstate⟩ := EStateM.Result.error.inj h
    obtain ⟨rfl, rfl, rfl⟩ := hstate
    exact ⟨rfl, store, by rw [hstore]⟩

/-- A write that fails leaves the library as it was but for the state of its store: the
songs, their paths, the counts and the temporary songs stay, and so does a batch.  The song
of the caller is as it was but for a date that it has taken over.  The same is left when a
write ends the program. -/
theorem unchanged_of_writeSong_error {now : Instant}
    (h : writeSong now (song, lib, w) = .error stop (song', lib', w')) :
    song' = lib.dated song ∧
      ∃ store, lib' = lib.withHandle { lib.handle with store := store } := by
  rw [writeSong_apply] at h
  cases htemporary : song.temporary with
  | true => rw [htemporary, if_pos rfl] at h; cases h
  | false =>
    rw [htemporary, if_neg (by decide)] at h
    cases hrecord : lib.recordOf? song with
    | some found =>
      -- The song has its date by the time that its record is written.
      rw [hrecord] at h
      obtain ⟨hsong, hlib⟩ := putRecord_error h
      exact ⟨hsong.trans (eq_dated_of_recordOf? hrecord), hlib⟩
    | none =>
      rw [hrecord] at h
      -- A song that gets a new record takes over no date.
      rw [dated_of_recordOf?_eq_none hrecord]
      obtain ⟨store, hstore⟩ := keepsBatch_allocate lib.handle w
      cases hallocate : StoreHandle.allocate (lib.handle, w) with
      | error stop' t =>
        rw [hallocate] at h
        rw [Step.after_of_error hallocate] at hstore
        obtain ⟨-, hstate⟩ := EStateM.Result.error.inj h
        obtain ⟨rfl, rfl, rfl⟩ := hstate
        exact ⟨rfl, store, by rw [hstore]⟩
      | ok number t =>
        rw [hallocate] at h
        rw [Step.after_of_ok hallocate] at hstore
        obtain ⟨hsong, store', hlib⟩ := putRecord_error h
        refine ⟨hsong, store', ?_⟩
        simp only [hlib, withHandle, hstore]

/-- A song on record that cannot be written is as it was, and so are the songs on record. -/
theorem unchanged_of_writeSong_error_locked :
    ∃ lib calls cause song' lib' w',
      load (fun _ _ => .ok true) danceHandle .standard danceStore =
        .ok lib { danceStore with calls } ∧
      writeSong .epoch (known, lib, lockedStore calls) =
        .error (.fault cause) (song', lib', w') ∧
      song' = known ∧ lib'.songs = lib.songs ∧ lib'.handle.inBatch = false := by
  obtain ⟨lib, calls, hload, htables, hhandle, hsongs⟩ := load_danceStore
  have hrecord : lib.recordOf? known = some (1, known) :=
    recordOf?_eq_some_iff.2 (.inl ⟨by decide +kernel, rfl⟩)
  obtain ⟨cause, w', hput⟩ := write_lockedStore 1
    (Text.bytes (Record.encode .standard ⟨1, false, .epoch⟩ known)) calls
  obtain ⟨song', lib', hwrite⟩ : ∃ song' lib',
      writeSong .epoch (known, lib, lockedStore calls) =
        .error (.fault cause) (song', lib', w') := by
    rw [writeSong_apply, if_neg (by decide), hrecord]
    simp only [putRecord, htables, hhandle, hput]
    exact ⟨_, _, rfl⟩
  obtain ⟨hsong, store, hlib⟩ := unchanged_of_writeSong_error hwrite
  -- The song is the one on record, with its date: there is none to take over.
  have hdated : lib.dated known = known := (eq_dated_of_recordOf? hrecord).symm
  refine ⟨lib, calls, cause, song', lib', w', hload, hwrite, hsong.trans hdated, ?_, ?_⟩
  · rw [hlib, withHandle]
  · rw [hlib, withHandle, hhandle]
    rfl

/-- A song that could not be written has the date of the song on record all the same. -/
theorem not_unchanged_writeSong_error :
    ∃ lib calls cause song' lib' w',
      load (fun _ _ => .ok true) danceHandle .standard danceStore =
        .ok lib { danceStore with calls } ∧
      writeSong .epoch (unnumbered, lib, lockedStore calls) =
        .error (.fault cause) (song', lib', w') ∧
      unnumbered.value? .addDate = none ∧ song'.value? .addDate = some (.text "1970-01-01") := by
  obtain ⟨lib, calls, hload, htables, hhandle, hsongs⟩ := load_danceStore
  have hconsistent : Consistent lib := consistent_load (countsWithin_memory (by decide)) hload
  have hplace : lib.byPath["a.mp3"]? = some 0 :=
    (hconsistent.byPath "a.mp3" 0).2 ⟨known, hsongs 0, by decide +kernel⟩
  have hold : lib.onRecord? unnumbered = some known := by
    show lib.getByPath? "a.mp3" = _
    rw [getByPath?, hplace]
    exact hsongs 0
  -- The song has no date yet, and takes over that of its record before the store is asked.
  have hrecord : lib.recordOf? unnumbered = some (1, adoptDate known unnumbered) :=
    recordOf?_eq_some_iff.2 (.inr ⟨by decide, known, hold, by decide +kernel, rfl⟩)
  obtain ⟨cause, w', hput⟩ := write_lockedStore 1
    (Text.bytes (Record.encode .standard ⟨1, false, .epoch⟩ (adoptDate known unnumbered))) calls
  have hwrite : writeSong .epoch (unnumbered, lib, lockedStore calls) =
      .error (.fault cause) (adoptDate known unnumbered, lib.withHandle danceHandle, w') := by
    rw [writeSong_apply, if_neg (by decide), hrecord]
    simp only [putRecord, htables, hhandle, hput]
  exact ⟨lib, calls, cause, _, _, w', hload, hwrite, rfl, by decide +kernel⟩

end Library

end Ballroom
