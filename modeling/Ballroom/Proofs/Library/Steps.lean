import Ballroom.Library.Write
import Ballroom.Proofs.Song
import Ballroom.Proofs.Step

/-!
# What the steps of a library come to

`writeSong` and `loadEntry` as equations: which requests they make of the store, and
what the song and the library are afterwards in each case.
-/

namespace Ballroom.Library

variable {σ ω α : Type}

/-- Gives a library another store handle. -/
def withHandle (lib : Library σ) (handle : StoreHandle σ) : Library σ :=
  { lib with handle := handle }

/-- The record that a song has already, and the song as it is written there: with the date
of the song on record, if that is how the record was found. -/
def recordOf? (lib : Library σ) (song : Song) : Option (Nat × Song) :=
  match song.recordNumber?, lib.onRecord? song with
  | some number, _ => some (number, song)
  | none, some old => old.recordNumber?.map fun number => (number, adoptDate old song)
  | none, none => none

/-- A song and a library after the record of the song has been written. -/
def settle (stamp : Record.Stamp) (song : Song) (lib : Library σ) : Song × Library σ :=
  let song := stamped lib.tables stamp song
  match song.path?.bind fun path => lib.byPath[path]? with
  | some i => (song.withIndex i, lib.replace i (song.withIndex i))
  | none => (song, lib)

/-! ### Stamped songs -/

/-- The stamp sets the tags that the writer knows, and a status where there is none. -/
theorem value?_stamped (tables : Tables) (stamp : Record.Stamp) (song : Song) (tag : Tag) :
    (stamped tables stamp song).value? tag =
      match tag with
      | .recordNumber => some (.number (Int64.ofInt stamp.number))
      | .lastUpdated => some (.number stamp.now.timestamp)
      | .addDate => if stamp.isNew then some (.text stamp.dateText) else song.value? .addDate
      | .status => some ((song.value? .status).getD
          (Record.parseValue tables .status tables.defaultStatus))
      | tag => song.value? tag := by
  cases hnew : stamp.isNew <;> cases hstatus : song.value? .status <;> cases tag <;>
    simp [stamped, Song.setRecordNumber, Song.has, hnew, hstatus]

theorem path?_stamped (tables : Tables) (stamp : Record.Stamp) (song : Song) :
    (stamped tables stamp song).path? = song.path? := by
  rw [Song.path?, Song.text?, value?_stamped]
  rfl

theorem temporary_stamped (tables : Tables) (stamp : Record.Stamp) (song : Song) :
    (stamped tables stamp song).temporary = song.temporary := by
  unfold stamped
  dsimp only
  split <;> split <;> rfl

/-- The number of a record is read back from the song that was stamped with it. -/
theorem recordNumber?_stamped (tables : Tables) (stamp : Record.Stamp) (song : Song)
    (h : 1 ≤ stamp.number ∧ stamp.number ≤ maxRecordNumber) :
    (stamped tables stamp song).recordNumber? = some stamp.number := by
  rw [← song.recordNumber?_setRecordNumber h, Song.recordNumber?, Song.recordNumber?, Song.number?,
    Song.number?, value?_stamped]
  rfl

/-! ### The record that a song has -/

theorem path?_adoptDate (old song : Song) : (adoptDate old song).path? = song.path? := by
  unfold adoptDate
  split
  · split
    · rfl
    · exact Song.path?_set_of_ne (by decide) _
  · rfl

theorem temporary_adoptDate (old song : Song) :
    (adoptDate old song).temporary = song.temporary := by
  unfold adoptDate
  split
  · split <;> rfl
  · rfl

/-- A song has a record by its own number or by that of the song on record with its path. -/
theorem recordOf?_eq_some_iff {lib : Library σ} {song song' : Song} {number : Nat} :
    lib.recordOf? song = some (number, song') ↔
      song.recordNumber? = some number ∧ song' = song ∨
      song.recordNumber? = none ∧ ∃ old, lib.onRecord? song = some old ∧
        old.recordNumber? = some number ∧ song' = adoptDate old song := by
  unfold recordOf?
  cases song.recordNumber? with
  | some n => simp [eq_comm]
  | none =>
    cases lib.onRecord? song with
    | none => simp
    | some old =>
      simp only [Option.map_eq_some_iff, Prod.mk.injEq, Option.some.injEq]
      grind

/-- The number of a record is a number of 32 bits. -/
theorem number_of_recordOf? {lib : Library σ} {song song' : Song} {number : Nat}
    (h : lib.recordOf? song = some (number, song')) : 1 ≤ number ∧ number ≤ maxRecordNumber := by
  rcases recordOf?_eq_some_iff.1 h with ⟨hn, _⟩ | ⟨_, old, _, hn, _⟩
  · exact Song.recordNumber?_range hn
  · exact Song.recordNumber?_range hn

theorem handle_replace (lib : Library σ) (i : Nat) (song : Song) :
    (lib.replace i song).handle = lib.handle := by
  unfold replace
  split <;> rfl

/-- A song that is settled is stamped. -/
theorem value?_settle (stamp : Record.Stamp) (song : Song) (lib : Library σ) :
    (settle stamp song lib).1.value? = (stamped lib.tables stamp song).value? := by
  unfold settle
  dsimp only
  split <;> rfl

theorem handle_settle (stamp : Record.Stamp) (song : Song) (lib : Library σ) :
    (settle stamp song lib).2.handle = lib.handle := by
  unfold settle
  dsimp only
  split
  · exact handle_replace lib _ _
  · rfl

variable [RecordStore σ ω]

/-! ### Writing a song -/

/-- Writes the record of a song and settles the song and the library. -/
def putRecord (stamp : Record.Stamp) : SongStep σ ω Nat := fun (song, lib, w) =>
  let data := Text.bytes (Record.encode lib.tables stamp song)
  match StoreHandle.write stamp.number data (lib.handle, w) with
  | .error stop (handle, w) => .error stop (song, lib.withHandle handle, w)
  | .ok () (handle, w) =>
    let (song, lib) := settle stamp song (lib.withHandle handle)
    .ok data.length (song, lib, w)

/-- What is left to do once the record is chosen. -/
private theorem write_chosen (stamp : Record.Stamp) (lib : Library σ) (s : Song × Library σ × ω)
    (htables : s.2.1.tables = lib.tables) :
    (do
      let (song, _, _) ← get
      let data := Text.bytes (Record.encode lib.tables stamp song)
      onLibrary (onHandle (StoreHandle.write stamp.number data))
      changeSong (stamped lib.tables stamp)
      refresh
      return data.length : SongStep σ ω Nat) s = putRecord stamp s := by
  obtain ⟨song, current, w⟩ := s
  simp only [onLibrary, onHandle, changeSong, refresh, putRecord, settle, withHandle, ← htables,
    Step.bind_apply, Step.get_apply, Step.focus_apply, Step.modify_apply, Step.pure_apply]
  cases StoreHandle.write stamp.number _ (current.handle, w) with
  | error stop t => simp only [Stop.map_id]
  | ok a t =>
    cases hplace : (stamped current.tables stamp song).path?.bind fun path =>
        current.byPath[path]? with
    | none => simp only [hplace]
    | some i => simp only [hplace]

/-- A song goes to the record that it has or that its path has, or else to a new one. -/
theorem chooseRecord_apply (song : Song) (lib : Library σ) (w : ω) :
    chooseRecord (song, lib, w) =
      match lib.recordOf? song with
      | some (number, song) => .ok (number, false) (song, lib, w)
      | none => match StoreHandle.allocate (lib.handle, w) with
        | .error stop (handle, w) => .error stop (song, lib.withHandle handle, w)
        | .ok number (handle, w) => .ok (number, true) (song, lib.withHandle handle, w) := by
  -- A song without a record gets one, whether it has none by its path or none at all.
  have hallocate : (onLibrary (onHandle StoreHandle.allocate) >>= fun number =>
      pure (number, true) : SongStep σ ω (Nat × Bool)) (song, lib, w) =
      match StoreHandle.allocate (lib.handle, w) with
      | .error stop (handle, w) => .error stop (song, lib.withHandle handle, w)
      | .ok number (handle, w) => .ok (number, true) (song, lib.withHandle handle, w) := by
    simp only [onLibrary, onHandle, withHandle, Step.bind_apply, Step.focus_apply]
    cases StoreHandle.allocate (lib.handle, w) with
    | ok number t => rfl
    | error stop t => simp only [Stop.map_id]
  unfold chooseRecord recordOf?
  simp only [Step.bind_apply, Step.get_apply]
  cases song.recordNumber? with
  | some number => rfl
  | none =>
    cases lib.onRecord? song with
    | none => exact hallocate
    | some old =>
      cases hnumber : old.recordNumber? with
      | some number => simp [hnumber, changeSong]
      | none => simpa only [hnumber, Option.map_none] using hallocate

/-- A song is written into the record that it has, or else into a new one. -/
theorem writeSong_apply (now : Instant) (song : Song) (lib : Library σ) (w : ω) :
    writeSong now (song, lib, w) =
      if song.temporary then .ok 0 (song, lib, w)
      else match lib.recordOf? song with
        | some (number, song) => putRecord ⟨number, false, now⟩ (song, lib, w)
        | none => match StoreHandle.allocate (lib.handle, w) with
          | .error stop (handle, w) => .error stop (song, lib.withHandle handle, w)
          | .ok number (handle, w) =>
            putRecord ⟨number, true, now⟩ (song, lib.withHandle handle, w) := by
  cases htemporary : song.temporary with
  -- A temporary song is not written, whatever it has.
  | true => simp [writeSong, htemporary]
  | false =>
    simp only [writeSong, htemporary, Step.bind_apply, Step.get_apply, Bool.false_eq_true, if_false,
      Step.ite_apply, chooseRecord_apply]
    cases lib.recordOf? song with
    | some found => exact write_chosen ⟨found.1, false, now⟩ lib (found.2, lib, w) rfl
    | none =>
      cases StoreHandle.allocate (lib.handle, w) with
      | error stop t => rfl
      | ok number t =>
        exact write_chosen ⟨number, true, now⟩ lib (song, lib.withHandle t.1, t.2) rfl

/-- A song whose record was written is settled. -/
theorem settle_of_putRecord {stamp : Record.Stamp} {song song' : Song} {lib lib' : Library σ}
    {w w' : ω} {n : Nat} (h : putRecord stamp (song, lib, w) = .ok n (song', lib', w')) :
    ∃ handle, (song', lib') = settle stamp song (lib.withHandle handle) := by
  unfold putRecord at h
  dsimp only at h
  split at h
  · cases h
  · obtain ⟨-, hstate⟩ := EStateM.Result.ok.inj h
    obtain ⟨rfl, hrest⟩ := Prod.mk.inj hstate
    obtain ⟨rfl, -⟩ := Prod.mk.inj hrest
    exact ⟨_, rfl⟩

/-- A song that was written into a new record is stamped as a new one. -/
theorem stamped_of_writeSong {now : Instant} {song song' : Song} {lib lib' : Library σ} {w w' : ω}
    {n : Nat} (hlasting : song.temporary = false) (hrecord : lib.recordOf? song = none)
    (hwrite : writeSong now (song, lib, w) = .ok n (song', lib', w')) :
    ∃ number, song'.value? = (stamped lib.tables ⟨number, true, now⟩ song).value? := by
  rw [writeSong_apply, hlasting, hrecord] at hwrite
  simp only [Bool.false_eq_true, if_false] at hwrite
  cases hallocate : StoreHandle.allocate (lib.handle, w) with
  | error stop t =>
    rw [hallocate] at hwrite
    cases hwrite
  | ok number t =>
    rw [hallocate] at hwrite
    -- The record was put, and the song in the library has its stamp.
    obtain ⟨handle, hsettle⟩ := settle_of_putRecord hwrite
    refine ⟨number, ?_⟩
    rw [show song' = (settle _ _ _).1 from congrArg Prod.fst hsettle, value?_settle]
    rfl

/-! ### Reading a song again -/

/-- The song on record at an index, with its place and the number of its record. -/
def target? (lib : Library σ) (index : Int) : Option (Nat × Song × Nat) :=
  if index < 0 then none
  else (lib.songs[index.toNat]?).bind fun old =>
    old.recordNumber?.map fun number => (index.toNat, old, number)

/-- An index leads to a record if a song with a number is at its place. -/
theorem target?_eq_some_iff {lib : Library σ} {index : Int} {i number : Nat} {old : Song} :
    lib.target? index = some (i, old, number) ↔
      (i : Int) = index ∧ lib.songs[i]? = some old ∧ old.recordNumber? = some number := by
  unfold target?
  split
  · simp only [reduceCtorEq, false_iff]
    omega
  · simp only [Option.bind_eq_some_iff, Option.map_eq_some_iff, Prod.mk.injEq]
    constructor
    · rintro ⟨song, hsong, n, hn, rfl, rfl, rfl⟩
      exact ⟨by omega, hsong, hn⟩
    · rintro ⟨rfl, hold, hnumber⟩
      exact ⟨old, hold, number, hnumber, rfl, rfl, rfl⟩

/-- The song on record is read again from the slot of its number. -/
theorem loadEntry_apply (index : Int) (lib : Library σ) (w : ω) :
    loadEntry index (lib, w) =
      match lib.target? index with
      | none => .ok none (lib, w)
      | some (i, old, number) => match StoreHandle.readSingle number (lib.handle, w) with
        | .error stop (handle, w) => .error stop (lib.withHandle handle, w)
        | .ok none (handle, w) => .ok none (lib.withHandle handle, w)
        | .ok (some data) (handle, w) => match Record.decode lib.tables data with
          | .error fault => .error (.fault (.undecodable fault)) (lib.withHandle handle, w)
          | .ok song =>
            if song.path? ≠ old.path? then .ok none (lib.withHandle handle, w)
            else
              let song := (song.setRecordNumber number).withIndex index
              .ok (some song) ((lib.withHandle handle).replace i song, w) := by
  unfold loadEntry target?
  simp only [Step.bind_apply, Step.get_apply, Step.ite_apply]
  by_cases hindex : index < 0
  · simp [hindex]
  · simp only [hindex, if_false]
    cases hold : lib.songs[index.toNat]? with
    | none => simp
    | some old =>
      cases hnumber : old.recordNumber? with
      | none => simp [hnumber]
      | some number =>
        simp only [hnumber, onHandle, Step.bind_apply, Step.focus_apply, Option.bind_some,
          Option.map_some]
        -- Both sides branch alike from here on: on the slot, on what it decodes to, on the
        -- path.
        cases StoreHandle.readSingle number (lib.handle, w) with
        | error stop t => simp only [Stop.map_id, withHandle]
        | ok data? t =>
          cases data? with
          | none => rfl
          | some data =>
            dsimp only
            cases Record.decode lib.tables data with
            | error fault => rfl
            | ok song =>
              dsimp only
              by_cases hpath : song.path? = old.path?
              · simp [hpath, change, withHandle]
              · simp [hpath, withHandle]

/-- After an entry was read again the library is as it was but for its handle, or has the
song that was read in the place of one with the same path. -/
theorem after_loadEntry (index : Int) (lib : Library σ) (w : ω) :
    (loadEntry index).after (lib, w) = (lib, w) ∨
    ∃ i old number t, lib.target? index = some (i, old, number) ∧
      t = (StoreHandle.readSingle number).after (lib.handle, w) ∧
      ((loadEntry index).after (lib, w) = (lib.withHandle t.1, t.2) ∨
      ∃ data song, Record.decode lib.tables data = .ok song ∧ song.path? = old.path? ∧
        (loadEntry index).after (lib, w) = ((lib.withHandle t.1).replace i
          ((song.setRecordNumber number).withIndex index), t.2)) := by
  have hload := loadEntry_apply index lib w
  cases htarget : lib.target? index with
  | none =>
    rw [htarget] at hload
    exact .inl (Step.after_of_ok hload)
  | some target =>
    obtain ⟨i, old, number⟩ := target
    rw [htarget] at hload
    dsimp only at hload
    refine .inr ⟨i, old, number, _, rfl, rfl, ?_⟩
    cases hread : StoreHandle.readSingle number (lib.handle, w) with
    | error stop t =>
      rw [hread] at hload
      rw [Step.after_of_error hload, Step.after_of_error hread]
      exact .inl rfl
    -- Each way out but the last leaves the songs alone.
    | ok data? t =>
      rw [hread] at hload
      rw [Step.after_of_ok hread]
      cases data? with
      | none => exact .inl (Step.after_of_ok hload)
      | some data =>
        dsimp only at hload
        cases hdecode : Record.decode lib.tables data with
        | error fault =>
          rw [hdecode] at hload
          exact .inl (Step.after_of_error hload)
        | ok song =>
          rw [hdecode] at hload
          dsimp only at hload
          by_cases hpath : song.path? = old.path?
          · rw [if_neg (not_not_intro hpath)] at hload
            exact .inr ⟨data, song, hdecode, hpath, Step.after_of_ok hload⟩
          · -- The slot holds another song by now.
            rw [if_pos hpath] at hload
            exact .inl (Step.after_of_ok hload)

end Ballroom.Library
