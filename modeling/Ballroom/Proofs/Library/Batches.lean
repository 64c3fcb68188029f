import Ballroom.Proofs.Library.Restart
import Ballroom.Proofs.Store.Batches

/-!
# Batches of writes

A batch of writes saves opening and closing the store for each of them and nothing else:
the songs, the library and the bytes of the store file are afterwards as if the same songs
had been written without a batch (`batch_eq_plain`).

Which record a song is written to depends on the library and on the number of records that
the store has by then, but not on whether there is a batch.  `drafts` lists the records of
several writes before any of them has been made.
-/

namespace Ballroom.Library

open StoreHandle (Has Twins onFile)

variable {σ ω ι : Type}

/-! ### Several writes -/

/-- A step on the library, while the caller has several songs. -/
def besideSongs {α : Type} (step : LibraryStep σ ω α) :
    Step LibraryFault ((ι → Song) × Library σ × ω) α :=
  Step.focus (fun s => s.2) (fun s t => (s.1, t)) id step

variable [DecidableEq ι]

/-- A step on one of several songs of the caller. -/
def onSong {α : Type} (i : ι) (step : SongStep σ ω α) :
    Step LibraryFault ((ι → Song) × Library σ × ω) α :=
  Step.focus (fun s => (s.1 i, s.2)) (fun s t => (Function.update s.1 i t.1, t.2)) id step

/-- Writes songs one after the other, each at its time, and tells the lengths of their
records. -/
def writeEach [RecordStore σ ω] :
    List (ι × Instant) → Step LibraryFault ((ι → Song) × Library σ × ω) (List Nat)
  | [] => return []
  | (i, now) :: writes => do
    let length ← onSong i (writeSong now)
    let lengths ← writeEach writes
    return length :: lengths

/-- Writes songs during a batch. -/
def writeBatch [RecordStore σ ω] (writes : List (ι × Instant)) :
    Step LibraryFault ((ι → Song) × Library σ × ω) (List Nat) := do
  besideSongs startBatch
  let lengths ← writeEach writes
  besideSongs endBatch
  return lengths

/-- The stamp of the record that a song is written to, and the song as it is written there, if
the store has `count` records.  A temporary song is not written. -/
def draft? (count : Nat) (now : Instant) (lib : Library σ) (song : Song) :
    Option (Record.Stamp × Song) :=
  if song.temporary then none
  else match lib.recordOf? song with
    | some (number, song) => some (⟨number, false, now⟩, song)
    | none => some (⟨count + 1, true, now⟩, song)

/-- The records of several writes, one after the other. -/
def drafts (count : Nat) : List (ι × Instant) → (ι → Song) → Library σ →
    List (Record.Stamp × Song)
  | [], _, _ => []
  | (i, now) :: writes, songs, lib =>
    match lib.draft? count now (songs i) with
    | none => drafts count writes songs lib
    | some (stamp, song) =>
      let (written, lib') := settle stamp song lib
      (stamp, song) ::
        drafts (max count stamp.number) writes (Function.update songs i written) lib'

/-- A record that is put into a slot of its size. -/
structure Fits (slotSize : Nat) (tables : Tables) (draft : Record.Stamp × Song) : Prop where
  number_lt : draft.1.number < maxRecordNumber
  length_le : (Text.bytes (Record.encode tables draft.1 draft.2)).length ≤ slotSize

/-! ### A library on another store -/

/-- A library with another store handle and the world around it. -/
abbrev onStore (lib : Library σ) (s : StoreHandle σ × ω) : Library σ × ω :=
  (lib.withHandle s.1, s.2)

theorem replace_withHandle (lib : Library σ) (handle : StoreHandle σ) (i : Nat) (song : Song) :
    (lib.withHandle handle).replace i song = (lib.replace i song).withHandle handle := by
  unfold replace withHandle
  dsimp only
  split <;> rfl

/-- What becomes of a song and of a library does not depend on the store. -/
theorem settle_withHandle (stamp : Record.Stamp) (song : Song) (lib : Library σ)
    (handle : StoreHandle σ) :
    settle stamp song (lib.withHandle handle) =
      ((settle stamp song lib).1, (settle stamp song lib).2.withHandle handle) := by
  unfold settle
  dsimp only [withHandle]
  split
  · exact congrArg _ (replace_withHandle lib handle _ _)
  · rfl

theorem tables_replace (lib : Library σ) (i : Nat) (song : Song) :
    (lib.replace i song).tables = lib.tables := by
  unfold replace
  split <;> rfl

theorem tables_settle (stamp : Record.Stamp) (song : Song) (lib : Library σ) :
    (settle stamp song lib).2.tables = lib.tables := by
  unfold settle
  dsimp only
  split
  · exact tables_replace lib _ _
  · rfl

/-! ### One write -/

section

variable [RecordStore σ ω] {lib : Library σ} {song song' : Song} {stamp : Record.Stamp}
  {now : Instant} {count : Nat} {s t u : StoreHandle σ × ω}

/-- A draft is for the record that a song has, or else for a new one. -/
theorem cases_of_draft? (hdraft : lib.draft? count now song = some (stamp, song')) :
    song.temporary = false ∧
      (lib.recordOf? song = some (stamp.number, song') ∧ stamp = ⟨stamp.number, false, now⟩ ∨
        lib.recordOf? song = none ∧ stamp = ⟨count + 1, true, now⟩ ∧ song' = song) := by
  unfold draft? at hdraft
  cases htemporary : song.temporary with
  | true =>
    rw [htemporary, if_pos rfl] at hdraft
    cases hdraft
  | false =>
    rw [htemporary, if_neg (by decide)] at hdraft
    refine ⟨rfl, ?_⟩
    cases hrecord : lib.recordOf? song with
    -- The song has a record of its own, or its path has one.
    | some found =>
      rw [hrecord] at hdraft
      obtain ⟨rfl, rfl⟩ := Prod.mk.inj (Option.some.inj hdraft)
      exact .inl ⟨rfl, rfl⟩
    | none =>
      rw [hrecord] at hdraft
      obtain ⟨rfl, rfl⟩ := Prod.mk.inj (Option.some.inj hdraft)
      exact .inr ⟨rfl, rfl, rfl⟩

/-- A draft has a number, which is the one behind all records if it is new. -/
theorem number_of_draft? (hdraft : lib.draft? count now song = some (stamp, song')) :
    stamp.number ≠ 0 ∧ (stamp.isNew = true → stamp.number = count + 1) := by
  obtain ⟨_, ⟨hrecord, hstamp⟩ | ⟨_, rfl, _⟩⟩ := cases_of_draft? hdraft
  · have hold : stamp.isNew = false := congrArg Record.Stamp.isNew hstamp
    exact ⟨Nat.ne_of_gt (number_of_recordOf? hrecord).1, by simp [hold]⟩
  · exact ⟨Nat.succ_ne_zero _, fun _ => rfl⟩

/-- A song keeps its path in the draft of its record. -/
theorem path?_of_draft? (hdraft : lib.draft? count now song = some (stamp, song')) :
    song'.path? = song.path? := by
  obtain ⟨_, ⟨hrecord, _⟩ | ⟨_, _, rfl⟩⟩ := cases_of_draft? hdraft
  · rcases recordOf?_eq_some_iff.1 hrecord with ⟨_, rfl⟩ | ⟨_, old, _, _, rfl⟩
    · rfl
    · exact path?_adoptDate old song
  · rfl

/-- The number of a new record is asked for before the record is written. -/
def Reserves (stamp : Record.Stamp) (s u : StoreHandle σ × ω) : Prop :=
  if stamp.isNew then StoreHandle.allocate s = .ok stamp.number u else u = s

omit [RecordStore σ ω] in
/-- Only a temporary song has no draft. -/
theorem temporary_of_draft?_eq_none (hdraft : lib.draft? count now song = none) :
    song.temporary = true := by
  by_contra hlasting
  rw [draft?, if_neg hlasting] at hdraft
  split at hdraft <;> cases hdraft

/-- A temporary song is not written. -/
theorem writeSong_of_draft?_eq_none (hdraft : lib.draft? count now song = none)
    (s : StoreHandle σ × ω) :
    writeSong now (song, lib.onStore s) = .ok 0 (song, lib.onStore s) := by
  rw [writeSong_apply, if_pos (temporary_of_draft?_eq_none hdraft)]

/-- A song whose record has been written is settled. -/
theorem putRecord_of_write
    (hwrite : StoreHandle.write stamp.number (Text.bytes (Record.encode lib.tables stamp song)) s =
      .ok () t) :
    putRecord stamp (song, lib.onStore s) =
      .ok (Text.bytes (Record.encode lib.tables stamp song)).length
        ((settle stamp song lib).1, (settle stamp song lib).2.onStore t) := by
  have hwrite : StoreHandle.write stamp.number
      (Text.bytes (Record.encode (lib.withHandle s.1).tables stamp song))
      ((lib.withHandle s.1).handle, s.2) = .ok () t := hwrite
  simp only [putRecord, hwrite]
  rw [show (lib.withHandle s.1).withHandle t.1 = lib.withHandle t.1 from rfl, settle_withHandle]
  rfl

/-- Writing a song is putting the record of its draft into the store. -/
theorem writeSong_eq_putRecord (hdraft : lib.draft? count now song = some (stamp, song'))
    (hreserves : Reserves stamp s u) :
    writeSong now (song, lib.onStore s) = putRecord stamp (song', lib.onStore u) := by
  have happly := writeSong_apply now song (lib.withHandle s.1) s.2
  rw [show (lib.withHandle s.1).recordOf? song = lib.recordOf? song from rfl] at happly
  obtain ⟨hlasting, ⟨hrecord, hstamp⟩ | ⟨hrecord, rfl, rfl⟩⟩ := cases_of_draft? hdraft
  · -- The record is there already, so that the store is only asked to write.
    rw [hstamp] at hreserves
    obtain rfl : u = s := hreserves
    rw [hlasting, hrecord] at happly
    dsimp only at happly
    rw [← hstamp] at happly
    exact happly
  · -- The number of a new record is what the store hands out.
    have hallocate : StoreHandle.allocate ((lib.withHandle s.1).handle, s.2) =
        .ok (count + 1) u := hreserves
    rw [hlasting, hrecord, hallocate] at happly
    exact happly

/-- A song is written as its draft says, if the store takes the record. -/
theorem writeSong_of_draft? (hdraft : lib.draft? count now song = some (stamp, song'))
    (hreserves : Reserves stamp s u)
    (hwrite : StoreHandle.write stamp.number (Text.bytes (Record.encode lib.tables stamp song')) u =
      .ok () t) :
    writeSong now (song, lib.onStore s) =
      .ok (Text.bytes (Record.encode lib.tables stamp song')).length
        ((settle stamp song' lib).1, (settle stamp song' lib).2.onStore t) :=
  (writeSong_eq_putRecord hdraft hreserves).trans (putRecord_of_write hwrite)

/-- If the store refuses the record of a draft, the library stays as it is but for its handle. -/
theorem writeSong_of_draft?_refused (hdraft : lib.draft? count now song = some (stamp, song'))
    (hreserves : Reserves stamp s u) {stop : Stop LibraryFault}
    (hwrite : StoreHandle.write stamp.number (Text.bytes (Record.encode lib.tables stamp song')) u =
      .error stop t) :
    writeSong now (song, lib.onStore s) = .error stop (song', lib.onStore t) := by
  have hwrite : StoreHandle.write stamp.number
      (Text.bytes (Record.encode (lib.withHandle u.1).tables stamp song'))
      ((lib.withHandle u.1).handle, u.2) = .error stop t := hwrite
  rw [writeSong_eq_putRecord hdraft hreserves]
  simp only [putRecord, hwrite]
  rfl

/-- Several writes are one write and the writes behind it. -/
theorem writeEach_cons {i : ι} {songs : ι → Song} {before behind : Library σ × ω} {length : Nat}
    (hwrite : writeSong now (songs i, before) = .ok length (song', behind))
    (writes : List (ι × Instant)) :
    writeEach ((i, now) :: writes) (songs, before) =
      match writeEach writes (Function.update songs i song', behind) with
      | .ok lengths s => .ok (length :: lengths) s
      | .error stop s => .error stop s := by
  simp only [writeEach, onSong, Step.bind_apply, Step.focus_apply, hwrite, Step.pure_apply]
  cases writeEach writes (Function.update songs i song', behind) <;> rfl

end

/-! ### Writes to a store file -/

section

variable {root : StoreHandle SlotFile} {base : Disk} {place : Place} {h : Header} {dirty : Bool}
  {o : OpenSlots} {plain batched : Content} {lib : Library SlotFile} {song song' : Song}
  {stamp : Record.Stamp} {now : Instant}

omit [DecidableEq ι] in
/-- Steps of the handle leave the songs and the rest of the library. -/
theorem besideSongs_onHandle (songs : ι → Song) (lib : Library SlotFile)
    {s t : StoreHandle SlotFile × Disk} {α : Type}
    {step : HandleStep SlotFile Disk α} {a : α} (hstep : step s = .ok a t) :
    besideSongs (onHandle step) (songs, lib.onStore s) = .ok a (songs, lib.onStore t) := by
  have hstep : step ((lib.withHandle s.1).handle, s.2) = .ok a t := hstep
  simp only [besideSongs, onHandle, Step.focus_apply, hstep]
  rfl

variable [Allocator]

/-- With and without a batch the store comes by the number of a draft that fits. -/
theorem reserves_of_twins (ht : Twins root base place h 0 dirty none (some o) plain batched)
    (hdraft : lib.draft? h.count now song = some (stamp, song'))
    (hfits : Fits h.slotSize lib.tables (stamp, song')) :
    ∃ p? q?, Reserves stamp (onFile root base place false ⟨h.slotSize, none⟩ plain)
        (onFile root base place false ⟨h.slotSize, p?⟩ plain) ∧
      Reserves stamp (onFile root base place true ⟨h.slotSize, some o⟩ batched)
        (onFile root base place true ⟨h.slotSize, q?⟩ batched) ∧
      Twins root base place h stamp.number dirty p? q? plain batched := by
  obtain ⟨_, hnew⟩ := number_of_draft? hdraft
  unfold Reserves
  cases hisNew : stamp.isNew with
  -- The record is there, so that no number is asked for.
  | false => exact ⟨none, some o, rfl, rfl, ht.mono (Nat.zero_le _)⟩
  | true =>
    have hnumber := hnew hisNew
    have hcount : h.count < maxRecordNumber := by
      have hlt : stamp.number < maxRecordNumber := hfits.number_lt
      omega
    rw [hnumber]
    obtain ⟨p, q, hplain, hbatched, ht'⟩ := ht.allocate hcount
    exact ⟨some p, some q, hplain, hbatched, ht'⟩

/-- A song that is written leaves the same song and the same library, with and without a
batch. -/
theorem writeSong_of_twins (ht : Twins root base place h 0 dirty none (some o) plain batched)
    (hsize : h.slotSize ≤ 65536) (hdraft : lib.draft? h.count now song = some (stamp, song'))
    (hfits : Fits h.slotSize lib.tables (stamp, song')) :
    ∃ length dirty' o' plain' batched',
      writeSong now (song, lib.onStore (onFile root base place false ⟨h.slotSize, none⟩ plain)) =
        .ok length ((settle stamp song' lib).1, (settle stamp song' lib).2.onStore
          (onFile root base place false ⟨h.slotSize, none⟩ plain')) ∧
      writeSong now (song, lib.onStore (onFile root base place true ⟨h.slotSize, some o⟩ batched)) =
        .ok length ((settle stamp song' lib).1, (settle stamp song' lib).2.onStore
          (onFile root base place true ⟨h.slotSize, some o'⟩ batched')) ∧
      Twins root base place { h with count := max h.count stamp.number } 0 dirty' none (some o')
        plain' batched' := by
  have hmax : stamp.number ≤ maxRecordNumber := Nat.le_of_lt hfits.number_lt
  obtain ⟨p?, q?, hplain, hbatched, hreserved⟩ := reserves_of_twins ht hdraft hfits
  obtain ⟨dirty', o', plain', batched', hwrite, hwrite', ht'⟩ :=
    hreserved.write (number_of_draft? hdraft).1 hfits.length_le
      (SlotFile.inReach_of_le hsize hmax) hmax
  exact ⟨_, dirty', o', plain', batched', writeSong_of_draft? hdraft hplain hwrite,
    writeSong_of_draft? hdraft hbatched hwrite', ht'⟩

/-- Several songs that are written leave the same songs and the same library, with and without
a batch. -/
theorem writeEach_of_twins {writes : List (ι × Instant)} {songs : ι → Song}
    (ht : Twins root base place h 0 dirty none (some o) plain batched)
    (hsize : h.slotSize ≤ 65536)
    (hfits : ∀ draft ∈ drafts h.count writes songs lib, Fits h.slotSize lib.tables draft) :
    ∃ (lengths : List Nat) (songs' : ι → Song) (lib' : Library SlotFile) (count : Nat)
        (dirty' : Bool) (o' : OpenSlots) (plain' batched' : Content),
      writeEach writes
          (songs, lib.onStore (onFile root base place false ⟨h.slotSize, none⟩ plain)) =
        .ok lengths
          (songs', lib'.onStore (onFile root base place false ⟨h.slotSize, none⟩ plain')) ∧
      writeEach writes
          (songs, lib.onStore (onFile root base place true ⟨h.slotSize, some o⟩ batched)) =
        .ok lengths
          (songs', lib'.onStore (onFile root base place true ⟨h.slotSize, some o'⟩ batched')) ∧
      Twins root base place { h with count := count } 0 dirty' none (some o') plain' batched' := by
  -- The header, the library and the songs of the caller change from write to write.
  induction writes generalizing h songs lib dirty o plain batched with
  | nil => exact ⟨[], songs, lib, h.count, dirty, o, plain, batched, rfl, rfl, ht⟩
  | cons write writes ih =>
    obtain ⟨i, now⟩ := write
    rw [drafts] at hfits
    cases hdraft : lib.draft? h.count now (songs i) with
    | none =>
      -- A temporary song is passed over.
      rw [hdraft] at hfits
      obtain ⟨lengths, songs', lib', count, dirty', o', plain', batched', hplain, hbatched, ht'⟩ :=
        ih ht hsize hfits
      have hwrite := writeSong_of_draft?_eq_none hdraft
      refine ⟨0 :: lengths, songs', lib', count, dirty', o', plain', batched', ?_, ?_, ht'⟩
      · rw [writeEach_cons (hwrite _), Function.update_eq_self, hplain]
      · rw [writeEach_cons (hwrite _), Function.update_eq_self, hbatched]
    | some draft =>
      obtain ⟨stamp, song'⟩ := draft
      rw [hdraft] at hfits
      obtain ⟨hfirst, hrest⟩ := List.forall_mem_cons.1 hfits
      obtain ⟨length, _, _, _, _, hwrite, hwrite', hnext⟩ :=
        writeSong_of_twins ht hsize hdraft hfirst
      -- The writes behind the first one have the drafts that were foreseen for them.
      have hrest : ∀ draft ∈ drafts (max h.count stamp.number) writes
          (Function.update songs i (settle stamp song' lib).1) (settle stamp song' lib).2,
          Fits h.slotSize (settle stamp song' lib).2.tables draft := by
        rw [tables_settle]
        exact hrest
      obtain ⟨lengths, songs', lib', count, dirty', o', plain', batched', hplain, hbatched, ht'⟩ :=
        ih hnext hsize hrest
      refine ⟨length :: lengths, songs', lib', count, dirty', o', plain', batched', ?_, ?_, ht'⟩
      · rw [writeEach_cons hwrite, hplain]
      · rw [writeEach_cons hwrite', hbatched]

end

/-! ### Whole batches -/

/-- For a library of a store file that is not in a batch, writing songs during a batch and
writing them without one succeed alike if their records fit the slots: they tell the same
lengths, and leave the same songs, the same library with a closed store, and the same bytes
in the store file. -/
theorem batch_eq_plain [Allocator] {audio : AudioCheck Disk} {tables : Tables}
    {lib : Library SlotFile} {disk : Disk} {place : Place} {h : Header} {slots : Nat → Bytes}
    (hreach : Reachable audio tables Unopened (fun _ _ => False) lib disk)
    (hbatch : lib.handle.inBatch = false) (hhas : Has place h slots (lib.handle, disk))
    (hsize : h.slotSize ≤ 65536) (songs : ι → Song) (writes : List (ι × Instant))
    (hfits : ∀ draft ∈ drafts h.count writes songs lib, Fits h.slotSize lib.tables draft) :
    ∃ lengths songs' lib' plain batched,
      writeEach writes (songs, lib, disk) =
        .ok lengths (songs', lib', disk.put place (.file plain)) ∧
      writeBatch writes (songs, lib, disk) =
        .ok lengths (songs', lib', disk.put place (.file batched)) ∧
      plain.toBytes = batched.toBytes ∧
      lib'.handle = lib.handle ∧ lib'.handle.store.open? = none := by
  have hstore := hreach.atRest.store_eq hbatch hhas
  -- Both runs start from the closed file; one of them opens it for the batch.
  obtain ⟨hsame, hplain⟩ := hhas.inUse_of_closed hbatch hstore
  obtain ⟨o, hstart, hbatched⟩ := hplain.startBatch
  obtain ⟨lengths, songs', lib', count, dirty, o', plain, batched, hwrites, hwrites', htwins⟩ :=
    writeEach_of_twins ⟨hplain, hbatched, rfl⟩ hsize hfits
  have hend := htwins.during.endBatch
  rw [hsame] at hstart hwrites
  -- Either run ends with the handle that it has started from.
  have hback : ∀ content,
      lib'.onStore (onFile lib.handle disk place false ⟨h.slotSize, none⟩ content) =
        (lib'.withHandle lib.handle, disk.put place (.file content)) := by
    intro content
    rw [onStore, onFile, ← hstore, ← hbatch]
  refine ⟨lengths, songs', lib'.withHandle lib.handle, plain, _, ?_, ?_, htwins.same, rfl, ?_⟩
  · rw [← hback]
    exact hwrites
  · have hstarted : besideSongs Library.startBatch (songs, lib, disk) =
        .ok () (songs, lib.onStore _) := besideSongs_onHandle songs lib hstart
    have hended : besideSongs Library.endBatch (songs', lib'.onStore _) =
        .ok () (songs', lib'.onStore _) := besideSongs_onHandle songs' lib' hend
    simp only [writeBatch, Step.bind_apply, hstarted, hwrites', hended, Step.pure_apply, hback]
  · show lib.handle.store.open? = none
    rw [hstore]

/-! ### Two new songs and a temporary one -/

variable {lib : Library SlotFile}

/-- A song whose path is not on record changes nothing of a library. -/
theorem settle_of_new (hconsistent : Consistent lib) {stamp : Record.Stamp}
    {song : Song} {path : String} (hpath : song.path? = some path)
    (hnew : lib.getByPath? path = none) :
    settle stamp song lib = (stamped lib.tables stamp song, lib) := by
  have hplace : lib.byPath[path]? = none := by
    rw [Option.eq_none_iff_forall_ne_some]
    intro i hi
    obtain ⟨old, hold, _⟩ := (hconsistent.byPath path i).1 hi
    simp [getByPath?, hi, hold] at hnew
  unfold settle
  dsimp only
  rw [path?_stamped, hpath, Option.bind_some, hplace]

/-- The songs of the caller. -/
private def dances : Fin 3 → Song
  | 0 => moonRiver
  | 1 => libertango
  | 2 => { libertango with temporary := true }

/-- The first song is written twice. -/
private def danceWrites : List (Fin 3 × Instant) :=
  [(0, .epoch), (1, .epoch), (2, .epoch), (0, .epoch)]

/-- The drafts are the first record, the second one and the first again. -/
private theorem drafts_dances (hconsistent : Consistent lib) (htables : lib.tables = .standard)
    (hsongs : ∀ path, lib.getByPath? path = none) :
    drafts 0 danceWrites dances lib =
      [(⟨1, true, .epoch⟩, moonRiver), (⟨2, true, .epoch⟩, libertango),
        (⟨1, false, .epoch⟩, stamped .standard ⟨1, true, .epoch⟩ moonRiver)] := by
  have hnumber : ∀ path, lib.numberOf? path = none := by
    intro path
    rw [numberOf?, hsongs, Option.bind_none]
  have hriver : lib.recordOf? moonRiver = none := recordOf?_eq_none rfl rfl (hnumber "a.mp3")
  have htango : lib.recordOf? libertango = none := recordOf?_eq_none rfl rfl (hnumber "b.mp3")
  -- Once it has its number the first song is no new one.
  have hagain : lib.recordOf? (stamped .standard ⟨1, true, .epoch⟩ moonRiver) =
      some (1, stamped .standard ⟨1, true, .epoch⟩ moonRiver) :=
    recordOf?_eq_some_iff.2 (.inl ⟨recordNumber?_stamped _ _ _ (by decide), rfl⟩)
  -- No song is on record, so that settling changes nothing of the library.
  have hsettle : ∀ (stamp : Record.Stamp) (song : Song) (path : String),
      song.path? = some path → settle stamp song lib = (stamped .standard stamp song, lib) := by
    intro stamp song path hpath
    rw [settle_of_new hconsistent hpath (hsongs path), htables]
  have hlasting : moonRiver.temporary = false ∧ libertango.temporary = false := ⟨rfl, rfl⟩
  simp [danceWrites, drafts, draft?, dances, hriver, htango, hagain, hlasting,
    hsettle _ moonRiver "a.mp3" rfl, hsettle _ libertango "b.mp3" rfl, temporary_stamped]

/-- Two new songs, one of them twice, and a temporary one are written to an empty library. -/
theorem batch_eq_plain_dances :
    ∃ lib disk place lengths songs' lib' plain batched,
      Reachable (fun _ _ => .ok true) .standard Unopened (fun _ _ => False) lib disk ∧
      writeEach danceWrites (dances, lib, disk) =
        .ok lengths (songs', lib', disk.put place (.file plain)) ∧
      writeBatch danceWrites (dances, lib, disk) =
        .ok lengths (songs', lib', disk.put place (.file batched)) ∧
      plain.toBytes = batched.toBytes := by
  obtain ⟨place, slots, disk, lib, hstart, hload, hhas, hbatch, _, hconsistent, htables, hsongs⟩ :=
    exists_loaded_empty .standard
  have hreach : Reachable (fun _ _ => .ok true) .standard Unopened (fun _ _ => False) lib disk :=
    .load hstart hload
  have hfits : ∀ draft ∈ drafts 0 danceWrites dances lib, Fits 256 lib.tables draft := by
    rw [drafts_dances hconsistent htables hsongs, htables]
    simp only [List.forall_mem_cons, List.not_mem_nil, false_implies, implies_true, and_true]
    exact ⟨⟨by decide, by decide +kernel⟩, ⟨by decide, by decide +kernel⟩,
      ⟨by decide, by decide +kernel⟩⟩
  obtain ⟨lengths, songs', lib', plain, batched, hplain, hbatched, hsame, _⟩ :=
    batch_eq_plain hreach hbatch hhas (by decide) dances danceWrites hfits
  exact ⟨lib, disk, place, lengths, songs', lib', plain, batched, hreach, hplain, hbatched, hsame⟩

end Ballroom.Library
