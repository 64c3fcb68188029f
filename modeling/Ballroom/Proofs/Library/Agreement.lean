import Ballroom.Proofs.Library.OnDisk
import Ballroom.Proofs.Record.Storable
import Ballroom.Proofs.Record.Stored
import Ballroom.Proofs.Store.Refinement

/-!
# Memory and disk agree after every write

A song that has been written, the song on record under its path and the song that is read
from its slot have the same tags (`writeSong_agrees`).  The stamp of the song in memory and
the record on disk are made by different code; `value?_recorded_eq` says when they agree.
-/

namespace Ballroom

namespace Record

variable {tables : Tables} {stamp : Stamp} {song : Song} {path : String}

/-- The record of a storable song has the tags that the song gets in memory. -/
theorem value?_recorded_eq (h : StorableSong tables song) (hpath : song.path? = some path)
    (hnumber : stamp.number ≤ maxRecordNumber) :
    (recorded tables stamp song).value? = (Library.stamped tables stamp song).value? := by
  funext tag
  have hread := h.value?_recorded hpath hnumber tag
  have hstamped := Library.value?_stamped tables stamp song tag
  cases tag <;> exact hread.trans hstamped.symm

end Record

namespace Library

open SlotFile (Browsable browsable_of_le)
open StoreHandle (Has request_apply)

variable {audio : AudioCheck Disk} {tables : Tables} {lib lib' : Library SlotFile}
  {disk disk' : Disk} {stamp : Record.Stamp} {song song' : Song} {path : String} {n : Nat}
  {handle : StoreHandle SlotFile} {place : Place} {h : Header} {slots : Nat → Bytes}

/-! ### What is in memory -/

/-- The song that a library has under the path of a song that has been settled. -/
theorem settle_eq (h : Consistent lib) (hpath : song.path? = some path)
    (hsettle : (song', lib') = settle stamp song lib) :
    song'.value? = (stamped lib.tables stamp song).value? ∧ lib'.tables = lib.tables ∧
      lib'.byPath = lib.byPath ∧ ∀ i : Nat, lib'.byPath[path]? = some i →
        lib'.songs[i]? = some song' ∧ song' = (stamped lib.tables stamp song).withIndex i := by
  have hplace : (stamped lib.tables stamp song).path? = some path := by
    rw [path?_stamped, hpath]
  simp only [settle, hplace, Option.bind_some] at hsettle
  cases hi : lib.byPath[path]? with
  | none =>
    rw [hi] at hsettle
    -- The path is not on record, and the library stays as it is.
    obtain ⟨rfl, rfl⟩ := Prod.mk.inj hsettle
    refine ⟨rfl, rfl, rfl, ?_⟩
    intro i hfound
    rw [hi] at hfound
    cases hfound
  | some i =>
    rw [hi] at hsettle
    dsimp only at hsettle
    obtain ⟨old, hold, hsame⟩ := (h.byPath path i).1 hi
    have heq : ((stamped lib.tables stamp song).withIndex i).path? = old.path? := by
      rw [Song.path?_withIndex, hplace, hsame]
    -- The song at the place has the same path, so that no path moves.
    rw [replace_of_path_eq hold heq] at hsettle
    obtain ⟨rfl, rfl⟩ := Prod.mk.inj hsettle
    refine ⟨rfl, rfl, rfl, ?_⟩
    intro j hj
    obtain rfl : i = j := Option.some.inj (hi.symm.trans hj)
    refine ⟨?_, rfl⟩
    dsimp only
    rw [Array.getElem?_setIfInBounds, if_pos rfl, if_pos (Array.getElem?_eq_some_iff.1 hold).1]

/-- The song that is read again from the record of a stamped song is that song, tag by tag. -/
private theorem stamped_of_read
    (hread : (Record.recorded tables stamp song).value? = (stamped tables stamp song).value?)
    (hlasting : song.temporary = false) (i : Nat) :
    ((Record.recorded tables stamp song).setRecordNumber stamp.number).withIndex i =
      (stamped tables stamp song).withIndex i := by
  apply Song.ext
  · intro tag
    rw [Song.value?_withIndex, Song.value?_withIndex, Song.setRecordNumber, Song.value?_set]
    split
    · rename_i htag
      rw [htag, value?_stamped]
    · rw [hread]
  · rfl
  · exact hlasting.symm.trans (temporary_stamped tables stamp song).symm

/-- A song that takes over a storable date stays storable. -/
theorem storableSong_adoptDate {old : Song} (hstorable : Record.StorableSong lib.tables song)
    (hdate : ∀ date, old.value? .addDate = some date → Record.Storable lib.tables .addDate date) :
    Record.StorableSong lib.tables (adoptDate old song) := by
  intro tag value htime hnumber hvalue
  unfold adoptDate at hvalue
  split at hvalue
  · rename_i date hold
    split at hvalue
    · exact hstorable tag value htime hnumber hvalue
    · rw [Song.value?_set] at hvalue
      split at hvalue
      · rename_i htag
        subst htag
        obtain ⟨held, hheld, htext⟩ := Option.bind_eq_some_iff.1 hold
        obtain rfl := Option.some.inj hvalue
        -- A date that is taken over is a text, and the one that was held.
        cases held with
        | text s =>
          obtain rfl := Option.some.inj htext
          exact hdate _ hheld
        | number m => cases htext
        | words ws => cases htext
      · exact hstorable tag value htime hnumber hvalue
  · exact hstorable tag value htime hnumber hvalue

section Files

variable [Allocator]

/-! ### What has been written is read -/

/-- A record that has been written is stored in its slot, and the other slots hold what they
held. -/
theorem putRecord_stored (hhas : Has place h slots (lib.handle, disk))
    (hnumber : stamp.number ≤ maxRecordNumber)
    (hput : putRecord stamp (song, lib, disk) = .ok n (song', lib', disk')) :
    (song', lib') = settle stamp song (lib.withHandle lib'.handle) ∧ stamp.number ≠ 0 ∧
      SlotFile.InReach h.slotSize stamp.number ∧
      Has place { h with count := max h.count stamp.number }
        (Function.update slots stamp.number (Record.stored lib.tables stamp song))
        (lib'.handle, disk') ∧
      StoreHandle.Settled h lib'.handle ∧
      StoreHandle.write stamp.number (Text.bytes (Record.encode lib.tables stamp song))
        (lib.handle, disk) = .ok () (lib'.handle, disk') := by
  simp only [putRecord] at hput
  obtain ⟨u, hwrite, hn, hreach, hhas', hsettled⟩ | ⟨_, u, hwrite, _⟩ | ⟨⟨_, u, hwrite⟩, _⟩ :=
    hhas.write hnumber (Text.bytes (Record.encode lib.tables stamp song))
  · rw [hwrite] at hput
    obtain ⟨-, hstate⟩ := EStateM.Result.ok.inj hput
    obtain ⟨rfl, hrest⟩ := Prod.mk.inj hstate
    obtain ⟨rfl, rfl⟩ := Prod.mk.inj hrest
    rw [handle_settle]
    exact ⟨rfl, hn, hreach, hhas', hsettled, hwrite⟩
  · rw [hwrite] at hput
    cases hput
  · rw [hwrite] at hput
    cases hput

/-- A record that is refused leaves every slot as it was. -/
theorem putRecord_refused (hhas : Has place h slots (lib.handle, disk))
    (hnumber : stamp.number ≤ maxRecordNumber) {fault : LibraryFault}
    (hput : putRecord stamp (song, lib, disk) = .error (.fault fault) (song', lib', disk')) :
    Has place h slots (lib'.handle, disk') := by
  simp only [putRecord] at hput
  obtain ⟨u, hwrite, _⟩ | ⟨cause, u, hwrite, ⟨hhas', _⟩, _⟩ | ⟨⟨why, u, hpanic⟩, _⟩ :=
    hhas.write hnumber (Text.bytes (Record.encode lib.tables stamp song))
  · rw [hwrite] at hput
    cases hput
  · rw [hwrite] at hput
    obtain ⟨-, hstate⟩ := EStateM.Result.error.inj hput
    obtain ⟨-, hrest⟩ := Prod.mk.inj hstate
    obtain ⟨rfl, rfl⟩ := Prod.mk.inj hrest
    exact hhas'
  · rw [hpanic] at hput
    cases hput

/-- A record that has been written is read from its slot, and reading it changes nothing. -/
theorem putRecord_ok (hfile : OnDisk (lib, disk)) (hnumber : stamp.number ≤ maxRecordNumber)
    (hput : putRecord stamp (song, lib, disk) = .ok n (song', lib', disk')) :
    (song', lib') = settle stamp song (lib.withHandle lib'.handle) ∧ 1 ≤ stamp.number ∧
      StoreHandle.readSingle stamp.number (lib'.handle, disk') =
        .ok (some (Record.stored lib.tables stamp song)) (lib'.handle, disk') := by
  obtain ⟨place, h, slots, hhas⟩ := hfile
  obtain ⟨hsettle, hn, hreach, hhas', hsettled, _⟩ := putRecord_stored hhas hnumber hput
  have hread := hhas'.readSingle_of_settled hsettled hn (Nat.le_max_right _ _) hreach
  rw [Function.update_self, if_neg (Record.stored_ne_nil lib.tables stamp song)] at hread
  exact ⟨hsettle, Nat.pos_of_ne_zero hn, hread⟩

/-- Memory and disk agree on a song: what is in the slot of its number, and what a library
has under its path, has the tags of the song, and reading it again changes nothing. -/
structure Agrees (path : String) (song : Song) (lib : Library SlotFile) (disk : Disk) : Prop where
  slot : ∃ number data read, song.recordNumber? = some number ∧
    StoreHandle.readSingle number (lib.handle, disk) = .ok (some data) (lib.handle, disk) ∧
    Record.decode lib.tables data = .ok read ∧ read.value? = song.value?
  onRecord : ∀ i : Nat, lib.byPath[path]? = some i → ∃ indexed,
    lib.getByPath? path = some indexed ∧ indexed.value? = song.value? ∧
      loadEntry i (lib, disk) = .ok (some indexed) (lib, disk)

/-- Reading a song on record from a slot that holds it changes nothing. -/
private theorem loadEntry_same (h : Consistent lib) {i : Nat} {indexed read : Song} {data : Bytes}
    (hsong : lib.songs[i]? = some indexed) (hnumber : indexed.recordNumber? = some n)
    (hslot : StoreHandle.readSingle n (lib.handle, disk) = .ok (some data) (lib.handle, disk))
    (hdecode : Record.decode lib.tables data = .ok read) (hpath : read.path? = indexed.path?)
    (hsame : (read.setRecordNumber n).withIndex i = indexed) :
    loadEntry i (lib, disk) = .ok (some indexed) (lib, disk) := by
  have htarget : lib.target? i = some (i, indexed, n) :=
    target?_eq_some_iff.2 ⟨rfl, hsong, hnumber⟩
  have hhandle : lib.withHandle lib.handle = lib := rfl
  rw [loadEntry_apply, htarget]
  dsimp only
  rw [hslot]
  dsimp only
  rw [hdecode]
  dsimp only
  -- The slot names the same path, and the song at the place is replaced by itself.
  rw [if_neg (not_not_intro hpath), hsame, hhandle, h.replace_self hsong]

/-- Memory and disk agree on a song whose record has been written. -/
theorem putRecord_agrees (h : Consistent lib) (h' : Consistent lib') (hfile : OnDisk (lib, disk))
    (hnumber : stamp.number ≤ maxRecordNumber) (hstatus : Text.Plain lib.tables.defaultStatus)
    (hpath : song.path? = some path) (hne : path ≠ "")
    (hstorable : Record.StorableSong lib.tables song) (hlasting : song.temporary = false)
    (hput : putRecord stamp (song, lib, disk) = .ok n (song', lib', disk')) :
    Agrees path song' lib' disk' := by
  have hflat : Record.flatten path ≠ "" := by
    rw [hstorable.flatten_path hpath]
    exact hne
  obtain ⟨hsettle, hpos, hread⟩ := putRecord_ok hfile hnumber hput
  rw [Record.stored_eq_bytes lib.tables stamp song hstatus] at hread
  obtain ⟨hvalue, htables, _, hplace⟩ := settle_eq (h.withHandle lib'.handle) hpath hsettle
  have htables : lib'.tables = lib.tables := htables
  have hvalue : song'.value? = (stamped lib.tables stamp song).value? := hvalue
  -- What was written is decoded as the recorded song, which has all values of the settled one.
  have hdecode := Record.decode_encode lib.tables stamp song hpath hflat hstatus
  have hrecorded : (Record.recorded lib.tables stamp song).value? = song'.value? := by
    rw [hvalue, Record.value?_recorded_eq hstorable hpath hnumber]
  have hnum : song'.recordNumber? = some stamp.number :=
    (Song.recordNumber?_congr hvalue).trans
      (recordNumber?_stamped lib.tables stamp song ⟨hpos, hnumber⟩)
  refine ⟨⟨stamp.number, _, _, hnum, hread, ?_, hrecorded⟩, ?_⟩
  · rw [htables, hdecode]
  · intro i hi
    obtain ⟨hsong, hindexed⟩ := hplace i hi
    have hsamePath : (Record.recorded lib.tables stamp song).path? = song'.path? :=
      Song.path?_congr hrecorded
    -- Read again, the song is the one that memory has at its place.
    have hagain : ((Record.recorded lib.tables stamp song).setRecordNumber
        stamp.number).withIndex i = song' := by
      rw [hindexed]
      exact stamped_of_read (hrecorded.trans hvalue) hlasting i
    refine ⟨song', ?_, rfl, ?_⟩
    · rw [getByPath?, hi, Option.bind_some, hsong]
    · exact loadEntry_same h' hsong hnum hread (by rw [htables, hdecode]) hsamePath hagain

/-! ### Every write -/

/-- After a song with storable values has been written to a store file, the song of the
caller, the song on record under its path and the bytes in its slot agree, and reading the
song on record again changes nothing. -/
theorem writeSong_agrees (hreach : Reachable audio tables Unopened (fun _ _ => False) lib disk)
    (hstatus : Text.Plain lib.tables.defaultStatus) (hlasting : song.temporary = false)
    (hpath : song.path? = some path) (hne : path ≠ "")
    (hstorable : Record.StorableSong lib.tables song)
    (hdate : ∀ old date, lib.getByPath? path = some old → old.value? .addDate = some date →
      Record.Storable lib.tables .addDate date) {now : Instant}
    (hwrite : writeSong now (song, lib, disk) = .ok n (song', lib', disk')) :
    Agrees path song' lib' disk' := by
  have hfile := hreach.onDisk
  have h : Consistent lib :=
    (hreach.mono fun _ _ hunopened => countsWithin_of_unopened hunopened).consistent
  have h' : Consistent lib' := by
    have hafter := h.writeSong now song disk
    rwa [Step.after_of_ok hwrite] at hafter
  rw [writeSong_apply, hlasting] at hwrite
  simp only [Bool.false_eq_true, if_false] at hwrite
  cases hrecord : lib.recordOf? song with
  | some found =>
    obtain ⟨number, written⟩ := found
    rw [hrecord] at hwrite
    have hnumber : number ≤ maxRecordNumber := (number_of_recordOf? hrecord).2
    rcases recordOf?_eq_some_iff.1 hrecord with ⟨_, rfl⟩ | ⟨_, old, hold, _, rfl⟩
    · exact putRecord_agrees h h' hfile hnumber hstatus hpath hne hstorable hlasting hwrite
    · -- The record of the song with this path is used, whose date is taken over.
      rw [onRecord?, hpath, Option.bind_some] at hold
      exact putRecord_agrees h h' hfile hnumber hstatus (by rw [path?_adoptDate, hpath]) hne
        (storableSong_adoptDate hstorable fun date => hdate old date hold)
        (by rw [temporary_adoptDate, hlasting]) hwrite
  | none =>
    -- A new record has a number that was not in use.
    rw [hrecord] at hwrite
    obtain ⟨place, header, slots, hhas⟩ := hfile
    obtain ⟨number, u, hallocate, hnumber, hhas'⟩ | ⟨why, u, hallocate⟩ := Has.allocate hhas
    · simp only [hallocate] at hwrite
      have hfile' : OnDisk (lib.withHandle u.1, u.2) := ⟨_, _, _, hhas'⟩
      exact putRecord_agrees (h.withHandle u.1) h' hfile' hnumber hstatus hpath hne hstorable
        hlasting hwrite
    · simp only [hallocate] at hwrite
      cases hwrite

/-! ### A library of one song -/

/-- A store of one record is loaded as a library of one song. -/
private theorem load_of_one (hhas : Has place h slots (handle, disk))
    (hcount : h.count = 1)
    (hreach : SlotFile.InReach h.slotSize 1) (hdecode : Record.decode tables (slots 1) = .ok song)
    (hthere : ∀ w path, isThere audio w path = true) :
    ∃ handle' disk', load audio handle tables disk =
        .ok (fill (empty handle' tables) [song.setRecordNumber 1]) disk' ∧
      Has place h slots (handle', disk') := by
  obtain ⟨f, o, hacquire, hhas', ho⟩ := hhas.acquired
  generalize hopened : { handle with store := f } = opened at hacquire hhas'
  have hstore : opened.store = f := by rw [← hopened]
  have hisOpen : opened.isOpen disk = true := by
    rw [StoreHandle.isOpen_eq, hstore, ho, Option.isSome_some]
  rw [← hstore] at ho
  -- The scan counts one record and reads it.
  have hcounted : StoreHandle.count (opened, disk) = .ok 1 (opened, disk) := by
    obtain ⟨_, _, hn, _⟩ := hhas'.serves.opened o ho
    have hresult : RecordStore.count (opened.store, disk) = _ := SlotFile.count_apply ho
    simp only [StoreHandle.count, StoreHandle.onlyOpen, Step.bind_apply, Step.get_apply, hisOpen,
      if_true, request_apply, hresult, hn, hcount]
  have hread : StoreHandle.read 1 (opened, disk) = .ok (some (slots 1)) (opened, disk) := by
    have hne : slots 1 ≠ [] := by
      intro hempty
      rw [hempty, Record.decode_nil] at hdecode
      cases hdecode
    have hresult : RecordStore.read 1 (opened.store, disk) = _ :=
      hhas'.serves.read ho fun _ _ => hreach
    rw [if_neg (by simp [hcount, hne])] at hresult
    simp only [StoreHandle.read, StoreHandle.onlyOpen, Step.bind_apply, Step.get_apply, hisOpen,
      if_true, request_apply, hresult]
  obtain ⟨disk', hclose, hhas'', _⟩ := hhas'.close
  refine ⟨_, disk', ?_, hhas''⟩
  simp [-bind_pure_comp, load, scanStore, countOrClose, scan, readSlot, hacquire, hcounted, hread,
    hdecode, hthere, Except.toOption, hclose]

/-- A closed store file has what a map has after the same calls. -/
theorem exists_has_of_calls {calls : List StoreCall} {m : RecordMap}
    (hcalls : ∀ call ∈ calls, call.NumberBelow Number.maxUInt32)
    (hmap : (StoreCall.answers (RecordMap.answer 256) .created calls).2 = m)
    (hclosed : m.handedOut? = none) :
    ∃ place disk,
      Has place ⟨1, 256, m.count⟩ m.slot (⟨{ slotSize := 256 }, "db", 1, false⟩, disk) := by
  obtain ⟨s, hmade⟩ := SlotFile.made_db (show 1 ≤ 256 by decide) (by decide)
  obtain ⟨place, hsim⟩ := hmade.simulates
  obtain ⟨_, hlast⟩ := hsim.answers hmade.slotSize_le hcalls
  rw [hmap] at hlast
  have hbrowsable : Browsable ⟨1, 256, m.count⟩ :=
    browsable_of_le (show 256 ≤ 65536 by decide) hlast.serves.fits.count_le
  exact ⟨place, _, rfl, hlast.serves.handOver (hlast.closed hclosed).1 256, hbrowsable⟩

end Files

/-- A store file with one record. -/
private theorem exists_has_one {data : Bytes} (hlength : data.length ≤ 256)
    (hzero : ∀ b ∈ data, b ≠ 0) :
    ∃ place slots disk, slots 1 = data ∧
      Has place ⟨1, 256, 1⟩ slots (⟨{ slotSize := 256 }, "db", 1, false⟩, disk) := by
  have hcalls : ∀ call ∈ [StoreCall.write 1 data, .close], call.NumberBelow Number.maxUInt32 := by
    simp [StoreCall.NumberBelow, Number.maxUInt32]
  -- The map of records says what the file holds after both calls.
  have hmap : (StoreCall.answers (RecordMap.answer 256) .created [.write 1 data, .close]).2 =
      { RecordMap.created.put 1 data with handedOut? := none, configured := 256 } := by
    simp [StoreCall.answers, RecordMap.answer, RecordMap.whileOpen, RecordMap.created,
      RecordMap.put, Nat.not_lt_of_le hlength]
  obtain ⟨place, disk, hhas⟩ := exists_has_of_calls hcalls hmap rfl
  refine ⟨place, _, disk, ?_, hhas⟩
  show (RecordMap.created.put 1 data).slot 1 = data
  rw [RecordMap.slot_put, Function.update_self, List.takeWhile_eq_self_iff]
  simpa using hzero

/-- A song of the first dance. -/
private def march : Song := (Song.empty.set .file (.text "a.mp3")).set .dance (.number 0)

/-- The song with the number of its record and a title. -/
private def titled : Song := (march.setRecordNumber 1).set .title (.text "March")

/-- Every tag of the song is read back from its text. -/
private theorem storable_titled : Record.StorableSong .standard titled := by
  have hown : ∀ tag ∈ [Tag.file, .dance, .title], ∀ value ∈ titled.value? tag,
      Record.parseValue .standard tag (Record.formatValue .standard tag value) = value := by
    decide +kernel
  intro tag value _ hnumber hvalue
  cases tag
  case file => exact hown .file (by decide) value hvalue
  case dance => exact hown .dance (by decide) value hvalue
  case title => exact hown .title (by decide) value hvalue
  case recordNumber => exact absurd rfl hnumber
  all_goals cases hvalue

/-- A library that was loaded from a file with the record of the song. -/
private theorem reachable_march :
    ∃ lib disk place slots,
      Reachable (fun _ _ => .ok true) .standard Unopened (fun _ _ => False) lib disk ∧
      lib.tables = .standard ∧ Has place ⟨1, 256, 1⟩ slots (lib.handle, disk) ∧
      ∀ i : Nat, lib.songs[i]? = ([(Record.recorded .standard ⟨1, false, .epoch⟩
        march).setRecordNumber 1][i]?).map fun song => song.withIndex i := by
  have hplain : Text.Plain Tables.standard.defaultStatus := by decide
  have hpath : march.path? = some "a.mp3" := rfl
  have hdecode := Record.decode_encode .standard ⟨1, false, .epoch⟩ march hpath (by decide) hplain
  have hlength : (Text.bytes (Record.encode .standard ⟨1, false, .epoch⟩ march)).length ≤ 256 := by
    decide +kernel
  obtain ⟨place, slots, disk, hslot, hhas⟩ := exists_has_one hlength
    (Record.ne_zero_of_mem_encode .standard ⟨1, false, .epoch⟩ march hplain)
  rw [← hslot] at hdecode
  have hthere : ∀ (disk : Disk) path, isThere (fun _ _ => .ok true) disk path = true :=
    fun _ _ => rfl
  obtain ⟨handle, disk', hload, hhas'⟩ :=
    load_of_one hhas rfl ⟨by decide, by decide⟩ hdecode hthere
  have hunopened : Unopened ⟨{ slotSize := 256 }, "db", 1, false⟩ disk :=
    ⟨rfl, by decide, by decide, by decide⟩
  refine ⟨_, disk', place, slots, .load hunopened hload, rfl, hhas', ?_⟩
  intro i
  rw [getElem?_songs_fill, List.mergeSort_singleton]

/-- A song on record is written into its own slot with a title. -/
theorem writeSong_agrees_titled :
    ∃ lib disk song' lib' disk' n,
      Reachable (fun _ _ => .ok true) .standard Unopened (fun _ _ => False) lib disk ∧
      writeSong .epoch (titled, lib, disk) = .ok n (song', lib', disk') ∧
      lib'.byPath["a.mp3"]? = some 0 ∧ Agrees "a.mp3" song' lib' disk' := by
  obtain ⟨lib, disk, place, slots, hreachable, htables, hhas, hsongs⟩ := reachable_march
  have hconsistent := (hreachable.mono fun _ _ h => countsWithin_of_unopened h).consistent
  have hrecord : lib.recordOf? titled = some (1, titled) :=
    recordOf?_eq_some_iff.2 (.inl ⟨by decide, rfl⟩)
  have hfits : 1 ≠ 0 ∧ (Text.bytes (Record.encode .standard ⟨1, false, .epoch⟩ titled)).length ≤
      256 ∧ SlotFile.InReach 256 1 := ⟨by decide, by decide +kernel, by decide, by decide⟩
  obtain ⟨u, hwrite, _⟩ | ⟨stop, u, _, _, hrefused⟩ | ⟨_, hrefused⟩ :=
    hhas.write (show 1 ≤ Number.maxUInt32 by decide)
      (Text.bytes (Record.encode .standard ⟨1, false, .epoch⟩ titled))
  · obtain ⟨song', lib', hsettle⟩ : ∃ song' lib',
        (song', lib') = settle ⟨1, false, .epoch⟩ titled (lib.withHandle u.1) := ⟨_, _, rfl⟩
    obtain ⟨n, hput⟩ : ∃ n, writeSong .epoch (titled, lib, disk) = .ok n (song', lib', u.2) := by
      rw [writeSong_apply, hrecord]
      simp only [putRecord, htables, hwrite, ← hsettle]
      exact ⟨_, rfl⟩
    have hplace : lib'.byPath["a.mp3"]? = some 0 := by
      obtain ⟨_, _, hbyPath, _⟩ :=
        settle_eq (hconsistent.withHandle u.1) (show titled.path? = some "a.mp3" from rfl) hsettle
      rw [hbyPath]
      exact (hconsistent.byPath "a.mp3" 0).2 ⟨_, hsongs 0, by decide +kernel⟩
    refine ⟨lib, disk, song', lib', u.2, n, hreachable, hput, hplace, ?_⟩
    refine writeSong_agrees hreachable (by rw [htables]; decide) rfl rfl (by decide) ?_ ?_ hput
    · rw [htables]
      exact storable_titled
    · -- The song on record has no date to take over.
      intro old date hold hdate
      obtain ⟨i, hi⟩ := (hconsistent.getByPath?.1 hold).2
      rw [hsongs, List.getElem?_singleton] at hi
      split at hi
      · obtain rfl := Option.some.inj hi
        cases hdate
      · cases hi
  · -- The record fits its slot, so that it is not refused.
    exact absurd hfits hrefused
  · exact absurd hfits hrefused

end Library

end Ballroom
