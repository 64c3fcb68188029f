import Ballroom.Proofs.Library.Restart
import Ballroom.Proofs.Library.Roomless

/-!
# A song that has been written can be read

When a song is written to the store file of a library, a slot holds what is stored of its
record, and that is read as a song of the same path if the path can stand in a record as it
is; then the library that is loaded next has the song under its path (`writeSong_readable`).
A song without a status gets the name of the default status in its record.  That name is
written as it is, so that it must not have a line feed (`not_readable_writeSong`).
-/

namespace Ballroom.Library

open StoreHandle (Has)

variable {audio : AudioCheck Disk} {tables : Tables} {lib lib' : Library SlotFile}
  {disk disk' : Disk} {song left : Song} {stamp : Record.Stamp} {now : Instant} {k : Nat}

/-! ### The record that is written -/

/-- A song that takes over a date has a status if it had one. -/
theorem has_status_adoptDate (old song : Song) :
    (adoptDate old song).has .status = song.has .status := by
  unfold adoptDate
  split
  · split
    · rfl
    · simp [Song.has]
  · rfl

section Files

variable [Allocator]

/-- Whatever song is written, and wherever its number comes from, its record is put into a
slot with its path and the status that it has. -/
theorem exists_putRecord (hfile : OnDisk (lib, disk))
    (hwrite : writeSong now (song, lib, disk) = .ok k (left, lib', disk')) (hlength : 0 < k) :
    ∃ stamp chosen handle disk₁, OnDisk (lib.withHandle handle, disk₁) ∧
      stamp.number ≤ maxRecordNumber ∧ chosen.path? = song.path? ∧
      chosen.has .status = song.has .status ∧
      putRecord stamp (chosen, lib.withHandle handle, disk₁) = .ok k (left, lib', disk') := by
  rw [writeSong_apply] at hwrite
  split at hwrite
  · -- Of a temporary song nothing is written.
    obtain ⟨hk, -⟩ := EStateM.Result.ok.inj hwrite
    omega
  cases hrecord : lib.recordOf? song with
  | some found =>
    -- The number is the song's own, or that of the song that the library has under the path.
    obtain ⟨number, chosen⟩ := found
    rw [hrecord] at hwrite
    have hnumber : number ≤ maxRecordNumber := (number_of_recordOf? hrecord).2
    obtain ⟨hpath, hstatus⟩ : chosen.path? = song.path? ∧
        chosen.has .status = song.has .status := by
      rcases recordOf?_eq_some_iff.1 hrecord with ⟨_, rfl⟩ | ⟨_, old, _, _, rfl⟩
      · exact ⟨rfl, rfl⟩
      · exact ⟨path?_adoptDate old song, has_status_adoptDate old song⟩
    exact ⟨⟨number, false, now⟩, chosen, lib.handle, disk, hfile, hnumber, hpath, hstatus, hwrite⟩
  | none =>
    -- The store hands the number out, and has its file afterwards as before.
    rw [hrecord] at hwrite
    obtain ⟨place, header, slots, hhas⟩ := hfile
    rcases Has.allocate hhas with ⟨number, u, hallocate, hnumber, hhas'⟩ | ⟨why, u, hallocate⟩
    · simp only [hallocate] at hwrite
      exact ⟨⟨number, true, now⟩, song, u.1, u.2, ⟨_, _, _, hhas'⟩, hnumber, rfl, rfl, hwrite⟩
    · simp only [hallocate] at hwrite
      cases hwrite

/-! ### Reading it -/

/-- A record has been left in slot `number` of the store file of a library. -/
structure LeavesRecord (number : Nat) (data : Bytes) (s : Library SlotFile × Disk) : Prop where
  read : StoreHandle.readSingle number (s.1.handle, s.2) = .ok (some data) (s.1.handle, s.2)
  told : ∃ place h slots, Has place h slots (s.1.handle, s.2) ∧
    SlotFile.told h slots number = .ok (some data)

/-- What is stored of a record that has been put into a slot is left there. -/
theorem putRecord_leavesRecord (hfile : OnDisk (lib, disk))
    (hnumber : stamp.number ≤ maxRecordNumber)
    (hput : putRecord stamp (song, lib, disk) = .ok k (left, lib', disk')) :
    left.recordNumber? = some stamp.number ∧ left.path? = song.path? ∧
      LeavesRecord stamp.number (Record.stored lib.tables stamp song) (lib', disk') := by
  obtain ⟨hsettle, hpos, hread⟩ := putRecord_ok hfile hnumber hput
  obtain ⟨place, h, slots, hhas⟩ := hfile
  obtain ⟨_, hn, hreach, hhas', _⟩ := putRecord_stored hhas hnumber hput
  have hvalue : left.value? = (stamped lib.tables stamp song).value? := by
    have hleft : left = (settle stamp song (lib.withHandle lib'.handle)).1 :=
      congrArg Prod.fst hsettle
    rw [hleft]
    exact value?_settle stamp song (lib.withHandle lib'.handle)
  refine ⟨?_, ?_, hread, place, _, _, hhas', ?_⟩
  · rw [Song.recordNumber?_congr hvalue]
    exact recordNumber?_stamped lib.tables stamp song ⟨hpos, hnumber⟩
  · rw [Song.path?_congr hvalue, path?_stamped]
  · rw [SlotFile.told_eq_some_iff hhas'.browsable, Function.update_self]
    exact ⟨hn, Nat.le_max_right _ _, hreach, rfl, Record.stored_ne_nil lib.tables stamp song⟩

/-- A library that is loaded after the store has been closed has the song of a record that was
left there, under its path, if the audio file is there and no slot before has the path. -/
theorem LeavesRecord.exists_reloaded {number : Nat} {data : Bytes} (tables : Tables)
    (h : LeavesRecord number data (lib, disk)) :
    ∃ closed disk', Library.close (lib, disk) = .ok () (closed, disk') ∧
      ∀ (audio : AudioCheck Disk) (handle : StoreHandle SlotFile),
        handle.path = closed.handle.path → handle.version = closed.handle.version →
        handle.store.open? = none →
        ∃ reloaded, load audio handle tables disk' = .ok reloaded disk' ∧
          ∀ read path, Record.decode tables data = .ok read → read.path? = some path →
            audio disk' path = .ok true →
            (∀ m < number, pathAt? tables (handle, disk') m ≠ some path) →
            ∃ i : Nat, reloaded.byPath[path]? = some i ∧
              reloaded.getByPath? path = some ((read.setRecordNumber number).withIndex i) := by
  obtain ⟨place, header, slots, hhas, htold⟩ := h.told
  obtain ⟨closed, disk', hclose, hagain⟩ := exists_restarted tables hhas
  refine ⟨closed, disk', hclose, ?_⟩
  intro audio handle hpath hversion hclosed
  obtain ⟨hhas', reloaded, hload, hfrom⟩ := hagain audio handle hpath hversion hclosed
  refine ⟨reloaded, hload, ?_⟩
  intro read path hdecode hnamed hthere hfirst
  have hrecords : Records (SlotFile.told header slots) tables number path read :=
    ⟨⟨data, htold, hdecode⟩, hnamed⟩
  obtain ⟨hle, hlast⟩ := hrecords.range
  -- The slot is the first one that offers the path, and so the one that the song is taken from.
  refine hfrom.first number path read hlast ⟨hle, ⟨hrecords.record, hnamed, hthere⟩, ?_⟩
  intro m other _ hlt hother
  exact hfirst m hlt ((pathAt?_eq_some_iff hhas').2 ⟨other, hother.record, hother.named⟩)

/-! ### Every write -/

/-- When a song has been written to the store file of a library, and it had a status or the
default status takes one line, its slot holds a record that is read as a song of its path if
and only if the path can stand in a record as it is.  Then the library that is loaded after
the store has been closed has that song under its path, if the audio file is there and no
slot before has the path. -/
theorem writeSong_readable (hreach : Reachable audio tables Startable (fun _ _ => False) lib disk)
    (hstatus : song.has .status ∨ '\n' ∉ lib.tables.defaultStatus.toList)
    (hwrite : writeSong now (song, lib, disk) = .ok k (left, lib', disk')) (hlength : 0 < k) :
    ∃ number data, left.recordNumber? = some number ∧ left.path? = song.path? ∧
      StoreHandle.readSingle number (lib'.handle, disk') = .ok (some data) (lib'.handle, disk') ∧
      ((∃ read, Record.decode lib.tables data = .ok read ∧ read.path? = song.path?) ↔
        song.Nameable) ∧
      ∃ closed disk'', Library.close (lib', disk') = .ok () (closed, disk'') ∧
        ∀ (audio' : AudioCheck Disk) (handle' : StoreHandle SlotFile),
          handle'.path = closed.handle.path → handle'.version = closed.handle.version →
          handle'.store.open? = none →
          ∃ reloaded, load audio' handle' lib.tables disk'' = .ok reloaded disk'' ∧
            ∀ path, song.Nameable → song.path? = some path → audio' disk'' path = .ok true →
              (∀ m < number, pathAt? lib.tables (handle', disk'') m ≠ some path) →
              ∃ read, ∃ i : Nat, Record.decode lib.tables data = .ok read ∧
                reloaded.byPath[path]? = some i ∧
                reloaded.getByPath? path = some ((read.setRecordNumber number).withIndex i) := by
  -- Without room in the slots nothing would have been written.
  have hfile : OnDisk (lib, disk) := by
    cases hreach.resting_or_barred with
    | inl hresting => exact hresting.holds
    | inr hbarred => exact absurd (not_written_of_barred hbarred hwrite) (Nat.ne_of_gt hlength)
  obtain ⟨stamp, chosen, handle, disk₁, hfile', hnumber, hpath, hhas, hput⟩ :=
    exists_putRecord hfile hwrite hlength
  obtain ⟨hleft, hsame, hleaves⟩ := putRecord_leavesRecord hfile' hnumber hput
  have hiff := Record.decode_stored_iff lib.tables stamp chosen (by rwa [hhas])
  -- The song of the record has the path of the song that was given.
  have hnameable : chosen.Nameable ↔ song.Nameable := by
    unfold Song.Nameable
    rw [hpath]
  rw [hpath, hnameable] at hiff
  obtain ⟨closed, disk'', hclose, hagain⟩ := hleaves.exists_reloaded lib.tables
  refine ⟨stamp.number, _, hleft, hsame.trans hpath, hleaves.read, hiff, closed, disk'', hclose, ?_⟩
  intro audio' handle' hpath' hversion hclosed
  obtain ⟨reloaded, hload, hfinds⟩ := hagain audio' handle' hpath' hversion hclosed
  refine ⟨reloaded, hload, ?_⟩
  intro path hnamed hown hthere hfirst
  obtain ⟨read, hread, hsamePath⟩ := hiff.2 hnamed
  obtain ⟨i, hi, hget⟩ := hfinds read path hread (hsamePath.trans hown) hthere hfirst
  exact ⟨read, i, hread, hi, hget⟩

end Files

/-! ### A new song -/

/-- A song of a file. -/
private def untitled : Song := Song.empty.set .file (.text "a.mp3")

/-- The song is written to a store file without records, and leaves its record in the first
slot. -/
private theorem exists_written (tables : Tables)
    (hfits : (Text.bytes (Record.encode tables ⟨1, true, .epoch⟩ untitled)).length ≤ 256) :
    ∃ disk lib k left lib' disk', Unopened newHandle disk ∧
      load (fun _ _ => .ok true) newHandle tables disk = .ok lib disk ∧ lib.tables = tables ∧
      writeSong .epoch (untitled, lib, disk) = .ok k (left, lib', disk') ∧ 0 < k ∧
      left.recordNumber? = some 1 ∧ left.path? = some "a.mp3" ∧
      LeavesRecord 1 (Record.stored tables ⟨1, true, .epoch⟩ untitled) (lib', disk') := by
  obtain ⟨place, slots, disk, lib, hstart, hload, hhas, _, hclosed, _, htables, hsongs⟩ :=
    exists_loaded_empty tables
  have hhanded : StoreHandle.HandedOut 0 lib.handle := StoreHandle.handedOut_of_closed hclosed
  have hnumber : lib.numberOf? "a.mp3" = none := by rw [numberOf?, hsongs, Option.bind_none]
  have hrecord : lib.recordOf? untitled = none := recordOf?_eq_none rfl rfl hnumber
  have hreach : SlotFile.InReach 256 1 := ⟨by decide, by decide⟩
  rw [← htables] at hfits
  obtain ⟨left, lib', disk', hwrite⟩ :=
    exists_writeSong_new hhas hhanded rfl hrecord (by decide) hreach hfits
  -- No record is empty, so that something is written.
  have hlength : 0 < (Text.bytes (Record.encode lib.tables ⟨1, true, .epoch⟩ untitled)).length := by
    rw [List.length_pos_iff]
    intro hempty
    apply Record.stored_ne_nil lib.tables ⟨1, true, .epoch⟩ untitled
    rw [Record.stored, hempty]
    rfl
  refine ⟨disk, lib, _, left, lib', disk', hstart, hload, htables, hwrite, hlength, ?_⟩
  -- The number that is handed out is the one behind all records, of which there are none.
  rw [writeSong_apply, hrecord] at hwrite
  cases hallocate : StoreHandle.allocate (lib.handle, disk) with
  | error stop u =>
    rw [hallocate] at hwrite
    cases hwrite
  | ok number u =>
    rw [hallocate] at hwrite
    obtain ⟨rfl, hmax, hhas', _⟩ := hhas.allocate_eq hhanded hallocate
    have hfile : OnDisk (lib.withHandle u.1, u.2) := ⟨_, _, _, hhas'⟩
    obtain ⟨hleft, hpath, hleaves⟩ := putRecord_leavesRecord hfile hmax hwrite
    rw [← htables]
    exact ⟨hleft, hpath, hleaves⟩

/-- A new song is read from its slot, and the library that is loaded next has it. -/
theorem writeSong_readable_new :
    ∃ disk lib k left lib' disk' data read closed disk'', ∃ handle' : StoreHandle SlotFile,
      ∃ reloaded, ∃ i : Nat, Unopened newHandle disk ∧
      load (fun _ _ => .ok true) newHandle .standard disk = .ok lib disk ∧
      writeSong .epoch (untitled, lib, disk) = .ok k (left, lib', disk') ∧ 0 < k ∧
      StoreHandle.readSingle 1 (lib'.handle, disk') = .ok (some data) (lib'.handle, disk') ∧
      Record.decode .standard data = .ok read ∧ read.path? = some "a.mp3" ∧
      Library.close (lib', disk') = .ok () (closed, disk'') ∧
      load (fun _ _ => .ok true) handle' .standard disk'' = .ok reloaded disk'' ∧
      reloaded.getByPath? "a.mp3" = some ((read.setRecordNumber 1).withIndex i) := by
  obtain ⟨disk, lib, k, left, lib', disk', hstart, hload, htables, hwrite, hlength, hleft, _,
    hleaves⟩ := exists_written .standard (by decide +kernel)
  have hreach : Reachable (fun _ _ => .ok true) .standard Startable (fun _ _ => False) lib disk :=
    .load hstart.startable hload
  have hname : '\n' ∉ lib.tables.defaultStatus.toList := by
    rw [htables]
    decide
  have hnameable : untitled.Nameable := ⟨"a.mp3", rfl, by decide, by decide⟩
  obtain ⟨number, data, hnumber, _, hread, hiff, closed, disk'', hclose, hagain⟩ :=
    writeSong_readable hreach (.inr hname) hwrite hlength
  obtain rfl := Option.some.inj (hleft.symm.trans hnumber)
  rw [htables] at hiff
  simp only [htables] at hagain
  obtain ⟨read, hdecode, hpath⟩ := hiff.2 hnameable
  -- The slot is the first one, so that none before it has the path.
  obtain ⟨place, header, slots, hhas, _⟩ := hleaves.told
  obtain ⟨_, _, hclose', hrestarted⟩ := exists_restarted .standard hhas
  obtain ⟨-, hstate⟩ := EStateM.Result.ok.inj (hclose.symm.trans hclose')
  obtain ⟨rfl, rfl⟩ := Prod.mk.inj hstate
  obtain ⟨hhas', _⟩ := hrestarted (fun _ _ => .ok true)
    ⟨{ slotSize := 256 }, closed.handle.path, closed.handle.version, false⟩ rfl rfl rfl
  obtain ⟨reloaded, hreload, hfinds⟩ := hagain (fun _ _ => .ok true)
    ⟨{ slotSize := 256 }, closed.handle.path, closed.handle.version, false⟩ rfl rfl rfl
  have hfirst : ∀ m < 1, pathAt? .standard (⟨{ slotSize := 256 }, closed.handle.path,
      closed.handle.version, false⟩, disk'') m ≠ some "a.mp3" := by
    intro m hm hnamed
    obtain ⟨song, hrecords⟩ := (pathAt?_eq_some_iff hhas').1 hnamed
    have hle := hrecords.range.1
    omega
  obtain ⟨found, i, hfound, _, hget⟩ := hfinds "a.mp3" hnameable rfl rfl hfirst
  obtain rfl := Except.ok.inj (hdecode.symm.trans hfound)
  exact ⟨disk, lib, k, left, lib', disk', data, read, closed, disk'', _, reloaded, i, hstart, hload,
    hwrite, hlength, hread, hdecode, hpath, hclose, hreload, hget⟩

/-- The standard tables with a default status whose name takes two lines. -/
private def twoLines : Tables := { Tables.standard with statuses := [⟨"New\nDraft", true⟩] }

/-- A song that has no status is written to a library whose default status takes two lines,
and its record cannot be read. -/
theorem not_readable_writeSong :
    ∃ disk lib k left lib' disk' data, Unopened newHandle disk ∧
      load (fun _ _ => .ok true) newHandle twoLines disk = .ok lib disk ∧
      writeSong .epoch (untitled, lib, disk) = .ok k (left, lib', disk') ∧ 0 < k ∧
      left.recordNumber? = some 1 ∧ left.path? = some "a.mp3" ∧ untitled.Nameable ∧
      StoreHandle.readSingle 1 (lib'.handle, disk') = .ok (some data) (lib'.handle, disk') ∧
      Record.decode twoLines data = .error (.missingMark "Draft") := by
  obtain ⟨disk, lib, k, left, lib', disk', hstart, hload, _, hwrite, hlength, hleft, hpath,
    hleaves⟩ := exists_written twoLines (by decide +kernel)
  refine ⟨disk, lib, k, left, lib', disk', _, hstart, hload, hwrite, hlength, hleft, hpath,
    ⟨"a.mp3", rfl, by decide, by decide⟩, hleaves.read, ?_⟩
  have hlines : Record.readPairs (Text.linesOf (String.ofList
      ((Record.encode twoLines ⟨1, true, .epoch⟩ untitled).toList.takeWhile (· ≠ '\x00')))) =
        .error (.missingMark "Draft") := by
    decide +kernel
  rw [Record.stored, Text.takeWhile_bytes, Record.decode, Text.Utf8.decode_bytes]
  simp only [Record.decodeText, hlines]

end Ballroom.Library
