import Ballroom.Proofs.Library.Batches
import Ballroom.Proofs.Store.Sharing

/-!
# Several sessions on one store file

Sessions have a library and a handle of their own and use the same store file, one after the
other in any order (`Interleaved`).  None of them knows of the others, and still they work as
one: what a session reads from a slot is what was written there last, whichever session wrote
it, and a new song gets a number behind all that were written (`sessions_coherent`).  This is so
because a session that is not in a batch looks at the file anew with every request: `Shared`
says what has to hold of the file and of the sessions, and every step of any of them keeps it.
-/

namespace Ballroom.Library

open StoreHandle (FileAt Joins)
open SlotFile (slotBytes told)

variable {ι : Type} {place : Place} {h : Header} {lib lib' : Library SlotFile}
  {disk disk' : Disk} {song chosen : Song} {stamp : Record.Stamp} {now : Instant} {n : Nat}
  {data : Bytes} {log : List (Nat × Bytes)} {libs : ι → Option (Library SlotFile)}

/-! ### What is written -/

/-- The bytes of the record that a song is written as under a number. -/
def recordBytes (lib : Library SlotFile) (now : Instant) (song : Song) (n : Nat) : Bytes :=
  match lib.recordOf? song with
  | some (_, chosen) => Text.bytes (Record.encode lib.tables ⟨n, false, now⟩ chosen)
  | none => Text.bytes (Record.encode lib.tables ⟨n, true, now⟩ song)

/-- The number and the bytes of the record that is put into the store when a song is written,
if that succeeds and the song is not a temporary one. -/
def written? [Allocator] (now : Instant) (song : Song) (s : Library SlotFile × Disk) :
    Option (Nat × Bytes) :=
  match writeSong now (song, s) with
  | .ok _ (left, _) =>
    if song.temporary then none
    else
      let n := left.recordNumber?.getD 0
      some (n, s.1.recordBytes now song n)
  | .error _ _ => none

/-- The record of a draft is that which the song is written as. -/
theorem recordBytes_of_draft? {count : Nat}
    (hdraft : lib.draft? count now song = some (stamp, chosen)) :
    lib.recordBytes now song stamp.number = Text.bytes (Record.encode lib.tables stamp chosen) := by
  unfold recordBytes
  obtain ⟨_, ⟨hrecord, hstamp⟩ | ⟨hrecord, rfl, rfl⟩⟩ := cases_of_draft? hdraft
  · rw [hrecord]
    dsimp only
    rw [← hstamp]
  · rw [hrecord]

/-- A song that is settled has the number of its record. -/
theorem recordNumber?_settle {σ : Type} (stamp : Record.Stamp) (song : Song) (lib : Library σ)
    (hnumber : 1 ≤ stamp.number ∧ stamp.number ≤ maxRecordNumber) :
    (settle stamp song lib).1.recordNumber? = some stamp.number := by
  rw [Song.recordNumber?_congr (value?_settle stamp song lib)]
  exact recordNumber?_stamped lib.tables stamp song hnumber

/-- A song that no record is known of is a new one, for the slot behind all others. -/
theorem draft?_of_new (hlasting : song.temporary = false) (hown : song.recordNumber? = none)
    (honRecord : lib.onRecord? song = none) (count : Nat) :
    lib.draft? count now song = some (⟨count + 1, true, now⟩, song) := by
  have hrecord : lib.recordOf? song = none := by rw [recordOf?, hown, honRecord]
  rw [draft?, hlasting, if_neg (by decide), hrecord]

/-- The number of a draft is one that a file of moderate slots has room for. -/
theorem number_le_of_draft? (hcount : h.count < maxRecordNumber)
    (hdraft : lib.draft? h.count now song = some (stamp, chosen)) :
    stamp.number ≤ maxRecordNumber := by
  obtain ⟨_, ⟨hrecord, _⟩ | ⟨_, rfl, _⟩⟩ := cases_of_draft? hdraft
  · exact (number_of_recordOf? hrecord).2
  · exact hcount

/-- What holds of a session that has changed and of those there were holds of all sessions. -/
theorem forall_update [DecidableEq ι] {P : Library SlotFile → Prop} {i : ι} (hlib : P lib)
    (hlibs : ∀ j other, libs j = some other → P other) :
    ∀ j other, Function.update libs i (some lib) j = some other → P other := by
  intro j other hother
  by_cases hj : j = i
  · rw [hj, Function.update_self] at hother
    exact Option.some.inj hother ▸ hlib
  · rw [Function.update_of_ne hj] at hother
    exact hlibs j other hother

/-! ### One session -/

section Sessions

variable [Allocator]

/-- A session comes by the number of a draft, and puts its record into the file if it fits. -/
theorem writeSong_of_joins (hfile : FileAt place h disk) (hjoins : Joins place h lib.handle disk)
    (hsize : h.slotSize ≤ 65536) (hcount : h.count < maxRecordNumber)
    (hdraft : lib.draft? h.count now song = some (stamp, chosen)) :
    writeSong now (song, lib, disk) =
      if h.slotSize < (lib.recordBytes now song stamp.number).length then
        .error (.fault (.recordTooLarge stamp.number
          (lib.recordBytes now song stamp.number).length h.slotSize)) (chosen, lib, disk)
      else .ok (lib.recordBytes now song stamp.number).length ((settle stamp chosen lib).1,
        (settle stamp chosen lib).2, StoreHandle.record disk place h stamp.number
          (lib.recordBytes now song stamp.number)) := by
  obtain ⟨hn, hnew⟩ := number_of_draft? hdraft
  have hmax := number_le_of_draft? hcount hdraft
  have hbrowsable := hfile.browsable hsize
  have hreach := SlotFile.inReach_of_le hsize hmax
  rw [recordBytes_of_draft? hdraft]
  -- A number that is asked for leaves the file to be written as before.
  obtain ⟨u, hreserves, hwrite⟩ : ∃ u, Reserves stamp (lib.handle, disk) u ∧
      StoreHandle.write stamp.number (Text.bytes (Record.encode lib.tables stamp chosen)) u =
        _ := by
    have hwrite := hfile.write hjoins hbrowsable hn hreach hmax
      (Text.bytes (Record.encode lib.tables stamp chosen))
    unfold Reserves
    cases hisNew : stamp.isNew with
    | false => exact ⟨_, rfl, hwrite⟩
    -- The next number is asked for, which does not touch the file.
    | true =>
      rw [hnew hisNew] at hreach hwrite ⊢
      obtain ⟨t, hallocate, hsame⟩ := hfile.allocate hjoins hbrowsable hcount hreach
      exact ⟨t, hallocate, (hsame _).trans hwrite⟩
  have hback : lib.onStore (lib.handle, disk) = (lib, disk) := rfl
  split
  · rename_i hlong
    rw [if_pos hlong] at hwrite
    have hresult := writeSong_of_draft?_refused hdraft hreserves hwrite
    rwa [hback] at hresult
  · rename_i hshort
    rw [if_neg hshort] at hwrite
    have hresult := writeSong_of_draft? hdraft hreserves hwrite
    rw [hback, ← handle_settle stamp chosen lib] at hresult
    exact hresult

/-- What is written is the record of the draft, if it fits its slot. -/
theorem written?_of_joins (hfile : FileAt place h disk) (hjoins : Joins place h lib.handle disk)
    (hsize : h.slotSize ≤ 65536) (hcount : h.count < maxRecordNumber)
    (hdraft : lib.draft? h.count now song = some (stamp, chosen)) :
    written? now song (lib, disk) =
      if h.slotSize < (lib.recordBytes now song stamp.number).length then none
      else some (stamp.number, lib.recordBytes now song stamp.number) := by
  have hpos := Nat.one_le_iff_ne_zero.2 (number_of_draft? hdraft).1
  have hnumber := recordNumber?_settle stamp chosen lib ⟨hpos, number_le_of_draft? hcount hdraft⟩
  have hlasting : song.temporary = false := (cases_of_draft? hdraft).1
  have hwrite := writeSong_of_joins hfile hjoins hsize hcount hdraft
  unfold written?
  split at hwrite
  · rename_i hlong
    rw [hwrite, if_pos hlong]
  · rename_i hshort
    rw [hwrite, if_neg hshort]
    simp [hlasting, hnumber]

/-- Nothing of a temporary song is written. -/
theorem written?_of_draft?_eq_none {count : Nat} (hdraft : lib.draft? count now song = none)
    (disk : Disk) : written? now song (lib, disk) = none := by
  have hwrite : writeSong now (song, lib, disk) = .ok 0 (song, lib, disk) :=
    writeSong_of_draft?_eq_none hdraft (lib.handle, disk)
  unfold written?
  rw [hwrite]
  exact if_pos (temporary_of_draft?_eq_none hdraft)

/-- Reading an entry again changes neither the file nor the handle. -/
theorem after_loadEntry_of_joins (hfile : FileAt place h disk)
    (hjoins : Joins place h lib.handle disk) (hsize : h.slotSize ≤ 65536) (index : Int) :
    ((loadEntry index).after (lib, disk)).2 = disk ∧
      ((loadEntry index).after (lib, disk)).1.handle = lib.handle := by
  have hread : ∀ n, (StoreHandle.readSingle n).after (lib.handle, disk) = (lib.handle, disk) := by
    intro n
    rw [Step.after, Step.outcome, hfile.readSingle hjoins (hfile.browsable hsize) n]
    cases (told h (slotBytes (disk.content place) h.slotSize) n).mapError LibraryFault.host <;> rfl
  rcases after_loadEntry index lib disk with hsame | ⟨i, old, number, t, _, rfl, hleft⟩
  · rw [hsame]
    exact ⟨rfl, rfl⟩
  rw [hread] at hleft
  -- A song in the place of another one is a matter of memory only.
  rcases hleft with hleft | ⟨data, song, _, _, hleft⟩
  · rw [hleft]
    exact ⟨rfl, rfl⟩
  · rw [hleft]
    exact ⟨rfl, handle_replace _ _ _⟩

/-! ### Opening a session -/

/-- A session that was opened is on a file that was there, or on a new one without records. -/
theorem exists_joins_of_load {audio : AudioCheck Disk} {tables : Tables}
    {handle : StoreHandle SlotFile} (hunopened : Unopened handle disk)
    (hload : load audio handle tables disk = .ok lib disk')
    (hleads : disk'.LeadsTo handle.path place) :
    ∃ h, FileAt place h disk' ∧ Joins place h lib.handle disk' ∧ disk.Extends disk' ∧
      ((disk.content place).size = 0 ∧ h = ⟨handle.version, handle.store.slotSize, 0⟩ ∨
        disk'.content place = disk.content place) := by
  obtain ⟨songs, opened, n, counted, scanned, closed, hopen, hcount, hscan, hclose, _, rfl⟩ :=
    load_eq_fill hload
  obtain ⟨t, hopenAt, hstate⟩ := StoreHandle.openAt_of_acquire hunopened.closed hopen
  -- Counting and looking at the slots leave everything alone.
  obtain ⟨rfl, _⟩ := count_of_open hcount
  obtain ⟨rfl, _⟩ := eq_of_scan hscan
  cases SlotFile.opening_of_openAt hunopened.closed hopenAt with
  | created place' there hthere hempty hsame ht hgrown =>
    rw [hstate, ht, StoreHandle.close_of_clean rfl rfl] at hclose
    obtain ⟨-, hlast⟩ := EStateM.Result.ok.inj hclose
    obtain ⟨rfl, rfl⟩ := Prod.mk.inj hlast
    -- The new file consists of the header that was written into it.
    obtain rfl := (hthere.writeAt 0 _).unique hleads
    obtain ⟨content, hentry⟩ := hthere.file
    have hfits : Header.Fits ⟨handle.version, handle.store.slotSize, 0⟩ :=
      ⟨hunopened.version_le, Nat.zero_le _, hunopened.slotSize_pos,
        hunopened.slotSize_le.trans (by decide)⟩
    refine ⟨⟨handle.version, handle.store.slotSize, 0⟩, ⟨?_, ?_⟩, ⟨hleads, rfl, rfl, rfl⟩,
      hgrown.trans (Disk.extends_put_file hentry _), .inl ⟨by rw [hsame, hempty], rfl⟩⟩
    · rw [SlotFile.content_writeAt]
      exact SlotFile.size_le_withHeader _ _
    · rw [SlotFile.content_writeAt]
      exact SlotFile.headerOf_withHeader _ hfits
  | found place' header there hthere hsize hheader hsame hversion ht hgrown =>
    -- The file is closed as it was found.
    rw [hstate, ht, StoreHandle.close_of_clean rfl rfl] at hclose
    obtain ⟨-, hlast⟩ := EStateM.Result.ok.inj hclose
    obtain ⟨rfl, rfl⟩ := Prod.mk.inj hlast
    obtain rfl := hthere.unique hleads
    exact ⟨header, ⟨hsize, hheader⟩, ⟨hleads, hversion, rfl, rfl⟩, hgrown, .inr hsame.symm⟩

/-! ### The file that sessions share -/

/-- Sessions, the file that they share and what was written into it belong together. -/
structure Shared (place : Place) (h : Header) (libs : ι → Option (Library SlotFile)) (disk : Disk)
    (log : List (Nat × Bytes)) : Prop where
  file : FileAt place h disk
  slotSize_le : h.slotSize ≤ 65536
  count_lt : h.count < maxRecordNumber
  joins : ∀ i lib, libs i = some lib → Joins place h lib.handle disk
  consistent : ∀ i lib, libs i = some lib → Consistent lib
  /-- A slot holds what was written into it last. -/
  logged : ∀ n data, log.lookup n = some data →
    n ≠ 0 ∧ slotBytes (disk.content place) h.slotSize n = data.takeWhile (· ≠ 0) ∧
      data.takeWhile (· ≠ 0) ≠ []
  within : ∀ n data, (n, data) ∈ log → n ≤ h.count

/-- What was written last into a slot is what a session reads from it. -/
theorem Shared.readSingle_of_lookup {i : ι} (hs : Shared place h libs disk log)
    (hlib : libs i = some lib) (hdata : log.lookup n = some data) :
    StoreHandle.readSingle n (lib.handle, disk) =
      .ok (some (data.takeWhile (· ≠ 0))) (lib.handle, disk) := by
  obtain ⟨hn, hslot, hne⟩ := hs.logged n data hdata
  have hmem : (n, data) ∈ log := by
    obtain ⟨_, _, rfl, _⟩ := List.lookup_eq_some_iff.1 hdata
    exact List.mem_append_right _ List.mem_cons_self
  have hle := hs.within n data hmem
  have hreach := SlotFile.inReach_of_le hs.slotSize_le (hle.trans hs.file.fits.count_le)
  have hbrowsable := hs.file.browsable hs.slotSize_le
  rw [hs.file.readSingle (hs.joins i lib hlib) hbrowsable n,
    (SlotFile.told_eq_some_iff hbrowsable).2 ⟨hn, hle, hreach, hslot, hne⟩]
  rfl

/-- A song on record is what its slot holds, if that is a record of its path. -/
theorem loadEntry_of_readSingle {i : Nat} {disk : Disk} {read : Song}
    (hsong : lib.songs[i]? = some song) (hnumber : song.recordNumber? = some n)
    (hread : StoreHandle.readSingle n (lib.handle, disk) = .ok (some data) (lib.handle, disk))
    (hdecode : Record.decode lib.tables data = .ok read) (hpath : read.path? = song.path?) :
    loadEntry i (lib, disk) = .ok (some ((read.setRecordNumber n).withIndex i))
      (lib.replace i ((read.setRecordNumber n).withIndex i), disk) := by
  rw [loadEntry_apply, target?_eq_some_iff.2 ⟨rfl, hsong, hnumber⟩]
  dsimp only
  rw [hread]
  dsimp only
  rw [hdecode]
  dsimp only
  rw [if_neg (not_not.2 hpath)]
  rfl

/-- A new song gets the slot behind all records of the file. -/
theorem Shared.writeSong_new {i : ι} (hs : Shared place h libs disk log)
    (hlib : libs i = some lib) (hlasting : song.temporary = false)
    (hown : song.recordNumber? = none) (honRecord : lib.onRecord? song = none) :
    if h.slotSize < (lib.recordBytes now song (h.count + 1)).length then
      writeSong now (song, lib, disk) = .error (.fault (.recordTooLarge (h.count + 1)
        (lib.recordBytes now song (h.count + 1)).length h.slotSize)) (song, lib, disk)
    else ∃ left lib' disk', left.recordNumber? = some (h.count + 1) ∧
      writeSong now (song, lib, disk) =
        .ok (lib.recordBytes now song (h.count + 1)).length (left, lib', disk') := by
  -- Neither the song nor its path has a number.
  have hdraft : lib.draft? h.count now song = some (⟨h.count + 1, true, now⟩, song) :=
    draft?_of_new hlasting hown honRecord h.count
  have hwrite :=
    writeSong_of_joins hs.file (hs.joins i lib hlib) hs.slotSize_le hs.count_lt hdraft
  have hnumber : (settle ⟨h.count + 1, true, now⟩ song lib).1.recordNumber? = some (h.count + 1) :=
    recordNumber?_settle _ song lib ⟨Nat.le_add_left 1 h.count, hs.count_lt⟩
  split at hwrite
  · rename_i hlong
    rwa [if_pos hlong]
  · rename_i hshort
    rw [if_neg hshort]
    exact ⟨_, _, _, hnumber, hwrite⟩

/-! ### Sessions that take turns -/

variable [DecidableEq ι]

/-- What becomes of sessions on the file at a place and of the disk: sessions are opened, write
songs and read entries again in any order, each request whether it succeeds or fails.  The log
has the records that were written, the last one first. -/
inductive Interleaved (place : Place) :
    (ι → Option (Library SlotFile)) → Disk → List (Nat × Bytes) → Prop
  /-- No session is open.  A file that is there has slots of a moderate size, and there are
  numbers left. -/
  | start {disk : Disk} (hfile : ∀ h, FileAt place h disk →
      h.slotSize ≤ 65536 ∧ h.count < maxRecordNumber) :
      Interleaved place (fun _ => none) disk []
  | opens {libs : ι → Option (Library SlotFile)} {disk disk' : Disk} {log : List (Nat × Bytes)}
      {audio : AudioCheck Disk} {tables : Tables} {handle : StoreHandle SlotFile}
      {lib : Library SlotFile} (i : ι) (hrun : Interleaved place libs disk log)
      (hunopened : Unopened handle disk)
      (hload : Library.load audio handle tables disk = .ok lib disk')
      (hleads : disk'.LeadsTo handle.path place) :
      Interleaved place (Function.update libs i (some lib)) disk' log
  | write {libs : ι → Option (Library SlotFile)} {disk : Disk} {log : List (Nat × Bytes)}
      {lib : Library SlotFile} (i : ι) (now : Instant) (song : Song)
      (hrun : Interleaved place libs disk log) (hlib : libs i = some lib)
      (hnumber : ∀ n data, written? now song (lib, disk) = some (n, data) → n < maxRecordNumber) :
      Interleaved place
        (Function.update libs i (some ((writeSong now).next (song, lib, disk)).2.1))
        ((writeSong now).next (song, lib, disk)).2.2
        ((written? now song (lib, disk)).toList ++ log)
  | load {libs : ι → Option (Library SlotFile)} {disk : Disk} {log : List (Nat × Bytes)}
      {lib : Library SlotFile} (i : ι) (index : Int) (hrun : Interleaved place libs disk log)
      (hlib : libs i = some lib) :
      Interleaved place (Function.update libs i (some ((loadEntry index).next (lib, disk)).1))
        ((loadEntry index).next (lib, disk)).2 log

/-- The first session opens the file or makes it. -/
theorem exists_shared_of_first {audio : AudioCheck Disk} {tables : Tables}
    {handle : StoreHandle SlotFile} {i : ι}
    (hfile : ∀ h, FileAt place h disk → h.slotSize ≤ 65536 ∧ h.count < maxRecordNumber)
    (hunopened : Unopened handle disk) (hload : load audio handle tables disk = .ok lib disk')
    (hleads : disk'.LeadsTo handle.path place) :
    ∃ h, Shared place h (Function.update (fun _ => none) i (some lib)) disk' [] := by
  obtain ⟨h, hfile', hjoins, _, horigin⟩ := exists_joins_of_load hunopened hload hleads
  have hmoderate : h.slotSize ≤ 65536 ∧ h.count < maxRecordNumber := by
    rcases horigin with ⟨_, rfl⟩ | hsame
    · exact ⟨hunopened.slotSize_le, show 0 < maxRecordNumber by decide⟩
    · exact hfile h (hfile'.congr hsame.symm)
  refine ⟨h, hfile', hmoderate.1, hmoderate.2, forall_update hjoins nofun,
    forall_update (consistent_load (countsWithin_of_unopened hunopened) hload) nofun, nofun, nofun⟩

/-- A further session opens the file that is there. -/
theorem Shared.opens {audio : AudioCheck Disk} {tables : Tables} {handle : StoreHandle SlotFile}
    {i : ι} (hs : Shared place h libs disk log) (hunopened : Unopened handle disk)
    (hload : load audio handle tables disk = .ok lib disk')
    (hleads : disk'.LeadsTo handle.path place) :
    Shared place h (Function.update libs i (some lib)) disk' log := by
  obtain ⟨h', hfile', hjoins, hgrown, horigin⟩ := exists_joins_of_load hunopened hload hleads
  -- The file is there already, so that it is not made.
  have hsame : disk'.content place = disk.content place := by
    rcases horigin with ⟨hempty, _⟩ | hsame
    · have hsize := hs.file.size_le
      rw [hempty] at hsize
      exact absurd hsize (by decide)
    · exact hsame
  obtain rfl := hfile'.unique (hs.file.congr hsame)
  refine ⟨hfile', hs.slotSize_le, hs.count_lt, forall_update hjoins ?_,
    forall_update (consistent_load (countsWithin_of_unopened hunopened) hload) hs.consistent, ?_,
    hs.within⟩
  · intro j other hother
    exact (hs.joins j other hother).mono hgrown rfl rfl
  · rw [hsame]
    exact hs.logged

omit [Allocator] in
/-- A record that a session puts into its slot leaves sessions and file together. -/
theorem Shared.record {i : ι} (hs : Shared place h libs disk log) (hlib : libs i = some lib)
    (hhandle : lib'.handle = lib.handle) (hconsistent : Consistent lib') (hn : n ≠ 0)
    (hlt : n < maxRecordNumber) (hlength : data.length ≤ h.slotSize)
    (hstored : data.takeWhile (· ≠ 0) ≠ []) :
    Shared place { h with count := max h.count n } (Function.update libs i (some lib'))
      (StoreHandle.record disk place h n data) ((n, data) :: log) := by
  have hjoins := hs.joins i lib hlib
  have hgrown := hjoins.extends_record n data
  have hslots : ∀ m ≠ 0, slotBytes ((StoreHandle.record disk place h n data).content place)
      h.slotSize m =
        if m = n then data.takeWhile (· ≠ 0) else slotBytes (disk.content place) h.slotSize m := by
    intro m hm
    rw [StoreHandle.content_record]
    exact StoreHandle.slotBytes_withRecord h _ hlength hn hm
  refine ⟨hs.file.record (Nat.le_of_lt hlt) data, hs.slotSize_le, Nat.max_lt.2 ⟨hs.count_lt, hlt⟩,
    forall_update ?_ ?_, forall_update hconsistent hs.consistent, ?_, ?_⟩
  · rw [hhandle]
    exact hjoins.mono hgrown rfl rfl
  · -- The other sessions find their file where it was.
    intro j other hother
    exact (hs.joins j other hother).mono hgrown rfl rfl
  · -- The slot that was written holds the record, which is the last of the slot in the log.
    intro m held hheld
    rw [List.lookup_cons] at hheld
    by_cases hm : m = n
    · rw [beq_iff_eq.2 hm] at hheld
      obtain rfl := Option.some.inj hheld
      exact ⟨hm ▸ hn, (hslots m (hm ▸ hn)).trans (if_pos hm), hstored⟩
    · rw [beq_eq_false_iff_ne.2 hm] at hheld
      obtain ⟨hpos, hslot, hne⟩ := hs.logged m held hheld
      exact ⟨hpos, ((hslots m hpos).trans (if_neg hm)).trans hslot, hne⟩
  · intro m held hheld
    rcases List.mem_cons.1 hheld with heq | hrest
    · obtain ⟨rfl, _⟩ := Prod.mk.inj heq
      exact Nat.le_max_right _ _
    · exact (hs.within m held hrest).trans (Nat.le_max_left _ _)

/-- Writing a song keeps sessions and file together. -/
theorem Shared.write {i : ι} (hs : Shared place h libs disk log) (hlib : libs i = some lib)
    (now : Instant) (song : Song)
    (hnumber : ∀ n data, written? now song (lib, disk) = some (n, data) → n < maxRecordNumber) :
    ∃ h', Shared place h'
      (Function.update libs i (some ((writeSong now).next (song, lib, disk)).2.1))
      ((writeSong now).next (song, lib, disk)).2.2
      ((written? now song (lib, disk)).toList ++ log) := by
  have hjoins := hs.joins i lib hlib
  have hconsistent := (hs.consistent i lib hlib).writeSong now song disk
  have hsame : Function.update libs i (some lib) = libs := by rw [← hlib, Function.update_eq_self]
  cases hdraft : lib.draft? h.count now song with
  | none =>
    -- A temporary song is passed over.
    have hwrite : writeSong now (song, lib, disk) = .ok 0 (song, lib, disk) :=
      writeSong_of_draft?_eq_none hdraft (lib.handle, disk)
    rw [Step.next_of_ok hwrite, written?_of_draft?_eq_none hdraft]
    exact ⟨h, by rwa [hsame]⟩
  | some draft =>
    obtain ⟨stamp, chosen⟩ := draft
    have hwrite := writeSong_of_joins hs.file hjoins hs.slotSize_le hs.count_lt hdraft
    have hwritten := written?_of_joins hs.file hjoins hs.slotSize_le hs.count_lt hdraft
    split at hwrite
    · -- The record is refused.
      rename_i hlong
      rw [if_pos hlong] at hwritten
      rw [Step.next_of_fault hwrite, hwritten]
      exact ⟨h, by rwa [hsame]⟩
    · rename_i hshort
      rw [if_neg hshort] at hwritten
      rw [Step.after_of_ok hwrite] at hconsistent
      rw [Step.next_of_ok hwrite, hwritten]
      have hstored : (lib.recordBytes now song stamp.number).takeWhile (· ≠ 0) ≠ [] := by
        rw [recordBytes_of_draft? hdraft]
        exact Record.stored_ne_nil lib.tables stamp chosen
      exact ⟨_, hs.record hlib (handle_settle stamp chosen lib) hconsistent
        (number_of_draft? hdraft).1 (hnumber _ _ hwritten) (Nat.le_of_not_lt hshort) hstored⟩

/-- Reading an entry again keeps sessions and file together. -/
theorem Shared.load {i : ι} (hs : Shared place h libs disk log) (hlib : libs i = some lib)
    (index : Int) :
    Shared place h (Function.update libs i (some ((loadEntry index).next (lib, disk)).1))
      ((loadEntry index).next (lib, disk)).2 log := by
  have hjoins := hs.joins i lib hlib
  have hconsistent := hs.consistent i lib hlib
  -- What is gone on from is what was there, or what the request leaves.
  obtain ⟨hdisk, hhandle, hconsistent'⟩ : ((loadEntry index).next (lib, disk)).2 = disk ∧
      ((loadEntry index).next (lib, disk)).1.handle = lib.handle ∧
      Consistent ((loadEntry index).next (lib, disk)).1 := by
    obtain ⟨hdisk, hhandle⟩ := after_loadEntry_of_joins hs.file hjoins hs.slotSize_le index
    exact Step.next_keeps (P := fun t => t.2 = disk ∧ t.1.handle = lib.handle ∧ Consistent t.1)
      (loadEntry index) ⟨rfl, rfl, hconsistent⟩
      ⟨hdisk, hhandle, hconsistent.loadEntry index disk⟩
  rw [hdisk]
  refine ⟨hs.file, hs.slotSize_le, hs.count_lt, forall_update ?_ hs.joins,
    forall_update hconsistent' hs.consistent, hs.logged, hs.within⟩
  rwa [hhandle]

/-- Sessions and file belong together from the first session on, whatever the sessions do. -/
theorem exists_shared (hrun : Interleaved place libs disk log) :
    (∀ i, libs i = none) ∧ log = [] ∧
        (∀ h, FileAt place h disk → h.slotSize ≤ 65536 ∧ h.count < maxRecordNumber) ∨
      ∃ h, Shared place h libs disk log := by
  -- On the run: the first session finds the file or makes it, and the later steps keep it.
  induction hrun with
  | start hfile => exact .inl ⟨fun _ => rfl, rfl, hfile⟩
  | opens i _ hunopened hload hleads ih =>
    right
    rcases ih with ⟨hnone, rfl, hfile⟩ | ⟨h, hs⟩
    · rw [funext hnone]
      exact exists_shared_of_first hfile hunopened hload hleads
    · exact ⟨h, hs.opens hunopened hload hleads⟩
  | write i now song _ hlib hnumber ih =>
    rcases ih with ⟨hnone, _⟩ | ⟨h, hs⟩
    · cases (hnone i).symm.trans hlib
    · exact .inr (hs.write hlib now song hnumber)
  | load i index _ hlib ih =>
    rcases ih with ⟨hnone, _⟩ | ⟨h, hs⟩
    · cases (hnone i).symm.trans hlib
    · exact .inr ⟨h, hs.load hlib index⟩

/-! ### All sessions together -/

/-- A session has the file as it is now, whichever sessions have written it. -/
structure Coherent (log : List (Nat × Bytes)) (lib : Library SlotFile) (disk : Disk) : Prop where
  /-- A slot is read as it was written last. -/
  reads : ∀ n data, log.lookup n = some data →
    StoreHandle.readSingle n (lib.handle, disk) =
      .ok (some (data.takeWhile (· ≠ 0))) (lib.handle, disk)
  /-- A song on record is read again from its slot, under the number of the slot. -/
  loads : ∀ (i : Nat) (song : Song), lib.songs[i]? = some song →
    ∃ n, song.recordNumber? = some n ∧ ∀ data read,
      StoreHandle.readSingle n (lib.handle, disk) = .ok (some data) (lib.handle, disk) →
      Record.decode lib.tables data = .ok read → read.path? = song.path? →
      loadEntry i (lib, disk) = .ok (some ((read.setRecordNumber n).withIndex i))
        (lib.replace i ((read.setRecordNumber n).withIndex i), disk)
  /-- A new song gets an empty slot behind all those that were written. -/
  numbers : ∀ now song, song.temporary = false → song.recordNumber? = none →
    lib.onRecord? song = none →
    ∃ n, (∀ m data, (m, data) ∈ log → m < n) ∧
      StoreHandle.readSingle n (lib.handle, disk) = .ok none (lib.handle, disk) ∧
      if lib.handle.store.slotSize < (lib.recordBytes now song n).length then
        writeSong now (song, lib, disk) = .error (.fault (.recordTooLarge n
          (lib.recordBytes now song n).length lib.handle.store.slotSize)) (song, lib, disk)
      else ∃ left lib' disk', left.recordNumber? = some n ∧
        writeSong now (song, lib, disk) =
          .ok (lib.recordBytes now song n).length (left, lib', disk')

/-- Sessions on one store file, in whatever order they write songs and read entries again, each
have the file as it is, and read the same from it. -/
theorem sessions_coherent {i : ι} (hrun : Interleaved place libs disk log)
    (hlib : libs i = some lib) :
    Coherent log lib disk ∧ ∀ j other, libs j = some other → ∀ n,
      ((StoreHandle.readSingle n).outcome (other.handle, disk)).1 =
        ((StoreHandle.readSingle n).outcome (lib.handle, disk)).1 := by
  -- There is a session, so that there is a file.
  rcases exists_shared hrun with ⟨hnone, _⟩ | ⟨h, hs⟩
  · cases (hnone i).symm.trans hlib
  have hjoins := hs.joins i lib hlib
  have hbrowsable := hs.file.browsable hs.slotSize_le
  have hsize : lib.handle.store.slotSize = h.slotSize := by rw [hjoins.store]
  refine ⟨⟨?_, ?_, ?_⟩, ?_⟩
  · exact fun n data hdata => hs.readSingle_of_lookup hlib hdata
  · intro k song hsong
    obtain ⟨n, hnumber⟩ := ((hs.consistent i lib hlib).onRecord k song hsong).number
    exact ⟨n, hnumber, fun data read hread hdecode hpath =>
      loadEntry_of_readSingle hsong hnumber hread hdecode hpath⟩
  · intro now song hlasting hown honRecord
    -- Every number in the log is within the count of the file.
    refine ⟨h.count + 1, fun m data hm => Nat.lt_succ_of_le (hs.within m data hm), ?_, ?_⟩
    · rw [hs.file.readSingle hjoins hbrowsable, told, if_pos (.inr (Nat.lt_succ_self _))]
      rfl
    · rw [hsize]
      exact hs.writeSong_new hlib hlasting hown honRecord
  · intro j other hother n
    rw [Step.outcome, Step.outcome, hs.file.readSingle (hs.joins j other hother) hbrowsable n,
      hs.file.readSingle hjoins hbrowsable n]
    cases (told h (slotBytes (disk.content place) h.slotSize) n).mapError LibraryFault.host <;> rfl

/-! ### Two sessions -/

/-- A record that fits its slot is written and noted. -/
private theorem Interleaved.putsRecord {i : ι} (hrun : Interleaved place libs disk log)
    (hlib : libs i = some lib) (hfile : FileAt place h disk)
    (hdraft : lib.draft? h.count now song = some (stamp, chosen))
    (hlt : stamp.number < maxRecordNumber) {data : Bytes}
    (hdata : Text.bytes (Record.encode lib.tables stamp chosen) = data)
    (hlength : data.length ≤ h.slotSize) :
    Interleaved place (Function.update libs i (some (settle stamp chosen lib).2))
      (StoreHandle.record disk place h stamp.number data) ((stamp.number, data) :: log) := by
  rcases exists_shared hrun with ⟨hnone, _⟩ | ⟨h', hs⟩
  · cases (hnone i).symm.trans hlib
  -- There is one file at the place, with one header.
  obtain rfl := hs.file.unique hfile
  have hwrite :=
    writeSong_of_joins hfile (hs.joins i lib hlib) hs.slotSize_le hs.count_lt hdraft
  have hwritten :=
    written?_of_joins hfile (hs.joins i lib hlib) hs.slotSize_le hs.count_lt hdraft
  rw [recordBytes_of_draft? hdraft, hdata, if_neg (Nat.not_lt_of_le hlength)] at hwrite hwritten
  have hnext := Interleaved.write i now song hrun hlib (by
    intro n data' hnumber
    rw [hwritten] at hnumber
    obtain ⟨rfl, _⟩ := Prod.mk.inj (Option.some.inj hnumber)
    exact hlt)
  rwa [Step.next_of_ok hwrite, hwritten] at hnext

end Sessions

/-- A song in the first slot, with another title. -/
private def liveRiver : Song :=
  (moonRiver.setRecordNumber 1).set .title (.text "Moon River (live)")

/-- The record of the new song. -/
private abbrev moonRiverRecord : Bytes :=
  Text.bytes (Record.encode .standard ⟨1, true, .epoch⟩ moonRiver)

/-- The records of the song, the last one first. -/
private def riverLog : List (Nat × Bytes) :=
  [(1, Text.bytes (Record.encode .standard ⟨1, false, .epoch⟩ liveRiver)), (1, moonRiverRecord)]

/-- A store file without records, which a handle is on. -/
theorem exists_empty_file :
    ∃ place disk, FileAt place ⟨1, 256, 0⟩ disk ∧ Joins place ⟨1, 256, 0⟩ newHandle disk := by
  have hcalls : ∀ call ∈ [StoreCall.close], call.NumberBelow Number.maxUInt32 := by
    simp [StoreCall.NumberBelow]
  obtain ⟨place, disk, hhas⟩ := exists_has_of_calls hcalls rfl rfl
  exact ⟨place, disk, hhas.fileAt rfl, hhas.serves.leads, rfl, rfl, rfl⟩

/-- A library is loaded from a file that counts no records, and has no songs. -/
theorem exists_loaded_of_fileAt (hfile : FileAt place ⟨1, 256, 0⟩ disk)
    (hjoins : Joins place ⟨1, 256, 0⟩ newHandle disk) :
    ∃ lib, Unopened newHandle disk ∧
      load (fun _ _ => .ok true) newHandle .standard disk = .ok lib disk ∧
      Joins place ⟨1, 256, 0⟩ lib.handle disk ∧ Consistent lib ∧ lib.tables = .standard ∧
      ∀ path, lib.getByPath? path = none := by
  have hunopened : Unopened newHandle disk := ⟨rfl, by decide, by decide, by decide⟩
  obtain ⟨lib, hload, hfrom, _⟩ :=
    exists_loaded_of_closed (fun _ _ => .ok true) .standard
      (hfile.has hjoins (hfile.browsable (by decide))) rfl
  obtain ⟨_, hfile', hjoins', _⟩ := exists_joins_of_load hunopened hload hjoins.leads
  obtain rfl := hfile.unique hfile'
  refine ⟨lib, hunopened, hload, hjoins', hfrom.consistent, hfrom.tables, ?_⟩
  intro path
  rw [← Option.not_isSome_iff_eq_none, hfrom.onRecord]
  rintro ⟨n, song, hle, hn, _⟩
  exact absurd (hle.trans hn) (by decide)

/-- A library that is loaded from a file whose only slot holds the song has it on record, and no
song of another path. -/
private theorem LoadedFrom.exists_moonRiver {slots : Nat → Bytes} {there : String → Bool}
    (hfrom : LoadedFrom (told ⟨1, 256, 1⟩ slots) .standard (fun path => .ok (there path)) 1 lib)
    (hslot : slots 1 = Record.stored .standard ⟨1, true, .epoch⟩ moonRiver)
    (hthere : there "a.mp3" = true) :
    (∃ i : Nat, lib.songs[i]? = some ((asRead 1 moonRiver).withIndex i)) ∧
      ∀ path ≠ "a.mp3", lib.getByPath? path = none := by
  have hplain : Text.Plain Tables.standard.defaultStatus := by decide
  have hbrowsable : SlotFile.Browsable ⟨1, 256, 1⟩ :=
    SlotFile.browsable_of_le (by decide) (by decide)
  -- The first slot offers the song, and there is no other.
  have hoffers : Offers (told ⟨1, 256, 1⟩ slots) .standard (fun path => .ok (there path)) 1 "a.mp3"
      (Record.recorded .standard ⟨1, true, .epoch⟩ moonRiver) := by
    refine ⟨⟨_, (SlotFile.told_eq_some_iff hbrowsable).2 ⟨by decide, Nat.le_refl 1,
      SlotFile.inReach_of_le (by decide) (by decide), hslot, Record.stored_ne_nil _ _ _⟩, ?_⟩,
      by decide +kernel, by rw [hthere]⟩
    rw [Record.stored_eq_bytes _ _ _ hplain]
    exact Record.decode_encode _ _ moonRiver (show _ = some "a.mp3" from rfl) (by decide) hplain
  constructor
  · obtain ⟨i, hplace, hsong⟩ := hfrom.first 1 "a.mp3" _ (Nat.le_refl 1)
      ⟨Nat.le_refl 1, hoffers, fun m other hm hlt => by omega⟩
    rw [getByPath?, hplace] at hsong
    exact ⟨i, hsong⟩
  · intro path hne
    rw [← Option.not_isSome_iff_eq_none, hfrom.onRecord]
    rintro ⟨n, song, hle, hn, hother⟩
    obtain rfl := Nat.le_antisymm hn hle
    exact hne (hother.unique hoffers).1

/-- A session writes the song to a file without records. -/
private theorem exists_written_moonRiver :
    ∃ place disk lib, ∃ libs : Bool → Option (Library SlotFile),
      Interleaved place libs disk [(1, moonRiverRecord)] ∧ libs true = some lib ∧
      lib.tables = .standard ∧ FileAt place ⟨1, 256, 1⟩ disk ∧
      Joins place ⟨1, 256, 1⟩ newHandle disk ∧
      slotBytes (disk.content place) 256 1 =
        Record.stored .standard ⟨1, true, .epoch⟩ moonRiver := by
  obtain ⟨place, disk, hfile, hjoins⟩ := exists_empty_file
  obtain ⟨lib, hunopened, hload, _, _, htables, hempty⟩ := exists_loaded_of_fileAt hfile hjoins
  have hopened : Interleaved (ι := Bool) place _ disk [] :=
    .opens true (.start fun h hfile' => hfile'.unique hfile ▸ ⟨by decide, by decide⟩) hunopened
      hload hjoins.leads
  -- The path is not on record, so that the song gets the first number.
  have hnew : lib.onRecord? moonRiver = none := hempty "a.mp3"
  have hdraft : lib.draft? 0 .epoch moonRiver = some (⟨1, true, .epoch⟩, moonRiver) :=
    draft?_of_new rfl rfl hnew 0
  have hlength : moonRiverRecord.length ≤ 256 := by decide +kernel
  have hwritten := hopened.putsRecord (Function.update_self ..) hfile hdraft (by decide)
    (by rw [htables]) hlength
  refine ⟨place, _, _, _, hwritten, rfl, (tables_settle _ _ _).trans htables,
    hfile.record (show 1 ≤ Number.maxUInt32 by decide) moonRiverRecord,
    hjoins.mono (hjoins.extends_record 1 moonRiverRecord) rfl rfl, ?_⟩
  rw [StoreHandle.content_record]
  exact StoreHandle.slotBytes_withRecord ⟨1, 256, 0⟩ _ hlength (by decide) (by decide)

/-- Another session is opened then, and the first one writes the song again with another
title. -/
private theorem exists_riverLog :
    ∃ place disk lib, ∃ libs : Bool → Option (Library SlotFile), ∃ i : Nat,
      Interleaved place libs disk riverLog ∧ libs false = some lib ∧ lib.tables = .standard ∧
      lib.songs[i]? = some ((asRead 1 moonRiver).withIndex i) ∧
      lib.onRecord? libertango = none := by
  obtain ⟨place, disk, lib, libs, hrun, hlib, htables, hfile, hjoins, hslot⟩ :=
    exists_written_moonRiver
  have hunopened : Unopened newHandle disk := ⟨rfl, by decide, by decide, by decide⟩
  obtain ⟨other, hload, hfrom, _⟩ :=
    exists_loaded_of_closed (fun _ _ => .ok true) .standard
      (hfile.has hjoins (hfile.browsable (by decide))) rfl
  obtain ⟨⟨i, hi⟩, hno⟩ := LoadedFrom.exists_moonRiver hfrom hslot rfl
  have hboth := hrun.opens false hunopened hload hjoins.leads
  -- The song has a number by now.
  have hdraft : lib.draft? 1 .epoch liveRiver = some (⟨1, false, .epoch⟩, liveRiver) := rfl
  have hlast := hboth.putsRecord (i := true) hlib hfile hdraft (by decide) (by rw [htables])
    (by decide +kernel)
  exact ⟨place, _, other, _, i, hlast, rfl, hfrom.tables, hi, hno "b.mp3" (by decide)⟩

/-- A session sees what another one has written after both of them were opened, and takes a slot
behind it for a new song. -/
theorem sessions_coherent_retitled :
    ∃ place disk lib, ∃ libs : Bool → Option (Library SlotFile), ∃ i n : Nat, ∃ read,
      Interleaved place libs disk riverLog ∧ libs false = some lib ∧
      Coherent riverLog lib disk ∧
      loadEntry i (lib, disk) = .ok (some read) (lib.replace i read, disk) ∧
      read.recordNumber? = some 1 ∧ read.value? .title = some (.text "Moon River (live)") ∧
      lib.onRecord? libertango = none ∧ 1 < n ∧
      StoreHandle.readSingle n (lib.handle, disk) = .ok none (lib.handle, disk) := by
  obtain ⟨place, disk, lib, libs, i, hrun, hlib, htables, hsong, hnew⟩ := exists_riverLog
  obtain ⟨hcoherent, _⟩ := sessions_coherent hrun hlib
  have hplain : Text.Plain Tables.standard.defaultStatus := by decide
  have hdecode : Record.decode lib.tables (Record.stored .standard ⟨1, false, .epoch⟩ liveRiver) =
      .ok (Record.recorded .standard ⟨1, false, .epoch⟩ liveRiver) := by
    rw [htables, Record.stored_eq_bytes _ _ _ hplain]
    exact Record.decode_encode _ _ liveRiver (show _ = some "a.mp3" from rfl) (by decide) hplain
  have hpath : (Record.recorded .standard ⟨1, false, .epoch⟩ liveRiver).path? =
      (asRead 1 moonRiver).path? := by
    decide +kernel
  obtain ⟨n, hn, hload⟩ := hcoherent.loads i _ hsong
  obtain rfl : 1 = n := by
    have hown : (asRead 1 moonRiver).recordNumber? = some 1 := by decide +kernel
    exact Option.some.inj (hown.symm.trans hn)
  have hslot := hcoherent.reads 1 _ rfl
  -- The slot tells the title that the other session has written.
  have hread := hload _ _ hslot hdecode hpath
  -- A new song goes behind all that has been written.
  obtain ⟨m, hbehind, hempty, _⟩ := hcoherent.numbers .epoch libertango rfl rfl hnew
  have hnumber :=
    (Record.recorded .standard ⟨1, false, .epoch⟩ liveRiver).recordNumber?_setRecordNumber
      (show 1 ≤ 1 ∧ 1 ≤ maxRecordNumber by decide)
  have htitle : (Record.recorded .standard ⟨1, false, .epoch⟩ liveRiver).value? .title =
      some (.text "Moon River (live)") := by
    decide +kernel
  exact ⟨place, disk, lib, libs, i, m, _, hrun, hlib, hcoherent, hread, hnumber, htitle, hnew,
    hbehind 1 _ List.mem_cons_self, hempty⟩

end Ballroom.Library
