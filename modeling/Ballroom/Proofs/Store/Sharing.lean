import Ballroom.Proofs.Store.Batches
import Ballroom.Proofs.Store.Refinement

/-!
# Several handles on one store file

Between two requests and outside of a batch a handle knows nothing of its file but the size of
the slots, which stays what it is.  So several handles can use one file in turn (`Joins`): each
of them reads what is in the file, whoever has written it (`FileAt.readSingle`), and takes a new
number from behind all records that are there (`FileAt.allocate`).  A write changes the file in
the same way through all of them (`FileAt.write`), and they can all go on from there
(`Joins.mono`).
-/

namespace Ballroom.StoreHandle

open SlotFile (InReach Browsable headerOf slotBytes withSlot withHeader told)

variable {place : Place} {h h' : Header} {handle : StoreHandle SlotFile} {disk disk' : Disk}
  {m n : Nat} {data : Bytes}

/-- The file at a place is a store file, and its header says `h`. -/
structure FileAt (place : Place) (h : Header) (disk : Disk) : Prop where
  size_le : Header.size ≤ (disk.content place).size
  header : headerOf (disk.content place) = .ok h

/-- A handle is on the file at a place, whose header says `h`, and has closed it. -/
structure Joins (place : Place) (h : Header) (handle : StoreHandle SlotFile) (disk : Disk) :
    Prop where
  leads : disk.LeadsTo handle.path place
  version : h.version = handle.version
  noBatch : handle.inBatch = false
  store : handle.store = { slotSize := h.slotSize }

/-- A file has one header. -/
theorem FileAt.unique (hfile : FileAt place h disk) (hfile' : FileAt place h' disk) : h = h' :=
  Except.ok.inj (hfile.header.symm.trans hfile'.header)

/-- It is the content of a file that matters. -/
theorem FileAt.congr (hfile : FileAt place h disk)
    (hsame : disk'.content place = disk.content place) : FileAt place h disk' where
  size_le := by rw [hsame]; exact hfile.size_le
  header := by rw [hsame]; exact hfile.header

/-- The file of a handle that has closed it. -/
theorem Has.fileAt [Allocator] {slots : Nat → Bytes} (hhas : Has place h slots (handle, disk))
    (hclosed : handle.store.open? = none) : FileAt place h disk :=
  ⟨hhas.serves.size_le, hhas.serves.closed hclosed⟩

/-- A store file has a header that fits. -/
theorem FileAt.fits (hfile : FileAt place h disk) : h.Fits := Header.fits_of_decode hfile.header

/-- A handle that joins knows the size of the slots and is in no batch. -/
theorem Joins.settled (hjoins : Joins place h handle disk) : Settled h handle :=
  .inr ⟨hjoins.noBatch, hjoins.store⟩

/-- With slots of a moderate size every record can be asked for. -/
theorem FileAt.browsable [Allocator] (hfile : FileAt place h disk) (hsize : h.slotSize ≤ 65536) :
    Browsable h :=
  SlotFile.browsable_of_le hsize hfile.fits.count_le

/-- A handle has the file that it is on, with what is in its slots. -/
theorem FileAt.has [Allocator] (hfile : FileAt place h disk) (hjoins : Joins place h handle disk)
    (hbrowsable : Browsable h) :
    Has place h (slotBytes (disk.content place) h.slotSize) (handle, disk) where
  version := hjoins.version
  serves :=
    { leads := hjoins.leads
      fits := hfile.fits
      size_le := hfile.size_le
      slots := fun _ _ => rfl
      closed := fun _ => hfile.header
      opened := by simp [hjoins.store] }
  browsable := hbrowsable

/-- A handle stays on its file while the disk grows and records are added. -/
theorem Joins.mono (hjoins : Joins place h handle disk) (hgrown : disk.Extends disk')
    (hversion : h'.version = h.version) (hsize : h'.slotSize = h.slotSize) :
    Joins place h' handle disk' where
  leads := hjoins.leads.mono hgrown
  version := hversion.trans hjoins.version
  noBatch := hjoins.noBatch
  store := by rw [hsize, hjoins.store]

/-! ### Records in the file -/

/-- A store file after a record was put into slot `n` of it. -/
def withRecord (h : Header) (n : Nat) (data : Bytes) (content : Content) : Content :=
  headed { h with count := max h.count n } (h.count < n) (withSlot content h.slotSize n data)

/-- The slot of the record holds it, and the others hold what they held. -/
theorem slotBytes_withRecord (h : Header) (content : Content) (hlength : data.length ≤ h.slotSize)
    (hn : n ≠ 0) (hm : m ≠ 0) :
    slotBytes (withRecord h n data content) h.slotSize m =
      if m = n then data.takeWhile (· ≠ 0) else slotBytes content h.slotSize m := by
  -- The header is in front of all slots.
  have hheaded : slotBytes (withRecord h n data content) h.slotSize m =
      slotBytes (withSlot content h.slotSize n data) h.slotSize m := by
    unfold withRecord headed
    split
    · exact SlotFile.slotBytes_withHeader _ _ _ _
    · rfl
  rw [hheaded]
  split
  · rename_i hmn
    rw [hmn]
    exact SlotFile.slotBytes_withSlot content n hlength
  · rename_i hmn
    exact SlotFile.slotBytes_withSlot_of_ne content hlength hm hn hmn

/-- The disk after a record was put into slot `n` of the file at a place. -/
def record (disk : Disk) (place : Place) (h : Header) (n : Nat) (data : Bytes) : Disk :=
  disk.put place (.file (withRecord h n data (disk.content place)))

/-- A record is put into its slot of the file. -/
theorem content_record (disk : Disk) (place : Place) (h : Header) (n : Nat) (data : Bytes) :
    (record disk place h n data).content place = withRecord h n data (disk.content place) := by
  rw [record, Disk.content_put_file, if_pos rfl]

/-- A file that a record was put into is a store file with that record. -/
theorem FileAt.record (hfile : FileAt place h disk) (hmax : n ≤ Number.maxUInt32) (data : Bytes) :
    FileAt place { h with count := max h.count n } (record disk place h n data) := by
  have hfits : Header.Fits { h with count := max h.count n } :=
    ⟨hfile.fits.version_le, Nat.max_le.2 ⟨hfile.fits.count_le, hmax⟩, hfile.fits.slotSize_pos,
      hfile.fits.slotSize_le⟩
  by_cases hlt : h.count < n
  · -- The header is written behind the record.
    constructor
    · rw [content_record, withRecord, headed, if_pos (by simpa using hlt)]
      exact SlotFile.size_le_withHeader _ _
    · rw [content_record, withRecord, headed, if_pos (by simpa using hlt)]
      exact SlotFile.headerOf_withHeader _ hfits
  · -- The record has a number that the header counts already.
    have hsame : ({ h with count := max h.count n } : Header) = h := by
      rw [Nat.max_eq_left (Nat.le_of_not_lt hlt)]
    rw [hsame]
    constructor
    · rw [content_record, withRecord, headed, if_neg (by simpa using hlt)]
      exact SlotFile.size_le_withSlot hfile.size_le _ _ _
    · rw [content_record, withRecord, headed, if_neg (by simpa using hlt),
        SlotFile.headerOf_withSlot hfile.size_le]
      exact hfile.header

/-- A record that a handle writes takes no file or directory away. -/
theorem Joins.extends_record (hjoins : Joins place h handle disk) (n : Nat) (data : Bytes) :
    disk.Extends (record disk place h n data) := by
  obtain ⟨content, hentry⟩ := hjoins.leads.file
  exact Disk.extends_put_file hentry _

/-- A handle that has closed its file again is what it was. -/
theorem Joins.onFile_eq (hjoins : Joins place h handle disk) (content : Content) :
    onFile handle disk place false ⟨h.slotSize, none⟩ content =
      (handle, disk.put place (.file content)) := by
  rw [onFile, ← hjoins.store, ← hjoins.noBatch]

/-! ### Requests -/

section Requests

variable [Allocator]

/-- A slot is read as it is in the file, and nothing changes. -/
theorem FileAt.readSingle (hfile : FileAt place h disk) (hjoins : Joins place h handle disk)
    (hbrowsable : Browsable h) (n : Nat) :
    StoreHandle.readSingle n (handle, disk) =
      Step.ofExcept ((told h (slotBytes (disk.content place) h.slotSize) n).mapError
        LibraryFault.host) (handle, disk) :=
  (hfile.has hjoins hbrowsable).readSingle_told hjoins.settled n

/-- A record that fits its slot is put into the file, whether the file is open for it or not; one
that does not fit is refused. -/
private theorem write_of_inUse (hjoins : Joins place h handle disk) {open? : Option OpenSlots}
    (huse : InUse handle disk place false h n false open? (disk.content place)) (hn : n ≠ 0)
    (hreach : InReach h.slotSize n) (hmax : n ≤ Number.maxUInt32) (data : Bytes) :
    StoreHandle.write n data
        (onFile handle disk place false ⟨h.slotSize, open?⟩ (disk.content place)) =
      if h.slotSize < data.length then
        .error (.fault (.recordTooLarge n data.length h.slotSize)) (handle, disk)
      else .ok () (handle, StoreHandle.record disk place h n data) := by
  split
  · rename_i hlength
    obtain ⟨content, hentry⟩ := hjoins.leads.file
    rw [huse.write_refused hlength, hjoins.onFile_eq, Disk.put_content hentry]
  · rename_i hlength
    obtain ⟨hwrite, _⟩ := huse.write_plain hn (Nat.le_of_not_lt hlength) hreach hmax
    rw [hwrite, hjoins.onFile_eq]
    rfl

/-- A record that fits its slot is put into the file; one that does not fit is refused, and
nothing changes. -/
theorem FileAt.write (hfile : FileAt place h disk) (hjoins : Joins place h handle disk)
    (hbrowsable : Browsable h) (hn : n ≠ 0) (hreach : InReach h.slotSize n)
    (hmax : n ≤ Number.maxUInt32) (data : Bytes) :
    StoreHandle.write n data (handle, disk) =
      if h.slotSize < data.length then
        .error (.fault (.recordTooLarge n data.length h.slotSize)) (handle, disk)
      else .ok () (handle, StoreHandle.record disk place h n data) := by
  obtain ⟨hsame, huse⟩ := (hfile.has hjoins hbrowsable).inUse_of_closed hjoins.noBatch hjoins.store
  have hwrite := write_of_inUse hjoins (huse.mono (Nat.zero_le n)) hn hreach hmax data
  rwa [hsame] at hwrite

/-- A new record gets the number behind all records that are in the file, and is written there
as one that had the number before. -/
theorem FileAt.allocate (hfile : FileAt place h disk) (hjoins : Joins place h handle disk)
    (hbrowsable : Browsable h) (hcount : h.count < maxRecordNumber)
    (hreach : InReach h.slotSize (h.count + 1)) :
    ∃ t, StoreHandle.allocate (handle, disk) = .ok (h.count + 1) t ∧
      ∀ data, StoreHandle.write (h.count + 1) data t =
        StoreHandle.write (h.count + 1) data (handle, disk) := by
  obtain ⟨hsame, huse⟩ := (hfile.has hjoins hbrowsable).inUse_of_closed hjoins.noBatch hjoins.store
  -- The file stays open, which makes no difference to the write that follows.
  obtain ⟨o, hallocate, hopened⟩ := huse.allocate hcount
  rw [hsame] at hallocate
  refine ⟨_, hallocate, fun data => ?_⟩
  rw [write_of_inUse hjoins hopened (Nat.succ_ne_zero _) hreach hcount data,
    hfile.write hjoins hbrowsable (Nat.succ_ne_zero _) hreach hcount data]

end Requests

end Ballroom.StoreHandle
