import Ballroom.Proofs.Store.Allocation

/-!
# Writes with and without a batch

Outside of a batch a store file is opened for each write and closed behind it, and its
header is brought up to date at once.  During a batch the file stays open and the header
waits for the end.  `InUse` says of either how far the writes have come; it is kept by
the requests that a write consists of.  `Twins` sets the two side by side: they hand out the
same numbers and write the same records, so that their files are told apart by the header
alone, until the batch ends (`InUse.endBatch`).
-/

namespace Ballroom

namespace Disk

/-- Writing into a file that was put somewhere is putting another one there. -/
theorem writeAt_put (disk : Disk) (place : Place) (content : Content) (offset : Nat)
    (data : Content) :
    (disk.put place (.file content)).writeAt place offset data =
      disk.put place (.file (content.overwrite offset data)) := by
  rw [writeAt, content_put_file, if_pos rfl, put_put]

/-- Putting a file where it stands changes nothing. -/
theorem put_content {disk : Disk} {place : Place} {content : Content}
    (h : disk.entryAt? place = some (.file content)) :
    disk.put place (.file (disk.content place)) = disk := by
  apply ext_entryAt?
  intro p
  rw [entryAt_put, Disk.content, h]
  split
  · rename_i hp
    rw [hp, h]
  · rfl

end Disk

namespace StoreHandle

open SlotFile (InReach withSlot withHeader fresh grown offset)

/-! ### What has been written of a file -/

/-- A file with its header, if that is still to be written. -/
def headed (h : Header) (dirty : Bool) (content : Content) : Content :=
  if dirty then withHeader content h else content

/-- A record that is written behind the header leaves the same bytes as one that is written
before it, and a header that is written twice the same as one that is written at last. -/
theorem toBytes_headed_withSlot {h : Header} {dirty : Bool} {a b : Content}
    (hsame : a.toBytes = (headed h dirty b).toBytes) (n : Nat) (data : Bytes) :
    (headed { h with count := max h.count n } (h.count < n)
        (withSlot a h.slotSize n data)).toBytes =
      (headed { h with count := max h.count n } (dirty || h.count < n)
        (withSlot b h.slotSize n data)).toBytes := by
  -- The slot goes below a header that is still to be written.
  have hslot : (withSlot a h.slotSize n data).toBytes =
      (headed h dirty (withSlot b h.slotSize n data)).toBytes := by
    rw [Content.toBytes_overwrite_congr hsame]
    cases dirty with
    | false => rfl
    | true => exact SlotFile.toBytes_withSlot_withHeader b h h.slotSize n data
  by_cases hlt : h.count < n
  · -- With one more record the header is written anew, whatever was still to be written of it.
    simp only [headed, hlt, decide_true, Bool.or_true, if_true]
    rw [Content.toBytes_overwrite_congr hslot]
    cases dirty with
    | false => rfl
    | true => exact SlotFile.toBytes_withHeader_withHeader _ _ _
  · have hmax : max h.count n = h.count := by omega
    simp only [headed, hlt, decide_false, Bool.or_false, Bool.false_eq_true, if_false, hmax]
    exact hslot

/-! ### Files in use -/

/-- A handle that is `root` but for its store and its batch, and a disk that is `base` but
for the file at `place`. -/
abbrev onFile (root : StoreHandle SlotFile) (base : Disk) (place : Place) (inBatch : Bool)
    (f : SlotFile) (content : Content) : StoreHandle SlotFile × Disk :=
  ({ root with store := f, inBatch := inBatch }, base.put place (.file content))

section Files

variable [Allocator]

/-- A store file that is written, with what is known of it while it is open.  Its header is to
be `h`, and says so already outside of a batch; during a batch the file is open.  Numbers up
to `n` may have been handed out that no record has. -/
structure InUse (root : StoreHandle SlotFile) (base : Disk) (place : Place) (inBatch : Bool)
    (h : Header) (n : Nat) (dirty : Bool) (open? : Option OpenSlots) (content : Content) :
    Prop where
  has : ∃ slots, Has place h slots (onFile root base place inBatch ⟨h.slotSize, open?⟩ content)
  opened : ∀ o, open? = some o →
    o.inBatch = inBatch ∧ o.headerDirty = dirty ∧ o.allocated ≤ max o.count n
  isOpen : inBatch = true → open?.isSome
  clean : inBatch = false → dirty = false

variable {root : StoreHandle SlotFile} {base : Disk} {place : Place} {inBatch : Bool} {h : Header}
  {m n : Nat} {dirty : Bool} {open? : Option OpenSlots} {content : Content} {data : Bytes}
  {slots : Nat → Bytes}

/-- Numbers handed out below one bound are below a larger one. -/
theorem InUse.mono (hs : InUse root base place inBatch h m dirty open? content) (hle : m ≤ n) :
    InUse root base place inBatch h n dirty open? content where
  has := hs.has
  opened o ho := by
    obtain ⟨hbatch, hdirty, hallocated⟩ := hs.opened o ho
    exact ⟨hbatch, hdirty, by omega⟩
  isOpen := hs.isOpen
  clean := hs.clean

/-- An open file with the records of its header is in use. -/
theorem inUse_of_open {o : OpenSlots}
    (hhas : Has place h slots (onFile root base place inBatch ⟨h.slotSize, some o⟩ content))
    (hbatch : o.inBatch = inBatch) (hdirty : o.headerDirty = dirty)
    (hallocated : o.allocated ≤ max o.count n) (hclean : inBatch = false → dirty = false) :
    InUse root base place inBatch h n dirty (some o) content where
  has := ⟨slots, hhas⟩
  opened o' ho' := by
    obtain rfl := Option.some.inj ho'
    exact ⟨hbatch, hdirty, hallocated⟩
  isOpen _ := rfl
  clean := hclean

/-- A handle that has closed its store is on the file of the store. -/
theorem Has.inUse_of_closed {disk : Disk} (hhas : Has place h slots (root, disk))
    (hbatch : root.inBatch = false) (hstore : root.store = { slotSize := h.slotSize }) :
    onFile root disk place false ⟨h.slotSize, none⟩ (disk.content place) = (root, disk) ∧
      InUse root disk place false h 0 false none (disk.content place) := by
  have hsame : onFile root disk place false ⟨h.slotSize, none⟩ (disk.content place) =
      (root, disk) := by
    obtain ⟨content, hentry⟩ := hhas.serves.leads.file
    rw [onFile, Disk.put_content hentry, ← hstore, ← hbatch]
  exact ⟨hsame, ⟨slots, by rwa [hsame]⟩, by simp, by simp, fun _ => rfl⟩

/-- The file is opened, unless it is open. -/
theorem InUse.acquire (hs : InUse root base place inBatch h n dirty open? content) :
    ∃ o, StoreHandle.acquire (onFile root base place inBatch ⟨h.slotSize, open?⟩ content) =
        .ok () (onFile root base place inBatch ⟨h.slotSize, some o⟩ content) ∧
      InUse root base place inBatch h n dirty (some o) content := by
  obtain ⟨slots, hhas⟩ := hs.has
  cases open? with
  | some o => exact ⟨o, acquire_of_open rfl, hs⟩
  | none =>
    cases inBatch with
    -- A batch keeps its file open.
    | true => exact absurd (hs.isOpen rfl) (by decide)
    | false =>
      obtain ⟨hacquire, hhas'⟩ := hhas.acquire rfl
      exact ⟨fresh place h, hacquire,
        inUse_of_open hhas' rfl (hs.clean rfl).symm (Nat.le_max_left _ _) hs.clean⟩

/-- A new record gets the number behind the last record. -/
theorem InUse.allocate (hs : InUse root base place inBatch h 0 dirty open? content)
    (hcount : h.count < maxRecordNumber) :
    ∃ o, StoreHandle.allocate (onFile root base place inBatch ⟨h.slotSize, open?⟩ content) =
        .ok (h.count + 1) (onFile root base place inBatch ⟨h.slotSize, some o⟩ content) ∧
      InUse root base place inBatch h (h.count + 1) dirty (some o) content := by
  obtain ⟨o, hacquire, hopened⟩ := hs.acquire
  obtain ⟨slots, hhas⟩ := hopened.has
  obtain ⟨hbatch, rfl, hallocated⟩ := hopened.opened o rfl
  obtain ⟨_, _, ho, _⟩ := hhas.serves.opened o rfl
  have ho : o.count = h.count := ho
  -- There are no numbers handed out behind the records.
  have hnumber : max o.allocated o.count + 1 = h.count + 1 := by omega
  have hfits : ¬Number.maxUInt32 < h.count + 1 := Nat.not_lt_of_le hcount
  have hresult := allocate_of_acquire hacquire rfl
  rw [hnumber, if_neg hfits] at hresult
  have hhas' : Has place h slots (onFile root base place inBatch
      ⟨h.slotSize, some { o with allocated := h.count + 1 }⟩ content) :=
    ⟨hhas.version, hhas.serves.setOpened_of_eq rfl _ rfl rfl rfl rfl, hhas.browsable⟩
  exact ⟨_, hresult, inUse_of_open hhas' hbatch rfl (Nat.le_max_right _ _) hs.clean⟩

/-- The header of a file is written as it is to be, if it is out of date. -/
theorem synced_eq {o : OpenSlots}
    (hhas : Has place h slots (onFile root base place inBatch ⟨h.slotSize, some o⟩ content)) :
    (if o.headerDirty then (base.put place (.file content)).writeAt o.place 0
        (.ofBytes (Header.encode ⟨o.version, h.slotSize, o.count⟩))
      else base.put place (.file content)) =
      base.put place (.file (headed h o.headerDirty content)) := by
  obtain ⟨hplace, hversion, hcount, _⟩ := hhas.serves.opened o rfl
  have hheader : (⟨o.version, h.slotSize, o.count⟩ : Header) = h := by
    rw [hversion, hcount]
  rw [hheader, show o.place = place from hplace, Disk.writeAt_put]
  unfold headed
  split <;> rfl

/-- Closing a file whose header is up to date leaves the disk alone. -/
private theorem whenOpen_close {handle : StoreHandle SlotFile} {o : OpenSlots}
    (ho : handle.store.open? = some o) (hclean : o.headerDirty = false) (disk : Disk) :
    whenOpen (request RecordStore.close) (handle, disk) =
      .ok () ({ handle with store := { handle.store with open? := none } }, disk) := by
  have hclose : RecordStore.close (handle.store, disk) = _ := SlotFile.close_apply ho
  rw [hclean, if_neg (by decide)] at hclose
  rw [whenOpen_of_open (by rw [ho]; rfl), request_apply, hclose]

/-- The file after a record was put into its slot, before anything is done about its header. -/
private theorem has_grown {o : OpenSlots}
    (hhas : Has place h slots (onFile root base place inBatch ⟨h.slotSize, some o⟩ content))
    (hn : n ≠ 0) (hlength : data.length ≤ h.slotSize) (hreach : InReach h.slotSize n)
    (hmax : n ≤ maxRecordNumber) :
    Has place { h with count := max h.count n }
      (Function.update slots n (data.takeWhile (· ≠ 0)))
      (onFile root base place inBatch ⟨h.slotSize, some (grown o n)⟩
        (withSlot content h.slotSize n data)) := by
  obtain ⟨hplace, _⟩ := hhas.serves.opened o rfl
  have hgrown := hhas.serves.grow rfl hn hlength hmax
  rw [show o.place = place from hplace, Disk.writeAt_put] at hgrown
  exact ⟨hhas.version, hgrown, hhas.browsable.grow hreach⟩

/-- Outside of a batch an open store is closed. -/
private theorem closeUnlessBatch_of_not_inBatch {handle : StoreHandle SlotFile}
    (hbatch : handle.inBatch = false) (disk : Disk) :
    closeUnlessBatch (handle, disk) = whenOpen (request RecordStore.close) (handle, disk) := by
  simp [closeUnlessBatch, StoreHandle.close, hbatch]

/-- What a write is known to leave is what it has left. -/
private theorem has_of_write {s u : StoreHandle SlotFile × Disk} (hhas : Has place h slots s)
    (hmax : n ≤ maxRecordNumber) (hwrite : StoreHandle.write n data s = .ok () u) :
    ∃ slots', Has place { h with count := max h.count n } slots' u := by
  obtain ⟨t, hresult, _, _, hhas', _⟩ | ⟨_, _, hresult, _⟩ | ⟨hpanics, _⟩ :=
    hhas.write hmax data
  · rw [hwrite] at hresult
    obtain ⟨-, rfl⟩ := EStateM.Result.ok.inj hresult
    exact ⟨_, hhas'⟩
  · cases hwrite.symm.trans hresult
  · exact absurd hpanics (Step.not_panics_of_ok hwrite)

/-- Outside of a batch the record is written, and then the header if there is one more
record; the file is closed again. -/
theorem InUse.write_plain (hs : InUse root base place false h n dirty open? content) (hn : n ≠ 0)
    (hlength : data.length ≤ h.slotSize) (hreach : InReach h.slotSize n)
    (hmax : n ≤ maxRecordNumber) :
    StoreHandle.write n data (onFile root base place false ⟨h.slotSize, open?⟩ content) =
        .ok () (onFile root base place false ⟨h.slotSize, none⟩
          (headed { h with count := max h.count n } (h.count < n)
            (withSlot content h.slotSize n data))) ∧
      InUse root base place false { h with count := max h.count n } 0 false none
        (headed { h with count := max h.count n } (h.count < n)
          (withSlot content h.slotSize n data)) := by
  obtain ⟨slots, hhas⟩ := hs.has
  obtain ⟨o, hacquire, hopened⟩ := hs.acquire
  obtain ⟨slots', hhas'⟩ := hopened.has
  obtain ⟨hbatch, hdirty, _⟩ := hopened.opened o rfl
  obtain ⟨hplace, _, hcount, _⟩ := hhas'.serves.opened o rfl
  have hdirty' : (grown o n).headerDirty = decide (h.count < n) := by
    rw [SlotFile.headerDirty_grown, hdirty, hs.clean rfl, Bool.false_or,
      show o.count = h.count from hcount]
  -- The store puts the record into its slot and then writes the header.
  have hwrite : SlotFile.write n data (⟨h.slotSize, some o⟩, base.put place (.file content)) =
      .ok () (⟨h.slotSize, some { grown o n with headerDirty := false }⟩,
        base.put place (.file (headed { h with count := max h.count n } (h.count < n)
          (withSlot content h.slotSize n data)))) := by
    have hsynced := synced_eq (has_grown hhas' hn hlength hreach hmax)
    dsimp only at hsynced
    rw [SlotFile.write_apply rfl hn hlength hreach, hbatch, show o.place = place from hplace,
      Disk.writeAt_put, Bool.not_false, if_pos rfl, SlotFile.syncHeader_apply rfl]
    dsimp only
    rw [hsynced, hdirty']
  have hresult := write_of_acquire hacquire hlength hwrite
  rw [closeUnlessBatch_of_not_inBatch rfl, whenOpen_close rfl rfl] at hresult
  refine ⟨hresult, has_of_write hhas hmax hresult, by simp, by simp, fun _ => rfl⟩

/-- Outside of a batch a record that does not fit its slot is refused, and the file is closed
again. -/
theorem InUse.write_refused (hs : InUse root base place false h n dirty open? content)
    (hlength : h.slotSize < data.length) (m : Nat) :
    StoreHandle.write m data (onFile root base place false ⟨h.slotSize, open?⟩ content) =
      .error (.fault (.recordTooLarge m data.length h.slotSize))
        (onFile root base place false ⟨h.slotSize, none⟩ content) := by
  obtain ⟨o, hacquire, hopened⟩ := hs.acquire
  obtain ⟨_, hdirty, _⟩ := hopened.opened o rfl
  -- The handle compares with the size of the slots before the store is asked.
  have hlimit : RecordStore.recordSize (⟨h.slotSize, some o⟩ : SlotFile)
      (base.put place (.file content)) < data.length := hlength
  have hclose : closeUnlessBatch (onFile root base place false ⟨h.slotSize, some o⟩ content) = _ :=
    closeUnlessBatch_of_not_inBatch rfl _
  rw [whenOpen_close rfl (hdirty.trans (hs.clean rfl))] at hclose
  simp only [StoreHandle.write, during, Step.bind_apply, hacquire, Step.attempt_apply,
    writeFitting, Step.get_apply, Step.ite_apply, if_pos hlimit, Step.fail_apply, hclose,
    Step.ofExcept_apply]
  rfl

/-- During a batch only the record is written, and the header is out of date if there is one
more record. -/
theorem InUse.write_batch (hs : InUse root base place true h n dirty open? content) (hn : n ≠ 0)
    (hlength : data.length ≤ h.slotSize) (hreach : InReach h.slotSize n)
    (hmax : n ≤ maxRecordNumber) :
    ∃ o, StoreHandle.write n data (onFile root base place true ⟨h.slotSize, open?⟩ content) =
        .ok () (onFile root base place true ⟨h.slotSize, some o⟩
          (withSlot content h.slotSize n data)) ∧
      InUse root base place true { h with count := max h.count n } 0 (dirty || h.count < n)
        (some o) (withSlot content h.slotSize n data) := by
  obtain ⟨o, hacquire, hopened⟩ := hs.acquire
  obtain ⟨slots, hhas⟩ := hopened.has
  obtain ⟨hbatch, hdirty, hallocated⟩ := hopened.opened o rfl
  obtain ⟨hplace, _, hcount, _⟩ := hhas.serves.opened o rfl
  have hcount : o.count = h.count := hcount
  -- The store puts the record into its slot and leaves the header for later.
  have hwrite : SlotFile.write n data (⟨h.slotSize, some o⟩, base.put place (.file content)) =
      .ok () (⟨h.slotSize, some (grown o n)⟩,
        base.put place (.file (withSlot content h.slotSize n data))) := by
    rw [SlotFile.write_apply rfl hn hlength hreach, hbatch, show o.place = place from hplace,
      Disk.writeAt_put]
    rfl
  have hresult := write_of_acquire hacquire hlength hwrite
  rw [closeUnlessBatch_of_inBatch rfl] at hresult
  -- A record that is written uses up the number that was handed out for it.
  have hallocated' : (grown o n).allocated ≤ max (grown o n).count 0 := by
    rw [SlotFile.allocated_grown, SlotFile.count_grown]
    omega
  refine ⟨grown o n, hresult,
    inUse_of_open (has_grown hhas hn hlength hreach hmax) ?_ ?_ hallocated' ?_⟩
  · rw [SlotFile.inBatch_grown, hbatch]
  · rw [SlotFile.headerDirty_grown, hdirty, hcount]
  · simp

/-! ### Batches -/

/-- A batch is started on a closed file. -/
theorem InUse.startBatch (hs : InUse root base place false h 0 false none content) :
    ∃ o, StoreHandle.startBatch (onFile root base place false ⟨h.slotSize, none⟩ content) =
        .ok () (onFile root base place true ⟨h.slotSize, some o⟩ content) ∧
      InUse root base place true h 0 false (some o) content := by
  obtain ⟨o, hacquire, hopened⟩ := hs.acquire
  obtain ⟨slots, hhas⟩ := hopened.has
  obtain ⟨_, hdirty, hallocated⟩ := hopened.opened o rfl
  have hhas' : Has place h slots (onFile root base place true
      ⟨h.slotSize, some { o with inBatch := true }⟩ content) :=
    ⟨hhas.version, hhas.serves.setOpened_of_eq rfl _ rfl rfl rfl rfl, hhas.browsable⟩
  exact ⟨_, startBatch_of_acquire hacquire rfl,
    inUse_of_open hhas' rfl hdirty hallocated (by simp)⟩

/-- The end of a batch writes the header, if it is out of date, and closes the file. -/
theorem InUse.endBatch (hs : InUse root base place true h n dirty open? content) :
    StoreHandle.endBatch (onFile root base place true ⟨h.slotSize, open?⟩ content) =
      .ok () (onFile root base place false ⟨h.slotSize, none⟩ (headed h dirty content)) := by
  obtain ⟨o, rfl⟩ := Option.isSome_iff_exists.1 (hs.isOpen rfl)
  obtain ⟨slots, hhas⟩ := hs.has
  obtain ⟨_, rfl, _⟩ := hs.opened o rfl
  -- The store writes its header, if it was left for later.
  have hend : RecordStore.endBatch
      ((⟨h.slotSize, some o⟩ : SlotFile), base.put place (.file content)) =
      .ok () (⟨h.slotSize, some { o with inBatch := false, headerDirty := false }⟩,
        base.put place (.file (headed h o.headerDirty content))) := by
    have hend : SlotFile.endBatch (⟨h.slotSize, some o⟩, base.put place (.file content)) = _ :=
      SlotFile.endBatch_apply rfl
    rw [SlotFile.syncHeader_apply rfl] at hend
    dsimp only at hend
    rwa [synced_eq hhas] at hend
  have hopen : whenOpen (request RecordStore.endBatch)
      (onFile root base place false ⟨h.slotSize, some o⟩ content) =
      .ok () (onFile root base place false
        ⟨h.slotSize, some { o with inBatch := false, headerDirty := false }⟩
        (headed h o.headerDirty content)) := by
    rw [whenOpen_of_open rfl, request_apply]
    dsimp only
    rw [hend]
  -- Once its batch has ended the store is closed as outside of one.
  simp only [StoreHandle.endBatch, StoreHandle.close, setBatch, Step.bind_apply, Step.get_apply,
    Step.ite_apply, if_true, Step.modify_apply, hopen]
  exact whenOpen_close rfl rfl _

/-! ### The same writes with and without a batch -/

/-- A file that is written without a batch and one that is written during a batch, after the
same writes.  They have the same bytes but for a header that is still to be written. -/
structure Twins (root : StoreHandle SlotFile) (base : Disk) (place : Place) (h : Header) (n : Nat)
    (dirty : Bool) (plain? batched? : Option OpenSlots) (plain batched : Content) : Prop where
  outside : InUse root base place false h n false plain? plain
  during : InUse root base place true h n dirty batched? batched
  same : plain.toBytes = (headed h dirty batched).toBytes

variable {plain? batched? : Option OpenSlots} {plain batched : Content}

/-- Twins with numbers below one bound are twins below a larger one. -/
theorem Twins.mono (ht : Twins root base place h m dirty plain? batched? plain batched)
    (hle : m ≤ n) : Twins root base place h n dirty plain? batched? plain batched where
  outside := ht.outside.mono hle
  during := ht.during.mono hle
  same := ht.same

/-- Both hand out the same number. -/
theorem Twins.allocate (ht : Twins root base place h 0 dirty plain? batched? plain batched)
    (hcount : h.count < maxRecordNumber) :
    ∃ p q, StoreHandle.allocate (onFile root base place false ⟨h.slotSize, plain?⟩ plain) =
        .ok (h.count + 1) (onFile root base place false ⟨h.slotSize, some p⟩ plain) ∧
      StoreHandle.allocate (onFile root base place true ⟨h.slotSize, batched?⟩ batched) =
        .ok (h.count + 1) (onFile root base place true ⟨h.slotSize, some q⟩ batched) ∧
      Twins root base place h (h.count + 1) dirty (some p) (some q) plain batched := by
  obtain ⟨p, hplain, hplain'⟩ := ht.outside.allocate hcount
  obtain ⟨q, hbatched, hbatched'⟩ := ht.during.allocate hcount
  exact ⟨p, q, hplain, hbatched, hplain', hbatched', ht.same⟩

/-- Both write a record that fits. -/
theorem Twins.write (ht : Twins root base place h n dirty plain? batched? plain batched)
    (hn : n ≠ 0) (hlength : data.length ≤ h.slotSize) (hreach : InReach h.slotSize n)
    (hmax : n ≤ maxRecordNumber) :
    ∃ dirty' q plain' batched',
      StoreHandle.write n data (onFile root base place false ⟨h.slotSize, plain?⟩ plain) =
        .ok () (onFile root base place false ⟨h.slotSize, none⟩ plain') ∧
      StoreHandle.write n data (onFile root base place true ⟨h.slotSize, batched?⟩ batched) =
        .ok () (onFile root base place true ⟨h.slotSize, some q⟩ batched') ∧
      Twins root base place { h with count := max h.count n } 0 dirty' none (some q) plain'
        batched' := by
  obtain ⟨hplain, hplain'⟩ := ht.outside.write_plain hn hlength hreach hmax
  obtain ⟨q, hbatched, hbatched'⟩ := ht.during.write_batch hn hlength hreach hmax
  exact ⟨_, q, _, _, hplain, hbatched, hplain', hbatched', toBytes_headed_withSlot ht.same n data⟩

end Files

end StoreHandle

end Ballroom
