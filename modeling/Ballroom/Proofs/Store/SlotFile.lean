import Ballroom.Proofs.Disk.Paths
import Ballroom.Proofs.Store.Slots
import Ballroom.Proofs.Step
import Mathlib.Logic.Function.Basic

/-!
# What requests to a store file do

`Serves` says that a handle and a disk have the store file of a path, with a header and
slots as given.  Every request comes with the header and the slots that it leaves; a
header that is still to be written counts as written.
-/

namespace Ballroom.SlotFile

/-- A handle and a disk with the store file of a path at `place`, whose slots hold `slots`.
What its header says, or is to say as soon as it is written, is `h`. -/
structure Serves (path : String) (place : Place) (h : Header) (slots : Nat → Bytes)
    (s : SlotFile × Disk) : Prop where
  leads : s.2.LeadsTo path place
  fits : h.Fits
  size_le : Header.size ≤ (s.2.content place).size
  slots : ∀ n, n ≠ 0 → slotBytes (s.2.content place) h.slotSize n = slots n
  closed : s.1.open? = none → headerOf (s.2.content place) = .ok h
  opened : ∀ o, s.1.open? = some o →
    o.place = place ∧ o.version = h.version ∧ o.count = h.count ∧ s.1.slotSize = h.slotSize ∧
      (o.headerDirty = false → headerOf (s.2.content place) = .ok h)

variable {path : String} {place : Place} {h : Header} {slots : Nat → Bytes} {f : SlotFile}
  {disk : Disk} {o : OpenSlots} {n : Nat} {data : Bytes}

/-! ### The header -/

theorem opened_apply (ho : f.open? = some o) : opened (f, disk) = .ok o (f, disk) := by
  simp only [opened, Step.bind_apply, Step.get_apply, ho, Step.pure_apply]

/-- What is written into a file is in its content. -/
theorem content_writeAt (disk : Disk) (place : Place) (offset : Nat) (data : Content) :
    (disk.writeAt place offset data).content place =
      (disk.content place).overwrite offset data := by
  rw [Disk.writeAt, Disk.content_put_file, if_pos rfl]

/-- The header is written only if it is out of date. -/
theorem syncHeader_apply (ho : f.open? = some o) :
    syncHeader (f, disk) = .ok () ({ f with open? := some { o with headerDirty := false } },
      if o.headerDirty then
        disk.writeAt o.place 0 (.ofBytes (Header.encode ⟨o.version, f.slotSize, o.count⟩))
      else disk) := by
  cases hdirty : o.headerDirty with
  | true =>
    simp only [SlotFile.syncHeader, SlotFile.writeHeader, Step.bind_apply, opened_apply ho, hdirty,
      if_true, Step.modify_apply]
  | false =>
    -- The handle says already that nothing is to be written.
    have hclean : { f with open? := some { o with headerDirty := false } } = f := by
      rw [← hdirty, ← ho]
    rw [hclean]
    simp only [SlotFile.syncHeader, Step.bind_apply, opened_apply ho, hdirty, Bool.false_eq_true,
      if_false, Step.pure_apply]

/-- A header that is out of date is made to say what it is to say. -/
theorem Serves.syncHeader (hs : Serves path place h slots (f, disk)) (ho : f.open? = some o) :
    ∃ disk', syncHeader (f, disk) =
        .ok () ({ f with open? := some { o with headerDirty := false } }, disk') ∧
      Serves path place h slots ({ f with open? := some { o with headerDirty := false } }, disk') ∧
      (o.headerDirty = false → disk' = disk) := by
  obtain ⟨hplace, hversion, hcount, hsize, hclean⟩ := hs.opened o ho
  refine ⟨_, syncHeader_apply ho, ?_, fun hdirty => if_neg (by rw [hdirty]; decide)⟩
  cases hdirty : o.headerDirty with
  | false =>
    rw [if_neg (by decide)]
    refine ⟨hs.leads, hs.fits, hs.size_le, hs.slots, by simp, ?_⟩
    rintro _ ⟨⟩
    exact ⟨hplace, hversion, hcount, hsize, fun _ => hclean hdirty⟩
  | true =>
    have hheader : headerOf (withHeader (disk.content place) h) = .ok h :=
      headerOf_withHeader _ hs.fits
    -- The handle knows what the header is to say.
    have hencode : Header.encode ⟨o.version, f.slotSize, o.count⟩ = h.encode := by
      rw [hversion, hcount, show f.slotSize = h.slotSize from hsize]
    have hwritten : disk.writeAt o.place 0 (.ofBytes (Header.encode ⟨o.version, f.slotSize,
        o.count⟩)) = disk.writeAt place 0 (.ofBytes h.encode) := by
      rw [show o.place = place from hplace, hencode]
    rw [if_pos rfl, hwritten]
    refine ⟨hs.leads.writeAt 0 _, hs.fits, ?_, ?_, by simp, ?_⟩
    · rw [content_writeAt]
      exact size_le_withHeader _ h
    · intro n hn
      -- The header does not reach into the slots.
      rw [content_writeAt, slotBytes_withHeader, hs.slots n hn]
    · rintro _ ⟨⟩
      rw [content_writeAt]
      exact ⟨hplace, hversion, hcount, hsize, fun _ => hheader⟩

/-! ### Opening and closing -/

/-- Closing an open file writes its header, if that is out of date. -/
theorem close_apply (ho : f.open? = some o) :
    close (f, disk) = .ok () ({ f with open? := none },
      if o.headerDirty then
        disk.writeAt o.place 0 (.ofBytes (Header.encode ⟨o.version, f.slotSize, o.count⟩))
      else disk) := by
  simp only [SlotFile.close, Step.bind_apply, Step.get_apply, ho, syncHeader_apply ho,
    Step.modify_apply]

/-- Closing writes the header, if it is out of date, and leaves everything else. -/
theorem Serves.close (hs : Serves path place h slots (f, disk)) :
    ∃ disk', close (f, disk) = .ok () ({ f with open? := none }, disk') ∧
      Serves path place h slots ({ f with open? := none }, disk') ∧
      ((∀ o, f.open? = some o → o.headerDirty = false) → disk' = disk) := by
  cases ho : f.open? with
  | none =>
    -- Nothing is done with a file that is not open.
    have hclosed : { f with open? := none } = f := by rw [← ho]
    rw [hclosed]
    refine ⟨disk, ?_, hs, fun _ => rfl⟩
    simp only [SlotFile.close, Step.bind_apply, Step.get_apply, ho, Step.pure_apply]
  | some o =>
    obtain ⟨disk', hsync, hserves, hsame⟩ := hs.syncHeader ho
    refine ⟨disk', ?_, ?_, fun hclean => hsame (hclean o rfl)⟩
    · simp only [SlotFile.close, Step.bind_apply, Step.get_apply, ho, hsync, Step.modify_apply]
    · obtain ⟨_, _, _, _, hheader⟩ := hserves.opened _ rfl
      exact ⟨hserves.leads, hserves.fits, hserves.size_le, hserves.slots, fun _ => hheader rfl,
        by simp⟩

/-- A file that is too short has no header, and the header of any other is decoded. -/
theorem readHeader_apply (content : Content) (s : SlotFile × Disk) :
    readHeader content s =
      if content.size < Header.size then .error (.fault (.disk .endOfFile)) s
      else match headerOf content with
        | .ok h => .ok h s
        | .error fault => .error (.fault (.store fault)) s := by
  unfold readHeader headerOf
  split
  · rfl
  · cases Header.decode (content.take Header.size).toBytes <;> rfl

/-- A file that was just opened. -/
def fresh (place : Place) (h : Header) : OpenSlots :=
  ⟨place, h.version, h.count, h.count, false, false⟩

/-- Opening a closed file that is there. -/
private theorem Serves.openClosed (hs : Serves path place h slots (f, disk))
    (hclosed : f.open? = none) :
    openAt path h.version (f, disk) = .ok () (⟨h.slotSize, some (fresh place h)⟩, disk) ∧
      Serves path place h slots (⟨h.slotSize, some (fresh place h)⟩, disk) := by
  have hheader := hs.closed hclosed
  have hsize : Header.size ≤ (disk.content place).size := hs.size_le
  constructor
  · -- The header is read, and its version is the one that was asked for.
    have hread : readHeader (disk.content place) (f, disk) = .ok h (f, disk) := by
      rw [readHeader_apply, if_neg (Nat.not_lt_of_le hsize), hheader]
    have hne : (disk.content place).size ≠ 0 := by
      unfold Header.size at hsize
      omega
    simp only [openAt, SlotFile.close, onDisk, setOpened, Step.bind_apply, Step.get_apply, hclosed,
      Step.pure_apply, hs.leads.makeParents, hs.leads.openFile, Step.ite_apply, if_neg hne, hread,
      ne_eq, not_true_eq_false, if_false, Step.set_apply, Step.modify_apply, fresh]
  · refine ⟨hs.leads, hs.fits, hs.size_le, hs.slots, by simp, ?_⟩
    rintro _ ⟨⟩
    exact ⟨rfl, rfl, rfl, rfl, fun _ => hheader⟩

/-- A file that is there can be opened again: nothing of it changes, and the handle takes
over the size of its slots. -/
theorem Serves.openAt (hs : Serves path place h slots (f, disk)) :
    ∃ disk', openAt path h.version (f, disk) =
        .ok () (⟨h.slotSize, some (fresh place h)⟩, disk') ∧
      Serves path place h slots (⟨h.slotSize, some (fresh place h)⟩, disk') ∧
      (f.open? = none → disk' = disk) := by
  obtain ⟨disk', hclose, hserves, hsame⟩ := hs.close
  obtain ⟨hopen, hserves'⟩ := hserves.openClosed rfl
  have hunchanged : f.open? = none → disk' = disk := by
    intro hclosed
    exact hsame fun o ho => absurd (hclosed.symm.trans ho) (by simp)
  refine ⟨disk', ?_, hserves', hunchanged⟩
  -- What opening does behind the closing does not depend on the state before it.
  have hagain : SlotFile.close ({ f with open? := none }, disk') =
      .ok () ({ f with open? := none }, disk') := rfl
  unfold SlotFile.openAt at hopen ⊢
  rw [Step.bind_apply, hclose]
  rwa [Step.bind_apply, hagain] at hopen

/-- Another handle can be used for a file that is closed. -/
theorem Serves.handOver (hs : Serves path place h slots (f, disk)) (hclosed : f.open? = none)
    (slotSize : Nat) : Serves path place h slots ({ slotSize := slotSize }, disk) where
  leads := hs.leads
  fits := hs.fits
  size_le := hs.size_le
  slots := hs.slots
  closed _ := hs.closed hclosed
  opened := by simp

/-- Opening a path where no file or an empty one is makes a store without records. -/
theorem openAt_of_empty {version : Nat} {made there : Disk} (hclosed : f.open? = none)
    (hmade : disk.makeParents path = (.ok (), made))
    (hfile : made.openFile path = (.ok place, there))
    (hempty : (there.content place).size = 0) :
    SlotFile.openAt path version (f, disk) =
      .ok () ({ f with open? := some (fresh place ⟨version, f.slotSize, 0⟩) },
        there.writeAt place 0 (.ofBytes (Header.encode ⟨version, f.slotSize, 0⟩))) := by
  simp only [SlotFile.openAt, SlotFile.close, onDisk, setOpened, SlotFile.writeHeader,
    Step.bind_apply, Step.get_apply, hclosed, Step.pure_apply, hmade, hfile, Step.ite_apply, hempty,
    if_true, Step.modify_apply]
  rfl

/-- The first header of a new file. -/
private theorem serves_created {content : Content} {version : Nat}
    (hleads : disk.LeadsTo path place) (hempty : disk.content place = content)
    (hsize : content.size = 0) (hfits : Header.Fits ⟨version, f.slotSize, 0⟩) :
    Serves path place ⟨version, f.slotSize, 0⟩ (fun _ => [])
      ({ f with open? := some (fresh place ⟨version, f.slotSize, 0⟩) },
        disk.writeAt place 0 (.ofBytes (Header.encode ⟨version, f.slotSize, 0⟩))) := by
  refine ⟨hleads.writeAt 0 _, hfits, ?_, ?_, by simp, ?_⟩
  · rw [content_writeAt]
    exact size_le_withHeader _ _
  · intro n _
    rw [content_writeAt, slotBytes_withHeader, hempty]
    exact slotBytes_of_size_le (by omega)
  · rintro _ ⟨⟩
    rw [content_writeAt]
    exact ⟨rfl, rfl, rfl, rfl, fun _ => headerOf_withHeader _ hfits⟩

/-- A file that was there, with a header that reads well. -/
theorem serves_there (hleads : disk.LeadsTo path place)
    (hsize : Header.size ≤ (disk.content place).size)
    (hheader : headerOf (disk.content place) = .ok h) :
    Serves path place h (slotBytes (disk.content place) h.slotSize)
      (⟨h.slotSize, some (fresh place h)⟩, disk) := by
  refine ⟨hleads, Header.fits_of_decode hheader, hsize, fun _ _ => rfl, by simp, ?_⟩
  rintro _ ⟨⟩
  exact ⟨rfl, rfl, rfl, rfl, fun _ => hheader⟩

/-- The two ways in which a closed handle opens a file. -/
inductive Opening (path : String) (version : Nat) (f : SlotFile) (disk : Disk)
    (t : SlotFile × Disk) : Prop
  /-- There was no file, or an empty one, and a header has been written for it. -/
  | created (place : Place) (there : Disk) (hleads : there.LeadsTo path place)
      (hempty : (there.content place).size = 0) (hsame : disk.content place = there.content place)
      (ht : t = ({ f with open? := some (fresh place ⟨version, f.slotSize, 0⟩) },
        there.writeAt place 0 (.ofBytes (Header.encode ⟨version, f.slotSize, 0⟩))))
      (hgrown : disk.Extends there) (hkept : there.content = disk.content)
  /-- There was a file, and its header has been found good. -/
  | found (place : Place) (h : Header) (there : Disk) (hleads : there.LeadsTo path place)
      (hsize : Header.size ≤ (there.content place).size)
      (hheader : headerOf (there.content place) = .ok h)
      (hsame : disk.content place = there.content place) (hversion : h.version = version)
      (ht : t = (⟨h.slotSize, some (fresh place h)⟩, there)) (hgrown : disk.Extends there)
      (hkept : there.content = disk.content)

/-- A file that a closed handle has opened was there or is new. -/
theorem opening_of_openAt {version : Nat} {t : SlotFile × Disk} (hclosed : f.open? = none)
    (hopen : SlotFile.openAt path version (f, disk) = .ok () t) :
    Opening path version f disk t := by
  have hsteps := hopen
  simp only [SlotFile.openAt, SlotFile.close, onDisk, setOpened, Step.bind_apply, Step.get_apply,
    hclosed, Step.pure_apply] at hsteps
  rcases hmade : disk.makeParents path with ⟨_ | _, made⟩
  · simp [hmade] at hsteps
  rcases hfile : made.openFile path with ⟨_ | place, there⟩
  · simp [hmade, hfile] at hsteps
  obtain ⟨hleads, hcontent⟩ := Disk.leadsTo_of_openFile hmade hfile
  -- Neither the directories nor the new file take the place of anything.
  have hgrown : disk.Extends there := by
    have hparents := disk.extends_makeParents path
    have hopened := made.extends_openFile path
    rw [hmade] at hparents
    rw [hfile] at hopened
    exact hparents.trans hopened
  simp only [hmade, hfile] at hsteps
  by_cases hempty : (there.content place).size = 0
  · -- A new file: its header is written at once.
    rw [openAt_of_empty hclosed hmade hfile hempty] at hopen
    obtain ⟨_, rfl⟩ := EStateM.Result.ok.inj hopen
    exact .created place there hleads hempty (congrFun hcontent place).symm rfl hgrown hcontent
  · -- A file that was there: its header has been found good.
    simp only [hempty, if_false, Step.bind_apply, readHeader_apply] at hsteps
    split at hsteps
    · rename_i hread
      split at hread
      · cases hread
      · rename_i hlong
        cases hheader : headerOf (there.content place) with
        | error fault => simp [hheader] at hread
        | ok h =>
          rw [hheader] at hread
          obtain ⟨rfl, rfl⟩ := EStateM.Result.ok.inj hread
          simp only [Step.ite_apply] at hsteps
          split at hsteps
          · cases hsteps
          · rename_i hsame
            obtain rfl : h.version = version := by simpa using hsame
            obtain ⟨_, rfl⟩ := EStateM.Result.ok.inj hsteps
            exact .found place h there hleads (Nat.le_of_not_lt hlong) hheader
              (congrFun hcontent place).symm rfl rfl hgrown hcontent
    · cases hsteps

/-- A file that a closed handle has opened: one that was there or a new one. -/
theorem serves_of_openAt {version : Nat} {t : SlotFile × Disk} (hclosed : f.open? = none)
    (hversion : version ≤ Number.maxUInt32) (hpos : 0 < f.slotSize)
    (hslotSize : f.slotSize ≤ Number.maxUInt64)
    (hopen : SlotFile.openAt path version (f, disk) = .ok () t) :
    ∃ place h slots, h.version = version ∧ Serves path place h slots t ∧
      t.1 = ⟨h.slotSize, some (fresh place h)⟩ ∧
      ((disk.content place).size = 0 → h = ⟨version, f.slotSize, 0⟩ ∧ slots = fun _ => []) := by
  cases opening_of_openAt hclosed hopen with
  | created place there hleads hempty hsame ht =>
    have hfits : Header.Fits ⟨version, f.slotSize, 0⟩ := ⟨hversion, Nat.zero_le _, hpos, hslotSize⟩
    rw [ht]
    exact ⟨place, ⟨version, f.slotSize, 0⟩, fun _ => [], rfl,
      serves_created hleads rfl hempty hfits, rfl, fun _ => ⟨rfl, rfl⟩⟩
  | found place h there hleads hsize hheader hsame hversion ht =>
    rw [ht]
    refine ⟨place, h, slotBytes (there.content place) h.slotSize, hversion,
      serves_there hleads hsize hheader, rfl, ?_⟩
    -- A file with a header is not empty.
    intro hzero
    rw [hsame] at hzero
    exact absurd (hzero ▸ hsize) (by decide)

/-! ### Requests to an open file -/

/-- Slots of larger numbers begin later. -/
theorem offset_le_offset {slotSize m n : Nat} (hle : m ≤ n) :
    offset slotSize m ≤ offset slotSize n :=
  Nat.add_le_add_left (Nat.mul_le_mul_right slotSize (Nat.sub_le_sub_right hle 1)) Header.size

/-- Writing into a slot changes that slot and no other. -/
theorem Serves.writeSlot (hs : Serves path place h slots (f, disk)) (ho : f.open? = some o)
    (hn : n ≠ 0) (hlength : data.length ≤ h.slotSize) :
    Serves path place h (Function.update slots n (data.takeWhile (· ≠ 0)))
      (f, disk.writeAt o.place (offset f.slotSize n) (.padded f.slotSize data)) := by
  obtain ⟨hplace, _, _, hsize, _⟩ := hs.opened o ho
  rw [show o.place = place from hplace, show f.slotSize = h.slotSize from hsize]
  have hheader := headerOf_withSlot hs.size_le h.slotSize n data
  refine ⟨hs.leads.writeAt _ _, hs.fits, ?_, ?_, ?_, ?_⟩
  · rw [content_writeAt]
    exact size_le_withSlot hs.size_le _ _ _
  · -- The slot itself reads as the data up to a NUL, and the others as before.
    intro m hm
    rw [content_writeAt]
    by_cases hmn : m = n
    · rw [hmn, Function.update_self]
      exact slotBytes_withSlot _ n hlength
    · rw [Function.update_of_ne hmn, ← hs.slots m hm]
      exact slotBytes_withSlot_of_ne _ hlength hm hn hmn
  · rw [ho]
    simp
  · -- The slots do not reach into the header.
    rw [content_writeAt, hheader]
    exact hs.opened

/-- A file that is open may be known to have more records than its header says. -/
theorem Serves.setOpened (hs : Serves path place h slots (f, disk)) (ho : f.open? = some o)
    {o' : OpenSlots} (hplace : o'.place = o.place) (hversion : o'.version = o.version)
    (hcount : o'.count ≤ Number.maxUInt32)
    (hdirty : o'.headerDirty = false → o.headerDirty = false ∧ o'.count = o.count) :
    Serves path place { h with count := o'.count } slots ({ f with open? := some o' }, disk) := by
  obtain ⟨hplace', hversion', hcount', hsize, hheader⟩ := hs.opened o ho
  refine ⟨hs.leads, ⟨hs.fits.version_le, hcount, hs.fits.slotSize_pos, hs.fits.slotSize_le⟩,
    hs.size_le, hs.slots, by simp, ?_⟩
  rintro _ ⟨⟩
  refine ⟨hplace.trans hplace', hversion.trans hversion', rfl, hsize, ?_⟩
  intro hclean
  obtain ⟨hsame, hcount⟩ := hdirty hclean
  rw [hheader hsame, hcount, hcount']

/-- The batch and the numbers that were handed out do not show in the file. -/
theorem Serves.setOpened_of_eq (hs : Serves path place h slots (f, disk)) (ho : f.open? = some o)
    (o' : OpenSlots) (hplace : o'.place = o.place) (hversion : o'.version = o.version)
    (hcount : o'.count = o.count) (hdirty : o'.headerDirty = o.headerDirty) :
    Serves path place h slots ({ f with open? := some o' }, disk) := by
  obtain ⟨_, _, hcount', _, _⟩ := hs.opened o ho
  have hset := hs.setOpened ho hplace hversion (by rw [hcount, hcount']; exact hs.fits.count_le)
    (fun hclean => ⟨hdirty ▸ hclean, hcount⟩)
  rwa [show ({ h with count := o'.count } : Header) = h by rw [hcount, hcount']] at hset

/-- What is known of an open file after slot `n` has been written. -/
def grown (o : OpenSlots) (n : Nat) : OpenSlots :=
  let o := if o.count < n then { o with count := n, headerDirty := true } else o
  { o with allocated := max o.allocated n }

@[simp] theorem allocated_grown (o : OpenSlots) (n : Nat) :
    (grown o n).allocated = max o.allocated n := by
  unfold grown
  split <;> rfl

/-- There are as many records as the largest number. -/
@[simp] theorem count_grown (o : OpenSlots) (n : Nat) : (grown o n).count = max o.count n := by
  unfold grown
  split
  · dsimp only
    omega
  · dsimp only
    omega

@[simp] theorem inBatch_grown (o : OpenSlots) (n : Nat) : (grown o n).inBatch = o.inBatch := by
  unfold grown
  split <;> rfl

/-- One more record makes the header out of date. -/
@[simp] theorem headerDirty_grown (o : OpenSlots) (n : Nat) :
    (grown o n).headerDirty = (o.headerDirty || decide (o.count < n)) := by
  unfold grown
  split <;> simp [*]

/-- A file into whose slot a record was put is known to have the record. -/
theorem Serves.grow (hs : Serves path place h slots (f, disk)) (ho : f.open? = some o)
    (hn : n ≠ 0) (hlength : data.length ≤ h.slotSize) (hmax : n ≤ Number.maxUInt32) :
    Serves path place { h with count := max h.count n }
      (Function.update slots n (data.takeWhile (· ≠ 0)))
      ({ f with open? := some (grown o n) },
        disk.writeAt o.place (offset f.slotSize n) (.padded f.slotSize data)) := by
  obtain ⟨_, _, hcount, _⟩ := hs.opened o ho
  rw [← hcount, ← count_grown]
  refine (hs.writeSlot ho hn hlength).setOpened ho ?_ ?_ ?_ ?_
  · unfold grown
    split <;> rfl
  · unfold grown
    split <;> rfl
  · rw [count_grown, hcount]
    exact Nat.max_le.2 ⟨hs.fits.count_le, hmax⟩
  · unfold grown
    split
    · simp
    · exact fun hclean => ⟨hclean, rfl⟩

theorem count_apply (ho : f.open? = some o) :
    SlotFile.count (f, disk) = .ok o.count (f, disk) := by
  simp only [SlotFile.count, Step.bind_apply, opened_apply ho, Step.pure_apply]

/-- The next number is one more than all records and all numbers that were handed out. Behind
the last number of 32 bits the program ends. -/
theorem nextFree_apply (ho : f.open? = some o) :
    SlotFile.nextFree (f, disk) =
      if Number.maxUInt32 < max o.allocated o.count + 1 then
        .error (.panic .recordNumber) (f, disk)
      else .ok (max o.allocated o.count + 1)
        ({ f with open? := some { o with allocated := max o.allocated o.count + 1 } }, disk) := by
  simp only [SlotFile.nextFree, Step.bind_apply, opened_apply ho, Step.ite_apply,
    Step.panic_apply, SlotFile.setOpened, Step.modify_apply, Step.pure_apply]

theorem startBatch_apply (ho : f.open? = some o) :
    SlotFile.startBatch (f, disk) =
      .ok () ({ f with open? := some { o with inBatch := true } }, disk) := by
  simp only [SlotFile.startBatch, Step.bind_apply, opened_apply ho, SlotFile.setOpened,
    Step.modify_apply]

/-- Ending a batch takes the mark off and writes the header, if it is out of date. -/
theorem endBatch_apply (ho : f.open? = some o) :
    SlotFile.endBatch (f, disk) =
      SlotFile.syncHeader ({ f with open? := some { o with inBatch := false } }, disk) := by
  simp only [SlotFile.endBatch, Step.bind_apply, opened_apply ho, SlotFile.setOpened,
    Step.modify_apply]

/-- At the end of a batch the header is written. -/
theorem Serves.endBatch (hs : Serves path place h slots (f, disk)) (ho : f.open? = some o) :
    ∃ disk', SlotFile.endBatch (f, disk) = .ok ()
        ({ f with open? := some { o with inBatch := false, headerDirty := false } }, disk') ∧
      Serves path place h slots
        ({ f with open? := some { o with inBatch := false, headerDirty := false } }, disk') := by
  have hended : Serves path place h slots
      ({ f with open? := some { o with inBatch := false } }, disk) :=
    hs.setOpened_of_eq ho _ rfl rfl rfl rfl
  obtain ⟨disk', hsync, hserves, _⟩ := hended.syncHeader rfl
  exact ⟨disk', (endBatch_apply ho).trans hsync, hserves⟩

/-! ### Requests to a closed file -/

theorem opened_of_closed (hclosed : f.open? = none) :
    opened (f, disk) = .error (.fault (.store .closed)) (f, disk) := by
  simp only [opened, Step.bind_apply, Step.get_apply, hclosed, Step.fail_apply]

theorem count_of_closed (hclosed : f.open? = none) :
    SlotFile.count (f, disk) = .error (.fault (.store .closed)) (f, disk) := by
  simp only [SlotFile.count, Step.bind_apply, opened_of_closed hclosed]

theorem nextFree_of_closed (hclosed : f.open? = none) :
    SlotFile.nextFree (f, disk) = .error (.fault (.store .closed)) (f, disk) := by
  simp only [SlotFile.nextFree, Step.bind_apply, opened_of_closed hclosed]

theorem startBatch_of_closed (hclosed : f.open? = none) :
    SlotFile.startBatch (f, disk) = .error (.fault (.store .closed)) (f, disk) := by
  simp only [SlotFile.startBatch, Step.bind_apply, opened_of_closed hclosed]

theorem endBatch_of_closed (hclosed : f.open? = none) :
    SlotFile.endBatch (f, disk) = .error (.fault (.store .closed)) (f, disk) := by
  simp only [SlotFile.endBatch, Step.bind_apply, opened_of_closed hclosed]

/-! ### Reading and writing slots -/

variable [Allocator]

/-- A slot that can be asked for without ending the program: a buffer can be had for it, and
its start is a place in a file. -/
structure Addressable (slotSize number : Nat) : Prop where
  slotSize_le : slotSize ≤ Allocator.largest
  offset_lt : offset slotSize number < offsetLimit

/-- A slot that a buffer can be had for and whose start can be gone to. -/
structure InReach (slotSize number : Nat) : Prop where
  slotSize_le : slotSize ≤ Allocator.largest
  offset_lt : offset slotSize number < seekLimit

/-- What is in reach can be asked for. -/
theorem InReach.addressable {slotSize number : Nat} (hreach : InReach slotSize number) :
    Addressable slotSize number where
  slotSize_le := hreach.slotSize_le
  offset_lt := by
    have hlt := hreach.offset_lt
    unfold seekLimit at hlt
    unfold offsetLimit
    omega

/-- The slots before one in reach are in reach. -/
theorem InReach.of_le {slotSize m n : Nat} (hreach : InReach slotSize n) (hle : m ≤ n) :
    InReach slotSize m where
  slotSize_le := hreach.slotSize_le
  offset_lt := Nat.lt_of_le_of_lt (offset_le_offset hle) hreach.offset_lt

/-- A slot of a moderate size is in reach. -/
theorem inReach_of_le {slotSize : Nat} (hsize : slotSize ≤ 65536) (hn : n ≤ Number.maxUInt32) :
    InReach slotSize n := by
  have hmul : (n - 1) * slotSize ≤ Number.maxUInt32 * 65536 :=
    Nat.mul_le_mul (by omega) hsize
  refine ⟨hsize.trans Allocator.le_largest, ?_⟩
  unfold offset seekLimit Header.size
  unfold Number.maxUInt32 at hmul
  omega

/-- All records can be asked for without ending the program. -/
def Browsable (h : Header) : Prop :=
  ∀ n, n ≠ 0 → n ≤ h.count → Addressable h.slotSize n

/-- Slots of a moderate size can all be asked for. -/
theorem browsable_of_le (hsize : h.slotSize ≤ 65536) (hcount : h.count ≤ Number.maxUInt32) :
    Browsable h :=
  fun _ _ hle => (inReach_of_le hsize (hle.trans hcount)).addressable

/-- A record in reach that is put behind the others, or in the place of one, can be asked for
with them. -/
theorem Browsable.grow (hbrowsable : Browsable h) (hreach : InReach h.slotSize n) :
    Browsable { h with count := max h.count n } := by
  intro m hm hle
  rcases Nat.lt_or_ge h.count m with hnew | hold
  · have hle : m ≤ max h.count n := hle
    exact (hreach.of_le (by omega)).addressable
  · exact hbrowsable m hm hold

/-- What reading comes to, check by check. -/
theorem read_apply (ho : f.open? = some o) (n : Nat) :
    SlotFile.read n (f, disk) =
      if n = 0 ∨ o.count < n then .ok none (f, disk)
      else if offsetLimit ≤ offset f.slotSize n then .error (.panic .offset) (f, disk)
      else if Allocator.largest < f.slotSize then .error (.panic .memory) (f, disk)
      else if seekLimit ≤ offset f.slotSize n then .error (.fault (.disk .invalidInput)) (f, disk)
      else
        let data := (((disk.content o.place).drop (offset f.slotSize n)).take f.slotSize).upToNul
        .ok (if data.isEmpty then none else some data) (f, disk) := by
  simp only [SlotFile.read, locate, buffer, seek, Step.bind_apply, opened_apply ho, Step.get_apply,
    Step.ite_apply]
  by_cases hn : n = 0 ∨ o.count < n
  · simp only [if_pos hn, Step.pure_apply]
  by_cases hoffset : offsetLimit ≤ offset f.slotSize n
  · simp only [if_neg hn, if_pos hoffset, Step.panic_apply]
  by_cases hmemory : Allocator.largest < f.slotSize
  · simp only [if_neg hn, if_neg hoffset, if_pos hmemory, Step.pure_apply, Step.panic_apply]
  by_cases hseek : seekLimit ≤ offset f.slotSize n
  · simp only [if_neg hn, if_neg hoffset, if_neg hmemory, if_pos hseek, Step.pure_apply,
      Step.fail_apply]
  · simp only [if_neg hn, if_neg hoffset, if_neg hmemory, if_neg hseek, Step.pure_apply]

/-- What writing into a slot comes to, check by check. -/
theorem writeSlot_eq (ho : f.open? = some o) (n : Nat) (data : Bytes) :
    writeSlot n data (f, disk) =
      if Allocator.largest < f.slotSize then .error (.panic .memory) (f, disk)
      else if offsetLimit ≤ offset f.slotSize n then .error (.panic .offset) (f, disk)
      else if seekLimit ≤ offset f.slotSize n then .error (.fault (.disk .invalidInput)) (f, disk)
      else .ok () (f, disk.writeAt o.place (offset f.slotSize n) (.padded f.slotSize data)) := by
  simp only [SlotFile.writeSlot, locate, buffer, seek, Step.bind_apply, Step.get_apply,
    Step.ite_apply]
  by_cases hmemory : Allocator.largest < f.slotSize
  · simp only [if_pos hmemory, Step.panic_apply]
  by_cases hoffset : offsetLimit ≤ offset f.slotSize n
  · simp only [if_neg hmemory, if_pos hoffset, Step.pure_apply, Step.panic_apply]
  by_cases hseek : seekLimit ≤ offset f.slotSize n
  · simp only [if_neg hmemory, if_neg hoffset, if_pos hseek, Step.pure_apply, opened_apply ho,
      Step.fail_apply]
  · simp only [if_neg hmemory, if_neg hoffset, if_neg hseek, Step.pure_apply, opened_apply ho,
      Step.modify_apply]

/-- Reading leaves the handle and the disk alone, even if it fails or ends the program. -/
theorem after_read (n : Nat) (s : SlotFile × Disk) : (SlotFile.read n).after s = s := by
  obtain ⟨f, disk⟩ := s
  cases ho : f.open? with
  | none =>
    have hread : SlotFile.read n (f, disk) = .error (.fault (.store .closed)) (f, disk) := by
      simp only [SlotFile.read, Step.bind_apply, opened_of_closed ho]
    exact Step.after_of_error hread
  | some o =>
    have hread : SlotFile.read n (f, disk) = _ := read_apply ho n
    split at hread
    · exact Step.after_of_ok hread
    split at hread
    · exact Step.after_of_error hread
    split at hread
    · exact Step.after_of_error hread
    split at hread
    · exact Step.after_of_error hread
    · exact Step.after_of_ok hread

/-- Reading ends the program if and only if the slot of a record cannot be asked for. -/
theorem panics_read_iff (ho : f.open? = some o) (n : Nat) :
    (SlotFile.read n).Panics (f, disk) ↔
      n ≠ 0 ∧ n ≤ o.count ∧ ¬Addressable f.slotSize n := by
  rw [Step.Panics, read_apply ho]
  by_cases hn : n = 0 ∨ o.count < n
  · rw [if_pos hn]
    refine iff_of_false ?_ (by omega)
    rintro ⟨why, t, hstop⟩
    cases hstop
  rw [if_neg hn]
  have hrecord : n ≠ 0 ∧ n ≤ o.count := by omega
  by_cases hoffset : offsetLimit ≤ offset f.slotSize n
  · -- The checks come in the order of the program: the offset before the memory.
    rw [if_pos hoffset]
    exact iff_of_true ⟨_, _, rfl⟩
      ⟨hrecord.1, hrecord.2, fun haddressable => Nat.not_le_of_lt haddressable.offset_lt hoffset⟩
  by_cases hmemory : Allocator.largest < f.slotSize
  · rw [if_neg hoffset, if_pos hmemory]
    exact iff_of_true ⟨_, _, rfl⟩
      ⟨hrecord.1, hrecord.2, fun haddressable => Nat.not_lt_of_le haddressable.slotSize_le hmemory⟩
  · rw [if_neg hoffset, if_neg hmemory]
    have haddressable : Addressable f.slotSize n :=
      ⟨Nat.le_of_not_lt hmemory, Nat.lt_of_not_le hoffset⟩
    refine iff_of_false ?_ fun hnot => hnot.2.2 haddressable
    rintro ⟨why, t, hstop⟩
    split at hstop <;> cases hstop

/-- Reading does not end the program if all records can be asked for. -/
theorem Serves.attempt_of_browsable (hs : Serves path place h slots (f, disk))
    (ho : f.open? = some o) (hbrowsable : Browsable h) (n : Nat) :
    ∃ result, Step.attempt (SlotFile.read n) (f, disk) = .ok result (f, disk) := by
  obtain ⟨_, _, hcount, hsize, _⟩ := hs.opened o ho
  have hslotSize : f.slotSize = h.slotSize := hsize
  -- A panic would be about a record that cannot be asked for.
  have hnot : ¬(SlotFile.read n).Panics (f, disk) := by
    rw [panics_read_iff ho, hcount, hslotSize]
    intro hpanics
    exact hpanics.2.2 (hbrowsable n hpanics.1 hpanics.2.1)
  obtain ⟨result, hattempt⟩ := Step.attempt_of_not_panics hnot
  rw [after_read] at hattempt
  exact ⟨result, hattempt⟩

/-- Reading gives what the slot holds, if the number is that of a record. -/
theorem Serves.read (hs : Serves path place h slots (f, disk)) (ho : f.open? = some o)
    (hreach : n ≠ 0 → n ≤ h.count → InReach h.slotSize n) :
    SlotFile.read n (f, disk) =
      .ok (if n = 0 ∨ h.count < n ∨ slots n = [] then none else some (slots n)) (f, disk) := by
  obtain ⟨hplace, _, hcount, hsize, _⟩ := hs.opened o ho
  -- What stands at the offset is what the slot holds.
  have hslotSize : f.slotSize = h.slotSize := hsize
  rw [read_apply ho, hcount]
  by_cases hn : n = 0 ∨ h.count < n
  · rw [if_pos hn, if_pos (by tauto)]
  · have hrecord : n ≠ 0 ∧ n ≤ h.count := by omega
    have hreach := hreach hrecord.1 hrecord.2
    rw [← hslotSize] at hreach
    have hslot : (((disk.content o.place).drop (offset f.slotSize n)).take f.slotSize).upToNul =
        slots n := by
      rw [hplace, hslotSize]
      exact hs.slots n hrecord.1
    rw [if_neg hn, if_neg (Nat.not_le_of_lt hreach.addressable.offset_lt),
      if_neg (Nat.not_lt_of_le hreach.slotSize_le), if_neg (Nat.not_le_of_lt hreach.offset_lt)]
    have hbehind : ¬h.count < n := fun hlt => hn (.inr hlt)
    simp only [hslot, List.isEmpty_iff, hrecord.1, hbehind, false_or]

/-- Bytes are put into a slot in reach. -/
theorem writeSlot_apply (ho : f.open? = some o) (hreach : InReach f.slotSize n) (data : Bytes) :
    writeSlot n data (f, disk) = .ok ()
      (f, disk.writeAt o.place (offset f.slotSize n) (.padded f.slotSize data)) := by
  rw [writeSlot_eq ho, if_neg (Nat.not_lt_of_le hreach.slotSize_le),
    if_neg (Nat.not_le_of_lt hreach.addressable.offset_lt),
    if_neg (Nat.not_le_of_lt hreach.offset_lt)]

/-- A record is put into its slot, and outside of a batch the header follows. -/
theorem write_apply (ho : f.open? = some o) (hn : n ≠ 0) (hlength : data.length ≤ f.slotSize)
    (hreach : InReach f.slotSize n) :
    SlotFile.write n data (f, disk) =
      (if !o.inBatch then SlotFile.syncHeader else pure ())
        ({ f with open? := some (grown o n) },
          disk.writeAt o.place (offset f.slotSize n) (.padded f.slotSize data)) := by
  simp only [SlotFile.write, Step.bind_apply, Step.ite_apply, if_neg hn, Step.get_apply,
    if_neg (Nat.not_lt_of_le hlength), Step.pure_apply, writeSlot_apply ho hreach, opened_apply ho,
    SlotFile.setOpened, Step.modify_apply]
  unfold grown
  split <;> rfl

/-- A record is put into its slot, and the file has at least as many records. -/
theorem Serves.write (hs : Serves path place h slots (f, disk)) (ho : f.open? = some o)
    (hn : n ≠ 0) (hlength : data.length ≤ h.slotSize) (hreach : InReach h.slotSize n)
    (hmax : n ≤ Number.maxUInt32) :
    ∃ f' disk' o',
      SlotFile.write n data (f, disk) = .ok () (f', disk') ∧
      Serves path place { h with count := max h.count n }
        (Function.update slots n (data.takeWhile (· ≠ 0))) (f', disk') ∧
      f'.open? = some o' ∧ o'.allocated = max o.allocated n ∧ o'.count = max o.count n := by
  obtain ⟨_, _, _, hsize, _⟩ := hs.opened o ho
  have hslotSize : f.slotSize = h.slotSize := hsize
  have hgrown := hs.grow ho hn hlength hmax
  rw [write_apply ho hn (hslotSize ▸ hlength) (hslotSize ▸ hreach)]
  cases hbatch : o.inBatch with
  | true => exact ⟨_, _, grown o n, rfl, hgrown, rfl, allocated_grown o n, count_grown o n⟩
  | false =>
    -- Outside of a batch the header is brought up to date at once.
    obtain ⟨disk', hsync, hserves', _⟩ := hgrown.syncHeader rfl
    exact ⟨_, disk', _, hsync, hserves', rfl, allocated_grown o n, count_grown o n⟩

/-- Clearing puts nothing into the slot of a record. -/
theorem clear_eq_writeSlot (ho : f.open? = some o) (hn : ¬(n = 0 ∨ o.count < n)) :
    SlotFile.clear n (f, disk) = SlotFile.writeSlot n [] (f, disk) := by
  simp only [SlotFile.clear, Step.bind_apply, opened_apply ho, Step.ite_apply, if_neg hn]

/-- A record is taken out of its slot. -/
theorem Serves.clear (hs : Serves path place h slots (f, disk)) (ho : f.open? = some o)
    (hn : n ≠ 0) (hle : n ≤ h.count) (hreach : InReach h.slotSize n) :
    ∃ disk', SlotFile.clear n (f, disk) = .ok () (f, disk') ∧
      Serves path place h (Function.update slots n []) (f, disk') := by
  obtain ⟨_, _, hcount, hsize, _⟩ := hs.opened o ho
  have hslotSize : f.slotSize = h.slotSize := hsize
  have hempty : ([] : Bytes).length ≤ h.slotSize := Nat.zero_le _
  refine ⟨_, ?_, hs.writeSlot ho hn hempty⟩
  rw [clear_eq_writeSlot ho (by omega), writeSlot_apply ho (hslotSize ▸ hreach)]

/-- Clearing a number without a record does nothing. -/
theorem clear_of_no_record (ho : f.open? = some o) (hn : n = 0 ∨ o.count < n) :
    SlotFile.clear n (f, disk) = .ok () (f, disk) := by
  simp only [SlotFile.clear, Step.bind_apply, opened_apply ho, Step.ite_apply, if_pos hn,
    Step.pure_apply]

theorem clear_of_closed (hclosed : f.open? = none) (n : Nat) :
    SlotFile.clear n (f, disk) = .error (.fault (.store .closed)) (f, disk) := by
  simp only [SlotFile.clear, Step.bind_apply, opened_of_closed hclosed]

theorem read_of_closed (hclosed : f.open? = none) (n : Nat) :
    SlotFile.read n (f, disk) = .error (.fault (.store .closed)) (f, disk) := by
  simp only [SlotFile.read, Step.bind_apply, opened_of_closed hclosed]

/-- A slot is made ready before it is known that the file is closed. -/
theorem writeSlot_of_closed (hclosed : f.open? = none) (n : Nat) (data : Bytes) :
    writeSlot n data (f, disk) =
      if Allocator.largest < f.slotSize then .error (.panic .memory) (f, disk)
      else if offsetLimit ≤ offset f.slotSize n then .error (.panic .offset) (f, disk)
      else .error (.fault (.store .closed)) (f, disk) := by
  simp only [SlotFile.writeSlot, locate, buffer, Step.bind_apply, Step.get_apply, Step.ite_apply]
  by_cases hmemory : Allocator.largest < f.slotSize
  · simp only [if_pos hmemory, Step.panic_apply]
  by_cases hoffset : offsetLimit ≤ offset f.slotSize n
  · simp only [if_neg hmemory, if_pos hoffset, Step.pure_apply, Step.panic_apply]
  · simp only [if_neg hmemory, if_neg hoffset, Step.pure_apply, opened_of_closed hclosed]

/-- A slot out of reach is not written, nor one of a file that is closed. -/
private theorem writeSlot_refused (n : Nat) (data : Bytes) (disk : Disk)
    (hrefused : f.open? = none ∨ ¬InReach f.slotSize n) :
    ∃ stop, writeSlot n data (f, disk) = .error stop (f, disk) := by
  cases ho : f.open? with
  | none =>
    rw [writeSlot_of_closed ho]
    split
    · exact ⟨_, rfl⟩
    split
    · exact ⟨_, rfl⟩
    · exact ⟨_, rfl⟩
  | some o =>
    rw [writeSlot_eq ho]
    split
    · exact ⟨_, rfl⟩
    split
    · exact ⟨_, rfl⟩
    split
    · exact ⟨_, rfl⟩
    · rename_i hmemory _ hseek
      -- No check has failed, so that the slot is in reach.
      have hreach : InReach f.slotSize n := ⟨Nat.le_of_not_lt hmemory, Nat.lt_of_not_le hseek⟩
      rw [ho] at hrefused
      exact absurd hreach (hrefused.resolve_left (by simp))

/-- Writing begins with the checks of the number and of the length. -/
theorem write_of_bad (hbad : n = 0 ∨ f.slotSize < data.length) :
    ∃ cause, SlotFile.write n data (f, disk) = .error (.fault cause) (f, disk) := by
  simp only [SlotFile.write, Step.bind_apply, Step.get_apply, Step.ite_apply]
  by_cases hn : n = 0
  · exact ⟨.store .numberZero, by rw [if_pos hn]; rfl⟩
  · exact ⟨.store (.recordTooLong n data.length f.slotSize),
      by rw [if_neg hn, if_pos (hbad.resolve_left hn)]; rfl⟩

/-- If a slot cannot be written, neither can its record. -/
theorem write_of_writeSlot_error (hn : n ≠ 0) (hlength : data.length ≤ f.slotSize)
    {stop : Stop HostFault} {t : SlotFile × Disk}
    (hslot : writeSlot n data (f, disk) = .error stop t) :
    SlotFile.write n data (f, disk) = .error stop t := by
  simp only [SlotFile.write, Step.bind_apply, Step.get_apply, Step.ite_apply, if_neg hn,
    if_neg (Nat.not_lt_of_le hlength), Step.pure_apply, hslot]

/-- A record that has no slot or does not fit it is refused, and so is every record while
the file is closed. -/
theorem write_refused (n : Nat) (data : Bytes) (disk : Disk)
    (hrefused : f.open? = none ∨ n = 0 ∨ f.slotSize < data.length ∨ ¬InReach f.slotSize n) :
    ∃ stop, SlotFile.write n data (f, disk) = .error stop (f, disk) := by
  by_cases hbad : n = 0 ∨ f.slotSize < data.length
  · obtain ⟨cause, hwrite⟩ := write_of_bad hbad
    exact ⟨.fault cause, hwrite⟩
  rw [not_or] at hbad
  have hslotRefused : f.open? = none ∨ ¬InReach f.slotSize n := by tauto
  obtain ⟨stop, hslot⟩ := writeSlot_refused n data disk hslotRefused
  exact ⟨stop, write_of_writeSlot_error hbad.1 (Nat.le_of_not_lt hbad.2) hslot⟩

end Ballroom.SlotFile
