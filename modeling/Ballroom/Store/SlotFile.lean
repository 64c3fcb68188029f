import Ballroom.Disk.Basic
import Ballroom.Store.Basic
import Ballroom.Store.Header

/-! # A record store in a file

A file of equal slots behind a header.  Slot `n` starts at `Header.size + (n - 1) · s`,
where `s` is the size of a slot; a slot whose first byte is NUL is empty, and its
contents end at the first NUL.  The header is written whenever the number of records has
grown, but during a batch only at its end.

An existing file keeps the size of its slots whatever size was asked for, and the size
last met is the one that files made later get. -/

namespace Ballroom

/-- The size of slots where nothing else is said. -/
def defaultSlotSize : Nat := 2048

/-- A store file that is open. -/
structure OpenSlots where
  place : Place
  version : Nat
  /-- The number of records. -/
  count : Nat
  /-- The greatest number that has been handed out or written. -/
  allocated : Nat
  inBatch : Bool
  /-- Whether the header in the file is out of date. -/
  headerDirty : Bool

/-- A handle on a store file. -/
structure SlotFile where
  slotSize : Nat := defaultSlotSize
  open? : Option OpenSlots := none

namespace SlotFile

/-- A place in a file is below this. -/
def offsetLimit : Nat := 0x10000000000000000

/-- A place that can be gone to is below this. -/
def seekLimit : Nat := 0x8000000000000000

/-- The place at which a slot starts. -/
def offset (slotSize number : Nat) : Nat := Header.size + (number - 1) * slotSize

/-- A step on an open file; it fails if none is open. -/
def opened : HostStep SlotFile Disk OpenSlots := do
  let (f, _) ← get
  match f.open? with
  | some o => return o
  | none => Step.fail (.store .closed)

/-- Changes what is known of the open file. -/
def setOpened (o : OpenSlots) : HostStep SlotFile Disk Unit :=
  modify fun (f, disk) => ({ f with open? := some o }, disk)

/-- A request to the disk. -/
def onDisk {α : Type} (request : Disk → Except DiskFault α × Disk) :
    HostStep SlotFile Disk α :=
  fun (f, disk) =>
    match request disk with
    | (.ok a, disk) => .ok a (f, disk)
    | (.error fault, disk) => .error (.fault (.disk fault)) (f, disk)

/-- The place at which a slot starts; a place beyond 64 bits ends the program. -/
def locate (number : Nat) : HostStep SlotFile Disk Nat := do
  let (f, _) ← get
  let start := offset f.slotSize number
  if offsetLimit ≤ start then Step.panic .offset
  return start

variable [Allocator]

/-- Has a buffer for a slot; one that cannot be had ends the program. -/
def buffer : HostStep SlotFile Disk Unit := do
  let (f, _) ← get
  if Allocator.largest < f.slotSize then Step.panic .memory

/-- Goes to a place in a file. -/
def seek (start : Nat) : HostStep SlotFile Disk Unit :=
  if seekLimit ≤ start then Step.fail (.disk .invalidInput) else return ()

/-- Writes bytes into a slot and fills it up with NULs. -/
def writeSlot (number : Nat) (data : Bytes) : HostStep SlotFile Disk Unit := do
  buffer
  let start ← locate number
  let o ← opened
  seek start
  modify fun (f, disk) =>
    (f, disk.writeAt o.place start (.padded f.slotSize data))

/-- Writes the header. -/
def writeHeader : HostStep SlotFile Disk Unit := do
  let o ← opened
  modify fun (f, disk) =>
    ({ f with open? := some { o with headerDirty := false } },
      disk.writeAt o.place 0 (.ofBytes (Header.encode ⟨o.version, f.slotSize, o.count⟩)))

/-- Writes the header if it is out of date. -/
def syncHeader : HostStep SlotFile Disk Unit := do
  let o ← opened
  if o.headerDirty then writeHeader

/-- Closes the file, if one is open. -/
def close : HostStep SlotFile Disk Unit := do
  let (f, _) ← get
  match f.open? with
  | none => return ()
  | some _ =>
    syncHeader
    modify fun (f, disk) => ({ f with open? := none }, disk)

/-- Reads the header at the start of a file. -/
def readHeader (content : Content) : HostStep SlotFile Disk Header :=
  if content.size < Header.size then Step.fail (.disk .endOfFile)
  else match Header.decode (content.take Header.size).toBytes with
    | .ok h => return h
    | .error fault => Step.fail (.store fault)

/-- Opens a file, making it and the directories it needs if it is missing.  An empty file
becomes a store without records. -/
def openAt (path : String) (version : Nat) : HostStep SlotFile Disk Unit := do
  close
  onDisk (·.makeParents path)
  let place ← onDisk (·.openFile path)
  let (f, disk) ← get
  let content := disk.content place
  if content.size = 0 then
    -- A new file gets slots of the size that the handle has by now.
    setOpened ⟨place, version, 0, 0, false, true⟩
    writeHeader
  else
    let h ← readHeader content
    -- Nothing of the handle changes before the header has been found good.
    if h.version ≠ version then Step.fail (.store (.versionMismatch path h.version version))
    set ({ f with slotSize := h.slotSize }, disk)
    setOpened ⟨place, version, h.count, h.count, false, false⟩

/-- The bytes in a slot. -/
def read (number : Nat) : HostStep SlotFile Disk (Option Bytes) := do
  let o ← opened
  if number = 0 ∨ o.count < number then return none
  let start ← locate number
  buffer
  seek start
  -- The last slot is short if the file has been cut off.
  let (f, disk) ← get
  let data := (((disk.content o.place).drop start).take f.slotSize).upToNul
  return if data.isEmpty then none else some data

/-- Puts bytes into a slot. -/
def write (number : Nat) (data : Bytes) : HostStep SlotFile Disk Unit := do
  if number = 0 then Step.fail (.store .numberZero)
  let (f, _) ← get
  if f.slotSize < data.length then
    Step.fail (.store (.recordTooLong number data.length f.slotSize))
  writeSlot number data
  let o ← opened
  let o := if o.count < number then { o with count := number, headerDirty := true } else o
  setOpened { o with allocated := max o.allocated number }
  -- During a batch the header waits for its end.
  if !o.inBatch then syncHeader

/-- Empties a slot. -/
def clear (number : Nat) : HostStep SlotFile Disk Unit := do
  let o ← opened
  if number = 0 ∨ o.count < number then return ()
  writeSlot number []

/-- The number of records. -/
def count : HostStep SlotFile Disk Nat := do
  let o ← opened
  return o.count

/-- The number after every number that was handed out or written since the file was
opened, and after every record.  There being none ends the program. -/
def nextFree : HostStep SlotFile Disk Nat := do
  let o ← opened
  let n := max o.allocated o.count + 1
  if Number.maxUInt32 < n then Step.panic .recordNumber
  setOpened { o with allocated := n }
  return n

/-- Starts a batch. -/
def startBatch : HostStep SlotFile Disk Unit := do
  let o ← opened
  setOpened { o with inBatch := true }

/-- Ends a batch. -/
def endBatch : HostStep SlotFile Disk Unit := do
  let o ← opened
  setOpened { o with inBatch := false }
  syncHeader

instance : RecordStore SlotFile Disk where
  openAt := openAt
  close := close
  isOpen f _ := f.open?.isSome
  read := read
  write := write
  clear := clear
  count := count
  nextFree := nextFree
  recordSize f _ := f.slotSize
  startBatch := startBatch
  endBatch := endBatch

end SlotFile

end Ballroom
