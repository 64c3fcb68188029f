import Ballroom.Store.Basic

/-! # When a store is open

A library opens its store for each operation that needs it and closes it again at the end
of that operation, unless a batch has been started: then the store stays open until the
batch ends. -/

namespace Ballroom

/-- A record store, where it is found, and whether a batch has been started. -/
structure StoreHandle (σ : Type) where
  store : σ
  path : String
  version : Nat
  inBatch : Bool := false

/-- A step on a store handle and the world around it. -/
abbrev HandleStep (σ ω α : Type) := Step LibraryFault (StoreHandle σ × ω) α

namespace StoreHandle

variable {σ ω α : Type}

/-- A request to the store. -/
def request (step : HostStep σ ω α) : HandleStep σ ω α :=
  Step.focus (fun s => (s.1.store, s.2)) (fun s t => ({ s.1 with store := t.1 }, t.2))
    LibraryFault.host step

/-- Notes whether a batch has been started. -/
def setBatch (inBatch : Bool) : HandleStep σ ω Unit :=
  modify fun (h, w) => ({ h with inBatch := inBatch }, w)

variable [RecordStore σ ω]

/-- Whether the store is open. -/
def isOpen (h : StoreHandle σ) (w : ω) : Bool := RecordStore.isOpen h.store w

/-- Does a step if the store is open. -/
def whenOpen (step : HandleStep σ ω Unit) : HandleStep σ ω Unit := do
  let (h, w) ← get
  if h.isOpen w then step

/-- Opens the store, unless it is open. -/
def acquire : HandleStep σ ω Unit := do
  let (h, w) ← get
  if !h.isOpen w then request (RecordStore.openAt h.path h.version)

/-- Ends a batch that has been started, and closes the store. -/
def close : HandleStep σ ω Unit := do
  let (h, _) ← get
  if h.inBatch then
    -- The batch is over even if the store fails to end it.
    setBatch false
    whenOpen (request RecordStore.endBatch)
  whenOpen (request RecordStore.close)

/-- Closes the store, except during a batch. -/
def closeUnlessBatch : HandleStep σ ω Unit := do
  let (h, _) ← get
  if !h.inBatch then close

/-- Does a step on a store that has to be open already. -/
def onlyOpen (step : HostStep σ ω α) : HandleStep σ ω α := do
  let (h, w) ← get
  if h.isOpen w then request step else Step.fail .storeClosed

/-- The number of records. -/
def count : HandleStep σ ω Nat := onlyOpen RecordStore.count

/-- The bytes in a slot. -/
def read (number : Nat) : HandleStep σ ω (Option Bytes) := onlyOpen (RecordStore.read number)

/-- Opens the store, does a step and closes the store again, also if the step fails; a
fault of the closing is reported before one of the step. -/
def during (step : HandleStep σ ω α) : HandleStep σ ω α := do
  let result ← Step.attempt step
  closeUnlessBatch
  Step.ofExcept result

/-- The bytes in a slot, of a store that may be closed. -/
def readSingle (number : Nat) : HandleStep σ ω (Option Bytes) := do
  acquire
  during (request (RecordStore.read number))

/-- A number that no record has.  The store stays open for the record to be written. -/
def allocate : HandleStep σ ω Nat := do
  acquire
  request RecordStore.nextFree

/-- Checks that bytes fit a slot and puts them into it. -/
def writeFitting (number : Nat) (data : Bytes) : HandleStep σ ω Unit := do
  let (h, w) ← get
  -- The store is open by now, so that this is the size of its slots.
  let limit := RecordStore.recordSize h.store w
  if limit < data.length then Step.fail (.recordTooLarge number data.length limit)
  request (RecordStore.write number data)

/-- Puts bytes into a slot, of a store that may be closed. -/
def write (number : Nat) (data : Bytes) : HandleStep σ ω Unit := do
  acquire
  during (writeFitting number data)

/-- Starts a batch, unless one has been started. -/
def startBatch : HandleStep σ ω Unit := do
  acquire
  let (h, _) ← get
  if !h.inBatch then
    request RecordStore.startBatch
    setBatch true

/-- Ends a batch and closes the store. -/
def endBatch : HandleStep σ ω Unit := close

end StoreHandle

end Ballroom
