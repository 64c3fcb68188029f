import Ballroom.Store.Basic

/-! # A record store in memory

A store that keeps its slots in memory, notes every call and fails where it is told to.
It does not look at whether it is open, so that it shows what its user does. -/

namespace Ballroom

/-- The slots of a store in memory, the calls it has seen and the faults it is to answer. -/
structure MemoryStore where
  /-- The slots, that of number 1 first. -/
  slots : List (Option Bytes) := []
  slotSize : Nat := 2048
  isOpen : Bool := false
  /-- The greatest number that has been handed out. -/
  allocated : Nat := 0
  plan : FaultPlan := {}
  /-- The calls, the latest first. -/
  calls : List String := []

/-- A handle on a store in memory; whoever has one reaches the same slots. -/
structure MemoryHandle where

namespace MemoryStore

/-- The bytes in a slot. -/
def slot? (m : MemoryStore) (number : Nat) : Option Bytes :=
  if number = 0 then none else (m.slots[number - 1]?).join

/-- Puts bytes into a slot, or nothing; the slots before it exist from then on. -/
def setSlot (m : MemoryStore) (number : Nat) (bytes? : Option Bytes) : MemoryStore :=
  if number = 0 then m
  else
    let slots := m.slots ++ List.replicate (number - m.slots.length) none
    { m with slots := slots.set (number - 1) bytes? }

/-- Notes a call and then fails as planned or acts. -/
def call {α : Type} (text : String) (act : MemoryStore → α × MemoryStore) :
    HostStep MemoryHandle MemoryStore α := fun (h, m) =>
  let m := { m with calls := text :: m.calls }
  match m.plan.fault? text with
  | some fault => .error (.fault fault) (h, m)
  | none =>
    let (a, m) := act m
    .ok a (h, m)

instance : RecordStore MemoryHandle MemoryStore where
  openAt path version :=
    call ("open " ++ path ++ " " ++ toString version) fun m => ((), { m with isOpen := true })
  close := call "close" fun m => ((), { m with isOpen := false })
  isOpen _ m := m.isOpen
  read number := call ("read " ++ toString number) fun m => (m.slot? number, m)
  write number bytes :=
    call ("write " ++ toString number ++ " " ++ toString bytes.length) fun m =>
      ((), m.setSlot number (some bytes))
  clear number := call ("clear " ++ toString number) fun m =>
    ((), if number ≤ m.slots.length then m.setSlot number none else m)
  count := call "count" fun m => (m.slots.length, m)
  nextFree := call "next_free" fun m =>
    let n := max m.allocated m.slots.length + 1
    (n, { m with allocated := n })
  recordSize _ m := m.slotSize
  startBatch := call "start_batch" fun m => ((), m)
  endBatch := call "end_batch" fun m => ((), m)

end MemoryStore

end Ballroom
