import Ballroom.Step
import Ballroom.Fault

/-! # Record stores

What the library asks of a store of records: slots that are numbered from 1, each empty or
holding some bytes.  A store has a handle of its own, of type `σ`, in a world `ω` that it
shares with others, such as the disk. -/

namespace Ballroom

/-- The memory of a machine, of which programs have their buffers. -/
class Allocator where
  /-- The size of the largest buffer that can be had. -/
  largest : Nat
  /-- Buffers of 64 KiB can always be had. -/
  le_largest : 0x10000 ≤ largest
  /-- The places in a buffer have 63 bits. -/
  largest_lt : largest < 0x8000000000000000

/-- A machine whose processes have addresses of 47 bits. -/
instance (priority := low) Allocator.addresses : Allocator where
  largest := 0x7FFFFFFFFFFF
  le_largest := by decide
  largest_lt := by decide

/-- A request to a host: a step on a handle and the world around it. -/
abbrev HostStep (σ ω α : Type) := Step HostFault (σ × ω) α

/-- A store of numbered records. -/
class RecordStore (σ : Type) (ω : outParam Type) where
  /-- Opens the store at a path, whose files have a version. -/
  openAt : String → Nat → HostStep σ ω Unit
  /-- Closes the store. -/
  close : HostStep σ ω Unit
  /-- Whether the store is open. -/
  isOpen : σ → ω → Bool
  /-- The bytes in a slot, if it is not empty. -/
  read : Nat → HostStep σ ω (Option Bytes)
  /-- Puts bytes into a slot. -/
  write : Nat → Bytes → HostStep σ ω Unit
  /-- Empties a slot. -/
  clear : Nat → HostStep σ ω Unit
  /-- The greatest number of a slot. -/
  count : HostStep σ ω Nat
  /-- A number that no record has. -/
  nextFree : HostStep σ ω Nat
  /-- The bytes that a slot holds. -/
  recordSize : σ → ω → Nat
  /-- Starts a batch, within which the store may put off its own upkeep. -/
  startBatch : HostStep σ ω Unit
  /-- Ends a batch. -/
  endBatch : HostStep σ ω Unit

/-- Faults to answer instead of acting, by the call that they befall. -/
structure FaultPlan where
  faults : List (String × HostFault) := []

namespace FaultPlan

/-- The first word of a call. -/
def firstWord (call : String) : String := String.ofList (call.toList.takeWhile (· ≠ ' '))

/-- The fault that befalls a call: one for its first word, or else one for the whole of it. -/
def fault? (plan : FaultPlan) (call : String) : Option HostFault :=
  (plan.faults.lookup (firstWord call)).or (plan.faults.lookup call)

/-- Plans a fault for calls, or none any more. -/
def plan (p : FaultPlan) (call : String) (fault? : Option HostFault) : FaultPlan :=
  let others := p.faults.filter fun entry => entry.1 != call
  match fault? with
  | some fault => ⟨(call, fault) :: others⟩
  | none => ⟨others⟩

end FaultPlan

end Ballroom
