import Ballroom.Store.Basic
import Mathlib.Logic.Function.Basic

/-!
# What a store of records is

A store as its user sees it: a map from numbers to records, how many records there are,
and the numbers that have been handed out.  Where a store keeps its records, and whether
it puts off its upkeep during a batch, cannot be told from its answers.  Two calls do not
come back: one for a number when all numbers are used up, and one that would write with a
closed handle into a slot that cannot be had (`Overruns`).
-/

namespace Ballroom

/-- A call on a store of records of one path and version.  `handOver` puts another handle,
which would make slots of the given size, in the place of one that is closed. -/
inductive StoreCall where
  | read (number : Nat)
  | write (number : Nat) (data : Bytes)
  | clear (number : Nat)
  | count
  | nextFree
  | startBatch
  | endBatch
  | close
  | reopen
  | handOver (slotSize : Nat)

namespace StoreCall

/-- Every number that a call gives is below `bound`. -/
def NumberBelow (bound : Nat) : StoreCall → Prop
  | read n => n < bound
  | write n _ => n < bound
  | clear n => n < bound
  | _ => True

end StoreCall

/-- What a call that does not fail answers. -/
inductive StoreAnswer where
  /-- The call does not come back, since the program has ended. -/
  | ended
  | done
  | record (bytes? : Option Bytes)
  | number (n : Nat)
  deriving DecidableEq, Repr

/-- The answers to calls, one after the other, of something that answers each of them or
fails, until one of them ends the program; and what it has become by then. -/
def StoreCall.answers {τ : Type} (answer : τ → StoreCall → Option StoreAnswer × τ) (t : τ) :
    List StoreCall → List (Option StoreAnswer) × τ
  | [] => ([], t)
  | call :: rest =>
    let (first, t) := answer t call
    if first = some .ended then ([first], t)
    else
      let (later, t) := answers answer t rest
      (first :: later, t)

/-- A store of records as a plain map. -/
structure RecordMap where
  /-- What has been written under a number and not been cleared. -/
  record? : Nat → Option Bytes := fun _ => none
  /-- The greatest number that has been written. -/
  count : Nat := 0
  /-- The numbers handed out since the store was opened, if it is open. -/
  handedOut? : Option (List Nat) := none
  /-- The size of the slots that the handle would make, if the store is closed. -/
  configured : Nat := 0

namespace RecordMap

/-- A store that has been made and is open. -/
def created : RecordMap where handedOut? := some []

/-- The record of a number up to its first NUL. -/
def slot (m : RecordMap) (n : Nat) : Bytes := ((m.record? n).getD []).takeWhile (· ≠ 0)

/-- Writes a record. -/
def put (m : RecordMap) (n : Nat) (data : Bytes) : RecordMap :=
  { m with record? := Function.update m.record? n (some data), count := max m.count n }

/-- Takes a record away. -/
def remove (m : RecordMap) (n : Nat) : RecordMap :=
  { m with record? := Function.update m.record? n none }

/-- A record that was put is in its slot, up to the first zero byte. -/
@[simp] theorem slot_put (m : RecordMap) (n : Nat) (data : Bytes) :
    (m.put n data).slot = Function.update m.slot n (data.takeWhile (· ≠ 0)) := by
  funext k
  by_cases hk : k = n
  · simp [slot, put, hk]
  · simp [slot, put, hk]

/-- A record that was removed leaves an empty slot. -/
@[simp] theorem slot_remove (m : RecordMap) (n : Nat) :
    (m.remove n).slot = Function.update m.slot n [] := by
  funext k
  by_cases hk : k = n
  · simp [slot, remove, hk]
  · simp [slot, remove, hk]

/-- Answers a call of an open store; a closed store fails. -/
def whileOpen (m : RecordMap) (answer : List Nat → Option StoreAnswer × RecordMap) :
    Option StoreAnswer × RecordMap :=
  match m.handedOut? with
  | some numbers => answer numbers
  | none => (none, m)

variable [Allocator]

/-- A record that fits its slot, but no buffer can be had for the slot, or the slot would not
start within 64 bits. -/
def Overruns (slotSize n : Nat) (data : Bytes) : Prop :=
  n ≠ 0 ∧ data.length ≤ slotSize ∧
    (Allocator.largest < slotSize ∨ 0x10000000000000000 ≤ 128 + (n - 1) * slotSize)

instance (slotSize n : Nat) (data : Bytes) : Decidable (Overruns slotSize n data) :=
  inferInstanceAs (Decidable (_ ∧ _))

/-- The answer to a call, or none if the call fails, and the store afterwards. -/
def answer (slotSize : Nat) (m : RecordMap) : StoreCall → Option StoreAnswer × RecordMap
  | .read n => m.whileOpen fun _ =>
    (some (.record (if m.slot n = [] then none else some (m.slot n))), m)
  | .write n data =>
    -- The slot is made ready before it is known whether the store is open.
    if m.handedOut? = none ∧ Overruns m.configured n data then (some .ended, m)
    else m.whileOpen fun _ =>
      if n = 0 ∨ slotSize < data.length then (none, m)
      else (some .done, m.put n data)
  | .clear n => m.whileOpen fun _ => (some .done, m.remove n)
  | .count => m.whileOpen fun _ => (some (.number m.count), m)
  | .nextFree => m.whileOpen fun numbers =>
    -- One more than the count and than every number handed out.
    let n := numbers.foldr max m.count + 1
    if Number.maxUInt32 < n then (some .ended, m)
    else (some (.number n), { m with handedOut? := some (n :: numbers) })
  | .startBatch => m.whileOpen fun _ => (some .done, m)
  | .endBatch => m.whileOpen fun _ => (some .done, m)
  | .close => match m.handedOut? with
    | some _ => (some .done, { m with handedOut? := none, configured := slotSize })
    | none => (some .done, m)
  | .reopen => (some .done, { m with handedOut? := some [] })
  | .handOver configured => match m.handedOut? with
    | some _ => (none, m)
    | none => (some .done, { m with configured })

end RecordMap

end Ballroom
