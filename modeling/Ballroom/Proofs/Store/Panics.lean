import Ballroom.Proofs.Store.Refinement
import Mathlib.Data.List.Forall2

/-!
# Requests that end the program

The header of a store file may state slots of any size and any number of records, and a
request may name any record number.  Three things end the program: a record number beyond
32 bits, a slot that starts beyond 64 bits and a slot that no buffer can be had for.
`Marks.panic?` says of each request whether it comes to that, and why.  There is nothing else
that does, in every file that can be opened and after every sequence of requests
(`contained_of_openAt`): any other request is answered or refused, with the numbers that it
leaves within their widths and never more bytes than a slot has.
-/

namespace Ballroom.SlotFile

/-! ### Requests -/

/-- A request for the records of an open file. -/
inductive RecordCall where
  | read (number : Nat)
  | write (number : Nat) (data : Bytes)
  | clear (number : Nat)
  | count
  | nextFree
  | startBatch
  | endBatch

namespace RecordCall

/-- Every record number of the request has 32 bits. -/
def Within : RecordCall → Prop
  | read n => n ≤ Number.maxUInt32
  | write n _ => n ≤ Number.maxUInt32
  | clear n => n ≤ Number.maxUInt32
  | _ => True

/-- The bytes that a request has put into a slot or taken out of one. -/
def moved : RecordCall → StoreAnswer → Bytes
  | write _ data, _ => data
  | read _, .record (some bytes) => bytes
  | _, _ => []

/-- A request that was answered has moved no more bytes than a slot has. -/
def Moves (slotSize : Nat) (call : RecordCall) (result : Except HostFault StoreAnswer) : Prop :=
  ∀ answer, result = .ok answer → (call.moved answer).length ≤ slotSize

variable [Allocator]

/-- Does what is asked for. -/
def perform : RecordCall → HostStep SlotFile Disk StoreAnswer
  | read n => do return .record (← SlotFile.read n)
  | write n data => do SlotFile.write n data; return .done
  | clear n => do SlotFile.clear n; return .done
  | count => do return .number (← SlotFile.count)
  | nextFree => do return .number (← SlotFile.nextFree)
  | startBatch => do SlotFile.startBatch; return .done
  | endBatch => do SlotFile.endBatch; return .done

/-- Does one request after the other, until one of them ends the program.  A fault is what a
request comes to, and the next one is done all the same. -/
def run : List RecordCall → HostStep SlotFile Disk (List (Except HostFault StoreAnswer))
  | [] => return []
  | call :: rest => do
    let first ← Step.attempt call.perform
    let later ← run rest
    return first :: later

/-- The state that some requests leave, all of them or those up to the one that has ended the
program. -/
def performAll (calls : List RecordCall) (s : SlotFile × Disk) : SlotFile × Disk :=
  (run calls).after s

end RecordCall

/-- The number of records of an open file, and the greatest number that was handed out or
written. -/
structure Marks where
  count : Nat
  allocated : Nat

namespace Marks

/-- The greatest number in use. -/
def top (m : Marks) : Nat := max m.allocated m.count

/-- Both marks have 32 bits. -/
def Within (m : Marks) : Prop := m.count ≤ Number.maxUInt32 ∧ m.allocated ≤ Number.maxUInt32

end Marks

/-- A handle with an open file of slots of `slotSize` bytes and of these marks. -/
structure Marked (slotSize : Nat) (m : Marks) (s : SlotFile × Disk) : Prop where
  size : s.1.slotSize = slotSize
  within : m.Within
  opened : ∃ o, s.1.open? = some o ∧ o.count = m.count ∧ o.allocated = m.allocated

variable {path : String} {version slotSize n : Nat} {f : SlotFile} {disk : Disk}
  {o : OpenSlots} {data : Bytes} {m : Marks} {s t : SlotFile × Disk} {call : RecordCall}
  {calls : List RecordCall}

/-! ### Open files -/

/-- A request that moves nothing moves no more than a slot has. -/
theorem moves_of_moved_eq_nil {answer : StoreAnswer} (hmoved : call.moved answer = []) :
    call.Moves slotSize (.ok answer) := by
  rintro _ ⟨⟩
  rw [hmoved]
  exact Nat.zero_le _

/-- What is read of a slot is no longer than the slot. -/
theorem length_upToNul_take_le (size : Nat) (content : Content) :
    (content.take size).upToNul.length ≤ size := by
  rw [Content.upToNul_eq, Content.toBytes_take]
  have htake := (List.takeWhile_sublist (· ≠ 0) (l := content.toBytes.take size)).length_le
  rw [List.length_take] at htake
  omega

/-- The end of a batch does not fail on an open file. -/
theorem exists_endBatch (disk : Disk) (ho : f.open? = some o) :
    ∃ disk', SlotFile.endBatch (f, disk) = .ok ()
      ({ f with open? := some { o with inBatch := false, headerDirty := false } }, disk') := by
  rw [endBatch_apply ho,
    syncHeader_apply (f := { f with open? := some { o with inBatch := false } }) rfl]
  exact ⟨_, rfl⟩

/-- The header that a file is opened with: its own, or that of a new store if it is empty. -/
def Headed (version slotSize : Nat) (content : Content) (h : Header) : Prop :=
  if content.size = 0 then h = ⟨version, slotSize, 0⟩ else headerOf content = .ok h

/-- A file that a closed handle has opened has the marks that its header states. -/
theorem marked_of_openAt (hclosed : f.open? = none)
    (hopen : SlotFile.openAt path version (f, disk) = .ok () s) :
    ∃ o h, s.1.open? = some o ∧ Headed version f.slotSize (disk.content o.place) h ∧
      Marked h.slotSize ⟨h.count, h.count⟩ s := by
  cases opening_of_openAt hclosed hopen with
  -- A file that has been made has no records.
  | created place there hleads hempty hsame ht =>
    rw [ht]
    refine ⟨_, ⟨version, f.slotSize, 0⟩, rfl, ?_, rfl, ⟨Nat.zero_le _, Nat.zero_le _⟩, _, rfl, rfl,
      rfl⟩
    rw [Headed, fresh, hsame, if_pos hempty]
  -- The count that was found has 32 bits, as the header says.
  | found place h there hleads hsize hheader hsame hversion ht =>
    have hcount := (Header.fits_of_decode hheader).count_le
    rw [ht]
    refine ⟨_, h, rfl, ?_, rfl, ⟨hcount, hcount⟩, _, rfl, rfl, rfl⟩
    have hne : (there.content place).size ≠ 0 := by
      unfold Header.size at hsize
      omega
    rw [Headed, fresh, hsame, if_neg hne, hheader]

section Requests

variable [Allocator]

/-! ### When a request ends the program -/

instance (slotSize number : Nat) : Decidable (InReach slotSize number) :=
  decidable_of_iff (slotSize ≤ Allocator.largest ∧ offset slotSize number < seekLimit)
    ⟨fun ⟨hsize, hoffset⟩ => ⟨hsize, hoffset⟩, fun h => ⟨h.slotSize_le, h.offset_lt⟩⟩

/-- Why putting bytes into a slot ends the program, if it does. -/
def slotPanic? (slotSize number : Nat) : Option Panic :=
  if Allocator.largest < slotSize then some .memory
  else if offsetLimit ≤ offset slotSize number then some .offset
  else none

namespace Marks

/-- The marks after a request. -/
def step (slotSize : Nat) (m : Marks) : RecordCall → Marks
  | .write n data =>
    if n ≠ 0 ∧ data.length ≤ slotSize ∧ InReach slotSize n then
      ⟨max m.count n, max m.allocated n⟩
    else m
  | .nextFree => if m.top < Number.maxUInt32 then { m with allocated := m.top + 1 } else m
  | _ => m

/-- Why a request ends the program, if it does. -/
def panic? (slotSize : Nat) (m : Marks) : RecordCall → Option Panic
  | .read n =>
    if n = 0 ∨ m.count < n then none
    -- Here the place comes before the buffer.
    else if offsetLimit ≤ offset slotSize n then some .offset
    else if Allocator.largest < slotSize then some .memory
    else none
  | .write n data => if n = 0 ∨ slotSize < data.length then none else slotPanic? slotSize n
  | .clear n => if n = 0 ∨ m.count < n then none else slotPanic? slotSize n
  | .nextFree => if Number.maxUInt32 < m.top + 1 then some .recordNumber else none
  | _ => none

/-- The marks after some requests. -/
def after (slotSize : Nat) (m : Marks) (calls : List RecordCall) : Marks :=
  calls.foldl (step slotSize) m

/-- Why some requests, one after the other, end the program, if they do. -/
def firstPanic? (slotSize : Nat) (m : Marks) : List RecordCall → Option Panic
  | [] => none
  | call :: rest =>
    match m.panic? slotSize call with
    | some why => some why
    | none => (m.step slotSize call).firstPanic? slotSize rest

end Marks

/-! ### Slots in reach and beyond -/

/-- A slot in reach can be written. -/
theorem InReach.slotPanic?_eq_none (hreach : InReach slotSize n) :
    slotPanic? slotSize n = none := by
  rw [slotPanic?, if_neg (Nat.not_lt_of_le hreach.slotSize_le),
    if_neg (Nat.not_le_of_lt hreach.addressable.offset_lt)]

/-- With slots of a moderate size nothing ends the program but a request for a number behind
the last one. -/
theorem panic?_eq_some_iff_of_le (hsize : slotSize ≤ 65536) (hm : m.Within) (hcall : call.Within)
    {why : Panic} : m.panic? slotSize call = some why ↔
      call = .nextFree ∧ m.top = Number.maxUInt32 ∧ why = .recordNumber := by
  cases call with
  -- A slot of this size is in reach for every number of 32 bits.
  | read n =>
    have hreach : InReach slotSize n := inReach_of_le hsize hcall
    simp [Marks.panic?, Nat.not_le_of_lt hreach.addressable.offset_lt,
      Nat.not_lt_of_le hreach.slotSize_le]
  | write n data =>
    have hreach : InReach slotSize n := inReach_of_le hsize hcall
    simp [Marks.panic?, hreach.slotPanic?_eq_none]
  | clear n =>
    have hreach : InReach slotSize n := inReach_of_le hsize hcall
    simp [Marks.panic?, hreach.slotPanic?_eq_none]
  | nextFree =>
    have htop : m.top ≤ Number.maxUInt32 := Nat.max_le.2 ⟨hm.2, hm.1⟩
    have hlast : Number.maxUInt32 < m.top + 1 ↔ m.top = Number.maxUInt32 := by omega
    simp [Marks.panic?, hlast, eq_comm]
  | count => simp [Marks.panic?]
  | startBatch => simp [Marks.panic?]
  | endBatch => simp [Marks.panic?]

/-- What putting bytes into a slot comes to. -/
theorem writeSlot_cases (n : Nat) (data : Bytes) (disk : Disk) (ho : f.open? = some o) :
    (∃ disk', writeSlot n data (f, disk) = .ok () (f, disk')) ∧ InReach f.slotSize n ∨
    writeSlot n data (f, disk) = .error (.fault (.disk .invalidInput)) (f, disk) ∧
        ¬InReach f.slotSize n ∧ slotPanic? f.slotSize n = none ∨
    ∃ why, writeSlot n data (f, disk) = .error (.panic why) (f, disk) ∧
        slotPanic? f.slotSize n = some why := by
  rw [writeSlot_eq ho, slotPanic?]
  -- The checks come in this order: memory, offset, place in the file.
  by_cases hmemory : Allocator.largest < f.slotSize
  · rw [if_pos hmemory, if_pos hmemory]
    exact .inr (.inr ⟨_, rfl, rfl⟩)
  rw [if_neg hmemory, if_neg hmemory]
  by_cases hoffset : offsetLimit ≤ offset f.slotSize n
  · rw [if_pos hoffset, if_pos hoffset]
    exact .inr (.inr ⟨_, rfl, rfl⟩)
  rw [if_neg hoffset, if_neg hoffset]
  by_cases hseek : seekLimit ≤ offset f.slotSize n
  · rw [if_pos hseek]
    exact .inr (.inl ⟨rfl, fun hreach => Nat.not_le_of_lt hreach.offset_lt hseek, rfl⟩)
  · rw [if_neg hseek]
    exact .inl ⟨⟨_, rfl⟩, Nat.le_of_not_lt hmemory, Nat.lt_of_not_le hseek⟩

/-! ### One request -/

/-- What a request to an open file comes to: it ends the program where it is said to and
nowhere else, leaves the marks that it is said to leave, and moves no more bytes than a slot
has. -/
inductive Contained (slotSize : Nat) (m : Marks) (call : RecordCall) (s : SlotFile × Disk) :
    Prop
  | answered (answer : StoreAnswer) (t : SlotFile × Disk) (hperform : call.perform s = .ok answer t)
      (hpanic : m.panic? slotSize call = none) (hmarked : Marked slotSize (m.step slotSize call) t)
      (hmoves : call.Moves slotSize (.ok answer))
  | refused (cause : HostFault) (hperform : call.perform s = .error (.fault cause) s)
      (hpanic : m.panic? slotSize call = none) (hmarked : Marked slotSize (m.step slotSize call) s)
  | ended (why : Panic) (hperform : call.perform s = .error (.panic why) s)
      (hpanic : m.panic? slotSize call = some why)

/-- Reading is contained: by the count nothing is read, or the slot is, or it is out of
reach. -/
theorem Marked.read (h : Marked slotSize m s) (n : Nat) :
    Contained slotSize m (.read n) s := by
  obtain ⟨f, disk⟩ := s
  obtain ⟨o, ho, hcount, _⟩ := h.opened
  obtain rfl : f.slotSize = slotSize := h.size
  -- The count of the open file is the one of the marks, so that both make the same checks.
  have hread : SlotFile.read n (f, disk) = _ := read_apply ho n
  rw [hcount] at hread
  -- The checks are those of the program, in its order: the number, the offset, the buffer, and
  -- only then the disk.
  by_cases hn : n = 0 ∨ m.count < n
  · refine .answered (.record none) (f, disk) ?_ (if_pos hn) h (moves_of_moved_eq_nil rfl)
    simp only [RecordCall.perform, Step.bind_apply, hread, if_pos hn, Step.pure_apply]
  by_cases hoffset : offsetLimit ≤ offset f.slotSize n
  · refine .ended .offset ?_ ?_
    · simp only [RecordCall.perform, Step.bind_apply, hread, if_neg hn, if_pos hoffset]
    · rw [Marks.panic?, if_neg hn, if_pos hoffset]
  by_cases hmemory : Allocator.largest < f.slotSize
  · refine .ended .memory ?_ ?_
    · simp only [RecordCall.perform, Step.bind_apply, hread, if_neg hn, if_neg hoffset,
        if_pos hmemory]
    · rw [Marks.panic?, if_neg hn, if_neg hoffset, if_pos hmemory]
  have hpanic : m.panic? f.slotSize (.read n) = none := by
    rw [Marks.panic?, if_neg hn, if_neg hoffset, if_neg hmemory]
  simp only [if_neg hn, if_neg hoffset, if_neg hmemory] at hread
  by_cases hseek : seekLimit ≤ offset f.slotSize n
  · refine .refused (.disk .invalidInput) ?_ hpanic h
    simp only [RecordCall.perform, Step.bind_apply, hread, if_pos hseek]
  · obtain ⟨bytes?, hread, hlength⟩ : ∃ bytes?, SlotFile.read n (f, disk) = .ok bytes? (f, disk) ∧
        ∀ bytes, bytes? = some bytes → bytes.length ≤ f.slotSize := by
      rw [if_neg hseek] at hread
      refine ⟨_, hread, fun bytes hbytes => ?_⟩
      split at hbytes
      · cases hbytes
      · rw [← Option.some.inj hbytes]
        exact length_upToNul_take_le _ _
    refine .answered (.record bytes?) (f, disk) ?_ hpanic h ?_
    · simp only [RecordCall.perform, Step.bind_apply, hread, Step.pure_apply]
    · rintro _ ⟨⟩
      cases bytes? with
      | none => exact Nat.zero_le _
      | some bytes => exact hlength bytes rfl

/-- Writing is contained: a record is refused, or its slot is written, or it is out of reach.
-/
theorem Marked.write (h : Marked slotSize m s) (hn : n ≤ Number.maxUInt32) (data : Bytes) :
    Contained slotSize m (.write n data) s := by
  obtain ⟨f, disk⟩ := s
  obtain ⟨o, ho, hcount, hallocated⟩ := h.opened
  obtain rfl : f.slotSize = slotSize := h.size
  by_cases hbad : n = 0 ∨ f.slotSize < data.length
  · obtain ⟨cause, hwrite⟩ : ∃ cause, SlotFile.write n data (f, disk) = .error (.fault cause)
        (f, disk) := write_of_bad hbad
    -- A record that is refused does not move the marks.
    have hstep : ¬(n ≠ 0 ∧ data.length ≤ f.slotSize ∧ InReach f.slotSize n) := by omega
    refine .refused cause ?_ (if_pos hbad) ?_
    · simp only [RecordCall.perform, Step.bind_apply, hwrite]
    · rwa [Marks.step, if_neg hstep]
  have hpanic : m.panic? f.slotSize (.write n data) = slotPanic? f.slotSize n := if_neg hbad
  rw [not_or] at hbad
  obtain ⟨hpos, hlong⟩ := hbad
  have hlength := Nat.le_of_not_lt hlong
  obtain ⟨_, hreach⟩ | ⟨hslot, hreach, hnone⟩ | ⟨why, hslot, hsome⟩ :=
    writeSlot_cases n data disk ho
  · -- The slot is written, and outside of a batch the header too.
    obtain ⟨o', disk', hwrite, hcount', hallocated'⟩ : ∃ o' disk',
        SlotFile.write n data (f, disk) = .ok () ({ f with open? := some o' }, disk') ∧
          o'.count = max o.count n ∧ o'.allocated = max o.allocated n := by
      rw [write_apply ho hpos hlength hreach]
      cases o.inBatch with
      | true => exact ⟨_, _, rfl, count_grown o n, allocated_grown o n⟩
      | false => exact ⟨_, _, syncHeader_apply rfl, count_grown o n, allocated_grown o n⟩
    refine .answered .done ({ f with open? := some o' }, disk') ?_
      (hpanic.trans hreach.slotPanic?_eq_none) ?_ ?_
    · simp only [RecordCall.perform, Step.bind_apply, hwrite, Step.pure_apply]
    · rw [Marks.step, if_pos ⟨hpos, hlength, hreach⟩]
      refine ⟨rfl, ⟨Nat.max_le.2 ⟨h.within.1, hn⟩, Nat.max_le.2 ⟨h.within.2, hn⟩⟩, o', rfl, ?_, ?_⟩
      · rw [hcount', hcount]
      · rw [hallocated', hallocated]
    · rintro _ ⟨⟩
      exact hlength
  · -- The slot starts where no file can be sought to.
    refine .refused (.disk .invalidInput) ?_ (hpanic.trans hnone) ?_
    · simp only [RecordCall.perform, Step.bind_apply, write_of_writeSlot_error hpos hlength hslot]
    · rwa [Marks.step, if_neg fun hdone => hreach hdone.2.2]
  · -- The slot cannot be made ready, for the reason that the marks tell.
    refine .ended why ?_ (hpanic.trans hsome)
    simp only [RecordCall.perform, Step.bind_apply, write_of_writeSlot_error hpos hlength hslot]

/-- Clearing is contained: without a record nothing is done, or its slot is written. -/
theorem Marked.clear (h : Marked slotSize m s) (n : Nat) :
    Contained slotSize m (.clear n) s := by
  obtain ⟨f, disk⟩ := s
  obtain ⟨o, ho, hcount, hallocated⟩ := h.opened
  obtain rfl : f.slotSize = slotSize := h.size
  by_cases hn : n = 0 ∨ m.count < n
  · have hnone : n = 0 ∨ o.count < n := by rwa [hcount]
    refine .answered .done (f, disk) ?_ (if_pos hn) h (moves_of_moved_eq_nil rfl)
    simp only [RecordCall.perform, Step.bind_apply, clear_of_no_record ho hnone, Step.pure_apply]
  -- To clear a slot is to write nothing into it.
  have hclear : SlotFile.clear n (f, disk) = writeSlot n [] (f, disk) :=
    clear_eq_writeSlot ho (by rwa [hcount])
  have hpanic : m.panic? f.slotSize (.clear n) = slotPanic? f.slotSize n := if_neg hn
  obtain ⟨⟨disk', hslot⟩, hreach⟩ | ⟨hslot, _, hnone⟩ | ⟨why, hslot, hsome⟩ :=
    writeSlot_cases n [] disk ho
  · refine .answered .done (f, disk') ?_ (hpanic.trans hreach.slotPanic?_eq_none)
      ⟨rfl, h.within, o, ho, hcount, hallocated⟩ (moves_of_moved_eq_nil rfl)
    simp only [RecordCall.perform, Step.bind_apply, hclear, hslot, Step.pure_apply]
  · refine .refused (.disk .invalidInput) ?_ (hpanic.trans hnone) h
    simp only [RecordCall.perform, Step.bind_apply, hclear, hslot]
  · refine .ended why ?_ (hpanic.trans hsome)
    simp only [RecordCall.perform, Step.bind_apply, hclear, hslot]

/-- Asking for the next number is contained. -/
theorem Marked.nextFree (h : Marked slotSize m s) : Contained slotSize m .nextFree s := by
  obtain ⟨f, disk⟩ := s
  obtain ⟨o, ho, hcount, hallocated⟩ := h.opened
  have htop : max o.allocated o.count = m.top := by rw [hcount, hallocated, Marks.top]
  have hnext : SlotFile.nextFree (f, disk) = _ := nextFree_apply ho
  rw [htop] at hnext
  by_cases hlast : Number.maxUInt32 < m.top + 1
  · -- There is no number behind the last one.
    rw [if_pos hlast] at hnext
    refine .ended .recordNumber ?_ (if_pos hlast)
    simp only [RecordCall.perform, Step.bind_apply, hnext]
  · rw [if_neg hlast] at hnext
    refine .answered (.number (m.top + 1))
      ({ f with open? := some { o with allocated := m.top + 1 } }, disk) ?_ (if_neg hlast) ?_
      (moves_of_moved_eq_nil rfl)
    · simp only [RecordCall.perform, Step.bind_apply, hnext, Step.pure_apply]
    · rw [Marks.step, if_pos (by omega)]
      exact ⟨h.size, ⟨h.within.1, Nat.le_of_not_lt hlast⟩, _, rfl, hcount, rfl⟩

/-- Every request to an open file is contained. -/
theorem Marked.perform (h : Marked slotSize m s) (hcall : call.Within) :
    Contained slotSize m call s := by
  obtain ⟨o, ho, hcount, hallocated⟩ := h.opened
  obtain ⟨f, disk⟩ := s
  -- The three that move the mark or write bytes have lemmas of their own, and so has `read`;
  -- the others are answered and move nothing.
  cases call with
  | read n => exact h.read n
  | write n data => exact h.write hcall data
  | clear n => exact h.clear n
  | count =>
    refine .answered (.number o.count) (f, disk) ?_ rfl h (moves_of_moved_eq_nil rfl)
    simp only [RecordCall.perform, Step.bind_apply, count_apply ho, Step.pure_apply]
  | nextFree => exact h.nextFree
  | startBatch =>
    refine .answered .done ({ f with open? := some { o with inBatch := true } }, disk) ?_ rfl
      ⟨h.size, h.within, _, rfl, hcount, hallocated⟩ (moves_of_moved_eq_nil rfl)
    simp only [RecordCall.perform, Step.bind_apply, startBatch_apply ho, Step.pure_apply]
  | endBatch =>
    obtain ⟨disk', hend⟩ := exists_endBatch disk ho
    refine .answered .done
      ({ f with open? := some { o with inBatch := false, headerDirty := false } }, disk') ?_ rfl
      ⟨h.size, h.within, _, rfl, hcount, hallocated⟩ (moves_of_moved_eq_nil rfl)
    simp only [RecordCall.perform, Step.bind_apply, hend, Step.pure_apply]

/-! ### Sequences of requests -/

/-- What a sequence of requests to an open file comes to, in the same way. -/
inductive RunContained (slotSize : Nat) (m : Marks) (calls : List RecordCall)
    (s : SlotFile × Disk) : Prop
  | through (results : List (Except HostFault StoreAnswer)) (t : SlotFile × Disk)
      (hrun : RecordCall.run calls s = .ok results t)
      (hpanic : m.firstPanic? slotSize calls = none)
      (hmarked : Marked slotSize (m.after slotSize calls) t)
      (hmoves : List.Forall₂ (RecordCall.Moves slotSize) calls results)
  | ended (why : Panic) (t : SlotFile × Disk)
      (hrun : RecordCall.run calls s = .error (.panic why) t)
      (hpanic : m.firstPanic? slotSize calls = some why)

/-- A request that does not end the program is followed by the others. -/
theorem RunContained.cons {result : Except HostFault StoreAnswer} {rest : List RecordCall}
    (hattempt : Step.attempt call.perform s = .ok result t)
    (hpanic : m.panic? slotSize call = none) (hmoves : call.Moves slotSize result)
    (hrest : RunContained slotSize (m.step slotSize call) rest t) :
    RunContained slotSize m (call :: rest) s := by
  -- The later requests end the program, or they do not.
  cases hrest with
  | through results u hrun hnone hmarked hlater =>
    refine .through (result :: results) u ?_ ?_ hmarked (.cons hmoves hlater)
    · simp only [RecordCall.run, Step.bind_apply, hattempt, hrun, Step.pure_apply]
    · rw [Marks.firstPanic?, hpanic]
      exact hnone
  | ended why u hrun hsome =>
    refine .ended why u ?_ ?_
    · simp only [RecordCall.run, Step.bind_apply, hattempt, hrun]
    · rw [Marks.firstPanic?, hpanic]
      exact hsome

/-- A run is contained, since each request leaves a marked file or ends it. -/
theorem Marked.run (h : Marked slotSize m s) (hcalls : ∀ call ∈ calls, call.Within) :
    RunContained slotSize m calls s := by
  induction calls generalizing m s with
  | nil => exact .through [] s rfl rfl h .nil
  | cons call rest ih =>
    have hrest : ∀ later ∈ rest, later.Within := fun later hlater =>
      hcalls later (List.mem_cons_of_mem _ hlater)
    cases h.perform (hcalls call List.mem_cons_self) with
    | answered answer t hperform hpanic hmarked hmoves =>
      have hattempt : Step.attempt call.perform s = .ok (.ok answer) t := by
        rw [Step.attempt_apply, hperform]
      exact (ih hmarked hrest).cons hattempt hpanic hmoves
    -- A refused request leaves the marks, and the next one finds them.
    | refused cause hperform hpanic hmarked =>
      have hattempt : Step.attempt call.perform s = .ok (.error cause) s := by
        rw [Step.attempt_apply, hperform]
      exact (ih hmarked hrest).cons hattempt hpanic nofun
    | ended why hperform hpanic =>
      -- What would come next is not done.
      refine .ended why s ?_ ?_
      · simp only [RecordCall.run, Step.bind_apply, Step.attempt_apply, hperform]
      · rw [Marks.firstPanic?, hpanic]

/-- Whatever the file says that a closed handle has opened, and whatever is then asked of it:
the program is ended if and only if `Marks.firstPanic?` says so, and for the reason that it
says.  Otherwise every request has been answered or refused, count and mark are within their
widths, and no more bytes have been moved than a slot has. -/
theorem contained_of_openAt (hclosed : f.open? = none)
    (hopen : SlotFile.openAt path version (f, disk) = .ok () s) :
    ∃ o h, s.1.open? = some o ∧ Headed version f.slotSize (disk.content o.place) h ∧
      ∀ calls : List RecordCall, (∀ call ∈ calls, call.Within) →
        RunContained h.slotSize ⟨h.count, h.count⟩ calls s := by
  obtain ⟨o, h, ho, hheaded, hmarked⟩ := marked_of_openAt hclosed hopen
  exact ⟨o, h, ho, hheaded, fun calls hcalls => hmarked.run hcalls⟩

end Requests

/-! ### Headers that make requests end the program -/

/-- A disk with a store file that consists of a header. -/
def headerOnly (h : Header) : Disk :=
  Disk.empty.put ["home", "library", "db"] (.file (.ofBytes h.encode))

/-- A file that consists of a header has that header. -/
theorem headed_headerOnly {h : Header} (hfits : h.Fits) :
    headerOf ((headerOnly h).content ["home", "library", "db"]) = .ok h ∧
      ((headerOnly h).content ["home", "library", "db"]).size = Header.size := by
  have hcontent : (headerOnly h).content ["home", "library", "db"] = .ofBytes h.encode := by
    rw [headerOnly, Disk.content_put_file, if_pos rfl]
  have htake : h.encode.take Header.size = h.encode :=
    List.take_of_length_le (Nat.le_of_eq (Header.length_encode h))
  rw [hcontent]
  constructor
  · rw [headerOf, Content.toBytes_take, Content.toBytes_ofBytes, htake, Header.decode_encode hfits]
  · rw [Content.size_ofBytes, Header.length_encode]

/-- A file that consists of a header can be opened. -/
theorem openAt_headerOnly {h : Header} (hfits : h.Fits) :
    SlotFile.openAt "db" h.version ({}, headerOnly h) =
      .ok () (⟨h.slotSize, some (fresh ["home", "library", "db"] h)⟩, headerOnly h) := by
  have hroute : Disk.route "db" = .ok (Disk.workingDirectory, ["db"]) := by decide +kernel
  have hparent : Path.parent? "db" = some "" := by decide +kernel
  have hname : Text.size "db" = 2 := by decide +kernel
  have hleads : (headerOnly h).LeadsTo "db" ["home", "library", "db"] := by
    refine ⟨?_, ⟨Disk.workingDirectory, ["db"], hroute, by decide, ?_⟩, .ofBytes h.encode, ?_⟩
    · intro parent hsome
      exact .inl (Option.some.inj (hsome.symm.trans hparent))
    · simp [headerOnly, Disk.follow, Disk.enter, Disk.entryAt_put, Disk.entryAt_empty,
        Disk.workingDirectory, hname, Disk.maxNameSize]
    · rw [headerOnly, Disk.entryAt_put, if_pos rfl]
  obtain ⟨hheader, hsize⟩ := headed_headerOnly hfits
  -- Every slot behind the header is empty.
  have hserves : Serves "db" ["home", "library", "db"] h
      (slotBytes ((headerOnly h).content ["home", "library", "db"]) h.slotSize)
      ({}, headerOnly h) :=
    ⟨hleads, hfits, Nat.le_of_eq hsize.symm, fun _ _ => rfl, fun _ => hheader,
      by simp⟩
  obtain ⟨disk', hopen, _, hsame⟩ := hserves.openAt
  rwa [hsame rfl] at hopen

/-- With slots of 2^62 bytes the fifth one starts beyond 64 bits: asking for it ends the
program, after requests that have been answered or refused. -/
theorem contained_of_openAt_wide :
    ∃ s, SlotFile.openAt "db" 10 ({}, headerOnly ⟨10, 2 ^ 62, 5⟩) = .ok () s ∧
      (∃ results t,
        RecordCall.run [.count, .nextFree, .read 6, .write 0 [], .endBatch] s = .ok results t ∧
          results.length = 5) ∧
      ∃ t, RecordCall.run [.count, .nextFree, .read 5, .endBatch] s =
        .error (.panic .offset) t := by
  have hfits : Header.Fits ⟨10, 2 ^ 62, 5⟩ := ⟨by decide, by decide, by decide, by decide⟩
  have hopen := openAt_headerOnly hfits
  obtain ⟨hheader, hsize⟩ := headed_headerOnly hfits
  obtain ⟨o, h, ho, hheaded, hcontained⟩ := contained_of_openAt rfl hopen
  obtain rfl := Option.some.inj ho
  rw [Headed, fresh, if_neg (by rw [hsize]; decide), hheader] at hheaded
  obtain rfl := Except.ok.inj hheaded
  refine ⟨_, hopen, ?_, ?_⟩
  · cases hcontained [.count, .nextFree, .read 6, .write 0 [], .endBatch]
      (by simp [RecordCall.Within, Number.maxUInt32]) with
    | through results t hrun _ _ hmoves => exact ⟨results, t, hrun, hmoves.length_eq.symm⟩
    -- By the marks none of these requests ends the program.
    | ended why t _ hpanic => cases hpanic
  · cases hcontained [.count, .nextFree, .read 5, .endBatch]
      (by simp [RecordCall.Within, Number.maxUInt32]) with
    | through results t _ hpanic => exact absurd hpanic (by decide)
    | ended why t hrun hpanic =>
      -- By the marks the slot of the fifth record does.
      obtain rfl : Panic.offset = why := Option.some.inj hpanic
      exact ⟨t, hrun⟩

/-- A file whose header states the last record number as the number of its records can be
opened, and a request for a free number ends the program. -/
theorem panic_nextFree :
    ∃ s, SlotFile.openAt "db" 10 ({}, headerOnly ⟨10, 256, 0xFFFFFFFF⟩) = .ok () s ∧
      RecordCall.run [.nextFree] s = .error (.panic .recordNumber) s := by
  have hfits : Header.Fits ⟨10, 256, 0xFFFFFFFF⟩ := ⟨by decide, by decide, by decide, by decide⟩
  have hnext : SlotFile.nextFree (⟨256, some (fresh ["home", "library", "db"]
      ⟨10, 256, 0xFFFFFFFF⟩)⟩, headerOnly ⟨10, 256, 0xFFFFFFFF⟩) = _ := nextFree_apply rfl
  rw [if_pos (by decide)] at hnext
  refine ⟨_, openAt_headerOnly hfits, ?_⟩
  simp only [RecordCall.run, Step.attempt_apply, RecordCall.perform, Step.bind_apply, hnext]

end Ballroom.SlotFile
