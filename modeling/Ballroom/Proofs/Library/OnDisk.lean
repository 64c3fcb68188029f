import Ballroom.Proofs.Library.Reachable
import Ballroom.Proofs.Store.Steady

/-!
# Libraries of store files

A library that was loaded from a store file keeps it: whatever is asked of the library,
its handle and the disk have the store file of the handle's path (`Reachable.onDisk`), which
is open during a batch only (`Reachable.atRest`).  A file that has been loaded is one whose
records can all be asked for, since loading asks for them.
-/

namespace Ballroom.Library

open SlotFile (Serves Browsable Addressable fresh)
open StoreHandle (AtRest Holds Has request_apply)

variable {audio : AudioCheck Disk} {tables : Tables} {handle : StoreHandle SlotFile} {disk : Disk}

/-- A handle on a store file that has not been opened: the version and the size of the slots
that it would make are numbers of their types. -/
structure Startable (handle : StoreHandle SlotFile) (disk : Disk) : Prop where
  closed : handle.store.open? = none
  slotSize_le : handle.store.slotSize ≤ Number.maxUInt64
  version_le : handle.version ≤ Number.maxUInt32

/-- A handle on a store file that has not been opened, and would make slots of a moderate
size. -/
structure Unopened (handle : StoreHandle SlotFile) (disk : Disk) : Prop where
  closed : handle.store.open? = none
  slotSize_pos : 1 ≤ handle.store.slotSize
  slotSize_le : handle.store.slotSize ≤ 65536
  version_le : handle.version ≤ Number.maxUInt32

/-- A handle that has not been opened can start a library. -/
theorem Unopened.startable (h : Unopened handle disk) : Startable handle disk :=
  ⟨h.closed, h.slotSize_le.trans (by decide), h.version_le⟩

/-! ### Loading -/

/-- A handle that has just opened the store file of its path. -/
structure JustOpened (place : Place) (header : Header) (slots : Nat → Bytes)
    (s : StoreHandle SlotFile × Disk) : Prop where
  version : header.version = s.1.version
  serves : Serves s.1.path place header slots (s.1.store, s.2)
  store : s.1.store = ⟨header.slotSize, some (fresh place header)⟩

variable [Allocator]

/-- A handle that has opened its store has the file of its path. -/
theorem Startable.opened {opened : StoreHandle SlotFile × Disk} (h : Startable handle disk)
    (hpos : 1 ≤ handle.store.slotSize)
    (hopen : StoreHandle.acquire (handle, disk) = .ok () opened) :
    ∃ place header slots, JustOpened place header slots opened := by
  obtain ⟨t, hopenAt, rfl⟩ := StoreHandle.openAt_of_acquire h.closed hopen
  obtain ⟨place, header, slots, hversion, hserves, hstore, _⟩ :=
    SlotFile.serves_of_openAt h.closed h.version_le hpos h.slotSize_le hopenAt
  exact ⟨place, header, slots, hversion, hserves, hstore⟩

/-- Counting leaves everything alone and gives the count of the open file. -/
theorem count_of_open {s t : StoreHandle SlotFile × Disk} {n : Nat}
    (hcount : StoreHandle.count s = .ok n t) :
    t = s ∧ ∃ o, s.1.store.open? = some o ∧ n = o.count := by
  obtain ⟨handle, disk⟩ := s
  simp only [StoreHandle.count, StoreHandle.onlyOpen, Step.bind_apply, Step.get_apply,
    Step.ite_apply, request_apply, Step.fail_apply] at hcount
  split at hcount
  · rename_i hopen
    obtain ⟨o, ho⟩ := Option.isSome_iff_exists.1 hopen
    have hresult : RecordStore.count (handle.store, disk) = _ := SlotFile.count_apply ho
    rw [hresult] at hcount
    obtain ⟨rfl, rfl⟩ := EStateM.Result.ok.inj hcount
    exact ⟨rfl, o, ho, rfl⟩
  · cases hcount

/-- The count of a file is that of its header. -/
theorem JustOpened.count {place : Place} {header : Header} {slots : Nat → Bytes}
    {s t : StoreHandle SlotFile × Disk} {n : Nat} (hs : JustOpened place header slots s)
    (hcount : StoreHandle.count s = .ok n t) : t = s ∧ n = header.count := by
  obtain ⟨hsame, o, ho, rfl⟩ := count_of_open hcount
  rw [hs.store] at ho
  obtain rfl := Option.some.inj ho
  exact ⟨hsame, rfl⟩

/-- A store file counts no more records than there are numbers. -/
theorem countsWithin_of_unopened (h : Unopened handle disk) : CountsWithin handle disk := by
  intro opened n counted hopen hcount
  obtain ⟨place, header, slots, hopened⟩ := h.startable.opened h.slotSize_pos hopen
  rw [(hopened.count hcount).2]
  exact hopened.serves.fits.count_le

/-- Looking at a slot leaves the handle and the disk alone, and can be done only if reading it
does not end the program. -/
theorem eq_of_readSlot {tables : Tables} {number : Nat} {s t : StoreHandle SlotFile × Disk}
    {song? : Option Song} (hread : readSlot tables number s = .ok song? t) :
    t = s ∧ ¬(StoreHandle.read number).Panics s := by
  have hsame := StoreHandle.after_read number s
  rw [readSlot, Step.bind_apply] at hread
  obtain ⟨data?, hdata, hattempt⟩ | ⟨cause, hcause, hattempt⟩ | ⟨why, _, hattempt⟩ :=
    Step.attempt_cases (StoreHandle.read number) s
  · rw [hattempt, hsame] at hread
    -- A slot that could be read has not ended the program.
    have ht : t = s := by
      cases data? with
      | none => exact (EStateM.Result.ok.inj hread).2.symm
      | some data => exact (EStateM.Result.ok.inj hread).2.symm
    exact ⟨ht, Step.not_panics_of_ok hdata⟩
  · rw [hattempt, hsame] at hread
    have ht : t = s := (EStateM.Result.ok.inj hread).2.symm
    exact ⟨ht, Step.not_panics_of_fault hcause⟩
  · rw [hattempt] at hread
    cases hread

/-- A scan leaves the handle and the disk alone, and can be done only if none of its slots ends
the program when it is read. -/
theorem eq_of_scan {seen : Std.HashMap String Nat} {left number : Nat}
    {s t : StoreHandle SlotFile × Disk} {songs : List Song}
    (hscan : scan audio tables seen left number s = .ok songs t) :
    t = s ∧ ∀ n, number ≤ n → n < number + left → ¬(StoreHandle.read n).Panics s := by
  induction left generalizing seen number songs with
  | zero => exact ⟨(EStateM.Result.ok.inj hscan).2.symm, by omega⟩
  | succ left ih =>
    rw [scan, Step.bind_apply] at hscan
    cases hread : readSlot tables number s with
    | error stop u => rw [hread] at hscan; cases hscan
    | ok song? u =>
      obtain ⟨rfl, hfirst⟩ := eq_of_readSlot hread
      rw [hread] at hscan
      -- The rest of the scan, with whatever paths have been seen.
      obtain ⟨seen', rest, hrest⟩ : ∃ seen' rest,
          scan audio tables seen' left (number + 1) u = .ok rest t := by
        simp only [Step.bind_apply, Step.get_apply] at hscan
        cases song? with
        | none => exact ⟨_, _, hscan⟩
        | some song =>
          simp only [Step.ite_apply, Step.bind_apply] at hscan
          split at hscan
          · split at hscan
            · rename_i rest v hrest
              obtain ⟨_, rfl⟩ := EStateM.Result.ok.inj hscan
              exact ⟨_, _, hrest⟩
            · cases hscan
          · exact ⟨_, _, hscan⟩
      obtain ⟨rfl, hlater⟩ := ih hrest
      refine ⟨rfl, fun n hle hlt => ?_⟩
      -- The slot is the first one or one of the rest.
      rcases Nat.eq_or_lt_of_le hle with rfl | hbehind
      · exact hfirst
      · exact hlater n hbehind (by omega)

/-- All records of a file can be asked for once they have been. -/
theorem JustOpened.browsable {place : Place} {header : Header} {slots : Nat → Bytes}
    {s : StoreHandle SlotFile × Disk} (hs : JustOpened place header slots s)
    (hread : ∀ n, 1 ≤ n → n < 1 + header.count → ¬(StoreHandle.read n).Panics s) :
    Browsable header := by
  intro n hn hle
  obtain ⟨handle, disk⟩ := s
  have hstore : handle.store = ⟨header.slotSize, some (fresh place header)⟩ := hs.store
  have ho : handle.store.open? = some (fresh place header) := by rw [hstore]
  have hopen : handle.isOpen disk = true := by rw [StoreHandle.isOpen_eq, ho, Option.isSome_some]
  -- Otherwise reading the slot would have ended the program.
  by_contra hnot
  have hpanics : (SlotFile.read n).Panics (handle.store, disk) := by
    rw [SlotFile.panics_read_iff ho, hstore]
    exact ⟨hn, hle, hnot⟩
  obtain ⟨why, t, hpanic⟩ := hpanics
  refine hread n (by omega) (by omega) ⟨why, ({ handle with store := t.1 }, t.2), ?_⟩
  have hrequest : StoreHandle.read n (handle, disk) =
      StoreHandle.request (SlotFile.read n) (handle, disk) := by
    simp [StoreHandle.read, StoreHandle.onlyOpen, hopen, RecordStore.read]
  rw [hrequest, request_apply, hpanic]
  rfl

/-- A library that was loaded from a store file has it, and has closed it. -/
theorem atRest_of_opened {lib : Library SlotFile} {disk' : Disk}
    (hload : load audio handle tables disk = .ok lib disk')
    (hopened : ∀ opened, StoreHandle.acquire (handle, disk) = .ok () opened →
      ∃ place header slots, JustOpened place header slots opened) :
    AtRest (lib.handle, disk') := by
  obtain ⟨songs, opened, n, counted, scanned, closed, hopen, hcount, hscan, hclose, _, rfl⟩ :=
    load_eq_fill hload
  obtain ⟨place, header, slots, hjust⟩ := hopened opened hopen
  obtain ⟨rfl, rfl⟩ := hjust.count hcount
  obtain ⟨rfl, hread⟩ := eq_of_scan hscan
  -- The scan has read every slot, so that all of them can be asked for.
  have hhas : Has place header slots scanned :=
    ⟨hjust.version, hjust.serves, hjust.browsable hread⟩
  obtain ⟨middle, hclosed, hhas', _⟩ := hhas.close
  obtain ⟨-, hstate⟩ := EStateM.Result.ok.inj (hclose.symm.trans hclosed)
  refine ⟨place, header, slots, by rwa [← hstate] at hhas', .inr ⟨?_, ?_⟩⟩
  · exact congrArg (fun t => t.1.inBatch) hstate
  · have hstore' := congrArg (fun t => t.1.store) hstate
    dsimp only at hstore'
    rw [hjust.store] at hstore'
    exact hstore'

/-- A library that was loaded has a store that rests. -/
theorem atRest_load {lib : Library SlotFile} {disk' : Disk} (h : Startable handle disk)
    (hpos : 1 ≤ handle.store.slotSize)
    (hload : load audio handle tables disk = .ok lib disk') : AtRest (lib.handle, disk') :=
  atRest_of_opened hload fun _ => h.opened hpos

/-! ### Requests -/

/-- A library and a disk that have the store file of the library. -/
abbrev OnDisk (s : Library SlotFile × Disk) : Prop := Holds (s.1.handle, s.2)

/-- A library between two requests. -/
abbrev Resting (s : Library SlotFile × Disk) : Prop := AtRest (s.1.handle, s.2)

/-- A step on the handle after which the store rests. -/
theorem resting_onHandle {α : Type} {step : HandleStep SlotFile Disk α} {lib : Library SlotFile}
    (hstep : AtRest (Step.after step (lib.handle, disk))) :
    Resting (Step.after (onHandle step) (lib, disk)) := by
  unfold Step.after Step.outcome onHandle at *
  rw [Step.focus_apply]
  cases hresult : step (lib.handle, disk) with
  | ok a t => rwa [hresult] at hstep
  | error stop t => rwa [hresult] at hstep

/-- Once a record has been written, or refused, the store rests, unless the program has
ended. -/
theorem OnDisk.putRecord {lib : Library SlotFile} (h : OnDisk (lib, disk)) (stamp : Record.Stamp)
    (song : Song) (hnumber : stamp.number ≤ maxRecordNumber) :
    (Library.putRecord stamp).Panics (song, lib, disk) ∨
      Resting (Step.after (Library.putRecord stamp) (song, lib, disk)).2 := by
  rw [Step.Panics, Step.after, Step.outcome, Library.putRecord]
  dsimp only
  obtain ⟨why, t, hpanic⟩ | hrests :=
    h.write hnumber (Text.bytes (Record.encode lib.tables stamp song))
  · rw [hpanic]
    exact .inl ⟨_, _, rfl⟩
  · -- Settling the song does not touch the handle.
    right
    cases hresult : StoreHandle.write stamp.number
        (Text.bytes (Record.encode lib.tables stamp song)) (lib.handle, disk) with
    | error stop t =>
      rw [Step.after_of_error hresult] at hrests
      exact hrests
    | ok a t =>
      rw [Step.after_of_ok hresult] at hrests
      show AtRest ((settle stamp song (lib.withHandle t.1)).2.handle, t.2)
      rwa [handle_settle]

/-- Once a song has been written, or not, the store rests, unless the program has ended. -/
theorem Resting.writeSong {lib : Library SlotFile} (h : Resting (lib, disk)) (now : Instant)
    (song : Song) :
    (Library.writeSong now).Panics (song, lib, disk) ∨
      Resting (Step.after (Library.writeSong now) (song, lib, disk)).2 := by
  have happly := writeSong_apply now song lib disk
  rw [Step.Panics, Step.after, Step.outcome, happly]
  cases song.temporary with
  | true => exact .inr h
  | false =>
    simp only [Bool.false_eq_true, if_false]
    cases hrecord : lib.recordOf? song with
    | some found =>
      obtain ⟨number, song'⟩ := found
      have hnumber : number ≤ maxRecordNumber := (number_of_recordOf? hrecord).2
      have hfile : OnDisk (lib, disk) := h.holds
      exact hfile.putRecord ⟨number, false, now⟩ song' hnumber
    | none =>
      dsimp only
      obtain ⟨place, header, slots, hhas, _⟩ := h
      -- Behind the last number there is none, and the program ends.
      obtain ⟨number, u, hallocate, hnumber, hhas'⟩ | ⟨why, u, hallocate⟩ := hhas.allocate
      · rw [hallocate]
        have hfile : OnDisk (lib.withHandle u.1, u.2) := ⟨_, _, _, hhas'⟩
        exact hfile.putRecord ⟨number, true, now⟩ song hnumber
      · rw [hallocate]
        exact .inl ⟨_, _, rfl⟩

/-- Once an entry has been loaded, or not, the store rests. -/
theorem Resting.loadEntry {lib : Library SlotFile} (h : Resting (lib, disk)) (index : Int) :
    Resting (Step.after (Library.loadEntry index) (lib, disk)) := by
  rcases after_loadEntry index lib disk with hsame | ⟨i, old, number, t, _, rfl, hleft⟩
  · rwa [hsame]
  have hread := h.holds.readSingle number
  rcases hleft with hleft | ⟨data, song, _, _, hleft⟩
  · rw [hleft]
    exact hread
  · rw [hleft]
    show AtRest ((Library.replace _ _ _).handle, _)
    rw [handle_replace]
    exact hread

/-- A library that was closed has a store that rests. -/
theorem Resting.close {lib : Library SlotFile} (h : Resting (lib, disk)) :
    Resting (Step.after Library.close (lib, disk)) := by
  have hclose := AtRest.close h
  unfold Step.after Step.outcome Library.close Library.onHandle at *
  simp only [Step.bind_apply, Step.focus_apply]
  cases hresult : StoreHandle.close (lib.handle, disk) with
  | ok a t => rwa [hresult] at hclose
  | error stop t => rwa [hresult] at hclose

/-- What every request leaves rests, unless the request has ended the program. -/
theorem Resting.leave {lib : Library SlotFile} (h : Resting (lib, disk)) (request : Request) :
    request.Panics (lib, disk) ∨ Resting (request.leave (lib, disk)) := by
  cases request with
  | write song now => exact h.writeSong now song
  | load index => exact .inr (h.loadEntry index)
  | addTemporary song => exact .inr h
  | removeTemporary index => exact .inr h
  | startBatch => exact .inr (resting_onHandle h.holds.startBatch)
  | endBatch => exact .inr (resting_onHandle (AtRest.close h))
  | close => exact .inr h.close

/-- Every request keeps the store file, whether it succeeds or fails. -/
theorem Resting.perform {lib : Library SlotFile} (h : Resting (lib, disk)) (request : Request) :
    Resting (request.perform (lib, disk)) := by
  by_cases hpanics : request.Panics (lib, disk)
  · rwa [Request.perform_of_panics hpanics]
  · rw [Request.perform_of_not_panics hpanics]
    exact (h.leave request).resolve_left hpanics

/-- Between two requests the store of a library that was loaded from a file rests. -/
theorem Reachable.atRest {lib : Library SlotFile}
    (h : Reachable audio tables Unopened (fun _ _ => False) lib disk) : Resting (lib, disk) := by
  induction h with
  | load hstart hload => exact atRest_load hstart.startable hstart.slotSize_pos hload
  | request request _ ih => exact ih.perform request
  | others hothers => exact hothers.elim

/-- A library that was loaded from a store file keeps it. -/
theorem Reachable.onDisk {lib : Library SlotFile}
    (h : Reachable audio tables Unopened (fun _ _ => False) lib disk) : OnDisk (lib, disk) :=
  h.atRest.holds

end Ballroom.Library
