import Ballroom.Proofs.Library.HeldOpen
import Ballroom.Proofs.Library.OnDisk

/-!
# Store files without room

A store file whose slots have no room is made as any other, but the header that it gets is
not taken for one, so that it is never opened again (`resting_or_barred_load`).  A library on such
a file stays as it is: no request gets to the store, and no song is written
(`not_written_of_barred`).  Libraries of all other store files have their file between two
requests (`Reachable.resting_or_barred`).
-/

namespace Ballroom

namespace StoreHandle

variable {σ ω : Type} [RecordStore σ ω] {s t : StoreHandle σ × ω}

/-- A closed store that cannot be opened, and is left as it was by every attempt. -/
structure Barred (s : StoreHandle σ × ω) : Prop where
  closed : s.1.isOpen s.2 = false
  openAt : ∃ cause, RecordStore.openAt s.1.path s.1.version (s.1.store, s.2) =
    .error (.fault cause) (s.1.store, s.2)

/-- A store that cannot be opened cannot be acquired, and that changes nothing. -/
theorem Barred.acquire (h : Barred s) : ∃ cause, acquire s = .error (.fault cause) s := by
  obtain ⟨handle, w⟩ := s
  obtain ⟨hclosed, cause, hopen⟩ := h
  have hclosed : handle.isOpen w = false := hclosed
  have hopen : RecordStore.openAt handle.path handle.version (handle.store, w) =
    .error (.fault cause) (handle.store, w) := hopen
  exact ⟨.host cause, by simp [StoreHandle.acquire, hclosed, request_apply, hopen, Stop.map]⟩

/-- There is no way out of it. -/
theorem Move.barred (hmove : Move s t) (h : Barred s) : Barred t := by
  obtain ⟨hclosed, cause, hopen⟩ := h
  cases hmove with
  | openAt =>
    rw [after_request, Step.after_of_error hopen]
    exact ⟨hclosed, cause, hopen⟩
  -- All other moves are of an open store.
  | close hopened => cases hclosed.symm.trans hopened
  | ask hask hopened => cases hclosed.symm.trans hopened
  | startBatch hopened => cases hclosed.symm.trans hopened
  | startBatchFails hopened => cases hclosed.symm.trans hopened
  | endBatch hopened => cases hclosed.symm.trans hopened
  | leaveBatch => exact ⟨hclosed, cause, hopen⟩

section Files

variable [Allocator]

/-- A closed handle cannot open a file that is not empty and has no header. -/
theorem barred_of_header {handle : StoreHandle SlotFile} {disk : Disk} {place : Place}
    {fault : StoreFault} (hclosed : handle.store.open? = none)
    (hleads : disk.LeadsTo handle.path place)
    (hsize : Header.size ≤ (disk.content place).size)
    (hheader : SlotFile.headerOf (disk.content place) = .error fault) : Barred (handle, disk) := by
  refine ⟨by rw [isOpen_eq, hclosed]; rfl, .store fault, ?_⟩
  -- The header is read and found bad before the handle changes.
  have hread : SlotFile.readHeader (disk.content place) (handle.store, disk) =
      .error (.fault (.store fault)) (handle.store, disk) := by
    rw [SlotFile.readHeader_apply, if_neg (Nat.not_lt_of_le hsize), hheader]
  have hne : (disk.content place).size ≠ 0 := by
    unfold Header.size at hsize
    omega
  show SlotFile.openAt handle.path handle.version (handle.store, disk) = _
  simp only [SlotFile.openAt, SlotFile.close, SlotFile.onDisk, Step.bind_apply, Step.get_apply,
    hclosed, Step.pure_apply, hleads.makeParents, hleads.openFile, Step.ite_apply, if_neg hne,
    hread]

/-- A file whose slots have no room is made with a header that is not taken for one. -/
theorem barred_of_created {handle : StoreHandle SlotFile} {disk : Disk} {place : Place}
    {version : Nat} (hclosed : handle.store.open? = none)
    (hleads : disk.LeadsTo handle.path place) (hversion : version ≤ Number.maxUInt32) :
    Barred (handle, disk.writeAt place 0 (.ofBytes (Header.encode ⟨version, 0, 0⟩))) := by
  have hbounded : Header.Bounded ⟨version, 0, 0⟩ := ⟨hversion, Nat.zero_le _, Nat.zero_le _⟩
  have hheader := SlotFile.headerOf_withHeader_eq (disk.content place) ⟨version, 0, 0⟩
  rw [Header.decode_encode_eq hbounded, if_neg (Nat.lt_irrefl 0)] at hheader
  have hcontent := SlotFile.content_writeAt disk place 0
    (.ofBytes (Header.encode ⟨version, 0, 0⟩))
  refine barred_of_header hclosed (hleads.writeAt 0 _) ?_ (by rw [hcontent]; exact hheader)
  rw [hcontent]
  exact SlotFile.size_le_withHeader _ _

end Files

end StoreHandle

namespace Library

open StoreHandle (Barred Has request_apply)

variable [Allocator] {audio : AudioCheck Disk} {tables : Tables} {handle : StoreHandle SlotFile}
  {lib : Library SlotFile} {disk disk' : Disk}

/-- A library that was loaded through a handle that makes slots without room has the file that
was there, or one that cannot be opened again. -/
theorem resting_or_barred_load (h : Startable handle disk) (hzero : handle.store.slotSize = 0)
    (hload : load audio handle tables disk = .ok lib disk') :
    Resting (lib, disk') ∨ Barred (handleOf (lib, disk')) := by
  have hloaded := hload
  obtain ⟨songs, opened, n, counted, scanned, closed, hopen, hcount, hscan, hclose, _, rfl⟩ :=
    load_eq_fill hload
  obtain ⟨t, hresult, hstate⟩ := StoreHandle.openAt_of_acquire h.closed hopen
  cases SlotFile.opening_of_openAt h.closed hresult with
  | found place header there hleads hsize hheader _ hversion ht =>
    refine .inl (atRest_of_opened hloaded ?_)
    intro again hagain
    obtain ⟨-, rfl⟩ := EStateM.Result.ok.inj (hopen.symm.trans hagain)
    rw [hstate, ht]
    exact ⟨place, header, _, hversion, SlotFile.serves_there hleads hsize hheader, rfl⟩
  | created place there hleads hempty _ ht =>
    -- Nothing happens to the file any more until it is closed.
    right
    rw [hzero] at ht
    obtain ⟨rfl, _⟩ := count_of_open hcount
    obtain ⟨rfl, _⟩ := eq_of_scan hscan
    rw [hstate, ht, StoreHandle.close_of_clean rfl rfl] at hclose
    obtain ⟨-, hlast⟩ := EStateM.Result.ok.inj hclose
    obtain ⟨rfl, rfl⟩ := Prod.mk.inj hlast
    exact StoreHandle.barred_of_created rfl hleads h.version_le

/-- Between two requests a library of a store file has the file, or its store cannot be opened
any more: no file was there, and the slots of the one that was made have no room. -/
theorem Reachable.resting_or_barred
    (h : Reachable audio tables Startable (fun _ _ => False) lib disk) :
    Resting (lib, disk) ∨ Barred (handleOf (lib, disk)) := by
  induction h with
  | @load handle _ _ _ hstart hload =>
    cases hsize : handle.store.slotSize with
    | zero => exact resting_or_barred_load hstart hsize hload
    | succ n => exact .inl (atRest_load hstart (by omega) hload)
  | @request lib disk request _ ih =>
    cases ih with
    | inl hresting => exact .inl (hresting.perform request)
    -- Whatever the request asks of the store, it moves it nowhere.
    | inr hbarred =>
      have hmoves := moves_perform SlotFile.gated request (lib, disk)
      exact .inr (hmoves.keep (fun _ _ hmove => hmove.barred) hbarred)
  | others hothers => exact hothers.elim

/-- Nothing is written to a store that cannot be opened. -/
theorem not_written_of_barred {song left : Song} {lib' : Library SlotFile} {now : Instant} {k : Nat}
    (h : Barred (handleOf (lib, disk)))
    (hwrite : writeSong now (song, lib, disk) = .ok k (left, lib', disk')) : k = 0 := by
  obtain ⟨cause, hacquire⟩ := h.acquire
  rw [writeSong_apply] at hwrite
  split at hwrite
  · exact (EStateM.Result.ok.inj hwrite).1.symm
  split at hwrite
  · -- The record of the song cannot be written.
    simp only [putRecord, StoreHandle.write, Step.bind_apply, hacquire] at hwrite
    cases hwrite
  · -- There is no number for it.
    simp only [StoreHandle.allocate, Step.bind_apply, hacquire] at hwrite
    cases hwrite

end Library

end Ballroom
