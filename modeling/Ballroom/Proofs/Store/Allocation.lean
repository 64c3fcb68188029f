import Ballroom.Proofs.Store.Steady

/-!
# Numbers that are handed out

A new record gets the number behind the last record (`Has.allocate_eq`), because no number
is handed out without being written: `HandedOut` says up to which number that is so, and
every request that succeeds keeps it.
-/

namespace Ballroom.StoreHandle

open SlotFile (InReach told fresh)

variable {place : Place} {h : Header} {slots : Nat → Bytes} {handle : StoreHandle SlotFile}
  {disk : Disk} {n : Nat} {data : Bytes} {u : StoreHandle SlotFile × Disk}

/-- The numbers of the records and, apart from them, those up to `n` are all that have been
handed out. -/
def HandedOut (n : Nat) (handle : StoreHandle SlotFile) : Prop :=
  ∀ o, handle.store.open? = some o → o.allocated ≤ max o.count n

/-- What stays below a number stays below a larger one. -/
theorem HandedOut.mono {m : Nat} (h : HandedOut m handle) (hle : m ≤ n) : HandedOut n handle := by
  intro o ho
  have hbound := h o ho
  omega

/-- A closed store has handed out nothing. -/
theorem handedOut_of_closed (hclosed : handle.store.open? = none) : HandedOut n handle := by
  intro o ho
  rw [hclosed] at ho
  cases ho

variable [Allocator]

/-- A store that is opened hands out the numbers behind its records. -/
theorem Has.acquired_handedOut (hs : Has place h slots (handle, disk))
    (hhanded : HandedOut n handle) :
    ∃ f o, StoreHandle.acquire (handle, disk) = .ok () ({ handle with store := f }, disk) ∧
      Has place h slots ({ handle with store := f }, disk) ∧ f.open? = some o ∧
      o.allocated ≤ max h.count n := by
  cases ho : handle.store.open? with
  -- The file is opened: no number was handed out since.
  | none =>
    obtain ⟨hacquire, hhas⟩ := hs.acquire ho
    exact ⟨_, fresh place h, hacquire, hhas, rfl, Nat.le_max_left _ _⟩
  -- It is open already, with the numbers that were handed out before.
  | some o =>
    obtain ⟨_, _, hcount, _⟩ := hs.serves.opened o ho
    have hle := hhanded o ho
    rw [show o.count = h.count from hcount] at hle
    exact ⟨handle.store, o, acquire_of_open (by rw [ho]; rfl), hs, ho, hle⟩

/-- A new record gets the number behind the last record, unless that has more than 32 bits. -/
theorem Has.allocate_apply (hs : Has place h slots (handle, disk)) (hhanded : HandedOut 0 handle) :
    ∃ u, Has place h slots u ∧ HandedOut (h.count + 1) u.1 ∧
      StoreHandle.allocate (handle, disk) =
        if Number.maxUInt32 < h.count + 1 then .error (.panic .recordNumber) u
        else .ok (h.count + 1) u := by
  obtain ⟨f, o, hacquire, hhas, ho, hle⟩ := hs.acquired_handedOut hhanded
  obtain ⟨_, _, hcount, _⟩ := hhas.serves.opened o ho
  have hcount : o.count = h.count := hcount
  -- Nothing was handed out behind the records, so that the next number is one more than they
  -- are.
  have hnumber : max o.allocated o.count + 1 = h.count + 1 := by omega
  rw [allocate_of_acquire hacquire ho, hnumber]
  by_cases hlarge : Number.maxUInt32 < h.count + 1
  · have hhanded' : HandedOut (h.count + 1)
        ({ handle with store := f } : StoreHandle SlotFile) := by
      intro o' ho'
      obtain rfl := Option.some.inj (ho.symm.trans ho')
      omega
    exact ⟨_, hhas, hhanded', by rw [if_pos hlarge, if_pos hlarge]⟩
  · rw [if_neg hlarge]
    let o' : OpenSlots := { o with allocated := h.count + 1 }
    have hserves := hhas.serves.setOpened_of_eq ho o' rfl rfl rfl rfl
    have hhanded' : HandedOut (h.count + 1)
        ({ handle with store := { f with open? := some o' } } : StoreHandle SlotFile) := by
      rintro _ ⟨⟩
      exact Nat.le_max_right _ _
    exact ⟨({ handle with store := { f with open? := some o' } }, disk),
      ⟨hhas.version, hserves, hhas.browsable⟩, hhanded', by rw [if_neg hlarge]⟩

/-- A number that was handed out is that behind the last record. -/
theorem Has.allocate_eq (hs : Has place h slots (handle, disk)) (hhanded : HandedOut 0 handle)
    (hallocate : StoreHandle.allocate (handle, disk) = .ok n u) :
    n = h.count + 1 ∧ n ≤ Number.maxUInt32 ∧ Has place h slots u ∧ HandedOut n u.1 := by
  obtain ⟨t, hhas, hhanded', happly⟩ := hs.allocate_apply hhanded
  rw [happly] at hallocate
  split at hallocate
  · cases hallocate
  · rename_i hsmall
    obtain ⟨rfl, rfl⟩ := EStateM.Result.ok.inj hallocate
    exact ⟨rfl, Nat.le_of_not_lt hsmall, hhas, hhanded'⟩

/-- Closing a store, unless there is a batch, hands out nothing. -/
theorem Has.closeUnlessBatch_handedOut (hs : Has place h slots (handle, disk))
    (hhanded : HandedOut n handle)
    (hclose : StoreHandle.closeUnlessBatch (handle, disk) = .ok () u) : HandedOut n u.1 := by
  cases hbatch : handle.inBatch with
  | true =>
    rw [closeUnlessBatch_of_inBatch hbatch] at hclose
    obtain ⟨-, rfl⟩ := EStateM.Result.ok.inj hclose
    exact hhanded
  | false =>
    obtain ⟨disk', hclosed, _⟩ := hs.closeUnlessBatch_of_not_inBatch hbatch
    rw [hclosed] at hclose
    obtain ⟨-, rfl⟩ := EStateM.Result.ok.inj hclose
    exact handedOut_of_closed rfl

/-- Once the number that was handed out has been written, all of them are those of records. -/
theorem Has.write_handedOut (hs : Has place h slots (handle, disk)) (hhanded : HandedOut n handle)
    (hmax : n ≤ Number.maxUInt32) (hwrite : StoreHandle.write n data (handle, disk) = .ok () u) :
    HandedOut 0 u.1 := by
  -- The slot can be written, or the request would have failed.
  obtain ⟨hn, hreach⟩ : n ≠ 0 ∧ InReach h.slotSize n := by
    obtain ⟨_, _, hn, hreach, _⟩ | ⟨_, _, hrefused, _⟩ | ⟨hpanics, _⟩ := hs.write hmax data
    · exact ⟨hn, hreach⟩
    · cases hwrite.symm.trans hrefused
    · exact absurd hpanics (Step.not_panics_of_ok hwrite)
  obtain ⟨f, o, hacquire, hhas, ho, hle⟩ := hs.acquired_handedOut hhanded
  obtain ⟨_, _, hcount, hsize, _⟩ := hhas.serves.opened o ho
  have hslots : f.slotSize = h.slotSize := hsize
  by_cases hlength : data.length ≤ h.slotSize
  · obtain ⟨f', disk', o', hresult, hserves, ho', hallocated, hcount'⟩ :=
      hhas.serves.write ho hn hlength hreach hmax
    have hhas' : Has place { h with count := max h.count n }
        (Function.update slots n (data.takeWhile (· ≠ 0))) ({ handle with store := f' }, disk') :=
      ⟨hhas.version, hserves, hhas.browsable.grow hreach⟩
    have hhanded' : HandedOut 0 ({ handle with store := f' } : StoreHandle SlotFile) := by
      intro o'' ho''
      obtain rfl := Option.some.inj (ho'.symm.trans ho'')
      have hcount : o.count = h.count := hcount
      omega
    rw [write_of_acquire hacquire (hslots ▸ hlength) hresult] at hwrite
    exact hhas'.closeUnlessBatch_handedOut hhanded' hwrite
  · -- A record that is too long is refused.
    rw [← hslots] at hlength
    have hlimit : RecordStore.recordSize f disk < data.length := Nat.lt_of_not_le hlength
    simp only [StoreHandle.write, StoreHandle.during, writeFitting, Step.bind_apply, hacquire,
      Step.attempt_apply, Step.get_apply, Step.ite_apply, if_pos hlimit, Step.fail_apply] at hwrite
    split at hwrite <;> cases hwrite

/-- Starting a batch keeps the records and hands out nothing. -/
theorem Has.startBatch_eq (hs : Has place h slots (handle, disk)) (hhanded : HandedOut n handle)
    (hstart : StoreHandle.startBatch (handle, disk) = .ok () u) :
    Has place h slots u ∧ HandedOut n u.1 := by
  obtain ⟨f, o, hacquire, hhas, ho, hle⟩ := hs.acquired_handedOut hhanded
  obtain ⟨_, _, hcount, _⟩ := hhas.serves.opened o ho
  have hcount : o.count = h.count := hcount
  rw [startBatch_of_acquire hacquire ho] at hstart
  obtain ⟨-, rfl⟩ := EStateM.Result.ok.inj hstart
  split
  · -- There is a batch already.
    refine ⟨hhas, ?_⟩
    intro o' ho'
    obtain rfl := Option.some.inj (ho.symm.trans ho')
    omega
  · refine ⟨⟨hhas.version, hhas.serves.setOpened_of_eq ho _ rfl rfl rfl rfl, hhas.browsable⟩, ?_⟩
    rintro _ ⟨⟩
    show o.allocated ≤ max o.count n
    omega

end Ballroom.StoreHandle
