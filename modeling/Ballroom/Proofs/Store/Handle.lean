import Ballroom.Proofs.Store.SlotFile
import Ballroom.Store.Handle

/-!
# A store handle on a file

`Holds` says that a store handle and a disk have the store file of the handle's path.
Every request of a library keeps it, whether it succeeds or fails, and leaves the store open
during a batch only (`AtRest`); a record that has been written is read again (`Has.write`,
`Has.readSingle_of_settled`).
-/

namespace Ballroom.StoreHandle

open SlotFile (Serves InReach Browsable fresh)

variable {place : Place} {h : Header} {slots : Nat → Bytes} {handle : StoreHandle SlotFile}
  {disk : Disk} {n : Nat} {data : Bytes} {α : Type}

/-- A request does to the store within the handle what its step does. -/
theorem request_apply {σ ω : Type} (step : HostStep σ ω α) (handle : StoreHandle σ) (w : ω) :
    request step (handle, w) =
      match step (handle.store, w) with
      | .ok a t => .ok a ({ handle with store := t.1 }, t.2)
      | .error stop t => .error (stop.map .host) ({ handle with store := t.1 }, t.2) := by
  rw [request, Step.focus_apply]
  cases step (handle.store, w) <;> rfl

/-- A handle outside of a batch stays outside. -/
private theorem keep_inBatch {b : Bool} (hbatch : handle.inBatch = b) (f : SlotFile) :
    { handle with store := f, inBatch := b } = { handle with store := f } := by
  rw [← hbatch]

theorem closeUnlessBatch_of_inBatch {σ ω : Type} [RecordStore σ ω] {handle : StoreHandle σ} {w : ω}
    (hbatch : handle.inBatch = true) : closeUnlessBatch (handle, w) = .ok () (handle, w) := by
  simp [closeUnlessBatch, hbatch]

/-- A request that changes nothing, whether it succeeds or fails. -/
theorem attempt_request {step : HostStep SlotFile Disk α} {s : StoreHandle SlotFile × Disk}
    {result : Except HostFault α}
    (hstep : Step.attempt step (s.1.store, s.2) = .ok result (s.1.store, s.2)) :
    Step.attempt (request step) s = .ok (result.mapError LibraryFault.host) s := by
  obtain ⟨handle, disk⟩ := s
  rw [Step.attempt_apply] at hstep ⊢
  rw [request_apply]
  dsimp only at hstep
  rcases hresult : step (handle.store, disk) with ⟨a, t⟩ | ⟨fault | why, t⟩
  · rw [hresult] at hstep
    obtain ⟨rfl, rfl⟩ := EStateM.Result.ok.inj hstep
    rfl
  · rw [hresult] at hstep
    obtain ⟨rfl, rfl⟩ := EStateM.Result.ok.inj hstep
    rfl
  · rw [hresult] at hstep
    cases hstep

variable [Allocator]

/-- The store file of a handle, whose slots hold `slots` and whose header says `h`; all of its
records can be asked for. -/
structure Has (place : Place) (h : Header) (slots : Nat → Bytes)
    (s : StoreHandle SlotFile × Disk) : Prop where
  version : h.version = s.1.version
  serves : Serves s.1.path place h slots (s.1.store, s.2)
  browsable : Browsable h

/-- The slots of a store file hold what its bytes say. -/
theorem Has.slotBytes {s : StoreHandle SlotFile × Disk} (hs : Has place h slots s) :
    Has place h (SlotFile.slotBytes (s.2.content place) h.slotSize) s :=
  ⟨hs.version, { hs.serves with slots := fun _ _ => rfl }, hs.browsable⟩

/-- A handle has the store file of its path. -/
def Holds (s : StoreHandle SlotFile × Disk) : Prop := ∃ place h slots, Has place h slots s

/-! ### Opening and closing -/

theorem isOpen_eq (handle : StoreHandle SlotFile) (disk : Disk) :
    handle.isOpen disk = handle.store.open?.isSome := rfl

theorem acquire_of_open (hopen : handle.store.open?.isSome) :
    acquire (handle, disk) = .ok () (handle, disk) := by
  have hisOpen : handle.isOpen disk = true := hopen
  simp [acquire, hisOpen]

theorem acquire_of_closed (hclosed : handle.store.open? = none) :
    acquire (handle, disk) =
      request (RecordStore.openAt handle.path handle.version) (handle, disk) := by
  have hisOpen : handle.isOpen disk = false := by rw [isOpen_eq, hclosed, Option.isSome_none]
  simp [acquire, hisOpen]

/-- What a closed handle becomes when it opens its store. -/
theorem openAt_of_acquire {opened : StoreHandle SlotFile × Disk}
    (hclosed : handle.store.open? = none) (hopen : acquire (handle, disk) = .ok () opened) :
    ∃ t, SlotFile.openAt handle.path handle.version (handle.store, disk) = .ok () t ∧
      opened = ({ handle with store := t.1 }, t.2) := by
  rw [acquire_of_closed hclosed, request_apply] at hopen
  cases hresult : RecordStore.openAt handle.path handle.version (handle.store, disk) with
  | error stop t => rw [hresult] at hopen; cases hopen
  | ok a t =>
    rw [hresult] at hopen
    exact ⟨t, hresult, (EStateM.Result.ok.inj hopen).2.symm⟩

/-- Opening a closed store leaves the disk alone. -/
theorem Has.acquire (hs : Has place h slots (handle, disk)) (hclosed : handle.store.open? = none) :
    acquire (handle, disk) =
        .ok () ({ handle with store := ⟨h.slotSize, some (fresh place h)⟩ }, disk) ∧
      Has place h slots ({ handle with store := ⟨h.slotSize, some (fresh place h)⟩ }, disk) := by
  obtain ⟨disk', hopen, hserves, hsame⟩ := hs.serves.openAt
  -- A closed store has no header to write.
  obtain rfl := hsame hclosed
  refine ⟨?_, hs.version, hserves, hs.browsable⟩
  have hopenAt : RecordStore.openAt handle.path handle.version (handle.store, disk') =
      .ok () (⟨h.slotSize, some (fresh place h)⟩, disk') := by
    rw [← hs.version]
    exact hopen
  rw [acquire_of_closed hclosed, request_apply, hopenAt]

theorem whenOpen_of_open {step : HandleStep SlotFile Disk Unit}
    (hopen : handle.store.open?.isSome) :
    whenOpen step (handle, disk) = step (handle, disk) := by
  have hisOpen : handle.isOpen disk = true := hopen
  simp [whenOpen, hisOpen]

theorem whenOpen_of_closed {step : HandleStep SlotFile Disk Unit}
    (hclosed : handle.store.open? = none) :
    whenOpen step (handle, disk) = .ok () (handle, disk) := by
  simp [whenOpen, isOpen_eq, hclosed]

/-- Closes the store, whether or not it is open. -/
private theorem Has.closeStore (hs : Has place h slots (handle, disk)) :
    ∃ disk', whenOpen (request RecordStore.close) (handle, disk) =
        .ok () ({ handle with store := { handle.store with open? := none } }, disk') ∧
      Has place h slots ({ handle with store := { handle.store with open? := none } }, disk') ∧
      ((∀ o, handle.store.open? = some o → o.headerDirty = false) → disk' = disk) := by
  obtain ⟨disk', hclose, hserves, hsame⟩ := hs.serves.close
  refine ⟨disk', ?_, ⟨hs.version, hserves, hs.browsable⟩, hsame⟩
  cases ho : handle.store.open? with
  -- There is nothing to close, and nothing to write either.
  | none =>
    obtain rfl : disk' = disk := hsame fun o hopen => absurd (ho.symm.trans hopen) (by simp)
    have hstore : ({ handle.store with open? := none } : SlotFile) = handle.store := by rw [← ho]
    rw [whenOpen_of_closed ho, hstore]
  | some o =>
    have hclose : RecordStore.close (handle.store, disk) =
        .ok () ({ handle.store with open? := none }, disk') := hclose
    rw [whenOpen_of_open (by rw [ho]; rfl), request_apply, hclose]

/-- Closing ends a batch, closes the store and keeps the records. -/
theorem Has.close (hs : Has place h slots (handle, disk)) :
    ∃ disk', close (handle, disk) =
        .ok () ({ handle with store := { handle.store with open? := none }, inBatch := false },
          disk') ∧
      Has place h slots
        ({ handle with store := { handle.store with open? := none }, inBatch := false }, disk') ∧
      (handle.inBatch = false → (∀ o, handle.store.open? = some o → o.headerDirty = false) →
        disk' = disk) := by
  cases hbatch : handle.inBatch with
  | false =>
    obtain ⟨disk', hclose, hhas, hsame⟩ := hs.closeStore
    rw [keep_inBatch hbatch]
    refine ⟨disk', ?_, hhas, fun _ => hsame⟩
    simp only [StoreHandle.close, Step.bind_apply, Step.get_apply, Step.ite_apply, hbatch,
      Bool.false_eq_true, if_false, hclose]
  | true =>
    -- The store ends its batch first, if it is open.
    obtain ⟨f', middle, hend, hhas, hopen⟩ : ∃ f' middle,
        whenOpen (request RecordStore.endBatch) ({ handle with inBatch := false }, disk) =
          .ok () ({ handle with store := f', inBatch := false }, middle) ∧
        Has place h slots ({ handle with store := f', inBatch := false }, middle) ∧
        ({ f' with open? := none } : SlotFile) = { handle.store with open? := none } := by
      cases ho : handle.store.open? with
      | none =>
        exact ⟨handle.store, disk, whenOpen_of_closed ho, ⟨hs.version, hs.serves, hs.browsable⟩,
          rfl⟩
      | some o =>
        obtain ⟨middle, hend, hserves⟩ := hs.serves.endBatch ho
        have hend : RecordStore.endBatch (handle.store, disk) = .ok () _ := hend
        refine ⟨_, middle, ?_, ⟨hs.version, hserves, hs.browsable⟩, rfl⟩
        rw [whenOpen_of_open (by rw [ho]; rfl), request_apply]
        dsimp only
        rw [hend]
    obtain ⟨disk', hclose, hhas', _⟩ := hhas.closeStore
    dsimp only at hclose hhas'
    rw [hopen] at hclose hhas'
    refine ⟨disk', ?_, hhas', by simp⟩
    simp only [StoreHandle.close, setBatch, Step.bind_apply, Step.get_apply, Step.ite_apply, hbatch,
      if_true, Step.modify_apply, hend, hclose]

/-- Closing a file whose header is up to date leaves the disk alone. -/
theorem close_of_clean {o : OpenSlots} (ho : handle.store.open? = some o)
    (hclean : o.headerDirty = false) :
    close (handle, disk) =
      .ok () ({ handle with store := { handle.store with open? := none }, inBatch := false },
        disk) := by
  have hclose : ∀ (f : SlotFile) o, f.open? = some o → o.headerDirty = false →
      RecordStore.close (f, disk) = .ok () ({ f with open? := none }, disk) := by
    intro f o ho hclean
    show SlotFile.close (f, disk) = _
    rw [SlotFile.close_apply ho, hclean, if_neg (by decide)]
  obtain ⟨f, path, version, inBatch⟩ := handle
  have ho : f.open? = some o := ho
  cases inBatch with
  | false =>
    simp only [close, Step.bind_apply, Step.get_apply, Step.ite_apply, Bool.false_eq_true, if_false]
    rw [whenOpen_of_open (by rw [ho]; rfl), request_apply, hclose f o ho hclean]
  | true =>
    -- Neither the end of the batch nor the closing finds a header to write.
    have hend : RecordStore.endBatch (f, disk) =
        .ok () ({ f with open? := some { o with inBatch := false, headerDirty := false } },
          disk) := by
      show SlotFile.endBatch (f, disk) = _
      rw [SlotFile.endBatch_apply ho, SlotFile.syncHeader_apply rfl]
      simp [hclean]
    simp only [close, setBatch, Step.bind_apply, Step.get_apply, Step.ite_apply, if_true,
      Step.modify_apply]
    rw [whenOpen_of_open (by rw [ho]; rfl), request_apply]
    dsimp only
    rw [hend]
    dsimp only
    rw [whenOpen_of_open rfl, request_apply, hclose _ _ rfl rfl]

/-- Outside of a batch a store is closed and keeps its records. -/
theorem Has.closeUnlessBatch_of_not_inBatch (hs : Has place h slots (handle, disk))
    (hbatch : handle.inBatch = false) :
    ∃ disk', closeUnlessBatch (handle, disk) =
        .ok () ({ handle with store := { handle.store with open? := none } }, disk') ∧
      Has place h slots ({ handle with store := { handle.store with open? := none } }, disk') ∧
      ((∀ o, handle.store.open? = some o → o.headerDirty = false) → disk' = disk) := by
  obtain ⟨disk', hclose, hhas, hsame⟩ := hs.close
  rw [keep_inBatch hbatch] at hclose hhas
  refine ⟨disk', ?_, hhas, hsame hbatch⟩
  have hunless : closeUnlessBatch (handle, disk) = StoreHandle.close (handle, disk) := by
    simp [closeUnlessBatch, hbatch]
  rw [hunless, hclose]

/-- An open store, whether or not it has been open before; the disk is as it was. -/
theorem Has.acquired (hs : Has place h slots (handle, disk)) :
    ∃ f o, StoreHandle.acquire (handle, disk) = .ok () ({ handle with store := f }, disk) ∧
      Has place h slots ({ handle with store := f }, disk) ∧ f.open? = some o := by
  cases ho : handle.store.open? with
  | none =>
    obtain ⟨hacquire, hhas⟩ := hs.acquire ho
    exact ⟨⟨h.slotSize, some (fresh place h)⟩, fresh place h, hacquire, hhas, rfl⟩
  | some o => exact ⟨handle.store, o, acquire_of_open (by rw [ho]; rfl), hs, ho⟩

/-- A store that was opened for it hands out the number behind all others. -/
theorem allocate_of_acquire {f : SlotFile} {o : OpenSlots}
    (hacquire : StoreHandle.acquire (handle, disk) = .ok () ({ handle with store := f }, disk))
    (ho : f.open? = some o) :
    StoreHandle.allocate (handle, disk) =
      if Number.maxUInt32 < max o.allocated o.count + 1 then
        .error (.panic .recordNumber) ({ handle with store := f }, disk)
      else .ok (max o.allocated o.count + 1) ({ handle with
        store := { f with open? := some { o with allocated := max o.allocated o.count + 1 } } },
          disk) := by
  have hnext : RecordStore.nextFree (f, disk) = _ := SlotFile.nextFree_apply ho
  simp only [StoreHandle.allocate, Step.bind_apply, hacquire, request_apply, hnext]
  -- The number behind all others may have more than 32 bits.
  by_cases hlarge : Number.maxUInt32 < max o.allocated o.count + 1
  · simp only [if_pos hlarge, Stop.map]
  · simp only [if_neg hlarge]

/-- A record that fits is put into a store that was opened for it, which is closed again unless
there is a batch. -/
theorem write_of_acquire {f : SlotFile} {t : SlotFile × Disk}
    (hacquire : StoreHandle.acquire (handle, disk) = .ok () ({ handle with store := f }, disk))
    (hlength : data.length ≤ f.slotSize) (hwrite : SlotFile.write n data (f, disk) = .ok () t) :
    StoreHandle.write n data (handle, disk) =
      closeUnlessBatch ({ handle with store := t.1 }, t.2) := by
  -- The handle does not refuse the record, so that the store is asked.
  have hlimit : ¬RecordStore.recordSize f disk < data.length := Nat.not_lt_of_le hlength
  have hwrite : RecordStore.write n data (f, disk) = .ok () t := hwrite
  simp only [StoreHandle.write, StoreHandle.during, Step.bind_apply, hacquire, Step.attempt_apply,
    writeFitting, Step.get_apply, Step.ite_apply, if_neg hlimit, request_apply, hwrite,
    Step.ofExcept_apply]
  cases closeUnlessBatch ({ handle with store := t.1 }, t.2) <;> rfl

/-- A store that was opened for it starts a batch, unless there is one. -/
theorem startBatch_of_acquire {f : SlotFile} {o : OpenSlots}
    (hacquire : StoreHandle.acquire (handle, disk) = .ok () ({ handle with store := f }, disk))
    (ho : f.open? = some o) :
    StoreHandle.startBatch (handle, disk) =
      .ok ()
        (if handle.inBatch then { handle with store := f }
        else { handle with
          store := { f with open? := some { o with inBatch := true } }, inBatch := true },
        disk) := by
  have hbegin : RecordStore.startBatch (f, disk) = _ := SlotFile.startBatch_apply ho
  simp only [StoreHandle.startBatch, Step.bind_apply, hacquire, Step.get_apply, Step.ite_apply,
    request_apply, hbegin, setBatch, Step.modify_apply, Step.pure_apply]
  cases handle.inBatch <;> rfl

/-! ### Requests that close the store again -/

/-- Between two requests the store is open during a batch only, and a store that has been
used has the size of the slots in its file. -/
def Settled (h : Header) (handle : StoreHandle SlotFile) : Prop :=
  (handle.inBatch = true ∧ handle.store.open?.isSome) ∨
    (handle.inBatch = false ∧ handle.store = { slotSize := h.slotSize })

/-- The store is closed after a step, unless there is a batch. -/
private theorem Has.settled (hs : Has place h slots (handle, disk)) {o : OpenSlots}
    (ho : handle.store.open? = some o) :
    ∃ u, closeUnlessBatch (handle, disk) = .ok () u ∧ Has place h slots u ∧ Settled h u.1 := by
  cases hbatch : handle.inBatch with
  | true =>
    exact ⟨_, closeUnlessBatch_of_inBatch hbatch, hs, .inl ⟨hbatch, by rw [ho]; rfl⟩⟩
  | false =>
    obtain ⟨disk', hclose, hhas, _⟩ := hs.closeUnlessBatch_of_not_inBatch hbatch
    obtain ⟨_, _, _, hsize, _⟩ := hs.serves.opened o ho
    refine ⟨_, hclose, hhas, .inr ⟨hbatch, ?_⟩⟩
    rw [← show handle.store.slotSize = h.slotSize from hsize]

/-- A step that leaves the store open is followed by what closes it. -/
theorem Has.during {step : HandleStep SlotFile Disk α} {s : StoreHandle SlotFile × Disk}
    {t : StoreHandle SlotFile × Disk} (hs : Has place h slots t) {o : OpenSlots}
    (ho : t.1.store.open? = some o) {result : Except LibraryFault α}
    (hstep : Step.attempt step s = .ok result t) :
    ∃ u, StoreHandle.during step s = Step.ofExcept result u ∧ Has place h slots u ∧
      Settled h u.1 := by
  obtain ⟨handle, disk⟩ := t
  obtain ⟨u, hclose, hhas, hsettled⟩ := hs.settled ho
  refine ⟨u, ?_, hhas, hsettled⟩
  simp only [StoreHandle.during, Step.bind_apply, hstep, hclose]

/-- A record that is refused leaves the store as it was, whichever of the checks fails. -/
private theorem writeFitting_refused (handle : StoreHandle SlotFile) (disk : Disk)
    (hrefused : ¬(n ≠ 0 ∧ data.length ≤ handle.store.slotSize ∧ InReach handle.store.slotSize n)) :
    ∃ stop, writeFitting n data (handle, disk) = .error stop (handle, disk) := by
  have hlimit : ∀ t, RecordStore.recordSize handle.store t = handle.store.slotSize := fun _ => rfl
  simp only [writeFitting, Step.bind_apply, Step.get_apply, hlimit, Step.ite_apply, request_apply]
  by_cases hlength : handle.store.slotSize < data.length
  · -- The handle refuses it.
    exact ⟨_, by rw [if_pos hlength]; rfl⟩
  · -- The store refuses it, since it fits but has no place.
    have hbad : handle.store.open? = none ∨ n = 0 ∨ handle.store.slotSize < data.length ∨
        ¬InReach handle.store.slotSize n := by
      right
      by_contra hnot
      push Not at hnot
      exact hrefused hnot
    obtain ⟨stop, hwrite⟩ := SlotFile.write_refused n data disk hbad
    have hwrite : RecordStore.write n data (handle.store, disk) =
        .error stop (handle.store, disk) := hwrite
    exact ⟨stop.map .host, by simp only [if_neg hlength, hwrite]⟩

/-- A record is written into its slot, or else everything stays as it is, unless the program
ends. -/
theorem Has.write (hs : Has place h slots (handle, disk)) (hmax : n ≤ Number.maxUInt32)
    (data : Bytes) :
    (∃ u, StoreHandle.write n data (handle, disk) = .ok () u ∧ n ≠ 0 ∧ InReach h.slotSize n ∧
      Has place { h with count := max h.count n }
        (Function.update slots n (data.takeWhile (· ≠ 0))) u ∧ Settled h u.1) ∨
    (∃ fault u, StoreHandle.write n data (handle, disk) = .error (.fault fault) u ∧
      (Has place h slots u ∧ Settled h u.1) ∧
      ¬(n ≠ 0 ∧ data.length ≤ h.slotSize ∧ InReach h.slotSize n)) ∨
    ((StoreHandle.write n data).Panics (handle, disk) ∧
      ¬(n ≠ 0 ∧ data.length ≤ h.slotSize ∧ InReach h.slotSize n)) := by
  obtain ⟨f, o, hacquire, hhas, ho⟩ := hs.acquired
  obtain ⟨_, _, _, hsize, _⟩ := hhas.serves.opened o ho
  have hslots : f.slotSize = h.slotSize := hsize
  by_cases hgood : n ≠ 0 ∧ data.length ≤ h.slotSize ∧ InReach h.slotSize n
  · -- The store writes the record, and what closes it afterwards keeps it.
    obtain ⟨hn, hlength, hreach⟩ := hgood
    obtain ⟨f', disk', o', hwrite, hserves, ho', _⟩ :=
      hhas.serves.write ho hn hlength hreach hmax
    have hwritten : Has place { h with count := max h.count n }
        (Function.update slots n (data.takeWhile (· ≠ 0))) ({ handle with store := f' }, disk') :=
      ⟨hhas.version, hserves, hhas.browsable.grow hreach⟩
    obtain ⟨u, hclose, hhas', hsettled⟩ := hwritten.settled ho'
    have hresult := write_of_acquire hacquire (hslots ▸ hlength) hwrite
    exact .inl ⟨u, hresult.trans hclose, hn, hreach, hhas', hsettled⟩
  · right
    obtain ⟨stop, hstep⟩ := writeFitting_refused { handle with store := f } disk (hslots ▸ hgood)
    cases stop with
    | fault cause =>
      -- The store is closed before the fault is reported.
      have hattempt : Step.attempt (writeFitting n data) ({ handle with store := f }, disk) =
          .ok (.error cause) ({ handle with store := f }, disk) := by
        rw [Step.attempt_apply, hstep]
      obtain ⟨u, hduring, hhas', hsettled⟩ := hhas.during ho hattempt
      refine .inl ⟨cause, u, ?_, ⟨hhas', hsettled⟩, hgood⟩
      simp only [StoreHandle.write, Step.bind_apply, hacquire, hduring, Step.ofExcept_apply]
    | panic why =>
      refine .inr ⟨⟨why, ({ handle with store := f }, disk), ?_⟩, hgood⟩
      simp only [StoreHandle.write, StoreHandle.during, Step.bind_apply, hacquire,
        Step.attempt_apply, hstep]

/-! ### Reading -/

/-- Reading a single record keeps the records. -/
theorem Has.readSingle (hs : Has place h slots (handle, disk)) (n : Nat) :
    ∃ result u, StoreHandle.readSingle n (handle, disk) = Step.ofExcept result u ∧
      Has place h slots u ∧ Settled h u.1 := by
  obtain ⟨f, o, hacquire, hhas, ho⟩ := hs.acquired
  obtain ⟨result, hread⟩ := hhas.serves.attempt_of_browsable ho hhas.browsable n
  have hstep := attempt_request (s := ({ handle with store := f }, disk)) hread
  obtain ⟨u, hduring, hhas'⟩ := hhas.during ho hstep
  refine ⟨result.mapError LibraryFault.host, u, ?_, hhas'⟩
  have hduring : StoreHandle.during (request (RecordStore.read n))
      ({ handle with store := f }, disk) =
        Step.ofExcept (result.mapError LibraryFault.host) u := hduring
  simp only [StoreHandle.readSingle, Step.bind_apply, hacquire, hduring]

/-- Whatever comes of reading a single record, the records are kept. -/
theorem Has.after_readSingle (hs : Has place h slots (handle, disk)) (n : Nat) :
    Has place h slots (Step.after (StoreHandle.readSingle n) (handle, disk)) ∧
      Settled h (Step.after (StoreHandle.readSingle n) (handle, disk)).1 := by
  obtain ⟨result, u, hread, hhas⟩ := hs.readSingle n
  have hafter : Step.after (StoreHandle.readSingle n) (handle, disk) = u := by
    cases result with
    | ok a => exact Step.after_of_ok hread
    | error fault => exact Step.after_of_error hread
  rwa [hafter]

/-- A record is read from its slot; between two requests this changes nothing at all. -/
theorem Has.readSingle_of_settled (hs : Has place h slots (handle, disk))
    (hsettled : Settled h handle) (hn : n ≠ 0) (hle : n ≤ h.count)
    (hreach : InReach h.slotSize n) :
    StoreHandle.readSingle n (handle, disk) =
      .ok (if slots n = [] then none else some (slots n)) (handle, disk) := by
  have hslot : (n = 0 ∨ h.count < n ∨ slots n = []) ↔ slots n = [] := by
    constructor
    · rintro (hzero | hlt | hempty)
      · exact absurd hzero hn
      · omega
      · exact hempty
    · exact fun hempty => .inr (.inr hempty)
  rcases hsettled with ⟨hbatch, hopen⟩ | ⟨hbatch, hstore⟩
  · -- During a batch the store is open and stays open.
    obtain ⟨o, ho⟩ := Option.isSome_iff_exists.1 hopen
    have hread := hs.serves.read ho (n := n) fun _ _ => hreach
    simp only [hslot] at hread
    have hread : RecordStore.read n (handle.store, disk) = .ok _ (handle.store, disk) := hread
    simp only [StoreHandle.readSingle, StoreHandle.during, Step.bind_apply, acquire_of_open hopen,
      Step.attempt_apply, request_apply, hread, closeUnlessBatch_of_inBatch hbatch,
      Step.ofExcept_apply]
  · -- Otherwise it is opened, and closed again without having been written.
    have hclosed : handle.store.open? = none := by rw [hstore]
    obtain ⟨hacquire, hhas⟩ := hs.acquire hclosed
    have hread := hhas.serves.read (n := n) rfl fun _ _ => hreach
    simp only [hslot] at hread
    have hread : RecordStore.read n ((⟨h.slotSize, some (fresh place h)⟩ : SlotFile), disk) =
        .ok _ ((⟨h.slotSize, some (fresh place h)⟩ : SlotFile), disk) := hread
    obtain ⟨disk', hclose, _, hsame⟩ := hhas.closeUnlessBatch_of_not_inBatch hbatch
    obtain rfl := hsame (by rintro _ ⟨⟩; rfl)
    have hback : { handle with store := ({ slotSize := h.slotSize } : SlotFile) } = handle := by
      rw [← hstore]
    simp only [StoreHandle.readSingle, StoreHandle.during, Step.bind_apply, hacquire,
      Step.attempt_apply, request_apply, hread, hclose, Step.ofExcept_apply]
    rw [hback]

/-! ### Between two requests -/

/-- A number that is handed out has 32 bits; the program ends if there is none left. -/
theorem Has.allocate (hs : Has place h slots (handle, disk)) :
    (∃ n u, StoreHandle.allocate (handle, disk) = .ok n u ∧ n ≤ Number.maxUInt32 ∧
      Has place h slots u) ∨
    StoreHandle.allocate.Panics (handle, disk) := by
  obtain ⟨f, o, hacquire, hhas, ho⟩ := hs.acquired
  have hallocate := allocate_of_acquire hacquire ho
  by_cases hlarge : Number.maxUInt32 < max o.allocated o.count + 1
  · rw [if_pos hlarge] at hallocate
    exact .inr ⟨_, _, hallocate⟩
  · rw [if_neg hlarge] at hallocate
    exact .inl ⟨_, _, hallocate, Nat.le_of_not_lt hlarge, hhas.version,
      hhas.serves.setOpened_of_eq ho _ rfl rfl rfl rfl, hhas.browsable⟩

/-- A number that is handed out is behind all records. -/
theorem Has.lt_of_allocate {u : StoreHandle SlotFile × Disk} (hs : Has place h slots (handle, disk))
    (hallocate : StoreHandle.allocate (handle, disk) = .ok n u) : h.count < n := by
  obtain ⟨f, o, hacquire, hhas, ho⟩ := hs.acquired
  obtain ⟨_, _, hcount, _⟩ := hhas.serves.opened o ho
  have hcount : o.count = h.count := hcount
  rw [allocate_of_acquire hacquire ho] at hallocate
  split at hallocate
  · cases hallocate
  · obtain ⟨rfl, -⟩ := EStateM.Result.ok.inj hallocate
    omega

/-- A store is open once a batch has been started. -/
theorem Has.startBatch (hs : Has place h slots (handle, disk)) :
    ∃ u, StoreHandle.startBatch (handle, disk) = .ok () u ∧ Has place h slots u ∧
      Settled h u.1 := by
  obtain ⟨f, o, hacquire, hhas, ho⟩ := hs.acquired
  rw [startBatch_of_acquire hacquire ho]
  refine ⟨_, rfl, ?_⟩
  by_cases hbatch : handle.inBatch = true
  · rw [if_pos hbatch]
    exact ⟨hhas, .inl ⟨hbatch, Option.isSome_of_eq_some ho⟩⟩
  · rw [if_neg hbatch]
    have hserves := hhas.serves.setOpened_of_eq ho { o with inBatch := true } rfl rfl rfl rfl
    exact ⟨⟨hhas.version, hserves, hhas.browsable⟩, .inl ⟨rfl, rfl⟩⟩

/-- A handle that has the store file of its path, between two requests. -/
def AtRest (s : StoreHandle SlotFile × Disk) : Prop :=
  ∃ place h slots, Has place h slots s ∧ Settled h s.1

/-- A store that rests holds its records. -/
theorem AtRest.holds {s : StoreHandle SlotFile × Disk} (hs : AtRest s) : Holds s := by
  obtain ⟨place, h, slots, hhas, _⟩ := hs
  exact ⟨place, h, slots, hhas⟩

/-- Once a record has been written, or refused, the store rests. -/
theorem Holds.write {s : StoreHandle SlotFile × Disk} (hs : Holds s) (hmax : n ≤ Number.maxUInt32)
    (data : Bytes) :
    (StoreHandle.write n data).Panics s ∨ AtRest (Step.after (StoreHandle.write n data) s) := by
  obtain ⟨handle, disk⟩ := s
  obtain ⟨place, h, slots, hhas⟩ := hs
  rcases hhas.write hmax data with ⟨u, hwrite, _, _, hhas', hsettled⟩ |
    ⟨stop, u, hwrite, ⟨hhas', hsettled⟩, _⟩ | ⟨hpanics, _⟩
  · rw [Step.after_of_ok hwrite]
    exact .inr ⟨_, _, _, hhas', hsettled⟩
  · rw [Step.after_of_error hwrite]
    exact .inr ⟨_, _, _, hhas', hsettled⟩
  · exact .inl hpanics

/-- Once a record has been read, or not, the store rests. -/
theorem Holds.readSingle {s : StoreHandle SlotFile × Disk} (hs : Holds s) (n : Nat) :
    AtRest (Step.after (StoreHandle.readSingle n) s) := by
  obtain ⟨handle, disk⟩ := s
  obtain ⟨place, h, slots, hhas⟩ := hs
  obtain ⟨hhas', hsettled⟩ := hhas.after_readSingle n
  exact ⟨place, h, slots, hhas', hsettled⟩

/-- A store that rests also does so once it was closed. -/
theorem AtRest.close {s : StoreHandle SlotFile × Disk} (hs : AtRest s) :
    AtRest (Step.after StoreHandle.close s) := by
  obtain ⟨handle, disk⟩ := s
  obtain ⟨place, h, slots, hhas, hsettled⟩ := hs
  obtain ⟨disk', hclose, hhas', _⟩ := hhas.close
  rw [Step.after_of_ok hclose]
  refine ⟨_, _, _, hhas', .inr ⟨rfl, ?_⟩⟩
  -- The size of the slots is that of the header, in a batch and outside of one.
  rcases hsettled with ⟨_, hopen⟩ | ⟨_, hstore⟩
  · obtain ⟨o, ho⟩ := Option.isSome_iff_exists.1 hopen
    obtain ⟨_, _, _, hsize, _⟩ := hhas.serves.opened o ho
    rw [← show handle.store.slotSize = h.slotSize from hsize]
  · rw [hstore]

/-- A store whose batch has been started rests. -/
theorem Holds.startBatch {s : StoreHandle SlotFile × Disk} (hs : Holds s) :
    AtRest (Step.after StoreHandle.startBatch s) := by
  obtain ⟨handle, disk⟩ := s
  obtain ⟨place, h, slots, hhas⟩ := hs
  obtain ⟨u, hstart, hhas', hsettled⟩ := hhas.startBatch
  rw [Step.after_of_ok hstart]
  exact ⟨place, h, slots, hhas', hsettled⟩

/-- A handle and a disk have one store file, with one header. -/
theorem Has.unique {place' : Place} {h' : Header} {slots' : Nat → Bytes}
    (hs : Has place h slots (handle, disk)) (hs' : Has place' h' slots' (handle, disk)) :
    place' = place ∧ h' = h := by
  have hplace : place' = place := by
    have hopen := hs'.serves.leads.openFile
    rw [hs.serves.leads.openFile] at hopen
    exact (Except.ok.inj (Prod.mk.inj hopen).1).symm
  subst hplace
  refine ⟨rfl, ?_⟩
  cases ho : handle.store.open? with
  -- A closed store is told by what its file holds.
  | none => exact Except.ok.inj ((hs'.serves.closed ho).symm.trans (hs.serves.closed ho))
  -- An open one is told by what it has read from it.
  | some o =>
    obtain ⟨_, hversion, hcount, hsize, _⟩ := hs.serves.opened o ho
    obtain ⟨_, hversion', hcount', hsize', _⟩ := hs'.serves.opened o ho
    dsimp only at hsize hsize'
    calc
      h' = ⟨o.version, handle.store.slotSize, o.count⟩ := by rw [hversion', hsize', hcount']
      _ = h := by rw [hversion, hsize, hcount]

/-- Outside of a batch a store is closed, and of the next one it would make the slots have the
size of those in its file. -/
theorem AtRest.store_eq (hs : AtRest (handle, disk)) (hbatch : handle.inBatch = false)
    (hhas : Has place h slots (handle, disk)) : handle.store = { slotSize := h.slotSize } := by
  obtain ⟨place', h', slots', hhas', hsettled⟩ := hs
  obtain ⟨rfl, rfl⟩ := hhas'.unique hhas
  rcases hsettled with ⟨hopen, _⟩ | ⟨_, hstore⟩
  · cases hbatch.symm.trans hopen
  · exact hstore

end Ballroom.StoreHandle
