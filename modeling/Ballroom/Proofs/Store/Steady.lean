import Ballroom.Proofs.Store.Handle

/-!
# Stores that are only read

Loading a library opens a store, counts it, reads its slots and closes it.  `Steady` says
what a store has to do for that: its slots tell the same whenever they are read, although
some of them may tell a fault.  A store file whose header has been written is steady
(`SlotFile.steady_of_quiet`), and so is a store in memory with its plan of faults
(`MemoryStore.steady_of_holds`).
-/

namespace Ballroom

/-- A store at a path whose slots tell the same as long as it is only read.  `keeps` are
the states that it is in by then, and `told` is what reading each slot comes to. -/
structure Steady {σ ω : Type} [RecordStore σ ω] (path : String) (version : Nat)
    (told : Nat → Except HostFault (Option Bytes)) (keeps : σ × ω → Prop) : Prop where
  openAt : ∀ s t, keeps s → RecordStore.isOpen s.1 s.2 = false →
    RecordStore.openAt path version s = .ok () t → keeps t ∧ RecordStore.isOpen t.1 t.2 = true
  count : ∀ s n t, keeps s → RecordStore.isOpen s.1 s.2 = true →
    RecordStore.count s = .ok n t →
      keeps t ∧ RecordStore.isOpen t.1 t.2 = true ∧ n ≤ maxRecordNumber
  read : ∀ n s, keeps s → RecordStore.isOpen s.1 s.2 = true →
    ∃ t, Step.attempt (RecordStore.read n) s = .ok (told n) t ∧
      keeps t ∧ RecordStore.isOpen t.1 t.2 = true
  endBatch : ∀ s t, keeps s → RecordStore.endBatch s = .ok () t → keeps t
  close : ∀ s t, keeps s → RecordStore.close s = .ok () t →
    keeps t ∧ RecordStore.isOpen t.1 t.2 = false

namespace StoreHandle

variable {σ ω : Type} [RecordStore σ ω]

/-- What is left after the `left` slots from `first` on have been read, or tried to be. -/
def readThrough (first left : Nat) (s : StoreHandle σ × ω) : StoreHandle σ × ω :=
  (List.range' first left).foldl (fun s n => (StoreHandle.read n).after s) s

/-- Slots are read one after the other. -/
theorem readThrough_succ (first left : Nat) (s : StoreHandle σ × ω) :
    readThrough first (left + 1) s =
      readThrough (first + 1) left ((StoreHandle.read first).after s) := rfl

/-- A handle on an open store that is in one of the states `keeps`. -/
structure Reads (keeps : σ × ω → Prop) (s : StoreHandle σ × ω) : Prop where
  keeps : keeps (s.1.store, s.2)
  isOpen : s.1.isOpen s.2 = true

variable {handle : StoreHandle σ} {w : ω} {path : String} {version : Nat}
  {told : Nat → Except HostFault (Option Bytes)} {keeps : σ × ω → Prop}
  {s t : StoreHandle σ × ω} {n : Nat}

/-- A store that has been opened can be read. -/
theorem reads_of_acquire (h : Steady handle.path handle.version told keeps)
    (hkeeps : keeps (handle.store, w)) (hacquire : acquire (handle, w) = .ok () t) :
    Reads keeps t := by
  simp only [acquire, Step.bind_apply, Step.get_apply, Step.ite_apply, request_apply,
    Step.pure_apply] at hacquire
  split at hacquire
  · rename_i hclosed
    rw [Bool.not_eq_true'] at hclosed
    cases hopen : RecordStore.openAt handle.path handle.version (handle.store, w) with
    | error stop u => rw [hopen] at hacquire; cases hacquire
    | ok a u =>
      rw [hopen] at hacquire
      obtain ⟨-, rfl⟩ := EStateM.Result.ok.inj hacquire
      obtain ⟨hkept, hisOpen⟩ := h.openAt _ _ hkeeps hclosed hopen
      exact ⟨hkept, hisOpen⟩
  · -- It was open, and keeps its slots.
    rename_i hisOpen
    obtain ⟨-, rfl⟩ := EStateM.Result.ok.inj hacquire
    exact ⟨hkeeps, by simpa using hisOpen⟩

/-- A store that can be read is asked. -/
theorem onlyOpen_of_reads {α : Type} (hs : Reads keeps s) (step : HostStep σ ω α) :
    onlyOpen step s = request step s := by
  simp only [onlyOpen, Step.bind_apply, Step.get_apply, hs.isOpen, if_true]

/-- A store that was counted can be read, and counts no more records than there are numbers.
-/
theorem Reads.count (h : Steady path version told keeps) (hs : Reads keeps s)
    (hcount : StoreHandle.count s = .ok n t) : Reads keeps t ∧ n ≤ maxRecordNumber := by
  obtain ⟨handle, w⟩ := s
  rw [StoreHandle.count, onlyOpen_of_reads hs, request_apply] at hcount
  cases hresult : RecordStore.count (handle.store, w) with
  | error stop u => rw [hresult] at hcount; cases hcount
  | ok a u =>
    rw [hresult] at hcount
    obtain ⟨rfl, rfl⟩ := EStateM.Result.ok.inj hcount
    obtain ⟨hkept, hisOpen, hle⟩ := h.count _ _ _ hs.keeps hs.isOpen hresult
    exact ⟨⟨hkept, hisOpen⟩, hle⟩

/-- A slot tells what it always tells, and can be read again. -/
theorem Reads.read (h : Steady path version told keeps) (hs : Reads keeps s) (n : Nat) :
    Step.attempt (StoreHandle.read n) s =
        .ok ((told n).mapError LibraryFault.host) ((StoreHandle.read n).after s) ∧
      Reads keeps ((StoreHandle.read n).after s) := by
  obtain ⟨handle, w⟩ := s
  obtain ⟨u, hread, hkept, hisOpen⟩ := h.read n _ hs.keeps hs.isOpen
  rw [Step.attempt_apply] at hread
  have hrequest : StoreHandle.read n (handle, w) =
      request (RecordStore.read n) (handle, w) := onlyOpen_of_reads hs _
  rw [request_apply] at hrequest
  dsimp only at hread
  -- A fault is told again like a record; only a panic is not.
  rcases hresult : RecordStore.read n (handle.store, w) with ⟨a, v⟩ | ⟨cause | why, v⟩
  · rw [hresult] at hread hrequest
    obtain ⟨htold, rfl⟩ := EStateM.Result.ok.inj hread
    rw [Step.attempt_apply, Step.after_of_ok hrequest, hrequest, ← htold]
    exact ⟨rfl, hkept, hisOpen⟩
  · rw [hresult] at hread hrequest
    obtain ⟨htold, rfl⟩ := EStateM.Result.ok.inj hread
    rw [Step.attempt_apply, Step.after_of_error hrequest, hrequest, ← htold]
    exact ⟨rfl, hkept, hisOpen⟩
  · rw [hresult] at hread
    cases hread

/-- Slots that have been read can be read again. -/
theorem Reads.readThrough (h : Steady path version told keeps) (hs : Reads keeps s)
    (first left : Nat) : Reads keeps (readThrough first left s) := by
  induction left generalizing first s with
  | zero => exact hs
  | succ left ih => exact ih (hs.read h first).2 (first + 1)

/-- A store that has been closed is kept, whether or not it was in a batch. -/
theorem Reads.close (h : Steady path version told keeps) (hs : Reads keeps s)
    (hclose : StoreHandle.close s = .ok () t) :
    keeps (t.1.store, t.2) ∧ t.1.isOpen t.2 = false := by
  obtain ⟨handle, w⟩ := s
  -- Closing the store itself, once the batch is over.
  have hstore : ∀ {handle : StoreHandle σ} {w : ω}, keeps (handle.store, w) →
      whenOpen (request RecordStore.close) (handle, w) = .ok () t →
      keeps (t.1.store, t.2) ∧ t.1.isOpen t.2 = false := by
    intro handle w hkeeps hclose
    simp only [whenOpen, Step.bind_apply, Step.get_apply, Step.ite_apply, request_apply,
      Step.pure_apply] at hclose
    split at hclose
    · cases hresult : RecordStore.close (handle.store, w) with
      | error stop u => rw [hresult] at hclose; cases hclose
      | ok a u =>
        rw [hresult] at hclose
        obtain ⟨-, rfl⟩ := EStateM.Result.ok.inj hclose
        exact h.close _ _ hkeeps hresult
    · rename_i hclosed
      obtain ⟨-, rfl⟩ := EStateM.Result.ok.inj hclose
      exact ⟨hkeeps, by simpa using hclosed⟩
  simp only [StoreHandle.close, Step.bind_apply, Step.get_apply, Step.ite_apply, setBatch,
    Step.modify_apply] at hclose
  split at hclose
  · have hisOpen : ({ handle with inBatch := false } : StoreHandle σ).isOpen w = true := hs.isOpen
    rw [whenOpen, Step.bind_apply, Step.get_apply] at hclose
    simp only [hisOpen, if_true, request_apply] at hclose
    -- A batch is ended before, which keeps the slots too.
    cases hresult : RecordStore.endBatch (handle.store, w) with
    | error stop u => rw [hresult] at hclose; cases hclose
    | ok a u =>
      rw [hresult] at hclose
      exact hstore (h.endBatch _ _ hs.keeps hresult) hclose
  · exact hstore hs.keeps hclose

end StoreHandle

/-! ### Store files -/

namespace SlotFile

variable {path : String} {place : Place} {h : Header} {slots : Nat → Bytes} {f : SlotFile}
  {disk : Disk} {o : OpenSlots} {n : Nat} {data : Bytes}

/-- What reading slot `n` of a store file comes to: only the slots of records are looked at,
and one whose start cannot be gone to is a fault. -/
def told (h : Header) (slots : Nat → Bytes) (n : Nat) : Except HostFault (Option Bytes) :=
  if n = 0 ∨ h.count < n then .ok none
  else if seekLimit ≤ offset h.slotSize n then .error (.disk .invalidInput)
  else .ok (if slots n = [] then none else some (slots n))

/-- Only slots of records tell anything. -/
theorem record_of_told (htold : told h slots n = .ok (some data)) : n ≠ 0 ∧ n ≤ h.count := by
  rw [told] at htold
  split at htold
  · cases htold
  · omega

/-- A record that is written leaves what the other slots tell, unless they are behind the
records by then and before it. -/
theorem told_update_of_ne {m : Nat} (hm : m ≠ n) (hapart : m ≤ h.count ∨ n < m) :
    told { h with count := max h.count n } (Function.update slots n data) m = told h slots m := by
  have hrecord : m = 0 ∨ max h.count n < m ↔ m = 0 ∨ h.count < m := by omega
  rw [told, told, Function.update_of_ne hm]
  simp only [hrecord]

variable [Allocator]

/-- A slot tells a record if and only if it has one within reach. -/
theorem told_eq_some_iff (hbrowsable : Browsable h) :
    told h slots n = .ok (some data) ↔
      n ≠ 0 ∧ n ≤ h.count ∧ InReach h.slotSize n ∧ slots n = data ∧ data ≠ [] := by
  unfold told
  constructor
  · intro htold
    split at htold
    · cases htold
    rename_i hrecord
    split at htold
    · cases htold
    rename_i hseek
    split at htold
    · cases htold
    rename_i hne
    obtain rfl := Option.some.inj (Except.ok.inj htold)
    rw [not_or] at hrecord
    have hle := Nat.le_of_not_lt hrecord.2
    -- The three checks have been passed.
    exact ⟨hrecord.1, hle,
      ⟨(hbrowsable n hrecord.1 hle).slotSize_le, Nat.lt_of_not_le hseek⟩, rfl, hne⟩
  · rintro ⟨hn, hle, hreach, rfl, hne⟩
    rw [if_neg (by omega), if_neg (Nat.not_le_of_lt hreach.offset_lt), if_neg hne]

/-- A slot behind the records that is before a new one tells nothing at first, and what it holds
once the new one is written. -/
theorem told_update_between {m : Nat} (hbehind : h.count < m) (hm : m < n)
    (hreach : InReach h.slotSize n) :
    told h slots m = .ok none ∧
      told { h with count := max h.count n } (Function.update slots n data) m =
        .ok (if slots m = [] then none else some (slots m)) := by
  have hin := hreach.of_le (Nat.le_of_lt hm)
  rw [told, told, Function.update_of_ne (Nat.ne_of_lt hm)]
  refine ⟨if_pos (.inr hbehind), ?_⟩
  rw [if_neg (by simp only [not_or]; omega), if_neg (Nat.not_le_of_lt hin.offset_lt)]

/-- A record that is written is what its slot tells. -/
theorem told_update_self (slots : Nat → Bytes) (hn : n ≠ 0) (hreach : InReach h.slotSize n)
    (hne : data ≠ []) :
    told { h with count := max h.count n } (Function.update slots n data) n = .ok (some data) := by
  have hle : n ≤ max h.count n := Nat.le_max_right _ _
  rw [told, Function.update_self, if_neg (by simp only [not_or]; omega),
    if_neg (Nat.not_le_of_lt hreach.offset_lt), if_neg hne]

/-- A record that is written into the slot of another one, or right behind the last, is what
its slot tells from then on; the other slots tell what they told. -/
theorem told_update (hn : n ≠ 0) (hle : n ≤ h.count + 1) (hreach : InReach h.slotSize n)
    (hne : data ≠ []) :
    told { h with count := max h.count n } (Function.update slots n data) =
      Function.update (told h slots) n (.ok (some data)) := by
  funext m
  by_cases hm : m = n
  · subst hm
    rw [Function.update_self, told_update_self slots hn hreach hne]
  · rw [Function.update_of_ne hm]
    exact told_update_of_ne hm (by omega)

/-- Reading an open file gives what its slots tell and leaves everything as it is. -/
theorem Serves.attempt_read (hs : Serves path place h slots (f, disk)) (ho : f.open? = some o)
    (hbrowsable : Browsable h) (n : Nat) :
    Step.attempt (SlotFile.read n) (f, disk) = .ok (told h slots n) (f, disk) := by
  obtain ⟨hplace, _, hcount, hsize, _⟩ := hs.opened o ho
  have hslotSize : f.slotSize = h.slotSize := hsize
  rw [Step.attempt_apply, read_apply ho, hcount, hslotSize, hplace, told]
  by_cases hn : n = 0 ∨ h.count < n
  · rw [if_pos hn, if_pos hn]
  -- A record can be asked for, so that only its place can be refused.
  have hrecord : n ≠ 0 ∧ n ≤ h.count := by omega
  have haddressable := hbrowsable n hrecord.1 hrecord.2
  rw [if_neg hn, if_neg hn, if_neg (Nat.not_le_of_lt haddressable.offset_lt),
    if_neg (Nat.not_lt_of_le haddressable.slotSize_le)]
  -- What is refused is refused every time.
  by_cases hseek : seekLimit ≤ offset h.slotSize n
  · rw [if_pos hseek, if_pos hseek]
  · have hslot : (((disk.content place).drop (offset h.slotSize n)).take h.slotSize).upToNul =
        slots n := hs.slots n hrecord.1
    rw [if_neg hseek, if_neg hseek]
    simp only [hslot, List.isEmpty_iff]

/-- A handle and a disk with a store file whose header has been written: as long as it is
only read, the disk stays as it is. -/
structure Quiet (path : String) (place : Place) (h : Header) (slots : Nat → Bytes) (disk : Disk)
    (s : SlotFile × Disk) : Prop where
  serves : Serves path place h slots s
  same : s.2 = disk
  clean : ∀ o, s.1.open? = some o → o.headerDirty = false

/-- A store file whose header has been written is steady, if all of its records can be asked
for. -/
theorem steady_of_quiet (path : String) (place : Place) (h : Header) (slots : Nat → Bytes)
    (disk : Disk) (hbrowsable : Browsable h) :
    Steady path h.version (told h slots) (Quiet path place h slots disk) where
  openAt := by
    rintro ⟨f, current⟩ t ⟨hserves, rfl, _⟩ hclosed hopen
    obtain ⟨disk', hopen', hserves', hsame⟩ := hserves.openAt
    have hopenAt : RecordStore.openAt path h.version (f, current) = .ok () _ := hopen'
    rw [hopenAt] at hopen
    obtain ⟨-, rfl⟩ := EStateM.Result.ok.inj hopen
    -- A closed file has nothing to write before it is opened.
    have hnone : f.open? = none := by simpa [RecordStore.isOpen] using hclosed
    refine ⟨⟨hserves', hsame hnone, ?_⟩, rfl⟩
    rintro _ ⟨⟩
    rfl
  count := by
    rintro ⟨f, current⟩ n t hquiet hisOpen hcount
    obtain ⟨o, ho⟩ := Option.isSome_iff_exists.1 hisOpen
    obtain ⟨_, _, hn, _⟩ := hquiet.serves.opened o ho
    have hresult : RecordStore.count (f, current) = .ok o.count (f, current) := count_apply ho
    rw [hresult] at hcount
    obtain ⟨rfl, rfl⟩ := EStateM.Result.ok.inj hcount
    exact ⟨hquiet, hisOpen, hn ▸ hquiet.serves.fits.count_le⟩
  read := by
    rintro n ⟨f, current⟩ hquiet hisOpen
    obtain ⟨o, ho⟩ := Option.isSome_iff_exists.1 hisOpen
    exact ⟨_, hquiet.serves.attempt_read ho hbrowsable n, hquiet, hisOpen⟩
  endBatch := by
    rintro ⟨f, current⟩ t ⟨hserves, rfl, hclean⟩ hend
    cases ho : f.open? with
    | none =>
      have hresult : RecordStore.endBatch (f, current) = .error _ _ := endBatch_of_closed ho
      rw [hresult] at hend
      cases hend
    | some o =>
      -- There is no header to write, so that the end of a batch leaves the disk.
      have hended := hserves.setOpened_of_eq ho { o with inBatch := false } rfl rfl rfl rfl
      obtain ⟨disk', hsync, hserves', hsame⟩ := hended.syncHeader rfl
      have hresult : RecordStore.endBatch (f, current) = .ok ()
          ({ f with open? := some { o with inBatch := false, headerDirty := false } }, disk') := by
        show SlotFile.endBatch (f, current) = _
        simp only [SlotFile.endBatch, Step.bind_apply, opened_apply ho, SlotFile.setOpened,
          Step.modify_apply, hsync]
      rw [hresult] at hend
      obtain ⟨-, rfl⟩ := EStateM.Result.ok.inj hend
      refine ⟨hserves', hsame (hclean o ho), ?_⟩
      rintro _ ⟨⟩
      rfl
  close := by
    rintro ⟨f, current⟩ t ⟨hserves, rfl, hclean⟩ hclose
    -- A header that is up to date is not written again.
    obtain ⟨disk', hclose', hserves', hsame⟩ := hserves.close
    have hresult : RecordStore.close (f, current) = .ok () _ := hclose'
    rw [hresult] at hclose
    obtain ⟨-, rfl⟩ := EStateM.Result.ok.inj hclose
    exact ⟨⟨hserves', hsame hclean, by simp⟩, rfl⟩

end SlotFile

namespace StoreHandle

open SlotFile (told)

variable [Allocator] {place : Place} {h : Header} {slots : Nat → Bytes}
  {handle : StoreHandle SlotFile} {disk : Disk}

/-- Reading a single slot comes to what it tells, whether or not the store is open. -/
theorem Has.readSingle_eq (hs : Has place h slots (handle, disk)) (n : Nat) :
    ∃ u, StoreHandle.readSingle n (handle, disk) =
      Step.ofExcept ((told h slots n).mapError LibraryFault.host) u := by
  obtain ⟨f, o, hacquire, hhas, ho⟩ := hs.acquired
  have hread : Step.attempt (request (RecordStore.read n)) ({ handle with store := f }, disk) = _ :=
    attempt_request (hhas.serves.attempt_read ho hhas.browsable n)
  obtain ⟨u, hduring, _⟩ := hhas.during ho hread
  refine ⟨u, ?_⟩
  simp only [StoreHandle.readSingle, Step.bind_apply, hacquire, hduring]

/-- Between two requests reading a single slot changes nothing. -/
theorem Has.readSingle_told (hs : Has place h slots (handle, disk)) (hsettled : Settled h handle)
    (n : Nat) :
    StoreHandle.readSingle n (handle, disk) =
      Step.ofExcept ((told h slots n).mapError LibraryFault.host) (handle, disk) := by
  rcases hsettled with ⟨hbatch, hopen⟩ | ⟨hbatch, hstore⟩
  · -- During a batch the store is open and stays open.
    obtain ⟨o, ho⟩ := Option.isSome_iff_exists.1 hopen
    have hread : Step.attempt (request (RecordStore.read n)) (handle, disk) = _ :=
      attempt_request (hs.serves.attempt_read ho hs.browsable n)
    simp only [StoreHandle.readSingle, StoreHandle.during, Step.bind_apply, acquire_of_open hopen,
      hread, closeUnlessBatch_of_inBatch hbatch]
  · -- Otherwise it is opened, and closed again without having been written.
    have hclosed : handle.store.open? = none := by rw [hstore]
    obtain ⟨hacquire, hhas⟩ := hs.acquire hclosed
    have hread : Step.attempt (request (RecordStore.read n)) (({ handle with
        store := ⟨h.slotSize, some (SlotFile.fresh place h)⟩ } : StoreHandle SlotFile), disk) = _ :=
      attempt_request (hhas.serves.attempt_read rfl hhas.browsable n)
    obtain ⟨disk', hclose, _, hsame⟩ := hhas.closeUnlessBatch_of_not_inBatch hbatch
    obtain rfl := hsame (by rintro _ ⟨⟩; rfl)
    have hback : { handle with store := ({ slotSize := h.slotSize } : SlotFile) } = handle := by
      rw [← hstore]
    simp only [StoreHandle.readSingle, StoreHandle.during, Step.bind_apply, hacquire, hread,
      hclose, hback]

/-- Reading a slot of a file changes nothing. -/
theorem after_read (n : Nat) (s : StoreHandle SlotFile × Disk) :
    (StoreHandle.read n).after s = s := by
  obtain ⟨handle, disk⟩ := s
  cases hopen : handle.isOpen disk with
  | false =>
    -- A closed store is not asked.
    have hclosed : StoreHandle.read n (handle, disk) =
        .error (.fault .storeClosed) (handle, disk) := by
      simp [StoreHandle.read, onlyOpen, hopen]
    exact Step.after_of_error hclosed
  | true =>
    have hrequest : StoreHandle.read n (handle, disk) =
        request (SlotFile.read n) (handle, disk) := by
      simp [StoreHandle.read, onlyOpen, hopen, RecordStore.read]
    have hsame := SlotFile.after_read n (handle.store, disk)
    rw [request_apply] at hrequest
    cases hread : SlotFile.read n (handle.store, disk) with
    | ok data? t =>
      rw [Step.after_of_ok hread] at hsame
      rw [hread, hsame] at hrequest
      exact Step.after_of_ok hrequest
    | error stop t =>
      rw [Step.after_of_error hread] at hsame
      rw [hread, hsame] at hrequest
      exact Step.after_of_error hrequest

/-- Reading the slots of a file changes nothing. -/
theorem readThrough_same (first left : Nat) (s : StoreHandle SlotFile × Disk) :
    readThrough first left s = s := by
  induction left generalizing first with
  | zero => rfl
  | succ left ih => rw [readThrough_succ, after_read, ih]

end StoreHandle

end Ballroom
