import Ballroom.Proofs.Store.RecordMap
import Ballroom.Proofs.Store.SlotFile

/-!
# A store file is a plain map

Whatever is asked of a store file, it answers what a plain map of records would answer.
`Simulates` ties the file to the map: it holds of a file that has just been made and is
kept by every call (`Simulates.answer`), so that it holds over all runs of calls.
-/

namespace Ballroom.SlotFile

/-- The answer of a request. -/
def answered {α : Type} (f : α → StoreAnswer)
    (result : EStateM.Result (Stop HostFault) (SlotFile × Disk) α) :
    Option StoreAnswer × (SlotFile × Disk) :=
  match result with
  | .ok a t => (some (f a), t)
  | .error (.fault _) t => (none, t)
  | .error (.panic _) t => (some .ended, t)

/-! ### The simulation -/

/-- A handle and a disk that do what a plain map does. -/
structure Simulates (path : String) (place : Place) (version slotSize : Nat) (m : RecordMap)
    (s : SlotFile × Disk) : Prop where
  serves : Serves path place ⟨version, slotSize, m.count⟩ m.slot s
  no_record : ∀ n, n = 0 ∨ m.count < n → m.record? n = none
  closed : m.handedOut? = none → s.1.open? = none ∧ s.1.slotSize = m.configured
  opened : ∀ numbers, m.handedOut? = some numbers → ∃ o, s.1.open? = some o ∧
    max o.allocated o.count = numbers.foldr max m.count

/-- The answer of the file is that of the map, the two are in step again, and a call that
fails has changed nothing. -/
structure Agrees (path : String) (place : Place) (version slotSize : Nat) (s : SlotFile × Disk)
    (ofFile : Option StoreAnswer × (SlotFile × Disk)) (ofMap : Option StoreAnswer × RecordMap) :
    Prop where
  same : ofFile.1 = ofMap.1
  simulates : Simulates path place version slotSize ofMap.2 ofFile.2
  unchanged : ofFile.1 = none → ofFile.2 = s

variable {path : String} {place : Place} {version slotSize : Nat} {m m' : RecordMap}
  {s t : SlotFile × Disk} {α : Type} {f : α → StoreAnswer}

/-- A call that succeeds is answered with its result. -/
theorem agrees_of_ok {result : EStateM.Result (Stop HostFault) (SlotFile × Disk) α} {a : α}
    (hresult : result = .ok a t) (hsim : Simulates path place version slotSize m' t) :
    Agrees path place version slotSize s (answered f result) (some (f a), m') := by
  subst hresult
  exact ⟨rfl, hsim, by simp [answered]⟩

/-- A call that fails is answered as refused, and nothing changes. -/
theorem agrees_of_fault {result : EStateM.Result (Stop HostFault) (SlotFile × Disk) α}
    {cause : HostFault} (hresult : result = .error (.fault cause) s)
    (hsim : Simulates path place version slotSize m s) :
    Agrees path place version slotSize s (answered f result) (none, m) := by
  subst hresult
  exact ⟨rfl, hsim, fun _ => rfl⟩

/-- A call that ends the program is answered as such. -/
theorem agrees_of_panic {result : EStateM.Result (Stop HostFault) (SlotFile × Disk) α}
    {why : Panic} (hresult : result = .error (.panic why) s)
    (hsim : Simulates path place version slotSize m s) :
    Agrees path place version slotSize s (answered f result) (some .ended, m) := by
  subst hresult
  exact ⟨rfl, hsim, fun hnone => absurd hnone (by simp [answered])⟩

/-- A file that is open, with other notes on batches and numbers. -/
theorem Simulates.setOpened (hsim : Simulates path place version slotSize m s) {o' : OpenSlots}
    {numbers : List Nat} {disk : Disk}
    (hserves : Serves path place ⟨version, slotSize, m.count⟩ m.slot
      ({ s.1 with open? := some o' }, disk))
    (hallocated : max o'.allocated o'.count = numbers.foldr max m.count) :
    Simulates path place version slotSize { m with handedOut? := some numbers }
      ({ s.1 with open? := some o' }, disk) where
  serves := hserves
  no_record := hsim.no_record
  closed := by simp
  opened := by
    intro numbers' hnumbers
    obtain rfl := Option.some.inj hnumbers
    exact ⟨o', rfl, hallocated⟩

/-! ### Files that have been made -/

/-- A store file has been made: a handle that would make slots of `slotSize` bytes has
opened a path where no file or an empty one was. -/
structure Made (path : String) (version slotSize : Nat) (disk : Disk) (s : SlotFile × Disk) :
    Prop where
  version_le : version ≤ Number.maxUInt32
  slotSize_pos : 1 ≤ slotSize
  slotSize_le : slotSize ≤ 65536
  opened : SlotFile.openAt path version ({ slotSize := slotSize }, disk) = .ok () s
  empty : ∀ o, s.1.open? = some o → (disk.content o.place).size = 0

/-- A file that has been made has no records. -/
theorem Made.simulates {disk : Disk} (hmade : Made path version slotSize disk s) :
    ∃ place, Simulates path place version slotSize .created s := by
  have hwide : slotSize ≤ Number.maxUInt64 := hmade.slotSize_le.trans (by decide)
  obtain ⟨place, h, slots, _, hserves, hopen, hnew⟩ :=
    serves_of_openAt (f := { slotSize := slotSize }) rfl hmade.version_le hmade.slotSize_pos hwide
      hmade.opened
  have hempty := hmade.empty (fresh place h) (by rw [hopen])
  -- The place was empty, so that the header is a new one.
  obtain ⟨rfl, rfl⟩ := hnew hempty
  refine ⟨place, hserves, fun _ _ => rfl, by simp [RecordMap.created], ?_⟩
  intro numbers hnumbers
  obtain rfl := Option.some.inj hnumbers
  exact ⟨fresh place ⟨version, slotSize, 0⟩, by rw [hopen], rfl⟩

/-- A store file can be made in the working directory of an empty disk. -/
theorem made_db (hpos : 1 ≤ slotSize) (hsize : slotSize ≤ 65536) :
    ∃ s, Made "db" 1 slotSize .empty s := by
  have hroute : Disk.route "db" = .ok (Disk.workingDirectory, ["db"]) := by decide +kernel
  have hparent : Path.parent? "db" = some "" := by decide +kernel
  -- The working directory is there already.
  have hparents : Disk.empty.makeParents "db" = (.ok (), .empty) := by
    rw [Disk.makeParents, hparent]
    rfl
  have hfile : Disk.empty.openFile "db" = (.ok ["home", "library", "db"],
      Disk.empty.put ["home", "library", "db"] (.file .empty)) := by
    have hname : Text.size "db" = 2 := by decide +kernel
    simp [Disk.openFile, hroute, Disk.follow, Disk.enter, Disk.entryAt_empty, Disk.workingDirectory,
      hname, Disk.maxNameSize]
  have hempty : (Disk.empty.content ["home", "library", "db"]).size = 0 := by
    simp [Disk.content, Disk.entryAt_empty, Disk.workingDirectory, Content.size, Content.empty]
  have hopen : SlotFile.openAt "db" 1 ({ slotSize := slotSize }, .empty) = _ :=
    openAt_of_empty rfl hparents hfile (by rw [Disk.content_put_file, if_pos rfl]; rfl)
  refine ⟨_, by decide, hpos, hsize, hopen, ?_⟩
  rintro _ ⟨⟩
  exact hempty

section Calls

variable [Allocator]

/-! ### Calls on a store file -/

/-- The answer to a call, or none if the call fails, and the handle and the disk afterwards. -/
def answer (path : String) (version : Nat) (s : SlotFile × Disk) :
    StoreCall → Option StoreAnswer × (SlotFile × Disk)
  | .read n => answered .record (SlotFile.read n s)
  | .write n data => answered (fun _ => .done) (SlotFile.write n data s)
  | .clear n => answered (fun _ => .done) (SlotFile.clear n s)
  | .count => answered .number (SlotFile.count s)
  | .nextFree => answered .number (SlotFile.nextFree s)
  | .startBatch => answered (fun _ => .done) (SlotFile.startBatch s)
  | .endBatch => answered (fun _ => .done) (SlotFile.endBatch s)
  | .close => answered (fun _ => .done) (SlotFile.close s)
  | .reopen => answered (fun _ => .done) (SlotFile.openAt path version s)
  | .handOver slotSize => match s.1.open? with
    -- A file is used through one handle at a time.
    | some _ => (none, s)
    | none => (some .done, ({ slotSize := slotSize }, s.2))

/-! ### One call -/

/-- Reading is answered alike. -/
theorem Simulates.read (hsim : Simulates path place version slotSize m s)
    (hsize : slotSize ≤ 65536) (n : Nat) :
    Agrees path place version slotSize s (answer path version s (.read n))
      (m.answer slotSize (.read n)) := by
  simp only [answer, RecordMap.answer, RecordMap.whileOpen]
  cases hopen : m.handedOut? with
  | none => exact agrees_of_fault (read_of_closed (hsim.closed hopen).1 n) hsim
  | some numbers =>
    obtain ⟨o, ho, _⟩ := hsim.opened numbers hopen
    have hread := hsim.serves.read ho (n := n)
      fun _ hle => inReach_of_le hsize (hle.trans hsim.serves.fits.count_le)
    -- Beyond the records the map has nothing, as the file says by its count.
    have hslot : n = 0 ∨ m.count < n → m.slot n = [] := by
      intro hn
      rw [RecordMap.slot, hsim.no_record n hn]
      rfl
    have hif : (n = 0 ∨ m.count < n ∨ m.slot n = []) ↔ m.slot n = [] := by tauto
    simp only [hif] at hread
    exact agrees_of_ok hread hsim

/-- A closed handle writes nothing, and ends the program where it has no slot to write. -/
private theorem Simulates.write_of_closed (hsim : Simulates path place version slotSize m s)
    (hopen : m.handedOut? = none) (n : Nat) (data : Bytes) :
    Agrees path place version slotSize s (answer path version s (.write n data))
      (m.answer slotSize (.write n data)) := by
  obtain ⟨hclosed, hconfigured⟩ := hsim.closed hopen
  simp only [answer, RecordMap.answer, RecordMap.whileOpen, hopen, true_and]
  by_cases hbad : n = 0 ∨ s.1.slotSize < data.length
  · obtain ⟨cause, hwrite⟩ : ∃ cause, SlotFile.write n data s = .error (.fault cause) s :=
      write_of_bad hbad
    have hnot : ¬RecordMap.Overruns m.configured n data := by
      rw [← hconfigured]
      exact fun hoverruns => hbad.elim hoverruns.1 (Nat.not_lt_of_le hoverruns.2.1)
    rw [if_neg hnot]
    exact agrees_of_fault hwrite hsim
  rw [not_or] at hbad
  have hlength := Nat.le_of_not_lt hbad.2
  have hwrite : ∀ {stop : Stop HostFault}, writeSlot n data (s.1, s.2) = .error stop s →
      SlotFile.write n data s = .error stop s := write_of_writeSlot_error hbad.1 hlength
  -- The places of slots are counted alike by the file and by the map.
  have hoffset : offset s.1.slotSize n = 128 + (n - 1) * m.configured := by
    rw [hconfigured]
    rfl
  rw [writeSlot_of_closed hclosed] at hwrite
  split at hwrite
  · -- The buffer of the slot is made before the store finds out that it is closed.
    rename_i hmemory
    rw [if_pos ⟨hbad.1, hconfigured ▸ hlength, .inl (hconfigured ▸ hmemory)⟩]
    exact agrees_of_panic (hwrite rfl) hsim
  split at hwrite
  · rename_i hbeyond
    rw [hoffset] at hbeyond
    rw [if_pos ⟨hbad.1, hconfigured ▸ hlength, .inr hbeyond⟩]
    exact agrees_of_panic (hwrite rfl) hsim
  · rename_i hmemory hbeyond
    have hnot : ¬RecordMap.Overruns m.configured n data := by
      rw [RecordMap.Overruns, ← hoffset, ← hconfigured]
      exact fun hoverruns => hoverruns.2.2.elim hmemory hbeyond
    rw [if_neg hnot]
    exact agrees_of_fault (hwrite rfl) hsim

/-- Writing is answered alike. -/
theorem Simulates.write (hsim : Simulates path place version slotSize m s)
    (hsize : slotSize ≤ 65536) {n : Nat} (hn : n < Number.maxUInt32) (data : Bytes) :
    Agrees path place version slotSize s (answer path version s (.write n data))
      (m.answer slotSize (.write n data)) := by
  cases hopen : m.handedOut? with
  | none => exact hsim.write_of_closed hopen n data
  | some numbers =>
    obtain ⟨o, ho, hallocated⟩ := hsim.opened numbers hopen
    obtain ⟨_, _, hcount, hslots, _⟩ := hsim.serves.opened o ho
    simp only [answer, RecordMap.answer, RecordMap.whileOpen, hopen, reduceCtorEq, false_and,
      if_false]
    split
    · rename_i hbad
      -- What has no number or no room is refused by both.
      obtain ⟨cause, hrefused⟩ : ∃ cause, SlotFile.write n data s = .error (.fault cause) s :=
        write_of_bad (by rwa [hslots])
      exact agrees_of_fault hrefused hsim
    · rename_i hgood
      rw [not_or] at hgood
      obtain ⟨f', disk', o', hwrite, hserves, ho', hallocated', hcount'⟩ :=
        hsim.serves.write ho hgood.1 (Nat.le_of_not_lt hgood.2)
          (inReach_of_le hsize (Nat.le_of_lt hn)) (Nat.le_of_lt hn)
      -- A number behind the new count is behind the old one too, so that it has no record.
      refine agrees_of_ok hwrite ⟨?_, ?_, ?_, ?_⟩
      · rw [RecordMap.slot_put]
        exact hserves
      · intro k hk
        simp only [RecordMap.put] at hk ⊢
        rw [Function.update_of_ne (by omega)]
        exact hsim.no_record k (by omega)
      · exact fun hnone => absurd (hopen.symm.trans hnone) (by simp)
      · intro numbers' hnumbers
        obtain rfl := Option.some.inj (hopen.symm.trans hnumbers)
        refine ⟨o', ho', ?_⟩
        simp only [RecordMap.put, List.foldr_assoc, ← hallocated, hallocated', hcount']
        omega

/-- Clearing is answered alike. -/
theorem Simulates.clear (hsim : Simulates path place version slotSize m s)
    (hsize : slotSize ≤ 65536) (n : Nat) :
    Agrees path place version slotSize s (answer path version s (.clear n))
      (m.answer slotSize (.clear n)) := by
  simp only [answer, RecordMap.answer, RecordMap.whileOpen]
  cases hopen : m.handedOut? with
  | none => exact agrees_of_fault (clear_of_closed (hsim.closed hopen).1 n) hsim
  | some numbers =>
    obtain ⟨o, ho, hallocated⟩ := hsim.opened numbers hopen
    obtain ⟨_, _, hcount, _⟩ := hsim.serves.opened o ho
    -- A number without a record has none to take away.
    have hnone : ∀ k, k = 0 ∨ m.count < k → (m.remove n).record? k = none := by
      intro k hk
      by_cases hkn : k = n
      · simp [RecordMap.remove, hkn]
      · simp [RecordMap.remove, hkn, hsim.no_record k hk]
    have hopened : ∀ disk, Serves path place ⟨version, slotSize, m.count⟩ (m.remove n).slot
        (s.1, disk) → Simulates path place version slotSize (m.remove n) (s.1, disk) := by
      intro disk hserves
      exact ⟨hserves, hnone, hsim.closed, fun numbers' hnumbers' => hsim.opened numbers' hnumbers'⟩
    by_cases hn : n = 0 ∨ m.count < n
    · -- There is nothing to clear, in the file as in the map.
      have hbeyond : n = 0 ∨ o.count < n := by rwa [hcount]
      refine agrees_of_ok (t := s) (clear_of_no_record ho hbeyond) (hopened s.2 ?_)
      have hsame : m.slot n = [] := by
        rw [RecordMap.slot, hsim.no_record n hn]
        rfl
      rw [RecordMap.slot_remove, ← hsame, Function.update_eq_self]
      exact hsim.serves
    · rw [not_or] at hn
      have hle := Nat.le_of_not_lt hn.2
      obtain ⟨disk', hclear, hserves⟩ := hsim.serves.clear ho hn.1 hle
        (inReach_of_le hsize (hle.trans hsim.serves.fits.count_le))
      exact agrees_of_ok hclear (hopened disk' (by rw [RecordMap.slot_remove]; exact hserves))

/-- Counting is answered alike. -/
theorem Simulates.count (hsim : Simulates path place version slotSize m s) :
    Agrees path place version slotSize s (answer path version s .count)
      (m.answer slotSize .count) := by
  simp only [answer, RecordMap.answer, RecordMap.whileOpen]
  cases hopen : m.handedOut? with
  | none => exact agrees_of_fault (count_of_closed (hsim.closed hopen).1) hsim
  | some numbers =>
    obtain ⟨o, ho, _⟩ := hsim.opened numbers hopen
    obtain ⟨_, _, hcount, _⟩ := hsim.serves.opened o ho
    have hresult : SlotFile.count s = _ := count_apply ho
    rw [hcount] at hresult
    exact agrees_of_ok hresult hsim

/-- The next number is answered alike. -/
theorem Simulates.nextFree (hsim : Simulates path place version slotSize m s) :
    Agrees path place version slotSize s (answer path version s .nextFree)
      (m.answer slotSize .nextFree) := by
  simp only [answer, RecordMap.answer, RecordMap.whileOpen]
  cases hopen : m.handedOut? with
  | none => exact agrees_of_fault (nextFree_of_closed (hsim.closed hopen).1) hsim
  | some numbers =>
    obtain ⟨o, ho, hallocated⟩ := hsim.opened numbers hopen
    have hresult : SlotFile.nextFree s = _ := nextFree_apply ho
    rw [hallocated] at hresult
    dsimp only
    split
    · -- Both end with the last number.
      rename_i hlarge
      rw [if_pos hlarge] at hresult
      exact agrees_of_panic hresult hsim
    · rename_i hsmall
      rw [if_neg hsmall] at hresult
      -- The number is now the greatest of those that were handed out.
      refine agrees_of_ok hresult (hsim.setOpened ?_ ?_)
      · exact hsim.serves.setOpened_of_eq ho _ rfl rfl rfl rfl
      · rw [List.foldr_cons, ← hallocated]
        dsimp only
        omega

/-- Starting a batch is answered alike: the map does not tell batches apart. -/
theorem Simulates.startBatch (hsim : Simulates path place version slotSize m s) :
    Agrees path place version slotSize s (answer path version s .startBatch)
      (m.answer slotSize .startBatch) := by
  simp only [answer, RecordMap.answer, RecordMap.whileOpen]
  cases hopen : m.handedOut? with
  | none => exact agrees_of_fault (startBatch_of_closed (hsim.closed hopen).1) hsim
  | some numbers =>
    obtain ⟨o, ho, hallocated⟩ := hsim.opened numbers hopen
    have hserves := hsim.serves.setOpened_of_eq ho { o with inBatch := true } rfl rfl rfl rfl
    have hbatch := hsim.setOpened hserves hallocated
    rw [show { m with handedOut? := some numbers } = m by rw [← hopen]] at hbatch
    exact agrees_of_ok (startBatch_apply ho) hbatch

/-- Ending a batch is answered alike: the header is written, and nothing else. -/
theorem Simulates.endBatch (hsim : Simulates path place version slotSize m s) :
    Agrees path place version slotSize s (answer path version s .endBatch)
      (m.answer slotSize .endBatch) := by
  simp only [answer, RecordMap.answer, RecordMap.whileOpen]
  cases hopen : m.handedOut? with
  | none => exact agrees_of_fault (endBatch_of_closed (hsim.closed hopen).1) hsim
  | some numbers =>
    obtain ⟨o, ho, hallocated⟩ := hsim.opened numbers hopen
    obtain ⟨disk', hend, hserves⟩ := hsim.serves.endBatch ho
    have hbatch := hsim.setOpened hserves hallocated
    rw [show { m with handedOut? := some numbers } = m by rw [← hopen]] at hbatch
    exact agrees_of_ok hend hbatch

/-- Closing is answered alike. -/
theorem Simulates.close (hsim : Simulates path place version slotSize m s) :
    Agrees path place version slotSize s (answer path version s .close)
      (m.answer slotSize .close) := by
  obtain ⟨disk', hclose, hserves, hsame⟩ := hsim.serves.close
  simp only [answer, RecordMap.answer]
  cases hopen : m.handedOut? with
  | none =>
    -- There is nothing to close.
    obtain ⟨hclosed, hconfigured⟩ := hsim.closed hopen
    refine agrees_of_ok hclose ⟨hserves, hsim.no_record, fun _ => ⟨rfl, hconfigured⟩, ?_⟩
    exact fun numbers hnumbers => absurd (hopen.symm.trans hnumbers) (by simp)
  | some numbers =>
    obtain ⟨o, ho, _⟩ := hsim.opened numbers hopen
    obtain ⟨_, _, _, hslots, _⟩ := hsim.serves.opened o ho
    exact agrees_of_ok hclose ⟨hserves, hsim.no_record, fun _ => ⟨rfl, hslots⟩, by simp⟩

/-- Opening the file again is answered alike. -/
theorem Simulates.reopen (hsim : Simulates path place version slotSize m s) :
    Agrees path place version slotSize s (answer path version s .reopen)
      (m.answer slotSize .reopen) := by
  obtain ⟨disk', hopen, hserves, _⟩ := hsim.serves.openAt
  refine agrees_of_ok hopen ⟨hserves, hsim.no_record, by simp, ?_⟩
  intro numbers hnumbers
  obtain rfl := Option.some.inj hnumbers
  exact ⟨_, rfl, Nat.max_self _⟩

/-- A new handle finds what the last one has left. -/
theorem Simulates.handOver (hsim : Simulates path place version slotSize m s) (configured : Nat) :
    Agrees path place version slotSize s (answer path version s (.handOver configured))
      (m.answer slotSize (.handOver configured)) := by
  simp only [answer, RecordMap.answer]
  cases hopen : m.handedOut? with
  | none =>
    have hclosed := (hsim.closed hopen).1
    rw [hclosed]
    exact ⟨rfl, ⟨hsim.serves.handOver hclosed configured, hsim.no_record,
      fun _ => ⟨rfl, rfl⟩, by simp⟩, by simp⟩
  | some numbers =>
    obtain ⟨o, ho, _⟩ := hsim.opened numbers hopen
    -- An open file is not handed over.
    rw [ho]
    exact ⟨rfl, hsim, fun _ => rfl⟩

/-- A file and a map that are in step answer every call alike and stay in step. -/
theorem Simulates.answer (hsim : Simulates path place version slotSize m s)
    (hsize : slotSize ≤ 65536) {call : StoreCall} (hcall : call.NumberBelow Number.maxUInt32) :
    Agrees path place version slotSize s (SlotFile.answer path version s call)
      (m.answer slotSize call) := by
  cases call with
  | read n => exact hsim.read hsize n
  | write n data => exact hsim.write hsize hcall data
  | clear n => exact hsim.clear hsize n
  | count => exact hsim.count
  | nextFree => exact hsim.nextFree
  | startBatch => exact hsim.startBatch
  | endBatch => exact hsim.endBatch
  | close => exact hsim.close
  | reopen => exact hsim.reopen
  | handOver configured => exact hsim.handOver configured

/-! ### Runs of calls -/

/-- A file and a map that are in step stay so over all calls, and answer alike. -/
theorem Simulates.answers (hsim : Simulates path place version slotSize m s)
    (hsize : slotSize ≤ 65536) {calls : List StoreCall}
    (hcalls : ∀ call ∈ calls, call.NumberBelow Number.maxUInt32) :
    (StoreCall.answers (SlotFile.answer path version) s calls).1 =
        (StoreCall.answers (RecordMap.answer slotSize) m calls).1 ∧
      Simulates path place version slotSize
        (StoreCall.answers (RecordMap.answer slotSize) m calls).2
        (StoreCall.answers (SlotFile.answer path version) s calls).2 := by
  -- On the calls, from any file and map that are in step.
  induction calls generalizing m s with
  | nil => exact ⟨rfl, hsim⟩
  | cons call rest ih =>
    have hagrees := hsim.answer hsize (hcalls call (by simp))
    obtain ⟨hlater, hlast⟩ := ih hagrees.simulates fun later hlater =>
      hcalls later (by simp [hlater])
    simp only [StoreCall.answers, hagrees.same]
    split
    · -- Both have ended with this call.
      exact ⟨rfl, hagrees.simulates⟩
    · exact ⟨by rw [hlater], hlast⟩

end Calls

end Ballroom.SlotFile
