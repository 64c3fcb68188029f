import Ballroom.Proofs.Library.Reachable
import Ballroom.Proofs.Store.InStep

/-!
# When a library holds its store open

A library opens its store for each request and closes it again, except during a batch.  Of
a store that can always be closed this is so for every request and whatever else fails,
apart from three calls that are not followed by closing the store if they fail: the one for
a new number, the start of a batch and the end of one (`Request.Strands`).
-/

namespace Ballroom

namespace Library

open StoreHandle (AlwaysCloses InStep Keeps Shut Succeeds Held FailsOnceOpen FailsToEnd Moving
  moving_pure moving_get_bind moving_onlyOpen)

variable {σ ω : Type} [RecordStore σ ω] {audio : AudioCheck ω} {tables : Tables}
  {others : ω → ω → Prop} {lib : Library σ} {w : ω} {keeps : σ × ω → Prop}

/-! ### Loading -/

/-- Reading a slot neither starts nor ends a batch. -/
theorem moving_readSlot (tables : Tables) (number : Nat) :
    Moving (readSlot tables number : HandleStep σ ω (Option Song)) := by
  apply (moving_onlyOpen (.read number)).attempt.bind
  intro result
  split
  · exact moving_pure _
  · exact moving_pure _

/-- Looking at the slots of a store neither starts nor ends a batch. -/
theorem moving_scan (audio : AudioCheck ω) (tables : Tables) (seen : Std.HashMap String Nat)
    (left number : Nat) :
    Moving (scan audio tables seen left number : HandleStep σ ω (List Song)) := by
  -- On the slots that are left, whatever was found in those before.
  induction left generalizing seen number with
  | zero => exact moving_pure []
  | succ left ih =>
    apply (moving_readSlot tables number).bind
    intro song?
    apply moving_get_bind
    intro s
    cases song? with
    | none => exact ih seen (number + 1)
    | some song =>
      dsimp only
      split
      · exact (ih _ (number + 1)).bind fun rest => moving_pure _
      · exact ih seen (number + 1)

/-- A store that cannot be counted is closed, unless the program has ended. -/
theorem countOrClose_cases (law : Gated σ) (hcloses : AlwaysCloses keeps)
    {s : StoreHandle σ × ω} (hkeeps : Keeps keeps s) (hbatch : s.1.inBatch = false) :
    (∃ n t, countOrClose s = .ok n t ∧ Keeps keeps t ∧ t.1.inBatch = false) ∨
      (∃ cause t, countOrClose s = .error (.fault cause) t ∧ Shut t) ∨
      countOrClose.Panics s := by
  have hmoving : Moving (StoreHandle.count : HandleStep σ ω Nat) := moving_onlyOpen .count
  have hkept := (hmoving.moves s).kept hcloses hkeeps
  obtain ⟨store, hstore⟩ := hmoving.keepsBatch s.1 s.2
  have hnone : (StoreHandle.count.after s).1.inBatch = false := by
    rw [hstore]
    exact hbatch
  unfold Step.Panics
  rw [countOrClose, Step.bind_apply]
  obtain ⟨n, _, hcount⟩ | ⟨cause, _, hcount⟩ | ⟨why, _, hcount⟩ :=
    Step.attempt_cases StoreHandle.count s
  · rw [hcount]
    exact .inl ⟨n, _, rfl, hkept, hnone⟩
  · -- The store is closed before the fault is reported.
    obtain ⟨t, hclose, hshut⟩ := StoreHandle.close_shuts law hcloses hkept hnone
    rw [hcount]
    refine .inr (.inl ⟨cause, t, ?_, hshut⟩)
    simp only [Step.bind_apply, Step.attempt_apply, hclose, Step.fail_apply]
  · rw [hcount]
    exact .inr (.inr ⟨why, _, rfl⟩)

/-- Loading leaves the store closed, whatever of it fails, unless the program has ended. -/
theorem shut_scanStore (law : Gated σ) (hcloses : AlwaysCloses keeps) (audio : AudioCheck ω)
    (tables : Tables) {s : StoreHandle σ × ω} (hkeeps : Keeps keeps s)
    (hbatch : s.1.inBatch = false) (hpanics : ¬(scanStore audio tables).Panics s) :
    Shut ((scanStore audio tables).after s) := by
  rw [scanStore] at hpanics ⊢
  rw [Step.after_bind]
  obtain ⟨t, hacquire, hopened, hsame, _⟩ | ⟨stop, t, hacquire, _, hsame, hclosed⟩ :=
    StoreHandle.acquire_cases law s
  · rw [Step.panics_bind_of_ok hacquire] at hpanics
    rw [hacquire]
    dsimp only
    rw [Step.after_bind]
    obtain ⟨n, u, hcount, hkept, hnone⟩ | ⟨cause, u, hcount, hshut⟩ | ⟨why, u, hcount⟩ :=
      countOrClose_cases law hcloses (hopened.kept hcloses hkeeps) (hsame.trans hbatch)
    · rw [Step.panics_bind_of_ok hcount] at hpanics
      rw [hcount]
      dsimp only
      rw [Step.after_bind]
      have hmoving := moving_scan (σ := σ) audio tables {} n 1
      have hlast := (hmoving.moves u).kept hcloses hkept
      obtain ⟨store, hstore⟩ := hmoving.keepsBatch u.1 u.2
      -- A scan has no faults of its own: it ends, or the program does.
      obtain ⟨songs, v, hscan, _⟩ | ⟨why, v, hscan⟩ := scan_cases audio tables {} n 1 u
      · rw [Step.after_of_ok hscan] at hstore hlast
        obtain ⟨x, hclose, hshut⟩ :=
          StoreHandle.close_shuts law hcloses hlast (by rw [hstore]; exact hnone)
        rw [hscan]
        dsimp only
        rw [Step.after_bind_of_same _ fun _ _ => rfl, Step.after_of_ok hclose]
        exact hshut
      · rw [Step.panics_bind_of_error hscan] at hpanics
        exact absurd ⟨why, rfl⟩ hpanics
    · rw [hcount]
      exact hshut
    · rw [Step.panics_bind_of_error hcount] at hpanics
      exact absurd ⟨why, rfl⟩ hpanics
  · rw [hacquire]
    -- A store that could not be opened is closed.
    exact ⟨hclosed, hsame.trans hbatch⟩

/-! ### Requests -/

/-- The store handle of a library, and the world. -/
abbrev handleOf (s : Library σ × ω) : StoreHandle σ × ω := (s.1.handle, s.2)

/-- A request that goes to its end leaves the store open outside of a batch, or closed within
one: the store has failed in a call that is not followed by closing it, or the request does
not get to the store, which was left so before. -/
def Request.Slips : Request → Library σ × ω → Prop
  | .write song _, s =>
    if song.temporary then ¬InStep (handleOf s)
    else s.1.recordOf? song = none ∧
      FailsOnceOpen (RecordStore.nextFree : HostStep σ ω Nat) (handleOf s)
  | .load index, s => s.1.target? index = none ∧ ¬InStep (handleOf s)
  | .addTemporary _, s => ¬InStep (handleOf s)
  | .removeTemporary _, s => ¬InStep (handleOf s)
  | .startBatch, s => FailsOnceOpen (RecordStore.startBatch : HostStep σ ω Unit) (handleOf s)
  | .endBatch, s => FailsToEnd (handleOf s)
  | .close, s => FailsToEnd (handleOf s)

/-- A request that leaves the store open outside of a batch, or closed within one.  One that
ends the program leaves the store to nobody, and is taken to leave it as it was. -/
def Request.Strands (request : Request) (s : Library σ × ω) : Prop :=
  request.Panics s ∧ ¬InStep (handleOf s) ∨ ¬request.Panics s ∧ request.Slips s

/-- What a request asks of the store. -/
def Request.asked : Request → Library σ → HandleStep σ ω Unit
  | .write song now, lib =>
    if song.temporary then pure ()
    else match lib.recordOf? song with
      | some (number, song) => StoreHandle.write number
        (Text.bytes (Record.encode lib.tables ⟨number, false, now⟩ song))
      | none => do
        let number ← StoreHandle.allocate
        StoreHandle.write number (Text.bytes (Record.encode lib.tables ⟨number, true, now⟩ song))
  | .load index, lib =>
    match lib.target? index with
    | some (_, _, number) => discard (StoreHandle.readSingle number)
    | none => pure ()
  | .addTemporary _, _ => pure ()
  | .removeTemporary _, _ => pure ()
  | .startBatch, _ => StoreHandle.startBatch
  | .endBatch, _ => StoreHandle.endBatch
  | .close, _ => StoreHandle.close

omit [RecordStore σ ω] in
/-- A step of the handle does to the handle what it does, in the library too. -/
theorem handleOf_after_onHandle {α : Type} (step : HandleStep σ ω α) (s : Library σ × ω) :
    handleOf ((onHandle step).after s) = step.after (handleOf s) ∧
      (step.Panics (handleOf s) → (onHandle step).Panics s) := by
  obtain ⟨lib, w⟩ := s
  unfold Step.after Step.outcome Step.Panics onHandle
  rw [Step.focus_apply]
  rcases step (lib.handle, w) with ⟨a, t⟩ | ⟨cause | why, t⟩
  · exact ⟨rfl, by simp⟩
  · exact ⟨rfl, by simp⟩
  · exact ⟨rfl, fun _ => ⟨why, _, rfl⟩⟩

/-- Putting a record uses the store for one write. -/
theorem handleOf_after_putRecord (stamp : Record.Stamp) (song : Song) (lib : Library σ) (w : ω) :
    let write := StoreHandle.write stamp.number (Text.bytes (Record.encode lib.tables stamp song))
    handleOf ((putRecord stamp).after (song, lib, w)).2 = write.after (lib.handle, w) ∧
      (write.Panics (lib.handle, w) → (putRecord stamp).Panics (song, lib, w)) := by
  unfold Step.after Step.outcome Step.Panics putRecord
  dsimp only
  cases StoreHandle.write stamp.number (Text.bytes (Record.encode lib.tables stamp song))
      (lib.handle, w) with
  | error stop t => exact ⟨rfl, fun ⟨why, u, hpanics⟩ => ⟨why, _, by rw [hpanics]⟩⟩
  | ok a t => exact ⟨congrArg (·, t.2) (handle_settle stamp song (lib.withHandle t.1)), by simp⟩

/-- The store is used for writing a song, and before that for a number if one is needed. -/
theorem handleOf_after_writeSong (now : Instant) (song : Song) (lib : Library σ) (w : ω) :
    let asked := (Request.write song now).asked lib
    handleOf ((writeSong now).after (song, lib, w)).2 = asked.after (lib.handle, w) ∧
      (asked.Panics (lib.handle, w) → (writeSong now).Panics (song, lib, w)) := by
  have happly := writeSong_apply now song lib w
  dsimp only [Request.asked]
  cases htemporary : song.temporary with
  | true =>
    rw [htemporary, if_pos rfl] at happly
    -- A temporary song is not written, and the store is not asked.
    rw [if_pos rfl, Step.after_of_ok happly]
    exact ⟨rfl, fun ⟨why, t, hpanics⟩ => nomatch hpanics⟩
  | false =>
    rw [htemporary, if_neg (by decide)] at happly
    rw [if_neg (by decide)]
    cases hrecord : lib.recordOf? song with
    | some found =>
      rw [hrecord] at happly
      dsimp only at happly
      -- The number is known, and the store is only asked to write.
      obtain ⟨hafter, hpanics⟩ := handleOf_after_putRecord ⟨found.1, false, now⟩ found.2 lib w
      rw [Step.after_congr happly]
      exact ⟨hafter, fun h => (Step.panics_congr happly).2 (hpanics h)⟩
    | none =>
      rw [hrecord] at happly
      dsimp only at happly ⊢
      rw [Step.after_bind]
      -- The store is asked for a number first, and if it has none, for nothing else.
      cases hallocate : StoreHandle.allocate (lib.handle, w) with
      | error stop t =>
        rw [hallocate] at happly
        rw [Step.after_of_error happly, Step.panics_bind_of_error hallocate]
        exact ⟨rfl, fun ⟨why, hstop⟩ => ⟨why, _, hstop ▸ happly⟩⟩
      | ok number t =>
        rw [hallocate] at happly
        dsimp only at happly
        obtain ⟨hafter, hpanics⟩ :=
          handleOf_after_putRecord ⟨number, true, now⟩ song (lib.withHandle t.1) t.2
        rw [Step.after_congr happly, Step.panics_bind_of_ok hallocate]
        exact ⟨hafter, fun h => (Step.panics_congr happly).2 (hpanics h)⟩

/-- Loading an entry uses the store for one read, if the index leads to a record. -/
theorem handleOf_after_loadEntry (index : Int) (lib : Library σ) (w : ω) :
    let asked := (Request.load index).asked lib
    handleOf ((loadEntry index).after (lib, w)) = asked.after (lib.handle, w) ∧
      (asked.Panics (lib.handle, w) → (loadEntry index).Panics (lib, w)) := by
  have hload := loadEntry_apply index lib w
  dsimp only [Request.asked]
  cases htarget : lib.target? index with
  | none =>
    rw [htarget] at hload
    rw [Step.after_of_ok hload]
    exact ⟨rfl, fun ⟨why, t, hpanics⟩ => nomatch hpanics⟩
  | some target =>
    obtain ⟨i, old, number⟩ := target
    rw [htarget] at hload
    dsimp only at hload ⊢
    rw [Step.after_discard, Step.panics_discard]
    unfold Step.Panics
    cases hread : StoreHandle.readSingle number (lib.handle, w) with
    | error stop t =>
      rw [hread] at hload
      -- A read that ends the program ends the loading with it.
      rw [Step.after_of_error hload, Step.after_of_error hread]
      exact ⟨rfl, fun ⟨why, u, hpanics⟩ => ⟨why, _, hload.trans (by rw [hpanics])⟩⟩
    | ok data? t =>
      rw [hread] at hload
      rw [Step.after_of_ok hread]
      refine ⟨?_, by simp⟩
      cases data? with
      | none =>
        rw [Step.after_of_ok hload]
        rfl
      -- Whatever was read, only the songs of the library can change by it.
      | some data =>
        dsimp only at hload
        cases hdecode : Record.decode lib.tables data with
        | error fault =>
          rw [hdecode] at hload
          rw [Step.after_of_error hload]
          rfl
        | ok song =>
          rw [hdecode] at hload
          dsimp only at hload
          split at hload
          · rw [Step.after_of_ok hload]
            rfl
          · rw [Step.after_of_ok hload]
            exact congrArg (·, t.2) (handle_replace (lib.withHandle t.1) _ _)

/-- Closing a library closes its store. -/
theorem handleOf_after_close (s : Library σ × ω) :
    handleOf (Library.close.after s) = StoreHandle.close.after (handleOf s) ∧
      (StoreHandle.close.Panics (handleOf s) → Library.close.Panics s) := by
  obtain ⟨hafter, hpanics⟩ := handleOf_after_onHandle StoreHandle.close s
  unfold Step.Panics at hpanics ⊢
  rw [← hafter, Library.close, Step.after_bind, Step.bind_apply]
  cases hclose : onHandle StoreHandle.close s with
  | error stop t =>
    rw [hclose] at hpanics
    rw [Step.after_of_error hclose]
    exact ⟨rfl, hpanics⟩
  | ok a t =>
    -- The songs are dropped, and the handle stays.
    rw [hclose] at hpanics
    rw [Step.after_of_ok hclose]
    exact ⟨rfl, fun h => nomatch hpanics h⟩

/-- A request leaves of the store what it asks for leaves, and ends the program if that does. -/
theorem Request.handleOf_leave (request : Request) (s : Library σ × ω) :
    handleOf (request.leave s) = (request.asked s.1).after (handleOf s) ∧
      ((request.asked s.1).Panics (handleOf s) → request.Panics s) := by
  cases request with
  | write song now => exact handleOf_after_writeSong now song s.1 s.2
  | load index => exact handleOf_after_loadEntry index s.1 s.2
  | addTemporary song => exact ⟨rfl, fun ⟨why, t, hpanics⟩ => nomatch hpanics⟩
  | removeTemporary index => exact ⟨rfl, fun ⟨why, t, hpanics⟩ => nomatch hpanics⟩
  | startBatch => exact handleOf_after_onHandle StoreHandle.startBatch s
  | endBatch => exact handleOf_after_onHandle StoreHandle.endBatch s
  | close => exact handleOf_after_close s

/-- What a request asks of the store is a sequence of moves. -/
theorem Request.moves_asked (law : Gated σ) (request : Request) (lib : Library σ)
    (s : StoreHandle σ × ω) : StoreHandle.Moves s ((request.asked lib).after s) := by
  have hwrite : ∀ number data (t : StoreHandle σ × ω),
      StoreHandle.Moves t ((StoreHandle.write number data).after t) :=
    fun number data t => (StoreHandle.HandleCall.write number data).moves law t
  cases request with
  | write song now =>
    dsimp only [Request.asked]
    split
    · exact .refl
    split
    · exact hwrite _ _ _
    · -- A number is allocated first and its record written then.
      have hallocate := StoreHandle.moves_allocate law s
      rw [Step.after_bind]
      cases hresult : StoreHandle.allocate s with
      | error stop t => rwa [Step.after_of_error hresult] at hallocate
      | ok number t =>
        rw [Step.after_of_ok hresult] at hallocate
        exact hallocate.trans (hwrite _ _ _)
  | load index =>
    dsimp only [Request.asked]
    split
    · exact (StoreHandle.HandleCall.readSingle _).moves law s
    · exact .refl
  | addTemporary song => exact .refl
  | removeTemporary index => exact .refl
  | startBatch => exact StoreHandle.moves_startBatch law s
  | endBatch => exact StoreHandle.moves_close law s
  | close => exact StoreHandle.moves_close law s

/-- What a request does with the handle of a library is a sequence of moves. -/
theorem moves_perform (law : Gated σ) (request : Request) (s : Library σ × ω) :
    StoreHandle.Moves (handleOf s) (handleOf (request.perform s)) := by
  apply request.perform_keeps (P := fun t => StoreHandle.Moves (handleOf s) (handleOf t)) .refl
  rw [(request.handleOf_leave s).1]
  exact request.moves_asked law s.1 (handleOf s)

/-- A request that goes to its end leaves the store in step with the batch unless it slips. -/
theorem inStep_leave (law : Gated σ) (hcloses : AlwaysCloses keeps) (request : Request)
    {s : Library σ × ω} (hkeeps : Keeps keeps (handleOf s)) (hheld : Held (handleOf s))
    (hpanics : ¬request.Panics s) :
    InStep (handleOf (request.leave s)) ↔ ¬request.Slips s := by
  obtain ⟨hleave, hasked⟩ := request.handleOf_leave s
  have hdone : ¬(request.asked s.1).Panics (handleOf s) := fun h => hpanics (hasked h)
  rw [hleave]
  cases request with
  | write song now =>
    dsimp only [Request.asked, Request.Slips] at hdone ⊢
    cases htemporary : song.temporary with
    | true => exact not_not.symm
    | false =>
      rw [htemporary, if_neg (by decide)] at hdone
      rw [if_neg (by decide), if_neg (by decide)]
      cases hrecord : s.1.recordOf? song with
      | some found =>
        -- The song has a record, and nothing is needed but to write it.
        rw [hrecord] at hdone
        exact iff_of_true (StoreHandle.inStep_write law hcloses _ _ hkeeps hheld hdone)
          fun hslips => absurd hslips.1 (by simp)
      | none =>
        rw [hrecord] at hdone
        dsimp only at hdone ⊢
        rw [Step.after_bind]
        have hmoves := StoreHandle.moves_allocate law (handleOf s)
        cases hallocate : StoreHandle.allocate (handleOf s) with
        | error stop t =>
          exact (StoreHandle.inStep_allocate law hheld hallocate).trans
            (not_congr (and_iff_right rfl).symm)
        | ok n t =>
          rw [Step.panics_bind_of_ok hallocate] at hdone
          rw [Step.after_of_ok hallocate] at hmoves
          refine iff_of_true (StoreHandle.inStep_write law hcloses n _
            (hmoves.kept hcloses hkeeps) (hmoves.held law hheld) hdone) ?_
          -- A number was to be had.
          intro hslips
          obtain ⟨stop, u, hfailed⟩ := StoreHandle.allocate_of_failsOnceOpen hslips.2
          cases hallocate.symm.trans hfailed
  | load index =>
    dsimp only [Request.asked, Request.Slips] at hdone ⊢
    cases htarget : s.1.target? index with
    -- An index that leads to no song asks nothing of the store.
    | none => exact (not_not.symm).trans (not_congr (and_iff_right rfl).symm)
    | some target =>
      rw [htarget] at hdone
      dsimp only at hdone ⊢
      rw [Step.panics_discard] at hdone
      rw [Step.after_discard]
      exact iff_of_true (StoreHandle.inStep_readSingle law hcloses target.2.2 hkeeps hheld hdone)
        fun hslips => absurd hslips.1 (by simp)
  | addTemporary song => exact not_not.symm
  | removeTemporary index => exact not_not.symm
  | startBatch => exact StoreHandle.inStep_startBatch law hheld
  | endBatch => exact StoreHandle.inStep_close law hcloses hkeeps hheld
  | close => exact StoreHandle.inStep_close law hcloses hkeeps hheld

/-- A request leaves the store in step with the batch unless it strands the store. -/
theorem inStep_perform (law : Gated σ) (hcloses : AlwaysCloses keeps) (request : Request)
    {s : Library σ × ω} (hkeeps : Keeps keeps (handleOf s)) (hheld : Held (handleOf s)) :
    InStep (handleOf (request.perform s)) ↔ ¬request.Strands s := by
  unfold Request.Strands
  by_cases hpanics : request.Panics s
  · rw [Request.perform_of_panics hpanics]
    simp [hpanics]
  · rw [Request.perform_of_not_panics hpanics,
      inStep_leave law hcloses request hkeeps hheld hpanics]
    simp [hpanics]

/-! ### Reachable libraries -/

/-- A handle to load a library from: it is in no batch, and its store can be closed. -/
def Loadable (keeps : σ × ω → Prop) (handle : StoreHandle σ) (w : ω) : Prop :=
  handle.inBatch = false ∧ Keeps keeps (handle, w)

/-- Others neither open nor close a store, nor make it fail to be closed. -/
def Leaves (keeps : σ × ω → Prop) (others : ω → ω → Prop) : Prop :=
  ∀ w w', others w w' → ∀ store : σ,
    RecordStore.isOpen store w' = RecordStore.isOpen store w ∧
      (keeps (store, w) → keeps (store, w'))

/-- A library that was loaded has a store that can still be closed. -/
theorem keeps_load (law : Gated σ) (hcloses : AlwaysCloses keeps) {handle : StoreHandle σ}
    {w' : ω} (hstart : Loadable keeps handle w)
    (hload : load audio handle tables w = .ok lib w') : Keeps keeps (handleOf (lib, w')) := by
  obtain ⟨songs, opened, n, counted, scanned, closed, hopen, hcount, hscan, hclose, _, rfl⟩ :=
    load_eq_fill hload
  -- Every part of loading is a sequence of moves.
  have hopened : Keeps keeps opened := by
    obtain ⟨t, hok, hmoves, _⟩ | ⟨stop, t, herror, _⟩ := StoreHandle.acquire_cases law (handle, w)
    · obtain ⟨-, rfl⟩ := EStateM.Result.ok.inj (hok.symm.trans hopen)
      exact hmoves.kept hcloses hstart.2
    · cases herror.symm.trans hopen
  have hcounted := ((moving_onlyOpen .count).moves opened).kept hcloses hopened
  rw [show Step.after (StoreHandle.onlyOpen RecordStore.count) opened = counted from
    Step.after_of_ok hcount] at hcounted
  have hscanned := ((moving_scan audio tables {} n 1).moves counted).kept hcloses hcounted
  rw [Step.after_of_ok hscan] at hscanned
  have hclosed := (StoreHandle.moves_close law scanned).kept hcloses hscanned
  rwa [Step.after_of_ok hclose] at hclosed

/-- What loading comes to, unless it ends the program: whether it succeeds or fails, the store
is closed. -/
theorem shut_load (law : Gated σ) (hcloses : AlwaysCloses keeps) {handle : StoreHandle σ} {w : ω}
    (hstart : Loadable keeps handle w) :
    (∃ lib w', load audio handle tables w = .ok lib w' ∧ Shut (handleOf (lib, w'))) ∨
    (∃ cause handle' w', load audio handle tables w = .error (.fault cause) w' ∧
      scanStore audio tables (handle, w) = .error (.fault cause) (handle', w') ∧
      Shut (handle', w')) ∨
    Step.Panics (load audio handle tables) w := by
  have hshut := shut_scanStore law hcloses audio tables hstart.2 hstart.1
  unfold Step.Panics at hshut ⊢
  unfold load
  rcases hscan : scanStore audio tables (handle, w) with ⟨songs, t⟩ | ⟨cause | why, t⟩
  · rw [Step.after_of_ok hscan, hscan] at hshut
    exact .inl ⟨_, t.2, rfl, hshut fun ⟨why, u, hpanics⟩ => nomatch hpanics⟩
  · rw [Step.after_of_error hscan, hscan] at hshut
    exact .inr (.inl ⟨cause, t.1, t.2, rfl, rfl, hshut fun ⟨why, u, hpanics⟩ => nomatch hpanics⟩)
  · exact .inr (.inr ⟨why, t.2, rfl⟩)

/-- A library's store is open during a batch, and it can be closed. -/
theorem Reachable.held (law : Gated σ) (hcloses : AlwaysCloses keeps)
    (hothers : Leaves keeps others)
    (h : Reachable audio tables (Loadable keeps) others lib w) :
    Keeps keeps (handleOf (lib, w)) ∧ Held (handleOf (lib, w)) := by
  induction h with
  | load hstart hload =>
    refine ⟨keeps_load law hcloses hstart hload, ?_⟩
    obtain ⟨lib, w', hok, hshut⟩ | ⟨cause, handle', w', herror, _⟩ | ⟨why, w', hpanics⟩ :=
      shut_load law hcloses hstart
    · obtain ⟨rfl, rfl⟩ := EStateM.Result.ok.inj (hok.symm.trans hload)
      exact fun hbatch => absurd (hshut.noBatch.symm.trans hbatch) (by decide)
    · cases herror.symm.trans hload
    · cases hpanics.symm.trans hload
  | @request lib w request _ ih =>
    have hmoves := moves_perform law request (lib, w)
    exact ⟨hmoves.kept hcloses ih.1, hmoves.held law ih.2⟩
  | others hw _ ih =>
    -- Others leave the store as open as it was.
    obtain ⟨hopen, hkept⟩ := hothers _ _ hw _
    exact ⟨hkept ih.1, fun hbatch => hopen.trans (ih.2 hbatch)⟩

/-- When a library holds its store open, whatever fails but closing the store: loading leaves
it closed unless it ends the program, and every request of every reachable library leaves it
open during a batch and closed otherwise, if and only if the request does not strand it. -/
theorem inStep_iff_not_strands (law : Gated σ) (hcloses : AlwaysCloses keeps)
    (hothers : Leaves keeps others) :
    (∀ handle w, Loadable keeps handle w →
      (∃ lib w', load audio handle tables w = .ok lib w' ∧ Shut (handleOf (lib, w'))) ∨
      (∃ cause handle' w', load audio handle tables w = .error (.fault cause) w' ∧
        scanStore audio tables (handle, w) = .error (.fault cause) (handle', w') ∧
        Shut (handle', w')) ∨
      Step.Panics (load audio handle tables) w) ∧
    ∀ (lib : Library σ) w, Reachable audio tables (Loadable keeps) others lib w →
      ∀ request : Request,
        Held (handleOf (request.perform (lib, w))) ∧
          (InStep (handleOf (request.perform (lib, w))) ↔ ¬request.Strands (lib, w)) := by
  constructor
  · intro handle w hstart
    exact shut_load law hcloses hstart
  · intro lib w hreach request
    obtain ⟨hkeeps, hheld⟩ := hreach.held law hcloses hothers
    exact ⟨(moves_perform law request (lib, w)).held law hheld,
      inStep_perform law hcloses request hkeeps hheld⟩

/-- The store of two songs, which does not end batches any more. -/
private def endlessStore (calls : List String) : MemoryStore :=
  { danceStore with calls, plan := ⟨[("end_batch", .store (.other "disk full"))]⟩ }

/-- Other faults are planned for a store in memory, but not for closing it. -/
private def plansAnew (w w' : MemoryStore) : Prop :=
  w'.isOpen = w.isOpen ∧ w'.plan.fault? "close" = none

/-- A batch is started of a store that will not end it, and the store is open during it. -/
theorem inStep_iff_not_strands_startBatch :
    ∃ lib calls, load (fun _ _ => .ok true) danceHandle .standard danceStore =
        .ok lib { danceStore with calls } ∧
      InStep (handleOf (Request.startBatch.perform (lib, endlessStore calls))) := by
  obtain ⟨lib, calls, hload, _, hhandle, _⟩ := load_danceStore
  have hothers : Leaves MemoryStore.CanClose plansAnew := fun w w' hw store => ⟨hw.1, fun _ => hw.2⟩
  have hstart : Loadable MemoryStore.CanClose danceHandle danceStore := ⟨rfl, rfl⟩
  have hloaded : Reachable (fun _ _ => .ok true) .standard (Loadable MemoryStore.CanClose)
      plansAnew lib { danceStore with calls } := .load hstart hload
  have hplans : plansAnew { danceStore with calls } (endlessStore calls) := ⟨rfl, rfl⟩
  have hreach : Reachable (fun _ _ => .ok true) .standard (Loadable MemoryStore.CanClose)
      plansAnew lib (endlessStore calls) := .others hplans hloaded
  refine ⟨lib, calls, hload, (((inStep_iff_not_strands MemoryStore.gated
    MemoryStore.alwaysCloses hothers).2 lib _ hreach .startBatch).2).2 ?_⟩
  intro hstrands
  rcases hstrands with ⟨_, hnot⟩ | ⟨_, _, opened, stop, t, hacquire, hfailed⟩
  · -- The store was closed, and there was no batch.
    exact hnot (by rw [InStep, handleOf, hhandle]; rfl)
  · rw [handleOf, hhandle] at hacquire
    obtain ⟨-, rfl⟩ := EStateM.Result.ok.inj hacquire
    -- The store does start batches; it is ending them that it refuses.
    cases hfailed

/-- A batch that the store fails to end leaves the store open, although the store can be
closed: it is not asked to. -/
theorem not_inStep_endBatch :
    ∃ lib calls batched w cause ended w',
      load (fun _ _ => .ok true) danceHandle .standard danceStore =
        .ok lib { danceStore with calls } ∧
      Library.startBatch (lib, endlessStore calls) = .ok () (batched, w) ∧
      Library.endBatch (batched, w) = .error (.fault cause) (ended, w') ∧
      w'.plan.fault? "close" = none ∧ w'.calls.head? = some "end_batch" ∧
      ended.handle.isOpen w' = true ∧ ended.handle.inBatch = false := by
  obtain ⟨lib, calls, hload, _, hhandle, _⟩ := load_danceStore
  have hstart : Library.startBatch (lib, endlessStore calls) =
      .ok () (lib.withHandle { danceHandle with inBatch := true },
        { endlessStore calls with
          isOpen := true, calls := "start_batch" :: "open db 1" :: calls }) := by
    rw [Library.startBatch, onHandle, Step.focus_apply, hhandle]
    rfl
  refine ⟨lib, calls, _, _, _, _, _, hload, hstart, rfl, ?_⟩
  exact ⟨rfl, rfl, rfl, rfl⟩

/-- A library whose store hands out numbers and starts and ends batches whenever it is asked
holds the store open during batches only, whatever fails of opening, counting, reading and
writing. -/
theorem Reachable.inStep (law : Gated σ) (hcloses : AlwaysCloses keeps)
    (hothers : Leaves keeps others)
    (hnextFree : Succeeds keeps (RecordStore.nextFree : HostStep σ ω Nat))
    (hstartBatch : Succeeds keeps (RecordStore.startBatch : HostStep σ ω Unit))
    (hendBatch : Succeeds keeps (RecordStore.endBatch : HostStep σ ω Unit))
    (h : Reachable audio tables (Loadable keeps) others lib w) : InStep (handleOf (lib, w)) := by
  induction h with
  | load hstart hload =>
    -- Loading that succeeds leaves the store closed.
    obtain ⟨lib, w', hok, hshut⟩ | ⟨cause, handle', w', herror, _⟩ | ⟨why, w', hpanics⟩ :=
      shut_load law hcloses hstart
    · obtain ⟨rfl, rfl⟩ := EStateM.Result.ok.inj (hok.symm.trans hload)
      exact hshut.inStep
    · cases herror.symm.trans hload
    · cases hpanics.symm.trans hload
  | @request lib w request hreach ih =>
    obtain ⟨hkeeps, hheld⟩ := hreach.held law hcloses hothers
    refine (inStep_perform law hcloses request hkeeps hheld).2 fun hstrands => ?_
    rcases hstrands with ⟨_, hnot⟩ | ⟨_, hslips⟩
    · exact hnot ih
    -- A request that does not get to the store finds it in step.
    cases request with
    | write song now =>
      rw [Request.Slips] at hslips
      split at hslips
      · exact hslips ih
      · exact hnextFree.not_failsOnceOpen law hcloses hkeeps hslips.2
    | load index => exact hslips.2 ih
    | addTemporary song => exact hslips ih
    | removeTemporary index => exact hslips ih
    | startBatch => exact hstartBatch.not_failsOnceOpen law hcloses hkeeps hslips
    | endBatch => exact hendBatch.not_failsToEnd hkeeps hheld hslips
    | close => exact hendBatch.not_failsToEnd hkeeps hheld hslips
  | others hw _ ih => exact (hothers _ _ hw _).1.trans ih

end Library

end Ballroom
