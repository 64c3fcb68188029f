import Ballroom.Proofs.Store.Openness

/-!
# Stores that are open during a batch only

A store that can always be closed is open if and only if there is a batch (`InStep`) after
every operation that opens it for itself, whatever else fails, unless the program ends by
that.  It is left open by those operations that are not to close it, if the store fails in
what it was opened for: handing out a number (`inStep_allocate`), starting a batch
(`inStep_startBatch`) and ending one (`inStep_close`).
-/

namespace Ballroom

namespace StoreHandle

variable {σ ω α : Type} [RecordStore σ ω] {s t : StoreHandle σ × ω}

/-- A call that always succeeds on an open store that is in one of the states `keeps`. -/
def Succeeds (keeps : σ × ω → Prop) (step : HostStep σ ω α) : Prop :=
  ∀ s t stop, keeps s → RecordStore.isOpen s.1 s.2 = true → step s ≠ .error stop t

/-- A store that can always be closed when it is open, in the states `keeps`; no call leads
out of these. -/
structure AlwaysCloses (keeps : σ × ω → Prop) : Prop where
  closes : Succeeds keeps (RecordStore.close : HostStep σ ω Unit)
  openAt : ∀ path version s, keeps s →
    keeps ((RecordStore.openAt path version : HostStep σ ω Unit).after s)
  close : ∀ s, keeps s → keeps ((RecordStore.close : HostStep σ ω Unit).after s)
  read : ∀ number s, keeps s →
    keeps ((RecordStore.read number : HostStep σ ω (Option Bytes)).after s)
  write : ∀ number data s, keeps s →
    keeps ((RecordStore.write number data : HostStep σ ω Unit).after s)
  count : ∀ s, keeps s → keeps ((RecordStore.count : HostStep σ ω Nat).after s)
  nextFree : ∀ s, keeps s → keeps ((RecordStore.nextFree : HostStep σ ω Nat).after s)
  startBatch : ∀ s, keeps s → keeps ((RecordStore.startBatch : HostStep σ ω Unit).after s)
  endBatch : ∀ s, keeps s → keeps ((RecordStore.endBatch : HostStep σ ω Unit).after s)

variable {keeps : σ × ω → Prop}

/-- The store of a handle is in one of the states `keeps`. -/
def Keeps (keeps : σ × ω → Prop) (s : StoreHandle σ × ω) : Prop := keeps (s.1.store, s.2)

omit [RecordStore σ ω] in
theorem keeps_after_request {step : HostStep σ ω α}
    (hstep : ∀ s, keeps s → keeps (step.after s)) (hs : Keeps keeps s) :
    Keeps keeps ((request step).after s) := by
  rw [after_request]
  exact hstep _ hs

/-- Each move keeps what all calls of the store keep. -/
theorem Move.kept (hcloses : AlwaysCloses keeps) (h : Move s t) (hs : Keeps keeps s) :
    Keeps keeps t := by
  cases h with
  | openAt hclosed => exact keeps_after_request (hcloses.openAt _ _) hs
  | close hopen hbatch => exact keeps_after_request hcloses.close hs
  | ask hask hopen =>
    cases hask with
    | read number => exact keeps_after_request (hcloses.read number) hs
    | write number data => exact keeps_after_request (hcloses.write number data) hs
    | count => exact keeps_after_request hcloses.count hs
    | nextFree => exact keeps_after_request hcloses.nextFree hs
  | startBatch hopen hbatch hstart =>
    have hkept := keeps_after_request hcloses.startBatch hs
    rwa [Step.after_of_ok hstart] at hkept
  | startBatchFails hopen hbatch hstart =>
    have hkept := keeps_after_request hcloses.startBatch hs
    rwa [Step.after_of_error hstart] at hkept
  | endBatch hopen hbatch => exact keeps_after_request hcloses.endBatch hs
  -- The handle leaves its batch without asking the store.
  | leaveBatch hclosed => exact hs

theorem Moves.kept (hcloses : AlwaysCloses keeps) (h : Moves s t) (hs : Keeps keeps s) :
    Keeps keeps t :=
  h.keep (fun _ _ hmove => hmove.kept hcloses) hs

/-- The store is open if and only if there is a batch. -/
def InStep (s : StoreHandle σ × ω) : Prop := s.1.isOpen s.2 = s.1.inBatch

/-- The store is closed and there is no batch. -/
structure Shut (s : StoreHandle σ × ω) : Prop where
  closed : s.1.isOpen s.2 = false
  noBatch : s.1.inBatch = false

/-- A store that is closed outside of a batch is in step. -/
theorem Shut.inStep (h : Shut s) : InStep s := h.closed.trans h.noBatch.symm

/-- A call that always succeeds on an open store has no fault. -/
theorem Succeeds.request_ne {step : HostStep σ ω α} (h : Succeeds keeps step)
    (hkeeps : Keeps keeps s) (hopen : s.1.isOpen s.2 = true) {stop : Stop LibraryFault} :
    request step s ≠ .error stop t := by
  intro hfailed
  obtain ⟨handle, w⟩ := s
  rw [request_apply] at hfailed
  cases hstep : step (handle.store, w) with
  | ok a u => rw [hstep] at hfailed; cases hfailed
  | error stop u => exact h (handle.store, w) u stop hkeeps hopen hstep

/-- A store that can always be closed is closed when it was released. -/
theorem Released.shut (h : Released s t) (hcloses : AlwaysCloses keeps) (hkeeps : Keeps keeps s) :
    Shut t := by
  rcases h.closed with hclosed | ⟨u, stop, hmoves, hopen, hclose⟩
  · exact ⟨hclosed, h.noBatch⟩
  · exact absurd hclose (hcloses.closes.request_ne (hmoves.kept hcloses hkeeps) hopen)

/-- Closing a store outside of a batch succeeds. -/
theorem close_shuts (law : Gated σ) (hcloses : AlwaysCloses keeps) (hkeeps : Keeps keeps s)
    (hbatch : s.1.inBatch = false) : ∃ t, close s = .ok () t ∧ Shut t := by
  cases closing law s with
  | closed t hresult _ hbatch' hclosed _ => exact ⟨t, hresult, hclosed, hbatch'⟩
  | notEnded t stop _ _ hbatch' _ => cases hbatch.symm.trans hbatch'
  | notClosed u t stop _ hmoves hopen _ hclose =>
    exact absurd hclose (hcloses.closes.request_ne (hmoves.kept hcloses hkeeps) hopen)

/-- What opens the store for itself and closes it again leaves it in step with the batch,
unless it ends the program. -/
theorem inStep_use (law : Gated σ) (hcloses : AlwaysCloses keeps) {step : HandleStep σ ω α}
    (h : Uses step) (hkeeps : Keeps keeps s) (hheld : Held s)
    (hpanics : ¬(acquire >>= fun _ => during step).Panics s) :
    InStep ((acquire >>= fun _ => during step).after s) := by
  obtain ⟨hmoves, hreleased⟩ := use_cases law h s
  cases hbatch : s.1.inBatch with
  | false => exact ((hreleased hbatch hpanics).shut hcloses hkeeps).inStep
  | true =>
    -- The batch goes on, and so the store is still open.
    obtain ⟨store, hstore⟩ := (keepsBatch_acquire.bind fun _ => h.keepsBatch.during) s.1 s.2
    have hbatch' : ((acquire >>= fun _ => during step).after s).1.inBatch = true := by
      rw [hstore]
      exact hbatch
    exact (hmoves.held law hheld hbatch').trans hbatch'.symm

theorem inStep_readSingle (law : Gated σ) (hcloses : AlwaysCloses keeps) (number : Nat)
    (hkeeps : Keeps keeps s) (hheld : Held s)
    (hpanics : ¬(readSingle number : HandleStep σ ω (Option Bytes)).Panics s) :
    InStep ((readSingle number).after s) :=
  inStep_use law hcloses (uses_request (.read number)) hkeeps hheld hpanics

theorem inStep_write (law : Gated σ) (hcloses : AlwaysCloses keeps) (number : Nat) (data : Bytes)
    (hkeeps : Keeps keeps s) (hheld : Held s)
    (hpanics : ¬(write number data : HandleStep σ ω Unit).Panics s) :
    InStep ((write number data).after s) :=
  inStep_use law hcloses (uses_writeFitting number data) hkeeps hheld hpanics

/-- Outside of a batch the store has been opened, and has failed in what it was opened for. -/
def FailsOnceOpen (step : HostStep σ ω α) (s : StoreHandle σ × ω) : Prop :=
  s.1.inBatch = false ∧ ∃ opened stop t,
    acquire s = .ok () opened ∧ request step opened = .error stop t

/-- The store fails to end the batch that there is. -/
def FailsToEnd (s : StoreHandle σ × ω) : Prop :=
  s.1.inBatch = true ∧ ∃ stop t,
    request RecordStore.endBatch ({ s.1 with inBatch := false }, s.2) = .error stop t

/-- A request that fails on a store opened for it leaves the store open. -/
theorem inStep_of_request_error {step : HostStep σ ω α} (hkeeps : KeepsOpen step)
    {stop : Stop LibraryFault} {opened : StoreHandle σ × ω} (hacquire : acquire s = .ok () opened)
    (hbatch : opened.1.inBatch = s.1.inBatch) (hopen : opened.1.isOpen opened.2 = true)
    (hfailed : request step opened = .error stop t) :
    InStep t ↔ ¬FailsOnceOpen step s := by
  have hkept := isOpen_after_request hkeeps hopen
  have hafter := after_request step opened
  rw [Step.after_of_error hfailed] at hkept hafter
  have hbatch' : t.1.inBatch = s.1.inBatch := by rw [hafter, ← hbatch]
  -- The store is open, as it has to be during a batch only.
  cases hin : s.1.inBatch with
  | true =>
    have hnot : ¬FailsOnceOpen step s := fun hfails => absurd (hin.symm.trans hfails.1) (by decide)
    exact iff_of_true (hkept.trans (hbatch'.trans hin).symm) hnot
  | false =>
    refine iff_of_false ?_ (not_not_intro ⟨hin, opened, stop, t, hacquire, hfailed⟩)
    intro hstep
    cases hkept.symm.trans (hstep.trans (hbatch'.trans hin))

/-- There is no batch of a store that could not be opened. -/
theorem shut_of_acquire_error (law : Gated σ) (hheld : Held s) {stop : Stop LibraryFault}
    (hacquire : acquire s = .error stop t) : Shut t := by
  obtain ⟨u, hok, _⟩ | ⟨stop, u, herror, hmoves, _, hclosed⟩ := acquire_cases law s
  · cases hok.symm.trans hacquire
  · obtain ⟨-, rfl⟩ := EStateM.Result.error.inj (herror.symm.trans hacquire)
    refine ⟨hclosed, ?_⟩
    cases hbatch : u.1.inBatch with
    | false => rfl
    | true => cases (hmoves.held law hheld hbatch).symm.trans hclosed

/-- A store that could not be opened has not failed once open. -/
theorem not_failsOnceOpen_of_acquire_error {step : HostStep σ ω α} {stop : Stop LibraryFault}
    (hacquire : acquire s = .error stop t) : ¬FailsOnceOpen step s := by
  intro hfails
  obtain ⟨_, opened, _, _, hok, _⟩ := hfails
  cases hok.symm.trans hacquire

/-- A call that always succeeds does not fail on a store that was opened for it. -/
theorem Succeeds.not_failsOnceOpen (law : Gated σ) (hcloses : AlwaysCloses keeps)
    {step : HostStep σ ω α} (h : Succeeds keeps step) (hkeeps : Keeps keeps s) :
    ¬FailsOnceOpen step s := by
  intro hfails
  obtain ⟨_, opened, stop, t, hacquire, hfailed⟩ := hfails
  obtain ⟨u, hok, hmoves, _, hopen⟩ | ⟨stop, u, herror, _⟩ := acquire_cases law s
  · obtain ⟨-, rfl⟩ := EStateM.Result.ok.inj (hok.symm.trans hacquire)
    exact h.request_ne (hmoves.kept hcloses hkeeps) hopen hfailed
  · cases herror.symm.trans hacquire

/-- A store whose batches always end does not fail to end one. -/
theorem Succeeds.not_failsToEnd (h : Succeeds keeps (RecordStore.endBatch : HostStep σ ω Unit))
    (hkeeps : Keeps keeps s) (hheld : Held s) : ¬FailsToEnd s := by
  intro hfails
  obtain ⟨hbatch, stop, t, hfailed⟩ := hfails
  exact h.request_ne (s := ({ s.1 with inBatch := false }, s.2)) hkeeps (hheld hbatch) hfailed

/-- If the store does not tell the next number, allocating one fails. -/
theorem allocate_of_failsOnceOpen
    (h : FailsOnceOpen (RecordStore.nextFree : HostStep σ ω Nat) s) :
    ∃ stop t, allocate s = .error stop t := by
  obtain ⟨_, opened, stop, t, hacquire, hfailed⟩ := h
  exact ⟨stop, t, by rw [allocate, Step.bind_apply, hacquire]; exact hfailed⟩

/-- If no number is to be had, the store is left open unless it could not be opened. -/
theorem inStep_allocate (law : Gated σ) (hheld : Held s) {stop : Stop LibraryFault}
    (hallocate : allocate s = .error stop t) :
    InStep t ↔ ¬FailsOnceOpen (RecordStore.nextFree : HostStep σ ω Nat) s := by
  rw [allocate, Step.bind_apply] at hallocate
  obtain ⟨opened, hacquire, _, hbatch, hopen⟩ | ⟨stop, u, hacquire, _⟩ := acquire_cases law s
  · rw [hacquire] at hallocate
    exact inStep_of_request_error law.nextFree hacquire hbatch hopen hallocate
  · rw [hacquire] at hallocate
    obtain ⟨-, rfl⟩ := EStateM.Result.error.inj hallocate
    exact iff_of_true (shut_of_acquire_error law hheld hacquire).inStep
      (not_failsOnceOpen_of_acquire_error hacquire)

/-- A batch that the store does not start leaves the store open. -/
theorem inStep_startBatch (law : Gated σ) (hheld : Held s) :
    InStep (startBatch.after s) ↔
      ¬FailsOnceOpen (RecordStore.startBatch : HostStep σ ω Unit) s := by
  rw [startBatch, Step.after_bind]
  obtain ⟨opened, hacquire, _, hbatch, hopen⟩ | ⟨stop, u, hacquire, _⟩ := acquire_cases law s
  · rw [hacquire]
    dsimp only
    rw [Step.after_bind, Step.get_apply]
    dsimp only
    cases hin : opened.1.inBatch with
    | true =>
      -- There is a batch already.
      have hnot : ¬FailsOnceOpen (RecordStore.startBatch : HostStep σ ω Unit) s :=
        fun hfails => absurd (hbatch.symm.trans hin) (by rw [hfails.1]; decide)
      exact iff_of_true (hopen.trans hin.symm) hnot
    | false =>
      rw [Bool.not_false, if_pos rfl, Step.after_bind]
      have hkept := isOpen_after_request law.startBatch hopen
      cases hstart : request RecordStore.startBatch opened with
      -- The store has refused, and stays open without a batch.
      | error stop u =>
        exact inStep_of_request_error law.startBatch hacquire hbatch hopen hstart
      | ok a u =>
        rw [Step.after_of_ok hstart] at hkept
        refine iff_of_true hkept ?_
        -- A fault would be one of this very request, which has succeeded.
        intro hfails
        obtain ⟨_, again, stop, v, hagain, hfailed⟩ := hfails
        obtain ⟨-, rfl⟩ := EStateM.Result.ok.inj (hacquire.symm.trans hagain)
        cases hstart.symm.trans hfailed
  · rw [hacquire]
    exact iff_of_true (shut_of_acquire_error law hheld hacquire).inStep
      (not_failsOnceOpen_of_acquire_error hacquire)

/-- A batch that the store does not end leaves the store open. -/
theorem inStep_close (law : Gated σ) (hcloses : AlwaysCloses keeps) (hkeeps : Keeps keeps s)
    (hheld : Held s) : InStep (close.after s) ↔ ¬FailsToEnd s := by
  cases closing law s with
  | closed u hresult _ hbatch hclosed hended =>
    rw [Step.after_of_ok hresult]
    refine iff_of_true (hclosed.trans hbatch.symm) ?_
    intro hfails
    obtain ⟨hin, stop, v, hfailed⟩ := hfails
    -- In a batch the store has ended it, on its way to closing.
    obtain ⟨u, hend⟩ := hended hin (hheld hin)
    cases hend.symm.trans hfailed
  | notEnded u stop hresult hopen hbatch hend =>
    rw [Step.after_of_error hresult]
    -- The handle is out of its batch when the end fails, and the store is open still.
    have hopen' : ({ s.1 with inBatch := false } : StoreHandle σ).isOpen s.2 = true := hopen
    have hkept := isOpen_after_request (s := ({ s.1 with inBatch := false }, s.2)) law.endBatch
      hopen'
    have hafter := after_request RecordStore.endBatch ({ s.1 with inBatch := false }, s.2)
    rw [Step.after_of_error hend] at hkept hafter
    refine iff_of_false ?_ (not_not_intro ⟨hbatch, stop, u, hend⟩)
    intro hstep
    have hnone : u.1.inBatch = false := by rw [hafter]
    cases hkept.symm.trans (hstep.trans hnone)
  | notClosed v u stop _ hmoves hopen _ hclose =>
    -- Closing itself does not fail.
    exact absurd hclose (hcloses.closes.request_ne (hmoves.kept hcloses hkeeps) hopen)

/-! ### Steps that leave a batch alone -/

/-- A step that makes moves and neither starts nor ends a batch. -/
structure Moving (step : HandleStep σ ω α) : Prop where
  moves : ∀ s, Moves s (step.after s)
  keepsBatch : KeepsBatch step

theorem moving_pure (a : α) : Moving (pure a : HandleStep σ ω α) where
  moves _ := .refl
  keepsBatch := keepsBatch_pure a

/-- Steps that move one after the other move together. -/
theorem Moving.bind {β : Type} {step : HandleStep σ ω α} {next : α → HandleStep σ ω β}
    (h : Moving step) (hnext : ∀ a, Moving (next a)) : Moving (step >>= next) where
  moves := by
    intro s
    have hmoves := h.moves s
    rw [Step.after_bind]
    cases hstep : step s with
    | ok a t =>
      rw [Step.after_of_ok hstep] at hmoves
      exact hmoves.trans ((hnext a).moves t)
    -- A fault ends the steps where it stands.
    | error stop t => rwa [Step.after_of_error hstep] at hmoves
  keepsBatch := h.keepsBatch.bind fun a => (hnext a).keepsBatch

/-- A step that looks at the handle and the world first. -/
theorem moving_get_bind {next : StoreHandle σ × ω → HandleStep σ ω α} (h : ∀ s, Moving (next s)) :
    Moving (get >>= next) where
  moves s := (h s).moves s
  keepsBatch := keepsBatch_get_bind fun handle w => (h (handle, w)).keepsBatch handle w

theorem Moving.attempt {step : HandleStep σ ω α} (h : Moving step) :
    Moving (Step.attempt step) where
  moves := by
    intro s
    rw [Step.after_attempt]
    exact h.moves s
  keepsBatch := h.keepsBatch.attempt

/-- A request of an open store is a move, and of a closed one nothing. -/
theorem moving_onlyOpen {step : HostStep σ ω α} (h : Asks step) : Moving (onlyOpen step) where
  moves := moves_onlyOpen h
  keepsBatch := by
    apply keepsBatch_get_bind
    intro handle w
    dsimp only
    split
    · exact keepsBatch_request step handle w
    · exact ⟨handle.store, rfl⟩

end StoreHandle

namespace MemoryStore

open StoreHandle (AlwaysCloses)

/-- No fault is planned for closing the store. -/
def CanClose (s : MemoryHandle × MemoryStore) : Prop := s.2.plan.fault? "close" = none

/-- A call that does not act on the planned faults. -/
private theorem canClose_call {α : Type} {text : String} {act : MemoryStore → α × MemoryStore}
    (hact : ∀ m, (act m).2.plan = m.plan) (s : MemoryHandle × MemoryStore) (hs : CanClose s) :
    CanClose (Step.after (MemoryStore.call text act : HostStep MemoryHandle MemoryStore α) s) := by
  obtain ⟨h, m⟩ := s
  rw [Step.after, Step.outcome, call_apply]
  dsimp only
  cases m.plan.fault? text with
  | some fault => exact hs
  | none => exact (congrArg (FaultPlan.fault? · "close") (hact _)).trans hs

/-- A store in memory for which no fault of closing is planned can always be closed. -/
theorem alwaysCloses : AlwaysCloses CanClose where
  closes := by
    intro s t stop hs _ hclose
    obtain ⟨h, m⟩ := s
    have hclose : MemoryStore.call "close" (fun m => ((), { m with isOpen := false })) (h, m) =
      .error stop t := hclose
    have hnone : m.plan.fault? "close" = none := hs
    simp [call_apply, hnone] at hclose
  openAt path version := canClose_call fun _ => rfl
  close := canClose_call fun _ => rfl
  read number := canClose_call fun _ => rfl
  write number data := by
    apply canClose_call
    intro m
    show (m.setSlot number (some data)).plan = m.plan
    unfold setSlot
    split <;> rfl
  count := canClose_call fun _ => rfl
  nextFree := canClose_call fun _ => rfl
  startBatch := canClose_call fun _ => rfl
  endBatch := canClose_call fun _ => rfl

end MemoryStore

end Ballroom
