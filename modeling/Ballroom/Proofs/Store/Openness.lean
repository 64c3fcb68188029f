import Ballroom.Proofs.Store.Handle
import Ballroom.Proofs.Store.Memory
import Mathlib.Logic.Relation

/-!
# What a store handle asks of its store

A handle asks one thing of its store at a time, and looks at the store before it does:
`Move` lists what it asks and in which states.  Every operation of a handle is a sequence of
moves, so that what moves keep is kept by operations in any order.  Where opening opens a
store and closing closes it, each if it succeeds, and nothing else does either (`Gated`),
an operation outside of a batch leaves the store closed, or closing has failed
(`released_use`, `closing`).
-/

namespace Ballroom

/-- A request that leaves an open store open, whether it succeeds or fails. -/
def KeepsOpen {σ ω α : Type} [RecordStore σ ω] (step : HostStep σ ω α) : Prop :=
  ∀ s, RecordStore.isOpen s.1 s.2 = true →
    RecordStore.isOpen (step.after s).1 (step.after s).2 = true

/-- A record store that is open once opening it has succeeded, and until closing it does.  A
store that failed to be closed may be either.  A store that fails half-way through being
opened has to give up what it holds by then (`openAt_error`).  What is left when a request
ends the program is taken as what is left of one that fails. -/
structure Gated (σ : Type) {ω : Type} [RecordStore σ ω] : Prop where
  openAt_ok : ∀ (path : String) (version : Nat) (s t : σ × ω), RecordStore.isOpen s.1 s.2 = false →
    RecordStore.openAt path version s = .ok () t → RecordStore.isOpen t.1 t.2 = true
  openAt_error : ∀ (path : String) (version : Nat) (s t : σ × ω) (stop : Stop HostFault),
    RecordStore.isOpen s.1 s.2 = false → RecordStore.openAt path version s = .error stop t →
      RecordStore.isOpen t.1 t.2 = false
  close_ok : ∀ s t : σ × ω, RecordStore.isOpen s.1 s.2 = true → RecordStore.close s = .ok () t →
    RecordStore.isOpen t.1 t.2 = false
  read : ∀ number, KeepsOpen (RecordStore.read number : HostStep σ ω (Option Bytes))
  write : ∀ number data, KeepsOpen (RecordStore.write number data : HostStep σ ω Unit)
  count : KeepsOpen (RecordStore.count : HostStep σ ω Nat)
  nextFree : KeepsOpen (RecordStore.nextFree : HostStep σ ω Nat)
  startBatch : KeepsOpen (RecordStore.startBatch : HostStep σ ω Unit)
  endBatch : KeepsOpen (RecordStore.endBatch : HostStep σ ω Unit)

/-- What is asked of an open store without regard to batches. -/
inductive Asks {σ ω : Type} [RecordStore σ ω] : {α : Type} → HostStep σ ω α → Prop
  | read (number : Nat) : Asks (RecordStore.read number)
  | write (number : Nat) (data : Bytes) : Asks (RecordStore.write number data)
  | count : Asks RecordStore.count
  | nextFree : Asks RecordStore.nextFree

/-- What may be asked of an open store leaves it open. -/
theorem Gated.asks {σ ω α : Type} [RecordStore σ ω] (law : Gated σ) {step : HostStep σ ω α}
    (h : Asks step) : KeepsOpen step := by
  cases h with
  | read number => exact law.read number
  | write number data => exact law.write number data
  | count => exact law.count
  | nextFree => exact law.nextFree

namespace StoreHandle

variable {σ ω α β : Type}

/-! ### Steps that leave a handle its batch -/

/-- Whether it succeeds or fails, a request changes nothing of the handle but its store. -/
theorem after_request (step : HostStep σ ω α) (s : StoreHandle σ × ω) :
    (request step).after s = ({ s.1 with store := (step.after (s.1.store, s.2)).1 },
      (step.after (s.1.store, s.2)).2) := by
  obtain ⟨handle, w⟩ := s
  have happly := request_apply step handle w
  cases hstep : step (handle.store, w) with
  | ok a t =>
    rw [hstep] at happly
    rw [Step.after_of_ok happly, Step.after_of_ok hstep]
  | error stop t =>
    rw [hstep] at happly
    rw [Step.after_of_error happly, Step.after_of_error hstep]

/-- A step that changes nothing of a handle but its store: the path and the version stay,
and a batch goes on. -/
def KeepsBatch (step : HandleStep σ ω α) : Prop :=
  ∀ handle w, ∃ store, (step.after (handle, w)).1 = { handle with store := store }

theorem keepsBatch_of_same {step : HandleStep σ ω α} (h : ∀ s, step.after s = s) :
    KeepsBatch step :=
  fun handle w => ⟨handle.store, by rw [h]⟩

theorem keepsBatch_request (step : HostStep σ ω α) : KeepsBatch (request step) :=
  fun _ _ => ⟨_, by rw [after_request]⟩

/-- Steps that keep the batch do so one after the other. -/
theorem KeepsBatch.bind {step : HandleStep σ ω α} {next : α → HandleStep σ ω β}
    (h : KeepsBatch step) (hnext : ∀ a, KeepsBatch (next a)) : KeepsBatch (step >>= next) := by
  intro handle w
  obtain ⟨store, hstore⟩ := h handle w
  rw [Step.after_bind]
  cases hstep : step (handle, w) with
  | error stop t =>
    rw [Step.after_of_error hstep] at hstore
    exact ⟨store, hstore⟩
  | ok a t =>
    rw [Step.after_of_ok hstep] at hstore
    obtain ⟨store', hstore'⟩ := hnext a t.1 t.2
    exact ⟨store', by rw [hstore', hstore]⟩

/-- A step that is chosen by looking at the handle and the world. -/
theorem keepsBatch_get_bind {next : StoreHandle σ × ω → HandleStep σ ω α}
    (h : ∀ handle w, ∃ store,
      ((next (handle, w)).after (handle, w)).1 = { handle with store := store }) :
    KeepsBatch (get >>= next) :=
  h

theorem KeepsBatch.attempt {step : HandleStep σ ω α} (h : KeepsBatch step) :
    KeepsBatch (Step.attempt step) := by
  intro handle w
  rw [Step.after_attempt]
  exact h handle w

theorem keepsBatch_pure (a : α) : KeepsBatch (pure a : HandleStep σ ω α) :=
  keepsBatch_of_same fun _ => rfl

theorem keepsBatch_ofExcept (result : Except LibraryFault α) :
    KeepsBatch (Step.ofExcept result : HandleStep σ ω α) := by
  apply keepsBatch_of_same
  intro s
  cases result <;> rfl

variable [RecordStore σ ω]

theorem keepsBatch_acquire : KeepsBatch (acquire : HandleStep σ ω Unit) := by
  apply keepsBatch_get_bind
  intro handle w
  dsimp only
  split
  · exact keepsBatch_request _ handle w
  · exact keepsBatch_pure () handle w

theorem keepsBatch_whenOpen {step : HandleStep σ ω Unit} (h : KeepsBatch step) :
    KeepsBatch (whenOpen step) := by
  apply keepsBatch_get_bind
  intro handle w
  dsimp only
  split
  · exact h handle w
  · exact keepsBatch_pure () handle w

/-- Closing ends a batch, but here there is none. -/
theorem keepsBatch_closeUnlessBatch : KeepsBatch (closeUnlessBatch : HandleStep σ ω Unit) := by
  intro handle w
  by_cases hbatch : handle.inBatch = true
  · rw [Step.after_of_ok (closeUnlessBatch_of_inBatch hbatch)]
    exact ⟨handle.store, rfl⟩
  · have hclose : (closeUnlessBatch : HandleStep σ ω Unit) (handle, w) =
        whenOpen (request RecordStore.close) (handle, w) := by
      simp [closeUnlessBatch, close, hbatch]
    have hafter : closeUnlessBatch.after (handle, w) =
        (whenOpen (request RecordStore.close)).after (handle, w) := by
      rw [Step.after, Step.outcome, hclose]
      rfl
    rw [hafter]
    exact keepsBatch_whenOpen (keepsBatch_request _) handle w

theorem KeepsBatch.during {step : HandleStep σ ω α} (h : KeepsBatch step) :
    KeepsBatch (StoreHandle.during step) :=
  h.attempt.bind fun result =>
    keepsBatch_closeUnlessBatch.bind fun _ => keepsBatch_ofExcept result

theorem keepsBatch_allocate : KeepsBatch (allocate : HandleStep σ ω Nat) :=
  keepsBatch_acquire.bind fun _ => keepsBatch_request _

theorem keepsBatch_writeFitting (number : Nat) (data : Bytes) :
    KeepsBatch (writeFitting number data : HandleStep σ ω Unit) := by
  apply keepsBatch_get_bind
  intro handle w
  dsimp only
  split
  · exact ⟨handle.store, rfl⟩
  · exact keepsBatch_request _ handle w

theorem keepsBatch_write (number : Nat) (data : Bytes) :
    KeepsBatch (write number data : HandleStep σ ω Unit) :=
  keepsBatch_acquire.bind fun _ => (keepsBatch_writeFitting number data).during

/-! ### Moves -/

/-- One thing that a handle asks of its store, and what it notes of a batch by that. -/
inductive Move : StoreHandle σ × ω → StoreHandle σ × ω → Prop
  | openAt {s : StoreHandle σ × ω} (hclosed : s.1.isOpen s.2 = false) :
      Move s ((request (RecordStore.openAt s.1.path s.1.version)).after s)
  | close {s : StoreHandle σ × ω} (hopen : s.1.isOpen s.2 = true) (hbatch : s.1.inBatch = false) :
      Move s ((request RecordStore.close).after s)
  | ask {α : Type} {s : StoreHandle σ × ω} {step : HostStep σ ω α} (hask : Asks step)
      (hopen : s.1.isOpen s.2 = true) : Move s ((request step).after s)
  | startBatch {s t : StoreHandle σ × ω} (hopen : s.1.isOpen s.2 = true)
      (hbatch : s.1.inBatch = false) (hstart : request RecordStore.startBatch s = .ok () t) :
      Move s ({ t.1 with inBatch := true }, t.2)
  | startBatchFails {s t : StoreHandle σ × ω} {stop : Stop LibraryFault}
      (hopen : s.1.isOpen s.2 = true) (hbatch : s.1.inBatch = false)
      (hstart : request RecordStore.startBatch s = .error stop t) : Move s t
  | endBatch {s : StoreHandle σ × ω} (hopen : s.1.isOpen s.2 = true)
      (hbatch : s.1.inBatch = true) :
      Move s ((request RecordStore.endBatch).after ({ s.1 with inBatch := false }, s.2))
  | leaveBatch {s : StoreHandle σ × ω} (hclosed : s.1.isOpen s.2 = false) :
      Move s ({ s.1 with inBatch := false }, s.2)

/-- Any number of moves. -/
abbrev Moves : StoreHandle σ × ω → StoreHandle σ × ω → Prop := Relation.ReflTransGen Move

variable {s t : StoreHandle σ × ω}

/-- A request that keeps an open store open does so in the handle. -/
theorem isOpen_after_request {step : HostStep σ ω α} (h : KeepsOpen step)
    (hopen : s.1.isOpen s.2 = true) :
    ((request step).after s).1.isOpen ((request step).after s).2 = true := by
  rw [after_request]
  exact h (s.1.store, s.2) hopen

/-- There is a batch only while the store is open. -/
def Held (s : StoreHandle σ × ω) : Prop := s.1.inBatch = true → s.1.isOpen s.2 = true

/-- By each move a batch is of an open store. -/
theorem Move.held (law : Gated σ) (h : Move s t) (hs : Held s) : Held t := by
  intro hbatch'
  cases h with
  | openAt hclosed =>
    -- A store that has to be opened is in no batch, and opening it starts none.
    rw [after_request] at hbatch'
    rw [hs hbatch'] at hclosed
    cases hclosed
  | close hopen hbatch =>
    rw [after_request] at hbatch'
    -- The store is closed outside of a batch.
    cases hbatch.symm.trans hbatch'
  -- The handle keeps its batch, and the store stays open.
  | ask hask hopen => exact isOpen_after_request (law.asks hask) hopen
  | startBatch hopen hbatch hstart =>
    have hkept := isOpen_after_request law.startBatch hopen
    rw [Step.after_of_ok hstart] at hkept
    exact hkept
  | startBatchFails hopen hbatch hstart =>
    have hkept := isOpen_after_request law.startBatch hopen
    rw [Step.after_of_error hstart] at hkept
    exact hkept
  | endBatch hopen hbatch =>
    rw [after_request] at hbatch'
    cases hbatch'
  | leaveBatch hclosed => cases hbatch'

/-- What every move keeps is kept by any number of them. -/
theorem Moves.keep {keeps : StoreHandle σ × ω → Prop} (h : Moves s t)
    (hmove : ∀ u v, Move u v → keeps u → keeps v) (hs : keeps s) : keeps t := by
  induction h with
  | refl => exact hs
  | tail _ hlast ih => exact hmove _ _ hlast ih

/-- By all moves a batch is of an open store. -/
theorem Moves.held (law : Gated σ) (h : Moves s t) (hs : Held s) : Held t :=
  h.keep (fun _ _ hmove => hmove.held law) hs

/-! ### Opening and closing -/

/-- A store that has been acquired is open, and one that could not be is closed. -/
theorem acquire_cases (law : Gated σ) (s : StoreHandle σ × ω) :
    (∃ t, acquire s = .ok () t ∧ Moves s t ∧ t.1.inBatch = s.1.inBatch ∧
      t.1.isOpen t.2 = true) ∨
    (∃ stop t, acquire s = .error stop t ∧ Moves s t ∧ t.1.inBatch = s.1.inBatch ∧
      t.1.isOpen t.2 = false) := by
  obtain ⟨handle, w⟩ := s
  cases hopen : handle.isOpen w with
  | true => exact .inl ⟨(handle, w), by simp [acquire, hopen], .refl, rfl, hopen⟩
  | false =>
    have hacquire : acquire (handle, w) =
        request (RecordStore.openAt handle.path handle.version) (handle, w) := by
      simp [acquire, hopen]
    have hmove : Move (handle, w) _ := .openAt hopen
    rw [after_request] at hmove
    rw [hacquire, request_apply]
    cases hstep : RecordStore.openAt handle.path handle.version (handle.store, w) with
    -- A store tells whether it is open by whether its opening succeeded.
    | ok a t =>
      rw [Step.after_of_ok hstep] at hmove
      exact .inl ⟨_, rfl, .single hmove, rfl, law.openAt_ok _ _ (handle.store, w) t hopen hstep⟩
    | error stop t =>
      rw [Step.after_of_error hstep] at hmove
      exact .inr ⟨_, _, rfl, .single hmove, rfl,
        law.openAt_error _ _ (handle.store, w) t stop hopen hstep⟩

/-- The three ways in which closing a store can end. -/
inductive Closing (s : StoreHandle σ × ω)
    (result : EStateM.Result (Stop LibraryFault) (StoreHandle σ × ω) Unit) : Prop
  /-- The store is closed, and if there was a batch it has been ended. -/
  | closed (t : StoreHandle σ × ω) (hresult : result = .ok () t) (hmoves : Moves s t)
      (hbatch : t.1.inBatch = false) (hclosed : t.1.isOpen t.2 = false)
      (hended : s.1.inBatch = true → s.1.isOpen s.2 = true →
        ∃ u, request RecordStore.endBatch ({ s.1 with inBatch := false }, s.2) = .ok () u)
  /-- The batch could not be ended, and the store has not been asked to close. -/
  | notEnded (t : StoreHandle σ × ω) (stop : Stop LibraryFault) (hresult : result = .error stop t)
      (hopen : s.1.isOpen s.2 = true) (hbatch : s.1.inBatch = true)
      (hend : request RecordStore.endBatch ({ s.1 with inBatch := false }, s.2) = .error stop t)
  /-- The store could not be closed. -/
  | notClosed (u t : StoreHandle σ × ω) (stop : Stop LibraryFault)
      (hresult : result = .error stop t) (hmoves : Moves s u) (hopen : u.1.isOpen u.2 = true)
      (hbatch : u.1.inBatch = false) (hclose : request RecordStore.close u = .error stop t)

/-- The end of closing a store, once there is no batch. -/
private theorem closeStore_cases (law : Gated σ) (hbatch : s.1.inBatch = false) :
    (∃ t, whenOpen (request RecordStore.close) s = .ok () t ∧ Moves s t ∧ t.1.inBatch = false ∧
      t.1.isOpen t.2 = false) ∨
    (∃ stop t, whenOpen (request RecordStore.close) s = .error stop t ∧
      s.1.isOpen s.2 = true ∧ request RecordStore.close s = .error stop t) := by
  obtain ⟨handle, w⟩ := s
  cases hopen : handle.isOpen w with
  | false => exact .inl ⟨(handle, w), by simp [whenOpen, hopen], .refl, hbatch, hopen⟩
  | true =>
    have hwhen : whenOpen (request RecordStore.close) (handle, w) =
        request RecordStore.close (handle, w) := by
      simp [whenOpen, hopen]
    have hmove : Move (handle, w) _ := .close hopen hbatch
    rw [after_request] at hmove
    rw [hwhen, request_apply]
    -- Only a close that succeeds is known to have let go of the store.
    cases hstep : RecordStore.close (handle.store, w) with
    | ok a t =>
      rw [Step.after_of_ok hstep] at hmove
      exact .inl ⟨_, rfl, .single hmove, hbatch, law.close_ok (handle.store, w) t hopen hstep⟩
    | error stop t => exact .inr ⟨_, _, rfl, rfl, rfl⟩

/-- Closing a store outside of a batch. -/
private theorem closing_of_not_inBatch (law : Gated σ) (hbatch : s.1.inBatch = false) :
    Closing s (close s) := by
  have hclose : close s = whenOpen (request RecordStore.close) s := by
    obtain ⟨handle, w⟩ := s
    have hbatch : handle.inBatch = false := hbatch
    simp [close, hbatch]
  rw [hclose]
  obtain ⟨t, hresult, hmoves, hbatch', hclosed⟩ | ⟨stop, t, hresult, hopen, hfailed⟩ :=
    closeStore_cases law hbatch
  · exact .closed t hresult hmoves hbatch' hclosed fun h => absurd (hbatch.symm.trans h) (by decide)
  · exact .notClosed s t stop hresult .refl hopen hbatch hfailed

/-- Closing a store ends in one of the three ways. -/
theorem closing (law : Gated σ) (s : StoreHandle σ × ω) : Closing s (close s) := by
  cases hbatch : s.1.inBatch with
  | false => exact closing_of_not_inBatch law hbatch
  | true =>
    obtain ⟨handle, w⟩ := s
    have hbatch : handle.inBatch = true := hbatch
    -- The handle leaves its batch before the store is asked, whatever the store answers then.
    have hclose : close (handle, w) =
        match whenOpen (request RecordStore.endBatch) ({ handle with inBatch := false }, w) with
        | .ok _ t => whenOpen (request RecordStore.close) t
        | .error stop t => .error stop t := by
      simp only [close, Step.bind_apply, Step.get_apply, Step.ite_apply, hbatch, if_true, setBatch,
        Step.modify_apply]
      cases whenOpen (request RecordStore.endBatch) ({ handle with inBatch := false }, w) <;> rfl
    cases hopen : handle.isOpen w with
    | false =>
      -- There is nothing to end and nothing to close.
      have hopen' : ({ handle with inBatch := false } : StoreHandle σ).isOpen w = false := hopen
      refine .closed ({ handle with inBatch := false }, w) ?_ (.single (.leaveBatch hopen)) rfl
        hopen' fun _ h => absurd (hopen.symm.trans h) (by decide)
      rw [hclose]
      simp [whenOpen, hopen']
    | true =>
      have hwhen : whenOpen (request RecordStore.endBatch) ({ handle with inBatch := false }, w) =
          request RecordStore.endBatch ({ handle with inBatch := false }, w) := by
        have hopen' : ({ handle with inBatch := false } : StoreHandle σ).isOpen w = true := hopen
        simp [whenOpen, hopen']
      have hmove : Move (handle, w) _ := .endBatch hopen hbatch
      rw [hwhen] at hclose
      -- The store is asked to end its batch first, and to close then.
      cases hend : request RecordStore.endBatch ({ handle with inBatch := false }, w) with
      | error stop t =>
        rw [hend] at hclose
        exact .notEnded t stop hclose hopen hbatch hend
      | ok a t =>
        rw [hend] at hclose
        rw [Step.after_of_ok hend] at hmove
        have hbatch' : t.1.inBatch = false := by
          have hkept := after_request RecordStore.endBatch ({ handle with inBatch := false }, w)
          rw [Step.after_of_ok hend] at hkept
          rw [hkept]
        rw [hclose]
        obtain ⟨u, hresult, hmoves, hbatch'', hclosed⟩ | ⟨stop, u, hresult, hopen', hfailed⟩ :=
          closeStore_cases law hbatch'
        · exact .closed u hresult (.head hmove hmoves) hbatch'' hclosed fun _ _ => ⟨t, hend⟩
        · exact .notClosed t u stop hresult (.single hmove) hopen' hbatch' hfailed

/-- Closing a store is a sequence of moves. -/
theorem moves_close (law : Gated σ) (s : StoreHandle σ × ω) : Moves s (close.after s) := by
  cases closing law s with
  | closed t hresult hmoves _ _ _ => rwa [Step.after_of_ok hresult]
  -- The end that failed is a move, and the last one.
  | notEnded t stop hresult hopen hbatch hend =>
    have hmove : Move s _ := .endBatch hopen hbatch
    rw [Step.after_of_error hend] at hmove
    rw [Step.after_of_error hresult]
    exact .single hmove
  | notClosed u t stop hresult hmoves hopen hbatch hclose =>
    have hmove : Move u _ := .close hopen hbatch
    rw [Step.after_of_error hclose] at hmove
    rw [Step.after_of_error hresult]
    exact hmoves.tail hmove

/-! ### Operations that close the store again -/

/-- The store has been closed by some moves, or else the last of them was to close it and
failed; there is no batch. -/
structure Released (s t : StoreHandle σ × ω) : Prop where
  noBatch : t.1.inBatch = false
  closed : t.1.isOpen t.2 = false ∨
    ∃ u stop, Moves s u ∧ u.1.isOpen u.2 = true ∧ request RecordStore.close u = .error stop t

/-- In a batch a store is left as it is, and outside of one it is closed. -/
theorem after_closeUnlessBatch (s : StoreHandle σ × ω) :
    closeUnlessBatch.after s = if s.1.inBatch then s else close.after s := by
  obtain ⟨handle, w⟩ := s
  cases hbatch : handle.inBatch with
  | true => simp [Step.after_of_ok (closeUnlessBatch_of_inBatch hbatch)]
  | false => simp [closeUnlessBatch, Step.after, Step.outcome, hbatch]

/-- After a step the store is closed, unless the step has ended the program. -/
theorem after_during {step : HandleStep σ ω α} (hpanics : ¬step.Panics s) :
    (during step).after s = closeUnlessBatch.after (step.after s) := by
  obtain ⟨result, hattempt⟩ := Step.attempt_of_not_panics hpanics
  rw [during, Step.after_bind, hattempt]
  dsimp only
  -- What the step came to is handed on when the store has been closed.
  apply Step.after_bind_of_same
  intro _ t
  cases result <;> rfl

/-- Nothing comes after a step that has ended the program. -/
theorem during_of_panics {step : HandleStep σ ω α} (hpanics : step.Panics s) :
    (during step).Panics s ∧ (during step).after s = step.after s := by
  obtain ⟨why, t, hstep⟩ := hpanics
  have hduring : during step s = .error (.panic why) t := by
    rw [during, Step.bind_apply, Step.attempt_apply, hstep]
  exact ⟨⟨why, t, hduring⟩, by rw [Step.after_of_error hduring, Step.after_of_error hstep]⟩

/-- Outside of a batch a store is released in the end. -/
theorem released_closeUnlessBatch (law : Gated σ) (hbatch : s.1.inBatch = false) :
    Released s (closeUnlessBatch.after s) := by
  rw [after_closeUnlessBatch, hbatch, if_neg (by decide)]
  cases closing law s with
  | closed t hresult _ hbatch' hclosed _ =>
    rw [Step.after_of_ok hresult]
    exact ⟨hbatch', .inl hclosed⟩
  -- There is no batch to end.
  | notEnded t stop hresult _ hbatch' _ => cases hbatch.symm.trans hbatch'
  -- The store has not been closed, but asked to.
  | notClosed u t stop hresult hmoves hopen hbatch' hclose =>
    rw [Step.after_of_error hresult]
    have hkept := after_request RecordStore.close u
    rw [Step.after_of_error hclose] at hkept
    exact ⟨by rw [hkept]; exact hbatch', .inr ⟨u, stop, hmoves, hopen, hclose⟩⟩

/-- Closing a store outside of a batch is a sequence of moves. -/
theorem moves_closeUnlessBatch (law : Gated σ) (s : StoreHandle σ × ω) :
    Moves s (closeUnlessBatch.after s) := by
  rw [after_closeUnlessBatch]
  split
  · exact .refl
  · exact moves_close law s

/-- What is done on an open store is a sequence of moves that leave a batch alone. -/
structure Uses (step : HandleStep σ ω α) : Prop where
  moves : ∀ s, s.1.isOpen s.2 = true → Moves s (step.after s)
  keepsBatch : KeepsBatch step

theorem uses_request {step : HostStep σ ω α} (h : Asks step) : Uses (request step) where
  moves _ hopen := .single (.ask h hopen)
  keepsBatch := keepsBatch_request step

theorem uses_writeFitting (number : Nat) (data : Bytes) :
    Uses (writeFitting number data : HandleStep σ ω Unit) where
  moves := by
    intro s hopen
    obtain ⟨handle, w⟩ := s
    rw [writeFitting, Step.after_bind, Step.get_apply]
    dsimp only
    split
    · -- The record is too large, and the store is not asked.
      exact .refl
    · exact (uses_request (.write number data)).moves (handle, w) hopen
  keepsBatch := keepsBatch_writeFitting number data

/-- What a step that opens the store for itself leaves: the store is released if there is no
batch, and the program goes on. -/
theorem use_cases (law : Gated σ) {step : HandleStep σ ω α} (h : Uses step)
    (s : StoreHandle σ × ω) :
    Moves s ((acquire >>= fun _ => during step).after s) ∧
      (s.1.inBatch = false → ¬(acquire >>= fun _ => during step).Panics s →
        Released s ((acquire >>= fun _ => during step).after s)) := by
  unfold Step.Panics
  rw [Step.after_bind, Step.bind_apply]
  obtain ⟨t, hacquire, hmoves, hbatch, hopen⟩ | ⟨stop, t, hacquire, hmoves, hbatch, hclosed⟩ :=
    acquire_cases law s
  · rw [hacquire]
    dsimp only
    have hused : Moves s (step.after t) := hmoves.trans (h.moves t hopen)
    -- A panic ends the program before the store is closed.
    by_cases hpanics : step.Panics t
    · obtain ⟨hduring, hafter⟩ := during_of_panics hpanics
      rw [hafter]
      exact ⟨hused, fun _ hnot => absurd hduring hnot⟩
    rw [after_during hpanics]
    -- The step neither starts nor ends a batch, so that there is none when the store is closed.
    refine ⟨hused.trans (moves_closeUnlessBatch law _), fun hno _ => ?_⟩
    obtain ⟨store, hstore⟩ := h.keepsBatch t.1 t.2
    have hreleased := released_closeUnlessBatch (s := step.after t) law
      (by rw [hstore]; exact hbatch.trans hno)
    exact ⟨hreleased.noBatch, hreleased.closed.imp_right fun ⟨u, stop, hlater, hclose⟩ =>
      ⟨u, stop, hused.trans hlater, hclose⟩⟩
  · rw [hacquire]
    exact ⟨hmoves, fun hno _ => ⟨hbatch.trans hno, .inl hclosed⟩⟩

/-! ### Runs of operations -/

/-- An operation of a store handle. -/
inductive HandleCall where
  | acquire
  | close
  | count
  | read (number : Nat)
  | readSingle (number : Nat)
  | allocate
  | write (number : Nat) (data : Bytes)
  | startBatch
  | endBatch

/-- An operation, without its result. -/
def HandleCall.step : HandleCall → HandleStep σ ω Unit
  | acquire => StoreHandle.acquire
  | close => StoreHandle.close
  | count => discard StoreHandle.count
  | read number => discard (StoreHandle.read number)
  | readSingle number => discard (StoreHandle.readSingle number)
  | allocate => discard StoreHandle.allocate
  | write number data => StoreHandle.write number data
  | startBatch => StoreHandle.startBatch
  | endBatch => StoreHandle.endBatch

/-- What an operation leaves of a handle and of the world around it. -/
def HandleCall.perform (call : HandleCall) (s : StoreHandle σ × ω) : StoreHandle σ × ω :=
  call.step.after s

/-- The operations that open the store for themselves and close it again. -/
inductive HandleCall.Single : HandleCall → Prop
  | readSingle (number : Nat) : Single (.readSingle number)
  | write (number : Nat) (data : Bytes) : Single (.write number data)

/-- What operations leave, one after the other, whether they succeed or fail; one that ends
the program is the last. -/
def run : List HandleCall → StoreHandle σ × ω → StoreHandle σ × ω
  | [], s => s
  | call :: rest, s =>
    match call.step s with
    | .ok _ t => run rest t
    | .error (.fault _) t => run rest t
    | .error (.panic _) t => t

/-- A run goes on from what its first operation leaves, or ends there. -/
theorem run_cons (call : HandleCall) (rest : List HandleCall) (s : StoreHandle σ × ω) :
    run (call :: rest) s = run rest (call.perform s) ∨
      run (call :: rest) s = call.perform s := by
  rw [run, HandleCall.perform]
  rcases hstep : call.step s with ⟨a, t⟩ | ⟨cause | why, t⟩
  · rw [Step.after_of_ok hstep]
    exact .inl rfl
  · rw [Step.after_of_error hstep]
    exact .inl rfl
  · rw [Step.after_of_error hstep]
    exact .inr rfl

theorem moves_onlyOpen {step : HostStep σ ω α} (h : Asks step) (s : StoreHandle σ × ω) :
    Moves s ((onlyOpen step).after s) := by
  obtain ⟨handle, w⟩ := s
  rw [onlyOpen, Step.after_bind, Step.get_apply]
  dsimp only
  split
  · exact (uses_request h).moves (handle, w) ‹_›
  · exact .refl

theorem moves_allocate (law : Gated σ) (s : StoreHandle σ × ω) :
    Moves s (allocate.after s) := by
  rw [allocate, Step.after_bind]
  obtain ⟨t, hacquire, hmoves, _, hopen⟩ | ⟨stop, t, hacquire, hmoves, _, _⟩ :=
    acquire_cases law s
  · rw [hacquire]
    exact hmoves.tail (.ask .nextFree hopen)
  · rw [hacquire]
    exact hmoves

/-- A batch is started by the store first and noted then. -/
theorem moves_startBatch (law : Gated σ) (s : StoreHandle σ × ω) :
    Moves s (startBatch.after s) := by
  rw [startBatch, Step.after_bind]
  obtain ⟨t, hacquire, hmoves, _, hopen⟩ | ⟨stop, t, hacquire, hmoves, _, _⟩ :=
    acquire_cases law s
  · rw [hacquire]
    dsimp only
    rw [Step.after_bind, Step.get_apply]
    dsimp only
    cases hbatch : t.1.inBatch with
    | true =>
      -- The batch that there is goes on.
      exact hmoves
    | false =>
      rw [Bool.not_false, if_pos rfl, Step.after_bind]
      cases hstart : request RecordStore.startBatch t with
      | ok a u => exact hmoves.tail (.startBatch hopen hbatch hstart)
      | error stop u => exact hmoves.tail (.startBatchFails hopen hbatch hstart)
  · rw [hacquire]
    exact hmoves

/-- Every operation of a handle is a sequence of moves. -/
theorem HandleCall.moves (law : Gated σ) (call : HandleCall) (s : StoreHandle σ × ω) :
    Moves s (call.perform s) := by
  unfold HandleCall.perform
  cases call with
  | acquire =>
    show Moves s (Step.after StoreHandle.acquire s)
    obtain ⟨t, hacquire, hmoves, _, _⟩ | ⟨stop, t, hacquire, hmoves, _, _⟩ := acquire_cases law s
    · rwa [Step.after_of_ok hacquire]
    · rwa [Step.after_of_error hacquire]
  | close => exact moves_close law s
  -- Results do not count for the moves.
  | count =>
    rw [HandleCall.step, Step.after_discard]
    exact moves_onlyOpen .count s
  | read number =>
    rw [HandleCall.step, Step.after_discard]
    exact moves_onlyOpen (.read number) s
  | readSingle number =>
    rw [HandleCall.step, Step.after_discard]
    exact (use_cases law (uses_request (.read number)) s).1
  | allocate =>
    rw [HandleCall.step, Step.after_discard]
    exact moves_allocate law s
  | write number data => exact (use_cases law (uses_writeFitting number data) s).1
  | startBatch => exact moves_startBatch law s
  | endBatch => exact moves_close law s

/-- What is done with a handle is a sequence of moves. -/
theorem moves_run (law : Gated σ) (calls : List HandleCall) (s : StoreHandle σ × ω) :
    Moves s (run calls s) := by
  induction calls generalizing s with
  | nil => exact .refl
  | cons call rest ih =>
    have hmoves := call.moves law s
    rcases run_cons call rest s with hrun | hrun
    · rw [hrun]
      exact hmoves.trans (ih (call.perform s))
    · rwa [hrun]

/-- Outside of a batch a single operation releases the store, unless it ends the program. -/
theorem HandleCall.Single.released {call : HandleCall} (h : call.Single) (law : Gated σ)
    (hbatch : s.1.inBatch = false) (hpanics : ¬call.step.Panics s) :
    Released s (call.perform s) := by
  unfold HandleCall.perform
  cases h with
  | readSingle number =>
    rw [HandleCall.step, Step.panics_discard] at hpanics
    rw [HandleCall.step, Step.after_discard]
    exact (use_cases law (uses_request (.read number)) s).2 hbatch hpanics
  | write number data =>
    exact (use_cases law (uses_writeFitting number data) s).2 hbatch hpanics

end StoreHandle

namespace MemoryStore

/-- A call that does not act on whether the store is open. -/
private theorem keepsOpen_call {α : Type} (text : String) {act : MemoryStore → α × MemoryStore}
    (hact : ∀ m, (act m).2.isOpen = m.isOpen) :
    KeepsOpen (MemoryStore.call text act : HostStep MemoryHandle MemoryStore α) := by
  intro s hopen
  obtain ⟨h, m⟩ := s
  rw [Step.after, Step.outcome, call_apply]
  dsimp only
  cases m.plan.fault? text with
  | some fault => exact hopen
  | none => exact (hact _).trans hopen

/-- A store in memory is opened and closed by the calls for it, whatever faults it plans. -/
theorem gated : Gated MemoryHandle where
  openAt_ok := by
    intro path version s t _ hopen
    obtain ⟨-, rfl⟩ := eq_of_call_ok hopen
    rfl
  openAt_error := by
    intro path version s t stop hclosed hopen
    obtain rfl := eq_of_call_error hopen
    exact hclosed
  close_ok := by
    intro s t _ hclose
    obtain ⟨-, rfl⟩ := eq_of_call_ok hclose
    rfl
  read number := keepsOpen_call _ fun _ => rfl
  write number data := by
    apply keepsOpen_call
    intro m
    show (m.setSlot number (some data)).isOpen = m.isOpen
    unfold setSlot
    split <;> rfl
  count := keepsOpen_call _ fun _ => rfl
  nextFree := keepsOpen_call _ fun _ => rfl
  startBatch := keepsOpen_call _ fun _ => rfl
  endBatch := keepsOpen_call _ fun _ => rfl

end MemoryStore

namespace SlotFile

variable {f : SlotFile} {disk : Disk} {o : OpenSlots}

/-- Opening a file that fails leaves a closed handle and all files as they were. -/
theorem eq_of_openAt_error {path : String} {version : Nat} {t : SlotFile × Disk}
    {stop : Stop HostFault} (hclosed : f.open? = none)
    (hopen : SlotFile.openAt path version (f, disk) = .error stop t) :
    t.1 = f ∧ t.2.content = disk.content := by
  have hsteps := hopen
  simp only [SlotFile.openAt, SlotFile.close, onDisk, setOpened, Step.bind_apply, Step.get_apply,
    hclosed, Step.pure_apply] at hsteps
  have hparents := disk.content_makeParents path
  -- Each step of opening may fail, and no file has changed by then.
  rcases hmade : disk.makeParents path with ⟨_ | _, made⟩
  · simp only [hmade] at hsteps hparents
    rw [← (EStateM.Result.error.inj hsteps).2]
    exact ⟨rfl, hparents⟩
  rw [hmade] at hparents
  have hfiles := (made.content_openFile path).trans hparents
  rcases hfile : made.openFile path with ⟨_ | place, there⟩
  · simp only [hmade, hfile] at hsteps hfiles
    rw [← (EStateM.Result.error.inj hsteps).2]
    exact ⟨rfl, hfiles⟩
  rw [hfile] at hfiles
  -- An empty file gets a header, which does not fail.
  by_cases hempty : (there.content place).size = 0
  · rw [openAt_of_empty hclosed hmade hfile hempty] at hopen
    cases hopen
  simp only [hmade, hfile, hempty, if_false, Step.bind_apply, readHeader_apply] at hsteps
  split at hsteps
  · rename_i h u hread
    obtain rfl : u = (f, there) := by
      split at hread
      · cases hread
      · split at hread
        · exact (EStateM.Result.ok.inj hread).2.symm
        · cases hread
    -- The handle changes only after the header has been found good.
    rw [Step.ite_apply] at hsteps
    split at hsteps
    · rw [← (EStateM.Result.error.inj hsteps).2]
      exact ⟨rfl, hfiles⟩
    · cases hsteps
  · rename_i stop u hread
    rw [← (EStateM.Result.error.inj hsteps).2]
    obtain rfl : u = (f, there) := by
      split at hread
      · exact (EStateM.Result.error.inj hread).2.symm
      · split at hread
        · cases hread
        · exact (EStateM.Result.error.inj hread).2.symm
    exact ⟨rfl, hfiles⟩

variable [Allocator]

/-- A file in which a record was written stays open. -/
theorem isOpen_after_write (ho : f.open? = some o) (number : Nat) (data : Bytes) :
    ((SlotFile.write number data).after (f, disk)).1.open?.isSome = true := by
  by_cases hgood : number ≠ 0 ∧ data.length ≤ f.slotSize ∧ InReach f.slotSize number
  · obtain ⟨hn, hlength, hreach⟩ := hgood
    have hwrite : SlotFile.write number data (f, disk) = _ := write_apply ho hn hlength hreach
    -- The header is written outside of a batch, and the file stays open in both cases.
    cases hbatch : o.inBatch with
    | true =>
      rw [hbatch, Bool.not_true, if_neg (by decide)] at hwrite
      rw [Step.after_of_ok hwrite]
      rfl
    | false =>
      rw [hbatch, Bool.not_false, if_pos rfl, syncHeader_apply rfl] at hwrite
      rw [Step.after_of_ok hwrite]
      rfl
  · -- What is refused changes nothing.
    have hbad : f.open? = none ∨ number = 0 ∨ f.slotSize < data.length ∨
        ¬InReach f.slotSize number := by
      right
      by_contra hnot
      push Not at hnot
      exact hgood hnot
    obtain ⟨stop, hwrite⟩ := write_refused number data disk hbad
    rw [Step.after_of_error hwrite, ho]
    rfl

/-- A store file is opened and closed by the requests for it. -/
theorem gated : Gated SlotFile where
  openAt_ok := by
    intro path version s t hclosed hopen
    cases opening_of_openAt (Option.isNone_iff_eq_none.1 (Option.isSome_eq_false_iff.1 hclosed))
      hopen with
    | created place there _ _ _ ht => rw [ht]; rfl
    | found place h there _ _ _ _ _ ht => rw [ht]; rfl
  openAt_error := by
    -- An opening that fails leaves the store as it found it, which was closed.
    intro path version s t stop hclosed hopen
    obtain ⟨hsame, _⟩ := eq_of_openAt_error
      (Option.isNone_iff_eq_none.1 (Option.isSome_eq_false_iff.1 hclosed)) hopen
    rw [hsame]
    exact hclosed
  close_ok := by
    intro s t hopen hclose
    obtain ⟨o, ho⟩ := Option.isSome_iff_exists.1 hopen
    obtain ⟨-, rfl⟩ := EStateM.Result.ok.inj (hclose.symm.trans (close_apply ho))
    rfl
  read := by
    intro number s hopen
    have hsame : (RecordStore.read number).after s = s := after_read number s
    rw [hsame]
    exact hopen
  write := by
    intro number data s hopen
    obtain ⟨o, ho⟩ := Option.isSome_iff_exists.1 hopen
    exact isOpen_after_write ho number data
  count := by
    intro s hopen
    obtain ⟨o, ho⟩ := Option.isSome_iff_exists.1 hopen
    rw [show RecordStore.count.after s = s from Step.after_of_ok (count_apply ho)]
    exact hopen
  nextFree := by
    -- Whether or not there is a number left to hand out, the file stays open.
    intro s hopen
    obtain ⟨o, ho⟩ := Option.isSome_iff_exists.1 hopen
    have hnext : SlotFile.nextFree (s.1, s.2) = _ := nextFree_apply ho
    split at hnext
    · rw [show RecordStore.nextFree.after s = _ from Step.after_of_error hnext]
      exact hopen
    · rw [show RecordStore.nextFree.after s = _ from Step.after_of_ok hnext]
      rfl
  startBatch := by
    intro s hopen
    obtain ⟨o, ho⟩ := Option.isSome_iff_exists.1 hopen
    rw [show RecordStore.startBatch.after s = _ from Step.after_of_ok (startBatch_apply ho)]
    rfl
  endBatch := by
    intro s hopen
    obtain ⟨o, ho⟩ := Option.isSome_iff_exists.1 hopen
    have hend : SlotFile.endBatch (s.1, s.2) = _ := (endBatch_apply ho).trans (syncHeader_apply rfl)
    rw [show RecordStore.endBatch.after s = _ from Step.after_of_ok hend]
    rfl

end SlotFile

end Ballroom
