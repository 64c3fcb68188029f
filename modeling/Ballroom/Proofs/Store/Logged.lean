import Ballroom.Proofs.Store.Openness

/-!
# A store that notes its calls

`Logged` is a store that notes which of its calls were made, whether it was open by then,
and whether they succeeded.  Otherwise it does what the store within it does: operations of
a handle come to the same, but for the log (`forget_run`).
-/

namespace Ballroom

/-- The calls that change a store or need it to be open. -/
inductive CallKind where
  | openAt
  | close
  | read
  | write
  | clear
  | count
  | nextFree
  | startBatch
  | endBatch
  deriving DecidableEq, Repr

/-- A call that a store has seen: whether the store was open, and whether the call succeeded. -/
structure SeenCall where
  kind : CallKind
  wasOpen : Bool
  succeeded : Bool
  deriving DecidableEq, Repr

/-- A store and the calls that it has seen, the latest last. -/
structure Logged (σ : Type) where
  store : σ
  log : List SeenCall := []

namespace Logged

variable {σ ω α : Type} [RecordStore σ ω]

/-- Does a step and notes it as a call of a kind. -/
def note (kind : CallKind) (step : HostStep σ ω α) : HostStep (Logged σ) ω α := fun (l, w) =>
  let wasOpen := RecordStore.isOpen l.store w
  match step (l.store, w) with
  | .ok a (store, w) => .ok a (⟨store, l.log ++ [⟨kind, wasOpen, true⟩]⟩, w)
  | .error stop (store, w) => .error stop (⟨store, l.log ++ [⟨kind, wasOpen, false⟩]⟩, w)

instance : RecordStore (Logged σ) ω where
  openAt path version := note .openAt (RecordStore.openAt path version)
  close := note .close RecordStore.close
  isOpen l w := RecordStore.isOpen l.store w
  read number := note .read (RecordStore.read number)
  write number data := note .write (RecordStore.write number data)
  clear number := note .clear (RecordStore.clear number)
  count := note .count RecordStore.count
  nextFree := note .nextFree RecordStore.nextFree
  recordSize l w := RecordStore.recordSize l.store w
  startBatch := note .startBatch RecordStore.startBatch
  endBatch := note .endBatch RecordStore.endBatch

variable {kind : CallKind} {step : HostStep σ ω α} {s t : Logged σ × ω}

/-- A noted call that succeeds has succeeded in the store. -/
theorem of_note_ok {a : α} (h : note kind step s = .ok a t) :
    step (s.1.store, s.2) = .ok a (t.1.store, t.2) ∧
      t.1.log = s.1.log ++ [⟨kind, RecordStore.isOpen s.1.store s.2, true⟩] := by
  unfold note at h
  dsimp only at h
  split at h
  · rename_i hstep
    obtain ⟨rfl, rfl⟩ := EStateM.Result.ok.inj h
    exact ⟨hstep, rfl⟩
  · cases h

/-- A noted call that fails has failed in the store. -/
theorem of_note_error {stop : Stop HostFault} (h : note kind step s = .error stop t) :
    step (s.1.store, s.2) = .error stop (t.1.store, t.2) ∧
      t.1.log = s.1.log ++ [⟨kind, RecordStore.isOpen s.1.store s.2, false⟩] := by
  unfold note at h
  dsimp only at h
  split at h
  · cases h
  · rename_i hstep
    obtain ⟨rfl, rfl⟩ := EStateM.Result.error.inj h
    exact ⟨hstep, rfl⟩

/-- A noted call does what the call does, and is noted. -/
theorem after_note (kind : CallKind) (step : HostStep σ ω α) (s : Logged σ × ω) :
    ∃ succeeded, (note kind step).after s =
      (⟨(step.after (s.1.store, s.2)).1,
        s.1.log ++ [⟨kind, RecordStore.isOpen s.1.store s.2, succeeded⟩]⟩,
        (step.after (s.1.store, s.2)).2) := by
  cases hnote : note kind step s with
  | ok a t =>
    obtain ⟨hstep, hlog⟩ := of_note_ok hnote
    rw [Step.after_of_ok hnote, Step.after_of_ok hstep]
    exact ⟨true, by rw [← hlog]⟩
  | error stop t =>
    obtain ⟨hstep, hlog⟩ := of_note_error hnote
    rw [Step.after_of_error hnote, Step.after_of_error hstep]
    exact ⟨false, by rw [← hlog]⟩

/-- Noting a call does not change whether the store stays open. -/
theorem keepsOpen_note (h : KeepsOpen step) : KeepsOpen (note kind step) := by
  intro s hopen
  obtain ⟨succeeded, hafter⟩ := after_note kind step s
  rw [hafter]
  exact h (s.1.store, s.2) hopen

/-- A store that notes its calls is opened and closed as the store within it is. -/
theorem gated (law : Gated σ) : Gated (Logged σ) where
  openAt_ok path version s t hclosed hopen :=
    law.openAt_ok path version (s.1.store, s.2) (t.1.store, t.2) hclosed (of_note_ok hopen).1
  openAt_error path version s t stop hclosed hopen :=
    law.openAt_error path version (s.1.store, s.2) (t.1.store, t.2) stop hclosed
      (of_note_error hopen).1
  close_ok s t hopen hclose :=
    law.close_ok (s.1.store, s.2) (t.1.store, t.2) hopen (of_note_ok hclose).1
  read number := keepsOpen_note (law.read number)
  write number data := keepsOpen_note (law.write number data)
  count := keepsOpen_note law.count
  nextFree := keepsOpen_note law.nextFree
  startBatch := keepsOpen_note law.startBatch
  endBatch := keepsOpen_note law.endBatch

/-- What a handle asks of an open store is noted as such. -/
theorem note_of_asks {step : HostStep (Logged σ) ω α} (h : Asks step) :
    ∃ kind step', step = note kind step' ∧ kind ≠ .openAt ∧ kind ≠ .startBatch ∧
      kind ≠ .endBatch := by
  cases h with
  | read number => exact ⟨.read, RecordStore.read number, rfl, by decide⟩
  | write number data => exact ⟨.write, RecordStore.write number data, rfl, by decide⟩
  | count => exact ⟨.count, RecordStore.count, rfl, by decide⟩
  | nextFree => exact ⟨.nextFree, RecordStore.nextFree, rfl, by decide⟩

end Logged

namespace StoreHandle

variable {σ ω α β : Type}

/-! ### Noting calls changes nothing else -/

/-- A handle on a store without the log of the store. -/
def forget (s : StoreHandle (Logged σ) × ω) : StoreHandle σ × ω :=
  ({ store := s.1.store.store, path := s.1.path, version := s.1.version, inBatch := s.1.inBatch },
    s.2)

/-- A step on a store that notes its calls does what a step on the store itself does. -/
def Mirrors (step : HandleStep (Logged σ) ω α) (step' : HandleStep σ ω α) : Prop :=
  ∀ s, step' (forget s) = Step.mapState forget (step s)

variable {step next : HandleStep (Logged σ) ω α} {step' next' : HandleStep σ ω α}

theorem mirrors_pure (a : α) : Mirrors (pure a : HandleStep (Logged σ) ω α) (pure a) :=
  fun _ => rfl

theorem mirrors_fail (cause : LibraryFault) :
    Mirrors (Step.fail cause : HandleStep (Logged σ) ω α) (Step.fail cause) :=
  fun _ => rfl

theorem mirrors_ofExcept (result : Except LibraryFault α) :
    Mirrors (Step.ofExcept result : HandleStep (Logged σ) ω α) (Step.ofExcept result) := by
  intro s
  cases result <;> rfl

theorem mirrors_setBatch (inBatch : Bool) :
    Mirrors (setBatch inBatch : HandleStep (Logged σ) ω Unit) (setBatch inBatch) :=
  fun _ => rfl

theorem Mirrors.ite (h : Mirrors step step') (h' : Mirrors next next') (c : Prop) [Decidable c] :
    Mirrors (if c then step else next) (if c then step' else next') := by
  split
  · exact h
  · exact h'

/-- Steps that mirror each other do so one after the other. -/
theorem Mirrors.bind {next : α → HandleStep (Logged σ) ω β} {next' : α → HandleStep σ ω β}
    (h : Mirrors step step') (hnext : ∀ a, Mirrors (next a) (next' a)) :
    Mirrors (step >>= next) (step' >>= next') := by
  intro s
  rw [Step.bind_apply, Step.bind_apply, h s]
  cases step s with
  | ok a t => exact hnext a t
  | error stop t => rfl

theorem Mirrors.discard (h : Mirrors step step') :
    Mirrors (Functor.discard step) (Functor.discard step') :=
  h.bind fun _ => mirrors_pure ()

/-- A step that looks at the handle and the world first. -/
theorem mirrors_get_bind {next : StoreHandle (Logged σ) × ω → HandleStep (Logged σ) ω α}
    {next' : StoreHandle σ × ω → HandleStep σ ω α} (h : ∀ s, Mirrors (next s) (next' (forget s))) :
    Mirrors (get >>= next) (get >>= next') :=
  fun s => h s s

theorem Mirrors.attempt (h : Mirrors step step') :
    Mirrors (Step.attempt step) (Step.attempt step') := by
  intro s
  rw [Step.attempt_apply, Step.attempt_apply, h s]
  rcases step s with ⟨a, t⟩ | ⟨cause | why, t⟩
  · rfl
  · rfl
  · rfl

variable [RecordStore σ ω]

theorem mirrors_request (kind : CallKind) (step : HostStep σ ω α) :
    Mirrors (request (Logged.note kind step)) (request step) := by
  intro s
  show request step ({ s.1 with store := s.1.store.store }, s.2) = _
  rw [request_apply, show s = (s.1, s.2) from rfl, request_apply, Logged.note]
  dsimp only
  cases step (s.1.store.store, s.2) <;> rfl

theorem mirrors_whenOpen {step : HandleStep (Logged σ) ω Unit} {step' : HandleStep σ ω Unit}
    (h : Mirrors step step') : Mirrors (whenOpen step) (whenOpen step') :=
  mirrors_get_bind fun s => h.ite (mirrors_pure ()) (s.1.isOpen s.2 = true)

theorem mirrors_acquire : Mirrors (acquire : HandleStep (Logged σ) ω Unit) acquire :=
  mirrors_get_bind fun s =>
    (mirrors_request .openAt (RecordStore.openAt s.1.path s.1.version)).ite (mirrors_pure ())
      ((!s.1.isOpen s.2) = true)

/-- Both stores are closed, and end their batches before. -/
theorem mirrors_close : Mirrors (close : HandleStep (Logged σ) ω Unit) close := by
  have hclose : Mirrors (whenOpen (request RecordStore.close) : HandleStep (Logged σ) ω Unit)
      (whenOpen (request RecordStore.close)) :=
    mirrors_whenOpen (mirrors_request .close RecordStore.close)
  have hend : Mirrors (whenOpen (request RecordStore.endBatch) : HandleStep (Logged σ) ω Unit)
      (whenOpen (request RecordStore.endBatch)) :=
    mirrors_whenOpen (mirrors_request .endBatch RecordStore.endBatch)
  apply mirrors_get_bind
  -- The mark is taken off before the store is asked to end its batch.
  intro s
  exact ((mirrors_setBatch false).bind fun _ => hend.bind fun _ => hclose).ite hclose
    (s.1.inBatch = true)

theorem mirrors_onlyOpen (kind : CallKind) (step : HostStep σ ω α) :
    Mirrors (onlyOpen (Logged.note kind step)) (onlyOpen step) :=
  mirrors_get_bind fun s =>
    (mirrors_request kind step).ite (mirrors_fail .storeClosed) (s.1.isOpen s.2 = true)

theorem Mirrors.during {step : HandleStep (Logged σ) ω α} {step' : HandleStep σ ω α}
    (h : Mirrors step step') : Mirrors (during step) (during step') :=
  h.attempt.bind fun result =>
    Mirrors.bind (mirrors_get_bind fun s =>
      mirrors_close.ite (mirrors_pure ()) ((!s.1.inBatch) = true)) fun _ => mirrors_ofExcept result

theorem mirrors_writeFitting (number : Nat) (data : Bytes) :
    Mirrors (writeFitting number data : HandleStep (Logged σ) ω Unit)
      (writeFitting number data) := by
  apply mirrors_get_bind
  intro s
  have hwrite := mirrors_request .write (RecordStore.write number data : HostStep σ ω Unit)
  exact ((mirrors_fail _).bind fun _ => hwrite).ite hwrite _

theorem mirrors_startBatch : Mirrors (startBatch : HandleStep (Logged σ) ω Unit) startBatch := by
  apply mirrors_acquire.bind
  intro _
  apply mirrors_get_bind
  intro s
  have hstart := mirrors_request .startBatch (RecordStore.startBatch : HostStep σ ω Unit)
  exact (hstart.bind fun _ => mirrors_setBatch true).ite (mirrors_pure ()) ((!s.1.inBatch) = true)

/-- An operation on a store that notes its calls does what it does on the store itself. -/
theorem mirrors_step (call : HandleCall) :
    Mirrors (call.step : HandleStep (Logged σ) ω Unit) call.step := by
  cases call with
  | acquire => exact mirrors_acquire
  | close => exact mirrors_close
  | count => exact (mirrors_onlyOpen .count RecordStore.count).discard
  | read number => exact (mirrors_onlyOpen .read (RecordStore.read number)).discard
  | readSingle number =>
    have hread := mirrors_request .read (RecordStore.read number : HostStep σ ω (Option Bytes))
    exact Mirrors.discard (mirrors_acquire.bind fun _ => hread.during)
  | allocate =>
    have hnext := mirrors_request .nextFree (RecordStore.nextFree : HostStep σ ω Nat)
    exact Mirrors.discard (mirrors_acquire.bind fun _ => hnext)
  | write number data =>
    exact mirrors_acquire.bind fun _ => (mirrors_writeFitting number data).during
  | startBatch => exact mirrors_startBatch
  | endBatch => exact mirrors_close

/-- Whatever is done with a store that notes its calls comes to what it comes to with the
store itself. -/
theorem forget_run (calls : List HandleCall) (s : StoreHandle (Logged σ) × ω) :
    forget (run calls s) = run calls (forget s) := by
  -- On the calls, from any state of the two stores.
  induction calls generalizing s with
  | nil => rfl
  | cons call rest ih =>
    -- The run goes on, or ends, on both stores alike.
    rw [run, run, mirrors_step call s]
    rcases call.step s with ⟨a, t⟩ | ⟨cause | why, t⟩
    · exact ih t
    · exact ih t
    · rfl

end StoreHandle

end Ballroom
