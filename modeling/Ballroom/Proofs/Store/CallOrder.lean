import Ballroom.Proofs.Store.Logged
import Mathlib.Data.List.Chain

/-!
# The order of the calls that a store sees

Over every run of operations of a handle, whatever of the store's calls fail, the calls come
in order (`InOrder`): the store is opened when it is closed and asked anything else when it
is open, and batches are started and ended in turn.  Each move of the handle keeps this
(`Move.inOrder`), and so does every run (`inOrder_run`).
-/

namespace Ballroom.StoreHandle

variable {σ ω α : Type} [RecordStore σ ω]

/-! ### Batches in a log -/

/-- What a call says of batches: one has been started, or one has been ended, or at least
the store has been asked to. -/
def mark? (call : SeenCall) : Option Bool :=
  match call.kind with
  | .startBatch => if call.succeeded then some true else none
  | .endBatch => some false
  | _ => none

/-- The starts of batches that succeeded and the ends of batches, in a log. -/
def marks (log : List SeenCall) : List Bool := log.filterMap mark?

variable {s t : StoreHandle (Logged σ) × ω} {call : SeenCall}

/-- The log of a handle after a call that is noted. -/
theorem log_after_request (kind : CallKind) (step : HostStep σ ω α) {wasOpen : Bool}
    (hopen : s.1.isOpen s.2 = wasOpen) :
    ∃ succeeded, ((request (Logged.note kind step)).after s).1.store.log =
      s.1.store.log ++ [⟨kind, wasOpen, succeeded⟩] := by
  obtain ⟨succeeded, hafter⟩ := Logged.after_note kind step (s.1.store, s.2)
  refine ⟨succeeded, ?_⟩
  rw [after_request, hafter, ← hopen]
  rfl

/-- A call that succeeds is noted as such. -/
theorem log_of_request_ok {kind : CallKind} {step : HostStep σ ω α} {a : α} {wasOpen : Bool}
    (hopen : s.1.isOpen s.2 = wasOpen) (h : request (Logged.note kind step) s = .ok a t) :
    t.1.store.log = s.1.store.log ++ [⟨kind, wasOpen, true⟩] := by
  obtain ⟨handle, w⟩ := s
  rw [request_apply] at h
  cases hnote : Logged.note kind step (handle.store, w) with
  | error stop u => rw [hnote] at h; cases h
  | ok b u =>
    rw [hnote] at h
    obtain ⟨rfl, rfl⟩ := EStateM.Result.ok.inj h
    exact hopen ▸ (Logged.of_note_ok hnote).2

/-- A call that fails is noted as such. -/
theorem log_of_request_error {kind : CallKind} {step : HostStep σ ω α} {stop : Stop LibraryFault}
    {wasOpen : Bool} (hopen : s.1.isOpen s.2 = wasOpen)
    (h : request (Logged.note kind step) s = .error stop t) :
    t.1.store.log = s.1.store.log ++ [⟨kind, wasOpen, false⟩] := by
  obtain ⟨handle, w⟩ := s
  rw [request_apply] at h
  cases hnote : Logged.note kind step (handle.store, w) with
  | ok b u => rw [hnote] at h; cases h
  | error stop' u =>
    rw [hnote] at h
    obtain ⟨rfl, rfl⟩ := EStateM.Result.error.inj h
    exact hopen ▸ (Logged.of_note_error hnote).2

/-- Between two states of a handle its store has seen one call, made when it may be made;
the handle turns from one batch state to the other if and only if the call says so. -/
structure Sees (call : SeenCall) (s t : StoreHandle (Logged σ) × ω) : Prop where
  log : t.1.store.log = s.1.store.log ++ [call]
  opened : call.wasOpen = true ↔ call.kind ≠ .openAt
  marked : mark? call = none ∧ t.1.inBatch = s.1.inBatch ∨
    mark? call = some t.1.inBatch ∧ s.1.inBatch = !t.1.inBatch

/-- By each move the store sees one call, unless a handle leaves the batch of a store that is
closed already. -/
theorem Move.sees (h : Move s t) :
    (∃ call, Sees call s t) ∨
    s.1.isOpen s.2 = false ∧ t.1.store.log = s.1.store.log ∧ t.1.inBatch = false := by
  cases h with
  | openAt hclosed =>
    obtain ⟨succeeded, hlog⟩ :=
      log_after_request .openAt (RecordStore.openAt s.1.path s.1.version) hclosed
    exact .inl ⟨_, hlog, by simp, .inl ⟨rfl, by rw [after_request]⟩⟩
  | close hopen hbatch =>
    obtain ⟨succeeded, hlog⟩ := log_after_request .close RecordStore.close hopen
    exact .inl ⟨_, hlog, by simp, .inl ⟨rfl, by rw [after_request]⟩⟩
  | ask hask hopen =>
    obtain ⟨kind, step, rfl, hkind, hstart, hend⟩ := Logged.note_of_asks hask
    obtain ⟨succeeded, hlog⟩ := log_after_request kind step hopen
    have hmark : mark? ⟨kind, true, succeeded⟩ = none := by
      cases kind with
      | startBatch => exact absurd rfl hstart
      | endBatch => exact absurd rfl hend
      | _ => rfl
    exact .inl ⟨_, hlog, by simp [hkind], .inl ⟨hmark, by rw [after_request]⟩⟩
  | @startBatch _ u hopen hbatch hstart =>
    have hlog : u.1.store.log = _ := log_of_request_ok hopen hstart
    exact .inl ⟨_, hlog, by simp, .inr ⟨rfl, hbatch⟩⟩
  -- A batch that was not started leaves the handle out of it.
  | startBatchFails hopen hbatch hstart =>
    have hkept := after_request RecordStore.startBatch s
    rw [Step.after_of_error hstart] at hkept
    exact .inl ⟨_, log_of_request_error hopen hstart, by simp, .inl ⟨rfl, by rw [hkept]⟩⟩
  | endBatch hopen hbatch =>
    -- The handle is out of the batch by the time that the store is asked to end it.
    have hopen' : ({ s.1 with inBatch := false } : StoreHandle _).isOpen s.2 = true := hopen
    obtain ⟨succeeded, hlog⟩ := log_after_request .endBatch RecordStore.endBatch
      (s := ({ s.1 with inBatch := false }, s.2)) hopen'
    refine .inl ⟨_, hlog, by simp, .inr ⟨?_, ?_⟩⟩
    · rw [after_request]
      rfl
    · rw [after_request]
      exact hbatch
  | leaveBatch hclosed => exact .inr ⟨hclosed, rfl, rfl⟩

/-- A log only grows. -/
theorem Moves.log (h : Moves s t) : s.1.store.log <+: t.1.store.log := by
  induction h with
  | refl => exact List.prefix_refl _
  | tail _ hlast ih =>
    obtain ⟨call, hsees⟩ | ⟨_, hlog, _⟩ := hlast.sees
    · exact ih.trans ⟨[call], hsees.log.symm⟩
    · exact hlog ▸ ih

/-! ### Calls in order -/

/-- The calls that a store has seen come in order, up to a state of its handle. -/
structure InOrder (s : StoreHandle (Logged σ) × ω) : Prop where
  /-- There is a batch only while the store is open. -/
  held : Held s
  /-- A store is opened while it is closed, and asked anything else while it is open. -/
  opened : ∀ call ∈ s.1.store.log, call.wasOpen = true ↔ call.kind ≠ .openAt
  /-- Batches are started and ended in turn. -/
  alternating : (marks s.1.store.log).IsChain (· ≠ ·)
  /-- The first thing is to start one. -/
  begins : (marks s.1.store.log).head? ≠ some false
  /-- The handle is in a batch from its start to its end. -/
  inBatch_iff : s.1.inBatch = true ↔ (marks s.1.store.log).getLast? = some true

/-- A handle on a store that has seen no calls. -/
theorem inOrder_of_empty (hlog : s.1.store.log = []) (hbatch : s.1.inBatch = false) :
    InOrder s := by
  refine ⟨?_, ?_, ?_, ?_, ?_⟩
  · intro hin
    cases hbatch.symm.trans hin
  · simp [hlog]
  · simp [hlog, marks]
  · simp [hlog, marks]
  · simp [hlog, hbatch, marks]

/-- What a log in order has seen, and the call that it sees next, open a closed store or use
an open one. -/
theorem mem_of_sees (hsees : Sees call s t) (hs : InOrder s) :
    ∀ seen ∈ t.1.store.log, seen.wasOpen = true ↔ seen.kind ≠ .openAt := by
  intro seen hseen
  rw [hsees.log, List.mem_append, List.mem_singleton] at hseen
  rcases hseen with hseen | rfl
  · exact hs.opened seen hseen
  · exact hsees.opened

/-- A call that says nothing of batches leaves them in order. -/
theorem InOrder.quiet (hs : InOrder s) (hsees : Sees call s t) (hheld : Held t)
    (hmark : mark? call = none) (hbatch : t.1.inBatch = s.1.inBatch) : InOrder t := by
  have hmarks : marks t.1.store.log = marks s.1.store.log := by
    rw [hsees.log, marks, List.filterMap_append, List.filterMap_cons_none hmark,
      List.filterMap_nil, List.append_nil, marks]
  refine ⟨hheld, mem_of_sees hsees hs, hmarks ▸ hs.alternating, hmarks ▸ hs.begins, ?_⟩
  rw [hbatch, hmarks]
  exact hs.inBatch_iff

/-- A call that starts a batch where there is none, or ends the one that there is, is in
turn. -/
theorem InOrder.turn (hs : InOrder s) (hsees : Sees call s t) (hheld : Held t)
    (hmark : mark? call = some t.1.inBatch) (hbatch : s.1.inBatch = !t.1.inBatch) :
    InOrder t := by
  have hmarks : marks t.1.store.log = marks s.1.store.log ++ [t.1.inBatch] := by
    rw [hsees.log, marks, List.filterMap_append, List.filterMap_cons_some hmark,
      List.filterMap_nil, marks]
  have hiff := hs.inBatch_iff
  rw [hbatch] at hiff
  refine ⟨hheld, mem_of_sees hsees hs, ?_, ?_, ?_⟩
  · -- The mark differs from the last one.
    rw [hmarks, List.isChain_append]
    refine ⟨hs.alternating, List.isChain_singleton _, ?_⟩
    intro last hlast first hfirst hsame
    rw [List.head?_cons, Option.mem_some_iff] at hfirst
    rw [Option.mem_def, hsame, ← hfirst] at hlast
    rw [hlast] at hiff
    cases hb : t.1.inBatch <;> simp [hb] at hiff
  · -- There is an end only where a start is the last mark.
    rw [hmarks]
    cases hempty : marks s.1.store.log with
    | cons first rest =>
      have hbegins := hs.begins
      rw [hempty] at hbegins
      exact hbegins
    | nil =>
      rw [hempty] at hiff
      cases hb : t.1.inBatch <;> simp [hb] at hiff ⊢
  · rw [hmarks, List.getLast?_concat, Option.some.injEq]

/-- A move from a log in order leads to one. -/
theorem Move.inOrder (law : Gated σ) (h : Move s t) (hs : InOrder s) : InOrder t := by
  have hheld : Held t := h.held (Logged.gated law) hs.held
  obtain ⟨call, hsees⟩ | ⟨hclosed, hlog, hbatch⟩ := h.sees
  · -- The call marks the start or the end of a batch, or it is none of those.
    rcases hsees.marked with ⟨hmark, hbatch⟩ | ⟨hmark, hbatch⟩
    · exact hs.quiet hsees hheld hmark hbatch
    · exact hs.turn hsees hheld hmark hbatch
  · -- A closed store is in no batch, and its handle stays as it is.
    have hnone : s.1.inBatch = false := by
      cases hin : s.1.inBatch with
      | false => rfl
      | true => cases hclosed.symm.trans (hs.held hin)
    refine ⟨hheld, hlog ▸ hs.opened, hlog ▸ hs.alternating, hlog ▸ hs.begins, ?_⟩
    rw [hlog, ← hs.inBatch_iff, hbatch, hnone]

/-- Moves lead from a log in order to one. -/
theorem inOrder_of_moves (law : Gated σ) (h : Moves s t) (hs : InOrder s) : InOrder t :=
  h.keep (fun _ _ hmove => hmove.inOrder law) hs

/-! ### Every run of operations -/

/-- What a store has seen by a state of its handle, and what it will see of the operations
that are to leave it closed. -/
structure Disciplined (s : StoreHandle (Logged σ) × ω) : Prop where
  inOrder : InOrder s
  /-- A single operation outside of a batch leaves the store closed, whatever fails, unless
  the store has failed to close or the program has ended. -/
  single : ∀ call : HandleCall, call.Single → s.1.inBatch = false → ¬call.step.Panics s →
    ∃ later, (call.perform s).1.store.log = s.1.store.log ++ later ∧
      ((call.perform s).1.isOpen (call.perform s).2 = false ∨
        ∃ seen ∈ later, seen.kind = .close ∧ seen.succeeded = false)
  /-- Closing, or ending a batch, leaves the store closed and no batch if it succeeds. -/
  closed : ∀ t, close s = .ok () t ∨ endBatch s = .ok () t →
    t.1.isOpen t.2 = false ∧ t.1.inBatch = false

/-- A store that has been released is closed, or its log ends with a closing that failed. -/
theorem Released.log (h : Released s t) :
    t.1.isOpen t.2 = false ∨
      ∃ later, t.1.store.log = s.1.store.log ++ later ∧
        ∃ seen ∈ later, seen.kind = .close ∧ seen.succeeded = false := by
  rcases h.closed with hclosed | ⟨u, stop, hmoves, hopen, hclose⟩
  · exact .inl hclosed
  · right
    obtain ⟨later, hlater⟩ := hmoves.log
    have hlog := log_of_request_error hopen hclose
    rw [← hlater, List.append_assoc] at hlog
    exact ⟨_, hlog, _, List.mem_append_right _ (List.mem_singleton.2 rfl), rfl, rfl⟩

/-- What single operations and closing leave follows from how they end. -/
theorem disciplined_of_inOrder (law : Gated σ) (hs : InOrder s) : Disciplined s where
  inOrder := hs
  single := by
    intro call hsingle hbatch hpanics
    -- Outside of a batch an operation that ends has closed the store or failed to.
    have hreleased := hsingle.released (Logged.gated law) hbatch hpanics
    rcases hreleased.log with hclosed | ⟨later, hlog, hfailed⟩
    · obtain ⟨later, hlog⟩ := (call.moves (Logged.gated law) s).log
      exact ⟨later, hlog.symm, .inl hclosed⟩
    · exact ⟨later, hlog, .inr hfailed⟩
  closed := by
    intro t hresult
    -- Ending a batch is closing.
    have hclose : close s = .ok () t := hresult.elim id id
    cases closing (Logged.gated law) s with
    | closed u hresult _ hbatch hclosed _ =>
      obtain ⟨-, rfl⟩ := EStateM.Result.ok.inj (hresult.symm.trans hclose)
      exact ⟨hclosed, hbatch⟩
    -- An end of the batch or a close that failed is no success.
    | notEnded u stop hresult => cases hresult.symm.trans hclose
    | notClosed v u stop hresult => cases hresult.symm.trans hclose

/-- Over every run of operations of a handle on a store that has seen no calls, whatever of
the store's calls fail, the calls come in order, also if the run ends with the end of the
program; and the run comes to the same on the store that does not note its calls. -/
theorem disciplined_run (law : Gated σ) (store : σ) (path : String) (version : Nat) (w : ω)
    (calls : List HandleCall) :
    Disciplined (run calls (({ store := ⟨store, []⟩, path, version } : StoreHandle _), w)) ∧
      forget (run calls (({ store := ⟨store, []⟩, path, version } : StoreHandle _), w)) =
        run calls (({ store, path, version } : StoreHandle σ), w) := by
  have hmoves := moves_run (Logged.gated law) calls
    (({ store := ⟨store, []⟩, path, version } : StoreHandle _), w)
  exact ⟨disciplined_of_inOrder law (inOrder_of_moves law hmoves (inOrder_of_empty rfl rfl)),
    forget_run calls _⟩

/-- A batch that the store does not end, in a store that is closed all the same by the next
operation. -/
theorem disciplined_run_endBatch :
    let s := run [.startBatch, .write 1 [65], .endBatch, .readSingle 1]
      (({ store := ⟨⟨⟩, []⟩, path := "db", version := 1 } : StoreHandle (Logged MemoryHandle)),
        ({ plan := ⟨[("end_batch", .store (.other "disk full"))]⟩ } : MemoryStore))
    Disciplined s ∧ s.1.store.log =
      [⟨.openAt, false, true⟩, ⟨.startBatch, true, true⟩, ⟨.write, true, true⟩,
        ⟨.endBatch, true, false⟩, ⟨.read, true, true⟩, ⟨.close, true, true⟩] := by
  refine ⟨(disciplined_run MemoryStore.gated ⟨⟩ "db" 1 _ _).1, ?_⟩
  decide +kernel

end Ballroom.StoreHandle
