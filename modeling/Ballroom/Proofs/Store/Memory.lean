import Ballroom.Proofs.Store.Steady
import Ballroom.Store.Memory

/-!
# A store in memory that is only read

A store in memory tells of each slot what it holds, or the fault that is planned for
reading it.  Opening, counting, reading and closing leave the slots and the plan alone, so
the store is steady (`steady_of_holds`).
-/

namespace Ballroom.MemoryStore

/-- A call is noted, and then it fails as planned or does what it does. -/
theorem call_apply {α : Type} (text : String) (act : MemoryStore → α × MemoryStore)
    (h : MemoryHandle) (m : MemoryStore) :
    MemoryStore.call text act (h, m) =
      let m := { m with calls := text :: m.calls }
      match m.plan.fault? text with
      | some fault => .error (.fault fault) (h, m)
      | none => .ok (act m).1 (h, (act m).2) := rfl

variable {α : Type} {text : String} {act : MemoryStore → α × MemoryStore} {plan : FaultPlan}
  {slots : List (Option Bytes)}

/-- A call that succeeds has acted, after it was noted. -/
theorem eq_of_call_ok {s t : MemoryHandle × MemoryStore} {a : α}
    (hcall : MemoryStore.call text act s = .ok a t) :
    a = (act { s.2 with calls := text :: s.2.calls }).1 ∧
      t = (s.1, (act { s.2 with calls := text :: s.2.calls }).2) := by
  obtain ⟨h, m⟩ := s
  rw [call_apply] at hcall
  dsimp only at hcall ⊢
  split at hcall
  · cases hcall
  · obtain ⟨rfl, rfl⟩ := EStateM.Result.ok.inj hcall
    exact ⟨rfl, rfl⟩

/-- A call that fails has only been noted. -/
theorem eq_of_call_error {s t : MemoryHandle × MemoryStore} {stop : Stop HostFault}
    (hcall : MemoryStore.call text act s = .error stop t) :
    t = (s.1, { s.2 with calls := text :: s.2.calls }) := by
  obtain ⟨h, m⟩ := s
  rw [call_apply] at hcall
  dsimp only at hcall
  split at hcall
  · exact (EStateM.Result.error.inj hcall).2.symm
  · cases hcall

/-- What reading a slot comes to. -/
def told (plan : FaultPlan) (slots : List (Option Bytes)) (n : Nat) :
    Except HostFault (Option Bytes) :=
  match plan.fault? ("read " ++ toString n) with
  | some fault => .error fault
  | none => .ok (({ slots } : MemoryStore).slot? n)

/-- A store in memory with these slots and these faults. -/
structure Holds (plan : FaultPlan) (slots : List (Option Bytes))
    (s : MemoryHandle × MemoryStore) : Prop where
  plan : s.2.plan = plan
  slots : s.2.slots = slots

/-- Whatever its slots hold and whatever faults it plans, a store in memory is steady. -/
theorem steady_of_holds (path : String) (version : Nat) (hlength : slots.length ≤ maxRecordNumber) :
    Steady path version (told plan slots) (Holds plan slots) where
  openAt := by
    rintro s t ⟨rfl, rfl⟩ _ hopen
    obtain ⟨-, rfl⟩ := eq_of_call_ok hopen
    exact ⟨⟨rfl, rfl⟩, rfl⟩
  count := by
    rintro s n t ⟨rfl, rfl⟩ hisOpen hcount
    obtain ⟨rfl, rfl⟩ := eq_of_call_ok hcount
    exact ⟨⟨rfl, rfl⟩, hisOpen, hlength⟩
  read := by
    rintro n ⟨h, m⟩ ⟨rfl, rfl⟩ hisOpen
    -- A read that is planned to fail is answered with its fault, again and again.
    refine ⟨(h, { m with calls := ("read " ++ toString n) :: m.calls }), ?_, ⟨rfl, rfl⟩, hisOpen⟩
    have hread : RecordStore.read n (h, m) = MemoryStore.call ("read " ++ toString n)
      (fun m => (m.slot? n, m)) (h, m) := rfl
    rw [Step.attempt_apply, hread, call_apply, told]
    dsimp only
    cases m.plan.fault? ("read " ++ toString n) <;> rfl
  endBatch := by
    rintro s t ⟨rfl, rfl⟩ hend
    obtain ⟨-, rfl⟩ := eq_of_call_ok hend
    exact ⟨rfl, rfl⟩
  close := by
    rintro s t ⟨rfl, rfl⟩ hclose
    obtain ⟨-, rfl⟩ := eq_of_call_ok hclose
    exact ⟨⟨rfl, rfl⟩, rfl⟩

end Ballroom.MemoryStore
