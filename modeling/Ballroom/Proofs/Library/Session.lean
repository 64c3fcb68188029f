import Ballroom.Proofs.Library.Steps
import Ballroom.Library.Load

/-!
# Sessions

What can be asked of a library, and the states that it reaches: a library is loaded, and
then requests follow in any order, whether they succeed or fail.  Between two requests
others may change the world, such as the disk that the store is on.
-/

namespace Ballroom.Library

variable {σ ω : Type} [RecordStore σ ω]

/-- A request to a library. -/
inductive Request where
  | write (song : Song) (now : Instant)
  | load (index : Int)
  | addTemporary (song : Song)
  | removeTemporary (index : Int)
  | startBatch
  | endBatch
  | close

/-- What a request leaves of a library and of the world around it.  A request that ends the
program leaves nothing to go on from, and the state is the one before it. -/
def Request.perform : Request → Library σ × ω → Library σ × ω
  | write song now, s => ((writeSong now).next (song, s)).2
  | load index, s => (loadEntry index).next s
  | addTemporary song, (lib, w) => ((lib.addTemporary song).2, w)
  | removeTemporary index, (lib, w) => ((lib.removeTemporary index).2, w)
  | startBatch, s => Step.next Library.startBatch s
  | endBatch, s => Step.next Library.endBatch s
  | close, s => Step.next Library.close s

/-- What a request leaves of a library and of the world around it, also if it ends the
program. -/
def Request.leave : Request → Library σ × ω → Library σ × ω
  | write song now, s => ((writeSong now).after (song, s)).2
  | load index, s => (loadEntry index).after s
  | addTemporary song, (lib, w) => ((lib.addTemporary song).2, w)
  | removeTemporary index, (lib, w) => ((lib.removeTemporary index).2, w)
  | startBatch, s => Step.after Library.startBatch s
  | endBatch, s => Step.after Library.endBatch s
  | close, s => Step.after Library.close s

/-- The request ends the program. -/
def Request.Panics : Request → Library σ × ω → Prop
  | write song now, s => (writeSong now).Panics (song, s)
  | load index, s => (loadEntry index).Panics s
  | addTemporary _, _ => False
  | removeTemporary _, _ => False
  | startBatch, s => Step.Panics Library.startBatch s
  | endBatch, s => Step.Panics Library.endBatch s
  | close, s => Step.Panics Library.close s

/-- A request that ends the program leaves the state of before, as nothing comes after it. -/
theorem Request.perform_of_panics {request : Request} {s : Library σ × ω}
    (h : request.Panics s) : request.perform s = s := by
  cases request with
  | write song now => exact congrArg Prod.snd (Step.next_of_panics h)
  | load index => exact Step.next_of_panics h
  | addTemporary song => exact h.elim
  | removeTemporary index => exact h.elim
  | startBatch => exact Step.next_of_panics h
  | endBatch => exact Step.next_of_panics h
  | close => exact Step.next_of_panics h

/-- What a request leaves is gone on from, unless the request has ended the program. -/
theorem Request.perform_of_not_panics {request : Request} {s : Library σ × ω}
    (h : ¬request.Panics s) : request.perform s = request.leave s := by
  cases request with
  | write song now => exact congrArg Prod.snd (Step.next_of_not_panics h)
  | load index => exact Step.next_of_not_panics h
  | addTemporary song => rfl
  | removeTemporary index => rfl
  | startBatch => exact Step.next_of_not_panics h
  | endBatch => exact Step.next_of_not_panics h
  | close => exact Step.next_of_not_panics h

/-- What holds before a request and of all that requests leave holds of what is gone on
from. -/
theorem Request.perform_keeps {P : Library σ × ω → Prop} (request : Request)
    {s : Library σ × ω} (hs : P s) (hleave : P (request.leave s)) : P (request.perform s) := by
  by_cases hpanics : request.Panics s
  · rwa [Request.perform_of_panics hpanics]
  · rwa [Request.perform_of_not_panics hpanics]

/-- Numbers of records have 32 bits: the store of a library that is to be loaded tells no
greater number. -/
def CountsWithin (handle : StoreHandle σ) (w : ω) : Prop :=
  ∀ opened n counted, StoreHandle.acquire (handle, w) = .ok () opened →
    StoreHandle.count opened = .ok n counted → n ≤ maxRecordNumber

/-- The states of a library: `start` says from which stores it is loaded, and `others` what
others may do to the world between two requests. -/
inductive Reachable (audio : AudioCheck ω) (tables : Tables) (start : StoreHandle σ → ω → Prop)
    (others : ω → ω → Prop) : Library σ → ω → Prop
  | load {handle : StoreHandle σ} {lib : Library σ} {w w' : ω} (hstart : start handle w)
      (hload : Library.load audio handle tables w = .ok lib w') :
      Reachable audio tables start others lib w'
  | request {lib : Library σ} {w : ω} (request : Request)
      (h : Reachable audio tables start others lib w) :
      Reachable audio tables start others (request.perform (lib, w)).1 (request.perform (lib, w)).2
  | others {lib : Library σ} {w w' : ω} (hothers : others w w')
      (h : Reachable audio tables start others lib w) : Reachable audio tables start others lib w'

/-- What is reached from some stores is reached from more of them. -/
theorem Reachable.mono {audio : AudioCheck ω} {tables : Tables}
    {start start' : StoreHandle σ → ω → Prop} {others : ω → ω → Prop}
    (hstart : ∀ handle w, start handle w → start' handle w) {lib : Library σ} {w : ω}
    (h : Reachable audio tables start others lib w) :
    Reachable audio tables start' others lib w := by
  induction h with
  | load hs hload => exact .load (hstart _ _ hs) hload
  | request request _ ih => exact .request request ih
  | others hothers _ ih => exact .others hothers ih

end Ballroom.Library
