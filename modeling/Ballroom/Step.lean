/-! # Steps

A step is a computation on a state that may fail and leaves a state in either case.
Steps on a part of a state become steps on the whole of it by `Step.focus`, and
`Step.attempt` turns a failure into a result, so that what follows it is still done.

A step may also end the program.  Nothing is done after that, and `Step.attempt` does not
turn it into a result either. -/

namespace Ballroom

/-- What ends the program. -/
inductive Panic where
  /-- A record number beyond the last one. -/
  | recordNumber
  /-- A place in a file beyond 64 bits. -/
  | offset
  /-- A buffer that cannot be had. -/
  | memory
  deriving DecidableEq, Repr

/-- Why a step comes to no result. -/
inductive Stop (ε : Type) where
  /-- A fault, which is told to whoever asked for the step. -/
  | fault (cause : ε)
  /-- The end of the program. -/
  | panic (why : Panic)

/-- Turns the fault of a part into one of the whole. -/
def Stop.map {ε ε' : Type} (f : ε → ε') : Stop ε → Stop ε'
  | fault cause => fault (f cause)
  | panic why => panic why

/-- A computation on a state that may fail, or end the program, and leaves a state in
either case. -/
abbrev Step (ε σ α : Type) := EStateM (Stop ε) σ α

namespace Step

variable {ε ε' σ τ α : Type}

/-- Fails. -/
def fail (cause : ε) : Step ε σ α := throw (.fault cause)

/-- Ends the program. -/
def panic (why : Panic) : Step ε σ α := throw (.panic why)

/-- A step on the part `view s` of a state, whose faults are turned into those of the
whole. -/
def focus (view : σ → τ) (update : σ → τ → σ) (fault : ε → ε') (step : Step ε τ α) :
    Step ε' σ α := fun s =>
  match step (view s) with
  | .ok a t => .ok a (update s t)
  | .error stop t => .error (stop.map fault) (update s t)

/-- A step whose failure is its result. -/
def attempt (step : Step ε σ α) : Step ε σ (Except ε α) := fun s =>
  match step s with
  | .ok a s => .ok (.ok a) s
  | .error (.fault cause) s => .ok (.error cause) s
  | .error (.panic why) s => .error (.panic why) s

/-- A result as a step that does nothing. -/
def ofExcept (result : Except ε α) : Step ε σ α := fun s =>
  match result with
  | .ok a => .ok a s
  | .error cause => .error (.fault cause) s

/-- The outcome of a step and the state that it leaves. -/
def outcome (step : Step ε σ α) (s : σ) : Except (Stop ε) α × σ :=
  match step s with
  | .ok a s => (.ok a, s)
  | .error stop s => (.error stop, s)

/-- The state that is gone on from after a step.  From the end of the program nothing goes
on: then it is the state before the step. -/
def next (step : Step ε σ α) (s : σ) : σ :=
  match step s with
  | .ok _ t => t
  | .error (.fault _) t => t
  | .error (.panic _) _ => s

end Step

end Ballroom
