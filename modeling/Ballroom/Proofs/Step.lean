import Ballroom.Step

/-!
# Running steps

The result of each combinator of steps on a state, as rewriting rules: a composed step
applied to a state becomes the results of its parts.
-/

namespace Ballroom

/-- Faults that are passed on as they are change no stop. -/
@[simp] theorem Stop.map_id {ε : Type} (stop : Stop ε) : stop.map id = stop := by
  cases stop <;> rfl

namespace Step

variable {ε ε' σ τ α β : Type}

/-- The second part of a composed step runs on what the first one leaves, if that succeeds.
-/
@[simp] theorem bind_apply (step : EStateM ε σ α) (next : α → EStateM ε σ β) (s : σ) :
    (step >>= next) s =
      match step s with
      | .ok a s => next a s
      | .error stop s => .error stop s := rfl

@[simp] theorem pure_apply (a : α) (s : σ) : (pure a : Step ε σ α) s = .ok a s := rfl

@[simp] theorem get_apply (s : σ) : (get : Step ε σ σ) s = .ok s s := rfl

@[simp] theorem set_apply (t s : σ) : (set t : Step ε σ PUnit) s = .ok ⟨⟩ t := rfl

@[simp] theorem modify_apply (f : σ → σ) (s : σ) :
    (modify f : Step ε σ PUnit) s = .ok ⟨⟩ (f s) := rfl

@[simp] theorem fail_apply (cause : ε) (s : σ) :
    (fail cause : Step ε σ α) s = .error (.fault cause) s := rfl

@[simp] theorem panic_apply (why : Panic) (s : σ) :
    (panic why : Step ε σ α) s = .error (.panic why) s := rfl

@[simp] theorem ite_apply (c : Prop) [Decidable c] (yes no : Step ε σ α) (s : σ) :
    (if c then yes else no) s = if c then yes s else no s := by
  split <;> rfl

/-- A result as a step leaves the state as it is, also if it is a fault. -/
@[simp] theorem ofExcept_apply (result : Except ε α) (s : σ) :
    ofExcept result s =
      match result with
      | .ok a => .ok a s
      | .error cause => .error (.fault cause) s := rfl

/-- A step on a part runs on the part, and what it leaves there is put into the whole. -/
@[simp] theorem focus_apply (view : σ → τ) (update : σ → τ → σ) (f : ε → ε')
    (step : Step ε τ α) (s : σ) :
    focus view update f step s =
      match step (view s) with
      | .ok a t => .ok a (update s t)
      | .error stop t => .error (stop.map f) (update s t) := rfl

/-- An attempt answers what the step answers or fails with, and ends the program with it. -/
@[simp] theorem attempt_apply (step : Step ε σ α) (s : σ) :
    attempt step s =
      match step s with
      | .ok a s => .ok (.ok a) s
      | .error (.fault cause) s => .ok (.error cause) s
      | .error (.panic why) s => .error (.panic why) s := rfl

/-- The state that a step leaves, also if it ends the program. -/
def after (step : Step ε σ α) (s : σ) : σ := (step.outcome s).2

/-- What a step that succeeds leaves. -/
theorem after_of_ok {step : Step ε σ α} {s t : σ} {a : α} (h : step s = .ok a t) :
    step.after s = t := by
  rw [after, outcome, h]

/-- What a step that fails or ends the program leaves. -/
theorem after_of_error {step : Step ε σ α} {s t : σ} {stop : Stop ε}
    (h : step s = .error stop t) : step.after s = t := by
  rw [after, outcome, h]

/-- Steps that come to the same leave the same. -/
theorem after_congr {step step' : Step ε σ α} {s s' : σ} (h : step s = step' s') :
    step.after s = step'.after s' := by
  unfold after outcome
  rw [h]

/-- A composed step leaves what its second part leaves, or the first one if that fails. -/
theorem after_bind (step : Step ε σ α) (next : α → Step ε σ β) (s : σ) :
    (step >>= next).after s =
      match step s with
      | .ok a t => (next a).after t
      | .error _ t => t := by
  rw [after, outcome, bind_apply]
  cases step s <;> rfl

/-- A composed step succeeds if both of its parts do. -/
theorem bind_eq_ok_iff {step : Step ε σ α} {next : α → Step ε σ β} {s u : σ} {b : β} :
    (step >>= next) s = .ok b u ↔ ∃ a t, step s = .ok a t ∧ next a t = .ok b u := by
  rw [bind_apply]
  constructor
  · intro h
    cases hstep : step s with
    | ok a t =>
      rw [hstep] at h
      exact ⟨a, t, rfl, h⟩
    | error stop t =>
      rw [hstep] at h
      cases h
  · intro h
    obtain ⟨a, t, hstep, hnext⟩ := h
    rw [hstep]
    exact hnext

/-- What comes after a step and changes nothing can be left out. -/
theorem after_bind_of_same (step : Step ε σ α) {next : α → Step ε σ β}
    (h : ∀ a t, (next a).after t = t) (s : σ) : (step >>= next).after s = step.after s := by
  rw [after_bind]
  cases hstep : step s with
  | ok a t => exact (h a t).trans (after_of_ok hstep).symm
  | error stop t => exact (after_of_error hstep).symm

/-- An attempt leaves what the step leaves. -/
@[simp] theorem after_attempt (step : Step ε σ α) (s : σ) :
    (attempt step).after s = step.after s := by
  rw [after, after, outcome, outcome, attempt_apply]
  rcases step s with ⟨a, t⟩ | ⟨cause | why, t⟩
  · rfl
  · rfl
  · rfl

/-- An attempt comes to the outcome of the step, unless the step ends the program. -/
theorem attempt_cases (step : Step ε σ α) (s : σ) :
    (∃ a, step s = .ok a (step.after s) ∧ attempt step s = .ok (.ok a) (step.after s)) ∨
    (∃ cause, step s = .error (.fault cause) (step.after s) ∧
      attempt step s = .ok (.error cause) (step.after s)) ∨
    ∃ why, step s = .error (.panic why) (step.after s) ∧
      attempt step s = .error (.panic why) (step.after s) := by
  rw [attempt_apply]
  rcases hstep : step s with ⟨a, t⟩ | ⟨cause | why, t⟩
  · rw [after_of_ok hstep]
    exact .inl ⟨a, rfl, rfl⟩
  · rw [after_of_error hstep]
    exact .inr (.inl ⟨cause, rfl, rfl⟩)
  · rw [after_of_error hstep]
    exact .inr (.inr ⟨why, rfl, rfl⟩)

/-! ### The end of the program -/

/-- The step ends the program. -/
def Panics (step : Step ε σ α) (s : σ) : Prop := ∃ why t, step s = .error (.panic why) t

/-- What a step that succeeds leaves is gone on from. -/
theorem next_of_ok {step : Step ε σ α} {s t : σ} {a : α} (h : step s = .ok a t) :
    step.next s = t := by
  rw [next, h]

/-- What a step that fails leaves is gone on from. -/
theorem next_of_fault {step : Step ε σ α} {s t : σ} {cause : ε}
    (h : step s = .error (.fault cause) t) : step.next s = t := by
  rw [next, h]

/-- From the end of the program the state before it is gone on from. -/
theorem next_of_panics {step : Step ε σ α} {s : σ} (h : step.Panics s) : step.next s = s := by
  obtain ⟨why, t, hstep⟩ := h
  rw [next, hstep]

/-- Steps that come to the same end the program together. -/
theorem panics_congr {step step' : Step ε σ α} {s s' : σ} (h : step s = step' s') :
    step.Panics s ↔ step'.Panics s' := by
  unfold Panics
  rw [h]

/-- A step that comes to a result does not end the program. -/
theorem not_panics_of_ok {step : Step ε σ α} {s t : σ} {a : α} (h : step s = .ok a t) :
    ¬step.Panics s := by
  rintro ⟨why, u, hpanic⟩
  cases h.symm.trans hpanic

/-- A step that fails does not end the program. -/
theorem not_panics_of_fault {step : Step ε σ α} {s t : σ} {cause : ε}
    (h : step s = .error (.fault cause) t) : ¬step.Panics s := by
  rintro ⟨why, u, hpanic⟩
  cases h.symm.trans hpanic

/-- A composed step ends the program where its second part does, if the first succeeds. -/
theorem panics_bind_of_ok {step : Step ε σ α} {next : α → Step ε σ β} {s t : σ} {a : α}
    (h : step s = .ok a t) : (step >>= next).Panics s ↔ (next a).Panics t := by
  unfold Panics
  rw [bind_apply, h]

/-- A composed step whose first part fails ends the program only if that part does. -/
theorem panics_bind_of_error {step : Step ε σ α} {next : α → Step ε σ β} {s t : σ}
    {stop : Stop ε} (h : step s = .error stop t) :
    (step >>= next).Panics s ↔ ∃ why, stop = .panic why := by
  unfold Panics
  simp [bind_apply, h]

/-- What a step leaves is gone on from, unless it has ended the program. -/
theorem next_of_not_panics {step : Step ε σ α} {s : σ} (h : ¬step.Panics s) :
    step.next s = step.after s := by
  rcases hstep : step s with ⟨a, t⟩ | ⟨cause | why, t⟩
  · rw [next_of_ok hstep, after_of_ok hstep]
  · rw [next_of_fault hstep, after_of_error hstep]
  · exact absurd ⟨why, t, hstep⟩ h

/-- What holds before a step and of the state that it leaves holds of the one that is gone
on from. -/
theorem next_keeps {P : σ → Prop} (step : Step ε σ α) {s : σ} (hs : P s)
    (hafter : P (step.after s)) : P (step.next s) := by
  by_cases hpanics : step.Panics s
  · rwa [next_of_panics hpanics]
  · rwa [next_of_not_panics hpanics]

/-- A step without its result. -/
@[simp] theorem after_discard (step : Step ε σ α) (s : σ) :
    (discard step).after s = step.after s := by
  show (step >>= fun _ => pure ()).after s = step.after s
  exact after_bind_of_same step (fun _ _ => rfl) s

/-- A step ends the program whether its result is wanted or not. -/
theorem panics_discard (step : Step ε σ α) (s : σ) : (discard step).Panics s ↔ step.Panics s := by
  show (step >>= fun _ => pure ()).Panics s ↔ step.Panics s
  cases hstep : step s with
  | ok a t => rw [panics_bind_of_ok hstep]; simp [Panics, hstep]
  | error stop t => rw [panics_bind_of_error hstep]; simp [Panics, hstep]

/-- An attempt at a step that does not end the program succeeds. -/
theorem attempt_of_not_panics {step : Step ε σ α} {s : σ} (h : ¬step.Panics s) :
    ∃ result, attempt step s = .ok result (step.after s) := by
  obtain ⟨a, _, hattempt⟩ | ⟨cause, _, hattempt⟩ | ⟨why, hpanic, _⟩ := attempt_cases step s
  · exact ⟨_, hattempt⟩
  · exact ⟨_, hattempt⟩
  · exact absurd ⟨why, _, hpanic⟩ h

/-! ### Changed states -/

/-- A result with its state changed. -/
def mapState (f : σ → τ) : EStateM.Result (Stop ε) σ α → EStateM.Result (Stop ε) τ α
  | .ok a s => .ok a (f s)
  | .error stop s => .error stop (f s)

/-- A step that does the same to a changed state has the same result there. -/
theorem outcome_of_mapState {step : Step ε σ α} {step' : Step ε τ α} {f : σ → τ} {s : σ}
    (h : step' (f s) = mapState f (step s)) :
    (step'.outcome (f s)).1 = (step.outcome s).1 ∧ step'.next (f s) = f (step.next s) := by
  rw [next, next, outcome, outcome, h]
  rcases step s with ⟨a, t⟩ | ⟨cause | why, t⟩
  · exact ⟨rfl, rfl⟩
  · exact ⟨rfl, rfl⟩
  · exact ⟨rfl, rfl⟩

end Step

end Ballroom
