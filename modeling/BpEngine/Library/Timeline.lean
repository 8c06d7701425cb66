import BpEngine.Library.Program

/-!
# A program on a clock trace

One program alone, with the time that passes before each of its operations given.

* `Clockwork` says how long an operation pauses and how a clock reading is answered.
* `Program.timeline` is the list of the moments at which the operations start.
* `Protocol.Obeys.timeline` reads a program's protocol off its timeline.
-/

namespace BpEngine

variable {Op : Type} {Ans : Op → Type} {ε α Φ : Type}

/-- How operations use time: the pause an operation makes, and its answer at an instant. -/
structure Clockwork (Op : Type) (Ans : Op → Type) where
  pause : Op → ℤ
  read : ℤ → (op : Op) → Ans op → Ans op

/-- One step of a clock trace: the time that passes before the operation, and its answer. -/
structure ClockStep (Op : Type) (Ans : Op → Type) where
  elapse : ℕ
  answers : (op : Op) → Ans op

/-- An operation that starts at an instant, the time that passed before it, and its answer. -/
structure Moment (Op : Type) (Ans : Op → Type) where
  elapse : ℕ
  instant : ℤ
  op : Op
  answer : Ans op

/-- The moments of a program that starts at `now` and runs on the clock trace. -/
def Program.timeline (C : Clockwork Op Ans) : Program Op Ans ε α → (now : ℤ) →
    List (ClockStep Op Ans) → List (Moment Op Ans)
  | .perform op next, now, step :: steps =>
    let instant := now + step.elapse
    let answer := C.read instant op (step.answers op)
    ⟨step.elapse, instant, op, answer⟩ ::
      timeline C (next answer) (instant + max (C.pause op) 0) steps
  | _, _, _ => []

/-- **Induction along a timeline.**  What holds of the empty timeline in every phase, and is kept
when an allowed operation is put in front, holds of the timeline of a program that obeys. -/
theorem Protocol.Obeys.timeline {P : Protocol Op Ans Φ} {done : Φ → Except ε α → Prop}
    {C : Clockwork Op Ans} {R : Φ → ℤ → List (Moment Op Ans) → Prop}
    (hnil : ∀ phase now, R phase now [])
    (hcons : ∀ phase now op (elapse : ℕ) proposal moments, P.allowed phase op →
      R (P.next phase op (C.read (now + elapse) op proposal)) (now + elapse + max (C.pause op) 0)
        moments →
      R phase now (⟨elapse, now + elapse, op, C.read (now + elapse) op proposal⟩ :: moments))
    (hexpects : ∀ phase op answer, P.expects phase op answer)
    {program : Program Op Ans ε α} {phase : Φ} (h : P.Obeys done program phase) (now : ℤ)
    (steps : List (ClockStep Op Ans)) : R phase now (program.timeline C now steps) := by
  induction program generalizing phase now steps with
  | ret value => exact hnil phase now
  | fail error => exact hnil phase now
  | perform op next ih =>
    cases steps with
    | nil => exact hnil phase now
    | cons step steps =>
      exact hcons phase now op step.elapse _ _ h.1
        (ih _ (h.2 _ (hexpects _ _ _)) _ steps)

end BpEngine
