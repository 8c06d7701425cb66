import Mathlib.Tactic

/-!
# Programs that perform effects

A program returns, fails, or performs an operation and goes on with its answer.

* `bind`, `attempt`, `catchError` are sequencing and exception handling.
* `Only` says which operations a program performs and which errors it fails with; a protocol that
  takes no note of these operations is obeyed (`Obeys.of_only`).
* A `Protocol` says what a call may do in each phase, which answers it may rely on and which phase
  an answer leads to; `Obeys` says that a program keeps to it and ends as `done` says.
* The `obeys_` lemmas are the rules of the calculus, one for each way to build a program; the `ends_`
  lemmas are the ones for programs whose failures need no further care.
* `prod` is two protocols side by side.
-/

namespace BpEngine

/-- A program over the operations `Op`: it returns, fails, or goes on with an answer. -/
inductive Program (Op : Type) (Ans : Op → Type) (ε α : Type) : Type where
  | ret (value : α)
  | fail (error : ε)
  | perform (op : Op) (next : Ans op → Program Op Ans ε α)

namespace Program

variable {Op : Type} {Ans : Op → Type} {ε α β : Type}

/-- Runs `f` on what the program returns. -/
def bind : Program Op Ans ε α → (α → Program Op Ans ε β) → Program Op Ans ε β
  | .ret value, f => f value
  | .fail error, _ => .fail error
  | .perform op next, f => .perform op fun answer => (next answer).bind f

instance : Monad (Program Op Ans ε) where
  pure := .ret
  bind := bind

/-- One operation, and its answer. -/
def call (op : Op) : Program Op Ans ε (Ans op) := .perform op .ret

/-- A computation without effects. -/
def ofExcept : Except ε α → Program Op Ans ε α
  | .ok value => .ret value
  | .error error => .fail error

/-- Returns how the program ended. -/
def attempt : Program Op Ans ε α → Program Op Ans ε (Except ε α)
  | .ret value => .ret (.ok value)
  | .fail error => .ret (.error error)
  | .perform op next => .perform op fun answer => (next answer).attempt

/-- Runs `handler` on a failure. -/
def catchError (program : Program Op Ans ε α) (handler : ε → Program Op Ans ε α) :
    Program Op Ans ε α :=
  program.attempt.bind fun
    | .ok value => .ret value
    | .error error => handler error

/-! ## The operations of a program -/

/-- The program performs operations of `S` alone and fails with errors of `E` alone. -/
def Only (S : Op → Prop) (E : ε → Prop) : Program Op Ans ε α → Prop
  | .ret _ => True
  | .fail error => E error
  | .perform op next => S op ∧ ∀ answer, Only S E (next answer)

section Only

variable {S : Op → Prop} {E : ε → Prop}

@[simp] theorem only_ret {value : α} : Only S E (.ret value : Program Op Ans ε α) := trivial

@[simp] theorem only_pure {value : α} : Only S E (pure value : Program Op Ans ε α) := trivial

@[simp] theorem only_fail {error : ε} :
    Only S E (.fail error : Program Op Ans ε α) ↔ E error := Iff.rfl

@[simp] theorem only_call {op : Op} : Only S E (call op : Program Op Ans ε (Ans op)) ↔ S op :=
  ⟨fun h => h.1, fun h => ⟨h, fun _ => trivial⟩⟩

theorem only_ofExcept {x : Except ε α} (h : ∀ error, x = .error error → E error) :
    Only S E (ofExcept x : Program Op Ans ε α) := by
  cases x with
  | ok value => trivial
  | error error => exact h error rfl

theorem only_true (program : Program Op Ans ε α) :
    Only (fun _ => True) (fun _ => True) program := by
  induction program with
  | ret value => trivial
  | fail error => trivial
  | perform op next ih => exact ⟨trivial, ih⟩

theorem Only.bind {program : Program Op Ans ε β} {f : β → Program Op Ans ε α}
    (h : Only S E program) (hf : ∀ value, Only S E (f value)) : Only S E (program >>= f) := by
  change Only S E (program.bind f)
  induction program with
  | ret value => exact hf value
  | fail error => exact h
  | perform op next ih => exact ⟨h.1, fun answer => ih answer (h.2 answer)⟩

theorem Only.mono {S' : Op → Prop} {E' : ε → Prop} {program : Program Op Ans ε α}
    (h : Only S E program) (hS : ∀ op, S op → S' op) (hE : ∀ error, E error → E' error) :
    Only S' E' program := by
  induction program with
  | ret value => trivial
  | fail error => exact hE _ h
  | perform op next ih => exact ⟨hS op h.1, fun answer => ih answer (h.2 answer)⟩

theorem Only.attempt {program : Program Op Ans ε α} (h : Only S E program) :
    Only S (fun _ => False) program.attempt := by
  induction program with
  | ret value => trivial
  | fail error => trivial
  | perform op next ih => exact ⟨h.1, fun answer => ih answer (h.2 answer)⟩

end Only

end Program

/-! ## Protocols -/

/-- What a call may do: in a phase, the operations it may perform and the answers it may rely on,
and the phase an answer leads to. -/
structure Protocol (Op : Type) (Ans : Op → Type) (Φ : Type) where
  allowed : Φ → Op → Prop
  expects : Φ → (op : Op) → Ans op → Prop
  next : Φ → (op : Op) → Ans op → Φ

namespace Protocol

variable {Op : Type} {Ans : Op → Type} {Φ ε α β : Type} (P : Protocol Op Ans Φ)

/-- From the phase, the program performs what is allowed and ends as `done` says. -/
def Obeys (done : Φ → Except ε α → Prop) : Program Op Ans ε α → Φ → Prop
  | .ret value, phase => done phase (.ok value)
  | .fail error, phase => done phase (.error error)
  | .perform op next, phase =>
    P.allowed phase op ∧
      ∀ answer, P.expects phase op answer → Obeys done (next answer) (P.next phase op answer)

/-- The phase after a trace, newest entry first. -/
def after (start : Φ) (trace : List (Σ op, Ans op)) : Φ :=
  trace.foldr (fun entry phase => P.next phase entry.1 entry.2) start

@[simp] theorem after_nil (start : Φ) : P.after start [] = start := rfl

@[simp] theorem after_cons (start : Φ) (entry : Σ op, Ans op) (trace : List (Σ op, Ans op)) :
    P.after start (entry :: trace) = P.next (P.after start trace) entry.1 entry.2 := rfl

/-! ## The rules -/

section Rules

variable {P} {done done' : Φ → Except ε α → Prop} {phase : Φ}

@[simp] theorem obeys_ret {value : α} :
    P.Obeys done (.ret value) phase ↔ done phase (.ok value) := Iff.rfl

@[simp] theorem obeys_pure {value : α} :
    P.Obeys done (pure value) phase ↔ done phase (.ok value) := Iff.rfl

@[simp] theorem obeys_fail {error : ε} :
    P.Obeys done (.fail error) phase ↔ done phase (.error error) := Iff.rfl

@[simp] theorem obeys_perform {op : Op} {next : Ans op → Program Op Ans ε α} :
    P.Obeys done (.perform op next) phase ↔ P.allowed phase op ∧
      ∀ answer, P.expects phase op answer →
        P.Obeys done (next answer) (P.next phase op answer) := Iff.rfl

@[simp] theorem obeys_call {op : Op} {done : Φ → Except ε (Ans op) → Prop} :
    P.Obeys done (Program.call op) phase ↔ P.allowed phase op ∧
      ∀ answer, P.expects phase op answer → done (P.next phase op answer) (.ok answer) := Iff.rfl

@[simp] theorem obeys_ofExcept {x : Except ε α} :
    P.Obeys done (Program.ofExcept x) phase ↔ done phase x := by
  cases x <;> rfl

/-- **Sequencing**: the first part obeys, and what it returns is continued by a part that does. -/
@[simp] theorem obeys_bind {program : Program Op Ans ε β} {f : β → Program Op Ans ε α} :
    P.Obeys done (program >>= f) phase ↔
      P.Obeys (fun phase result => match result with
        | .ok value => P.Obeys done (f value) phase
        | .error error => done phase (.error error)) program phase := by
  change P.Obeys done (program.bind f) phase ↔ _
  induction program generalizing phase with
  | ret value => rfl
  | fail error => rfl
  | perform op next ih =>
    simp only [Program.bind, obeys_perform]
    exact and_congr_right fun _ => forall_congr' fun answer => imp_congr_right fun _ => ih answer

/-- One operation and what follows it. -/
theorem obeys_call_bind {op : Op} {f : Ans op → Program Op Ans ε α} :
    P.Obeys done (Program.call op >>= f) phase ↔ P.allowed phase op ∧
      ∀ answer, P.expects phase op answer → P.Obeys done (f answer) (P.next phase op answer) :=
  Iff.rfl

/-- **Sequencing** through a condition between the two parts. -/
theorem Obeys.bind {between : Φ → Except ε β → Prop} {program : Program Op Ans ε β}
    {f : β → Program Op Ans ε α} (h : P.Obeys between program phase)
    (hok : ∀ phase value, between phase (.ok value) → P.Obeys done (f value) phase)
    (herror : ∀ phase error, between phase (.error error) → done phase (.error error)) :
    P.Obeys done (program >>= f) phase := by
  change P.Obeys done (program.bind f) phase
  induction program generalizing phase with
  | ret value => exact hok _ _ h
  | fail error => exact herror _ _ h
  | perform op next ih => exact ⟨h.1, fun answer hanswer => ih answer (h.2 answer hanswer)⟩

/-- **Handling**: a failure is the result of the attempt. -/
@[simp] theorem obeys_attempt {program : Program Op Ans ε β}
    {done : Φ → Except ε (Except ε β) → Prop} :
    P.Obeys done program.attempt phase ↔
      P.Obeys (fun phase result => done phase (.ok result)) program phase := by
  induction program generalizing phase with
  | ret value => rfl
  | fail error => rfl
  | perform op next ih =>
    simp only [Program.attempt, obeys_perform]
    exact and_congr_right fun _ => forall_congr' fun answer => imp_congr_right fun _ => ih answer

@[simp] theorem obeys_catchError {program : Program Op Ans ε α}
    {handler : ε → Program Op Ans ε α} :
    P.Obeys done (program.catchError handler) phase ↔
      P.Obeys (fun phase result => match result with
        | .ok value => done phase (.ok value)
        | .error error => P.Obeys done (handler error) phase) program phase := by
  unfold Program.catchError
  change P.Obeys done (program.attempt >>= _) phase ↔ _
  rw [obeys_bind, obeys_attempt]
  constructor <;>
  · intro h
    convert h using 3 with phase result
    cases result <;> rfl

/-- **Consequence**: a weaker end. -/
theorem Obeys.mono {program : Program Op Ans ε α} (h : P.Obeys done program phase)
    (hdone : ∀ phase result, done phase result → done' phase result) :
    P.Obeys done' program phase := by
  induction program generalizing phase with
  | ret value => exact hdone _ _ h
  | fail error => exact hdone _ _ h
  | perform op next ih => exact ⟨h.1, fun answer hanswer => ih answer (h.2 answer hanswer)⟩

/-- **Framing**: operations the protocol allows and takes no note of leave the phase alone. -/
theorem Obeys.of_only {S : Op → Prop} {E : ε → Prop} {program : Program Op Ans ε α}
    (h : program.Only S E) (hallowed : ∀ op, S op → P.allowed phase op)
    (hnext : ∀ op answer, S op → P.next phase op answer = phase)
    (hok : ∀ value, done phase (.ok value)) (herror : ∀ error, E error → done phase (.error error)) :
    P.Obeys done program phase := by
  induction program with
  | ret value => exact hok value
  | fail error => exact herror error h
  | perform op next ih =>
    refine ⟨hallowed op h.1, fun answer _ => ?_⟩
    rw [hnext op answer h.1]
    exact ih answer (h.2 answer)

/-- **Framing** of a condition: operations that are allowed and keep it keep it to the end. -/
theorem Obeys.of_only_keep {S : Op → Prop} {E : ε → Prop} {J : Φ → Prop}
    {program : Program Op Ans ε α} (h : program.Only S E)
    (hallowed : ∀ phase op, J phase → S op → P.allowed phase op)
    (hnext : ∀ phase op answer, J phase → S op → J (P.next phase op answer)) (hJ : J phase) :
    P.Obeys (fun phase _ => J phase) program phase := by
  induction program generalizing phase with
  | ret value => exact hJ
  | fail error => exact hJ
  | perform op next ih =>
    exact ⟨hallowed phase op hJ h.1, fun answer _ => ih answer (h.2 answer) (hnext _ _ _ hJ h.1)⟩

/-! ### Two protocols at a time -/

/-- Both protocols, side by side. -/
def prod {Ψ : Type} (P : Protocol Op Ans Φ) (R : Protocol Op Ans Ψ) : Protocol Op Ans (Φ × Ψ) where
  allowed phase op := P.allowed phase.1 op ∧ R.allowed phase.2 op
  expects phase op answer := P.expects phase.1 op answer ∧ R.expects phase.2 op answer
  next phase op answer := (P.next phase.1 op answer, R.next phase.2 op answer)

/-- A program that obeys two protocols obeys both at a time. -/
theorem obeys_prod {Ψ : Type} {R : Protocol Op Ans Ψ} {ended : Ψ → Except ε α → Prop}
    {program : Program Op Ans ε α} {phase : Φ × Ψ} (hP : P.Obeys done program phase.1)
    (hR : R.Obeys ended program phase.2) :
    (P.prod R).Obeys (fun phase result => done phase.1 result ∧ ended phase.2 result) program
      phase := by
  induction program generalizing phase with
  | ret value => exact ⟨hP, hR⟩
  | fail error => exact ⟨hP, hR⟩
  | perform op next ih =>
    exact ⟨⟨hP.1, hR.1⟩, fun answer hanswer =>
      ih answer (hP.2 answer hanswer.1) (hR.2 answer hanswer.2)⟩

/-! ### Partial correctness -/

/-- The call fails, or returns a value that `Q` holds of. -/
def Ends (Q : Φ → α → Prop) (phase : Φ) (result : Except ε α) : Prop :=
  ∀ value, result = .ok value → Q phase value

variable {Q Q' : Φ → α → Prop} {R : Φ → β → Prop}

@[simp] theorem ends_ok {value : α} : Ends Q phase (.ok value : Except ε α) ↔ Q phase value :=
  ⟨fun h => h value rfl, fun h _ hvalue => Except.ok.inj hvalue ▸ h⟩

@[simp] theorem ends_error {error : ε} : Ends Q phase (.error error : Except ε α) :=
  fun _ hvalue => by cases hvalue

/-- **Sequencing** of triples. -/
theorem Obeys.ends_bind {program : Program Op Ans ε β} {f : β → Program Op Ans ε α}
    (h : P.Obeys (Ends R) program phase)
    (hf : ∀ phase value, R phase value → P.Obeys (Ends Q) (f value) phase) :
    P.Obeys (Ends Q) (program >>= f) phase :=
  h.bind (fun phase value hvalue => hf phase value (ends_ok.mp hvalue)) fun _ _ _ => ends_error

/-- **Consequence** for triples. -/
theorem Obeys.ends_mono {program : Program Op Ans ε α} (h : P.Obeys (Ends Q) program phase)
    (hQ : ∀ phase value, Q phase value → Q' phase value) : P.Obeys (Ends Q') program phase :=
  h.mono fun phase _ hresult value hvalue => hQ phase value (hresult value hvalue)

/-- A computation without effects goes on when it returns. -/
theorem Obeys.ends_ofExcept_bind {x : Except ε β} {f : β → Program Op Ans ε α}
    (hf : ∀ value, x = .ok value → P.Obeys (Ends Q) (f value) phase) :
    P.Obeys (Ends Q) (Program.ofExcept x >>= f) phase := by
  cases x with
  | error error => exact ends_error
  | ok value => exact hf value rfl

/-- One operation whose answer may be a failure, and what follows it. -/
theorem Obeys.ends_ask_bind {Res : Op → Type} {P : Protocol Op (fun op => Except ε (Res op)) Φ}
    {op : Op} {f : Res op → Program Op (fun op => Except ε (Res op)) ε α}
    (hallowed : P.allowed phase op)
    (hf : ∀ value, P.expects phase op (.ok value) →
      P.Obeys (Ends Q) (f value) (P.next phase op (.ok value))) :
    P.Obeys (Ends Q) ((Program.call op >>= Program.ofExcept) >>= f) phase := by
  rw [obeys_bind, obeys_call_bind]
  refine ⟨hallowed, fun answer hanswer => ?_⟩
  rw [obeys_ofExcept]
  cases answer with
  | error error => exact ends_error
  | ok value => exact hf value hanswer

/-- One operation whose answer may be a failure. -/
theorem Obeys.ends_ask {Res : Op → Type} {P : Protocol Op (fun op => Except ε (Res op)) Φ}
    {op : Op} {Q : Φ → Res op → Prop} (hallowed : P.allowed phase op)
    (hQ : ∀ value, P.expects phase op (.ok value) → Q (P.next phase op (.ok value)) value) :
    P.Obeys (Ends Q) (Program.call op >>= Program.ofExcept) phase := by
  rw [obeys_call_bind]
  refine ⟨hallowed, fun answer hanswer => ?_⟩
  rw [obeys_ofExcept]
  cases answer with
  | error error => exact ends_error
  | ok value => exact ends_ok.mpr (hQ value hanswer)

end Rules

end Protocol

end BpEngine
