import BpEngine.Library.Program

/-!
# One program run to its end, or to a crash

`Program.mapError` and `Program.settle` change the errors of a program, `Program.embed` its operations.
`Program.runWith` serves the operations of a program one after another; it proposes an answer to each
and the world may overrule it.  A program out of proposals has crashed.  `Obeys.runWith` is the rule: a
relation of world and phase that serving keeps holds after the run, in the phase its trace leads to.
-/

namespace BpEngine

namespace Program

variable {σ Op : Type} {Ans : Op → Type} {ε ε' α : Type}

/-- Changes the error of a failure. -/
def mapError (f : ε → ε') : Program Op Ans ε α → Program Op Ans ε' α
  | .ret value => .ret value
  | .fail error => .fail (f error)
  | .perform op next => .perform op fun answer => (next answer).mapError f

/-- Returns how the program ended; nothing is left to fail with. -/
def settle : Program Op Ans ε α → Program Op Ans ε' (Except ε α)
  | .ret value => .ret (.ok value)
  | .fail error => .ret (.error error)
  | .perform op next => .perform op fun answer => (next answer).settle

theorem Only.mapError {S : Op → Prop} {E : ε → Prop} {E' : ε' → Prop} {f : ε → ε'}
    {program : Program Op Ans ε α} (h : Only S E program) (hE : ∀ error, E error → E' (f error)) :
    Only S E' (program.mapError f) := by
  induction program with
  | ret value => trivial
  | fail error => exact hE error h
  | perform op next ih => exact ⟨h.1, fun answer => ih answer (h.2 answer)⟩

section Embed

variable {Op' : Type} {Ans' : Op' → Type}

/-- The program with each operation in its place among others. -/
def embed (f : Op → Op') (g : ∀ op, Ans' (f op) → Ans op) :
    Program Op Ans ε α → Program Op' Ans' ε α
  | .ret value => .ret value
  | .fail error => .fail error
  | .perform op next => .perform (f op) fun answer => (next (g op answer)).embed f g

end Embed

/-! ## Running -/

/-- A run: the world it leaves, the operations it performed (newest first), and how it ended unless
it crashed. -/
structure Ran (σ Op : Type) (Ans : Op → Type) (ε α : Type) where
  world : σ
  trace : List (Σ op, Ans op)
  result : Option (Except ε α)

/-- Runs a program on proposed answers; out of proposals, it crashes before its next operation. -/
def runWith (serve : σ → (op : Op) → Ans op → Ans op × σ) :
    Program Op Ans ε α → List ((op : Op) → Ans op) → σ → Ran σ Op Ans ε α
  | .ret value, _, world => ⟨world, [], some (.ok value)⟩
  | .fail error, _, world => ⟨world, [], some (.error error)⟩
  | .perform _ _, [], world => ⟨world, [], none⟩
  | .perform op next, propose :: proposals, world =>
    let (answer, after) := serve world op (propose op)
    let ran := (next answer).runWith serve proposals after
    { ran with trace := ran.trace ++ [⟨op, answer⟩] }

end Program

namespace Protocol

variable {σ Op : Type} {Ans : Op → Type} {Φ ε ε' α β : Type} {P : Protocol Op Ans Φ} {phase : Φ}

@[simp] theorem obeys_mapError {f : ε → ε'} {program : Program Op Ans ε α}
    {done : Φ → Except ε' α → Prop} :
    P.Obeys done (program.mapError f) phase ↔
      P.Obeys (fun phase result => done phase (result.mapError f)) program phase := by
  induction program generalizing phase with
  | ret value => rfl
  | fail error => rfl
  | perform op next ih =>
    simp only [Program.mapError, obeys_perform]
    exact and_congr_right fun _ => forall_congr' fun answer => imp_congr_right fun _ => ih answer

@[simp] theorem obeys_settle {program : Program Op Ans ε β}
    {done : Φ → Except ε' (Except ε β) → Prop} :
    P.Obeys done (program.settle) phase ↔
      P.Obeys (fun phase result => done phase (.ok result)) program phase := by
  induction program generalizing phase with
  | ret value => rfl
  | fail error => rfl
  | perform op next ih =>
    simp only [Program.settle, obeys_perform]
    exact and_congr_right fun _ => forall_congr' fun answer => imp_congr_right fun _ => ih answer

/-- The phase after the operations of a trace and the ones before them. -/
theorem after_append (start : Φ) (late early : List (Σ op, Ans op)) :
    P.after start (late ++ early) = P.after (P.after start early) late := by
  simp [after, List.foldr_append]

/-- **The rule of a run**: what serving an allowed operation keeps holds at the end of a run, and the
phase of a run that ended is as `done` says. -/
theorem Obeys.runWith {serve : σ → (op : Op) → Ans op → Ans op × σ} {J : σ → Φ → Prop}
    (hserve : ∀ world phase op proposal, J world phase → P.allowed phase op →
      P.expects phase op (serve world op proposal).1 ∧
        J (serve world op proposal).2 (P.next phase op (serve world op proposal).1))
    {done : Φ → Except ε α → Prop} {program : Program Op Ans ε α} (h : P.Obeys done program phase)
    (proposals : List ((op : Op) → Ans op)) {world : σ} (hworld : J world phase) :
    J (program.runWith serve proposals world).world
        (P.after phase (program.runWith serve proposals world).trace) ∧
      ∀ result, (program.runWith serve proposals world).result = some result →
        done (P.after phase (program.runWith serve proposals world).trace) result := by
  induction program generalizing phase world proposals with
  | ret value =>
    refine ⟨hworld, fun result hresult => ?_⟩
    cases hresult
    exact h
  | fail error =>
    refine ⟨hworld, fun result hresult => ?_⟩
    cases hresult
    exact h
  | perform op next ih =>
    cases proposals with
    | nil => exact ⟨hworld, fun result hresult => by cases hresult⟩
    | cons propose proposals =>
      obtain ⟨hexpects, hkept⟩ := hserve world phase op (propose op) hworld h.1
      have hrest := ih _ (h.2 _ hexpects) proposals hkept
      simpa [Program.runWith, after_append] using hrest

end Protocol

end BpEngine
