import BpEngine.Library.Machine
import BpEngine.Library.Program

/-!
# Calls that run side by side

A pool is a shared world and the calls that run in it.  One event lets one call perform its next
operation, starts a call, stops every call at once, or changes the world from outside; a call that
has reached its end is taken out by a step of its own and noted with the world it ended in.

* `Host` says what the calls run and how the world serves an operation.
* `Pool.exec` is one event, so `Machine.run` is an interleaving of any calls.
* `exec_world_cases` says what one event does to the world.
* `Pool.Inv` is the invariant of a pool of calls that obey a protocol; `inv_exec` is the step and
  `inv_run` the run, for the events a `Guard` lets pass; what a call performs is allowed
  (`Inv.allowed_of_performs`).
* `ended_exec` says which ends one event notes.
-/

namespace BpEngine

/-- What the calls run and how the world answers them: `serve` may ignore the proposed answer, and
an operation that is not served blocks its call. -/
structure Host (σ κ ω Op : Type) (Ans : Op → Type) (ε α : Type) where
  start : κ → Program Op Ans ε α
  serve : σ → (op : Op) → Ans op → Option (Ans op × σ)
  stop : σ → σ
  outside : σ → ω → σ

/-- A running call: its task, what it has performed so far (newest first), and what is left. -/
structure Call (κ Op : Type) (Ans : Op → Type) (ε α : Type) where
  task : κ
  trace : List (Σ op, Ans op)
  program : Program Op Ans ε α

/-- A call that has ended: its result and the world it ended in. -/
structure Ended (σ κ ε α : Type) where
  task : κ
  result : Except ε α
  world : σ

/-- The shared world, the running calls and the calls that have ended. -/
structure Pool (σ κ Op : Type) (Ans : Op → Type) (ε α : Type) where
  world : σ
  running : List (Call κ Op Ans ε α) := []
  ended : List (Ended σ κ ε α) := []

/-- One event: a call starts, the call at a place performs its next operation with a proposed
answer, every call is stopped, or the world changes. -/
inductive PoolEvent (κ ω Op : Type) (Ans : Op → Type) where
  | start (task : κ)
  | step (place : ℕ) (proposal : (op : Op) → Ans op)
  | stop
  | outside (change : ω)

namespace Pool

variable {σ κ ω Op : Type} {Ans : Op → Type} {ε α Φ : Type}

/-- The call at `place` ends. -/
def finish (pool : Pool σ κ Op Ans ε α) (place : ℕ) (task : κ) (result : Except ε α) :
    Pool σ κ Op Ans ε α :=
  { pool with
    running := pool.running.eraseIdx place
    ended := pool.ended ++ [⟨task, result, pool.world⟩] }

/-- The call at `place` performs its next operation, or ends. -/
def step (host : Host σ κ ω Op Ans ε α) (pool : Pool σ κ Op Ans ε α) (place : ℕ)
    (proposal : (op : Op) → Ans op) : Pool σ κ Op Ans ε α :=
  match pool.running[place]? with
  | none => pool
  | some call =>
    match call.program with
    | .ret value => pool.finish place call.task (.ok value)
    | .fail error => pool.finish place call.task (.error error)
    | .perform op next =>
      match host.serve pool.world op (proposal op) with
      | none => pool
      | some (answer, world) =>
        { pool with
          world
          running := pool.running.set place
            ⟨call.task, ⟨op, answer⟩ :: call.trace, next answer⟩ }

/-- One event. -/
def exec (host : Host σ κ ω Op Ans ε α) (pool : Pool σ κ Op Ans ε α) :
    PoolEvent κ ω Op Ans → Pool σ κ Op Ans ε α
  | .start task => { pool with running := pool.running ++ [⟨task, [], host.start task⟩] }
  | .step place proposal => pool.step host place proposal
  | .stop => { pool with world := host.stop pool.world, running := [] }
  | .outside change => { pool with world := host.outside pool.world change }

/-! ## What an event does -/

/-- The call an event lets perform an operation, and that operation with its answer. -/
def performs (host : Host σ κ ω Op Ans ε α) (pool : Pool σ κ Op Ans ε α) :
    PoolEvent κ ω Op Ans → Option (Call κ Op Ans ε α × Σ op, Ans op)
  | .step place proposal =>
    match pool.running[place]? with
    | none => none
    | some call =>
      match call.program with
      | .perform op _ =>
        (host.serve pool.world op (proposal op)).map fun served => (call, ⟨op, served.1⟩)
      | _ => none
  | _ => none

/-- The call that an event takes out at its end, and its result. -/
def endsAt (pool : Pool σ κ Op Ans ε α) :
    PoolEvent κ ω Op Ans → Option (Call κ Op Ans ε α × Except ε α)
  | .step place _ =>
    match pool.running[place]? with
    | none => none
    | some call =>
      match call.program with
      | .ret value => some (call, .ok value)
      | .fail error => some (call, .error error)
      | .perform _ _ => none
  | _ => none

/-- **An event notes at most one end**, with the world it happens in. -/
theorem ended_exec {host : Host σ κ ω Op Ans ε α} (pool : Pool σ κ Op Ans ε α)
    (event : PoolEvent κ ω Op Ans) :
    (pool.exec host event).ended = pool.ended ++
      ((pool.endsAt event).toList.map fun e => ⟨e.1.task, e.2, pool.world⟩) := by
  cases event with
  | start task => simp [exec, endsAt]
  | stop => simp [exec, endsAt]
  | outside change => simp [exec, endsAt]
  | step place proposal =>
    change (pool.step host place proposal).ended = _
    unfold step endsAt
    cases hcall : pool.running[place]? with
    | none => simp [hcall]
    | some call =>
      cases hprogram : call.program with
      | ret value => simp [hcall, hprogram, Pool.finish]
      | fail error => simp [hcall, hprogram, Pool.finish]
      | perform op next =>
        cases hserve : host.serve pool.world op (proposal op) with
        | none => simp [hcall, hprogram, hserve]
        | some served => simp [hcall, hprogram, hserve]

/-- **What an event does to the world**: nothing, a stop, a change from outside, or an operation of a
call. -/
theorem exec_world_cases (host : Host σ κ ω Op Ans ε α) (pool : Pool σ κ Op Ans ε α)
    (event : PoolEvent κ ω Op Ans) :
    (pool.exec host event).world = pool.world ∨
      (event = .stop ∧ (pool.exec host event).world = host.stop pool.world) ∨
        (∃ change, event = .outside change ∧
          (pool.exec host event).world = host.outside pool.world change) ∨
          ∃ call op proposal answer, pool.performs host event = some (call, ⟨op, answer⟩) ∧
            host.serve pool.world op proposal = some (answer, (pool.exec host event).world) := by
  cases event with
  | start task => exact .inl rfl
  | stop => exact .inr (.inl ⟨rfl, rfl⟩)
  | outside change => exact .inr (.inr (.inl ⟨change, rfl, rfl⟩))
  | step place proposal =>
    cases hcall : pool.running[place]? with
    | none => exact .inl (by simp only [exec, step, hcall])
    | some call =>
      cases hprogram : call.program with
      | ret value => exact .inl (by simp only [exec, step, hcall, hprogram, Pool.finish])
      | fail error => exact .inl (by simp only [exec, step, hcall, hprogram, Pool.finish])
      | perform op next =>
        cases hserve : host.serve pool.world op (proposal op) with
        | none => exact .inl (by simp only [exec, step, hcall, hprogram, hserve])
        | some served =>
          refine .inr (.inr (.inr ⟨call, op, proposal op, served.1, ?_, ?_⟩))
          · simp only [performs, hcall, hprogram, hserve, Option.map_some]
          · simp only [exec, step, hcall, hprogram, hserve]

/-! ## Calls that obey a protocol -/

/-- The phase a running call is in. -/
def phaseOf (P : Protocol Op Ans Φ) (start : κ → Φ) (call : Call κ Op Ans ε α) : Φ :=
  P.after (start call.task) call.trace

/-- Which calls may start, and which operations may be performed with which answers. -/
structure Guard (σ κ Op : Type) (Ans : Op → Type) (Φ : Type) where
  admits : κ → Prop
  permits : σ → List (κ × Φ) → κ → Φ → (op : Op) → Ans op → Prop

/-- The guard that lets everything pass. -/
def Guard.all : Guard σ κ Op Ans Φ := ⟨fun _ => True, fun _ _ _ _ _ _ => True⟩

/-- The tasks of the running calls with the phases they are in. -/
def phases (P : Protocol Op Ans Φ) (start : κ → Φ) (running : List (Call κ Op Ans ε α)) :
    List (κ × Φ) :=
  running.map fun call => (call.task, phaseOf P start call)

/-- The guard lets the event pass. -/
structure Guard.Passes (G : Guard σ κ Op Ans Φ) (host : Host σ κ ω Op Ans ε α)
    (P : Protocol Op Ans Φ) (start : κ → Φ) (pool : Pool σ κ Op Ans ε α)
    (event : PoolEvent κ ω Op Ans) : Prop where
  admits : ∀ task, event = .start task → G.admits task
  permits : ∀ call op answer, pool.performs host event = some (call, ⟨op, answer⟩) →
    G.permits pool.world (phases P start pool.running) call.task (phaseOf P start call) op answer

/-- Every running call was admitted and obeys the protocol from its phase on, and the world is as
`I` says of the phases. -/
structure Inv (G : Guard σ κ Op Ans Φ) (P : Protocol Op Ans Φ) (start : κ → Φ)
    (done : κ → Φ → Except ε α → Prop) (I : σ → List (κ × Φ) → Prop)
    (pool : Pool σ κ Op Ans ε α) : Prop where
  admitted : ∀ call ∈ pool.running, G.admits call.task
  obeys : ∀ call ∈ pool.running,
    P.Obeys (done call.task) call.program (phaseOf P start call)
  world : I pool.world (phases P start pool.running)

/-- What has to be shown of `I`: it is kept by every kind of event that passes the guard, and the
calls can rely on the answers. -/
structure Keeps (host : Host σ κ ω Op Ans ε α) (G : Guard σ κ Op Ans Φ) (P : Protocol Op Ans Φ)
    (start : κ → Φ) (done : κ → Φ → Except ε α → Prop) (I : σ → List (κ × Φ) → Prop) :
    Prop where
  obeys : ∀ task, G.admits task → P.Obeys (done task) (host.start task) (start task)
  start : ∀ world phases task, G.admits task → I world phases →
    I world (phases ++ [(task, start task)])
  serve : ∀ world before task phase later op proposal answer after,
    I world (before ++ (task, phase) :: later) → P.allowed phase op →
    host.serve world op proposal = some (answer, after) →
    G.permits world (before ++ (task, phase) :: later) task phase op answer →
    P.expects phase op answer ∧ I after (before ++ (task, P.next phase op answer) :: later)
  finish : ∀ world before entry later, I world (before ++ entry :: later) →
    I world (before ++ later)
  stop : ∀ world phases, I world phases → I (host.stop world) []
  outside : ∀ world phases change, I world phases → I (host.outside world change) phases

theorem split_at {l : List α} {i : ℕ} {x : α} (h : l[i]? = some x) :
    ∃ before later, l = before ++ x :: later ∧ before.length = i := by
  obtain ⟨hi, hx⟩ := List.getElem?_eq_some_iff.mp h
  refine ⟨l.take i, l.drop (i + 1), ?_, ?_⟩
  · rw [← hx, List.getElem_cons_drop, List.take_append_drop]
  · rw [List.length_take]
    omega

variable {host : Host σ κ ω Op Ans ε α} {G : Guard σ κ Op Ans Φ} {P : Protocol Op Ans Φ}
  {start : κ → Φ} {done : κ → Φ → Except ε α → Prop} {I : σ → List (κ × Φ) → Prop}

theorem Inv.finish (hkeeps : Keeps host G P start done I) {pool : Pool σ κ Op Ans ε α}
    (h : pool.Inv G P start done I) {place : ℕ} {call : Call κ Op Ans ε α}
    (hcall : pool.running[place]? = some call) (result : Except ε α) :
    (pool.finish place call.task result).Inv G P start done I := by
  obtain ⟨before, later, hsplit, hlength⟩ := split_at hcall
  have herase : pool.running.eraseIdx place = before ++ later := by
    rw [hsplit, ← hlength, List.eraseIdx_append_of_length_le le_rfl, Nat.sub_self,
      List.eraseIdx_cons_zero]
  have hstill : ∀ other ∈ pool.running.eraseIdx place, other ∈ pool.running := by
    intro other hother
    rw [herase] at hother
    rw [hsplit]
    rcases List.mem_append.mp hother with hin | hin
    · exact List.mem_append_left _ hin
    · exact List.mem_append_right _ (List.mem_cons_of_mem _ hin)
  refine ⟨fun other hother => h.admitted other (hstill other hother),
    fun other hother => h.obeys other (hstill other hother), ?_⟩
  · have hworld := h.world
    unfold phases at hworld ⊢
    change I pool.world ((pool.running.eraseIdx place).map _)
    rw [herase, List.map_append]
    rw [hsplit, List.map_append, List.map_cons] at hworld
    exact hkeeps.finish _ _ _ _ hworld

/-- **The step**: every event that passes keeps the invariant. -/
theorem inv_exec (hkeeps : Keeps host G P start done I) {pool : Pool σ κ Op Ans ε α}
    (h : pool.Inv G P start done I) {event : PoolEvent κ ω Op Ans}
    (hpasses : G.Passes host P start pool event) :
    (pool.exec host event).Inv G P start done I := by
  cases event with
  | start task =>
    refine ⟨fun call hcall => ?_, fun call hcall => ?_, ?_⟩
    · rcases List.mem_append.mp hcall with hin | hin
      · exact h.admitted call hin
      · rw [List.mem_singleton.mp hin]
        exact hpasses.admits task rfl
    · rcases List.mem_append.mp hcall with hin | hin
      · exact h.obeys call hin
      · rw [List.mem_singleton.mp hin]
        exact hkeeps.obeys task (hpasses.admits task rfl)
    · have hworld := hkeeps.start _ _ task (hpasses.admits task rfl) h.world
      unfold phases at hworld ⊢
      change I pool.world ((pool.running ++ [_]).map _)
      rw [List.map_append]
      exact hworld
  | stop =>
    exact ⟨fun call hcall => absurd hcall List.not_mem_nil,
      fun call hcall => absurd hcall List.not_mem_nil, hkeeps.stop _ _ h.world⟩
  | outside change => exact ⟨h.admitted, h.obeys, hkeeps.outside _ _ change h.world⟩
  | step place proposal =>
    change (pool.step host place proposal).Inv G P start done I
    unfold step
    cases hcall : pool.running[place]? with
    | none => exact h
    | some call =>
      cases hprogram : call.program with
      | ret value => simpa only [hprogram] using h.finish hkeeps hcall (.ok value)
      | fail error => simpa only [hprogram] using h.finish hkeeps hcall (.error error)
      | perform op next =>
        cases hserve : host.serve pool.world op (proposal op) with
        | none => simpa only [hprogram, hserve] using h
        | some served =>
          obtain ⟨answer, world⟩ := served
          simp only [hprogram, hserve]
          obtain ⟨before, later, hsplit, hlength⟩ := split_at hcall
          have hset : ∀ call', pool.running.set place call' = before ++ call' :: later := by
            intro call'
            rw [hsplit, ← hlength]
            simp
          have hmem : call ∈ pool.running := by
            rw [hsplit]
            exact List.mem_append_right _ List.mem_cons_self
          have hobeys := h.obeys call hmem
          rw [hprogram] at hobeys
          have hphases : phases P start pool.running = phases P start before ++
              (call.task, phaseOf P start call) :: phases P start later := by
            unfold phases
            rw [hsplit, List.map_append, List.map_cons]
          have hpermits := hpasses.permits call op answer
            (by simp [performs, hcall, hprogram, hserve])
          rw [hphases] at hpermits
          obtain ⟨hexpects, hafter⟩ :=
            hkeeps.serve _ _ _ _ _ _ _ _ _ (hphases ▸ h.world) hobeys.1 hserve hpermits
          refine ⟨fun other hother => ?_, fun other hother => ?_, ?_⟩
          · have hin : other ∈ before ++ ⟨call.task, ⟨op, answer⟩ :: call.trace, next answer⟩ ::
                later := hset _ ▸ hother
            rcases List.mem_append.mp hin with hin | hin
            · exact h.admitted other (hsplit ▸ List.mem_append_left _ hin)
            · rcases List.mem_cons.mp hin with rfl | hin
              · exact h.admitted call hmem
              · exact h.admitted other
                  (hsplit ▸ List.mem_append_right _ (List.mem_cons_of_mem _ hin))
          · have hin : other ∈ before ++ ⟨call.task, ⟨op, answer⟩ :: call.trace, next answer⟩ ::
                later := hset _ ▸ hother
            rcases List.mem_append.mp hin with hin | hin
            · exact h.obeys other (hsplit ▸ List.mem_append_left _ hin)
            · rcases List.mem_cons.mp hin with rfl | hin
              · exact hobeys.2 answer hexpects
              · exact h.obeys other (hsplit ▸ List.mem_append_right _ (List.mem_cons_of_mem _ hin))
          · unfold phases
            rw [hset, List.map_append, List.map_cons]
            exact hafter

/-- **The run**: every interleaving of events that pass keeps the invariant. -/
theorem inv_run (hkeeps : Keeps host G P start done I) {pool : Pool σ κ Op Ans ε α}
    (h : pool.Inv G P start done I) {events : List (PoolEvent κ ω Op Ans)}
    (hpasses : Machine.Along (exec host) (G.Passes host P start) pool events) :
    (Machine.run (exec host) pool events).Inv G P start done I := by
  induction events generalizing pool with
  | nil => exact h
  | cons event events ih => exact ih (inv_exec hkeeps h hpasses.1) hpasses.2

/-- Every event passes a guard that admits the started tasks and permits everything. -/
theorem Guard.along_passes (pool : Pool σ κ Op Ans ε α) (events : List (PoolEvent κ ω Op Ans))
    (hadmits : ∀ task, .start task ∈ events → G.admits task)
    (hpermits : ∀ world phases task phase op answer,
      G.permits world phases task phase op answer) :
    Machine.Along (exec host) (G.Passes host P start) pool events := by
  induction events generalizing pool with
  | nil => trivial
  | cons event events ih =>
    refine ⟨⟨fun task htask => hadmits task (htask ▸ List.mem_cons_self), ?_⟩, ?_⟩
    · exact fun _ _ _ _ => hpermits _ _ _ _ _ _
    · exact ih _ fun task htask => hadmits task (List.mem_cons_of_mem _ htask)

/-- **What a call performs is allowed** in the phase it is in, which is one of the phases. -/
theorem Inv.allowed_of_performs {pool : Pool σ κ Op Ans ε α} (h : pool.Inv G P start done I)
    {event : PoolEvent κ ω Op Ans} {call : Call κ Op Ans ε α} {op : Op} {answer : Ans op}
    (hperforms : pool.performs host event = some (call, ⟨op, answer⟩)) :
    (call.task, phaseOf P start call) ∈ phases P start pool.running ∧
      P.allowed (phaseOf P start call) op := by
  cases event with
  | start task => cases hperforms
  | stop => cases hperforms
  | outside change => cases hperforms
  | step place proposal =>
    unfold performs at hperforms
    cases hcall : pool.running[place]? with
    | none => simp [hcall] at hperforms
    | some running =>
      have hmem : running ∈ pool.running := List.mem_of_getElem? hcall
      have hobeys := h.obeys running hmem
      cases hprogram : running.program with
      | ret value => simp [hcall, hprogram] at hperforms
      | fail error => simp [hcall, hprogram] at hperforms
      | perform op' next =>
        simp only [hcall, hprogram, Option.map_eq_some_iff, Prod.mk.injEq] at hperforms
        obtain ⟨served, -, rfl, hop⟩ := hperforms
        obtain rfl := (Sigma.mk.inj hop).1
        rw [hprogram] at hobeys
        exact ⟨List.mem_map.mpr ⟨running, hmem, rfl⟩, hobeys.1⟩

/-- **A call that ends has kept to the protocol**: its phase is one of the phases, and its end is
as the protocol says. -/
theorem Inv.done_of_endsAt {pool : Pool σ κ Op Ans ε α} (h : pool.Inv G P start done I)
    {event : PoolEvent κ ω Op Ans} {call : Call κ Op Ans ε α} {result : Except ε α}
    (hend : pool.endsAt event = some (call, result)) :
    call ∈ pool.running ∧ done call.task (phaseOf P start call) result := by
  cases event with
  | start task => cases hend
  | stop => cases hend
  | outside change => cases hend
  | step place proposal =>
    unfold endsAt at hend
    cases hcall : pool.running[place]? with
    | none => simp [hcall] at hend
    | some other =>
      have hmem : other ∈ pool.running := List.mem_of_getElem? hcall
      have hobeys := h.obeys other hmem
      cases hprogram : other.program with
      | ret value =>
        simp only [hcall, hprogram, Option.some.injEq, Prod.mk.injEq] at hend
        obtain ⟨rfl, rfl⟩ := hend
        rw [hprogram] at hobeys
        exact ⟨hmem, hobeys⟩
      | fail error =>
        simp only [hcall, hprogram, Option.some.injEq, Prod.mk.injEq] at hend
        obtain ⟨rfl, rfl⟩ := hend
        rw [hprogram] at hobeys
        exact ⟨hmem, hobeys⟩
      | perform op next => simp [hcall, hprogram] at hend

end Pool

end BpEngine
