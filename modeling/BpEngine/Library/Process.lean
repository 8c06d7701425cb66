import BpEngine.Library.Pool

/-!
# One program at a time

A process is a world in which at most one program runs: an event starts it, lets it perform its next
operation, crashes it, or changes the world from outside; starting while one runs does nothing.

* `Process.exec` is one event and `Machine.run` a run of many.
* `Process.Inv` is an invariant with one part for an idle world and one for the world of a running
  call and the phase it is in; `inv_exec` is its step and `inv_run` its run, for the events that a
  `Process.Guard` lets pass.
* `inv_run_of_finish` is what the end of a call establishes for the run that follows it.
-/

namespace BpEngine

/-- The world, the call that runs in it, and the calls that have ended. -/
structure Process (σ κ Op : Type) (Ans : Op → Type) (ε α : Type) where
  world : σ
  running : Option (Call κ Op Ans ε α) := none
  ended : List (Call κ Op Ans ε α × Except ε α) := []

/-- One event. -/
inductive ProcessEvent (κ ω Op : Type) (Ans : Op → Type) where
  | start (task : κ)
  | step (proposal : (op : Op) → Ans op)
  | crash
  | outside (change : ω)

namespace Process

variable {σ κ ω Op : Type} {Ans : Op → Type} {ε α Φ : Type}

/-- The running call performs its next operation, or ends. -/
def step (host : Host σ κ ω Op Ans ε α) (process : Process σ κ Op Ans ε α)
    (proposal : (op : Op) → Ans op) : Process σ κ Op Ans ε α :=
  match process.running with
  | none => process
  | some call =>
    match call.program with
    | .ret value =>
      { process with running := none, ended := process.ended ++ [(call, .ok value)] }
    | .fail error =>
      { process with running := none, ended := process.ended ++ [(call, .error error)] }
    | .perform op next =>
      match host.serve process.world op (proposal op) with
      | none => process
      | some (answer, world) =>
        { process with
          world
          running := some ⟨call.task, ⟨op, answer⟩ :: call.trace, next answer⟩ }

/-- One event. -/
def exec (host : Host σ κ ω Op Ans ε α) (process : Process σ κ Op Ans ε α) :
    ProcessEvent κ ω Op Ans → Process σ κ Op Ans ε α
  | .start task =>
    match process.running with
    | none => { process with running := some ⟨task, [], host.start task⟩ }
    | some _ => process
  | .step proposal => process.step host proposal
  | .crash => { process with world := host.stop process.world, running := none }
  | .outside change => { process with world := host.outside process.world change }

/-- The operation the event lets the running call perform, with its answer. -/
def performs (host : Host σ κ ω Op Ans ε α) (process : Process σ κ Op Ans ε α) :
    ProcessEvent κ ω Op Ans → Option (Call κ Op Ans ε α × Σ op, Ans op)
  | .step proposal =>
    match process.running with
    | none => none
    | some call =>
      match call.program with
      | .perform op _ =>
        (host.serve process.world op (proposal op)).map fun served => (call, ⟨op, served.1⟩)
      | _ => none
  | _ => none

/-- **What an event does to the world**: nothing, a crash, a change from outside, or an operation of
the running call. -/
theorem exec_world_cases (host : Host σ κ ω Op Ans ε α) (process : Process σ κ Op Ans ε α)
    (event : ProcessEvent κ ω Op Ans) :
    (process.exec host event).world = process.world ∨
      (event = .crash ∧ (process.exec host event).world = host.stop process.world) ∨
        (∃ change, event = .outside change ∧
          (process.exec host event).world = host.outside process.world change) ∨
          ∃ call op proposal answer,
            process.performs host event = some (call, ⟨op, answer⟩) ∧
              host.serve process.world op proposal = some (answer, (process.exec host event).world) := by
  cases event with
  | start task =>
    left
    simp only [exec]
    split <;> rfl
  | crash => exact .inr (.inl ⟨rfl, rfl⟩)
  | outside change => exact .inr (.inr (.inl ⟨change, rfl, rfl⟩))
  | step proposal =>
    cases hrunning : process.running with
    | none => exact .inl (by simp only [exec, step, hrunning])
    | some call =>
      cases hprogram : call.program with
      | ret value => exact .inl (by simp only [exec, step, hrunning, hprogram])
      | fail error => exact .inl (by simp only [exec, step, hrunning, hprogram])
      | perform op next =>
        cases hserve : host.serve process.world op (proposal op) with
        | none => exact .inl (by simp only [exec, step, hrunning, hprogram, hserve])
        | some served =>
          refine .inr (.inr (.inr ⟨call, op, proposal op, served.1, ?_, ?_⟩))
          · simp only [performs, hrunning, hprogram, hserve, Option.map_some]
          · simp only [exec, step, hrunning, hprogram, hserve]

/-! ## The invariant -/

/-- Which changes may come from outside, which ends a call may have, and whether it may crash. -/
structure Guard (σ κ ω Φ ε α : Type) where
  outside : σ → Option Φ → ω → Prop
  finish : κ → Φ → Except ε α → Prop
  crash : Prop

/-- The guard that lets everything pass. -/
def Guard.all : Guard σ κ ω Φ ε α := ⟨fun _ _ _ => True, fun _ _ _ => True, True⟩

variable (G : Guard σ κ ω Φ ε α) (P : Protocol Op Ans Φ) (start : κ → Φ)

/-- The phase of the running call. -/
def phase? (process : Process σ κ Op Ans ε α) : Option Φ :=
  process.running.map (Pool.phaseOf P start)

/-- The guard lets the event pass. -/
def Guard.Passes (process : Process σ κ Op Ans ε α) : ProcessEvent κ ω Op Ans → Prop
  | .start _ => True
  | .step _ => ∀ call, process.running = some call →
    (∀ value, call.program = .ret value → G.finish call.task (Pool.phaseOf P start call) (.ok value)) ∧
      ∀ error, call.program = .fail error →
        G.finish call.task (Pool.phaseOf P start call) (.error error)
  | .crash => G.crash
  | .outside change => G.outside process.world (process.phase? P start) change

instance Guard.decidablePasses [∀ world phase change, Decidable (G.outside world phase change)]
    [∀ task phase result, Decidable (G.finish task phase result)] [Decidable G.crash]
    (process : Process σ κ Op Ans ε α) :
    ∀ event : ProcessEvent κ ω Op Ans, Decidable (G.Passes P start process event)
  | .start _ => isTrue trivial
  | .crash => inferInstanceAs (Decidable G.crash)
  | .outside change => inferInstanceAs (Decidable (G.outside _ _ change))
  | .step _ =>
    match hrunning : process.running with
    | none => isTrue fun _ hcall => by rw [hrunning] at hcall; cases hcall
    | some call =>
      match hprogram : call.program with
      | .ret value =>
        decidable_of_iff (G.finish call.task (Pool.phaseOf P start call) (.ok value)) <| by
          simp [Passes, hrunning, hprogram]
      | .fail error =>
        decidable_of_iff (G.finish call.task (Pool.phaseOf P start call) (.error error)) <| by
          simp [Passes, hrunning, hprogram]
      | .perform _ _ => isTrue fun other hother => by
        rw [hrunning] at hother
        obtain rfl := Option.some.inj hother
        simp [hprogram]

/-- An idle world is as `I` says; a running call obeys the protocol from its phase on, and the world
and the phase are as `J` says. -/
def Inv (done : κ → Φ → Except ε α → Prop) (I : σ → Prop) (J : σ → Φ → Prop)
    (process : Process σ κ Op Ans ε α) : Prop :=
  match process.running with
  | none => I process.world
  | some call =>
    P.Obeys (done call.task) call.program (Pool.phaseOf P start call) ∧
      J process.world (Pool.phaseOf P start call)

/-- What has to be shown of `I` and `J`. -/
structure Keeps (host : Host σ κ ω Op Ans ε α) (done : κ → Φ → Except ε α → Prop) (I : σ → Prop)
    (J : σ → Φ → Prop) : Prop where
  obeys : ∀ task, P.Obeys (done task) (host.start task) (start task)
  start : ∀ world task, I world → J world (start task)
  serve : ∀ world phase op proposal answer after, J world phase → P.allowed phase op →
    host.serve world op proposal = some (answer, after) →
      P.expects phase op answer ∧ J after (P.next phase op answer)
  finish : ∀ world task phase result, J world phase → done task phase result →
    G.finish task phase result → I world
  stop : ∀ world, G.crash → I world → I (host.stop world)
  crash : ∀ world phase, G.crash → J world phase → I (host.stop world)
  idle : ∀ world change, G.outside world none change → I world → I (host.outside world change)
  outside : ∀ world phase change, G.outside world (some phase) change → J world phase →
    J (host.outside world change) phase

variable {G P start} {host : Host σ κ ω Op Ans ε α} {done : κ → Φ → Except ε α → Prop} {I : σ → Prop}
  {J : σ → Φ → Prop} {process : Process σ κ Op Ans ε α}

theorem Inv.of_idle (hrunning : process.running = none) :
    process.Inv P start done I J ↔ I process.world := by
  unfold Inv
  rw [hrunning]

theorem Inv.of_running {call : Call κ Op Ans ε α} (hrunning : process.running = some call) :
    process.Inv P start done I J ↔
      P.Obeys (done call.task) call.program (Pool.phaseOf P start call) ∧
        J process.world (Pool.phaseOf P start call) := by
  unfold Inv
  rw [hrunning]

/-- **The step**: every event that passes keeps the invariant. -/
theorem inv_exec (hkeeps : Keeps G P start host done I J) (h : process.Inv P start done I J)
    {event : ProcessEvent κ ω Op Ans} (hpasses : G.Passes P start process event) :
    (process.exec host event).Inv P start done I J := by
  cases hrunning : process.running with
  | none =>
    have hidle := (Inv.of_idle hrunning).mp h
    cases event with
    | start task =>
      simp only [exec, hrunning]
      refine (Inv.of_running rfl).mpr ⟨hkeeps.obeys task, ?_⟩
      exact hkeeps.start _ task hidle
    | step proposal => simpa only [exec, step, hrunning] using h
    | crash => exact (Inv.of_idle rfl).mpr (hkeeps.stop _ hpasses hidle)
    | outside change =>
      have hstill : (process.exec host (.outside change)).running = none := hrunning
      refine (Inv.of_idle hstill).mpr ?_
      refine hkeeps.idle _ _ ?_ hidle
      simpa only [Guard.Passes, phase?, hrunning, Option.map_none] using hpasses
  | some call =>
    obtain ⟨hobeys, hworld⟩ := (Inv.of_running hrunning).mp h
    cases event with
    | start task => simpa only [exec, hrunning] using h
    | crash => exact (Inv.of_idle rfl).mpr (hkeeps.crash _ _ hpasses hworld)
    | outside change =>
      have hstill : (process.exec host (.outside change)).running = some call := hrunning
      refine (Inv.of_running hstill).mpr ⟨hobeys, ?_⟩
      refine hkeeps.outside _ _ _ ?_ hworld
      simpa only [Guard.Passes, phase?, hrunning, Option.map_some] using hpasses
    | step proposal =>
      obtain ⟨hvalue, herror⟩ := hpasses call hrunning
      cases hprogram : call.program with
      | ret value =>
        simp only [exec, step, hrunning, hprogram]
        rw [hprogram] at hobeys
        exact (Inv.of_idle rfl).mpr (hkeeps.finish _ _ _ _ hworld hobeys (hvalue value hprogram))
      | fail error =>
        simp only [exec, step, hrunning, hprogram]
        rw [hprogram] at hobeys
        exact (Inv.of_idle rfl).mpr (hkeeps.finish _ _ _ _ hworld hobeys (herror error hprogram))
      | perform op next =>
        cases hserve : host.serve process.world op (proposal op) with
        | none => simpa only [exec, step, hrunning, hprogram, hserve] using h
        | some served =>
          obtain ⟨answer, world⟩ := served
          rw [hprogram] at hobeys
          obtain ⟨hexpects, hafter⟩ := hkeeps.serve _ _ _ _ _ _ hworld hobeys.1 hserve
          simp only [exec, step, hrunning, hprogram, hserve]
          refine (Inv.of_running rfl).mpr ⟨hobeys.2 answer hexpects, ?_⟩
          exact hafter

/-- **The run**: every run of events that pass keeps the invariant. -/
theorem inv_run (hkeeps : Keeps G P start host done I J) (h : process.Inv P start done I J)
    {events : List (ProcessEvent κ ω Op Ans)}
    (hpasses : Machine.Along (exec host) (G.Passes P start) process events) :
    (Machine.run (exec host) process events).Inv P start done I J := by
  induction events generalizing process with
  | nil => exact h
  | cons event events ih => exact ih (inv_exec hkeeps h hpasses.1) hpasses.2

/-- **The end of a call**: an event ends no call, or what the end establishes holds. -/
theorem inv_exec_of_finish {I' : σ → Prop} {J' : σ → Φ → Prop}
    (hfinish : ∀ world task phase result, J world phase → done task phase result →
      G.finish task phase result → I' world) (h : process.Inv P start done I J)
    {event : ProcessEvent κ ω Op Ans} (hpasses : G.Passes P start process event) :
    (process.exec host event).ended = process.ended ∨
      (process.exec host event).Inv P start done I' J' := by
  cases event with
  | start task =>
    left
    simp only [exec]
    split <;> rfl
  | crash => exact .inl rfl
  | outside change => exact .inl rfl
  | step proposal =>
    cases hrunning : process.running with
    | none => exact .inl (by simp only [exec, step, hrunning])
    | some call =>
      obtain ⟨hobeys, hworld⟩ := (Inv.of_running hrunning).mp h
      obtain ⟨hvalue, herror⟩ := hpasses call hrunning
      cases hprogram : call.program with
      | ret value =>
        simp only [exec, step, hrunning, hprogram]
        rw [hprogram] at hobeys
        exact .inr ((Inv.of_idle rfl).mpr (hfinish _ _ _ _ hworld hobeys (hvalue value hprogram)))
      | fail error =>
        simp only [exec, step, hrunning, hprogram]
        rw [hprogram] at hobeys
        exact .inr ((Inv.of_idle rfl).mpr (hfinish _ _ _ _ hworld hobeys (herror error hprogram)))
      | perform op next =>
        left
        simp only [exec, step, hrunning, hprogram]
        split <;> rfl

/-- **The run after the end of a call**: either no call ended, or what the end of a call establishes
holds from then on. -/
theorem inv_run_of_finish {I' : σ → Prop} {J' : σ → Φ → Prop}
    (hkeeps : Keeps G P start host done I J) (hkeeps' : Keeps G P start host done I' J')
    (hfinish : ∀ world task phase result, J world phase → done task phase result →
      G.finish task phase result → I' world) (h : process.Inv P start done I J)
    {events : List (ProcessEvent κ ω Op Ans)}
    (hpasses : Machine.Along (exec host) (G.Passes P start) process events) :
    (Machine.run (exec host) process events).ended = process.ended ∨
      (Machine.run (exec host) process events).Inv P start done I' J' := by
  induction events generalizing process with
  | nil => exact .inl rfl
  | cons event events ih =>
    rcases inv_exec_of_finish hfinish h hpasses.1 with hsame | hended
    · rw [← hsame]
      exact ih (inv_exec hkeeps h hpasses.1) hpasses.2
    · exact .inr (inv_run hkeeps' hended hpasses.2)

/-- Everything passes the guard that lets everything pass. -/
theorem Guard.along_all (process : Process σ κ Op Ans ε α)
    (events : List (ProcessEvent κ ω Op Ans)) :
    Machine.Along (exec host) (Guard.all.Passes P start) process events := by
  induction events generalizing process with
  | nil => trivial
  | cons event events ih =>
    refine ⟨?_, ih _⟩
    cases event with
    | start task => trivial
    | step proposal => exact fun _ _ => ⟨fun _ _ => trivial, fun _ _ => trivial⟩
    | crash => trivial
    | outside change => trivial

/-- **What a call performs is allowed** in the phase it is in. -/
theorem Inv.allowed_of_performs (h : process.Inv P start done I J)
    {event : ProcessEvent κ ω Op Ans} {call : Call κ Op Ans ε α} {op : Op} {answer : Ans op}
    (hperforms : process.performs host event = some (call, ⟨op, answer⟩)) :
    process.running = some call ∧ P.allowed (Pool.phaseOf P start call) op ∧
      J process.world (Pool.phaseOf P start call) := by
  cases event with
  | start task => cases hperforms
  | crash => cases hperforms
  | outside change => cases hperforms
  | step proposal =>
    unfold performs at hperforms
    cases hrunning : process.running with
    | none => simp [hrunning] at hperforms
    | some running =>
      obtain ⟨hobeys, hworld⟩ := (Inv.of_running hrunning).mp h
      cases hprogram : running.program with
      | ret value => simp [hrunning, hprogram] at hperforms
      | fail error => simp [hrunning, hprogram] at hperforms
      | perform op' next =>
        simp only [hrunning, hprogram, Option.map_eq_some_iff, Prod.mk.injEq] at hperforms
        obtain ⟨served, -, rfl, hop⟩ := hperforms
        obtain rfl := (Sigma.mk.inj hop).1
        rw [hprogram] at hobeys
        exact ⟨rfl, hobeys.1, hworld⟩

/-- The event ends the call with the result. -/
def Ends (host : Host σ κ ω Op Ans ε α) (process : Process σ κ Op Ans ε α)
    (event : ProcessEvent κ ω Op Ans) (call : Call κ Op Ans ε α) (result : Except ε α) : Prop :=
  (process.exec host event).ended = process.ended ++ [(call, result)]

/-- **A call that ends has kept to the protocol**: it was running, and its end is as the protocol
says. -/
theorem Inv.of_ends (h : process.Inv P start done I J) {event : ProcessEvent κ ω Op Ans}
    {call : Call κ Op Ans ε α} {result : Except ε α} (hends : process.Ends host event call result) :
    done call.task (Pool.phaseOf P start call) result ∧
      J process.world (Pool.phaseOf P start call) := by
  have hnone : ∀ {after : Process σ κ Op Ans ε α}, after.ended = process.ended →
      after.ended ≠ process.ended ++ [(call, result)] := by
    intro after hsame
    rw [hsame]
    simp
  unfold Ends at hends
  cases event with
  | start task =>
    refine absurd hends (hnone ?_)
    simp only [exec]
    split <;> rfl
  | crash => exact absurd hends (hnone rfl)
  | outside change => exact absurd hends (hnone rfl)
  | step proposal =>
    cases hrunning : process.running with
    | none => exact absurd hends (hnone (by simp only [exec, step, hrunning]))
    | some running =>
      obtain ⟨hobeys, hworld⟩ := (Inv.of_running hrunning).mp h
      cases hprogram : running.program with
      | perform op next =>
        refine absurd hends (hnone ?_)
        simp only [exec, step, hrunning, hprogram]
        split <;> rfl
      | ret value =>
        simp only [exec, step, hrunning, hprogram, List.append_cancel_left_eq, List.cons.injEq,
          Prod.mk.injEq, and_true] at hends
        obtain ⟨rfl, rfl⟩ := hends
        rw [hprogram] at hobeys
        exact ⟨hobeys, hworld⟩
      | fail error =>
        simp only [exec, step, hrunning, hprogram, List.append_cancel_left_eq, List.cons.injEq,
          Prod.mk.injEq, and_true] at hends
        obtain ⟨rfl, rfl⟩ := hends
        rw [hprogram] at hobeys
        exact ⟨hobeys, hworld⟩

end Process

end BpEngine
