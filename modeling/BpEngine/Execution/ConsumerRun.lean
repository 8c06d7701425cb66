import BpEngine.Execution.PrivilegedConsumer
import BpEngine.Library.Machine

/-!
# Runs of the privileged consumer

Runs over one state root follow each other, each with its own package and its own failures, and each
may crash before any of its operations; between runs an operator sets the kill switches.

* `ConsumerPhase` is what a run knows of the authorization slot, of its own failure record and of its
  kill switch; `consumerProtocol` is the discipline and `ConsumerInv` what a phase says of the world.
* `obeys_executeAuthorizedPackageOnce` assembles the protocol from one lemma for each stage; `Tracks`
  relates the progress the handlers read to the phase.
* `privilegedConsumer_run` has the three facts about every sequence of runs.
-/

namespace BpEngine.PrivilegedConsumer

/-! ## The protocol -/

/-- What a run knows of the authorization slot. -/
inductive SlotPhase where
  | unknown
  | absent
  | taken
  | spent
deriving DecidableEq

/-- What a run did to its kill switch. -/
inductive SwitchPhase where
  | untouched
  | disengaged
  | restored
  | stuck
deriving DecidableEq

/-- What a run knows. -/
structure ConsumerPhase where
  slot : SlotPhase := .unknown
  switch : SwitchPhase := .untouched
  denied : Bool := false
deriving DecidableEq

/-- The record denies that a submission was attempted. -/
def Record.denies : Record → Bool
  | .failure record => !record.networkSubmissionAttemptConsumed
  | _ => false

/-- The operation neither writes a file, nor touches a kill switch, nor submits, nor looks for the
slot. -/
def ConsumerOp.quiet : ConsumerOp → Bool
  | .fileExists _ | .writeExclusive _ _ | .unlinkKillSwitch _ | .submit _ _
  | .engageKillSwitch _ _ => false
  | _ => true

/-- What a run may do: submit once it has taken the slot, deny a submission only when the slot is
absent, and touch its own kill switch alone. -/
def consumerAllowed (path : String) (phase : ConsumerPhase) : ConsumerOp → Prop
  | .submit _ _ => phase.slot = .taken ∧ phase.denied = false
  | .writeExclusive _ record => record.denies = true → phase.slot = .absent
  | .unlinkKillSwitch other | .engageKillSwitch other _ => other = path
  | _ => True

/-- What a look for a file says of the slot. -/
def SlotPhase.looked (slot : SlotPhase) (name : String) : Outcome Bool → SlotPhase
  | .ok false => if name = secondCanaryAttemptBasename then .absent else slot
  | _ => slot

/-- What a write says of the slot. -/
def SlotPhase.wrote (slot : SlotPhase) (name : String) (answer : Written) : SlotPhase :=
  if name = secondCanaryAttemptBasename then
    if answer = .written then .taken else .unknown
  else slot

/-- What a run knows after an operation. -/
def consumerNext (phase : ConsumerPhase) : (op : ConsumerOp) → op.Ans → ConsumerPhase
  | .fileExists name, answer => { phase with slot := phase.slot.looked name answer }
  | .writeExclusive name record, answer =>
    { phase with
      slot := phase.slot.wrote name answer
      denied := phase.denied || record.denies }
  | .unlinkKillSwitch _, .ok () => { phase with switch := .disengaged }
  | .submit _ _, _ => { phase with slot := .spent }
  | .engageKillSwitch _ _, .replaced => { phase with switch := .restored }
  | .engageKillSwitch _ _, .failed _ _ => { phase with switch := .stuck }
  | _, _ => phase

/-- The discipline of a run with this kill switch. -/
def consumerProtocol (path : String) : Protocol ConsumerOp ConsumerOp.Ans ConsumerPhase where
  allowed := consumerAllowed path
  expects _ _ _ := True
  next := consumerNext

/-! ## The world of a phase -/

/-- What a phase says of the world. -/
structure ConsumerInv (path : String) (world : ConsumerWorld) (phase : ConsumerPhase) : Prop where
  once : world.submissions.length ≤ 1
  slotted : world.hasFile secondCanaryAttemptBasename = false → world.submissions = []
  absent : phase.slot = .absent → world.hasFile secondCanaryAttemptBasename = false
  taken : phase.slot = .taken →
    world.hasFile secondCanaryAttemptBasename = true ∧ world.submissions = []
  denied : phase.denied = true → world.submissions = []
  restored : phase.switch = .restored → world.engaged.elem path = true

/-- A write leaves the world alone, or makes a file that was not there. -/
theorem write_cases (world : ConsumerWorld) (name : String) (record : Record)
    (proposal : Written) :
    ((world.write name record proposal).1 ≠ .written ∧
        (world.write name record proposal).2 = world) ∨
      (world.hasFile name = false ∧ ∃ content, (world.write name record proposal).2 =
        { world with files := world.files ++ [(name, content)] }) := by
  unfold ConsumerWorld.write
  split <;> split_ifs with h
  · exact .inl ⟨by simp, rfl⟩
  · exact .inr ⟨by simpa using h, _, rfl⟩
  · exact .inl ⟨by simp, rfl⟩
  · exact .inr ⟨by simpa using h, _, rfl⟩
  · exact .inr ⟨h.2, _, rfl⟩
  · exact .inl ⟨by simp, rfl⟩

/-- A new file exists, and the others are as they were. -/
theorem hasFile_append (world : ConsumerWorld) (name other : String) (content : Option Record) :
    ConsumerWorld.hasFile { world with files := world.files ++ [(name, content)] } other =
      (world.hasFile other || decide (name = other)) := by
  simp [ConsumerWorld.hasFile]

section Step

variable {path : String} {world : ConsumerWorld} {phase : ConsumerPhase}

/-- A look for a file keeps the invariant. -/
theorem ConsumerInv.looked (h : ConsumerInv path world phase) (name : String)
    (proposal : Outcome Bool) :
    ConsumerInv path world { phase with
      slot := phase.slot.looked name (observe proposal (world.hasFile name)) } := by
  cases proposal with
  | error raised => exact h
  | ok answer =>
    cases hfile : world.hasFile name with
    | true => simpa [observe, Except.map, SlotPhase.looked] using h
    | false =>
      by_cases hname : name = secondCanaryAttemptBasename
      · subst hname
        exact { h with
          absent := fun _ => hfile
          taken := fun htaken => by simp [observe, Except.map, SlotPhase.looked] at htaken }
      · simpa [observe, Except.map, SlotPhase.looked, hname] using h

/-- A write keeps the invariant: only a slot that was absent is taken, and a denial finds no
submission. -/
theorem ConsumerInv.wrote (h : ConsumerInv path world phase) (name : String) (record : Record)
    (proposal : Written) (hallowed : record.denies = true → phase.slot = .absent) :
    ConsumerInv path (world.write name record proposal).2 { phase with
      slot := phase.slot.wrote name (world.write name record proposal).1
      denied := phase.denied || record.denies } := by
  have hdenied : (phase.denied || record.denies) = true → world.submissions = [] := by
    intro hdenied
    rcases Bool.or_eq_true_iff.mp hdenied with hold | hnew
    · exact h.denied hold
    · exact h.slotted (h.absent (hallowed hnew))
  by_cases hname : name = secondCanaryAttemptBasename
  · subst hname
    obtain ⟨hwritten, hsame⟩ | ⟨hfile, content, hnew⟩ :=
      write_cases world secondCanaryAttemptBasename record proposal
    · rw [hsame]
      exact { h with
        absent := fun habsent => by simp [SlotPhase.wrote, hwritten] at habsent
        taken := fun htaken => by simp [SlotPhase.wrote, hwritten] at htaken
        denied := hdenied }
    · have hempty := h.slotted hfile
      rw [hnew]
      exact {
        once := h.once
        slotted := fun _ => hempty
        absent := fun habsent => by
          simp only [SlotPhase.wrote, if_true] at habsent
          split_ifs at habsent
        taken := fun _ => ⟨by simp [hasFile_append], hempty⟩
        denied := hdenied
        restored := h.restored }
  · have hslot : (world.write name record proposal).2.hasFile secondCanaryAttemptBasename =
        world.hasFile secondCanaryAttemptBasename := by
      obtain ⟨-, hsame⟩ | ⟨-, content, hnew⟩ := write_cases world name record proposal
      · rw [hsame]
      · rw [hnew, hasFile_append]
        simp [hname]
    obtain ⟨hsubmissions, hengaged⟩ :
        (world.write name record proposal).2.submissions = world.submissions ∧
          (world.write name record proposal).2.engaged = world.engaged := by
      obtain ⟨-, hsame⟩ | ⟨-, content, hnew⟩ := write_cases world name record proposal
      · rw [hsame]
        exact ⟨rfl, rfl⟩
      · rw [hnew]
        exact ⟨rfl, rfl⟩
    simp only [SlotPhase.wrote, if_neg hname]
    constructor
    · simpa [hsubmissions] using h.once
    · simpa [hslot, hsubmissions] using h.slotted
    · simpa [hslot] using h.absent
    · simpa [hslot, hsubmissions] using h.taken
    · simpa [hsubmissions] using hdenied
    · simpa [hengaged] using h.restored

/-- **The step of the invariant**: serving what the protocol allows keeps it. -/
theorem consumer_serve (op : ConsumerOp) (proposal : op.Ans) (h : ConsumerInv path world phase)
    (hallowed : consumerAllowed path phase op) :
    ConsumerInv path (world.serve op proposal).2
      (consumerNext phase op (world.serve op proposal).1) := by
  cases op with
  | fileExists name => exact h.looked name proposal
  | writeExclusive name record => exact h.wrote name record proposal hallowed
  | unlinkKillSwitch other =>
    cases proposal with
    | error raised => exact h
    | ok answer =>
      change ConsumerInv path (world.unlink other (.ok ())).2
        (consumerNext phase (.unlinkKillSwitch other) (world.unlink other (.ok ())).1)
      unfold ConsumerWorld.unlink
      split_ifs
      · exact { h with restored := fun hrestored => by cases hrestored }
      · exact h
  | submit identity payload =>
    obtain ⟨hslot, hdenied⟩ := hallowed
    obtain ⟨hfile, hempty⟩ := h.taken hslot
    refine ⟨?_, fun hnone => ?_, ?_, ?_, ?_, h.restored⟩
    · simp [ConsumerWorld.serve, hempty]
    · have : world.hasFile secondCanaryAttemptBasename = false := hnone
      rw [hfile] at this
      cases this
    all_goals simp [consumerNext, hdenied]
  | engageKillSwitch other reason =>
    cases hallowed
    cases proposal with
    | replaced => exact { h with restored := fun _ => by simp [ConsumerWorld.serve, Replaced.done] }
    | failed done message =>
      cases done <;> exact { h with restored := fun hrestored => by cases hrestored }
  | replaceActivation activation =>
    simp only [ConsumerWorld.serve, consumerNext]
    split_ifs
    · exact { h with }
    · exact h
  | ensureStateRoot | verifyContract _ | loadPrepared | killSwitchExists _ | health
  | newAuthorizationId | now | releaseCommitSha => exact h

end Step

/-! ## The program keeps to the protocol -/

/-- What the handlers read agrees with what the run knows: nothing is denied yet, and the kill switch
is disengaged exactly if the `finally` block engages it again. -/
structure Tracks (progress : Progress) (phase : ConsumerPhase) : Prop where
  denied : phase.denied = false
  switch : phase.switch =
    if progress.armed || progress.attemptStarted then .disengaged else .untouched

/-- A run that ended has engaged the kill switch again, or could not, or never touched it. -/
def Stopped {α : Type} (phase : ConsumerPhase) (_ : α) : Prop := phase.switch ≠ .disengaged

section Obeys

variable {path : String} {phase : ConsumerPhase}

theorem only_ensureStateRoot : ensureStateRoot.Only (·.quiet = true) (fun _ => True) :=
  .bind (Program.only_call.2 rfl) fun _ => Program.only_ofExcept fun _ _ => trivial

theorem only_verifyContract (observedAt : Timestamp) :
    (verifyContract observedAt).Only (·.quiet = true) (fun _ => True) :=
  .bind (Program.only_call.2 rfl) fun _ => Program.only_ofExcept fun _ _ => trivial

theorem only_loadPrepared : loadPrepared.Only (·.quiet = true) (fun _ => True) :=
  .bind (Program.only_call.2 rfl) fun _ => Program.only_ofExcept fun _ _ => trivial

theorem only_killSwitchExists (path : String) :
    (killSwitchExists path).Only (·.quiet = true) (fun _ => True) :=
  .bind (Program.only_call.2 rfl) fun _ => Program.only_ofExcept fun _ _ => trivial

theorem only_releaseCommitSha : releaseCommitSha.Only (·.quiet = true) (fun _ => True) :=
  .bind (Program.only_call.2 rfl) fun _ => Program.only_ofExcept fun _ _ => trivial

theorem only_replaceActivation (activation : Activation) :
    (replaceActivation activation).Only (·.quiet = true) (fun _ => True) :=
  .bind (Program.only_call.2 rfl) fun _ => Program.only_ofExcept fun _ _ => trivial

theorem only_requireHealth (call : ConsumerCall) (armed : Bool) (mismatch : String) :
    (requireHealth call armed mismatch).Only (·.quiet = true) (fun _ => True) :=
  .bind (Program.only_call.2 rfl) fun _ =>
    .bind (Program.only_ofExcept fun _ _ => trivial) fun _ =>
    .bind (Program.only_ofExcept fun _ _ => trivial) fun _ =>
    Program.only_ofExcept fun _ _ => trivial

/-- Quiet programs leave the phase alone. -/
theorem obeys_quiet {ε α : Type} {E : ε → Prop} {done : ConsumerPhase → Except ε α → Prop}
    {program : Program ConsumerOp ConsumerOp.Ans ε α} (h : program.Only (·.quiet = true) E)
    (hok : ∀ value, done phase (.ok value)) (herror : ∀ error, E error → done phase (.error error)) :
    (consumerProtocol path).Obeys done program phase :=
  .of_only h (fun op hop => by cases op <;> trivial)
    (fun op answer hop => by cases op <;> first | rfl | cases hop) hok herror

/-- A quiet step of the `try` block fails with the progress it was taken with. -/
theorem only_within {α : Type} {step : ConsumerM α} (h : step.Only (·.quiet = true) fun _ => True)
    (progress : Progress) :
    (within progress step).Only (·.quiet = true) (fun error => error.1 = progress) :=
  h.mapError fun _ _ => rfl

/-- Up to the activation nothing is touched. -/
theorem only_prepareHandoff (call : ConsumerCall) :
    (prepareHandoff call).Only (·.quiet = true)
      (fun error => error.1.armed = false ∧ error.1.attemptStarted = false) := by
  have hstep : ∀ {α : Type} {step : ConsumerM α} (progress : Progress),
      progress.armed = false ∧ progress.attemptStarted = false →
      step.Only (·.quiet = true) (fun _ => True) →
      (within progress step).Only (·.quiet = true)
        (fun error => error.1.armed = false ∧ error.1.attemptStarted = false) := by
    intro α step progress hprogress hquiet
    exact (only_within hquiet progress).mono (fun _ h => h) fun error herror => herror ▸ hprogress
  have hpure : ∀ {α : Type} (x : Outcome α),
      (Program.ofExcept x : ConsumerM α).Only (·.quiet = true) (fun _ => True) :=
    fun x => Program.only_ofExcept fun _ _ => trivial
  exact .bind (hstep _ ⟨rfl, rfl⟩ (only_verifyContract _)) fun contract =>
    .bind (hstep _ ⟨rfl, rfl⟩ only_loadPrepared) fun prepared =>
    .bind (hstep _ ⟨rfl, rfl⟩ (hpure _)) fun _ =>
    .bind (hstep _ ⟨rfl, rfl⟩ (hpure _)) fun _ =>
    .bind (hstep _ ⟨rfl, rfl⟩ (only_killSwitchExists _)) fun engaged =>
    .bind (hstep _ ⟨rfl, rfl⟩ (hpure _)) fun _ =>
    .bind (hstep _ ⟨rfl, rfl⟩ (only_requireHealth call false _)) fun _ =>
    .bind (hstep _ ⟨rfl, rfl⟩ (Program.only_call.2 rfl)) fun authorizationId =>
    .bind (hstep _ ⟨rfl, rfl⟩ (Program.only_call.2 rfl)) fun now =>
    .bind (hstep _ ⟨rfl, rfl⟩ (hpure _)) fun expires =>
    .bind (hstep _ ⟨rfl, rfl⟩ only_releaseCommitSha) fun gitSha => trivial

/-- A write of a record that denies nothing. -/
theorem obeys_writeExclusiveJson {name : String} {record : Record} (hrecord : record.denies = false)
    {done : ConsumerPhase → Outcome Unit → Prop}
    (hdone : ∀ answer, done { phase with slot := phase.slot.wrote name answer }
      (Written.outcome name answer)) :
    (consumerProtocol path).Obeys done (writeExclusiveJson name record) phase := by
  refine Protocol.obeys_call_bind.2 ⟨fun h => ?_, fun answer _ => Protocol.obeys_ofExcept.2 ?_⟩
  · rw [hrecord] at h
    cases h
  · have hnext : (consumerProtocol path).next phase (.writeExclusive name record) answer =
        { phase with slot := phase.slot.wrote name answer } := by
      change ({ phase with slot := _, denied := phase.denied || record.denies } : ConsumerPhase) = _
      rw [hrecord, Bool.or_false]
    rw [hnext]
    exact hdone answer

theorem obeys_unlinkKillSwitch {done : ConsumerPhase → Outcome Unit → Prop}
    (hok : done { phase with switch := .disengaged } (.ok ()))
    (herror : ∀ raised, done phase (.error raised)) :
    (consumerProtocol path).Obeys done (unlinkKillSwitch path) phase := by
  refine Protocol.obeys_call_bind.2 ⟨rfl, fun answer _ => Protocol.obeys_ofExcept.2 ?_⟩
  cases answer with
  | error raised => exact herror raised
  | ok _ => exact hok

/-- The progress before the kill switch is touched. -/
theorem Tracks.untouched {progress : Progress} (hdenied : phase.denied = false)
    (hswitch : phase.switch = .untouched) (harmed : progress.armed = false)
    (hstarted : progress.attemptStarted = false) : Tracks progress phase :=
  ⟨hdenied, by simp [hswitch, harmed, hstarted]⟩

/-- The progress after the kill switch was disengaged. -/
theorem Tracks.disengaged {progress : Progress} (hdenied : phase.denied = false)
    (hswitch : phase.switch = .disengaged) (harmed : progress.armed = true) :
    Tracks progress phase :=
  ⟨hdenied, by simp [hswitch, harmed]⟩

/-- What a stage of the `try` block ends with: a failure's progress agrees with the phase, and without
one the kill switch is disengaged. -/
def StageEnd {α : Type} (phase : ConsumerPhase) : Except (Progress × Raised) α → Prop
  | .ok _ => phase.denied = false ∧ phase.switch = .disengaged
  | .error error => Tracks error.1 phase

theorem obeys_disengage (call : ConsumerCall) (handoff : Handoff) (hdenied : phase.denied = false)
    (hswitch : phase.switch = .untouched) :
    (consumerProtocol call.killSwitchPath).Obeys StageEnd (disengage call handoff) phase := by
  refine Protocol.obeys_mapError.2 (Protocol.obeys_bind.2 ?_)
  refine obeys_writeExclusiveJson rfl fun answer => ?_
  have htracks : Tracks handoff.progress
      { phase with slot := phase.slot.wrote call.payloadName answer } :=
    .untouched hdenied hswitch rfl rfl
  cases answer with
  | alreadyExists => exact htracks
  | failed created raised => exact htracks
  | written =>
    refine Protocol.obeys_bind.2 (obeys_quiet (only_replaceActivation _) (fun _ => ?_)
      fun _ _ => htracks)
    exact obeys_unlinkKillSwitch ⟨hdenied, rfl⟩ fun _ => htracks

/-- The armed executor is checked without touching anything. -/
theorem obeys_recheck (call : ConsumerCall) (handoff : Handoff) (hdenied : phase.denied = false)
    (hswitch : phase.switch = .disengaged) :
    (consumerProtocol call.killSwitchPath).Obeys StageEnd (recheck call handoff) phase := by
  have hquiet : (recheck call handoff).Only (·.quiet = true)
      (fun error => error.1 = handoff.armed) :=
    only_within (.bind (only_requireHealth call true _) fun _ =>
      .bind (Program.only_call.2 rfl) fun _ =>
      .bind (only_verifyContract _) fun _ =>
      .bind (Program.only_ofExcept fun _ _ => trivial) fun _ => Program.only_call.2 rfl) _
  refine obeys_quiet hquiet (fun _ => ⟨hdenied, hswitch⟩) fun error herror => ?_
  exact .disengaged hdenied hswitch (by rw [herror]; rfl)

/-- An attempt that was started has taken the slot, or found it taken under the attempt's own name. -/
theorem obeys_startAttempt (call : ConsumerCall) (handoff : Handoff) (startedAt : Timestamp)
    (hdenied : phase.denied = false) (hswitch : phase.switch = .disengaged) :
    (consumerProtocol call.killSwitchPath).Obeys
      (fun phase result => StageEnd phase result ∧ ∀ value, result = .ok value → phase.slot = .taken)
      (startAttempt call handoff startedAt) phase := by
  refine Protocol.obeys_bind.2 (Protocol.obeys_mapError.2 (obeys_writeExclusiveJson rfl
    fun answer => ?_))
  have htracks : ∀ (progress : Progress), progress.armed = true → ∀ slot : SlotPhase,
      Tracks progress { phase with slot := slot } :=
    fun progress harmed slot => .disengaged hdenied hswitch harmed
  cases answer with
  | alreadyExists => exact ⟨htracks _ rfl _, fun _ h => by cases h⟩
  | failed created raised => exact ⟨htracks _ rfl _, fun _ h => by cases h⟩
  | written =>
    refine Protocol.obeys_mapError.2 (obeys_writeExclusiveJson rfl fun answer => ?_)
    cases answer with
    | alreadyExists => exact ⟨htracks _ rfl _, fun _ h => by cases h⟩
    | failed created raised => exact ⟨htracks _ rfl _, fun _ h => by cases h⟩
    | written =>
      refine ⟨⟨hdenied, hswitch⟩, fun _ _ => ?_⟩
      simp only [SlotPhase.wrote]
      split_ifs <;> rfl

/-- The submission spends the slot; what follows only records it. -/
theorem obeys_submitAndRecord (call : ConsumerCall) (handoff : Handoff)
    (hdenied : phase.denied = false) (hswitch : phase.switch = .disengaged)
    (hslot : phase.slot = .taken) :
    (consumerProtocol call.killSwitchPath).Obeys StageEnd (submitAndRecord call handoff) phase := by
  have htracks : ∀ slot : SlotPhase, Tracks handoff.started { phase with slot := slot } :=
    fun slot => .disengaged hdenied hswitch rfl
  refine Protocol.obeys_mapError.2 (Protocol.obeys_bind.2 ?_)
  refine Protocol.obeys_call_bind.2 ⟨⟨hslot, hdenied⟩, fun answer _ => Protocol.obeys_ofExcept.2 ?_⟩
  cases runExecutor answer with
  | error raised => exact htracks _
  | ok result =>
    refine Protocol.obeys_bind.2 (Protocol.obeys_ofExcept.2 ?_)
    cases validateResult result handoff.prepared handoff.contract.requestSha256
        handoff.authorizationId call.expectedExecutorSha256 with
    | error raised => exact htracks _
    | ok _ =>
      refine Protocol.obeys_call_bind.2 ⟨trivial, fun completedAt _ => ?_⟩
      refine Protocol.obeys_bind.2 (obeys_writeExclusiveJson rfl fun answer => ?_)
      cases answer with
      | alreadyExists => exact htracks _
      | failed created raised => exact htracks _
      | written => exact ⟨hdenied, hswitch⟩

/-- The `try` block. -/
theorem obeys_consume (call : ConsumerCall) (hdenied : phase.denied = false)
    (hswitch : phase.switch = .untouched) :
    (consumerProtocol call.killSwitchPath).Obeys
      (fun phase result => match result with
        | .ok value => Tracks value.1 phase
        | .error error => Tracks error.1 phase) (consume call) phase := by
  refine Protocol.obeys_bind.2 (obeys_quiet (only_prepareHandoff call) (fun handoff => ?_)
    fun error herror => .untouched hdenied hswitch herror.1 herror.2)
  refine (obeys_disengage call handoff hdenied hswitch).bind (fun phase _ hdone => ?_)
    fun _ _ herror => herror
  refine (obeys_recheck call handoff hdone.1 hdone.2).bind (fun phase startedAt hdone => ?_)
    fun _ _ herror => herror
  refine (obeys_startAttempt call handoff startedAt hdone.1 hdone.2).bind
    (fun phase _ hdone => ?_) fun _ _ herror => herror.1
  have hslot := hdone.2 _ rfl
  refine (obeys_submitAndRecord call handoff hdone.1.1 hdone.1.2 hslot).bind
    (fun phase receipt hdone => ?_) fun _ _ herror => herror
  exact .disengaged hdone.1 hdone.2 rfl

/-! ## The handlers -/

/-- What the `finally` block finds: the kill switch is as the progress says. -/
def SwitchTracks (progress : Progress) (phase : ConsumerPhase) : Prop :=
  phase.switch = if progress.armed || progress.attemptStarted then .disengaged else .untouched

/-- The `finally` block engages a disengaged kill switch, or its replacement fails. -/
theorem obeys_safeStop (call : ConsumerCall) {progress : Progress}
    (h : SwitchTracks progress phase) :
    (consumerProtocol call.killSwitchPath).Obeys Stopped (safeStop call progress) phase := by
  unfold safeStop
  split_ifs with htouched
  · refine Protocol.obeys_bind.2 (Protocol.obeys_settle.2 (Protocol.obeys_call_bind.2
      ⟨rfl, fun answer _ => Protocol.obeys_ofExcept.2 ?_⟩))
    cases answer with
    | replaced => exact fun hswitch => by cases hswitch
    | failed done message =>
      simp only [Replaced.outcome, raise]
      split_ifs <;> exact fun hswitch => by cases hswitch
  · intro hswitch
    rw [SwitchTracks, if_neg htouched] at h
    rw [h] at hswitch
    cases hswitch

theorem denies_failureOf (call : ConsumerCall) (progress : Progress) (consumed : Bool)
    (raised : Raised) :
    (Record.failure (failureOf call progress consumed raised)).denies = !consumed := rfl

/-- A failure is recorded as an attempt unless the slot was just found absent. -/
theorem obeys_recordFailure (call : ConsumerCall) (progress : Progress) (consumed : Bool)
    (raised : Raised) (hslot : consumed = false → phase.slot = .absent)
    (h : SwitchTracks progress phase) :
    (consumerProtocol call.killSwitchPath).Obeys (fun phase _ => SwitchTracks progress phase)
      (writeExclusiveJson call.failureName (.failure (failureOf call progress consumed raised)))
      phase := by
  refine Protocol.obeys_call_bind.2 ⟨fun hdenies => hslot ?_, fun answer _ =>
    Protocol.obeys_ofExcept.2 h⟩
  rw [denies_failureOf] at hdenies
  simpa using hdenies

@[simp] theorem looked_absent (slot : SlotPhase) :
    slot.looked secondCanaryAttemptBasename (.ok false) = .absent := by
  simp [SlotPhase.looked]

/-- The end of `failClosed`, once it is known whether the slot is consumed. -/
def closeFailed (call : ConsumerCall) (progress : Progress) (raised : Raised) (consumed : Bool) :
    ConsumerM ConsumerReport := do
  let failure := failureOf call progress consumed raised
  match ← (writeExclusiveJson call.failureName (.failure failure)).settle with
  | .ok () => pure ()
  | .error raised =>
    if raised.cls = .privilegedConsumerError then pure () else Program.fail raised
  pure (.failedClosed failure)

theorem obeys_closeFailed (call : ConsumerCall) (progress : Progress) (raised : Raised)
    (consumed : Bool) (hslot : consumed = false → phase.slot = .absent)
    (h : SwitchTracks progress phase) :
    (consumerProtocol call.killSwitchPath).Obeys (fun phase _ => SwitchTracks progress phase)
      (closeFailed call progress raised consumed) phase := by
  refine Protocol.obeys_bind.2 (Protocol.obeys_settle.2
    ((obeys_recordFailure call progress consumed raised hslot h).mono fun phase result hswitch => ?_))
  cases result with
  | ok _ => exact hswitch
  | error other =>
    dsimp only
    split_ifs <;> exact hswitch

/-- The `except` block leaves the kill switch to the `finally` block. -/
theorem obeys_failClosed (call : ConsumerCall) {progress : Progress} (raised : Raised)
    (h : SwitchTracks progress phase) :
    (consumerProtocol call.killSwitchPath).Obeys (fun phase _ => SwitchTracks progress phase)
      (failClosed call progress raised) phase := by
  unfold failClosed
  cases hconsumed : progress.authorizationSlotConsumed with
  | true => exact obeys_closeFailed call progress raised true (fun hfalse => by cases hfalse) h
  | false =>
    refine Protocol.obeys_bind.2 (Protocol.obeys_call_bind.2
      ⟨trivial, fun answer _ => Protocol.obeys_ofExcept.2 ?_⟩)
    cases answer with
    | error other => exact h
    | ok consumed =>
      refine obeys_closeFailed call progress raised consumed (fun hfalse => ?_) h
      subst hfalse
      exact looked_absent phase.slot

/-- Both ends of the `try` block lead through the `finally` block. -/
theorem obeys_finish (call : ConsumerCall)
    (result : Except (Progress × Raised) (Progress × Receipt))
    (h : match result with
      | .ok value => Tracks value.1 phase
      | .error error => Tracks error.1 phase) :
    (consumerProtocol call.killSwitchPath).Obeys Stopped (finish call result) phase := by
  cases result with
  | ok value =>
    refine (obeys_safeStop call h.switch).bind (fun phase _ hstopped => hstopped)
      fun _ _ hstopped => hstopped
  | error error =>
    have hhandled : (consumerProtocol call.killSwitchPath).Obeys
        (fun phase _ => SwitchTracks error.1 phase)
        (if isCaught error.2 then failClosed call error.1 error.2 else Program.fail error.2)
        phase := by
      split_ifs
      · exact obeys_failClosed call error.2 h.switch
      · exact h.switch
    refine Protocol.obeys_bind.2 (Protocol.obeys_settle.2 (hhandled.mono
      fun phase handled hswitch => ?_))
    refine (obeys_safeStop call hswitch).bind (fun phase _ hstopped => ?_)
      fun _ _ hstopped => hstopped
    exact Protocol.obeys_ofExcept.2 hstopped

/-- A look for a file leaves the kill switch and the denial alone. -/
theorem obeys_fileExists {name : String} {done : ConsumerPhase → Outcome Bool → Prop}
    (hdone : ∀ slot result, done { phase with slot } result) :
    (consumerProtocol path).Obeys done (fileExists name) phase :=
  Protocol.obeys_call_bind.2 ⟨trivial, fun _ _ => Protocol.obeys_ofExcept.2 (hdone _ _)⟩

/-- The looks for the records of a package teach a run about the slot at most. -/
theorem obeys_packageExists (call : ConsumerCall) (slot : SlotPhase) :
    (consumerProtocol path).Obeys (fun phase _ => ∃ slot, phase = ({ slot } : ConsumerPhase))
      (packageExists call) { slot } := by
  refine Protocol.obeys_bind.2 (obeys_fileExists fun slot found => ?_)
  rcases found with raised | _ | _
  · exact ⟨_, rfl⟩
  · refine Protocol.obeys_bind.2 (obeys_fileExists fun slot found => ?_)
    rcases found with raised | _ | _
    · exact ⟨_, rfl⟩
    · exact obeys_fileExists fun slot _ => ⟨_, rfl⟩
    · exact ⟨_, rfl⟩
  · exact ⟨_, rfl⟩

/-- **A run keeps to the protocol**, and one that ended has stopped safely. -/
theorem obeys_executeAuthorizedPackageOnce (call : ConsumerCall) :
    (consumerProtocol call.killSwitchPath).Obeys Stopped (executeAuthorizedPackageOnce call)
      {} := by
  have hstopped : ∀ {α : Type} (slot : SlotPhase) (value : α),
      Stopped ({ slot } : ConsumerPhase) value := fun slot value h => by cases h
  refine Protocol.obeys_bind.2 (obeys_quiet only_ensureStateRoot (fun _ => ?_)
    fun _ _ => hstopped _ _)
  refine Protocol.obeys_bind.2 (obeys_fileExists fun slot consumed => ?_)
  cases consumed with
  | error raised => exact hstopped _ _
  | ok consumed =>
    cases consumed with
    | true => exact hstopped _ _
    | false =>
      refine (obeys_packageExists call slot).bind (fun phase exists_ hphase => ?_) fun phase _ hphase => ?_
      · obtain ⟨slot, rfl⟩ := hphase
        cases exists_ with
        | true =>
          exact Protocol.obeys_bind.2 (obeys_fileExists fun slot result => by
            cases result <;> exact hstopped _ _)
        | false =>
          exact (Protocol.obeys_bind.2 (Protocol.obeys_settle.2 ((obeys_consume call rfl rfl).mono
            fun phase result hresult => obeys_finish call result hresult)))
      · obtain ⟨slot, rfl⟩ := hphase
        exact hstopped _ _

end Obeys

/-! ## Sequences of runs -/

/-- A run of the consumer as it took place. -/
abbrev ConsumerRan := Program.Ran ConsumerWorld ConsumerOp ConsumerOp.Ans Raised ConsumerReport

/-- The run of a call on proposed answers; it crashes when they are used up. -/
def ConsumerWorld.ran (world : ConsumerWorld) (call : ConsumerCall)
    (proposals : List ((op : ConsumerOp) → op.Ans)) : ConsumerRan :=
  (executeAuthorizedPackageOnce call).runWith ConsumerWorld.serve proposals world

/-- A run, or an operator who sets the kill switches. -/
inductive ConsumerStep where
  | run (call : ConsumerCall) (proposals : List ((op : ConsumerOp) → op.Ans))
  | operator (engaged : List String)

def ConsumerWorld.step (world : ConsumerWorld) : ConsumerStep → ConsumerWorld
  | .run call proposals => (world.ran call proposals).world
  | .operator engaged => { world with engaged }

/-- A state root with any files, before the executor was given anything. -/
def ConsumerWorld.initial (files : List (String × Option Record)) (engaged : List String)
    (activation : Option Activation) : ConsumerWorld :=
  ⟨files, engaged, activation, []⟩

/-- The entry disengages the kill switch. -/
def disengages (path : String) : (Σ op : ConsumerOp, op.Ans) → Bool
  | ⟨.unlinkKillSwitch other, .ok ()⟩ => other = path
  | _ => false

/-- The outcome is an `OSError`. -/
def failsWithOsError {α : Type} : Outcome α → Bool
  | .error raised => isOsError raised
  | .ok _ => false

/-- The entry hits an OS error. -/
def hitsOsError : (Σ op : ConsumerOp, op.Ans) → Bool
  | ⟨.ensureStateRoot, answer⟩ => failsWithOsError answer
  | ⟨.fileExists _, answer⟩ => failsWithOsError answer
  | ⟨.verifyContract _, answer⟩ => failsWithOsError answer
  | ⟨.loadPrepared, answer⟩ => failsWithOsError answer
  | ⟨.killSwitchExists _, answer⟩ => failsWithOsError answer
  | ⟨.releaseCommitSha, answer⟩ => failsWithOsError answer
  | ⟨.unlinkKillSwitch _, answer⟩ => failsWithOsError answer
  | ⟨.health, answer⟩ => failsWithOsError (runExecutor answer)
  | ⟨.submit _ _, answer⟩ => failsWithOsError (runExecutor answer)
  | ⟨.writeExclusive name _, answer⟩ => failsWithOsError (Written.outcome name answer)
  | ⟨.replaceActivation _, answer⟩ => failsWithOsError (Replaced.outcome answer)
  | ⟨.engageKillSwitch _ _, answer⟩ => failsWithOsError (Replaced.outcome answer)
  | _ => false

/-- The entry writes a failure record that says that no submission was attempted. -/
def deniesSubmission : (Σ op : ConsumerOp, op.Ans) → Bool
  | ⟨.writeExclusive _ record, _⟩ => record.denies
  | _ => false

/-- The three facts about a run: the executor was given one payload at most, by it or before it; a run
that disengaged its kill switch and neither crashed nor hit an OS error leaves it engaged; and one
that writes that no submission was attempted leaves a state root without one. -/
structure SafeRun (call : ConsumerCall) (ran : ConsumerRan) : Prop where
  once : ran.world.submissions.length ≤ 1
  restored : ran.trace.any (disengages call.killSwitchPath) = true → ran.result.isSome = true →
    ran.trace.any hitsOsError = false → ran.world.engaged.elem call.killSwitchPath = true
  truthful : ran.trace.any deniesSubmission = true → ran.world.submissions = []

/-! ### What the phase says of the trace -/

/-- One operation: a kill switch that is still untouched was not disengaged. -/
theorem consumerNext_untouched (path : String) (phase : ConsumerPhase) (op : ConsumerOp)
    (answer : op.Ans) (h : (consumerNext phase op answer).switch = .untouched) :
    phase.switch = .untouched ∧ disengages path ⟨op, answer⟩ = false := by
  cases op with
  | unlinkKillSwitch other =>
    cases answer with
    | ok _ => cases h
    | error raised => exact ⟨h, rfl⟩
  | engageKillSwitch other reason => cases answer <;> cases h
  | _ => exact ⟨h, rfl⟩

/-- One operation: a kill switch gets stuck on an OS error. -/
theorem consumerNext_stuck (phase : ConsumerPhase) (op : ConsumerOp) (answer : op.Ans)
    (h : (consumerNext phase op answer).switch = .stuck) :
    phase.switch = .stuck ∨ hitsOsError ⟨op, answer⟩ = true := by
  cases op with
  | unlinkKillSwitch other =>
    cases answer with
    | ok _ => cases h
    | error raised => exact .inl h
  | engageKillSwitch other reason =>
    cases answer with
    | replaced => cases h
    | failed done message => exact .inr rfl
  | _ => exact .inl h

/-- One operation: a denial is remembered. -/
theorem consumerNext_denied (phase : ConsumerPhase) (op : ConsumerOp) (answer : op.Ans) :
    (consumerNext phase op answer).denied = (phase.denied || deniesSubmission ⟨op, answer⟩) := by
  cases op with
  | writeExclusive name record => rfl
  | unlinkKillSwitch other => cases answer <;> exact (Bool.or_false _).symm
  | engageKillSwitch other reason => cases answer <;> exact (Bool.or_false _).symm
  | _ => exact (Bool.or_false _).symm

section Trace

variable {path : String} {trace : List (Σ op : ConsumerOp, op.Ans)}

theorem after_untouched (h : ((consumerProtocol path).after {} trace).switch = .untouched) :
    trace.any (disengages path) = false := by
  induction trace with
  | nil => rfl
  | cons entry trace ih =>
    obtain ⟨hbefore, hentry⟩ := consumerNext_untouched path _ entry.1 entry.2 h
    rw [List.any_cons, hentry, ih hbefore]
    rfl

theorem after_stuck (h : ((consumerProtocol path).after {} trace).switch = .stuck) :
    trace.any hitsOsError = true := by
  induction trace with
  | nil => cases h
  | cons entry trace ih =>
    rw [List.any_cons]
    rcases consumerNext_stuck _ entry.1 entry.2 h with hbefore | hentry
    · rw [ih hbefore, Bool.or_true]
    · rw [show hitsOsError entry = true from hentry, Bool.true_or]

theorem after_denied :
    ((consumerProtocol path).after {} trace).denied = trace.any deniesSubmission := by
  induction trace with
  | nil => rfl
  | cons entry trace ih =>
    have hentry := consumerNext_denied ((consumerProtocol path).after {} trace) entry.1 entry.2
    rw [ih, Bool.or_comm] at hentry
    exact hentry

end Trace

/-! ### The run lemmas -/

/-- A new run knows nothing. -/
theorem ConsumerInv.forget {path path' : String} {world : ConsumerWorld} {phase : ConsumerPhase}
    (h : ConsumerInv path world phase) : ConsumerInv path' world {} where
  once := h.once
  slotted := h.slotted
  absent := fun habsent => by cases habsent
  taken := fun htaken => by cases htaken
  denied := fun hdenied => by cases hdenied
  restored := fun hrestored => by cases hrestored

/-- What holds after one run, wherever it stopped. -/
theorem ran_spec {world : ConsumerWorld} (call : ConsumerCall)
    (proposals : List ((op : ConsumerOp) → op.Ans))
    (h : ConsumerInv call.killSwitchPath world {}) :
    ConsumerInv call.killSwitchPath (world.ran call proposals).world
        ((consumerProtocol call.killSwitchPath).after {} (world.ran call proposals).trace) ∧
      ∀ result, (world.ran call proposals).result = some result →
        Stopped ((consumerProtocol call.killSwitchPath).after {} (world.ran call proposals).trace)
          result :=
  (obeys_executeAuthorizedPackageOnce call).runWith (J := ConsumerInv call.killSwitchPath)
    (fun _ _ op proposal hkept hallowed => ⟨trivial, consumer_serve op proposal hkept hallowed⟩)
    proposals h

/-- A run from a sound state root is safe. -/
theorem safeRun {world : ConsumerWorld} (call : ConsumerCall)
    (proposals : List ((op : ConsumerOp) → op.Ans))
    (h : ConsumerInv call.killSwitchPath world {}) : SafeRun call (world.ran call proposals) := by
  obtain ⟨hkept, hstopped⟩ := ran_spec call proposals h
  refine ⟨hkept.once, fun hdisengaged hended herrors => ?_, fun hdenied => ?_⟩
  · obtain ⟨result, hresult⟩ := Option.isSome_iff_exists.mp hended
    have hstop := hstopped result hresult
    apply hkept.restored
    cases hswitch : ((consumerProtocol call.killSwitchPath).after {}
        (world.ran call proposals).trace).switch with
    | untouched =>
      rw [after_untouched hswitch] at hdisengaged
      cases hdisengaged
    | disengaged => exact absurd hswitch hstop
    | restored => rfl
    | stuck =>
      rw [after_stuck hswitch] at herrors
      cases herrors
  · exact hkept.denied (after_denied.trans hdenied)

/-- A state root is sound before the executor was given anything. -/
theorem consumerInv_initial (path : String) (files : List (String × Option Record))
    (engaged : List String) (activation : Option Activation) :
    ConsumerInv path (.initial files engaged activation) {} where
  once := Nat.zero_le 1
  slotted := fun _ => rfl
  absent := fun habsent => by cases habsent
  taken := fun htaken => by cases htaken
  denied := fun _ => rfl
  restored := fun hrestored => by cases hrestored

/-- The state root stays sound from step to step. -/
theorem consumerInv_step {path : String} {world : ConsumerWorld} (step : ConsumerStep)
    (h : ConsumerInv path world {}) : ConsumerInv path (world.step step) {} := by
  cases step with
  | run call proposals => exact (ran_spec call proposals h.forget).1.forget
  | operator engaged => exact { h with restored := fun hrestored => by cases hrestored }

/-- **At most one submission, and the kill switch restored.**  After every sequence of runs over a
state root the executor was given one payload at most, and the next run is safe, whatever its package
and wherever it fails or crashes. -/
theorem privilegedConsumer_run (files : List (String × Option Record)) (engaged : List String)
    (activation : Option Activation) (steps : List ConsumerStep) (call : ConsumerCall)
    (proposals : List ((op : ConsumerOp) → op.Ans)) :
    let world := Machine.run ConsumerWorld.step (.initial files engaged activation) steps
    world.submissions.length ≤ 1 ∧ SafeRun call (world.ran call proposals) := by
  intro world
  have hsound : ConsumerInv call.killSwitchPath world {} :=
    Machine.run_invariant' ConsumerWorld.step
      (J := fun world => ConsumerInv call.killSwitchPath world {})
      (fun world step h => consumerInv_step step h)
      (consumerInv_initial _ files engaged activation) steps
  exact ⟨hsound.once, safeRun call proposals hsound⟩

/-! ### A run that submits -/

def sampleCall : ConsumerCall := ⟨"package-1", "/run/kill-switch", "e1", 0⟩

def sampleContract : Contract where
  intentId := "intent-1"
  predictionId := "prediction-1"
  paperOrderId := "paper-1"
  requestSha256 := "r1"
  sourceTruthSha256 := "s1"
  dispatchClaimSha256 := "d1"
  packageManifestSha256 := "m1"
  expiresAt := "1970-01-01T00:01:00+00:00"
  expiry := .ok (Timestamp.ofSeconds 60)
  executorSha256 := "e1"

def samplePrepared : Prepared where
  action := some "submit"
  requestPresent := true
  intentId := some "intent-1"
  predictionId := some "prediction-1"
  paperOrderId := some "paper-1"
  marketEnd := .ok (Timestamp.ofSeconds 300)

/-- The health report of an idle executor, or of an armed one. -/
def sampleHealth (armed : Bool) : ExecutorHealth where
  status := some "ok"
  geoblocked := some (some false)
  account := some ⟨some true, .ok 0, .finite ⟨25, 0⟩⟩
  activationValid := some armed
  killSwitchEngaged := some !armed
  submissionReady := some armed
  executorSha256 := some "e1"

def sampleExecutorResult : ExecutorResult where
  intentId := some "intent-1"
  predictionId := some "prediction-1"
  paperOrderId := some "paper-1"
  authorizationId := some "canary-1"
  requestSha256 := some "r1"
  executorSha256 := some "e1"
  accepted := some true
  status := some "matched"
  code := some "ok"
  geoblockPresent := true
  accountPreflightPresent := true
  externalOrderId := some "order-1"
  cancellation := none

/-- An environment in which nothing fails. -/
def sampleAnswer (armed : Bool) : (op : ConsumerOp) → op.Ans
  | .ensureStateRoot => .ok ()
  | .fileExists _ => .ok true
  | .verifyContract _ => .ok sampleContract
  | .loadPrepared => .ok samplePrepared
  | .killSwitchExists _ => .ok true
  | .health => .exited 0 (.mapping (sampleHealth armed))
  | .newAuthorizationId => "canary-1"
  | .now => Timestamp.ofSeconds 1
  | .releaseCommitSha => .ok "c1"
  | .writeExclusive _ _ => .written
  | .replaceActivation _ => .replaced
  | .unlinkKillSwitch _ => .ok ()
  | .submit _ _ => .exited 0 (.mapping sampleExecutorResult)
  | .engageKillSwitch _ _ => .replaced

/-- Fifteen operations disengage the kill switch, and the rest submits. -/
def sampleProposals : List ((op : ConsumerOp) → op.Ans) :=
  List.replicate 15 (sampleAnswer false) ++ List.replicate 10 (sampleAnswer true)

/-- A run on an empty state root disengages the kill switch, submits and engages it again; the run
after it submits nothing. -/
theorem privilegedConsumer_run_sample :
    let first := (ConsumerWorld.initial [] ["/run/kill-switch"] none).ran sampleCall sampleProposals
    first.trace.any (disengages "/run/kill-switch") = true ∧ first.result.isSome = true ∧
      first.trace.any hitsOsError = false ∧ first.world.submissions.length = 1 ∧
      SafeRun sampleCall (first.world.ran sampleCall sampleProposals) :=
  ⟨by decide +kernel, by decide +kernel, by decide +kernel, by decide +kernel,
    (privilegedConsumer_run [] ["/run/kill-switch"] none [.run sampleCall sampleProposals]
      sampleCall sampleProposals).2⟩

end BpEngine.PrivilegedConsumer
