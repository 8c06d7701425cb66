import BpEngine.AutoApprover.Decider

/-!
# What a task of the auto-approver may do

Launches, handlers and looks at the latest message run side by side, and the process may end between
any two of their operations.

* `Approvable` is what the checks of `prepare` establish of a message and of its reservation.
* `ApproverPhase` is what a task has done; `approverProtocol` is the discipline.
* `obeys_task` assembles it from one lemma for each program.
-/

namespace BpEngine.AutoApprover

/-! ## What a callback needs -/

/-- The message a task takes for a new one. -/
def ApproverTask.incoming : ApproverTask → Decider → Option IncomingMessage
  | .launch _, _ => none
  | .message raw isPrivate edited, decider =>
    if edited then none else some (adaptMessage raw decider.botUserId isPrivate)
  | .latest raw _, decider => some (adaptMessage raw decider.botUserId true)

/-- A direct, unedited message of the configured bot, sent after the start of the service, with a
prompt and a keyboard that pass, and a reservation of it that was made in time: the time it was made at
is the one `prepare` reads for it and the row records. -/
structure Approvable (decider : Decider) (message : IncomingMessage) (row : NewApproval) : Prop where
  live : decider.live = true
  sender : message.senderId = some decider.botUserId ∧ message.chatId = decider.botUserId ∧
    message.isPrivate = true ∧ message.outgoing = false
  direct : message.forwarded = false ∧ message.reply = false
  unedited : message.editDate = none
  identity : row.message = (message.chatId, message.messageId)
  keyboard : classifyKeyboard message.buttons = .ok row.nonce
  prompt : ∃ captured prompt, message.text.bind promptText = some captured ∧
    promptOf captured = some prompt ∧
    ∃ offset, message.sentAt.offset = some offset ∧
      decider.startedAt < message.sentAt.wall - offset ∧
      approvalDeadline (message.sentAt.wall - offset) prompt.timeRemaining = .ok row.deadlineAt
  inTime : row.receivedAt < row.deadlineAt

/-! ## The protocol -/

/-- What a task has done. -/
structure ApproverPhase where
  task : ApproverTask
  booted : Bool := false
  decider : Option Decider := none
  reservation : Option (ℕ × NewApproval) := none
  sent : Bool := false
  moved : Bool := false

/-- A task that has done nothing yet. -/
def ApproverPhase.fresh (task : ApproverTask) : ApproverPhase := { task }

/-- The operation leaves the store's status, the process and the callbacks alone. -/
def ApproverOp.quiet : ApproverOp → Bool
  | .resolveIdentity | .lock | .unlock | .approvalSource | .now | .recordListenerEdit _ _ _ _ _
  | .lastReconciled | .setLastReconciled _ => true
  | _ => false

/-- What a task may do: a booted launch sweeps and gets ready, a handler reserves once, and sends one
callback and moves a row only on its own reservation. -/
def approverAllowed (phase : ApproverPhase) : ApproverOp → Prop
  | .sweepUnconfirmed _ | .ready _ => phase.booted = true
  | .boot | .currentDecider =>
    phase.booted = false ∧ phase.decider = none ∧ phase.reservation = none
  | .insert row => row.status = .reserved → phase.decider.isSome = true ∧ phase.reservation = none
  | .transitionReserved rowId status _ _ _ _ =>
    (status = .clicked ∨ status = .failedOrUnknown) ∧ ∃ row, phase.reservation = some (rowId, row)
  | .sendCallback callback => ∃ decider message rowId row, phase.decider = some decider ∧
      phase.task.incoming decider = some message ∧ phase.reservation = some (rowId, row) ∧
      phase.sent = false ∧ phase.moved = false ∧ Approvable decider message row ∧
      callback = ⟨decider.botUserId, row.telegramMessageId, approveData row.nonce⟩
  | _ => True

/-- What a task has done after an operation. -/
def approverNext (phase : ApproverPhase) : (op : ApproverOp) → op.Ans → ApproverPhase
  | .boot, _ => { phase with booted := true }
  | .ready _, _ => { phase with booted := false }
  | .currentDecider, decider => { phase with decider := some decider }
  | .insert row, .created rowId =>
    if row.status = .reserved then { phase with reservation := some (rowId, row) } else phase
  | .transitionReserved _ _ _ _ _ _, _ => { phase with moved := true }
  | .sendCallback _, _ => { phase with sent := true }
  | _, _ => phase

/-- The discipline of a task. -/
def approverProtocol : Protocol ApproverOp ApproverOp.Ans ApproverPhase where
  allowed := approverAllowed
  expects _ _ _ := True
  next := approverNext

theorem allowed_of_quiet {phase : ApproverPhase} {op : ApproverOp} (h : op.quiet = true) :
    approverAllowed phase op := by
  cases op <;> trivial

theorem next_of_quiet {phase : ApproverPhase} {op : ApproverOp} (answer : op.Ans)
    (h : op.quiet = true) : approverNext phase op answer = phase := by
  cases op <;> first | rfl | cases h

/-! ## The programs keep to the protocol -/

section Obeys

open Protocol

variable {phase : ApproverPhase} {α : Type} {Q : ApproverPhase → α → Prop}

/-- Quiet programs leave the phase alone. -/
theorem obeys_quiet {program : ApproverM α} (h : program.Only (·.quiet = true) fun _ => True)
    (hQ : ∀ value, Q phase value) : approverProtocol.Obeys (Ends Q) program phase :=
  .of_only h (fun _ hop => allowed_of_quiet hop) (fun _ answer hop => next_of_quiet answer hop)
    (fun value => ends_ok.mpr (hQ value)) fun _ _ => ends_error

/-- A quiet operation and what follows it. -/
theorem obeys_call_quiet {op : ApproverOp} {f : op.Ans → ApproverM α} (hop : op.quiet = true)
    (hf : ∀ answer, approverProtocol.Obeys (Ends Q) (f answer) phase) :
    approverProtocol.Obeys (Ends Q) (Program.call op >>= f) phase := by
  refine obeys_call_bind.mpr ⟨allowed_of_quiet hop, fun answer _ => ?_⟩
  rw [show approverProtocol.next phase op answer = phase from next_of_quiet answer hop]
  exact hf answer

theorem obeys_approvalSource {f : Unit → ApproverM α}
    (hf : approverProtocol.Obeys (Ends Q) (f ()) phase) :
    approverProtocol.Obeys (Ends Q) (approvalSource >>= f) phase := by
  refine Obeys.ends_bind (R := fun phase' _ => phase' = phase) ?_ fun phase' _ hphase => ?_
  · exact obeys_call_quiet rfl fun answer => obeys_ofExcept.mpr fun _ _ => rfl
  · subst hphase
    exact hf

theorem obeys_now {f : Timestamp → ApproverM α}
    (hf : ∀ t, approverProtocol.Obeys (Ends Q) (f t) phase) :
    approverProtocol.Obeys (Ends Q) (now >>= f) phase := obeys_call_quiet rfl hf

theorem only_approvalSource : approvalSource.Only (·.quiet = true) fun _ => True :=
  .bind (Program.only_call.2 rfl) fun _ => Program.only_ofExcept fun _ _ => trivial

theorem only_handleEdit (decider : Decider) (message : IncomingMessage) :
    (handleEdit decider message).Only (·.quiet = true) fun _ => True := by
  refine .bind only_approvalSource fun _ => ?_
  split_ifs
  · trivial
  · split
    · trivial
    · refine .bind (Program.only_call.2 rfl) fun now => .bind (Program.only_call.2 rfl) fun answer => ?_
      split <;> trivial

/-- An insertion of a reservation, or of another row. -/
theorem obeys_insertRow {row : NewApproval} {f : Option ℕ → ApproverM α}
    (hallowed : approverAllowed phase (.insert row))
    (hnone : approverProtocol.Obeys (Ends Q) (f none) phase)
    (hsome : ∀ rowId, approverProtocol.Obeys (Ends Q) (f (some rowId))
      (approverNext phase (.insert row) (.created rowId))) :
    approverProtocol.Obeys (Ends Q) (insertRow row >>= f) phase := by
  refine Obeys.ends_bind (R := fun phase' value =>
    approverProtocol.Obeys (Ends Q) (f value) phase') ?_ fun _ _ h => h
  refine obeys_call_bind.mpr ⟨hallowed, fun answer _ => ?_⟩
  cases answer with
  | created rowId => exact ends_ok.mpr (hsome rowId)
  | duplicate => exact ends_ok.mpr hnone
  | failed done raised => exact ends_error

/-- The end of a click, on the task's own reservation. -/
theorem obeys_finish {rowId : ℕ} {row : NewApproval} (result : ClickResult)
    (hrow : phase.reservation = some (rowId, row)) :
    approverProtocol.Obeys (Ends fun _ _ => True) (finish rowId result) phase := by
  have hmove : ∀ (status : RowStatus) (updatedAt : Timestamp) (approvalAt : Option Timestamp)
      (text : String) (failureReason : Option String),
      status = .clicked ∨ status = .failedOrUnknown →
      approverProtocol.Obeys (Ends fun _ _ => True)
        (transitionReserved rowId status updatedAt approvalAt text failureReason >>= fun _ => pure ())
        phase := by
    intro status updatedAt approvalAt text failureReason hstatus
    refine Obeys.ends_bind (R := fun _ _ => True) ?_ fun _ _ _ => ends_ok.mpr trivial
    refine obeys_call_bind.mpr ⟨⟨hstatus, row, hrow⟩, fun answer _ => ?_⟩
    cases answer with
    | updated changed => exact ends_ok.mpr trivial
    | failed done raised => exact ends_error
  refine obeys_now fun t => ?_
  split
  · exact hmove _ _ _ _ _ (.inl rfl)
  · exact hmove _ _ _ _ _ (.inr rfl)

/-- What a task that has reserved knows of the click it has prepared. -/
structure Holds (decider : Decider) (message : IncomingMessage) (phase : ApproverPhase)
    (prepared : PreparedClick) : Prop where
  own : phase.decider = some decider
  incoming : phase.task.incoming decider = some message
  unsent : phase.sent = false
  unmoved : phase.moved = false
  reservation : ∃ row, phase.reservation = some (prepared.rowId, row) ∧
    Approvable decider message row ∧ prepared.telegramMessageId = row.telegramMessageId ∧
    prepared.nonce = row.nonce

/-- The callback is the exact one of the reservation. -/
theorem obeys_click {decider : Decider} {message : IncomingMessage} {prepared : PreparedClick}
    (h : Holds decider message phase prepared) :
    approverProtocol.Obeys (Ends fun _ _ => True) (click decider prepared) phase := by
  obtain ⟨row, hrow, happrovable, hmessage, hnonce⟩ := h.reservation
  refine Obeys.ends_bind (R := fun phase' exact => phase' = phase ∧
    (exact = true → isExactApproveCallback prepared.callbackData prepared.nonce = true)) ?_ ?_
  · split_ifs
    · exact obeys_approvalSource (ends_ok.mpr ⟨rfl, id⟩)
    · exact ends_ok.mpr ⟨rfl, fun hfalse => by cases hfalse⟩
  · rintro phase' exact' ⟨rfl, hexact⟩
    split_ifs with hfalse
    · exact obeys_finish _ hrow
    · have hdata := isExactApproveCallback_eq (hexact (by simpa using hfalse))
      refine obeys_call_bind.mpr ⟨?_, fun answer _ => ?_⟩
      · refine ⟨decider, message, prepared.rowId, row, h.own, h.incoming, hrow, h.unsent, h.unmoved,
          happrovable, ?_⟩
        rw [hdata, hmessage, hnonce]
      · have hkept : (approverProtocol.next phase' (.sendCallback ⟨decider.botUserId,
            prepared.telegramMessageId, prepared.callbackData⟩) answer).reservation =
              some (prepared.rowId, row) := hrow
        cases answer with
        | raised raised => exact obeys_finish _ hkept
        | nothing => exact obeys_finish _ hkept
        | answered toast => exact obeys_finish _ hkept

/-! ### Preparing -/

/-- A message that is admitted is a direct one of the bot, sent after the start. -/
theorem admitMessage_eq_ok {decider : Decider} {message : IncomingMessage} {sentAt : Timestamp}
    (h : admitMessage decider message = .ok sentAt) :
    identityRejection decider message = none ∧ message.forwarded = false ∧ message.reply = false ∧
      message.editDate = none ∧ ∃ offset, message.sentAt.offset = some offset ∧
        sentAt = message.sentAt.wall - offset ∧ decider.startedAt < sentAt := by
  unfold admitMessage at h
  split at h
  · cases h
  split at h
  · cases h
  · next hidentity =>
    split_ifs at h with hforwarded hreply hedited
    split at h
    · cases h
    · next offset hoffset =>
      split_ifs at h with hstarted
      obtain rfl := Except.ok.inj h
      refine ⟨hidentity, by simpa using hforwarded, by simpa using hreply, ?_, offset, hoffset, rfl,
        not_le.mp hstarted⟩
      simpa using hedited

theorem identityRejection_eq_none {decider : Decider} {message : IncomingMessage}
    (h : identityRejection decider message = none) :
    message.senderId = some decider.botUserId ∧ message.chatId = decider.botUserId ∧
      message.isPrivate = true ∧ message.outgoing = false := by
  unfold identityRejection at h
  simp only at h
  split_ifs at h with houtgoing hsender hchat hprivate
  exact ⟨not_not.mp hsender, not_not.mp hchat, by simpa using hprivate, by simpa using houtgoing⟩

theorem obeys_parsePrompt {text : Option String} {f : Option PromptMatch → ApproverM α}
    (hnone : approverProtocol.Obeys (Ends Q) (f none) phase)
    (hsome : ∀ captured prompt, text.bind promptText = some captured →
      promptOf captured = some prompt → approverProtocol.Obeys (Ends Q) (f (some prompt)) phase) :
    approverProtocol.Obeys (Ends Q) (parsePrompt text >>= f) phase := by
  refine Obeys.ends_bind (R := fun phase' value =>
    approverProtocol.Obeys (Ends Q) (f value) phase') ?_ fun _ _ h => h
  unfold parsePrompt
  split
  · exact ends_ok.mpr hnone
  · next captured hcaptured =>
    refine obeys_approvalSource (ends_ok.mpr ?_)
    cases hprompt : promptOf captured with
    | none => exact hnone
    | some prompt => exact hsome captured prompt hcaptured hprompt

theorem obeys_readKeyboard {buttons : Option (List (List CallbackButton))}
    {f : Option String → ApproverM α}
    (hnone : approverProtocol.Obeys (Ends Q) (f none) phase)
    (hsome : ∀ nonce, classifyKeyboard buttons = .ok nonce →
      approverProtocol.Obeys (Ends Q) (f (some nonce)) phase) :
    approverProtocol.Obeys (Ends Q) (readKeyboard buttons >>= f) phase := by
  refine Obeys.ends_bind (R := fun phase' value =>
    approverProtocol.Obeys (Ends Q) (f value) phase') ?_ fun _ _ h => h
  unfold readKeyboard
  split
  · exact ends_ok.mpr hnone
  · next nonce approveData skipData approveText skipText hnonce =>
    refine obeys_approvalSource (ends_ok.mpr ?_)
    have hclassify : classifyKeyboard buttons =
        matchKeyboard nonce approveData skipData approveText skipText := by
      unfold classifyKeyboard
      rw [hnonce]
      rfl
    rw [← hclassify]
    cases hok : classifyKeyboard buttons with
    | error reason => exact hnone
    | ok nonce => exact hsome nonce hok

theorem obeys_readDeadline {sentAt : Timestamp} {timeRemaining : Decimal}
    {f : Option Timestamp → ApproverM α}
    (hnone : approverProtocol.Obeys (Ends Q) (f none) phase)
    (hsome : ∀ deadline, approvalDeadline sentAt timeRemaining = .ok deadline →
      approverProtocol.Obeys (Ends Q) (f (some deadline)) phase) :
    approverProtocol.Obeys (Ends Q) (readDeadline sentAt timeRemaining >>= f) phase := by
  refine Obeys.ends_bind (R := fun phase' value =>
    approverProtocol.Obeys (Ends Q) (f value) phase') ?_ fun _ _ h => h
  refine obeys_approvalSource ?_
  split
  · next deadline hdeadline => exact ends_ok.mpr (hsome deadline hdeadline)
  · split_ifs
    · exact ends_ok.mpr hnone
    · exact ends_error

/-- A task that may reserve: it has its decider and a message, and no reservation. -/
structure MayReserve (decider : Decider) (message : IncomingMessage) (phase : ApproverPhase) :
    Prop where
  own : phase.decider = some decider
  incoming : phase.task.incoming decider = some message
  reservation : phase.reservation = none
  unsent : phase.sent = false
  unmoved : phase.moved = false

/-- A prepared click is one of a reservation that was made in time. -/
theorem obeys_reserve {decider : Decider} {message : IncomingMessage} {record : NewApproval}
    (h : MayReserve decider message phase) (hstatus : record.status = .rejected)
    (happrovable : decider.live = true → record.receivedAt < record.deadlineAt →
      Approvable decider message (reservationOf record)) :
    approverProtocol.Obeys (Ends fun phase' result => ∀ prepared, result = some prepared →
      Holds decider message phase' prepared) (reserve decider record) phase := by
  have hrejected : ∀ {row : NewApproval}, row.status ≠ .reserved → ∀ {rowId : ℕ},
      approverNext phase (.insert row) (.created rowId) = phase := by
    intro row hrow rowId
    simp only [approverNext, if_neg hrow]
  unfold reserve
  split_ifs with hexpired hlive
  · refine obeys_insertRow (fun hreserved => ?_) (ends_ok.mpr ?_) fun rowId => ends_ok.mpr ?_
    · rw [hstatus] at hreserved
      cases hreserved
    · rintro prepared hprepared
      cases hprepared
    · rintro prepared hprepared
      cases hprepared
  · refine obeys_insertRow (fun _ => ⟨by rw [h.own]; rfl, h.reservation⟩) (ends_ok.mpr ?_) ?_
    · rintro prepared hprepared
      cases hprepared
    · intro rowId
      simp only [approverNext, reservationOf, if_true]
      refine Obeys.ends_bind (R := fun phase' _ => phase' = { phase with
        reservation := some (rowId, reservationOf record) }) ?_ ?_
      · refine obeys_approvalSource ?_
        refine Obeys.ends_ofExcept_bind fun value _ => ?_
        refine obeys_approvalSource ?_
        refine Obeys.ends_ofExcept_bind fun _ _ => ?_
        exact ends_ok.mpr rfl
      · rintro phase' data rfl
        refine ends_ok.mpr ?_
        rintro prepared hprepared
        cases hprepared
        exact {
          own := h.own
          incoming := h.incoming
          unsent := h.unsent
          unmoved := h.unmoved
          reservation := ⟨reservationOf record, rfl, happrovable hlive (not_le.mp hexpired), rfl, rfl⟩ }
  · refine obeys_insertRow (fun hreserved => ?_) (ends_ok.mpr ?_) fun rowId => ends_ok.mpr ?_
    · cases hreserved
    · rintro prepared hprepared
      cases hprepared
    · rintro prepared hprepared
      cases hprepared

/-- **Preparing**: a click is only prepared for an approvable message. -/
theorem obeys_prepare {decider : Decider} {message : IncomingMessage}
    (h : MayReserve decider message phase) :
    approverProtocol.Obeys (Ends fun phase' result => ∀ prepared, result = some prepared →
      Holds decider message phase' prepared) (prepare decider message) phase := by
  have hrejected : ∀ prepared, (none : Option PreparedClick) = some prepared →
      Holds decider message phase prepared := by
    rintro prepared hprepared
    cases hprepared
  refine obeys_approvalSource ?_
  split
  · exact ends_ok.mpr hrejected
  · next sentAt hadmitted =>
    refine obeys_now fun t => ?_
    split_ifs
    · exact ends_ok.mpr hrejected
    · refine obeys_parsePrompt (ends_ok.mpr hrejected) fun captured prompt hcaptured hprompt => ?_
      refine obeys_readKeyboard (ends_ok.mpr hrejected) fun nonce hnonce => ?_
      refine obeys_readDeadline (ends_ok.mpr hrejected) fun deadline hdeadline => ?_
      refine obeys_reserve h rfl fun hlive hintime => ?_
      obtain ⟨hidentity, hforwarded, hreply, hedited, offset, hoffset, hsent, hstarted⟩ :=
        admitMessage_eq_ok hadmitted
      subst hsent
      exact {
        live := hlive
        sender := identityRejection_eq_none hidentity
        direct := ⟨hforwarded, hreply⟩
        unedited := hedited
        identity := rfl
        keyboard := hnonce
        prompt := ⟨captured, prompt, hcaptured, hprompt, offset, hoffset, hstarted, hdeadline⟩
        inTime := hintime }

/-! ### The tasks -/

/-- A handler with its decider, before it takes its message. -/
structure Fresh (decider : Decider) (phase : ApproverPhase) : Prop where
  own : phase.decider = some decider
  reservation : phase.reservation = none
  unsent : phase.sent = false
  unmoved : phase.moved = false

theorem obeys_consume {decider : Decider} {message : IncomingMessage} {edited : Bool}
    (h : Fresh decider phase)
    (hincoming : edited = false → phase.task.incoming decider = some message) :
    approverProtocol.Obeys (Ends fun _ _ => True) (consume decider message edited) phase := by
  have hlocked : approverProtocol.Obeys (Ends fun _ _ => True)
      (consumeLocked decider message edited) phase := by
    unfold consumeLocked
    split_ifs with hedit
    · exact obeys_quiet (only_handleEdit decider message) fun _ => trivial
    · have hnew : edited = false := by
        cases edited
        · rfl
        · exact absurd (Or.inl rfl) hedit
      refine Obeys.ends_bind (obeys_prepare
        ⟨h.own, hincoming hnew, h.reservation, h.unsent, h.unmoved⟩) fun phase' result hresult => ?_
      cases result with
      | none => exact ends_ok.mpr trivial
      | some prepared => exact obeys_click (hresult prepared rfl)
  have hattempt : approverProtocol.Obeys (Ends fun _ _ => True)
      (consumeLocked decider message edited).attempt phase :=
    obeys_attempt.mpr (hlocked.mono fun _ _ _ => ends_ok.mpr trivial)
  -- The lock is given back in every case, and then a failure goes on.
  refine obeys_call_quiet rfl fun _ => Obeys.ends_bind hattempt fun phase' result _ => ?_
  exact obeys_call_quiet rfl fun _ => obeys_ofExcept.mpr fun _ _ => trivial

/-- A handler gets the decider of the process. -/
theorem obeys_currentDecider {task : ApproverTask} {f : Decider → ApproverM α}
    (hf : ∀ decider phase, Fresh decider phase → phase.task = task →
      approverProtocol.Obeys (Ends Q) (f decider) phase) :
    approverProtocol.Obeys (Ends Q) (Program.call ApproverOp.currentDecider >>= f)
      (ApproverPhase.fresh task) :=
  obeys_call_bind.mpr ⟨⟨rfl, rfl, rfl⟩, fun decider _ => hf decider _ ⟨rfl, rfl, rfl, rfl⟩ rfl⟩

theorem obeys_launch (config : ServiceConfig) :
    approverProtocol.Obeys (Ends fun _ _ => True) (launch config)
      (.fresh (.launch config)) := by
  refine obeys_call_bind.mpr ⟨⟨rfl, rfl, rfl⟩, fun _ _ => ?_⟩
  refine obeys_approvalSource ?_
  refine obeys_now fun startedAt => obeys_now fun sweptAt => ?_
  refine obeys_call_bind.mpr ⟨rfl, fun answer _ => ?_⟩
  cases answer with
  | failed done raised => exact ends_error
  | updated changed =>
    refine obeys_call_quiet rfl fun entity => ?_
    refine Obeys.ends_ofExcept_bind fun found _ => ?_
    refine Obeys.ends_ofExcept_bind fun _ _ => ?_
    exact obeys_call.mpr ⟨rfl, fun _ _ => ends_ok.mpr trivial⟩

/-- **Every task keeps to the protocol.** -/
theorem obeys_task (task : ApproverTask) :
    approverProtocol.Obeys (Ends fun _ _ => True) task.program
      (ApproverPhase.fresh task) := by
  cases task with
  | launch config => exact obeys_launch config
  | message raw isPrivate edited =>
    refine obeys_currentDecider fun decider phase hfresh htask => ?_
    refine obeys_consume hfresh fun hedited => ?_
    rw [htask, ApproverTask.incoming, hedited]
    rfl
  | latest raw force =>
    refine obeys_currentDecider fun decider phase hfresh htask => ?_
    refine obeys_call_quiet rfl fun previousId => ?_
    split_ifs
    · refine Obeys.ends_bind (obeys_consume hfresh fun _ => ?_) fun phase' _ _ => ?_
      · rw [htask]
        rfl
      · split
        · exact obeys_quiet (Program.only_call.2 rfl) fun _ => trivial
        · exact ends_ok.mpr trivial
    · exact ends_ok.mpr trivial

end Obeys

end BpEngine.AutoApprover
