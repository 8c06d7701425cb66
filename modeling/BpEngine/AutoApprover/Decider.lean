import BpEngine.AutoApprover.Contract
import BpEngine.Library.Pool

/-!
# The auto-approver

`decider.py`, `state.py` and the handlers of `serve` in `runtime.py` of the Telegram auto-approver.

* `ApprovalRow` is a row of the store; `ApproverWorld` has the rows, what a service process has in
  memory, and the callbacks that were sent.
* `ApproverOp` lists the effects; `prepare`, `finish`, `handleEdit`, `click`, `consume`, `onMessage`,
  `considerLatest` and `launch` are the programs over them.
* `approverHost` runs many of them at a time; stopping it ends the process.
-/

namespace BpEngine.AutoApprover

/-! ## The store -/

/-- The status of a row. -/
inductive RowStatus where
  | reserved
  | clicked
  | wouldApprove
  | failedOrUnknown
  | rejected
deriving DecidableEq

/-- `NewApproval`. -/
structure NewApproval where
  telegramChatId : ℤ
  telegramMessageId : ℤ
  nonce : String
  status : RowStatus
  reason : Option String
  side : String
  limitPrice : Decimal
  shares : Decimal
  maximumSpend : Decimal
  timeRemainingSeconds : Decimal
  deadlineAt : Timestamp
  receivedAt : Timestamp
  approvalAt : Option Timestamp
  result : String
  failureReason : Option String

/-- A row of `approvals`; `generation` is no column: it counts the launches before the insertion. -/
structure ApprovalRow extends NewApproval where
  id : ℕ
  intentId : Option String := none
  listenerDecisionAt : Option Timestamp := none
  listenerEditObservedAt : Option Timestamp := none
  createdAt : Timestamp
  updatedAt : Timestamp
  generation : ℕ

/-- The message of a row. -/
def NewApproval.message (row : NewApproval) : ℤ × ℤ := (row.telegramChatId, row.telegramMessageId)

/-! ## Messages -/

/-- What `adapt_message` reads of a message; an edit date that is no `datetime` counts as one. -/
structure TelegramMessage where
  id : Option ℤ
  senderId : Option ℤ
  senderUsername : Option String
  text : Option String
  date : Option DateTime
  editDate : Option DateTime
  forwarded : Bool
  reply : Bool
  out : Bool
  buttons : Option (List (List CallbackButton))

/-- `IncomingMessage`. -/
structure IncomingMessage where
  messageId : ℤ
  chatId : ℤ
  senderId : Option ℤ
  senderUsername : Option String
  text : Option String
  sentAt : DateTime
  editDate : Option DateTime
  forwarded : Bool
  reply : Bool
  outgoing : Bool
  isPrivate : Bool
  buttons : Option (List (List CallbackButton))

/-- `datetime.min`, without a time zone. -/
def datetimeMin : DateTime := ⟨-62135596800000000, none⟩

/-- `adapt_message`. -/
def adaptMessage (message : TelegramMessage) (chatId : ℤ) (isPrivate : Bool) : IncomingMessage where
  messageId := message.id.getD (-1)
  chatId
  senderId := message.senderId
  senderUsername := message.senderUsername
  text := message.text
  sentAt := message.date.getD datetimeMin
  editDate := message.editDate
  forwarded := message.forwarded
  reply := message.reply
  outgoing := message.out
  isPrivate
  buttons := message.buttons

/-- The fields of a `Decider`. -/
structure Decider where
  botUserId : ℤ
  botUsername : String
  live : Bool
  startedAt : Timestamp
deriving DecidableEq

/-- `(username or "").lstrip("@").strip().lower()`. -/
def normalizedUsername (username : Option String) : String :=
  lower (strip (String.ofList ((orEmpty username).toList.dropWhile (· = '@'))))

/-- `PreparedClick`. -/
structure PreparedClick where
  rowId : ℕ
  telegramChatId : ℤ
  telegramMessageId : ℤ
  nonce : String
  callbackData : List UInt8

/-- `ClickResult`. -/
structure ClickResult where
  accepted : Bool
  detail : String

/-! ## Effects -/

/-- What becomes of an insertion; a failing one may have been committed. -/
inductive InsertAnswer where
  | created (rowId : ℕ)
  | duplicate
  | failed (done : Bool) (raised : Raised)

/-- What becomes of an update; a failing one may have been committed. -/
inductive UpdateAnswer where
  | updated (changed : Bool)
  | failed (done : Bool) (raised : Raised)

/-- What `record_listener_edit` returns. -/
inductive EditAnswer where
  | recorded
  | missing
  | conflict
  | failed (done : Bool) (raised : Raised)

/-- What the request of a callback answer comes back with: an exception or the end of the waiting time,
nothing, or an answer with its text. -/
inductive CallbackAnswer where
  | raised (raised : Raised)
  | nothing
  | answered (toast : Option String)

/-- A callback that was sent. -/
structure Callback where
  peer : ℤ
  messageId : ℤ
  data : List UInt8
deriving DecidableEq

/-- The message a callback answers. -/
def Callback.message (callback : Callback) : ℤ × ℤ := (callback.peer, callback.messageId)

/-- The effects. -/
inductive ApproverOp where
  | boot
  | sweepUnconfirmed (updatedAt : Timestamp)
  | resolveIdentity
  | ready (decider : Decider)
  | currentDecider
  | lock
  | unlock
  | approvalSource
  | now
  | insert (row : NewApproval)
  | transitionReserved (rowId : ℕ) (status : RowStatus) (updatedAt : Timestamp)
      (approvalAt : Option Timestamp) (result : String) (failureReason : Option String)
  | recordListenerEdit (chatId messageId : ℤ) (intentId : String)
      (listenerDecisionAt observedAt : Timestamp)
  | sendCallback (callback : Callback)
  | lastReconciled
  | setLastReconciled (messageId : ℤ)

/-- What the configured bot's name resolves to. -/
structure Entity where
  id : ℤ
  username : Option String
  bot : Bool

/-- The answers. -/
def ApproverOp.Ans : ApproverOp → Type
  | .boot => Unit
  | .sweepUnconfirmed _ => UpdateAnswer
  | .resolveIdentity => Outcome Entity
  | .ready _ => Unit
  | .currentDecider => Decider
  | .lock => Unit
  | .unlock => Unit
  | .approvalSource => Outcome Unit
  | .now => Timestamp
  | .insert _ => InsertAnswer
  | .transitionReserved _ _ _ _ _ _ => UpdateAnswer
  | .recordListenerEdit _ _ _ _ _ => EditAnswer
  | .sendCallback _ => CallbackAnswer
  | .lastReconciled => Option ℤ
  | .setLastReconciled _ => Unit

/-- A program of the service. -/
abbrev ApproverM (α : Type) := Program ApproverOp ApproverOp.Ans Raised α

/-- The time the clock shows. -/
def now : ApproverM Timestamp := Program.call ApproverOp.now

/-- `approval_source`, whose file is hashed at every request. -/
def approvalSource : ApproverM Unit := do
  Program.ofExcept (← Program.call ApproverOp.approvalSource)

/-- The end of an insertion: the id of the new row. -/
def insertRow (row : NewApproval) : ApproverM (Option ℕ) := do
  match ← Program.call (ApproverOp.insert row) with
  | .created rowId => pure (some rowId)
  | .duplicate => pure none
  | .failed _ raised => Program.fail raised

/-- The end of an update. -/
def transitionReserved (rowId : ℕ) (status : RowStatus) (updatedAt : Timestamp)
    (approvalAt : Option Timestamp) (result : String) (failureReason : Option String) :
    ApproverM Bool := do
  match ← Program.call
      (ApproverOp.transitionReserved rowId status updatedAt approvalAt result failureReason) with
  | .updated changed => pure changed
  | .failed _ raised => Program.fail raised

/-! ## The decider -/

/-- `_identity_rejection`: the reason to reject the sender. -/
def identityRejection (decider : Decider) (message : IncomingMessage) : Option String :=
  let username := normalizedUsername message.senderUsername
  if message.outgoing then some "outgoing"
  else if message.senderId ≠ some decider.botUserId then some "sender_mismatch"
  else if message.chatId ≠ decider.botUserId then some "chat_mismatch"
  else if message.isPrivate = false then some "chat_not_private"
  else if username ≠ "" ∧ username ≠ decider.botUsername then some "sender_username_mismatch"
  else none

/-- The checks of `prepare` before the clock is read: the time the message was sent, or the reason of a
rejection. -/
def admitMessage (decider : Decider) (message : IncomingMessage) : Except String Timestamp :=
  if message.messageId ≤ 0 then .error "message_id_invalid"
  else
    match identityRejection decider message with
    | some reason => .error reason
    | none =>
      if message.forwarded then .error "forwarded"
      else if message.reply then .error "reply"
      else if message.editDate.isSome then .error "edited"
      else
        match message.sentAt.offset with
        | none => .error "message_time_unverifiable"
        | some offset =>
          if message.sentAt.wall - offset ≤ decider.startedAt then .error "historical"
          else .ok (message.sentAt.wall - offset)

/-- `_FUTURE_SKEW`. -/
def futureSkew : ℤ := Timestamp.ofSeconds 30

/-- The record of a validated prompt. -/
def recordOf (message : IncomingMessage) (prompt : PromptMatch) (nonce : String)
    (deadline now : Timestamp) : NewApproval where
  telegramChatId := message.chatId
  telegramMessageId := message.messageId
  nonce
  status := .rejected
  reason := none
  side := prompt.side
  limitPrice := prompt.limitPrice
  shares := prompt.shares
  maximumSpend := prompt.maximumSpend
  timeRemainingSeconds := Decimal.formatF prompt.timeRemaining
  deadlineAt := deadline
  receivedAt := now
  approvalAt := none
  result := "rejected"
  failureReason := none

/-- The record of a reservation. -/
def reservationOf (record : NewApproval) : NewApproval :=
  { record with status := .reserved, result := "reserved", reason := none }

/-- `_approve_bytes`. -/
def approveBytes (nonce : String) : ApproverM (List UInt8) := do
  approvalSource
  let value ← Program.ofExcept (callbackData "approve" nonce)
  approvalSource
  Program.ofExcept (require (isExactApproveCallback (bytes value) nonce = true) .runtimeError
    "refusing to prepare a non-approve callback")
  pure (bytes value)

/-- `prepare` on a validated prompt: nothing is clicked unless a reservation is made. -/
def reserve (decider : Decider) (record : NewApproval) : ApproverM (Option PreparedClick) := do
  if record.deadlineAt ≤ record.receivedAt then
    let _ ← insertRow { record with
      reason := some "expired", failureReason := some "expired", result := "rejected" }
    pure none
  else if decider.live then
    match ← insertRow (reservationOf record) with
    | none => pure none
    | some rowId =>
      let source ← approveBytes record.nonce
      pure (some ⟨rowId, record.telegramChatId, record.telegramMessageId, record.nonce, source⟩)
  else
    let _ ← insertRow { record with
      status := .wouldApprove, result := "would_approve", approvalAt := some record.receivedAt,
      reason := none, failureReason := none }
    pure none

/-- `parse_prompt`. -/
def parsePrompt (text : Option String) : ApproverM (Option PromptMatch) := do
  match text.bind promptText with
  | none => pure none
  | some captured =>
    approvalSource
    pure (promptOf captured)

/-- `classify_keyboard`. -/
def readKeyboard (buttons : Option (List (List CallbackButton))) : ApproverM (Option String) := do
  match keyboardNonce buttons with
  | .error _ => pure none
  | .ok (nonce, approveData, skipData, approveText, skipText) =>
    approvalSource
    pure (matchKeyboard nonce approveData skipData approveText skipText).toOption

/-- `approval_deadline`, of which a `ValueError` is caught. -/
def readDeadline (sentAt : Timestamp) (timeRemaining : Decimal) : ApproverM (Option Timestamp) := do
  approvalSource
  match approvalDeadline sentAt timeRemaining with
  | .ok deadline => pure (some deadline)
  | .error raised => if raised.cls = .valueError then pure none else Program.fail raised

/-- `prepare`; what is rejected before a record is made leaves no trace. -/
def prepare (decider : Decider) (message : IncomingMessage) : ApproverM (Option PreparedClick) := do
  approvalSource
  match admitMessage decider message with
  | .error _ => pure none
  | .ok sentAt =>
    let now ← now
    if now + futureSkew < sentAt then pure none
    else
      match ← parsePrompt message.text with
      | none => pure none
      | some prompt =>
        match ← readKeyboard message.buttons with
        | none => pure none
        | some nonce =>
          match ← readDeadline sentAt prompt.timeRemaining with
          | none => pure none
          | some deadline => reserve decider (recordOf message prompt nonce deadline now)

/-- `finish`. -/
def finish (rowId : ℕ) (result : ClickResult) : ApproverM Unit := do
  let now ← now
  if result.accepted then
    let _ ← transitionReserved rowId .clicked now (some now)
      (if result.detail = "" then "clicked" else result.detail) none
  else
    let detail := if result.detail = "" then "ambiguous_callback_result" else result.detail
    let _ ← transitionReserved rowId .failedOrUnknown now none "failed_or_unknown" (some detail)

/-- The intent and the time of an edit `BP V3 trade APPROVED`. -/
def parseListenerApprovalEdit (text : Option String) : Option (String × Timestamp) := do
  match (← text).toList.splitOn '\n' with
  | [title, intent, decision] =>
    if title = "BP V3 trade APPROVED".toList then
      let intentId := String.ofList (← afterLead "Intent: " intent)
      let decisionText := String.ofList (← afterLead "Decision time: " decision)
      if intentId = "" ∨ '\r' ∈ intent ∨ decisionText = "" ∨ '\r' ∈ decision ∨
          strip intentId ≠ intentId then none
      else
        let decidedAt ← IsoTime.fromisoformat decisionText
        some (intentId, decidedAt.wall - (← decidedAt.offset))
    else none
  | _ => none

/-- `handle_edit`. -/
def handleEdit (decider : Decider) (message : IncomingMessage) : ApproverM Unit := do
  approvalSource
  if (identityRejection decider message).isSome ∨ message.forwarded ∨ message.reply ∨
      message.outgoing then pure ()
  else
    match parseListenerApprovalEdit message.text with
    | none => pure ()
    | some (intentId, decidedAt) =>
      let now ← now
      match ← Program.call
          (ApproverOp.recordListenerEdit message.chatId message.messageId intentId decidedAt now) with
      | .failed _ raised => Program.fail raised
      | _ => pure ()

/-! ## The runtime -/

/-- The text of a toast that is kept. -/
def clickDetail (toast : Option String) : String :=
  match toast with
  | some toast =>
    if toast ≠ "" ∧ toast.toList.length ≤ 80 ∧ '\n' ∉ toast.toList then "rpc_returned:" ++ toast
    else "rpc_returned"
  | none => "rpc_returned"

/-- `click`: the detail of an exception is the name of its class, of which any text stands here. -/
def click (decider : Decider) (prepared : PreparedClick) : ApproverM Unit := do
  let exact ← (if isApprovalNonce prepared.nonce then do
      approvalSource
      pure (isExactApproveCallback prepared.callbackData prepared.nonce)
    else pure false : ApproverM Bool)
  if exact = false then
    finish prepared.rowId ⟨false, "refusing_unexpected_callback"⟩
  else
    match ← Program.call (ApproverOp.sendCallback
        ⟨decider.botUserId, prepared.telegramMessageId, prepared.callbackData⟩) with
    | .raised raised => finish prepared.rowId ⟨false, raised.message⟩
    | .nothing => finish prepared.rowId ⟨false, "missing_callback_result"⟩
    | .answered toast => finish prepared.rowId ⟨true, clickDetail toast⟩

/-- The part of `consume` under the lock. -/
def consumeLocked (decider : Decider) (message : IncomingMessage) (edited : Bool) :
    ApproverM Unit := do
  if edited ∨ message.editDate.isSome then handleEdit decider message
  else
    match ← prepare decider message with
    | none => pure ()
    | some prepared => click decider prepared

/-- `consume`. -/
def consume (decider : Decider) (message : IncomingMessage) (edited : Bool) : ApproverM Unit := do
  Program.call ApproverOp.lock
  let result ← (consumeLocked decider message edited).attempt
  Program.call ApproverOp.unlock
  Program.ofExcept result

/-- `on_new` and `on_edit`. -/
def onMessage (message : TelegramMessage) (isPrivate edited : Bool) : ApproverM Unit := do
  let decider ← Program.call ApproverOp.currentDecider
  consume decider (adaptMessage message decider.botUserId isPrivate) edited

/-- `should_consume_latest`. -/
def shouldConsumeLatest (previousId latestId : Option ℤ) (force : Bool) : Bool :=
  match latestId with
  | some latest => 0 < latest && (force || latestId ≠ previousId)
  | none => false

/-- `consider_latest`, of the latest message that was found. -/
def considerLatest (latest : TelegramMessage) (force : Bool) : ApproverM Unit := do
  let decider ← Program.call ApproverOp.currentDecider
  let previousId ← Program.call ApproverOp.lastReconciled
  if shouldConsumeLatest previousId latest.id force then
    consume decider (adaptMessage latest decider.botUserId true) false
    match latest.id with
    | some latestId => Program.call (ApproverOp.setLastReconciled latestId)
    | none => pure ()
  else pure ()

/-- The configuration of the service. -/
structure ServiceConfig where
  botUserId : ℤ
  botUsername : String
  live : Bool

/-- The start of `serve`: leftover reservations are swept before the bot is looked up, and no message is
taken before its identity is confirmed. -/
def launch (config : ServiceConfig) : ApproverM Unit := do
  Program.call ApproverOp.boot
  approvalSource
  let startedAt ← now
  let sweptAt ← now
  match ← Program.call (ApproverOp.sweepUnconfirmed sweptAt) with
  | .failed _ raised => Program.fail raised
  | .updated _ =>
    let entity ← Program.ofExcept (← Program.call ApproverOp.resolveIdentity)
    let botUsername := lower config.botUsername
    Program.ofExcept (require (entity.bot = true ∧ entity.id = config.botUserId ∧
        normalizedUsername entity.username = botUsername) .identityMismatch
      "resolved bot identity does not match configuration")
    Program.call (ApproverOp.ready ⟨config.botUserId, botUsername, config.live, startedAt⟩)

/-- What is run: a launch, the handlers of messages, and the look at the latest one. -/
inductive ApproverTask where
  | launch (config : ServiceConfig)
  | message (message : TelegramMessage) (isPrivate edited : Bool)
  | latest (message : TelegramMessage) (force : Bool)

def ApproverTask.program : ApproverTask → ApproverM Unit
  | .launch config => AutoApprover.launch config
  | .message incoming isPrivate edited => onMessage incoming isPrivate edited
  | .latest found force => considerLatest found force

/-! ## The world -/

/-- The store, the memory of the service process, and the callbacks that were sent; `generation` counts
the launches. -/
structure ApproverWorld where
  rows : List ApprovalRow := []
  alive : Bool := false
  decider : Option Decider := none
  locked : Bool := false
  last : Option ℤ := none
  generation : ℕ := 0
  callbacks : List Callback := []

/-- A row would clash with the unique columns of another. -/
def clashes (row : NewApproval) (other : ApprovalRow) : Bool :=
  row.message = other.message || row.nonce = other.nonce

/-- The row as it is stored. -/
def ApproverWorld.stored (world : ApproverWorld) (row : NewApproval) : ApprovalRow :=
  { row with
    id := world.rows.length + 1
    createdAt := row.receivedAt
    updatedAt := row.receivedAt
    generation := world.generation }

/-- `ApprovalStore.insert`. -/
def ApproverWorld.insert (world : ApproverWorld) (row : NewApproval) :
    InsertAnswer → InsertAnswer × ApproverWorld
  | .failed false raised => (.failed false raised, world)
  | .failed true raised =>
    if world.rows.any (clashes row) then (.duplicate, world)
    else (.failed true raised, { world with rows := world.rows ++ [world.stored row] })
  | _ =>
    if world.rows.any (clashes row) then (.duplicate, world)
    else (.created (world.stored row).id, { world with rows := world.rows ++ [world.stored row] })

/-- The row is the one an update of a reservation is about. -/
def isReservation (rowId : ℕ) (row : ApprovalRow) : Bool :=
  row.id = rowId && row.status = .reserved

/-- The row with another status. -/
def ApprovalRow.moved (row : ApprovalRow) (status : RowStatus) (updatedAt : Timestamp)
    (approvalAt : Option Timestamp) (result : String) (failureReason : Option String) :
    ApprovalRow :=
  { row with status, approvalAt, result, failureReason, updatedAt }

/-- The rows with an update of those that `p` holds of. -/
def updateRows (p : ApprovalRow → Bool) (f : ApprovalRow → ApprovalRow) (rows : List ApprovalRow) :
    List ApprovalRow :=
  rows.map fun row => if p row then f row else row

/-- An update of the rows that `p` holds of. -/
def ApproverWorld.update (world : ApproverWorld) (p : ApprovalRow → Bool)
    (f : ApprovalRow → ApprovalRow) : UpdateAnswer → UpdateAnswer × ApproverWorld
  | .updated _ => (.updated (world.rows.any p), { world with rows := updateRows p f world.rows })
  | .failed done raised =>
    (.failed done raised,
      if done then { world with rows := updateRows p f world.rows } else world)

/-- The row with what was seen of the listener. -/
def ApprovalRow.edited (row : ApprovalRow) (intentId : String)
    (listenerDecisionAt observedAt : Timestamp) : ApprovalRow :=
  { row with
    intentId := some intentId
    listenerDecisionAt := some listenerDecisionAt
    listenerEditObservedAt := some observedAt
    updatedAt := observedAt }

/-- `ApprovalStore.record_listener_edit`. -/
def ApproverWorld.recordEdit (world : ApproverWorld) (message : ℤ × ℤ) (intentId : String)
    (listenerDecisionAt observedAt : Timestamp) (proposal : EditAnswer) :
    EditAnswer × ApproverWorld :=
  let ofMessage (row : ApprovalRow) : Bool := row.message = message
  let edited := { world with
    rows := updateRows ofMessage (·.edited intentId listenerDecisionAt observedAt) world.rows }
  match world.rows.find? ofMessage with
  | none =>
    match proposal with
    | .failed _ raised => (.failed false raised, world)
    | _ => (.missing, world)
  | some row =>
    if orEmpty row.intentId ≠ "" ∧ orEmpty row.intentId ≠ intentId then
      match proposal with
      | .failed _ raised => (.failed false raised, world)
      | _ => (.conflict, world)
    else
      match proposal with
      | .failed done raised => (.failed done raised, if done then edited else world)
      | _ => (.recorded, edited)

/-- The answer to an effect: the store and the memory of the process are computed, failures and the
rest of the environment are as proposed.  A process boots when none is alive, a handler waits for the
decider, and the lock for its holder. -/
def ApproverWorld.serve (world : ApproverWorld) :
    (op : ApproverOp) → op.Ans → Option (op.Ans × ApproverWorld)
  | .boot, _ =>
    if world.alive then none
    else some ((), { world with alive := true, generation := world.generation + 1 })
  | .sweepUnconfirmed updatedAt, proposal =>
    some (world.update (·.status = .reserved)
      (fun row => { row with
        status := .failedOrUnknown
        result := "failed_or_unknown"
        failureReason := some "startup_found_unconfirmed_reservation"
        updatedAt }) proposal)
  | .resolveIdentity, answer => some (answer, world)
  | .ready decider, _ => some ((), { world with decider := some decider })
  | .currentDecider, _ => world.decider.map fun decider => (decider, world)
  | .lock, _ => if world.locked then none else some ((), { world with locked := true })
  | .unlock, _ => some ((), { world with locked := false })
  | .approvalSource, answer => some (answer, world)
  | .now, answer => some (answer, world)
  | .insert row, proposal => some (world.insert row proposal)
  | .transitionReserved rowId status updatedAt approvalAt result failureReason, proposal =>
    some (world.update (isReservation rowId)
      (·.moved status updatedAt approvalAt result failureReason) proposal)
  | .recordListenerEdit chatId messageId intentId listenerDecisionAt observedAt, proposal =>
    some (world.recordEdit (chatId, messageId) intentId listenerDecisionAt observedAt proposal)
  | .sendCallback callback, answer =>
    some (answer, { world with callbacks := world.callbacks ++ [callback] })
  | .lastReconciled, _ => some (world.last, world)
  | .setLastReconciled messageId, _ => some ((), { world with last := some messageId })

/-- The end of the process: the store is what remains. -/
def ApproverWorld.stopped (world : ApproverWorld) : ApproverWorld :=
  { world with alive := false, decider := none, locked := false, last := none }

/-- The service and its restarts; nothing else changes its world. -/
def approverHost : Host ApproverWorld ApproverTask Empty ApproverOp ApproverOp.Ans Raised Unit where
  serve := ApproverWorld.serve
  start := ApproverTask.program
  stop := ApproverWorld.stopped
  outside world _ := world

/-- The service as it is before its first launch, with an empty store. -/
def approverPool : Pool ApproverWorld ApproverTask ApproverOp ApproverOp.Ans Raised Unit := ⟨{}, [], []⟩

/-- What happens to the service: a task starts, takes a step, or the process ends. -/
abbrev ApproverEvent := PoolEvent ApproverTask Empty ApproverOp ApproverOp.Ans

/-- The service after some events. -/
def approverAfter (events : List ApproverEvent) :
    Pool ApproverWorld ApproverTask ApproverOp ApproverOp.Ans Raised Unit :=
  Machine.run (Pool.exec approverHost) approverPool events

end BpEngine.AutoApprover
