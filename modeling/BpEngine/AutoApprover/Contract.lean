import BpEngine.Execution.Documents

/-!
# Prompts and keyboards

`contract.py` of the Telegram auto-approver: what a prompt of the listener looks like.

* `parsePrompt` reads the two prompts; `promptText` is the match of their patterns and `promptOf` the
  checks of the numbers in it.
* `classifyKeyboard` finds the nonce that the two buttons share.
* `approvalDeadline` is the time until which a prompt may be approved.

Each function that asks for the approval source is cut there: the source's file is hashed again at
every request, which may fail.
-/

namespace BpEngine.AutoApprover

/-! ## The approval source -/

/-- `MIN_APPROVAL_WINDOW_SECONDS`. -/
def minApprovalWindowSeconds : ℤ := 20

/-- `SUBMIT_SAFETY_FLOOR_SECONDS`. -/
def submitSafetyFloorSeconds : ℤ := 10

/-- `MAX_APPROVAL_LIFETIME_SECONDS`. -/
def maxApprovalLifetimeSeconds : ℤ := 45

/-- `TARGET_NOTIONAL_USD`. -/
def targetNotionalUsd : Decimal := ⟨5, 0⟩

/-- `LOCAL_DEADLINE_SAFETY_MARGIN_SECONDS`. -/
def localDeadlineSafetyMarginSeconds : ℤ := 2

/-- `callback_data`, for an action in lower case. -/
def callbackData (action nonce : String) : Outcome String := do
  require (action = "approve" ∨ action = "skip") .approvalError "callback action invalid"
  let value := action ++ ":" ++ nonce
  require ((bytes value).length ≤ 64) .approvalError "callback data exceeds Telegram limit"
  .ok value

/-! ## The prompt -/

/-- The texts a pattern of a prompt captures. -/
structure PromptText where
  side : String
  limitPrice : String
  shares : String
  maximumSpend : String
  timeRemaining : String
deriving DecidableEq

def isDigit (c : Char) : Bool := '0' ≤ c && c ≤ '9'

/-- `(?:0|[1-9][0-9]*)(?:\.[0-9]+)?` -/
def isNumber (text : List Char) : Bool :=
  let whole := text.takeWhile isDigit
  let rest := text.drop whole.length
  (whole = ['0'] || (!whole.isEmpty && whole.head? ≠ some '0')) &&
    (rest.isEmpty || (rest.head? = some '.' && !rest.tail.isEmpty && rest.tail.all isDigit))

/-- `[0-9]+\.[0-9]` -/
def isTenths (text : List Char) : Bool :=
  let whole := text.takeWhile isDigit
  let rest := text.drop whole.length
  !whole.isEmpty && rest.head? = some '.' && rest.tail.length = 1 && rest.tail.all isDigit

/-- The rest of a line that starts with a text. -/
def afterLead (lead : String) (line : List Char) : Option (List Char) :=
  if lead.toList.isPrefixOf line then some (line.drop lead.toList.length) else none

/-- The capture of a line: a lead and a number. -/
def numberLine (lead : String) (line : List Char) : Option String := do
  let text ← afterLead lead line
  if isNumber text then some (String.ofList text) else none

/-- `Side: (UP|DOWN)` -/
def sideLine (line : List Char) : Option String := do
  let text ← afterLead "Side: " line
  if text = "UP".toList ∨ text = "DOWN".toList then some (String.ofList text) else none

/-- `Time remaining: ([0-9]+\.[0-9])s` -/
def remainingLine (line : List Char) : Option String := do
  let text ← afterLead "Time remaining: " line
  if text.getLast? = some 's' ∧ isTenths text.dropLast = true then
    some (String.ofList text.dropLast)
  else none

/-- The lines after the numbers of `_READY_PROMPT`. -/
def readyTail : List String :=
  ["", "Approve only if you want this exact real-money order submitted."]

/-- The lines after the numbers of `_CANDIDATE_PROMPT`. -/
def candidateTail : List String :=
  ["", "Final live risk and Johannesburg execution checks are still running. " ++
      "Approval does not bypass them.", "",
    "Approve only if you want this exact real-money order submitted when every final gate passes."]

/-- The head and the tail belong to one of the two prompts. -/
def isPrompt (title : List Char) (rest : List (List Char)) : Bool :=
  (title = "BP V3 LIVE TRADE READY".toList && rest = readyTail.map String.toList) ||
    (title = "BP V3 LIVE TRADE CANDIDATE".toList && rest = candidateTail.map String.toList)

/-- `_READY_PROMPT.fullmatch(text)`, or else `_CANDIDATE_PROMPT.fullmatch(text)`. -/
def promptText (text : String) : Option PromptText :=
  match text.toList.splitOn '\n' with
  | title :: [] :: side :: limit :: shares :: spend :: remaining :: rest =>
    if isPrompt title rest then do
      some {
        side := ← sideLine side
        limitPrice := ← numberLine "Limit: " limit
        shares := ← numberLine "Shares: " shares
        maximumSpend := ← numberLine "Maximum spend: $" spend
        timeRemaining := ← remainingLine remaining }
    else none
  | _ => none

/-- `PromptMatch`. -/
structure PromptMatch where
  side : String
  limitPrice : Decimal
  shares : Decimal
  maximumSpend : Decimal
  timeRemaining : Decimal
deriving DecidableEq

/-- The number a text shows. -/
def finiteOf (text : String) : Option Decimal :=
  match decimalOfText text with
  | some (.finite value) => some value
  | _ => none

/-- The checks of the numbers of a prompt. -/
def promptOf (text : PromptText) : Option PromptMatch := do
  let limit ← finiteOf text.limitPrice
  let shareCount ← finiteOf text.shares
  let spendValue ← finiteOf text.maximumSpend
  let remaining ← finiteOf text.timeRemaining
  if ¬ Decimal.Same spendValue targetNotionalUsd then none
  else if ¬ (0 < limit ∧ limit ≤ ⟨1, 0⟩) then none
  else if shareCount ≤ 0 then none
  else if remaining < Decimal.ofInt minApprovalWindowSeconds then none
  else some {
    side := text.side
    limitPrice := Decimal.formatF limit
    shares := Decimal.formatF shareCount
    maximumSpend := Decimal.formatF targetNotionalUsd
    timeRemaining := remaining }

/-! ## The deadline -/

/-- `approval_deadline`, of an aware time: the end of the window in microseconds, less the margin. -/
def approvalDeadline (sentAt : Timestamp) (timeRemaining : Decimal) : Outcome Timestamp := do
  let lifetime := Decimal.min' (Decimal.ofInt maxApprovalLifetimeSeconds)
    (timeRemaining - Decimal.ofInt submitSafetyFloorSeconds)
  require (¬ lifetime ≤ 0) .valueError "approval window is closed"
  let scaled := lifetime * ⟨1000000, 0⟩
  let microseconds := if 0 ≤ scaled.exp then scaled.align 0
    else scaled.coeff.tdiv (10 ^ scaled.exp.natAbs)
  let deadline := sentAt + microseconds
  require (IsoTime.InRange deadline) .overflowError "date value out of range"
  let deadline := deadline - Timestamp.ofSeconds localDeadlineSafetyMarginSeconds
  require (IsoTime.InRange deadline) .overflowError "date value out of range"
  require (¬ deadline ≤ sentAt) .valueError "approval window is closed"
  .ok deadline

/-! ## The keyboard -/

/-- `CallbackButton`. -/
structure CallbackButton where
  text : String
  callbackData : Option (List UInt8) := none
  url : Option String := none
deriving DecidableEq

/-- `_NONCE` -/
def isApprovalNonce (nonce : String) : Bool :=
  nonce.toList.length = 16 && nonce.toList.all fun c =>
    ('A' ≤ c && c ≤ 'Z') || ('a' ≤ c && c ≤ 'z') || ('0' ≤ c && c ≤ '9') || c = '_' || c = '-'

/-- `_nonce_from_approve` -/
def nonceFromApprove (value : String) : Option String := do
  let nonce := String.ofList (← afterLead "approve:" value.toList)
  if isApprovalNonce nonce then some nonce else none

/-- `data.decode("utf-8")` -/
def decodeUtf8 (data : List UInt8) : Option String := String.fromUTF8? ⟨data.toArray⟩

/-- `_contains_approve` -/
def containsApprove (buttons : List (List CallbackButton)) : Bool :=
  buttons.any fun row => row.any fun button =>
    button.text = "APPROVE" || button.callbackData.any ((bytes "approve:").isPrefixOf ·)

/-- What the keyboard shows before the approval source is asked: the nonce and the data of the two
buttons, or the reason of a rejection. -/
def keyboardNonce (buttons : Option (List (List CallbackButton))) :
    Except String (String × List UInt8 × List UInt8 × String × String) :=
  match buttons with
  | none => .error "keyboard_unreadable"
  | some buttons =>
    if containsApprove buttons = false then .error "no_approve_button"
    else
      match buttons with
      | [[approve, skip]] =>
        if approve.text ≠ "APPROVE" ∨ skip.text ≠ "SKIP" then .error "keyboard_text_mismatch"
        else if orEmpty approve.url ≠ "" ∨ orEmpty skip.url ≠ "" then .error "keyboard_url_present"
        else
          match approve.callbackData, skip.callbackData with
          | some approveData, some skipData =>
            match decodeUtf8 approveData, decodeUtf8 skipData with
            | some approveText, some skipText =>
              match nonceFromApprove approveText with
              | some nonce => .ok (nonce, approveData, skipData, approveText, skipText)
              | none => .error "keyboard_approve_nonce_mismatch"
            | _, _ => .error "keyboard_callback_decode_failed"
          | _, _ => .error "keyboard_callback_type_mismatch"
      | _ => .error "keyboard_shape_mismatch"

/-- The data of the buttons are those the approval source makes of the nonce. -/
def matchKeyboard (nonce : String) (approveData skipData : List UInt8)
    (approveText skipText : String) : Except String String :=
  match callbackData "approve" nonce, callbackData "skip" nonce with
  | .ok expectedApprove, .ok expectedSkip =>
    if approveText ≠ expectedApprove then .error "keyboard_approve_callback_mismatch"
    else if skipText ≠ expectedSkip then .error "keyboard_skip_callback_mismatch"
    else if approveData ≠ bytes expectedApprove then .error "keyboard_approve_bytes_mismatch"
    else if skipData ≠ bytes expectedSkip then .error "keyboard_skip_bytes_mismatch"
    else .ok nonce
  | _, _ => .error "keyboard_expected_callback_error"

/-- `classify_keyboard`, when the approval source can be read. -/
def classifyKeyboard (buttons : Option (List (List CallbackButton))) : Except String String := do
  let (nonce, approveData, skipData, approveText, skipText) ← keyboardNonce buttons
  matchKeyboard nonce approveData skipData approveText skipText

/-- The data of an approve button with the nonce. -/
def approveData (nonce : String) : List UInt8 := bytes ("approve:" ++ nonce)

/-- `is_exact_approve_callback`, when the approval source can be read. -/
def isExactApproveCallback (data : List UInt8) (nonce : String) : Bool :=
  isApprovalNonce nonce &&
    match callbackData "approve" nonce with
    | .ok expected => data = bytes expected && !(bytes "skip:").isPrefixOf data
    | .error _ => false

/-! ## What the checks establish -/

theorem callbackData_approve {nonce value : String} (h : callbackData "approve" nonce = .ok value) :
    value = "approve:" ++ nonce := by
  simp only [callbackData, bind_eq_ok, require_eq_ok] at h
  obtain ⟨-, -, -, -, hvalue⟩ := h
  rw [← Except.ok.inj hvalue]
  rfl

/-- An exact callback has the data of an approve button. -/
theorem isExactApproveCallback_eq {data : List UInt8} {nonce : String}
    (h : isExactApproveCallback data nonce = true) : data = approveData nonce := by
  unfold isExactApproveCallback at h
  rw [Bool.and_eq_true] at h
  obtain ⟨-, h⟩ := h
  split at h
  · next expected hexpected =>
    rw [Bool.and_eq_true, decide_eq_true_eq] at h
    rw [h.1, callbackData_approve hexpected]
    rfl
  · cases h

/-- A nonce determines its data, and the other way round. -/
theorem approveData_injective {a b : String} (h : approveData a = approveData b) : a = b := by
  unfold approveData bytes at h
  have hbytes : ("approve:" ++ a).toByteArray = ("approve:" ++ b).toByteArray := by
    ext1
    exact Array.toList_inj.mp h
  have hsame : "approve:" ++ a = "approve:" ++ b := String.toByteArray_inj.mp hbytes
  have hlist := congrArg String.toList hsame
  rw [String.toList_append, String.toList_append] at hlist
  exact String.toList_inj.mp (List.append_cancel_left hlist)

end BpEngine.AutoApprover
