import BpEngine.Library.Decimal

/-!
# Values every component shares

* `Timestamp` is an aware datetime: microseconds since the epoch, in UTC; `date` is its UTC day.
* `Raised` is an exception with its class and its text; a fallible function returns `Outcome`, and
  `raises` asks for the class of its exception.
* `strip`, `lower`, `orEmpty`, `isHex64` are the text functions used on identifiers.
-/

namespace BpEngine

/-- An aware datetime, in microseconds since the epoch (UTC). -/
abbrev Timestamp := ℤ

namespace Timestamp

def ofSeconds (s : ℤ) : Timestamp := s * 1000000

/-- The UTC day a timestamp falls on. -/
def date (t : Timestamp) : ℤ := t / 86400000000

/-- `Decimal(str(delta.total_seconds()))` of a difference of timestamps. -/
def seconds (delta : ℤ) : Decimal := ⟨delta, -6⟩

end Timestamp

/-! ## Exceptions -/

/-- The exception classes the modelled functions raise. -/
inductive PyClass where
  | runtimeError
  | valueError
  | typeError
  | keyError
  | osError
  | fileExistsError
  | arithmeticError
  | integrityError
  | fastLiveError
  | fastLiveRetryableError
  | fastLiveResultError
  | liveRiskDecisionConflict
  | liveOrderIntentConflict
  | liveOrderEventConflict
  | liveReconciliationConflict
  | privilegedHandoffContractError
  | privilegedConsumerError
  | overflowError
  | approvalError
  | transportError
  | archiveVerificationError
  | databaseError
  | systemExit
  | featureLeakageError
  | tradeFlowError
  | bookReplayError
  | fastBookStreamError
  | paperSimulationError
  | paperLedgerConflictError
  | paperCashInvariantError
  | evaluationIntegrityError
  | livePredictionEvaluationConflict
  | queueBackpressure
  | indexError
  | labelConflict
  | labelSourceConflict
  | labelLeakageError
  | gammaMarketError
  | foldEligibilityError
  | livePredictionConflict
  | lookupError
  | unicodeError
  | recursionError
  | executionAuthorizationWorkerError
  | dispatchTicketError
  | readyVerificationError
  | preExecutionError
  | executionPackageError
  | contractMismatch
  | identityMismatch
  | stateError
  | timeoutError
  | supervisorError
  | v4SourceTimeFeatureError
  | attributeError
  | jsonDecodeError
  | keyboardInterrupt
  | calibrationEdgeIntegrityError
  | v4PlanIntegrityError
  | v4FreshBookShadowError
  | bybitHistoryError
  | coinbaseHistoryError
  | polymarketPriceHistoryError
  | historicalDataConflict
  | assertionError
deriving DecidableEq, Repr

/-- A raised exception: its class and its text. -/
structure Raised where
  cls : PyClass
  message : String
deriving DecidableEq, Repr

/-- The outcome of a fallible function. -/
abbrev Outcome (α : Type) := Except Raised α

/-- `raise cls(message)`. -/
def raise {α : Type} (cls : PyClass) (message : String) : Outcome α :=
  .error ⟨cls, message⟩

/-- `if not condition: raise cls(message)`. -/
def require (condition : Prop) [Decidable condition] (cls : PyClass) (message : String) :
    Outcome Unit :=
  if condition then .ok () else raise cls message

theorem bind_eq_ok {α β : Type} {x : Outcome α} {f : α → Outcome β} {b : β} :
    x >>= f = .ok b ↔ ∃ a, x = .ok a ∧ f a = .ok b := by
  cases x with
  | error e => simp [bind, Except.bind]
  | ok a => simp [bind, Except.bind]

@[simp] theorem raise_ne_ok {α : Type} {cls : PyClass} {message : String} {a : α} :
    ¬ raise cls message = .ok a := by simp [raise]

@[simp] theorem require_eq_ok {condition : Prop} [Decidable condition] {cls : PyClass}
    {message : String} {u : Unit} : require condition cls message = .ok u ↔ condition := by
  unfold require
  split_ifs with h <;> simp [h]

@[simp] theorem ok_bind {α β : Type} (a : α) (f : α → Outcome β) :
    ((.ok a : Outcome α) >>= f) = f a := rfl

@[simp] theorem error_bind {α β : Type} (e : Raised) (f : α → Outcome β) :
    ((.error e : Outcome α) >>= f) = .error e := rfl

theorem exists_ok_of_isOk {α : Type} {x : Outcome α} (h : x.isOk = true) : ∃ a, x = .ok a := by
  cases x with
  | error e => cases h
  | ok a => exact ⟨a, rfl⟩

/-- A list of computations returns what each of them returns. -/
theorem forall₂_of_mapM {α β : Type} {f : α → Outcome β} {l : List α} {r : List β}
    (h : l.mapM f = .ok r) : List.Forall₂ (fun a b => f a = .ok b) l r := by
  induction l generalizing r with
  | nil =>
    cases h
    exact List.Forall₂.nil
  | cons a l ih =>
    rw [List.mapM_cons] at h
    obtain ⟨b, hb, h⟩ := bind_eq_ok.mp h
    obtain ⟨bs, hbs, h⟩ := bind_eq_ok.mp h
    cases h
    exact List.Forall₂.cons hb (ih hbs)

/-- A loop of checks returns when all of them do. -/
theorem forM_eq_ok {α : Type} {items : List α} {check : α → Outcome Unit} {u : Unit} :
    items.forM check = .ok u ↔ ∀ a ∈ items, check a = .ok () := by
  induction items with
  | nil => exact ⟨fun _ _ h => (nomatch h), fun _ => rfl⟩
  | cons a rest ih =>
    change (check a >>= fun _ => rest.forM check) = _ ↔ _
    rw [bind_eq_ok, List.forall_mem_cons]
    constructor
    · rintro ⟨_, ha, hrest⟩
      exact ⟨ha, ih.mp hrest⟩
    · rintro ⟨ha, hrest⟩
      exact ⟨(), ha, ih.mpr hrest⟩

theorem forall_right_of_forall₂ {α β : Type} {R : α → β → Prop} {p : β → Prop} {l : List α}
    {r : List β} (h : List.Forall₂ R l r) (hp : ∀ a b, R a b → p b) : ∀ b ∈ r, p b := by
  induction h with
  | nil => simp
  | cons hab _ ih =>
    intro b hb
    rcases List.mem_cons.mp hb with rfl | hb
    · exact hp _ _ hab
    · exact ih b hb

/-- The outcome is an exception of the class. -/
def raises {α : Type} (cls : PyClass) : Outcome α → Bool
  | .error raised => raised.cls == cls
  | .ok _ => false

@[simp] theorem raises_ok {α : Type} (cls : PyClass) (a : α) :
    raises cls (.ok a : Outcome α) = false := rfl

@[simp] theorem raises_error {α : Type} (cls : PyClass) (raised : Raised) :
    raises cls (.error raised : Outcome α) = (raised.cls == cls) := rfl

@[simp] theorem raises_raise {α : Type} (cls cls' : PyClass) (message : String) :
    raises cls (raise cls' message : Outcome α) = (cls' == cls) := rfl

@[simp] theorem raises_map {α β : Type} {cls : PyClass} {x : Outcome α} {f : α → β} :
    raises cls (x.map f) = raises cls x := by
  cases x <;> rfl

/-- A check raises its own class, and only when the condition fails. -/
@[simp] theorem raises_require {condition : Prop} [Decidable condition] {cls cls' : PyClass}
    {message : String} :
    raises cls (require condition cls' message) = true ↔ ¬ condition ∧ cls' = cls := by
  unfold require
  split_ifs with h <;> simp [h]

/-- An exception of a sequence is one of the first part, or one of the second after the first
returned. -/
theorem raises_bind {α β : Type} {cls : PyClass} {x : Outcome α} {f : α → Outcome β} :
    raises cls (x >>= f) = true ↔
      raises cls x = true ∨ ∃ a, x = .ok a ∧ raises cls (f a) = true := by
  cases x with
  | error e => simp
  | ok a => simp

/-! ## Text -/

/-- The characters `str.strip` removes. -/
def isSpace (c : Char) : Bool :=
  let n := c.toNat
  (9 ≤ n && n ≤ 13) || (28 ≤ n && n ≤ 32) || n == 0x85 || n == 0xA0 || n == 0x1680 ||
    (0x2000 ≤ n && n ≤ 0x200A) || n == 0x2028 || n == 0x2029 || n == 0x202F || n == 0x205F ||
    n == 0x3000

/-- The UTF-8 bytes of a text. -/
def bytes (s : String) : List UInt8 := s.toByteArray.data.toList

/-- The byte is a visible ASCII character, so neither a blank nor part of one. -/
def isVisible (b : UInt8) : Bool := 33 ≤ b.toNat && b.toNat ≤ 126

/-- `str.strip()` on the list of characters. -/
def stripChars (l : List Char) : List Char :=
  ((l.dropWhile isSpace).reverse.dropWhile isSpace).reverse

/-- `str.strip()`; a text that starts and ends with visible ASCII characters is left alone. -/
def strip (s : String) : String :=
  if (bytes s).head?.any isVisible && (bytes s).getLast?.any isVisible then s
  else String.ofList (stripChars s.toList)

/-- `str.lower()` on ASCII letters; no other character has an ASCII lower-case form that the
modelled comparisons look for.  A text without ASCII capitals is left alone. -/
def lower (s : String) : String :=
  if (bytes s).all fun b => !(65 ≤ b.toNat && b.toNat ≤ 90) then s
  else String.ofList (s.toList.map Char.toLower)

/-- `str(value or "")` of a mapping entry that is text or missing. -/
def orEmpty (value : Option String) : String := value.getD ""

/-- A lower-case SHA-256 hex digest: 64 hexadecimal digits, each one byte. -/
def isHex64 (s : String) : Bool :=
  (bytes s).length == 64 &&
    (bytes s).all fun b => (48 ≤ b.toNat && b.toNat ≤ 57) || (97 ≤ b.toNat && b.toNat ≤ 102)

end BpEngine
