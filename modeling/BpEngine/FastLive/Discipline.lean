import BpEngine.FastLive.SignedMessages

/-!
# The five kinds of signed messages together

* `CreateCall` is a call of one of the five creators and `VerifyCall` one of the five verifiers;
  `CreateCall.verifier` is the creator's own verifier with the same ids.
* `Unforgeable` is what is assumed of the codes: a message that anyone presents carries a right code
  only if what it says was signed, and what was signed is told apart by the codes.
* `Disciplined` has the five facts about a message that was made, and `signedMessage_disciplined`
  proves them.
-/

namespace BpEngine.FastLive

/-- The five kinds. -/
inductive SignedKind where
  | envelope
  | prepare
  | approval
  | warmup
  | result
deriving DecidableEq

def SignedKind.messageKind : SignedKind → MessageKind
  | .envelope => envelopeKind
  | .prepare => prepareKind
  | .approval => approvalKind
  | .warmup => warmupKind
  | .result => resultKind

/-- The purposes tell the kinds apart. -/
theorem purpose_ne {a b : SignedKind} (h : a ≠ b) :
    a.messageKind.purpose ≠ b.messageKind.purpose := by
  cases a <;> cases b <;> first | exact absurd rfl h | decide

/-- A call of a creator, but for the key. -/
inductive CreateCall where
  | envelope (prepared runtime : Dict) (keyId : String) (createdAt : DateTime)
  | prepare (prepared runtime : Dict) (keyId : String) (createdAt : DateTime)
  | approval (prepared approval runtime : Dict) (keyId : String) (createdAt : DateTime)
    (approvalPrepared : Option Dict)
  | warmup (conditionId : String) (tokenIds : String × String) (runtime : Dict) (keyId : String)
    (createdAt : DateTime)
  | result (result : Dict) (keyId authorizationId : String) (createdAt : DateTime)

/-- A call of a verifier, but for the key, the message and the time. -/
inductive VerifyCall where
  | envelope (runtime : Dict) (expectedKeyId : String)
  | prepare (runtime : Dict) (expectedKeyId : String)
  | approval (runtime : Dict) (expectedKeyId : String)
  | warmup (runtime : Dict) (expectedKeyId : String)
  | result (expectedKeyId expectedAuthorizationId : String)

/-- What a verifier returns. -/
inductive Bound where
  | prepared (binding : PreparedBinding)
  | approval (binding : ApprovalMessageBinding)
  | warmup (binding : WarmupBinding)
  | result (result : Dict)

namespace CreateCall

def kind : CreateCall → SignedKind
  | .envelope .. => .envelope
  | .prepare .. => .prepare
  | .approval .. => .approval
  | .warmup .. => .warmup
  | .result .. => .result

def createdAt : CreateCall → DateTime
  | .envelope _ _ _ createdAt => createdAt
  | .prepare _ _ _ createdAt => createdAt
  | .approval _ _ _ _ createdAt _ => createdAt
  | .warmup _ _ _ _ createdAt => createdAt
  | .result _ _ _ createdAt => createdAt

/-- The message of a call. -/
def create (C : Crypto) (key : List UInt8) : CreateCall → Outcome Dict
  | .envelope prepared runtime keyId createdAt =>
    createEnvelope C prepared runtime key keyId createdAt
  | .prepare prepared runtime keyId createdAt =>
    createPrepareMessage C prepared runtime key keyId createdAt
  | .approval prepared given runtime keyId createdAt approvalPrepared =>
    createApprovalMessage C prepared given runtime key keyId createdAt approvalPrepared
  | .warmup conditionId tokenIds runtime keyId createdAt =>
    createWarmupMessage C conditionId tokenIds runtime key keyId createdAt
  | .result outcome keyId authorizationId createdAt =>
    createResultMessage C outcome key keyId authorizationId createdAt

/-- The creator's own verifier, with the ids the message was made with. -/
def verifier : CreateCall → VerifyCall
  | .envelope _ runtime keyId _ => .envelope runtime keyId
  | .prepare _ runtime keyId _ => .prepare runtime keyId
  | .approval _ _ runtime keyId _ _ => .approval runtime keyId
  | .warmup _ _ runtime keyId _ => .warmup runtime keyId
  | .result _ keyId authorizationId _ => .result keyId authorizationId

end CreateCall

namespace VerifyCall

def kind : VerifyCall → SignedKind
  | .envelope .. => .envelope
  | .prepare .. => .prepare
  | .approval .. => .approval
  | .warmup .. => .warmup
  | .result .. => .result

/-- What a verifier makes of a message. -/
def verify (C : Crypto) (key : List UInt8) (message : Dict) (observedAt : DateTime) :
    VerifyCall → Outcome Bound
  | .envelope runtime keyId =>
    (verifyEnvelope C message runtime key keyId observedAt).map .prepared
  | .prepare runtime keyId =>
    (verifyPrepareMessage C message runtime key keyId observedAt).map .prepared
  | .approval runtime keyId =>
    (verifyApprovalMessage C message runtime key keyId observedAt).map .approval
  | .warmup runtime keyId =>
    (verifyWarmupMessage C message runtime key keyId observedAt).map .warmup
  | .result keyId authorizationId =>
    (verifyResultMessage C message key keyId authorizationId observedAt).map .result

end VerifyCall

/-- Every verifier starts with the checks all messages share. -/
theorem verifySigned_of_verify {C : Crypto} {key : List UInt8} {message : Dict}
    {observedAt : DateTime} {verifier : VerifyCall} {bound : Bound}
    (h : verifier.verify C key message observedAt = .ok bound) :
    ∃ keyId authorizationId window,
      verifySigned C verifier.kind.messageKind message key keyId authorizationId observedAt =
        .ok window := by
  have hmap : ∀ {α : Type} {x : Outcome α} {f : α → Bound}, x.map f = .ok bound →
      ∃ a, x = .ok a := by
    intro α x f hx
    cases x with
    | ok a => exact ⟨a, rfl⟩
    | error raised => cases hx
  cases verifier with
  | envelope runtime keyId =>
    obtain ⟨binding, hbinding⟩ := hmap h
    obtain ⟨window, hwindow, -⟩ := bind_eq_ok.mp hbinding
    exact ⟨_, _, window, hwindow⟩
  | prepare runtime keyId =>
    obtain ⟨binding, hbinding⟩ := hmap h
    obtain ⟨window, hwindow, -⟩ := bind_eq_ok.mp hbinding
    exact ⟨_, _, window, hwindow⟩
  | approval runtime keyId =>
    obtain ⟨binding, hbinding⟩ := hmap h
    obtain ⟨window, hwindow, -⟩ := bind_eq_ok.mp hbinding
    exact ⟨_, _, window, hwindow⟩
  | warmup runtime keyId =>
    obtain ⟨binding, hbinding⟩ := hmap h
    obtain ⟨window, hwindow, -⟩ := bind_eq_ok.mp hbinding
    exact ⟨_, _, window, hwindow⟩
  | result keyId authorizationId =>
    obtain ⟨binding, hbinding⟩ := hmap h
    obtain ⟨window, hwindow, -⟩ := bind_eq_ok.mp hbinding
    exact ⟨_, _, window, hwindow⟩

/-! ## Codes -/

/-- The two messages differ: in what they say (at any depth, in any number of fields) under one code,
or in the code alone.  A code is the text that `str` makes of the field. -/
def Altered (message changed : Dict) : Prop :=
  (¬ (bodyOf changed).Same (bodyOf message) ∧ codeOf changed = codeOf message) ∨
    ((bodyOf changed).Same (bodyOf message) ∧ codeOf changed ≠ codeOf message)

/-- The codes of the key are unforgeable: of the messages that are presented, those with a right code
say what the holders of the key signed, and no two things that were signed have one code. -/
structure Unforgeable (C : Crypto) (key : List UInt8) (signed presented : Set Dict) : Prop where
  made : ∀ message ∈ presented, codeOf message = C.code key (bodyOf message) →
    ∃ body ∈ signed, body.Same (bodyOf message)
  distinct : ∀ a ∈ signed, ∀ b ∈ signed, C.code key a = C.code key b → a.Same b

/-- Mappings that are equal have one code. -/
theorem code_congr {C : Crypto} {key : List UInt8} {a b : Dict} (h : a.Same b) :
    C.code key a = C.code key b := by
  unfold Crypto.code
  rw [Crypto.canonical_eq.2 h]

/-- **An altered message has a wrong code.** -/
theorem code_altered {C : Crypto} {key : List UInt8} {signed presented : Set Dict}
    (h : Unforgeable C key signed presented) {message changed : Dict}
    (hmessage : codeOf message = C.code key (bodyOf message)) (hsigned : bodyOf message ∈ signed)
    (hpresented : changed ∈ presented) (haltered : Altered message changed) :
    codeOf changed ≠ C.code key (bodyOf changed) := by
  intro hcode
  rcases haltered with ⟨hbody, hsame⟩ | ⟨hbody, hdiffers⟩
  · obtain ⟨body, hbodySigned, hbodySame⟩ := h.made changed hpresented hcode
    have hcodes : C.code key body = C.code key (bodyOf message) := by
      rw [code_congr hbodySame, ← hcode, hsame, hmessage]
    exact hbody (hbodySame.symm.trans (h.distinct body hbodySigned _ hsigned hcodes))
  · exact hdiffers (hcode.trans ((code_congr hbody).trans hmessage.symm))

/-! ## The discipline -/

/-- The outcome is an error. -/
def Rejected {α : Type} (outcome : Outcome α) : Prop := ∃ raised, outcome = .error raised

/-- What a verifier returns is what the message binds. -/
def Bound.In (C : Crypto) (message : Dict) : Bound → Prop
  | .prepared binding =>
    (∀ field ∈ binding.bound, message.get field.1 = .str field.2) ∧
      message.get "authorization_id" = .str binding.authorizationId ∧
      message.get "created_at" = .str binding.createdAt ∧
      message.get "expires_at" = .str binding.expiresAt ∧
      ∃ prepared runtime observedAt, message.get "prepared" = .obj prepared ∧
        validatePreparedForRuntime C prepared runtime observedAt = .ok binding.toValidated
  | .approval binding =>
    message.get "authorization_id" = .str binding.authorizationId ∧
      message.get "intent_id" = .str binding.intentId ∧
      message.get "request_sha256" = .str binding.requestSha256 ∧
      message.get "prepared_sha256" = .str binding.preparedSha256 ∧
      message.get "prepare_sha256" = .str binding.prepareSha256 ∧
      message.get "approval_candidate_id" = .str binding.approvalCandidateId ∧
      message.get "approval_sha256" = .str binding.approvalSha256 ∧
      message.get "prepared" = .obj binding.prepared ∧
      message.get "created_at" = .str binding.createdAt ∧
      message.get "expires_at" = .str binding.expiresAt ∧
      ∃ given : Dict, message.get "approval" = .obj given ∧
        given.get "prediction_id" = .str binding.predictionId ∧
        given.get "paper_order_id" = .str binding.paperOrderId ∧
        given.get "approved_at" = .str binding.approvedAt ∧
        given.get "expires_at" = .str binding.approvalExpiresAt
  | .warmup binding =>
    message.get "condition_id" = .str binding.conditionId ∧
      message.get "token_ids" = .arr [.str binding.tokenIds.1, .str binding.tokenIds.2] ∧
      message.get "created_at" = .str binding.createdAt ∧
      message.get "expires_at" = .str binding.expiresAt
  | .result outcome => message.get "result" = .obj outcome

/-- The discipline of a message that was made: it has a window, its own verifier returns what it binds
inside the window and rejects it from the expiry on, every other verifier rejects it under any key,
and every verifier rejects it altered. -/
structure Disciplined (C : Crypto) (key : List UInt8) (call : CreateCall) (message : Dict)
    (created expires : Timestamp) (bound : Bound) : Prop where
  createdAt : utc call.createdAt = .ok created
  window : timeOf message "created_at" = .ok created ∧ timeOf message "expires_at" = .ok expires ∧
    created < expires
  binds : bound.In C message
  accepted : ∀ observedAt observed, utc observedAt = .ok observed → created ≤ observed →
    observed < expires → call.verifier.verify C key message observedAt = .ok bound
  expired : ∀ observedAt observed, utc observedAt = .ok observed → expires ≤ observed →
    Rejected (call.verifier.verify C key message observedAt)
  confused : ∀ other : VerifyCall, other.kind ≠ call.kind → ∀ otherKey observedAt,
    Rejected (other.verify C otherKey message observedAt)
  altered : ∀ signed presented, Unforgeable C key signed presented → bodyOf message ∈ signed →
    ∀ changed ∈ presented, Altered message changed → ∀ (verifier : VerifyCall) observedAt,
    Rejected (verifier.verify C key changed observedAt)

section Disciplined

variable {C : Crypto} {key : List UInt8} {call : CreateCall} {keyId authorizationId : String}
  {body message : Dict} {created expires : Timestamp} {bound : Bound}

/-- **What holds of every message that was made**, whatever its kind: only that its own verifier
accepts it is left to each kind. -/
theorem disciplined_of_made (hcreated : utc call.createdAt = .ok created)
    (made : Made C call.kind.messageKind key keyId authorizationId body message created expires)
    (hbinds : bound.In C message)
    (haccepted : ∀ observedAt observed, utc observedAt = .ok observed → created ≤ observed →
      observed < expires → call.verifier.verify C key message observedAt = .ok bound) :
    Disciplined C key call message created expires bound where
  createdAt := hcreated
  window := ⟨timeOf_isoformat ((made.get (by decide)).trans made.header.created)
      made.createdInRange,
    timeOf_isoformat ((made.get (by decide)).trans made.header.expires) made.expiresInRange,
    made.window⟩
  binds := hbinds
  accepted := haccepted
  expired := by
    intro observedAt observed hobserved hlate
    refine exists_error fun b hb => ?_
    obtain ⟨_, _, window, hwindow⟩ := verifySigned_of_verify hb
    obtain ⟨hutc, -, -, -, hexpires, -, hbefore⟩ := verifySigned_eq_ok hwindow
    rw [hobserved] at hutc
    rw [timeOf_isoformat ((made.get (by decide)).trans made.header.expires) made.expiresInRange]
      at hexpires
    cases hutc
    cases hexpires
    exact absurd hbefore hlate.not_gt
  confused := by
    intro other hother otherKey observedAt
    refine exists_error fun b hb => ?_
    obtain ⟨_, _, window, hwindow⟩ := verifySigned_of_verify hb
    exact verifySigned_purpose ((made.get (by decide)).trans made.header.purpose)
      (purpose_ne hother.symm) hwindow
  altered := by
    intro signed presented hunforgeable hsigned changed hpresented haltered verifier observedAt
    refine exists_error fun b hb => ?_
    obtain ⟨_, _, window, hwindow⟩ := verifySigned_of_verify hb
    have hcode : codeOf message = C.code key (bodyOf message) := by
      rw [codeOf_sign made.header.uncoded made.signed, bodyOf_sign made.header.uncoded made.signed]
    exact code_altered hunforgeable hcode hsigned hpresented haltered
      (verifySigned_eq_ok hwindow).2.1

/-- An envelope or a prepare message binds what was validated. -/
theorem boundPrepared_in {kind : PreparedKind} {validated : Validated} {prepared runtime : Dict}
    (hvalidated : validatePreparedForRuntime C prepared runtime (utcDateTime created) =
      .ok validated)
    (made : Made C kind.toMessageKind key keyId authorizationId
      (preparedBody kind keyId authorizationId validated prepared created expires) message created
      expires) :
    (Bound.prepared (boundPrepared validated authorizationId created expires)).In C message := by
  refine ⟨fun field hfield => ?_, made.get (by decide), made.get (by decide), made.get (by decide),
    prepared, runtime, utcDateTime created, made.get (by decide), hvalidated⟩
  simp only [boundPrepared, Validated.bound, List.mem_cons, List.not_mem_nil, or_false] at hfield
  rcases hfield with rfl | rfl | rfl | rfl | rfl | rfl | rfl <;> exact made.get (by simp)

/-- An approval message binds the payload and the approval. -/
theorem boundApproval_in {validated : Validated} {prepared runtime : Dict} {prepareSha256 : String}
    {approved : TelegramApproval.Approved} {approvedAt approvalExpires : Timestamp}
    (approval : ApprovalMade C prepared runtime validated prepareSha256 approved created expires
      approvedAt approvalExpires)
    (made : Made C approvalKind key keyId authorizationId
      (approvalBody C keyId authorizationId validated prepareSha256 prepared approved created expires)
      message created expires) :
    (Bound.approval (boundApproval C prepared validated approved authorizationId prepareSha256
      created expires approvedAt approvalExpires)).In C message := by
  refine ⟨made.get (by decide), made.get (by decide), made.get (by decide), made.get (by decide),
    made.get (by decide), made.get (by decide), made.get (by decide), made.get (by decide),
    made.get (by decide), made.get (by decide), approvalBinding approved validated,
    made.get (by decide), rfl, rfl, ?_, ?_⟩
  · exact congrArg Json.str approval.approvedText
  · exact congrArg Json.str approval.expiresText

end Disciplined

/-! ### An approval message -/

def sampleRequestFields : Dict :=
  [("execution_version", .str "paper-execution-v3-frozen-v1"),
    ("action", .str "BUY"),
    ("selected_side", .str "up"),
    ("target_notional_usd", .str "5"),
    ("limit_price", .str "0.5"),
    ("requested_shares", .str "10")]

def samplePolicyFields : Dict :=
  [("policy_version", .str "v3-live-canary-v1"),
    ("max_trade_size_usd", .str "10"),
    ("max_total_exposure_usd", .str "10"),
    ("max_daily_loss_usd", .str "10"),
    ("max_consecutive_losses", .int 1),
    ("max_submission_attempts", .int 1)]

def samplePreparedFields : Dict :=
  [("status", .str "prepared"),
    ("action", .str "submit"),
    ("intent_id", .str "intent-1"),
    ("request_id", .str "request-1"),
    ("risk_decision_id", .str "risk-1"),
    ("prediction_id", .str "prediction-1"),
    ("paper_order_id", .str "paper-1"),
    ("market_end_at", .str "2026-01-01T00:05:00+00:00"),
    ("policy", .obj samplePolicyFields),
    ("request", .obj sampleRequestFields),
    ("timing", .obj [("prepared_observed_at", .str "2026-01-01T00:00:00+00:00")])]

def sampleApprovalFields : Dict :=
  [("status", .str "approved"),
    ("intent_id", .str "intent-1"),
    ("prediction_id", .str "prediction-1"),
    ("paper_order_id", .str "paper-1"),
    ("request_sha256", .str "0b2508f32d88e5a29aad28c2df9bce6e42eb6c9192970f88af8455c914630474"),
    ("approved_at", .str "2026-01-01T00:00:00+00:00"),
    ("expires_at", .str "2026-01-01T00:00:40+00:00"),
    ("callback_query_id", .str "query-1")]

theorem isHex64_sampleRequest :
    isHex64 "0b2508f32d88e5a29aad28c2df9bce6e42eb6c9192970f88af8455c914630474" = true := by
  decide +kernel

theorem isHex64_samplePrepared :
    isHex64 "ca6b0f0524c28ed5ba1ba00e011969c6c2154fa0dcdfc8c5bf7d35fbcfe182ac" = true := by
  decide +kernel

theorem isHex64_sampleOther :
    isHex64 "0ba10f09234b4f320232b92aece8ff4f0cfa02249073002e7805ee09d0e81e61" = true := by
  decide +kernel

/-- The digests of the three mappings a sample call hashes. -/
def sampleSha256 : Json → HexDigest
  | .obj d =>
    if Dict.has d "limit_price" then
      ⟨"0b2508f32d88e5a29aad28c2df9bce6e42eb6c9192970f88af8455c914630474", isHex64_sampleRequest⟩
    else if Dict.has d "timing" then
      ⟨"ca6b0f0524c28ed5ba1ba00e011969c6c2154fa0dcdfc8c5bf7d35fbcfe182ac", isHex64_samplePrepared⟩
    else ⟨"0ba10f09234b4f320232b92aece8ff4f0cfa02249073002e7805ee09d0e81e61", isHex64_sampleOther⟩
  | _ => ⟨"0ba10f09234b4f320232b92aece8ff4f0cfa02249073002e7805ee09d0e81e61", isHex64_sampleOther⟩

/-- The digests and the code of the sample call; values are their own encoding. -/
def sampleCrypto : Crypto where
  Encoded := Json
  encode := id
  encode_injective := fun _ _ h => h
  sha256 := sampleSha256
  hmac := fun _ _ =>
    ⟨"2476b8941146d06c686e11bd42f2d3e8c67a57c653a42ab0b89f830836018f5c", by decide +kernel⟩

def sampleKey : List UInt8 := List.replicate 32 0

/-- An approval that was given a second before. -/
def sampleApprovalCall : CreateCall :=
  .approval samplePreparedFields sampleApprovalFields
    [("authorization_id", .str "auth-1"), ("expires_at", .str "2026-01-01T01:00:00+00:00")] "key-1"
    ⟨Timestamp.ofSeconds 1767225601, some 0⟩ none

theorem sampleApprovalCall_made :
    (sampleApprovalCall.create sampleCrypto sampleKey).isOk = true := by decide +kernel

end BpEngine.FastLive
