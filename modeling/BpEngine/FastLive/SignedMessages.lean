import BpEngine.FastLive.Messages

/-!
# The discipline of signed messages

* `verifySigned_eq_ok` is what a verifier has established before it looks at the content.
* `Header` says that a body has the fields every message has; `verifySigned_sign` is the round trip of
  this part.
-/

namespace BpEngine.FastLive

/-! ## What every verifier establishes -/

section Checks

variable {condition : Prop} [Decidable condition] {message : String}

@[simp] theorem check_eq_ok {u : Unit} : check condition message = .ok u ↔ condition :=
  require_eq_ok

theorem check_true (h : condition) : check condition message = .ok () := check_eq_ok.2 h

end Checks

/-- What is no result is an error. -/
theorem exists_error {α : Type} {x : Outcome α} (h : ∀ a, x ≠ .ok a) :
    ∃ raised, x = .error raised := by
  cases x with
  | ok a => exact absurd rfl (h a)
  | error raised => exact ⟨raised, rfl⟩

theorem mac_eq_ok {C : Crypto} {body : Dict} {key : List UInt8} {code : String} :
    mac C body key = .ok code ↔ key.length = 32 ∧ code = C.code key body := by
  simp only [mac, bind_eq_ok, check_eq_ok]
  constructor
  · rintro ⟨-, hkey, hcode⟩
    cases hcode
    exact ⟨hkey, rfl⟩
  · rintro ⟨hkey, rfl⟩
    exact ⟨(), hkey, rfl⟩

theorem sign_eq_ok {C : Crypto} {body : Dict} {key : List UInt8} {message : Dict} :
    sign C body key = .ok message ↔
      key.length = 32 ∧ message = body ++ [("hmac_sha256", .str (C.code key body))] := by
  simp only [sign, bind_eq_ok, mac_eq_ok]
  constructor
  · rintro ⟨code, ⟨hkey, rfl⟩, hmessage⟩
    cases hmessage
    exact ⟨hkey, rfl⟩
  · rintro ⟨hkey, rfl⟩
    exact ⟨_, ⟨hkey, rfl⟩, rfl⟩

/-- The code a message carries, as text. -/
def codeOf (message : Dict) : String := (message.get "hmac_sha256").textOrEmpty

/-- What a message says apart from its code. -/
def bodyOf (message : Dict) : Dict := message.without "hmac_sha256"

section Verify

variable {C : Crypto} {kind : MessageKind} {message : Dict} {key : List UInt8}
  {keyId authorizationId : String} {observedAt : DateTime} {window : Window}

/-- **What a verifier has established** before it looks at the content. -/
theorem verifySigned_eq_ok
    (h : verifySigned C kind message key keyId authorizationId observedAt = .ok window) :
    utc observedAt = .ok window.observed ∧ codeOf message = C.code key (bodyOf message) ∧
      (message.get "purpose").isStr kind.purpose = true ∧
      timeOf message "created_at" = .ok window.created ∧
      timeOf message "expires_at" = .ok window.expires ∧
      window.created ≤ window.observed ∧ window.observed < window.expires := by
  simp only [verifySigned, bind_eq_ok, check_eq_ok, mac_eq_ok] at h
  obtain ⟨observed, hobserved, -, -, code, ⟨-, rfl⟩, -, hcode, -, -, -, hpurpose, -, -, -, -, created,
    hcreated, expires, hexpires, -, hinside, hwindow⟩ := h
  cases hwindow
  exact ⟨hobserved, hcode, hpurpose, hcreated, hexpires, le_of_not_gt fun hlt => hinside (.inl hlt),
    lt_of_not_ge fun hge => hinside (.inr hge)⟩

/-- A message with another purpose is rejected, whoever checks it. -/
theorem verifySigned_purpose {purpose : String} (hmessage : message.get "purpose" = .str purpose)
    (hne : purpose ≠ kind.purpose) :
    verifySigned C kind message key keyId authorizationId observedAt ≠ .ok window := by
  intro h
  obtain ⟨-, -, hpurpose, -⟩ := verifySigned_eq_ok h
  rw [hmessage] at hpurpose
  exact hne (by simpa using hpurpose)

end Verify

/-- The fields that every message has. -/
structure Header (kind : MessageKind) (body : Dict) (keyId authorizationId : String)
    (created expires : Timestamp) : Prop where
  uncoded : ∀ entry ∈ body, entry.1 ≠ "hmac_sha256"
  schema : body.get "schema_version" = .int 1
  purpose : body.get "purpose" = .str kind.purpose
  keyId : body.get "key_id" = .str keyId
  authorizationId : body.get "authorization_id" = .str authorizationId
  created : body.get "created_at" = .str (IsoTime.isoformat created)
  expires : body.get "expires_at" = .str (IsoTime.isoformat expires)

section Sign

variable {C : Crypto} {kind : MessageKind} {body message : Dict} {key : List UInt8}
  {keyId authorizationId : String} {created expires : Timestamp}

/-- A signed message has the fields of its body. -/
theorem lookup_sign (hsign : sign C body key = .ok message) {name : String}
    (hname : name ≠ "hmac_sha256") : message.lookup name = body.lookup name := by
  obtain ⟨-, rfl⟩ := sign_eq_ok.mp hsign
  rw [Dict.lookup_append, Json.lookup_cons, if_neg hname]
  simp

theorem get_sign (hsign : sign C body key = .ok message) {name : String}
    (hname : name ≠ "hmac_sha256") : message.get name = body.get name := by
  unfold Dict.get
  rw [lookup_sign hsign hname]

theorem bodyOf_sign (huncoded : ∀ entry ∈ body, entry.1 ≠ "hmac_sha256")
    (hsign : sign C body key = .ok message) : bodyOf message = body := by
  obtain ⟨-, rfl⟩ := sign_eq_ok.mp hsign
  exact Dict.without_append_singleton huncoded

theorem codeOf_sign (huncoded : ∀ entry ∈ body, entry.1 ≠ "hmac_sha256")
    (hsign : sign C body key = .ok message) : codeOf message = C.code key body := by
  obtain ⟨-, rfl⟩ := sign_eq_ok.mp hsign
  have hnone : body.lookup "hmac_sha256" = none := by
    rw [List.lookup_eq_none_iff]
    intro entry hentry
    exact bne_iff_ne.mpr fun heq => huncoded entry hentry heq.symm
  unfold codeOf Dict.get
  rw [Dict.lookup_append, hnone, Json.lookup_cons]
  exact Json.textOrEmpty_str _

/-- A time in text is read back. -/
theorem timeOf_isoformat {d : Dict} {name : String} {time : Timestamp}
    (h : d.get name = .str (IsoTime.isoformat time)) (hrange : IsoTime.InRange time) :
    timeOf d name = .ok time := by
  simp only [timeOf, h, Json.textOrEmpty_str, dateTimeOf_isoformat hrange, ok_bind]
  exact inUtc_utcDateTime hrange

/-- **The round trip of the header**: a signed message passes inside its window, and is rejected
outside. -/
theorem verifySigned_sign (header : Header kind body keyId authorizationId created expires)
    (hsign : sign C body key = .ok message) (hcreated : IsoTime.InRange created)
    (hexpires : IsoTime.InRange expires) {observedAt : DateTime} {observed : Timestamp}
    (hobserved : utc observedAt = .ok observed) :
    verifySigned C kind message key keyId authorizationId observedAt =
      if observed < created ∨ expires ≤ observed then
        raise .fastLiveError (kind.label ++ " expired or future")
      else .ok ⟨observed, created, expires⟩ := by
  have hcode := codeOf_sign header.uncoded hsign
  have hbody := bodyOf_sign header.uncoded hsign
  unfold codeOf at hcode
  unfold bodyOf at hbody
  have hmac : mac C body key = .ok (C.code key body) :=
    mac_eq_ok.2 ⟨(sign_eq_ok.mp hsign).1, rfl⟩
  have hget : ∀ {name value}, body.get name = value → name ≠ "hmac_sha256" →
      message.get name = value := fun hvalue hname => (get_sign hsign hname).trans hvalue
  have hcreatedAt := timeOf_isoformat (hget header.created (by decide)) hcreated
  have hexpiresAt := timeOf_isoformat (hget header.expires (by decide)) hexpires
  simp only [verifySigned, hobserved, ok_bind, hcode, hbody, hmac, C.isHex64_code,
    hget header.schema (by decide), hget header.purpose (by decide),
    hget header.keyId (by decide), hget header.authorizationId (by decide), hcreatedAt, hexpiresAt,
    Json.textOrEmpty_str, Json.isInt_int, Json.isStr_str, decide_true, check_true]
  split_ifs with houtside
  · rw [check, require, if_neg (not_not_intro houtside)]
    rfl
  · rw [check_true houtside]
    rfl

end Sign

/-! ## Prepared payloads at a later time -/

section Prepared

variable {C : Crypto} {prepared runtime : Dict} {created : Timestamp} {validated : Validated}

/-- A parsed time is in the range of a `datetime`. -/
theorem timeOf_inRange {d : Dict} {name : String} {time : Timestamp}
    (h : timeOf d name = .ok time) : IsoTime.InRange time := by
  simp only [timeOf, bind_eq_ok] at h
  obtain ⟨value, -, htime⟩ := h
  exact inUtc_inRange htime

/-- **What validation leaves open** is the time: a payload validated once is validated with the same
result at every later time that keeps the margin before the market's end. -/
theorem validatePrepared_later {n : ℤ} (hrange : IsoTime.InRange created)
    (h : validatePrepared C prepared (utcDateTime created) n = .ok validated) :
    ∃ marketEnd, IsoTime.InRange marketEnd ∧ validated.marketEndAt = IsoTime.isoformat marketEnd ∧
      ∀ observed, IsoTime.InRange observed → created ≤ observed →
        observed + Timestamp.ofSeconds 10 ≤ marketEnd →
        validatePrepared C prepared (utcDateTime observed) n = .ok validated := by
  simp only [validatePrepared, bind_eq_ok, check_eq_ok] at h
  obtain ⟨time, htime, -, hstatus, request, hrequest, policy, hpolicy, timing, htiming, _,
    hchecked, _, hrequested, _, hids, marketEnd, hmarketEnd, -, -, preparedAt, hpreparedAt, -, hpast,
    hvalidated⟩ := h
  have hsame : time = created := by
    have hutc : utc (utcDateTime created) = .ok created := inUtc_utcDateTime hrange
    exact Except.ok.inj (htime.symm.trans hutc)
  subst hsame
  refine ⟨marketEnd, timeOf_inRange hmarketEnd, by cases hvalidated; rfl,
    fun observed hobserved hlater hmargin => ?_⟩
  have hutc : utc (utcDateTime observed) = .ok observed := inUtc_utcDateTime hobserved
  have hfar : ¬ Timestamp.seconds (marketEnd - observed) < ⟨10, 0⟩ := by
    rw [seconds_lt]
    unfold Timestamp.ofSeconds at hmargin
    omega
  have hprepared : ¬ observed < preparedAt := by
    simp only [not_lt] at hpast ⊢
    exact hpast.trans hlater
  simp only [validatePrepared, hutc, ok_bind, hstatus, check_true, hrequest, hpolicy, htiming,
    hchecked, hrequested, hids, hmarketEnd, hpreparedAt, check_true hfar, check_true hprepared,
    hvalidated]

theorem validatePreparedForRuntime_later (hrange : IsoTime.InRange created)
    (h : validatePreparedForRuntime C prepared runtime (utcDateTime created) = .ok validated) :
    ∃ marketEnd, IsoTime.InRange marketEnd ∧ validated.marketEndAt = IsoTime.isoformat marketEnd ∧
      ∀ observed, IsoTime.InRange observed → created ≤ observed →
        observed + Timestamp.ofSeconds 10 ≤ marketEnd →
        validatePreparedForRuntime C prepared runtime (utcDateTime observed) = .ok validated := by
  simp only [validatePreparedForRuntime, bind_eq_ok] at h ⊢
  obtain ⟨n, hn, hvalid⟩ := h
  obtain ⟨marketEnd, hmarketEnd, htext, hlater⟩ := validatePrepared_later hrange hvalid
  exact ⟨marketEnd, hmarketEnd, htext, fun observed hobserved hafter hmargin =>
    ⟨n, hn, hlater observed hobserved hafter hmargin⟩⟩

/-- An expiry is in range, and no later than what limits it. -/
theorem expiryOf_eq_ok {marketEnd limit expires : Timestamp} {maxAge : ℤ}
    (hlimit : IsoTime.InRange limit) (h : expiryOf created marketEnd limit maxAge = .ok expires) :
    IsoTime.InRange expires ∧ expires ≤ created + Timestamp.ofSeconds maxAge ∧
      expires + Timestamp.ofSeconds 10 ≤ marketEnd ∧ expires ≤ limit := by
  simp only [expiryOf, bind_eq_ok, addSeconds_eq_ok] at h
  obtain ⟨_, ⟨hage, rfl⟩, _, ⟨hmargin, rfl⟩, hexpires⟩ := h
  cases hexpires
  have hmarket : min (min (created + Timestamp.ofSeconds maxAge)
      (marketEnd + Timestamp.ofSeconds (-10))) limit ≤ marketEnd + Timestamp.ofSeconds (-10) :=
    (min_le_left _ _).trans (min_le_right _ _)
  refine ⟨⟨le_min (le_min hage.1 hmargin.1) hlimit.1, (min_le_right _ _).trans_lt hlimit.2⟩,
    (min_le_left _ _).trans (min_le_left _ _), ?_, min_le_right _ _⟩
  unfold Timestamp.ofSeconds at hmarket ⊢
  linarith

/-- What is bound by text is found. -/
theorem checkBindings_ok {message : Dict} {bindings : List (String × String)} {error : String}
    (h : ∀ binding ∈ bindings, message.get binding.1 = .str binding.2) :
    checkBindings message bindings error = .ok () := by
  unfold checkBindings
  induction bindings with
  | nil => rfl
  | cons binding rest ih =>
    have hfirst : (message.get binding.1).textOrEmpty = binding.2 := by
      rw [h binding List.mem_cons_self, Json.textOrEmpty_str]
    change (check ((message.get binding.1).textOrEmpty = binding.2) (error ++ binding.1) >>=
      fun _ => rest.forM _) = _
    rw [check_true hfirst, ok_bind]
    exact ih fun other hother => h other (List.mem_cons_of_mem _ hother)

end Prepared

/-! ## Messages that were made -/

/-- A message that was made: signed, with the header of its kind, and with a window that starts when
it was made. -/
structure Made (C : Crypto) (kind : MessageKind) (key : List UInt8) (keyId authorizationId : String)
    (body message : Dict) (created expires : Timestamp) : Prop where
  header : Header kind body keyId authorizationId created expires
  signed : sign C body key = .ok message
  createdInRange : IsoTime.InRange created
  expiresInRange : IsoTime.InRange expires
  window : created < expires

section Made

variable {C : Crypto} {kind : MessageKind} {key : List UInt8} {keyId authorizationId : String}
  {body message : Dict} {created expires : Timestamp} {observedAt : DateTime} {observed : Timestamp}

/-- Inside its window the message passes. -/
theorem Made.passes (made : Made C kind key keyId authorizationId body message created expires)
    (hobserved : utc observedAt = .ok observed) (hcreated : created ≤ observed)
    (hexpires : observed < expires) :
    verifySigned C kind message key keyId authorizationId observedAt =
      .ok ⟨observed, created, expires⟩ := by
  rw [verifySigned_sign made.header made.signed made.createdInRange made.expiresInRange hobserved]
  exact if_neg fun houtside => houtside.elim hcreated.not_gt hexpires.not_ge

/-- A field of the body is a field of the message. -/
theorem Made.get (made : Made C kind key keyId authorizationId body message created expires)
    {name : String} (hname : name ≠ "hmac_sha256") : message.get name = body.get name :=
  get_sign made.signed hname

end Made

/-! ## Envelopes and prepare messages -/

section PreparedMessage

variable {C : Crypto} {kind : PreparedKind} {prepared runtime message : Dict} {key : List UInt8}
  {keyId : String} {createdAt : DateTime}

theorem header_preparedBody (keyId authorizationId : String) (validated : Validated)
    (created expires : Timestamp) :
    Header kind.toMessageKind (preparedBody kind keyId authorizationId validated prepared created
      expires) keyId authorizationId created expires where
  uncoded := by simp [preparedBody]
  schema := rfl
  purpose := rfl
  keyId := rfl
  authorizationId := rfl
  created := rfl
  expires := rfl

/-- **What a creator has established.** -/
theorem createPreparedMessage_eq_ok
    (h : createPreparedMessage C kind prepared runtime key keyId createdAt = .ok message) :
    ∃ created validated expires, utc createdAt = .ok created ∧
      validatePreparedForRuntime C prepared runtime (utcDateTime created) = .ok validated ∧
      Made C kind.toMessageKind key keyId (authorizationIdOf runtime)
        (preparedBody kind keyId (authorizationIdOf runtime) validated prepared created expires)
        message created expires ∧
      expires ≤ created + Timestamp.ofSeconds kind.maxAge ∧
      ∀ marketEnd, IsoTime.InRange marketEnd →
        validated.marketEndAt = IsoTime.isoformat marketEnd →
        expires + Timestamp.ofSeconds 10 ≤ marketEnd := by
  simp only [createPreparedMessage, bind_eq_ok, check_eq_ok] at h
  obtain ⟨created, hcreated, validated, hvalidated, -, -, limit, hlimit, value, hvalue,
    time, htime, expires, hexpires, -, hopen, hsigned⟩ := h
  obtain ⟨hrange, hage, hmargin, -⟩ := expiryOf_eq_ok (timeOf_inRange hlimit) hexpires
  refine ⟨created, validated, expires, hcreated, hvalidated,
    ⟨header_preparedBody _ _ _ _ _, hsigned, inUtc_inRange hcreated, hrange, not_le.mp hopen⟩, hage,
    fun marketEnd hmarketEnd htext => ?_⟩
  rw [htext, dateTimeOf_isoformat hmarketEnd] at hvalue
  cases hvalue
  have hsame : utc (utcDateTime marketEnd) = .ok marketEnd := inUtc_utcDateTime hmarketEnd
  rw [hsame] at htime
  cases htime
  exact hmargin

/-- What the verifier returns for a message that binds a validated payload. -/
def boundPrepared (validated : Validated) (authorizationId : String)
    (created expires : Timestamp) : PreparedBinding :=
  { validated with
    authorizationId
    createdAt := IsoTime.isoformat created
    expiresAt := IsoTime.isoformat expires }

/-- **The round trip** of envelopes and prepare messages. -/
theorem verifyPreparedMessage_made {created expires : Timestamp} {validated : Validated}
    (hvalidated : validatePreparedForRuntime C prepared runtime (utcDateTime created) =
      .ok validated)
    (made : Made C kind.toMessageKind key keyId (authorizationIdOf runtime)
      (preparedBody kind keyId (authorizationIdOf runtime) validated prepared created expires)
      message created expires)
    (hage : expires ≤ created + Timestamp.ofSeconds kind.maxAge)
    (hmargin : ∀ marketEnd, IsoTime.InRange marketEnd →
      validated.marketEndAt = IsoTime.isoformat marketEnd →
      expires + Timestamp.ofSeconds 10 ≤ marketEnd)
    {observedAt : DateTime} {observed : Timestamp} (hobserved : utc observedAt = .ok observed)
    (hcreated : created ≤ observed) (hexpires : observed < expires) :
    verifyPreparedMessage C kind message runtime key keyId observedAt =
      .ok (boundPrepared validated (authorizationIdOf runtime) created expires) := by
  obtain ⟨marketEnd, hmarketEnd, htext, hlater⟩ :=
    validatePreparedForRuntime_later made.createdInRange hvalidated
  have hmarket := hmargin marketEnd hmarketEnd htext
  have hvalid := hlater observed (inUtc_inRange hobserved) hcreated (by
    unfold Timestamp.ofSeconds at hmarket ⊢
    linarith)
  have hyoung : ¬ ⟨kind.maxAge, 0⟩ < Timestamp.seconds (observed - created) := by
    rw [lt_seconds]
    unfold Timestamp.ofSeconds at hage
    linarith
  have hprepared : message.get "prepared" = .obj prepared := made.get (by decide)
  have hbound : checkBindings message validated.bound (kind.label ++ " binding mismatch: ") =
      .ok () := by
    apply checkBindings_ok
    intro binding hbinding
    simp only [Validated.bound, List.mem_cons, List.not_mem_nil, or_false] at hbinding
    rcases hbinding with rfl | rfl | rfl | rfl | rfl | rfl | rfl <;> exact made.get (by simp)
  have hitem : item message "authorization_id" = .ok (authorizationIdOf runtime) := by
    unfold item
    rw [lookup_sign made.signed (by decide)]
    rfl
  simp only [verifyPreparedMessage, made.passes hobserved hcreated hexpires, ok_bind,
    check_true hyoung, hprepared, requireMapping, Json.mapping, hvalid, hbound, hitem]
  rfl

end PreparedMessage

/-! ## Approval messages -/

section ApprovalMessage

variable {C : Crypto} {prepared approval runtime message : Dict} {key : List UInt8}
  {keyId : String} {createdAt : DateTime} {approvalPrepared : Option Dict}

theorem header_approvalBody (keyId authorizationId : String) (validated : Validated)
    (prepareSha256 : String) (approved : TelegramApproval.Approved) (created expires : Timestamp) :
    Header approvalKind (approvalBody C keyId authorizationId validated prepareSha256 prepared
      approved created expires) keyId authorizationId created expires where
  uncoded := by simp [approvalBody]
  schema := rfl
  purpose := rfl
  keyId := rfl
  authorizationId := rfl
  created := rfl
  expires := rfl

theorem approvedHandoff_eq_ok {approved : TelegramApproval.Approved}
    (h : approvedHandoff C prepared approval createdAt = .ok approved) :
    TelegramApproval.validateApprovedHandoff C prepared approval createdAt = .ok approved := by
  unfold approvedHandoff at h
  split at h
  · cases h
    assumption
  · split_ifs at h
    exact absurd h raise_ne_ok

/-- The hashes of a validated payload are digests. -/
theorem isHex64_preparedSha256 {observedAt : DateTime} {validated : Validated}
    (h : validatePreparedForRuntime C prepared runtime observedAt = .ok validated) :
    isHex64 validated.preparedSha256 = true := by
  simp only [validatePreparedForRuntime, validatePrepared, bind_eq_ok] at h
  obtain ⟨n, -, observed, -, _, -, request, -, policy, -, timing, -, _, -, _, -, _, -, marketEnd, -,
    _, -, preparedAt, -, _, -, hvalidated⟩ := h
  cases hvalidated
  exact C.isHex64_payloadSha256 prepared

/-- What is known of an approval that a message was made of. -/
structure ApprovalMade (C : Crypto) (prepared runtime : Dict) (validated : Validated)
    (prepareSha256 : String) (approved : TelegramApproval.Approved)
    (created expires approvedAt approvalExpires : Timestamp) : Prop where
  valid : validatePreparedForRuntime C prepared runtime (utcDateTime created) = .ok validated
  prepareHash : isHex64 prepareSha256 = true
  candidate : approved.intentId ≠ ""
  approvedText : approved.approvedAt = IsoTime.isoformat approvedAt
  approvedInRange : IsoTime.InRange approvedAt
  expiresText : approved.expiresAt = IsoTime.isoformat approvalExpires
  expiresInRange : IsoTime.InRange approvalExpires
  given : approvedAt ≤ created
  limit : expires ≤ approvalExpires
  margin : ∀ marketEnd, IsoTime.InRange marketEnd →
    validated.marketEndAt = IsoTime.isoformat marketEnd →
    expires + Timestamp.ofSeconds 10 ≤ marketEnd

/-- **What the creator has established.** -/
theorem createApprovalMessage_eq_ok
    (h : createApprovalMessage C prepared approval runtime key keyId createdAt approvalPrepared =
      .ok message) :
    ∃ created expires approvedAt approvalExpires validated prepareSha256 approved,
      utc createdAt = .ok created ∧
      ApprovalMade C prepared runtime validated prepareSha256 approved created expires approvedAt
        approvalExpires ∧
      Made C approvalKind key keyId (authorizationIdOf runtime)
        (approvalBody C keyId (authorizationIdOf runtime) validated prepareSha256 prepared approved
          created expires) message created expires := by
  simp only [createApprovalMessage, bind_eq_ok, check_eq_ok] at h
  obtain ⟨created, hcreated, approved, happroved, validated, hvalidated, source, hsource, -, -, limit,
    hlimit, value, hvalue, approvalExpires, happrovalExpires, value', hvalue', market, hmarket,
    expires, hexpires, -, hopen, hsigned⟩ := h
  obtain ⟨observed, approvedAt, expiresAt, hobserved, happrovedAt, hexpiresAt, htext, htext', hpast, -,
    hprepared⟩ := TelegramApproval.validateApprovedHandoff_eq_ok (approvedHandoff_eq_ok happroved)
  obtain ⟨-, -, -, hcandidate, -⟩ := TelegramApproval.validatePrepared_eq_ok hprepared
  have hsame : TelegramApproval.utc (utcDateTime created) = .ok created :=
    inUtc_utcDateTime (inUtc_inRange hcreated)
  rw [hsame] at hobserved
  cases hobserved
  have hexpiresRange := TelegramApproval.approvalTime_inRange hexpiresAt
  rw [htext', dateTimeOf_isoformat hexpiresRange] at hvalue
  cases hvalue
  have hback : utc (utcDateTime expiresAt) = .ok expiresAt := inUtc_utcDateTime hexpiresRange
  rw [hback] at happrovalExpires
  cases happrovalExpires
  have hlimitRange : IsoTime.InRange (min approvalExpires limit) := by
    rcases min_choice approvalExpires limit with hmin | hmin <;> rw [hmin]
    · exact hexpiresRange
    · exact timeOf_inRange hlimit
  obtain ⟨hrange, -, hmargin, hbefore⟩ := expiryOf_eq_ok hlimitRange hexpires
  refine ⟨created, expires, approvedAt, approvalExpires, validated, source.preparedSha256, approved,
    hcreated, ?_, ⟨header_approvalBody _ _ _ _ _ _ _, hsigned, inUtc_inRange hcreated, hrange,
      not_le.mp hopen⟩⟩
  refine ⟨hvalidated, isHex64_preparedSha256 hsource, hcandidate, htext,
    TelegramApproval.approvalTime_inRange happrovedAt, htext', hexpiresRange, hpast,
    hbefore.trans (min_le_left _ _), fun marketEnd hmarketEnd hmarketText => ?_⟩
  rw [hmarketText, dateTimeOf_isoformat hmarketEnd] at hvalue'
  cases hvalue'
  have hmarketBack : utc (utcDateTime marketEnd) = .ok marketEnd := inUtc_utcDateTime hmarketEnd
  rw [hmarketBack] at hmarket
  cases hmarket
  exact hmargin

/-- What the verifier returns for an approval message. -/
def boundApproval (C : Crypto) (prepared : Dict) (validated : Validated)
    (approved : TelegramApproval.Approved) (authorizationId prepareSha256 : String)
    (created expires approvedAt approvalExpires : Timestamp) : ApprovalMessageBinding where
  authorizationId
  intentId := validated.intentId
  requestSha256 := validated.requestSha256
  preparedSha256 := validated.preparedSha256
  prepareSha256
  approvalCandidateId := approved.intentId
  approvalSha256 := C.payloadSha256 (approvalBinding approved validated)
  prepared
  request := validated.request
  predictionId := validated.predictionId
  paperOrderId := validated.paperOrderId
  approvedAt := IsoTime.isoformat approvedAt
  approvalExpiresAt := IsoTime.isoformat approvalExpires
  createdAt := IsoTime.isoformat created
  expiresAt := IsoTime.isoformat expires

/-- The approval that a message binds passes until it expires. -/
theorem checkApproval_made {validated : Validated} {approved : TelegramApproval.Approved}
    {prepareSha256 : String} {created expires approvedAt approvalExpires observed : Timestamp}
    (approval : ApprovalMade C prepared runtime validated prepareSha256 approved created expires
      approvedAt approvalExpires)
    (happroval : message.get "approval" = .obj (approvalBinding approved validated))
    (hsha : message.get "approval_sha256" =
      .str (C.payloadSha256 (approvalBinding approved validated)))
    (hcandidate : message.get "approval_candidate_id" = .str approved.intentId)
    (hcreated : created ≤ observed) (hexpires : observed < expires) :
    checkApproval C message validated observed = .ok (approvedAt, approvalExpires) := by
  have hget : (approvalBinding approved validated).get "intent_id" = .str approved.intentId := rfl
  have hstatus : ((approvalBinding approved validated).get "status").isStr "approved" = true := rfl
  have happrovedAt : timeOf (approvalBinding approved validated) "approved_at" = .ok approvedAt :=
    timeOf_isoformat (congrArg Json.str approval.approvedText) approval.approvedInRange
  have hexpiresAt : timeOf (approvalBinding approved validated) "expires_at" =
      .ok approvalExpires :=
    timeOf_isoformat (congrArg Json.str approval.expiresText) approval.expiresInRange
  have hbound : checkBindings (approvalBinding approved validated)
      [("prediction_id", validated.predictionId), ("paper_order_id", validated.paperOrderId),
        ("request_sha256", validated.requestSha256)] "fast live approval binding mismatch: " =
      .ok () := by
    apply checkBindings_ok
    intro binding hbinding
    simp only [List.mem_cons, List.not_mem_nil, or_false] at hbinding
    rcases hbinding with rfl | rfl | rfl <;> rfl
  have hinside : ¬ (observed < approvedAt ∨ approvalExpires ≤ observed) := by
    rintro (hearly | hlate)
    · exact absurd (approval.given.trans hcreated) hearly.not_ge
    · exact absurd (hexpires.trans_le approval.limit) hlate.not_gt
  simp only [checkApproval, happroval, requireMapping, Json.mapping, ok_bind, hstatus, hsha,
    hcandidate, hget, Json.textOrEmpty_str, check_true, hbound, happrovedAt, hexpiresAt,
    check_true hinside, ne_eq, approval.candidate, not_false_eq_true, and_self]

/-- **The round trip** of approval messages. -/
theorem verifyApprovalMessage_made {created expires approvedAt approvalExpires : Timestamp}
    {validated : Validated} {prepareSha256 : String} {approved : TelegramApproval.Approved}
    (approval : ApprovalMade C prepared runtime validated prepareSha256 approved created expires
      approvedAt approvalExpires)
    (made : Made C approvalKind key keyId (authorizationIdOf runtime)
      (approvalBody C keyId (authorizationIdOf runtime) validated prepareSha256 prepared approved
        created expires) message created expires)
    {observedAt : DateTime} {observed : Timestamp} (hobserved : utc observedAt = .ok observed)
    (hcreated : created ≤ observed) (hexpires : observed < expires) :
    verifyApprovalMessage C message runtime key keyId observedAt =
      .ok (boundApproval C prepared validated approved (authorizationIdOf runtime) prepareSha256
        created expires approvedAt approvalExpires) := by
  obtain ⟨marketEnd, hmarketEnd, htext, hlater⟩ :=
    validatePreparedForRuntime_later made.createdInRange approval.valid
  have hmarket := approval.margin marketEnd hmarketEnd htext
  have hvalid := hlater observed (inUtc_inRange hobserved) hcreated (by
    unfold Timestamp.ofSeconds at hmarket ⊢
    linarith)
  have hlookup : ∀ {name : String} {value : String},
      (approvalBody C keyId (authorizationIdOf runtime) validated prepareSha256 prepared approved
        created expires).lookup name = some (.str value) → name ≠ "hmac_sha256" →
      item message name = .ok value := by
    intro name value hvalue hname
    unfold item
    rw [lookup_sign made.signed hname, hvalue]
    rfl
  have hchecked : checkApprovalPrepared message validated = .ok () := by
    have hhash : message.get "prepared_sha256" = .str validated.preparedSha256 :=
      made.get (by decide)
    have hintent : message.get "intent_id" = .str validated.intentId := made.get (by decide)
    have hrequest : message.get "request_sha256" = .str validated.requestSha256 :=
      made.get (by decide)
    have hprepare : message.get "prepare_sha256" = .str prepareSha256 := made.get (by decide)
    simp only [checkApprovalPrepared, hhash, hintent, hrequest, hprepare, Json.textOrEmpty_str,
      check_true, ok_bind, approval.prepareHash]
  have happroved : checkApproval C message validated observed = .ok (approvedAt, approvalExpires) :=
    checkApproval_made approval (made.get (by decide)) (made.get (by decide))
      (made.get (by decide)) hcreated hexpires
  have hprepared : message.get "prepared" = .obj prepared := made.get (by decide)
  have hprepare : message.get "prepare_sha256" = .str prepareSha256 := made.get (by decide)
  have hcandidate : message.get "approval_candidate_id" = .str approved.intentId :=
    made.get (by decide)
  have hsha : message.get "approval_sha256" =
      .str (C.payloadSha256 (approvalBinding approved validated)) := made.get (by decide)
  have hid : item message "authorization_id" = .ok (authorizationIdOf runtime) :=
    hlookup rfl (by decide)
  have hintent : item message "intent_id" = .ok validated.intentId := hlookup rfl (by decide)
  have hrequest : item message "request_sha256" = .ok validated.requestSha256 :=
    hlookup rfl (by decide)
  have hhash : item message "prepared_sha256" = .ok validated.preparedSha256 :=
    hlookup rfl (by decide)
  simp only [verifyApprovalMessage, made.passes hobserved hcreated hexpires, ok_bind, hprepared,
    requireMapping, Json.mapping, hvalid, hchecked, happroved, hid, hintent, hrequest, hhash,
    hprepare, hcandidate, hsha, Json.textOrEmpty_str]
  rfl

end ApprovalMessage

/-! ## Warmup messages -/

section WarmupMessage

variable {C : Crypto} {conditionId : String} {tokenIds : String × String} {runtime message : Dict}
  {key : List UInt8} {keyId : String} {createdAt : DateTime}

theorem header_warmupBody (keyId authorizationId condition : String) (tokens : String × String)
    (created expires : Timestamp) :
    Header warmupKind (warmupBody keyId authorizationId condition tokens created expires) keyId
      authorizationId created expires where
  uncoded := by simp [warmupBody]
  schema := rfl
  purpose := rfl
  keyId := rfl
  authorizationId := rfl
  created := rfl
  expires := rfl

/-- **What the creator has established.** -/
theorem createWarmupMessage_eq_ok
    (h : createWarmupMessage C conditionId tokenIds runtime key keyId createdAt = .ok message) :
    ∃ created expires, utc createdAt = .ok created ∧
      (strip conditionId ≠ "" ∧ strip tokenIds.1 ≠ "" ∧ strip tokenIds.2 ≠ "" ∧
        strip tokenIds.1 ≠ strip tokenIds.2) ∧
      Made C warmupKind key keyId (authorizationIdOf runtime)
        (warmupBody keyId (authorizationIdOf runtime) (strip conditionId)
          (strip tokenIds.1, strip tokenIds.2) created expires) message created expires := by
  simp only [createWarmupMessage, bind_eq_ok, check_eq_ok, addSeconds_eq_ok] at h
  obtain ⟨created, hcreated, -, hidentity, limit, hlimit, _, ⟨hage, rfl⟩, -, hopen, hsigned⟩ := h
  have hrange := timeOf_inRange hlimit
  exact ⟨created, _, hcreated, hidentity, header_warmupBody _ _ _ _ _ _, hsigned,
    inUtc_inRange hcreated, ⟨le_min hage.1 hrange.1, (min_le_right _ _).trans_lt hrange.2⟩,
    not_le.mp hopen⟩

/-- **The round trip** of warmup messages. -/
theorem verifyWarmupMessage_made {created expires : Timestamp}
    (hidentity : strip conditionId ≠ "" ∧ strip tokenIds.1 ≠ "" ∧ strip tokenIds.2 ≠ "" ∧
      strip tokenIds.1 ≠ strip tokenIds.2)
    (made : Made C warmupKind key keyId (authorizationIdOf runtime)
      (warmupBody keyId (authorizationIdOf runtime) (strip conditionId)
        (strip tokenIds.1, strip tokenIds.2) created expires) message created expires)
    {observedAt : DateTime} {observed : Timestamp} (hobserved : utc observedAt = .ok observed)
    (hcreated : created ≤ observed) (hexpires : observed < expires) :
    verifyWarmupMessage C message runtime key keyId observedAt =
      .ok ⟨strip conditionId, (strip tokenIds.1, strip tokenIds.2), IsoTime.isoformat created,
        IsoTime.isoformat expires⟩ := by
  have hcondition : message.get "condition_id" = .str (strip conditionId) := made.get (by decide)
  have htokens : message.get "token_ids" = .arr [.str (strip tokenIds.1), .str (strip tokenIds.2)] :=
    made.get (by decide)
  obtain ⟨hid, hfirst, hsecond, hne⟩ := hidentity
  simp only [verifyWarmupMessage, made.passes hobserved hcreated hexpires, ok_bind, hcondition,
    htokens, twoItems, Json.text, Json.textOrEmpty_str, strip_strip, check_true, hid, hfirst, hsecond,
    hne, ne_eq, not_false_eq_true, and_self]

end WarmupMessage

/-! ## Result messages -/

section ResultMessage

variable {C : Crypto} {result message : Dict} {key : List UInt8} {keyId authorizationId : String}
  {createdAt : DateTime}

theorem header_resultBody (keyId authorizationId : String) (result : Dict)
    (created expires : Timestamp) :
    Header resultKind (resultBody keyId authorizationId result created expires) keyId
      authorizationId created expires where
  uncoded := by simp [resultBody]
  schema := rfl
  purpose := rfl
  keyId := rfl
  authorizationId := rfl
  created := rfl
  expires := rfl

/-- **What the creator has established.** -/
theorem createResultMessage_eq_ok
    (h : createResultMessage C result key keyId authorizationId createdAt = .ok message) :
    ∃ created expires, utc createdAt = .ok created ∧
      Made C resultKind key keyId authorizationId
        (resultBody keyId authorizationId result created expires) message created expires := by
  simp only [createResultMessage, bind_eq_ok, check_eq_ok, addSeconds_eq_ok] at h
  obtain ⟨created, hcreated, -, -, _, ⟨hrange, rfl⟩, hsigned⟩ := h
  refine ⟨created, _, hcreated, header_resultBody _ _ _ _ _, hsigned, inUtc_inRange hcreated, hrange,
    ?_⟩
  unfold Timestamp.ofSeconds
  linarith

/-- **The round trip** of result messages. -/
theorem verifyResultMessage_made {created expires : Timestamp}
    (made : Made C resultKind key keyId authorizationId
      (resultBody keyId authorizationId result created expires) message created expires)
    {observedAt : DateTime} {observed : Timestamp} (hobserved : utc observedAt = .ok observed)
    (hcreated : created ≤ observed) (hexpires : observed < expires) :
    verifyResultMessage C message key keyId authorizationId observedAt = .ok result := by
  have hresult : message.get "result" = .obj result := made.get (by decide)
  have hbound : checkBindings message (["intent_id", "request_sha256", "status"].map fun name =>
      (name, (result.get name).textOrEmpty)) "fast live result binding mismatch: " = .ok () := by
    apply checkBindings_ok
    intro binding hbinding
    simp only [List.map_cons, List.map_nil, List.mem_cons, List.not_mem_nil, or_false] at hbinding
    rcases hbinding with rfl | rfl | rfl <;> exact made.get (by simp)
  have hattempt : message.get "network_submission_attempt_consumed" =
      .bool (isTrue result "network_submission_attempt_consumed") := made.get (by decide)
  have horder : message.get "real_order_submitted" = .bool (isTrue result "real_order_submitted") :=
    made.get (by decide)
  have hattemptFlag : isTrue message "network_submission_attempt_consumed" =
      isTrue result "network_submission_attempt_consumed" := by
    simp [isTrue, hattempt]
  have horderFlag : isTrue message "real_order_submitted" =
      isTrue result "real_order_submitted" := by
    simp [isTrue, horder]
  simp only [verifyResultMessage, made.passes hobserved hcreated hexpires, ok_bind, hresult,
    requireMapping, Json.mapping, hbound, check_true hattemptFlag, check_true horderFlag]

end ResultMessage

end BpEngine.FastLive
