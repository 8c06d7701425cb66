import BpEngine.Execution.TransportRoundTrip

/-!
# The time chain of transport envelopes

* `Content.Made` is what both creators establish about the documents they were given.
* `transport_timeChain`: an envelope is accepted while its window is open exactly if the ids of its
  documents keep their text in the copies, and whatever is accepted has all its windows open.
-/

namespace BpEngine.TelegramTransport

/-! ## What the creators establish -/

/-- The content was made from these documents; `approved` and `attested` are what their checks found. -/
structure Content.Made (C : Crypto) (prepared approval origin : Dict) (source : Option Dict)
    (approved : TelegramApproval.Approved) (attested : Attested) (content : Content) : Prop where
  keyId : isKeyId content.keyId = true
  nonce : isNonce content.nonce = true
  createdInRange : IsoTime.InRange content.created
  expiresInRange : IsoTime.InRange content.expires
  window : content.created < content.expires
  lifetime : content.expires ≤ content.created + Timestamp.ofSeconds transportMaxLifetimeSeconds
  handoff : TelegramApproval.validateApprovedHandoff C prepared approval
    (utcDateTime content.created) = .ok approved
  sent : approvalCopy approval = .ok content.approval
  preparedCopy : content.prepared = Json.normalEntries prepared
  bound : content.bound = boundOf approved (C.payloadSha256 content.prepared)
    (C.payloadSha256 content.approval) (C.payloadSha256 approval)
  valid : validateOriginAttestationBinding origin content.bound = .ok attested
  originCopy : content.origin = Json.normalEntries origin
  before : attested.attestedAt ≤ content.created
  outlives : content.expires ≤ attested.expiresAt
  approvalOpen : ∀ time, IsoTime.InRange time → approved.expiresAt = IsoTime.isoformat time →
    content.expires ≤ time
  margin : ∀ time, IsoTime.InRange time → approved.marketEndAt = IsoTime.isoformat time →
    content.expires + Timestamp.ofSeconds TelegramApproval.submitSafetyFloorSeconds ≤ time
  copied : content.source = source.map Json.normalEntries
  authorized : ∀ document, source = some document → ∃ keyId authorized,
    item origin "key_id" = .ok keyId ∧
      validateSourceTruthAuthorizationBinding C document
        ⟨C.payloadSha256 content.origin, keyId, attested.attestedAt, attested.expiresAt⟩
        content.bound = .ok authorized ∧
      authorized.attestedAt ≤ content.created ∧ content.expires ≤ authorized.expiresAt

section Creators

variable {C : Crypto} {prepared approval origin source envelope : Dict} {key : List UInt8}
  {keyId nonce : String} {createdAt : DateTime}

theorem approvedHandoff_eq_ok {observedAt : DateTime} {approved : TelegramApproval.Approved} :
    approvedHandoff C prepared approval observedAt = .ok approved ↔
      TelegramApproval.validateApprovedHandoff C prepared approval observedAt = .ok approved := by
  unfold approvedHandoff
  cases TelegramApproval.validateApprovedHandoff C prepared approval observedAt with
  | ok found => exact Iff.rfl
  | error raised =>
    constructor
    · intro h
      simp only at h
      split_ifs at h
      exact absurd h raise_ne_ok
    · intro h
      cases h

theorem copied_eq {bound : Bound} {attested : Attested}
    (h : validateOriginAttestationBinding origin bound = .ok attested) :
    attested.copied = Json.normalEntries origin ∧ IsoTime.InRange attested.attestedAt ∧
      IsoTime.InRange attested.expiresAt ∧
      timeIn origin "attested_at" "origin attestation timestamps invalid" =
        .ok attested.attestedAt ∧
      timeIn origin "expires_at" "origin attestation timestamps invalid" =
        .ok attested.expiresAt ∧
      isKeyId (strip (origin.get "key_id").textOrEmpty) = true ∧ origin.has "key_id" = true := by
  simp only [validateOriginAttestationBinding, bind_eq_ok, check_eq_ok] at h
  obtain ⟨-, hkeys, -, -, -, -, -, hkeyId, _, -, -, -, attestedAt, hattestedAt, expiresAt, hexpiresAt,
    -, -, hattested⟩ := h
  cases hattested
  have hhas : origin.has "key_id" = true := by
    simp only [Dict.hasKeys, Bool.and_eq_true, List.all_eq_true] at hkeys
    exact hkeys.2 "key_id" (by decide)
  exact ⟨rfl, timeIn_inRange hattestedAt, timeIn_inRange hexpiresAt, hattestedAt, hexpiresAt, hkeyId,
    hhas⟩

/-- A window that approval and market leave open. -/
theorem approvalWindow_eq_ok {approved : TelegramApproval.Approved} {created expires : Timestamp}
    (h : approvalWindow approved created = .ok expires) :
    expires ≤ created + Timestamp.ofSeconds transportMaxLifetimeSeconds ∧
      (∀ time, IsoTime.InRange time → approved.expiresAt = IsoTime.isoformat time →
        expires ≤ time) ∧
      (∀ time, IsoTime.InRange time → approved.marketEndAt = IsoTime.isoformat time →
        expires + Timestamp.ofSeconds TelegramApproval.submitSafetyFloorSeconds ≤ time) ∧
      IsoTime.InRange expires := by
  simp only [approvalWindow, bind_eq_ok, check_eq_ok, addSeconds_eq_ok] at h
  obtain ⟨value, hvalue, approvalExpires, hopen, value', hvalue', marketEnd, hmarket, _,
    ⟨hlifetime, rfl⟩, _, ⟨hmargin, rfl⟩, -, -, hexpires⟩ := h
  cases hexpires
  have hback : ∀ {text : String} {value : DateTime} {found time : Timestamp},
      dateTimeOf text = .ok value → utc value = .ok found → IsoTime.InRange time →
      text = IsoTime.isoformat time → found = time := by
    intro text value found time hparsed hfound htime htext
    rw [htext, dateTimeOf_isoformat htime] at hparsed
    cases hparsed
    exact Except.ok.inj (hfound.symm.trans (inUtc_utcDateTime htime))
  refine ⟨(min_le_left _ _).trans (min_le_left _ _), fun time htime htext => ?_,
    fun time htime htext => ?_, ?_⟩
  · rw [← hback hvalue hopen htime htext]
    exact (min_le_left _ _).trans (min_le_right _ _)
  · rw [← hback hvalue' hmarket htime htext]
    have := min_le_right (min (created + Timestamp.ofSeconds transportMaxLifetimeSeconds)
      approvalExpires) (marketEnd + Timestamp.ofSeconds (-TelegramApproval.submitSafetyFloorSeconds))
    unfold Timestamp.ofSeconds at this ⊢
    linarith
  · have hrange := inUtc_inRange hopen
    exact ⟨le_min (le_min hlifetime.1 hrange.1) hmargin.1,
      (min_le_right _ _).trans_lt hmargin.2⟩

/-- **What `create_transport_envelope` establishes.** -/
theorem createTransportEnvelope_eq_ok
    (h : createTransportEnvelope C prepared approval origin key keyId createdAt nonce =
      .ok envelope) :
    ∃ content approved attested, Content.Made C prepared approval origin none approved attested
        content ∧ utc createdAt = .ok content.created ∧ keyIdOf keyId = .ok content.keyId ∧
      sign C (content.body C) key = .ok envelope := by
  simp only [createTransportEnvelope, bind_eq_ok, check_eq_ok] at h
  obtain ⟨created, hcreated, normalized, hkeyId, -, hnonce, approved, happroved, expires, hexpires,
    sent, hsent, attested, hattested, -, hbefore, -, hunexpired, -, hopen, hsigned⟩ := h
  obtain ⟨hlifetime, happrovalOpen, hmargin, hrange⟩ := approvalWindow_eq_ok hexpires
  obtain ⟨hcopied, -, hattestedRange, -⟩ := copied_eq hattested
  rw [hcopied] at hsigned
  refine ⟨⟨normalized, nonce, boundOf approved
      (C.payloadSha256 (Json.normalEntries prepared)) (C.payloadSha256 sent)
      (C.payloadSha256 approval), Json.normalEntries origin, Json.normalEntries prepared, sent, none,
    created, min expires attested.expiresAt⟩, approved, attested, ?_, hcreated, hkeyId, ?_⟩
  · exact {
      keyId := by
        obtain ⟨hvalid, rfl⟩ := keyIdOf_eq_ok.mp hkeyId
        exact hvalid
      nonce := hnonce
      createdInRange := inUtc_inRange hcreated
      expiresInRange := ⟨le_min hrange.1 hattestedRange.1,
        (min_le_left _ _).trans_lt hrange.2⟩
      window := not_le.mp hopen
      lifetime := (min_le_left _ _).trans hlifetime
      handoff := approvedHandoff_eq_ok.mp happroved
      sent := hsent
      preparedCopy := rfl
      bound := rfl
      valid := hattested
      originCopy := rfl
      before := not_lt.mp hbefore
      outlives := min_le_right _ _
      approvalOpen := fun time htime htext =>
        (min_le_left _ _).trans (happrovalOpen time htime htext)
      margin := fun time htime htext =>
        (add_le_add_left (min_le_left _ _) _).trans (hmargin time htime htext)
      copied := rfl
      authorized := fun document hdocument => by cases hdocument }
  · exact hsigned

/-- A shorter window changes nothing else. -/
theorem Content.Made.authorize {approved : TelegramApproval.Approved} {attested : Attested}
    {content : Content} (made : content.Made C prepared approval origin none approved attested)
    {originKeyId : String} {authorized : Attested} (hkeyId : item origin "key_id" = .ok originKeyId)
    (hauthorized : validateSourceTruthAuthorizationBinding C source
      ⟨C.payloadSha256 content.origin, originKeyId, attested.attestedAt, attested.expiresAt⟩
      content.bound = .ok authorized)
    (hbefore : authorized.attestedAt ≤ content.created)
    (hopen : content.created < authorized.expiresAt)
    (hrange : IsoTime.InRange authorized.expiresAt) :
    Content.Made C prepared approval origin (some source) approved attested
      { content with
        source := some (Json.normalEntries source)
        expires := min content.expires authorized.expiresAt } :=
  { made with
    expiresInRange := ⟨le_min made.expiresInRange.1 hrange.1,
      (min_le_left _ _).trans_lt made.expiresInRange.2⟩
    window := lt_min made.window hopen
    lifetime := (min_le_left _ _).trans made.lifetime
    outlives := (min_le_left _ _).trans made.outlives
    approvalOpen := fun time htime htext =>
      (min_le_left _ _).trans (made.approvalOpen time htime htext)
    margin := fun time htime htext =>
      (add_le_add_left (min_le_left _ _) _).trans (made.margin time htime htext)
    copied := rfl
    authorized := by
      intro document hdocument
      cases hdocument
      exact ⟨originKeyId, authorized, hkeyId, hauthorized, hbefore, min_le_right _ _⟩ }

theorem authorized_eq {link : OriginLink} {bound : Bound} {attested : Attested}
    (h : validateSourceTruthAuthorizationBinding C source link bound = .ok attested) :
    attested.copied = Json.normalEntries source ∧ IsoTime.InRange attested.expiresAt ∧
      timeIn source "expires_at" "source truth authorization timestamps invalid" =
        .ok attested.expiresAt ∧
      checkFields source "source truth authorization " bound.fields = .ok () := by
  simp only [validateSourceTruthAuthorizationBinding, bind_eq_ok, check_eq_ok,
    checkFields_eq_ok] at h
  obtain ⟨-, -, -, -, -, -, -, -, -, -, -, -, _, -, -, hfields, _, -, attestedAt, -, expiresAt,
    hexpiresAt, -, -, -, -, -, -, hattested⟩ := h
  cases hattested
  refine ⟨rfl, timeIn_inRange hexpiresAt, hexpiresAt, ?_⟩
  rw [checkFields_eq_ok]
  exact fun field hfield => hfields field (List.mem_append_left _ hfield)

/-- What the authorized creator writes over the body of the first schema. -/
theorem body_authorize {content : Content} (hsource : content.source = none) (document : Dict)
    (expires : Timestamp) :
    Dict.put (Dict.put (Dict.put (Dict.put (content.body C) "schema_version" (.int 2))
      "source_truth_authorization_sha256" (.str (C.payloadSha256 document)))
        "source_truth_authorization" (.obj document)) "expires_at"
          (.str (IsoTime.isoformat expires)) =
      Content.body C { content with source := some document, expires } := by
  unfold Content.body
  rw [hsource]
  rfl

/-- A time that was read by a checked name is read again. -/
theorem utc_item {d : Dict} {name error text : String} {value : DateTime} {time found : Timestamp}
    (h : timeIn d name error = .ok time) (hitem : item d name = .ok text)
    (hvalue : dateTimeOf text = .ok value) (hfound : utc value = .ok found) : found = time := by
  unfold timeIn at h
  unfold item at hitem
  cases hlookup : d.lookup name with
  | none =>
    rw [hlookup] at h
    exact absurd h raise_ne_ok
  | some found' =>
    rw [hlookup] at h hitem
    cases hitem
    unfold dateTimeOf at hvalue
    cases hparsed : IsoTime.fromisoformat found'.text with
    | none =>
      simp only [hparsed] at h
      exact absurd h raise_ne_ok
    | some time' =>
      simp only [hparsed] at h hvalue
      cases hvalue
      exact Except.ok.inj (hfound.symm.trans h)

/-- What the envelope of the first schema says is what its content is bound to. -/
theorem boundIn_sign {content : Content} {base : Dict} {bound : Bound}
    (hsign : sign C (content.body C) key = .ok base) (h : boundIn base = .ok bound) :
    bound = content.bound := by
  have hitem : ∀ {name text : String}, (content.body C).lookup name = some (.str text) →
      item base name = .ok text := fun hlookup => item_sign hsign hlookup
  have hprepared : item base "prepared_sha256" = .ok content.bound.preparedSha256 := hitem rfl
  have happroval : item base "approval_sha256" = .ok content.bound.approvalSha256 := hitem rfl
  have hsource : item base "approval_source_sha256" = .ok content.bound.approvalSourceSha256 :=
    hitem rfl
  have hintent : item base "intent_id" = .ok content.bound.intentId := hitem rfl
  have hprediction : item base "prediction_id" = .ok content.bound.predictionId := hitem rfl
  have horder : item base "paper_order_id" = .ok content.bound.paperOrderId := hitem rfl
  have hrequest : item base "request_sha256" = .ok content.bound.requestSha256 := hitem rfl
  simp only [boundIn, hprepared, happroval, hsource, hintent, hprediction, horder, hrequest,
    ok_bind] at h
  cases h
  rfl

/-- **What `create_authorized_transport_envelope` establishes.** -/
theorem createAuthorizedTransportEnvelope_eq_ok
    (h : createAuthorizedTransportEnvelope C prepared approval origin source key keyId createdAt
      nonce = .ok envelope) :
    ∃ content approved attested, Content.Made C prepared approval origin (some source) approved
        attested content ∧ utc createdAt = .ok content.created ∧
      keyIdOf keyId = .ok content.keyId ∧ sign C (content.body C) key = .ok envelope := by
  simp only [createAuthorizedTransportEnvelope, bind_eq_ok, check_eq_ok] at h
  obtain ⟨base, hbase, created, hcreated, attestedText, hattestedText, attestedValue, hattestedValue,
    attestedAt, hattestedAt, expiresText, hexpiresText, expiresValue, hexpiresValue, expiresAt,
    hexpiresAt, sha, hsha, originKeyId, horiginKeyId, bound, hbound, authorized, hauthorized, -,
    hbefore, -, hopen, text, htext, value, hvalue, baseExpires, hbaseExpires, hsigned⟩ := h
  obtain ⟨content, approved, attested, made, hutc, hkeyId, hsign⟩ :=
    createTransportEnvelope_eq_ok hbase
  obtain rfl := Except.ok.inj (hcreated.symm.trans hutc)
  obtain ⟨-, -, -, hattestedIn, hexpiresIn, -, -⟩ := copied_eq made.valid
  obtain rfl := utc_item hattestedIn hattestedText hattestedValue hattestedAt
  obtain rfl := utc_item hexpiresIn hexpiresText hexpiresValue hexpiresAt
  obtain rfl := boundIn_sign hsign hbound
  have hsha' : item base "origin_attestation_sha256" = .ok (C.payloadSha256 content.origin) :=
    item_sign hsign rfl
  obtain rfl := Except.ok.inj (hsha.symm.trans hsha')
  obtain ⟨hcopied, hrange, -, -⟩ := authorized_eq hauthorized
  have hsource : content.source = none := made.copied
  have hbody : Dict.without base "hmac_sha256" = content.body C := by
    obtain ⟨-, rfl⟩ := sign_eq_ok.mp hsign
    exact Dict.without_append_singleton uncoded_body
  rw [hbody, hcopied] at htext hsigned
  have hexpires : text = IsoTime.isoformat content.expires := by
    unfold item at htext
    rw [Dict.lookup_put, if_neg (by decide), Dict.lookup_put, if_neg (by decide), Dict.lookup_put,
      if_neg (by decide)] at htext
    exact (Except.ok.inj htext).symm
  rw [hexpires, dateTimeOf_isoformat made.expiresInRange] at hvalue
  cases hvalue
  have hback : utc (utcDateTime content.expires) = .ok content.expires :=
    inUtc_utcDateTime made.expiresInRange
  obtain rfl := Except.ok.inj (hbaseExpires.symm.trans hback)
  rw [body_authorize hsource] at hsigned
  exact ⟨_, approved, attested, made.authorize horiginKeyId hauthorized (not_lt.mp hbefore)
    (not_le.mp hopen) hrange, hutc, hkeyId, hsigned⟩

end Creators

/-! ## Accepted while the window is open -/

section Accepted

variable {C : Crypto} {prepared approval origin : Dict} {source : Option Dict}
  {approved : TelegramApproval.Approved} {attested : Attested} {content : Content}

theorem Content.Made.digests
    (made : content.Made C prepared approval origin source approved attested) :
    content.bound.Digests := by
  obtain ⟨-, -, -, -, -, -, -, hrequest⟩ := validateApprovedHandoff_ids made.handoff
  rw [made.bound]
  exact ⟨hrequest, C.isHex64_payloadSha256 _, C.isHex64_payloadSha256 _, C.isHex64_payloadSha256 _⟩

/-- The key id of an attestation that was checked is plain text, also in its copy. -/
theorem item_keyId (hvalid : isKeyId (strip (origin.get "key_id").textOrEmpty) = true)
    (hhas : origin.has "key_id" = true) :
    ∃ keyId, item origin "key_id" = .ok keyId ∧ Json.bracketed keyId = false ∧
      item (Json.normalEntries origin) "key_id" = .ok keyId := by
  obtain ⟨value, hvalue⟩ := Option.isSome_iff_exists.mp hhas
  have hget : origin.get "key_id" = value := by
    unfold Dict.get
    rw [hvalue]
    rfl
  rw [hget] at hvalid
  have htext : value.textOrEmpty = value.text := by
    apply if_pos
    by_contra hfalsy
    have hempty : value.textOrEmpty = "" := if_neg hfalsy
    rw [hempty] at hvalid
    exact absurd hvalid (by decide)
  have hplain := keyIdText_plain hvalid
  rw [htext] at hplain
  refine ⟨value.text, ?_, hplain, ?_⟩
  · unfold item
    rw [hvalue]
  · unfold item
    rw [Json.lookup_normalEntries, hvalue]
    exact congrArg Except.ok (Json.text_normal hplain)

/-- **What was made passes**, when the copies keep the ids. -/
theorem Content.Made.carried
    (made : content.Made C prepared approval origin source approved attested)
    (hprepared : KeepsIds prepared) (horigin : KeepsIds origin)
    (hsource : ∀ document, source = some document → KeepsIds document) : content.Carried C := by
  obtain ⟨hcopied, hattestedRange, -, -, -, hkeyId, hhas⟩ := copied_eq made.valid
  obtain ⟨keyId, hitem, hplain, hitem'⟩ := item_keyId hkeyId hhas
  obtain ⟨hkeys, -⟩ := approvalCopy_eq_ok made.sent
  obtain ⟨marketEnd, expiresAt, hmarketRange, hexpiresRange, hmarket, hexpires, hlater⟩ :=
    validateApprovedHandoff_copied hprepared made.createdInRange made.sent made.handoff
  have hbound := made.bound
  exact {
    keyId := made.keyId
    nonce := made.nonce
    digests := made.digests
    preparedHash := by rw [hbound]; rfl
    approvalHash := by rw [hbound]; rfl
    approvalKeys := hkeys
    createdInRange := made.createdInRange
    expiresInRange := made.expiresInRange
    window := made.window
    lifetime := made.lifetime
    handoff := by
      intro observed hobserved hafter hbefore
      have hmargin : observed + Timestamp.ofSeconds TelegramApproval.submitSafetyFloorSeconds ≤
          marketEnd := by
        have := made.margin marketEnd hmarketRange hmarket
        unfold Timestamp.ofSeconds at this ⊢
        linarith
      refine ⟨later approved (marketEnd - observed), approvedHandoff_eq_ok.mpr ?_, ?_⟩
      · rw [made.preparedCopy]
        exact hlater observed hobserved hafter
          (hbefore.trans_le (made.approvalOpen expiresAt hexpiresRange hexpires)) hmargin
      · rw [hbound]
        rfl
    attested := by
      refine ⟨attested, keyId, ?_, made.before, made.outlives, ?_, fun copy hcopy => ?_⟩
      · rw [made.originCopy]
        exact validateOriginAttestationBinding_copied made.digests horigin made.valid
      · rw [hcopied]
        exact hitem'
      · rw [made.copied, Option.map_eq_some_iff] at hcopy
        obtain ⟨document, hdocument, rfl⟩ := hcopy
        obtain ⟨keyId', authorized, hkeyId', hauthorized, hbefore, houtlives⟩ :=
          made.authorized document hdocument
        obtain rfl := Except.ok.inj (hkeyId'.symm.trans hitem)
        exact ⟨authorized, validateSourceTruthAuthorizationBinding_copied
          ⟨C.isHex64_payloadSha256 _, hplain, hattestedRange⟩ made.digests
          (hsource document hdocument) hauthorized, hbefore, houtlives⟩ }

end Accepted

/-! ## What the verifier establishes -/

section Verifier

variable {C : Crypto} {envelope : Dict} {key : List UInt8} {expectedKeyId : String}
  {observedAt : DateTime}

/-- **What the verifier has established.** -/
theorem verifyTransportEnvelope_eq_ok {verified : Verified}
    (h : verifyTransportEnvelope C envelope key expectedKeyId observedAt = .ok verified) :
    ∃ observed authorized documents window approved attested source,
      utc observedAt = .ok observed ∧ schemaOf envelope = .ok authorized ∧
      envelope.hasKeys (if authorized then authorizedTransportEnvelopeFields
        else transportEnvelopeFields) = true ∧
      documentsOf envelope authorized = .ok documents ∧
      windowOf envelope observed = .ok window ∧
      TelegramApproval.validateApprovedHandoff C documents.prepared documents.approval
        (utcDateTime observed) = .ok approved ∧
      checkOrigin documents.origin verified.bound window = .ok attested ∧
      checkSourceOf C envelope documents attested verified.bound window = .ok source ∧
      verified.bound.intentId = approved.intentId ∧
      verified.bound.predictionId = approved.predictionId ∧
      verified.bound.paperOrderId = approved.paperOrderId := by
  simp only [verifyTransportEnvelope, bind_eq_ok, check_eq_ok] at h
  obtain ⟨observed, hobserved, authorized, hauthorized, -, hkeys, -, -, keyId, -, -, -, -, -,
    documents, hdocuments, -, -, window, hwindow, approved, happroved, -, -, preparedSha, -,
    approvalSha, -, approvalSourceSha, -, attested, hattested, source, hsource, -, -, -, -, _, -, _, -,
    hverified⟩ := h
  have hbound : verified.bound = boundOf approved preparedSha approvalSha approvalSourceSha := by
    cases source with
    | none =>
      cases hverified
      rfl
    | some copied =>
      simp only [bind_eq_ok] at hverified
      obtain ⟨sha, -, _, -, hverified⟩ := hverified
      cases hverified
      rfl
  refine ⟨observed, authorized, documents, window, approved, attested, source, hobserved, hauthorized,
    hkeys, hdocuments, hwindow, approvedHandoff_eq_ok.mp happroved, ?_, ?_, ?_, ?_, ?_⟩
  · rw [hbound]
    exact hattested
  · rw [hbound]
    exact hsource
  · rw [hbound]
    rfl
  · rw [hbound]
    rfl
  · rw [hbound]
    rfl

theorem originFields_of_valid {origin : Dict} {bound : Bound} {attested : Attested}
    (h : validateOriginAttestationBinding origin bound = .ok attested) :
    checkFields origin "origin attestation " bound.fields = .ok () := by
  simp only [validateOriginAttestationBinding, bind_eq_ok] at h
  obtain ⟨_, -, _, -, _, -, _, -, _, hfields, -⟩ := h
  exact hfields

theorem checkOrigin_eq_ok {origin : Dict} {bound : Bound} {window : Window} {attested : Attested}
    (h : checkOrigin origin bound window = .ok attested) :
    validateOriginAttestationBinding origin bound = .ok attested ∧
      window.observed < attested.expiresAt := by
  simp only [checkOrigin, bind_eq_ok, check_eq_ok] at h
  obtain ⟨found, hfound, -, -, -, -, -, hopen, hattested⟩ := h
  cases hattested
  exact ⟨hfound, not_le.mp hopen⟩

theorem checkSourceOf_eq_ok {documents : Documents} {bound : Bound} {window : Window}
    {attested : Attested} {source : Option Dict} {document : Dict}
    (hdocument : documents.source = some document)
    (h : checkSourceOf C envelope documents attested bound window = .ok source) :
    ∃ link authorized,
      validateSourceTruthAuthorizationBinding C document link bound = .ok authorized ∧
        window.observed < authorized.expiresAt := by
  unfold checkSourceOf at h
  rw [hdocument] at h
  simp only [bind_eq_ok, checkSource, check_eq_ok] at h
  obtain ⟨sha, -, keyId, -, authorized, ⟨found, hfound, -, -, -, -, -, hopen, hauthorized⟩, -⟩ := h
  obtain rfl := Except.ok.inj hauthorized
  exact ⟨_, _, hfound, not_le.mp hopen⟩

/-- **Only what keeps the ids is accepted.** -/
theorem Content.Made.keepsIds {prepared approval origin : Dict} {source : Option Dict}
    {approved : TelegramApproval.Approved} {attested : Attested} {content : Content}
    (made : content.Made C prepared approval origin source approved attested)
    (hsign : sign C (content.body C) key = .ok envelope) {verified : Verified}
    (h : verifyTransportEnvelope C envelope key expectedKeyId observedAt = .ok verified) :
    KeepsIds prepared ∧ KeepsIds origin ∧ ∀ document, source = some document → KeepsIds document := by
  obtain ⟨observed, authorized, documents, window, approved', attested', sources, -, hschema, -,
    hdocuments, -, hhandoff, horigin, hsource, hintent, hprediction, horder⟩ :=
    verifyTransportEnvelope_eq_ok h
  obtain ⟨hkeys, hsent⟩ := approvalCopy_eq_ok made.sent
  obtain rfl := Except.ok.inj (hschema.symm.trans (schemaOf_sign hsign))
  obtain rfl := Except.ok.inj (hdocuments.symm.trans (documentsOf_sign hkeys hsign))
  simp only at hhandoff horigin hsource
  obtain ⟨hid, hid', hid'', happroval, happroval', happroval'', -, -⟩ :=
    validateApprovedHandoff_ids made.handoff
  obtain ⟨hcopy, hcopy', hcopy'', hcopied, hcopied', hcopied'', -, -⟩ :=
    validateApprovedHandoff_ids hhandoff
  have hsentText : ∀ name ∈ idNames, (content.approval.get name).textOrEmpty =
      (approval.get name).textOrEmpty := by
    intro name hname
    have hlookup : content.approval.lookup name = some (.str (approval.get name).textOrEmpty) := by
      simp only [idNames, List.mem_cons, List.not_mem_nil, or_false] at hname
      rcases hname with rfl | rfl | rfl <;> exact hsent _ (by decide)
    unfold Dict.get at hlookup ⊢
    rw [hlookup]
    exact Json.textOrEmpty_str _
  have hsame : approved'.intentId = approved.intentId := by
    rw [← hcopied, hsentText _ (by decide), happroval]
  have hsame' : approved'.predictionId = approved.predictionId := by
    rw [← hcopied', hsentText _ (by decide), happroval']
  have hsame'' : approved'.paperOrderId = approved.paperOrderId := by
    rw [← hcopied'', hsentText _ (by decide), happroval'']
  rw [made.preparedCopy, Dict.get_normalEntries] at hcopy hcopy' hcopy''
  have hboundIntent : verified.bound.intentId = content.bound.intentId := by
    rw [hintent, hsame, made.bound]
    rfl
  have hboundPrediction : verified.bound.predictionId = content.bound.predictionId := by
    rw [hprediction, hsame', made.bound]
    rfl
  have hboundOrder : verified.bound.paperOrderId = content.bound.paperOrderId := by
    rw [horder, hsame'', made.bound]
    rfl
  refine ⟨?_, ?_, fun document hdocument => ?_⟩
  · intro name hname
    simp only [idNames, List.mem_cons, List.not_mem_nil, or_false] at hname
    rcases hname with rfl | rfl | rfl
    · exact (hcopy.trans hsame).trans hid.symm
    · exact (hcopy'.trans hsame').trans hid'.symm
    · exact (hcopy''.trans hsame'').trans hid''.symm
  · have hvalid := (checkOrigin_eq_ok horigin).1
    rw [made.originCopy] at hvalid
    exact keepsIds_of_fields hboundIntent hboundPrediction hboundOrder
      (originFields_of_valid made.valid) (originFields_of_valid hvalid)
  · have hcopy : content.source = some (Json.normalEntries document) := by
      rw [made.copied, hdocument]
      rfl
    obtain ⟨link, found, hfound, -⟩ := checkSourceOf_eq_ok hcopy hsource
    obtain ⟨_, authorized, -, hauthorized, -⟩ := made.authorized document hdocument
    exact keepsIds_of_fields hboundIntent hboundPrediction hboundOrder
      (authorized_eq hauthorized).2.2.2 (authorized_eq hfound).2.2.2

end Verifier

/-! ## The time chain -/

/-- At the observed time every window an envelope carries is open. -/
structure TimeChain (envelope : Dict) (observed : Timestamp) : Prop where
  approval : ∃ approval expires, envelope.get "approval" = .obj approval ∧
    TelegramApproval.approvalTime approval "expires_at" = .ok expires ∧ observed < expires
  origin : ∃ origin expires, envelope.get "origin_attestation" = .obj origin ∧
    timeIn origin "expires_at" "origin attestation timestamps invalid" = .ok expires ∧
      observed < expires
  source : envelope.has "source_truth_authorization" = true →
    ∃ source expires, envelope.get "source_truth_authorization" = .obj source ∧
      timeIn source "expires_at" "source truth authorization timestamps invalid" = .ok expires ∧
        observed < expires
  lifetime : ∃ created expires,
    timeIn envelope "created_at" "transport timestamps invalid" = .ok created ∧
      timeIn envelope "expires_at" "transport timestamps invalid" = .ok expires ∧
      created ≤ observed ∧ observed < expires ∧
      expires ≤ created + Timestamp.ofSeconds transportMaxLifetimeSeconds
  margin : ∃ prepared marketEnd, envelope.get "prepared" = .obj prepared ∧
    TelegramApproval.marketEndOf prepared = .ok marketEnd ∧
      observed + Timestamp.ofSeconds TelegramApproval.submitSafetyFloorSeconds ≤ marketEnd

section Chain

variable {C : Crypto} {envelope : Dict} {key : List UInt8} {expectedKeyId : String}
  {observedAt : DateTime}

/-- The documents are entries of the envelope. -/
theorem documentsOf_eq_ok {authorized : Bool} {documents : Documents}
    (h : documentsOf envelope authorized = .ok documents) :
    envelope.get "prepared" = .obj documents.prepared ∧
      envelope.get "approval" = .obj documents.approval ∧
      envelope.get "origin_attestation" = .obj documents.origin ∧
      (authorized = true → ∃ source, documents.source = some source ∧
        envelope.get "source_truth_authorization" = .obj source) := by
  unfold documentsOf at h
  cases authorized with
  | false =>
    simp only [Bool.false_eq_true, if_false, bind_eq_ok, check_eq_ok] at h
    obtain ⟨prepared, hprepared, approval, happroval, origin, horigin, _, -, -, -, hdocuments⟩ := h
    cases hdocuments
    exact ⟨requireMapping_eq_ok hprepared, requireMapping_eq_ok happroval,
      requireMapping_eq_ok horigin, fun hauthorized => by cases hauthorized⟩
  | true =>
    simp only [if_true, bind_eq_ok, check_eq_ok] at h
    obtain ⟨prepared, hprepared, approval, happroval, origin, horigin, source, hsource, -, -,
      hdocuments⟩ := h
    cases hdocuments
    refine ⟨requireMapping_eq_ok hprepared, requireMapping_eq_ok happroval,
      requireMapping_eq_ok horigin, fun _ => ?_⟩
    cases hmapping : requireMapping (envelope.get "source_truth_authorization") .transportError
        "source truth authorization payload missing" with
    | error raised =>
      rw [hmapping] at hsource
      cases hsource
    | ok document =>
      rw [hmapping] at hsource
      cases hsource
      exact ⟨document, rfl, requireMapping_eq_ok hmapping⟩

theorem windowOf_eq_ok {observed : Timestamp} {window : Window}
    (h : windowOf envelope observed = .ok window) :
    window.observed = observed ∧
      timeIn envelope "created_at" "transport timestamps invalid" = .ok window.created ∧
      timeIn envelope "expires_at" "transport timestamps invalid" = .ok window.expires ∧
      window.created ≤ observed ∧ observed < window.expires ∧
      window.expires ≤ window.created + Timestamp.ofSeconds transportMaxLifetimeSeconds := by
  simp only [windowOf, bind_eq_ok, check_eq_ok, lt_seconds, not_lt] at h
  obtain ⟨created, hcreated, expires, hexpires, -, hpast, -, -, -, hlifetime, -, hopen, hwindow⟩ := h
  cases hwindow
  refine ⟨rfl, hcreated, hexpires, hpast, not_le.mp hopen, ?_⟩
  unfold Timestamp.ofSeconds
  linarith

theorem timeChain_of_verify {verified : Verified}
    (h : verifyTransportEnvelope C envelope key expectedKeyId observedAt = .ok verified) :
    ∃ observed, utc observedAt = .ok observed ∧ TimeChain envelope observed := by
  obtain ⟨observed, authorized, documents, window, approved, attested, sources, hobserved, -, hkeys,
    hdocuments, hwindow, hhandoff, horigin, hsource, -⟩ := verifyTransportEnvelope_eq_ok h
  obtain ⟨hprepared, happroval, horiginDocument, hsourceDocument⟩ := documentsOf_eq_ok hdocuments
  obtain ⟨hsame, hcreated, hexpires, hpast, hopen, hlifetime⟩ := windowOf_eq_ok hwindow
  obtain ⟨time, approvedAt, expiresAt, htime, -, hexpiresAt, -, -, -, hunexpired, hvalidated⟩ :=
    TelegramApproval.validateApprovedHandoff_eq_ok hhandoff
  have hutc : TelegramApproval.utc (utcDateTime observed) = .ok observed :=
    inUtc_utcDateTime (inUtc_inRange hobserved)
  obtain rfl := Except.ok.inj (htime.symm.trans hutc)
  obtain ⟨marketEnd, hmarketEnd, -, -, time', htime', hmargin⟩ :=
    TelegramApproval.validatePrepared_eq_ok hvalidated
  obtain rfl := Except.ok.inj (htime'.symm.trans hutc)
  obtain ⟨hattested, hattestedOpen⟩ := checkOrigin_eq_ok horigin
  obtain ⟨-, -, -, -, hattestedExpires, -, -⟩ := copied_eq hattested
  rw [hsame] at hattestedOpen
  refine ⟨_, hobserved, ?_⟩
  exact {
    approval := ⟨_, _, happroval, hexpiresAt, hunexpired⟩
    origin := ⟨_, _, horiginDocument, hattestedExpires, hattestedOpen⟩
    source := by
      intro hhas
      have hauthorized : authorized = true := by
        by_contra hplain
        rw [if_neg hplain] at hkeys
        exact absurd (Dict.mem_of_hasKeys hkeys hhas) (by decide)
      obtain ⟨document, hdocument, hget⟩ := hsourceDocument hauthorized
      obtain ⟨link, found, hfound, hfoundOpen⟩ := checkSourceOf_eq_ok hdocument hsource
      obtain ⟨-, -, hfoundExpires, -⟩ := authorized_eq hfound
      rw [hsame] at hfoundOpen
      exact ⟨document, _, hget, hfoundExpires, hfoundOpen⟩
    lifetime := ⟨_, _, hcreated, hexpires, hpast, hopen, hlifetime⟩
    margin := ⟨_, _, hprepared, hmarketEnd, hmargin⟩ }

end Chain

/-! ## Round trip and time chain -/

/-- A call of one of the two creators; the source-truth authorization decides which. -/
structure TransportCall where
  prepared : Dict
  approval : Dict
  origin : Dict
  source : Option Dict
  keyId : String
  createdAt : DateTime
  nonce : String

def TransportCall.create (call : TransportCall) (C : Crypto) (key : List UInt8) : Outcome Dict :=
  match call.source with
  | none => createTransportEnvelope C call.prepared call.approval call.origin key call.keyId
      call.createdAt call.nonce
  | some source => createAuthorizedTransportEnvelope C call.prepared call.approval call.origin source
      key call.keyId call.createdAt call.nonce

/-- The ids in the documents of a call keep their text when the documents are copied. -/
def TransportCall.KeepsIds (call : TransportCall) : Prop :=
  TelegramTransport.KeepsIds call.prepared ∧ TelegramTransport.KeepsIds call.origin ∧
    ∀ document, call.source = some document → TelegramTransport.KeepsIds document

/-- The verifier with the key and the key id of the call accepts the envelope at every time in its
window. -/
def AcceptedInWindow (C : Crypto) (key : List UInt8) (call : TransportCall) (envelope : Dict) :
    Prop :=
  ∃ created expires, utc call.createdAt = .ok created ∧
    timeIn envelope "created_at" "transport timestamps invalid" = .ok created ∧
    timeIn envelope "expires_at" "transport timestamps invalid" = .ok expires ∧
    created < expires ∧
    ∀ observedAt observed, utc observedAt = .ok observed → created ≤ observed → observed < expires →
      ∃ verified, verifyTransportEnvelope C envelope key call.keyId observedAt = .ok verified

/-- **Round trip and time chain.** -/
theorem transport_timeChain (C : Crypto) (key : List UInt8) :
    (∀ (call : TransportCall) (envelope : Dict), call.create C key = .ok envelope →
      (AcceptedInWindow C key call envelope ↔ call.KeepsIds)) ∧
    ∀ (envelope : Dict) (expectedKeyId : String) (observedAt : DateTime) (verified : Verified),
      verifyTransportEnvelope C envelope key expectedKeyId observedAt = .ok verified →
        ∃ observed, utc observedAt = .ok observed ∧ TimeChain envelope observed := by
  refine ⟨fun call envelope henvelope => ?_, fun envelope expectedKeyId observedAt verified h =>
    timeChain_of_verify h⟩
  have hmade : ∃ content approved attested, Content.Made C call.prepared call.approval call.origin
      call.source approved attested content ∧ utc call.createdAt = .ok content.created ∧
      keyIdOf call.keyId = .ok content.keyId ∧ sign C (content.body C) key = .ok envelope := by
    unfold TransportCall.create at henvelope
    cases hsource : call.source with
    | none =>
      rw [hsource] at henvelope
      exact createTransportEnvelope_eq_ok henvelope
    | some source =>
      rw [hsource] at henvelope
      exact createAuthorizedTransportEnvelope_eq_ok henvelope
  obtain ⟨content, approved, attested, made, hcreated, hkeyId, hsign⟩ := hmade
  constructor
  · rintro ⟨created, expires, hutc, -, -, hopen, haccepted⟩
    obtain rfl := Except.ok.inj (hutc.symm.trans hcreated)
    obtain ⟨verified, hverified⟩ := haccepted call.createdAt content.created hcreated le_rfl hopen
    exact made.keepsIds hsign hverified
  · rintro ⟨hprepared, horigin, hsource⟩
    have hcarried := made.carried hprepared horigin hsource
    refine ⟨content.created, content.expires, hcreated, timeIn_sign hsign rfl made.createdInRange,
      timeIn_sign hsign rfl made.expiresInRange, made.window, ?_⟩
    intro observedAt observed hobserved hafter hbefore
    exact verifyTransportEnvelope_carried hcarried hsign hkeyId hobserved hafter hbefore

/-! ### Sample calls -/

/-- What SHA-256 and HMAC-SHA-256 give on the documents of a sample call. -/
structure SampleDigests where
  request : HexDigest
  prepared : HexDigest
  approval : HexDigest
  sent : HexDigest
  origin : HexDigest
  snapshot : HexDigest
  source : HexDigest
  code : HexDigest
  authorizedCode : HexDigest

/-- The digests by the kind of document; values are their own encoding. -/
def SampleDigests.crypto (digests : SampleDigests) : Crypto where
  Encoded := Json
  encode := id
  encode_injective := fun _ _ h => h
  sha256 := fun value =>
    let has (name : String) := (value.mapping.getD []).has name
    if has "limit_price" then digests.request
    else if has "market_end_at" then digests.prepared
    else if has "callback_query_id" then digests.approval
    else if has "status" then digests.sent
    else if has "second_order_authorized" then digests.snapshot
    else if has "blockers" then digests.source
    else digests.origin
  hmac := fun _ value =>
    if (value.mapping.getD []).has "source_truth_authorization" then digests.authorizedCode
    else digests.code

/-- The prepared payload with an intent id. -/
def samplePrepared (intentId : Json) : Dict :=
  [("status", .str "prepared"),
    ("action", .str "submit"),
    ("intent_id", intentId),
    ("prediction_id", .str "prediction-1"),
    ("paper_order_id", .str "paper-1"),
    ("market_end_at", .str "2026-01-01T00:05:00+00:00"),
    ("policy", .obj [("policy_version", .str "v3-live-canary-v1"),
      ("max_submission_attempts", .int 1)]),
    ("request", .obj [("selected_side", .str "up"), ("target_notional_usd", .str "5"),
      ("limit_price", .str "0.5"), ("requested_shares", .str "10")])]

def sampleApproval (intentId : String) (digests : SampleDigests) : Dict :=
  [("schema_version", .int 1),
    ("status", .str "approved"),
    ("intent_id", .str intentId),
    ("prediction_id", .str "prediction-1"),
    ("paper_order_id", .str "paper-1"),
    ("request_sha256", .str digests.request.1),
    ("telegram_user_id", .int 7),
    ("telegram_chat_id", .int 7),
    ("callback_query_id", .str "query-1"),
    ("approved_at", .str "2026-01-01T00:00:00+00:00"),
    ("expires_at", .str "2026-01-01T00:00:40+00:00")]

/-- The fields both attestations have. -/
def sampleBound (intentId : String) (digests : SampleDigests) : Dict :=
  [("intent_id", .str intentId),
    ("prediction_id", .str "prediction-1"),
    ("paper_order_id", .str "paper-1"),
    ("request_sha256", .str digests.request.1),
    ("prepared_sha256", .str digests.prepared.1),
    ("approval_sha256", .str digests.sent.1),
    ("approval_source_sha256", .str digests.approval.1)]

def sampleOrigin (intentId : String) (digests : SampleDigests) (code : String) : Dict :=
  [("schema_version", .int 1),
    ("purpose", .str "phase15-v3-telegram-origin-approval-v1"),
    ("key_id", .str "origin-1")] ++ sampleBound intentId digests ++
  [("approved_at", .str "2026-01-01T00:00:00+00:00"),
    ("attested_at", .str "2026-01-01T00:00:01+00:00"),
    ("expires_at", .str "2026-01-01T00:00:31+00:00"),
    ("hmac_sha256", .str code)]

def sampleSnapshot : Dict :=
  [("source_of_truth_version", .str "v3"),
    ("global_live_trading_enabled", .bool true),
    ("phase15_live_trading_enabled", .bool true),
    ("phase15_canary_authorized", .bool true),
    ("canary_order_submitted", .bool false),
    ("first_canary_reconciliation_complete", .bool false),
    ("pending_unsubmitted_intent_present", .bool false),
    ("v3_strategy_mutation_performed", .bool false),
    ("second_order_authorized", .bool false),
    ("automated_real_money_submission", .bool false),
    ("manual_real_money_submission_required", .bool true),
    ("telegram_one_tap_submission_authorized", .bool true),
    ("telegram_persistent_execution_transport_authorized", .bool true),
    ("telegram_pubsub_transport_authorized", .bool true)]

def sampleSource (intentId : String) (digests : SampleDigests) (code : String) : Dict :=
  [("schema_version", .int 1),
    ("purpose", .str "phase15-v3-telegram-source-truth-authorization-v1"),
    ("key_id", .str "origin-1"),
    ("project_state_sha256",
      .str "99b3481fe9827d56ca7445d8bf7116b6ea18d04c705d1dfae04fdf0b22fc7798"),
    ("authorization_snapshot_sha256", .str digests.snapshot.1),
    ("authorization_snapshot", .obj sampleSnapshot),
    ("authorized", .bool true),
    ("blockers", .arr [])] ++ sampleBound intentId digests ++
  [("origin_attestation_sha256", .str digests.origin.1),
    ("origin_attested_at", .str "2026-01-01T00:00:01+00:00"),
    ("attested_at", .str "2026-01-01T00:00:02+00:00"),
    ("expires_at", .str "2026-01-01T00:00:12+00:00"),
    ("hmac_sha256", .str code)]

def sampleKey : List UInt8 := List.replicate 32 0

/-- Three seconds into 2026. -/
def sampleCreatedAt : DateTime := ⟨Timestamp.ofSeconds 1767225603, some 0⟩

def textDigests : SampleDigests where
  request := ⟨"388d004a78afd2fa61d5089e88283c4ae748d4af2d78e46377e9cde71e5d4cf1", by decide +kernel⟩
  prepared := ⟨"94d75bbb0965bc172a6031aa32a00e79a58e4c94cc24388a1ceeea96831dcf1d", by decide +kernel⟩
  approval := ⟨"26c90c0a5427ac9b3b1ea35c4b6d869c6acc90c2e83640af5236bf4fd909dd41", by decide +kernel⟩
  sent := ⟨"59428fe4291316d4bab6e6f3a5b95955d90f749614cdd8c13518967da97dee9e", by decide +kernel⟩
  origin := ⟨"34d36ce746c40c040a0cdadf221bdae75fb9b9514c7943b28866dd7b36130539", by decide +kernel⟩
  snapshot := ⟨"8c03dddf5db92dc580b83d1474ccf318a12a1322bf3f3218e2c737373e545edb", by decide +kernel⟩
  source := ⟨"7af32aeb2b80d57ab3d6125ed1e6886fd62014231152091b28dd9bef4e6e9ad0", by decide +kernel⟩
  code := ⟨"8483736d95c8c8ebecdc63246e8e1f533ea8628d8026c69c0ec9fc19abb83f8c", by decide +kernel⟩
  authorizedCode :=
    ⟨"c8b8dbde964f7d2735dc9086797bf8dbf355b889d2176da671a399fd8b8b4a0c", by decide +kernel⟩

/-- A call with text ids and a source-truth authorization. -/
def textCall : TransportCall where
  prepared := samplePrepared (.str "intent-1")
  approval := sampleApproval "intent-1" textDigests
  origin := sampleOrigin "intent-1" textDigests
    "6f2789c44c89b7b198dc78b54296152812cc0277a0233e0515d1e75e7b8884a3"
  source := some (sampleSource "intent-1" textDigests
    "705b5f0b34be1da7009892696a5bbe7c1826164fa59e96b9b55a0515fc6c9e13")
  keyId := "key-1"
  createdAt := sampleCreatedAt
  nonce := "nonce-1"

theorem textCall_made : (textCall.create textDigests.crypto sampleKey).isOk = true := by
  decide +kernel

theorem textCall_keepsIds : textCall.KeepsIds := by
  refine ⟨by decide +kernel, by decide +kernel, fun document hdocument => ?_⟩
  cases hdocument
  decide +kernel

theorem exists_of_isOk {α : Type} {x : Outcome α} (h : x.isOk = true) : ∃ a, x = .ok a := by
  cases x with
  | ok a => exact ⟨a, rfl⟩
  | error raised => cases h

/-- An authorized envelope with text ids is accepted, and its windows are open. -/
theorem transport_timeChain_sample : ∃ envelope verified,
    textCall.create textDigests.crypto sampleKey = .ok envelope ∧
      verifyTransportEnvelope textDigests.crypto envelope sampleKey "key-1" sampleCreatedAt =
        .ok verified ∧ TimeChain envelope (Timestamp.ofSeconds 1767225603) := by
  have hcreated : utc sampleCreatedAt = .ok (Timestamp.ofSeconds 1767225603) := by decide +kernel
  obtain ⟨envelope, henvelope⟩ := exists_of_isOk textCall_made
  obtain ⟨created, expires, hutc, -, -, hopen, haccepted⟩ :=
    ((transport_timeChain textDigests.crypto sampleKey).1 textCall envelope henvelope).mpr
      textCall_keepsIds
  obtain rfl := Except.ok.inj (hutc.symm.trans hcreated)
  obtain ⟨verified, hverified⟩ := haccepted sampleCreatedAt _ hcreated le_rfl hopen
  obtain ⟨observed, hobserved, hchain⟩ := (transport_timeChain textDigests.crypto sampleKey).2 envelope
    "key-1" sampleCreatedAt verified hverified
  obtain rfl := Except.ok.inj (hobserved.symm.trans hcreated)
  exact ⟨envelope, verified, henvelope, hverified, hchain⟩

def mappingDigests : SampleDigests where
  request := ⟨"388d004a78afd2fa61d5089e88283c4ae748d4af2d78e46377e9cde71e5d4cf1", by decide +kernel⟩
  prepared := ⟨"c5b75b8ccb849bea9bc0ee406d83792bb8ddff028c81384b05836fce4a6a5764", by decide +kernel⟩
  approval := ⟨"93bf9bfbd9d2768add790db03ec20de4d5ef34d3b2f2561ed75891e9a7ebc555", by decide +kernel⟩
  sent := ⟨"7e64300aa31919d64fc098842e5cbf97d41b6de450c8ee696d428457c9aa0338", by decide +kernel⟩
  origin := ⟨"c9079d9e1a46036359f49c0ed96aa101caa4ac6d518b04cdb79e22fc7083cbd7", by decide +kernel⟩
  snapshot := ⟨"8c03dddf5db92dc580b83d1474ccf318a12a1322bf3f3218e2c737373e545edb", by decide +kernel⟩
  source := ⟨"adee16c4b23db72899bb8087f9b57277200a6d3576882e3514184dd886564b87", by decide +kernel⟩
  code := ⟨"fc1c0887cfb7abfe72ef85e0b635b49831252799ccaa4a41151924b2af340cfb", by decide +kernel⟩
  authorizedCode :=
    ⟨"4a538f620e255bbc1917c9d09d16a75ce0afa82303e5078c53962ad52d5e5009", by decide +kernel⟩

/-- A call whose intent id is a mapping with its keys out of order. -/
def mappingCall : TransportCall where
  prepared := samplePrepared (.obj [("b", .int 1), ("a", .int 2)])
  approval := sampleApproval "\x7b'b': 1, 'a': 2\x7d" mappingDigests
  origin := sampleOrigin "\x7b'b': 1, 'a': 2\x7d" mappingDigests
    "13147fa2070ece6f24c3a0a243aabdc27a753be511f878b2734d8641cce4ee20"
  source := none
  keyId := "key-1"
  createdAt := sampleCreatedAt
  nonce := "nonce-1"

/-- Whether an envelope is made, and then rejected. -/
def madeAndRejected (C : Crypto) (key : List UInt8) (call : TransportCall) : Bool :=
  match call.create C key with
  | .ok envelope => !(verifyTransportEnvelope C envelope key call.keyId call.createdAt).isOk
  | .error _ => false

theorem mappingCall_rejected : madeAndRejected mappingDigests.crypto sampleKey mappingCall = true := by
  decide +kernel

/-- Not every envelope is accepted: a mapping in place of an id has another text in the copy. -/
theorem transport_roundTrip_mapping : ¬ ∀ (C : Crypto) (key : List UInt8) (call : TransportCall)
    (envelope : Dict), call.create C key = .ok envelope → AcceptedInWindow C key call envelope := by
  intro h
  have hrejected := mappingCall_rejected
  unfold madeAndRejected at hrejected
  cases henvelope : mappingCall.create mappingDigests.crypto sampleKey with
  | error raised =>
    rw [henvelope] at hrejected
    cases hrejected
  | ok envelope =>
    rw [henvelope] at hrejected
    obtain ⟨created, expires, hcreated, -, -, hopen, haccepted⟩ :=
      h mappingDigests.crypto sampleKey mappingCall envelope henvelope
    obtain ⟨verified, hverified⟩ :=
      haccepted mappingCall.createdAt created hcreated le_rfl hopen
    simp only [hverified] at hrejected
    cases hrejected

end BpEngine.TelegramTransport
