import BpEngine.Execution.TelegramTransport

/-!
# The round trip of transport envelopes

An envelope carries copies with sorted keys.  The checks that read a document as numbers, times,
digests or fixed texts give the same result on a copy; the ids are read as any text, and the text of a
list or a mapping is not always kept (`Json.KeepsText`).

* `validatePrepared_copied`, `validateApprovedHandoff_copied`,
  `validateOriginAttestationBinding_copied` and `validateSourceTruthAuthorizationBinding_copied` are
  the checks of the copies.
* `Carried` is what the creators establish; `verifyTransportEnvelope_carried` is the round trip.
-/

namespace BpEngine.TelegramTransport

/-! ## Copies of prepared payloads -/

section Prepared

variable {C : Crypto} {prepared approval : Dict} {created observed : Timestamp}

/-- The names of the ids in a document. -/
def idNames : List String := ["intent_id", "prediction_id", "paper_order_id"]

/-- Copying a document keeps the text of its ids. -/
def KeepsIds (document : Dict) : Prop := ∀ name ∈ idNames, (document.get name).KeepsText

instance (document : Dict) : Decidable (KeepsIds document) := by unfold KeepsIds; infer_instance

theorem decimalOf_normal {value : Json} {name : String} {number : Decimal}
    (h : TelegramApproval.decimalOf value name = .ok number) :
    TelegramApproval.decimalOf value.normal name = .ok number := by
  have hplain : Json.bracketed value.text = false := by
    by_contra hbracketed
    rw [TelegramApproval.decimalOf, decimalOfText_bracketed (by simpa using hbracketed)] at h
    exact raise_ne_ok h
  rwa [TelegramApproval.decimalOf, Json.text_normal hplain]

theorem toInt_normal (value : Json) : value.normal.toInt = value.toInt := by
  cases value <;> rfl

theorem getOr_normalEntries (d : Dict) (name : String) {default : Json}
    (hdefault : default.normal = default) :
    Dict.getOr (Json.normalEntries d) name default = (d.getOr name default).normal := by
  unfold Dict.getOr
  rw [Json.lookup_normalEntries]
  cases d.lookup name with
  | none => exact hdefault.symm
  | some value => rfl

theorem requireMapping_normal {value : Json} {cls : PyClass} {message : String} {d : Dict}
    (h : requireMapping value cls message = .ok d) :
    requireMapping value.normal cls message = .ok (Json.normalEntries d) := by
  cases value with
  | obj entries =>
    cases h
    rfl
  | _ => cases h

theorem marketEndOf_normal {marketEnd : Timestamp}
    (h : TelegramApproval.marketEndOf prepared = .ok marketEnd) :
    TelegramApproval.marketEndOf (Json.normalEntries prepared) = .ok marketEnd := by
  have hkeeps : (prepared.get "market_end_at").KeepsText := by
    apply Json.keepsText_of_text
    by_contra hbracketed
    rw [TelegramApproval.marketEndOf, fromisoformat_bracketed (by simpa using hbracketed)] at h
    exact raise_ne_ok h
  rwa [TelegramApproval.marketEndOf, Dict.get_normalEntries, hkeeps]

theorem selectedSideOf_normal {request : Dict}
    (h : TelegramApproval.selectedSideOf request prepared ∈ ["up", "down"]) :
    TelegramApproval.selectedSideOf (Json.normalEntries request) (Json.normalEntries prepared) =
      TelegramApproval.selectedSideOf request prepared := by
  have hplain : Json.bracketed (TelegramApproval.selectedSideOf request prepared) = false := by
    simp only [List.mem_cons, List.not_mem_nil, or_false] at h
    rcases h with h | h <;> rw [h] <;> rfl
  unfold TelegramApproval.selectedSideOf at hplain ⊢
  rw [Dict.get_normalEntries, Dict.get_normalEntries, Json.truthy_normal]
  split_ifs at hplain ⊢ with htruthy
  · exact Json.text_normal hplain
  · exact Json.keepsText_of_text hplain

/-- **The copy of a prepared payload** is validated with the same result, as long as the margin before
the market's end is kept. -/
theorem validatePrepared_copied {minimum : ℤ} {validated : TelegramApproval.Validated}
    (hids : KeepsIds prepared) (hobserved : IsoTime.InRange observed)
    (h : TelegramApproval.validatePrepared C prepared (utcDateTime created) minimum =
      .ok validated) :
    ∃ marketEnd, TelegramApproval.marketEndOf prepared = .ok marketEnd ∧
      validated.marketEndAt = IsoTime.isoformat marketEnd ∧
      (observed + Timestamp.ofSeconds minimum ≤ marketEnd →
        TelegramApproval.validatePrepared C (Json.normalEntries prepared) (utcDateTime observed)
          minimum = .ok { validated with secondsRemaining := marketEnd - observed }) := by
  simp only [TelegramApproval.validatePrepared, bind_eq_ok, TelegramApproval.check_eq_ok] at h
  obtain ⟨time, -, -, hstatus, -, haction, policy, hpolicy, request, hrequest, -, hversion, attempts,
    hattempts, -, hone, target, htarget, -, hfive, -, hidentity, marketEnd, hmarketEnd, -, -, price,
    hprice, shares, hshares, -, hside, -, hpositive, -, hsome, hvalidated⟩ := h
  refine ⟨marketEnd, hmarketEnd, by cases hvalidated; rfl, fun hmargin => ?_⟩
  have hutc : TelegramApproval.utc (utcDateTime observed) = .ok observed :=
    inUtc_utcDateTime hobserved
  have hget : ∀ {d : Dict} {name : String} {number : Decimal} {label : String},
      TelegramApproval.decimalOf (d.get name) label = .ok number →
      TelegramApproval.decimalOf (Dict.get (Json.normalEntries d) name) label = .ok number := by
    intro d name number label hnumber
    rw [Dict.get_normalEntries]
    exact decimalOf_normal hnumber
  have hid : ∀ name ∈ idNames,
      (Dict.get (Json.normalEntries prepared) name).textOrEmpty =
        (prepared.get name).textOrEmpty := by
    intro name hname
    rw [Dict.get_normalEntries]
    exact hids name hname
  have hfar : ¬ marketEnd - observed < Timestamp.ofSeconds minimum := by
    rw [not_lt]
    linarith
  have hmapping : ∀ {name message : String} {d : Dict},
      requireMapping (prepared.get name) .approvalError message = .ok d →
      requireMapping (Dict.get (Json.normalEntries prepared) name) .approvalError message =
        .ok (Json.normalEntries d) := by
    intro name message d hd
    rw [Dict.get_normalEntries]
    exact requireMapping_normal hd
  have hattempts' : (Dict.getOr (Json.normalEntries policy) "max_submission_attempts"
      (.int 0)).toInt = .ok attempts := by
    rw [getOr_normalEntries _ _ rfl, toInt_normal, hattempts]
  have hstatus' : (Dict.get (Json.normalEntries prepared) "status").isStr "prepared" = true := by
    rw [Dict.get_normalEntries, Json.isStr_normal, hstatus]
  have haction' : (Dict.get (Json.normalEntries prepared) "action").isStr "submit" = true := by
    rw [Dict.get_normalEntries, Json.isStr_normal, haction]
  have hversion' : (Dict.get (Json.normalEntries policy) "policy_version").isStr
      "v3-live-canary-v1" = true := by
    rw [Dict.get_normalEntries, Json.isStr_normal, hversion]
  simp only [TelegramApproval.validatePrepared, hutc, ok_bind, hstatus', haction',
    hmapping hpolicy, hmapping hrequest, hversion', hattempts', hget htarget, hget hprice,
    hget hshares, marketEndOf_normal hmarketEnd, selectedSideOf_normal hside,
    TelegramApproval.check_true hone, TelegramApproval.check_true hfive,
    TelegramApproval.check_true hfar, TelegramApproval.check_true hside,
    TelegramApproval.check_true hpositive, TelegramApproval.check_true hsome,
    TelegramApproval.check_true, C.payloadSha256_normalEntries,
    hid "intent_id" (by decide), hid "prediction_id" (by decide), hid "paper_order_id" (by decide),
    TelegramApproval.check_true hidentity]
  cases hvalidated
  rfl

/-- The payload a validation found has the ids of the document. -/
theorem validatePrepared_ids {minimum : ℤ} {observedAt : DateTime}
    {validated : TelegramApproval.Validated}
    (h : TelegramApproval.validatePrepared C prepared observedAt minimum = .ok validated) :
    (prepared.get "intent_id").textOrEmpty = validated.intentId ∧
      (prepared.get "prediction_id").textOrEmpty = validated.predictionId ∧
      (prepared.get "paper_order_id").textOrEmpty = validated.paperOrderId ∧
      isHex64 validated.requestSha256 = true := by
  simp only [TelegramApproval.validatePrepared, bind_eq_ok, TelegramApproval.check_eq_ok] at h
  obtain ⟨_, -, -, -, -, -, _, -, request, -, -, -, _, -, -, -, _, -, -, -, -, -, _, -, -, -, _, -, _,
    -, -, -, -, -, -, -, hvalidated⟩ := h
  cases hvalidated
  exact ⟨rfl, rfl, rfl, C.isHex64_payloadSha256 request⟩

end Prepared

/-! ## Copies of approvals -/

section Approval

variable {C : Crypto} {prepared approval sent : Dict} {created observed : Timestamp}
  {approved : TelegramApproval.Approved}

/-- What the approval that is sent leaves out, and the time, change nothing else. -/
def later (approved : TelegramApproval.Approved) (secondsRemaining : ℤ) :
    TelegramApproval.Approved :=
  { approved with
    secondsRemaining
    callbackQueryId := ""
    telegramUserId := 0
    telegramChatId := 0 }

/-- An approval and the payload it was given for have the same ids. -/
theorem validateApprovedHandoff_ids {observedAt : DateTime}
    (h : TelegramApproval.validateApprovedHandoff C prepared approval observedAt = .ok approved) :
    (prepared.get "intent_id").textOrEmpty = approved.intentId ∧
      (prepared.get "prediction_id").textOrEmpty = approved.predictionId ∧
      (prepared.get "paper_order_id").textOrEmpty = approved.paperOrderId ∧
      (approval.get "intent_id").textOrEmpty = approved.intentId ∧
      (approval.get "prediction_id").textOrEmpty = approved.predictionId ∧
      (approval.get "paper_order_id").textOrEmpty = approved.paperOrderId ∧
      (approval.get "request_sha256").textOrEmpty = approved.requestSha256 ∧
      isHex64 approved.requestSha256 = true := by
  simp only [TelegramApproval.validateApprovedHandoff, bind_eq_ok,
    TelegramApproval.check_eq_ok] at h
  obtain ⟨_, -, -, -, validated, hvalidated, -, hintent, -, hprediction, -, horder, -, hrequest, _, -,
    _, -, -, -, -, -, -, -, _, -, _, -, happroved⟩ := h
  obtain ⟨hintent', hprediction', horder', hhex⟩ := validatePrepared_ids hvalidated
  cases happroved
  exact ⟨hintent', hprediction', horder', hintent, hprediction, horder, hrequest, hhex⟩

/-- The approval that is sent, field by field. -/
theorem approvalCopy_eq_ok (h : approvalCopy approval = .ok sent) :
    sent.hasKeys transportApprovalFields = true ∧
      ∀ name ∈ ["status", "intent_id", "prediction_id", "paper_order_id", "request_sha256",
        "approved_at", "expires_at"], sent.lookup name = some (.str (approval.get name).textOrEmpty) := by
  simp only [approvalCopy, bind_eq_ok] at h
  obtain ⟨version, -, hsent⟩ := h
  cases hsent
  refine ⟨rfl, fun name hname => ?_⟩
  simp only [List.mem_cons, List.not_mem_nil, or_false] at hname
  rcases hname with rfl | rfl | rfl | rfl | rfl | rfl | rfl <;> rfl

/-- A time of the approval is a time of its copy. -/
theorem approvalTime_sent {name : String} {time : Timestamp}
    (hsent : sent.lookup name = some (.str (approval.get name).textOrEmpty))
    (h : TelegramApproval.approvalTime approval name = .ok time) :
    TelegramApproval.approvalTime sent name = .ok time := by
  unfold TelegramApproval.approvalTime at h ⊢
  rw [hsent]
  cases hlookup : approval.lookup name with
  | none =>
    rw [hlookup] at h
    exact absurd h raise_ne_ok
  | some value =>
    rw [hlookup] at h
    have hget : approval.get name = value := by
      unfold Dict.get
      rw [hlookup]
      rfl
    have htext : value.textOrEmpty = value.text := by
      apply if_pos
      by_contra hfalsy
      simp only [fromisoformat_falsy (by simpa using hfalsy)] at h
      exact raise_ne_ok h
    rw [hget, htext]
    exact h

/-- **The copies of a payload and its approval** pass at every later time before the approval's
expiry that keeps the margin before the market's end. -/
theorem validateApprovedHandoff_copied (hids : KeepsIds prepared) (hcreated : IsoTime.InRange created)
    (hsent : approvalCopy approval = .ok sent)
    (h : TelegramApproval.validateApprovedHandoff C prepared approval (utcDateTime created) =
      .ok approved) :
    ∃ marketEnd expiresAt, IsoTime.InRange marketEnd ∧ IsoTime.InRange expiresAt ∧
      approved.marketEndAt = IsoTime.isoformat marketEnd ∧
      approved.expiresAt = IsoTime.isoformat expiresAt ∧
      ∀ observed, IsoTime.InRange observed → created ≤ observed → observed < expiresAt →
        observed + Timestamp.ofSeconds TelegramApproval.submitSafetyFloorSeconds ≤ marketEnd →
        TelegramApproval.validateApprovedHandoff C (Json.normalEntries prepared) sent
          (utcDateTime observed) = .ok (later approved (marketEnd - observed)) := by
  obtain ⟨-, hfields⟩ := approvalCopy_eq_ok hsent
  simp only [TelegramApproval.validateApprovedHandoff, bind_eq_ok,
    TelegramApproval.check_eq_ok] at h
  obtain ⟨time, htime, -, hstatus, validated, hvalidated, -, hintent, -, hprediction, -, horder, -,
    hrequest, approvedAt, happrovedAt, expiresAt, hexpiresAt, -, hwindow, -, hpast, -, -, user, -,
    chat, -, happroved⟩ := h
  have hsame : time = created :=
    Except.ok.inj (htime.symm.trans (inUtc_utcDateTime hcreated))
  subst hsame
  have hmarket : ∃ marketEnd, TelegramApproval.marketEndOf prepared = .ok marketEnd ∧
      validated.marketEndAt = IsoTime.isoformat marketEnd := by
    obtain ⟨marketEnd, hmarketEnd, htext, -⟩ := TelegramApproval.validatePrepared_eq_ok hvalidated
    exact ⟨marketEnd, hmarketEnd, htext⟩
  obtain ⟨marketEnd, hmarketEnd, htext⟩ := hmarket
  refine ⟨marketEnd, expiresAt, TelegramApproval.marketEndOf_inRange hmarketEnd,
    TelegramApproval.approvalTime_inRange hexpiresAt, by cases happroved; exact htext,
    by cases happroved; rfl, fun observed hobserved hafter hopen hmargin => ?_⟩
  obtain ⟨marketEnd', hmarketEnd', -, hcopied⟩ :=
    validatePrepared_copied hids hobserved hvalidated
  have hsameEnd : marketEnd' = marketEnd := Except.ok.inj (hmarketEnd'.symm.trans hmarketEnd)
  subst hsameEnd
  have hutc : TelegramApproval.utc (utcDateTime observed) = .ok observed :=
    inUtc_utcDateTime hobserved
  have hget : ∀ name ∈ ["status", "intent_id", "prediction_id", "paper_order_id", "request_sha256",
      "approved_at", "expires_at"], sent.get name = .str (approval.get name).textOrEmpty := by
    intro name hname
    unfold Dict.get
    rw [hfields name hname]
    rfl
  have hmissing : ∀ name, name ∉ transportApprovalFields → sent.lookup name = none := by
    intro name hname
    simp only [approvalCopy, bind_eq_ok] at hsent
    obtain ⟨version, -, hsent⟩ := hsent
    cases hsent
    simp only [transportApprovalFields, List.mem_cons, List.not_mem_nil, or_false, not_or] at hname
    simp only [Json.lookup_cons, List.lookup_nil, hname, if_false]
  have hstatusText : (approval.get "status").textOrEmpty = "approved" := by
    cases hvalue : approval.get "status" with
    | str text =>
      rw [hvalue] at hstatus
      rw [Json.textOrEmpty_str]
      simpa using hstatus
    | _ =>
      rw [hvalue] at hstatus
      cases hstatus
  have hstatus' : (sent.get "status").isStr "approved" = true := by
    rw [hget "status" (by decide), hstatusText]
    rfl
  have hquery : (sent.get "callback_query_id").textOrEmpty = "" := by
    unfold Dict.get
    rw [hmissing "callback_query_id" (by decide)]
    rfl
  have hnumber : ∀ name, name ∉ transportApprovalFields →
      (sent.getOr name (.int 0)).toInt = .ok 0 := by
    intro name hname
    unfold Dict.getOr
    rw [hmissing name hname]
    rfl
  have hnotEarly : ¬ observed < approvedAt := not_lt.2 ((not_lt.1 hpast).trans hafter)
  have hnotLate : ¬ expiresAt ≤ observed := not_le.2 hopen
  simp only [TelegramApproval.validateApprovedHandoff, hutc, ok_bind, hstatus', hcopied hmargin,
    hget "intent_id" (by decide), hget "prediction_id" (by decide),
    hget "paper_order_id" (by decide), hget "request_sha256" (by decide), Json.textOrEmpty_str,
    approvalTime_sent (hfields "approved_at" (by decide)) happrovedAt,
    approvalTime_sent (hfields "expires_at" (by decide)) hexpiresAt,
    hquery, hnumber "telegram_user_id" (by decide), hnumber "telegram_chat_id" (by decide),
    TelegramApproval.check_true hintent, TelegramApproval.check_true hprediction,
    TelegramApproval.check_true horder, TelegramApproval.check_true hrequest,
    TelegramApproval.check_true hwindow, TelegramApproval.check_true hnotEarly,
    TelegramApproval.check_true hnotLate, TelegramApproval.check_true]
  cases happroved
  rfl

end Approval

/-! ## Copies of attestations -/

section Checks

variable {condition : Prop} [Decidable condition] {message : String}

@[simp] theorem check_eq_ok {u : Unit} : check condition message = .ok u ↔ condition :=
  require_eq_ok

theorem check_true (h : condition) : check condition message = .ok () := check_eq_ok.2 h

/-- A loop of checks passes when every check does. -/
theorem forM_check_eq_ok {α : Type} {items : List α} {holds : α → Prop} [DecidablePred holds]
    {text : α → String} {u : Unit} :
    (items.forM fun a => check (holds a) (text a)) = .ok u ↔ ∀ a ∈ items, holds a := by
  rw [forM_eq_ok]
  simp only [check_eq_ok]

theorem checkFields_eq_ok {d : Dict} {label : String} {expected : List (String × String)}
    {u : Unit} : checkFields d label expected = .ok u ↔
      ∀ field ∈ expected, (d.get field.1).textOrEmpty = field.2 := forM_check_eq_ok

theorem checkDigests_eq_ok {d : Dict} {label : String} {names : List String} {u : Unit} :
    checkDigests d label names = .ok u ↔
      ∀ name ∈ names, isHex64 (d.get name).textOrEmpty = true := forM_check_eq_ok

end Checks

section Attestations

variable {C : Crypto} {document : Dict} {bound : Bound} {attested : Attested}

theorem timeIn_normalEntries {name error : String} {time : Timestamp}
    (h : timeIn document name error = .ok time) :
    timeIn (Json.normalEntries document) name error = .ok time := by
  unfold timeIn at h ⊢
  rw [Json.lookup_normalEntries]
  cases hlookup : document.lookup name with
  | none =>
    rw [hlookup] at h
    exact absurd h raise_ne_ok
  | some value =>
    rw [hlookup] at h
    have hplain : Json.bracketed value.text = false := by
      by_contra hbracketed
      simp only [fromisoformat_bracketed (by simpa using hbracketed)] at h
      exact raise_ne_ok h
    simp only [Option.map_some, Json.text_normal hplain]
    exact h

theorem timeIn_inRange {name error : String} {time : Timestamp}
    (h : timeIn document name error = .ok time) : IsoTime.InRange time := by
  unfold timeIn at h
  split at h
  · exact absurd h raise_ne_ok
  · split at h
    · exact absurd h raise_ne_ok
    · exact inUtc_inRange h

/-- What documents agree on in digests. -/
structure Bound.Digests (bound : Bound) : Prop where
  request : isHex64 bound.requestSha256 = true
  prepared : isHex64 bound.preparedSha256 = true
  approval : isHex64 bound.approvalSha256 = true
  approvalSource : isHex64 bound.approvalSourceSha256 = true

/-- The bound fields of a document are kept when its ids are. -/
theorem fields_normalEntries (hdigests : bound.Digests) (hids : KeepsIds document)
    (h : ∀ field ∈ bound.fields, (document.get field.1).textOrEmpty = field.2) :
    ∀ field ∈ bound.fields,
      (Dict.get (Json.normalEntries document) field.1).textOrEmpty = field.2 := by
  have hdigest : ∀ {name text : String}, (document.get name).textOrEmpty = text →
      isHex64 text = true → (Dict.get (Json.normalEntries document) name).textOrEmpty = text := by
    intro name text htext hhex
    rw [Dict.get_normalEntries, Json.keepsText_of_isHex64 (by rw [htext, hhex]), htext]
  have hid : ∀ {name text : String}, (document.get name).textOrEmpty = text → name ∈ idNames →
      (Dict.get (Json.normalEntries document) name).textOrEmpty = text := by
    intro name text htext hname
    rw [Dict.get_normalEntries, hids name hname, htext]
  simp only [Bound.fields, List.forall_mem_cons, List.not_mem_nil, false_imp_iff,
    implies_true, and_true] at h ⊢
  obtain ⟨hintent, hprediction, horder, hrequest, hprepared, happroval, hsource⟩ := h
  exact ⟨hid hintent (by decide), hid hprediction (by decide), hid horder (by decide),
    hdigest hrequest hdigests.request, hdigest hprepared hdigests.prepared,
    hdigest happroval hdigests.approval, hdigest hsource hdigests.approvalSource⟩

/-- And only then: a document and its copy that have the same ids keep them. -/
theorem keepsIds_of_fields {bound' : Bound} {label label' : String}
    (hintent : bound'.intentId = bound.intentId)
    (hprediction : bound'.predictionId = bound.predictionId)
    (horder : bound'.paperOrderId = bound.paperOrderId)
    (h : checkFields document label bound.fields = .ok ())
    (h' : checkFields (Json.normalEntries document) label' bound'.fields = .ok ()) :
    KeepsIds document := by
  rw [checkFields_eq_ok] at h h'
  have hkeeps : ∀ name text, (name, text) ∈ bound.fields → (name, text) ∈ bound'.fields →
      (document.get name).KeepsText := by
    intro name text hmem hmem'
    have hcopied := h' _ hmem'
    rw [Dict.get_normalEntries] at hcopied
    exact hcopied.trans (h _ hmem).symm
  intro name hname
  simp only [idNames, List.mem_cons, List.not_mem_nil, or_false] at hname
  rcases hname with rfl | rfl | rfl
  · exact hkeeps _ bound.intentId (by simp [Bound.fields]) (by simp [Bound.fields, hintent])
  · exact hkeeps _ bound.predictionId (by simp [Bound.fields])
      (by simp [Bound.fields, hprediction])
  · exact hkeeps _ bound.paperOrderId (by simp [Bound.fields])
      (by simp [Bound.fields, horder])

theorem keyIdText_plain {text : String} (h : isKeyId (strip text) = true) :
    Json.bracketed text = false := by
  by_contra hbracketed
  obtain ⟨c, rest, htext, hc⟩ :=
    exists_of_bracketed (bracketed_strip (by simpa using hbracketed))
  simp only [isKeyId, Bool.decide_and, Bool.and_eq_true, decide_eq_true_eq, htext,
    List.all_cons] at h
  obtain ⟨-, -, hchar, -⟩ := h
  rcases hc with rfl | rfl
  · exact absurd hchar (by decide)
  · exact absurd hchar (by decide)

/-- **The copy of an origin attestation** passes as the attestation did. -/
theorem validateOriginAttestationBinding_copied (hdigests : bound.Digests)
    (hids : KeepsIds document)
    (h : validateOriginAttestationBinding document bound = .ok attested) :
    validateOriginAttestationBinding (Json.normalEntries document) bound = .ok attested := by
  simp only [validateOriginAttestationBinding, bind_eq_ok, check_eq_ok, checkFields_eq_ok] at h
  obtain ⟨-, hkeys, -, hschema, -, hpurpose, -, hkeyId, -, hfields, -, hmac, attestedAt, hattestedAt,
    expiresAt, hexpiresAt, -, hwindow, hattested⟩ := h
  have hkeyId' : isKeyId (strip (Dict.get (Json.normalEntries document) "key_id").textOrEmpty) =
      true := by
    rw [Dict.get_normalEntries, Json.keepsText_of_text (keyIdText_plain hkeyId)]
    exact hkeyId
  have hmac' : isHex64 (Dict.get (Json.normalEntries document) "hmac_sha256").textOrEmpty =
      true := by
    rw [Dict.get_normalEntries, Json.keepsText_of_isHex64 hmac]
    exact hmac
  have hfields' : checkFields (Json.normalEntries document) "origin attestation " bound.fields =
      .ok () := checkFields_eq_ok.2 (fields_normalEntries hdigests hids hfields)
  simp only [validateOriginAttestationBinding, Dict.hasKeys_normalEntries, hkeys,
    Dict.get_normalEntries, Json.isInt_normal, Json.isStr_normal, hschema, hpurpose, check_true,
    ok_bind, hfields', timeIn_normalEntries hattestedAt, timeIn_normalEntries hexpiresAt,
    check_true hwindow, Json.normalEntries_normalEntries]
  rw [Dict.get_normalEntries] at hkeyId' hmac'
  simp only [hkeyId', hmac', check_true, ok_bind]
  exact hattested

theorem checkSnapshot_copied (h : checkSnapshot C document = .ok ())
    (hhex : isHex64 (document.get "authorization_snapshot_sha256").textOrEmpty = true) :
    checkSnapshot C (Json.normalEntries document) = .ok () := by
  simp only [checkSnapshot, bind_eq_ok, check_eq_ok] at h
  obtain ⟨snapshot, hsnapshot, -, hkeys, hhash⟩ := h
  have hkeeps := Json.keepsText_of_isHex64 hhex
  unfold Json.KeepsText at hkeeps
  simp only [checkSnapshot, Dict.get_normalEntries, requireMapping_normal hsnapshot, ok_bind,
    Dict.hasKeys_normalEntries, hkeys, check_true, hkeeps, C.payloadSha256_normalEntries, hhash]

/-- An origin link whose texts no list or mapping has. -/
structure OriginLink.Plain (link : OriginLink) : Prop where
  digest : isHex64 link.sha256 = true
  keyId : Json.bracketed link.keyId = false
  attested : IsoTime.InRange link.attestedAt

/-- **The copy of a source-truth authorization** passes as the authorization did. -/
theorem validateSourceTruthAuthorizationBinding_copied {link : OriginLink} (hlink : link.Plain)
    (hdigests : bound.Digests) (hids : KeepsIds document)
    (h : validateSourceTruthAuthorizationBinding C document link bound = .ok attested) :
    validateSourceTruthAuthorizationBinding C (Json.normalEntries document) link bound =
      .ok attested := by
  simp only [validateSourceTruthAuthorizationBinding, bind_eq_ok, check_eq_ok, checkFields_eq_ok,
    checkDigests_eq_ok] at h
  obtain ⟨-, hkeys, -, hschema, -, hpurpose, -, hkeyId, -, hauthorized, -, hblockers, _, hsnapshot, -,
    hfields, -, hdigest, attestedAt, hattestedAt, expiresAt, hexpiresAt, -, hafter, -, hwindow, -,
    hinside, hattested⟩ := h
  have hkeyId' : (document.get "key_id").normal.textOrEmpty = link.keyId := by
    rw [Json.keepsText_of_text (by rw [hkeyId, hlink.keyId]), hkeyId]
  have hblockers' : isEmptyList (document.get "blockers").normal = true := by
    cases hvalue : document.get "blockers" with
    | arr items =>
      rw [hvalue] at hblockers
      cases items with
      | nil => rfl
      | cons item rest => cases hblockers
    | _ =>
      rw [hvalue] at hblockers
      cases hblockers
  have hsnapshot' := checkSnapshot_copied hsnapshot
    (hdigest "authorization_snapshot_sha256" (by decide))
  have hdigest' : checkDigests (Json.normalEntries document) "source truth authorization "
      ["project_state_sha256", "authorization_snapshot_sha256", "request_sha256",
        "prepared_sha256", "approval_sha256", "approval_source_sha256",
        "origin_attestation_sha256", "hmac_sha256"] = .ok () := by
    rw [checkDigests_eq_ok]
    intro name hname
    rw [Dict.get_normalEntries, Json.keepsText_of_isHex64 (hdigest name hname)]
    exact hdigest name hname
  have hfields' : checkFields (Json.normalEntries document) "source truth authorization "
      (bound.fields ++ [("origin_attestation_sha256", link.sha256),
        ("origin_attested_at", IsoTime.isoformat link.attestedAt)]) = .ok () := by
    rw [checkFields_eq_ok]
    intro field hfield
    rcases List.mem_append.mp hfield with hfield | hfield
    · exact fields_normalEntries hdigests hids
        (fun other hother => hfields other (List.mem_append_left _ hother)) field hfield
    · have hvalue := hfields field (List.mem_append_right _ hfield)
      have hplain : Json.bracketed field.2 = false := by
        by_contra hbracketed
        have hbracketed : Json.bracketed field.2 = true := by simpa using hbracketed
        simp only [List.mem_cons, List.not_mem_nil, or_false] at hfield
        rcases hfield with rfl | rfl
        · have hhex := hlink.digest
          rw [isHex64_bracketed hbracketed] at hhex
          cases hhex
        · have hnone := fromisoformat_bracketed hbracketed
          rw [IsoTime.fromisoformat_isoformat hlink.attested] at hnone
          cases hnone
      rw [Dict.get_normalEntries, Json.keepsText_of_text (by rw [hvalue, hplain]), hvalue]
  simp only [validateSourceTruthAuthorizationBinding, Dict.hasKeys_normalEntries, hkeys,
    hsnapshot', hfields', hdigest', timeIn_normalEntries hattestedAt,
    timeIn_normalEntries hexpiresAt, Dict.get_normalEntries, Json.isInt_normal, Json.isStr_normal,
    Json.isBool_normal, hschema, hpurpose, hauthorized, hkeyId', hblockers', check_true, ok_bind,
    check_true hafter, check_true hwindow, check_true hinside, Json.normalEntries_normalEntries]
  exact hattested

end Attestations

/-! ## Envelopes that were made -/

/-- What an envelope carries, and its window; the source-truth authorization decides the schema. -/
structure Content where
  keyId : String
  nonce : String
  bound : Bound
  origin : Dict
  prepared : Dict
  approval : Dict
  source : Option Dict
  created : Timestamp
  expires : Timestamp

/-- The fields only the authorized schema has. -/
def sourceFields (C : Crypto) : Option Dict → Dict
  | none => []
  | some source =>
    [("source_truth_authorization_sha256", .str (C.payloadSha256 source)),
      ("source_truth_authorization", .obj source)]

/-- The body of an envelope of either schema. -/
def Content.body (C : Crypto) (content : Content) : Dict :=
  ("schema_version", .int (if content.source.isSome then 2 else 1)) ::
    (transportBody C content.keyId content.nonce content.bound content.origin content.prepared
      content.approval content.created content.expires).tail ++ sourceFields C content.source

/-- What an envelope carries passes while the envelope's window is open. -/
structure Content.Carried (C : Crypto) (content : Content) : Prop where
  keyId : isKeyId content.keyId = true
  nonce : isNonce content.nonce = true
  digests : content.bound.Digests
  preparedHash : content.bound.preparedSha256 = C.payloadSha256 content.prepared
  approvalHash : content.bound.approvalSha256 = C.payloadSha256 content.approval
  approvalKeys : content.approval.hasKeys transportApprovalFields = true
  createdInRange : IsoTime.InRange content.created
  expiresInRange : IsoTime.InRange content.expires
  window : content.created < content.expires
  lifetime : content.expires ≤ content.created + Timestamp.ofSeconds transportMaxLifetimeSeconds
  handoff : ∀ observed, IsoTime.InRange observed → content.created ≤ observed →
    observed < content.expires → ∃ approved,
      approvedHandoff C content.prepared content.approval (utcDateTime observed) = .ok approved ∧
        boundOf approved content.bound.preparedSha256 content.bound.approvalSha256
          content.bound.approvalSourceSha256 = content.bound
  attested : ∃ attested keyId,
    validateOriginAttestationBinding content.origin content.bound = .ok attested ∧
      attested.attestedAt ≤ content.created ∧ content.expires ≤ attested.expiresAt ∧
      item attested.copied "key_id" = .ok keyId ∧
      ∀ source, content.source = some source → ∃ authorized,
        validateSourceTruthAuthorizationBinding C source
            ⟨C.payloadSha256 content.origin, keyId, attested.attestedAt, attested.expiresAt⟩
            content.bound = .ok authorized ∧
          authorized.attestedAt ≤ content.created ∧ content.expires ≤ authorized.expiresAt

section Carried

variable {C : Crypto} {content : Content} {body envelope : Dict} {key : List UInt8}

theorem sign_eq_ok : sign C body key = .ok envelope ↔
    key.length = 32 ∧ envelope = body ++ [("hmac_sha256", .str (C.code key body))] := by
  simp only [sign, mac, bind_eq_ok, check_eq_ok]
  constructor
  · rintro ⟨code, ⟨-, hkey, hcode⟩, henvelope⟩
    cases hcode
    cases henvelope
    exact ⟨hkey, rfl⟩
  · rintro ⟨hkey, rfl⟩
    exact ⟨_, ⟨(), hkey, rfl⟩, rfl⟩

theorem uncoded_body : ∀ entry ∈ content.body C, entry.1 ≠ "hmac_sha256" := by
  unfold Content.body
  cases content.source with
  | none => simp [transportBody, sourceFields]
  | some source => simp [transportBody, sourceFields]

/-- The fields of a signed envelope. -/
theorem lookup_sign {name : String} {value : Json} (hsign : sign C body key = .ok envelope)
    (h : body.lookup name = some value) : envelope.lookup name = some value := by
  obtain ⟨-, rfl⟩ := sign_eq_ok.mp hsign
  rw [Dict.lookup_append, h]
  rfl

/-- The code of an envelope that was signed. -/
theorem checkMac_sign (hsign : sign C (content.body C) key = .ok envelope) :
    checkMac C envelope key = .ok () := by
  obtain ⟨hkey, rfl⟩ := sign_eq_ok.mp hsign
  have hnone : (content.body C).lookup "hmac_sha256" = none := by
    rw [List.lookup_eq_none_iff]
    intro entry hentry
    exact bne_iff_ne.mpr fun heq => uncoded_body entry hentry heq.symm
  have hcode : (Dict.get (content.body C ++ [("hmac_sha256",
      .str (C.code key (content.body C)))]) "hmac_sha256").textOrEmpty =
        C.code key (content.body C) := by
    unfold Dict.get
    rw [Dict.lookup_append, hnone, Json.lookup_cons]
    exact Json.textOrEmpty_str _
  obtain ⟨hlength, hascii⟩ := isHex64_ascii (C.isHex64_code key (content.body C))
  have hsupplied : require ((bytes (C.code key (content.body C))).all (· < 128) = true) .typeError
      "comparing strings with non-ASCII characters is not supported" = .ok () :=
    require_eq_ok.2 hascii
  simp only [checkMac, hcode, Dict.without_append_singleton uncoded_body, mac, hkey, check_true,
    ok_bind, hlength, hsupplied]

/-- What a list of fields gives under a name of one of them. -/
theorem get_sign {name : String} {value : Json} (hsign : sign C body key = .ok envelope)
    (h : body.lookup name = some value) : envelope.get name = value := by
  unfold Dict.get
  rw [lookup_sign hsign h]
  rfl

theorem item_sign {name text : String} (hsign : sign C body key = .ok envelope)
    (h : body.lookup name = some (.str text)) : item envelope name = .ok text := by
  unfold item
  rw [lookup_sign hsign h]
  rfl

theorem timeIn_sign {name error : String} {time : Timestamp}
    (hsign : sign C body key = .ok envelope)
    (h : body.lookup name = some (.str (IsoTime.isoformat time))) (htime : IsoTime.InRange time) :
    timeIn envelope name error = .ok time := by
  unfold timeIn
  rw [lookup_sign hsign h]
  simp only [Json.text, IsoTime.fromisoformat_isoformat htime]
  exact inUtc_utcDateTime htime

/-- The documents of an envelope that was signed. -/
theorem documentsOf_sign (hkeys : content.approval.hasKeys transportApprovalFields = true)
    (hsign : sign C (content.body C) key = .ok envelope) :
    documentsOf envelope content.source.isSome =
      .ok ⟨content.prepared, content.approval, content.origin, content.source⟩ := by
  have hprepared : envelope.get "prepared" = .obj content.prepared := get_sign hsign rfl
  have happroval : envelope.get "approval" = .obj content.approval := get_sign hsign rfl
  have horigin : envelope.get "origin_attestation" = .obj content.origin := get_sign hsign rfl
  cases hsource : content.source with
  | none =>
    simp only [documentsOf, hprepared, happroval, horigin, requireMapping, Json.mapping, ok_bind,
      Option.isSome_none, Bool.false_eq_true, if_false, check_true hkeys]
  | some source =>
    have hget : envelope.get "source_truth_authorization" = .obj source := by
      refine get_sign hsign ?_
      unfold Content.body
      rw [hsource]
      rfl
    simp only [documentsOf, hprepared, happroval, horigin, hget, requireMapping, Json.mapping,
      ok_bind, Option.isSome_some, if_true, Except.map, check_true hkeys]

theorem checkHashes_sign (hcarried : content.Carried C)
    (hsign : sign C (content.body C) key = .ok envelope) :
    checkHashes C envelope
      ⟨content.prepared, content.approval, content.origin, content.source⟩ = .ok () := by
  have hprepared : envelope.get "prepared_sha256" = .str content.bound.preparedSha256 :=
    get_sign hsign rfl
  have happroval : envelope.get "approval_sha256" = .str content.bound.approvalSha256 :=
    get_sign hsign rfl
  have horigin : envelope.get "origin_attestation_sha256" = .str (C.payloadSha256 content.origin) :=
    get_sign hsign rfl
  cases hsource : content.source with
  | none =>
    simp only [checkHashes, hprepared, happroval, horigin, Json.textOrEmpty_str,
      check_true hcarried.preparedHash, check_true hcarried.approvalHash, check_true, ok_bind]
  | some source =>
    have hget : envelope.get "source_truth_authorization_sha256" =
        .str (C.payloadSha256 source) := by
      refine get_sign hsign ?_
      unfold Content.body
      rw [hsource]
      rfl
    simp only [checkHashes, hprepared, happroval, horigin, hget, Json.textOrEmpty_str,
      check_true hcarried.preparedHash, check_true hcarried.approvalHash, check_true, ok_bind]

theorem windowOf_sign (hcarried : content.Carried C)
    (hsign : sign C (content.body C) key = .ok envelope) {observed : Timestamp}
    (hcreated : content.created ≤ observed) (hexpires : observed < content.expires) :
    windowOf envelope observed = .ok ⟨observed, content.created, content.expires⟩ := by
  have hcreatedAt : timeIn envelope "created_at" "transport timestamps invalid" =
      .ok content.created := timeIn_sign hsign rfl hcarried.createdInRange
  have hexpiresAt : timeIn envelope "expires_at" "transport timestamps invalid" =
      .ok content.expires := timeIn_sign hsign rfl hcarried.expiresInRange
  have hlifetime : ¬ ⟨transportMaxLifetimeSeconds, 0⟩ <
      Timestamp.seconds (content.expires - content.created) := by
    have := hcarried.lifetime
    rw [lt_seconds, not_lt]
    unfold Timestamp.ofSeconds at this
    linarith
  simp only [windowOf, hcreatedAt, hexpiresAt, ok_bind, check_true (not_lt.2 hcreated),
    check_true (not_le.2 hcarried.window), check_true hlifetime, check_true (not_le.2 hexpires)]

theorem schemaOf_sign (hsign : sign C (content.body C) key = .ok envelope) :
    schemaOf envelope = .ok content.source.isSome := by
  have hversion : envelope.get "schema_version" =
      .int (if content.source.isSome then 2 else 1) := get_sign hsign rfl
  unfold schemaOf
  rw [hversion]
  cases content.source <;> rfl

theorem hasKeys_sign (hsign : sign C (content.body C) key = .ok envelope) :
    envelope.hasKeys (if content.source.isSome then authorizedTransportEnvelopeFields
      else transportEnvelopeFields) = true := by
  obtain ⟨-, rfl⟩ := sign_eq_ok.mp hsign
  unfold Content.body
  cases content.source <;> rfl

/-- The digests of an envelope that was signed. -/
theorem checkDigests_sign (hcarried : content.Carried C)
    (hsign : sign C (content.body C) key = .ok envelope) :
    checkDigests envelope "transport " (["request_sha256", "prepared_sha256", "approval_sha256",
      "approval_source_sha256", "origin_attestation_sha256"] ++
        if content.source.isSome then ["source_truth_authorization_sha256"] else []) = .ok () := by
  rw [checkDigests_eq_ok]
  have hget : ∀ {name text : String}, (content.body C).lookup name = some (.str text) →
      isHex64 text = true → isHex64 (envelope.get name).textOrEmpty = true := by
    intro name text hlookup htext
    rw [get_sign hsign hlookup, Json.textOrEmpty_str, htext]
  intro name hname
  rcases List.mem_append.mp hname with hname | hname
  · simp only [List.mem_cons, List.not_mem_nil, or_false] at hname
    rcases hname with rfl | rfl | rfl | rfl | rfl
    · exact hget rfl hcarried.digests.request
    · exact hget rfl hcarried.digests.prepared
    · exact hget rfl hcarried.digests.approval
    · exact hget rfl hcarried.digests.approvalSource
    · exact hget rfl (C.isHex64_payloadSha256 content.origin)
  · cases hsource : content.source with
    | none =>
      rw [hsource] at hname
      cases hname
    | some source =>
      rw [hsource] at hname
      obtain rfl := List.mem_singleton.mp hname
      refine hget ?_ (C.isHex64_payloadSha256 source)
      unfold Content.body
      rw [hsource]
      rfl

/-- The attestations of an envelope that was signed. -/
theorem checkSourceOf_sign (hcarried : content.Carried C)
    (hsign : sign C (content.body C) key = .ok envelope) {observed : Timestamp}
    (hexpires : observed < content.expires) :
    ∃ attested keyId source,
      checkOrigin content.origin content.bound ⟨observed, content.created, content.expires⟩ =
        .ok attested ∧ item attested.copied "key_id" = .ok keyId ∧
      checkSourceOf C envelope
        ⟨content.prepared, content.approval, content.origin, content.source⟩ attested content.bound
        ⟨observed, content.created, content.expires⟩ = .ok source ∧
      source.isSome = content.source.isSome := by
  obtain ⟨attested, keyId, hattested, hbefore, houtlives, hkeyId, hsource⟩ := hcarried.attested
  have horigin : checkOrigin content.origin content.bound
      ⟨observed, content.created, content.expires⟩ = .ok attested := by
    simp only [checkOrigin, hattested, ok_bind, check_true (not_lt.2 hbefore),
      check_true (not_lt.2 houtlives), check_true (not_le.2 (hexpires.trans_le houtlives))]
  cases hcase : content.source with
  | none => exact ⟨attested, keyId, none, horigin, hkeyId, rfl, rfl⟩
  | some source =>
    obtain ⟨authorized, hauthorized, hbefore', houtlives'⟩ := hsource source hcase
    have hitem : item envelope "origin_attestation_sha256" =
        .ok (C.payloadSha256 content.origin) := item_sign hsign rfl
    refine ⟨attested, keyId, some authorized.copied, horigin, hkeyId, ?_, rfl⟩
    simp only [checkSourceOf, hitem, hkeyId, ok_bind, checkSource, hauthorized,
      check_true (not_lt.2 hbefore'), check_true (not_lt.2 houtlives'),
      check_true (not_le.2 (hexpires.trans_le houtlives'))]

theorem keyIdOf_eq_ok {value keyId : String} :
    keyIdOf value = .ok keyId ↔ isKeyId (strip value) = true ∧ keyId = strip value := by
  simp only [keyIdOf, bind_eq_ok, check_eq_ok]
  constructor
  · rintro ⟨-, hkeyId, heq⟩
    cases heq
    exact ⟨hkeyId, rfl⟩
  · rintro ⟨hkeyId, rfl⟩
    exact ⟨(), hkeyId, rfl⟩

/-- **The round trip**: an envelope whose content passes while its window is open is accepted then. -/
theorem verifyTransportEnvelope_carried (hcarried : content.Carried C)
    (hsign : sign C (content.body C) key = .ok envelope) {expectedKeyId : String}
    (hkeyId : keyIdOf expectedKeyId = .ok content.keyId) {observedAt : DateTime}
    {observed : Timestamp} (hobserved : utc observedAt = .ok observed)
    (hcreated : content.created ≤ observed) (hexpires : observed < content.expires) :
    ∃ verified, verifyTransportEnvelope C envelope key expectedKeyId observedAt =
      .ok verified := by
  obtain ⟨approved, happroved, hbound⟩ :=
    hcarried.handoff observed (inUtc_inRange hobserved) hcreated hexpires
  obtain ⟨attested, originKeyId, source, horigin, horiginKeyId, hsource, hsome⟩ :=
    checkSourceOf_sign hcarried hsign hexpires
  have hget : ∀ {name : String} {value : Json}, (content.body C).lookup name = some value →
      envelope.get name = value := fun h => get_sign hsign h
  have hitem : ∀ {name text : String}, (content.body C).lookup name = some (.str text) →
      item envelope name = .ok text := fun h => item_sign hsign h
  have hpurpose : envelope.get "purpose" = .str transportPurpose := hget rfl
  have hkey : envelope.get "key_id" = .str content.keyId := hget rfl
  have hnonce : envelope.get "transport_nonce" = .str content.nonce := hget rfl
  have hfields : checkFields envelope "transport " [("intent_id", approved.intentId),
      ("prediction_id", approved.predictionId), ("paper_order_id", approved.paperOrderId),
      ("request_sha256", approved.requestSha256)] = .ok () := by
    have hintent : approved.intentId = content.bound.intentId := congrArg Bound.intentId hbound
    have hprediction : approved.predictionId = content.bound.predictionId :=
      congrArg Bound.predictionId hbound
    have horder : approved.paperOrderId = content.bound.paperOrderId :=
      congrArg Bound.paperOrderId hbound
    have hrequest : approved.requestSha256 = content.bound.requestSha256 :=
      congrArg Bound.requestSha256 hbound
    rw [checkFields_eq_ok, hintent, hprediction, horder, hrequest]
    have htext : ∀ {name text : String}, (content.body C).lookup name = some (.str text) →
        (envelope.get name).textOrEmpty = text := by
      intro name text h
      rw [hget h, Json.textOrEmpty_str]
    simp only [List.forall_mem_cons, List.not_mem_nil, false_imp_iff, implies_true, and_true]
    exact ⟨htext rfl, htext rfl, htext rfl, htext rfl⟩
  have hprepared : item envelope "prepared_sha256" = .ok content.bound.preparedSha256 := hitem rfl
  have happroval : item envelope "approval_sha256" = .ok content.bound.approvalSha256 := hitem rfl
  have hsourceSha : item envelope "approval_source_sha256" =
      .ok content.bound.approvalSourceSha256 := hitem rfl
  have hkeyItem : item envelope "key_id" = .ok content.keyId := hitem rfl
  simp only [verifyTransportEnvelope, hobserved, ok_bind, schemaOf_sign hsign,
    check_true (hasKeys_sign hsign), hpurpose, Json.isStr_str, decide_true, check_true, hkeyId, hkey,
    hnonce, Json.textOrEmpty_str, checkMac_sign hsign, documentsOf_sign hcarried.approvalKeys hsign,
    checkHashes_sign hcarried hsign, windowOf_sign hcarried hsign hcreated hexpires, happroved,
    hfields, hprepared, happroval, hsourceSha, hbound, horigin, hsource, hcarried.nonce,
    checkDigests_sign hcarried hsign, hkeyItem, horiginKeyId]
  cases hcase : source with
  | none => exact ⟨_, rfl⟩
  | some copied =>
    rw [hcase] at hsome
    obtain ⟨document, hdocument⟩ := Option.isSome_iff_exists.mp hsome.symm
    have hsha : item envelope "source_truth_authorization_sha256" =
        .ok (C.payloadSha256 document) := by
      refine hitem ?_
      unfold Content.body
      rw [hdocument]
      rfl
    simp only [hsha, ok_bind]
    exact ⟨_, rfl⟩

end Carried

end BpEngine.TelegramTransport
