import BpEngine.Execution.ExecutionPackage

/-!
# Execution packages are bound end to end

* `Verified` is what the checks of an accepted package establish; `Verified.endToEnd` draws from it that
  the documents belong to one intent, one request and one ticket that has not expired.
* `receiptBinding` are the texts that both receipts must have; they come from the claim and the manifest.
* `package_bound`: an accepted package is bound, and a package with another payload file, another
  manifest or a receipt with another text in a bound field is rejected, as long as SHA-256 tells the two
  contents apart.
-/

namespace BpEngine.ExecutionPackage

/-- The text under a name. -/
def textAt (d : Dict) (name : String) : String := (d.get name).textOrEmpty

theorem textAt_of_lookup {d : Dict} {name s : String} (h : d.lookup name = some (.str s)) :
    textAt d name = s := by
  unfold textAt Dict.get
  rw [h]
  exact Json.textOrEmpty_str s

/-- Payloads that pass share one text under each name. -/
theorem requireSame_eq_ok {payloads : List Dict} {fields : List String} {u : Unit}
    (h : requireSame payloads fields = .ok u) : ∀ name ∈ fields, ∃ value, value ≠ "" ∧
      ∀ payload ∈ payloads, textAt payload name = value := by
  intro name hname
  have hcheck := check_eq_ok.mp (forM_eq_ok.mp h name hname)
  rw [not_or, not_not] at hcheck
  obtain ⟨hempty, hlength⟩ := hcheck
  obtain ⟨value, hvalue⟩ := List.length_eq_one_iff.mp hlength
  have hmem : ∀ payload ∈ payloads, textAt payload name = value := by
    intro payload hpayload
    have hdedup := List.mem_dedup.mpr
      (List.mem_map_of_mem (f := fun payload : Dict => (payload.get name).textOrEmpty) hpayload)
    rw [hvalue] at hdedup
    exact List.mem_singleton.mp hdedup
  refine ⟨value, ?_, hmem⟩
  rintro rfl
  exact hempty (hvalue ▸ List.mem_singleton_self "")

/-! ## What the checks establish -/

/-- What the checks of an accepted package establish; `fresh` is the report that is made from the ready
bundle. -/
structure Verified (C : PackageCrypto) (input : PackageInput) (docs : PackageDocuments)
    (observed : Timestamp) (fresh : Dict) : Prop where
  manifest : verifyManifest C input docs.manifest = .ok ()
  receipt : verifyReceipt docs.receipt "package receipt" (C.payloadSha256 docs.manifest) = .ok ()
  processed : verifyReceipt docs.processed "processed receipt" (C.payloadSha256 docs.manifest) = .ok ()
  handoff : textAt docs.processed "handoff_dir" = input.path
  snapshot : PreExecution.verifyPreExecutionSnapshot C.toCrypto docs.preExecution docs.ready = .ok fresh
  ticket : DispatchTicket.verifyDispatchTicketAgainstReport C.toCrypto docs.ticket fresh docs.ready
    (utcDateTime observed) = .ok docs.ticket
  bindings : verifyBindings docs fresh docs.ticket = .ok ()
  prepared : verifyPrepared C docs fresh = .ok ()

theorem converted_eq_ok {α : Type} {x : Outcome α} {a : α} (h : converted x = .ok a) : x = .ok a := by
  unfold converted at h
  split at h
  · exact h
  · split_ifs at h
    exact absurd h raise_ne_ok

section Package

variable {C : PackageCrypto} {input : PackageInput} {docs : PackageDocuments} {observed : Timestamp}
  {fresh result : Dict}

theorem verifyDocuments_eq_ok (h : verifyDocuments C input docs observed = .ok result) :
    ∃ fresh, Verified C input docs observed fresh := by
  simp only [verifyDocuments, verifyAuthorization, bind_eq_ok, check_eq_ok] at h
  obtain ⟨_, hmanifest, _, hreceipt, _, hprocessed, _, hhandoff, ⟨fresh, ticket⟩, hauthorization, _, -,
    _, hbindings, _, hprepared, -⟩ := h
  obtain ⟨report, hreport, verified, hverified, hpair⟩ := by
    simpa only [bind_eq_ok] using converted_eq_ok hauthorization
  obtain ⟨rfl, rfl⟩ := Prod.mk.inj (Except.ok.inj hpair)
  obtain ⟨rfl, -⟩ := DispatchTicket.verifyDispatchTicketAgainstReport_eq_ok hverified
  exact ⟨report, hmanifest, hreceipt, hprocessed, hhandoff, hreport, hverified, hbindings, hprepared⟩

theorem verifyReceipt_eq_ok {receipt : Dict} {label manifestSha256 : String} {u : Unit}
    (h : verifyReceipt receipt label manifestSha256 = .ok u) :
    textAt receipt "package_manifest_sha256" = manifestSha256 := by
  simp only [verifyReceipt, bind_eq_ok, check_eq_ok] at h
  obtain ⟨-, -, -, -, -, -, -, -, hmanifest⟩ := h
  exact hmanifest

/-- The equalities between the documents, each with its text. -/
structure Bindings (docs : PackageDocuments) (fresh checked : Dict) : Prop where
  shared : ∀ name ∈ sharedFields, ∃ value, value ≠ "" ∧
    ∀ d ∈ [docs.ready, fresh, checked, docs.claim, docs.receipt, docs.processed],
      textAt d name = value
  report : ∀ name ∈ ["source_truth_sha256", "authorization_report_sha256"], ∃ value, value ≠ "" ∧
    ∀ d ∈ [fresh, checked, docs.claim, docs.receipt, docs.processed], textAt d name = value
  ticket : ∀ name ∈ ["dispatch_ticket_sha256", "expires_at"], ∃ value, value ≠ "" ∧
    ∀ d ∈ [checked, docs.claim, docs.receipt, docs.processed], textAt d name = value
  manifest : ∀ name ∈ ["intent_id", "request_sha256", "expires_at"], ∃ value, value ≠ "" ∧
    ∀ d ∈ [docs.manifest, checked, docs.receipt, docs.processed], textAt d name = value
  receiptClaim : textAt docs.receipt "dispatch_claim_sha256" = textAt docs.claim "claim_sha256"
  processedClaim : textAt docs.processed "dispatch_claim_sha256" = textAt docs.claim "claim_sha256"

theorem verifyBindings_eq_ok {ticket : Dict} {u : Unit}
    (h : verifyBindings docs fresh ticket = .ok u) : Bindings docs fresh ticket := by
  simp only [verifyBindings, bind_eq_ok, check_eq_ok] at h
  obtain ⟨_, hshared, _, hsource, _, -, _, hreport, _, hticket, _, hmanifest, _, hreceipt,
    hprocessed⟩ := h
  exact {
    shared := requireSame_eq_ok hshared
    report := by
      intro name hname
      rcases List.mem_cons.mp hname with rfl | hname
      · exact requireSame_eq_ok hsource _ List.mem_cons_self
      · exact requireSame_eq_ok hreport _ hname
    ticket := requireSame_eq_ok hticket
    manifest := requireSame_eq_ok hmanifest
    receiptClaim := hreceipt
    processedClaim := hprocessed }

end Package

/-! ## One intent, one request, one ticket -/

/-- The documents of a package, and the processed receipt. -/
def PackageDocuments.all (docs : PackageDocuments) : List Dict :=
  [docs.prepared, docs.approval, docs.ready, docs.preExecution, docs.ticket, docs.claim, docs.manifest,
    docs.receipt, docs.processed]

/-- The documents that name the hash of the request; the prepared payload has the request itself. -/
def PackageDocuments.requested (docs : PackageDocuments) : List Dict :=
  [docs.approval, docs.ready, docs.preExecution, docs.ticket, docs.claim, docs.manifest, docs.receipt,
    docs.processed]

/-- The documents that name the prediction and the paper order. -/
def PackageDocuments.ordered (docs : PackageDocuments) : List Dict :=
  [docs.prepared, docs.ready, docs.preExecution, docs.ticket, docs.claim, docs.receipt, docs.processed]

/-- The ticket is the one that is made from the report of the ready bundle, which the stored report
equals, and it is open. -/
def OpenTicket (C : PackageCrypto) (docs : PackageDocuments) (observed : Timestamp) : Prop :=
  ∃ report created ticket expires,
    PreExecution.evaluateSignedPreExecutionAuthorization C.toCrypto docs.ready = .ok report ∧
    Dict.equal docs.preExecution report = true ∧
    DispatchTicket.parseTimestamp docs.ticket "created_at" = .ok created ∧
    DispatchTicket.createDispatchTicket C.toCrypto report (utcDateTime created) = .ok ticket ∧
    Dict.equal docs.ticket ticket = true ∧
    DispatchTicket.parseTimestamp docs.ticket "expires_at" = .ok expires ∧
    observed < expires ∧
    (∃ time, DispatchTicket.parseTimestamp docs.preExecution "origin_expires_at" = .ok time ∧
      expires ≤ time) ∧
    (docs.preExecution.has "source_truth_expires_at" = true → ∃ time,
      DispatchTicket.parseTimestamp docs.preExecution "source_truth_expires_at" = .ok time ∧
        expires ≤ time)

/-- The documents belong together. -/
structure EndToEnd (C : PackageCrypto) (docs : PackageDocuments) (observed : Timestamp) : Prop where
  intent : ∃ intent, intent ≠ "" ∧ ∀ d ∈ docs.all, textAt d "intent_id" = intent
  request : ∃ request content, request ≠ "" ∧
    (∀ d ∈ docs.requested, textAt d "request_sha256" = request) ∧
    docs.prepared.get "request" = .obj content ∧ C.payloadSha256 content = request
  order : ∀ name ∈ ["prediction_id", "paper_order_id"], ∃ value, value ≠ "" ∧
    ∀ d ∈ docs.ordered, textAt d name = value
  ticket : OpenTicket C docs observed

section EndToEnd

variable {C : PackageCrypto} {input : PackageInput} {docs : PackageDocuments} {observed : Timestamp}
  {fresh : Dict}

theorem sharedFields_ready : ∀ name ∈ sharedFields,
    name ∈ PreExecution.readyFields ++ PreExecution.sourceTruthFields := by decide

/-- A text of the ready bundle that report, ticket, claim and receipts share. -/
theorem Verified.shared (h : Verified C input docs observed fresh) {name : String}
    (hname : name ∈ sharedFields) : ∃ value, value ≠ "" ∧ (fresh.get name).text = value ∧
      ∀ d ∈ [docs.ready, docs.preExecution, docs.ticket, docs.claim, docs.receipt, docs.processed],
        textAt d name = value := by
  obtain ⟨hfresh, hequal⟩ := PreExecution.verifyPreExecutionSnapshot_eq_ok h.snapshot
  obtain ⟨value, hne, hvalue⟩ := (verifyBindings_eq_ok h.bindings).shared name hname
  have hready : textAt docs.ready name = value := hvalue _ List.mem_cons_self
  have hlookup : fresh.lookup name = some (.str value) := by
    rw [PreExecution.lookup_of_evaluateSigned hfresh (sharedFields_ready name hname), ← hready]
    rfl
  have hstored : textAt docs.preExecution name = value :=
    textAt_of_lookup (Dict.lookup_of_equal hequal hlookup)
  refine ⟨value, hne, ?_, ?_⟩
  · rw [Dict.get, hlookup]
    rfl
  · simp only [List.forall_mem_cons, List.not_mem_nil, false_implies, implies_true, and_true] at hvalue ⊢
    obtain ⟨-, -, hticket, hclaim, hreceipt, hprocessed⟩ := hvalue
    exact ⟨hready, hstored, hticket, hclaim, hreceipt, hprocessed⟩

/-- What the manifest names is what the ticket names. -/
theorem Verified.manifest_text (h : Verified C input docs observed fresh) {name value : String}
    (hname : name ∈ ["intent_id", "request_sha256", "expires_at"])
    (hticket : textAt docs.ticket name = value) : textAt docs.manifest name = value := by
  obtain ⟨other, -, hother⟩ := (verifyBindings_eq_ok h.bindings).manifest name hname
  have hmanifest := hother docs.manifest (by simp)
  rw [hmanifest, ← hother docs.ticket (by simp), hticket]

/-- The prepared payload and the approval name what the report names. -/
theorem verifyPrepared_eq_ok {u : Unit} (h : verifyPrepared C docs fresh = .ok u) :
    (∃ content, docs.prepared.get "request" = .obj content ∧
      C.payloadSha256 content = (fresh.get "request_sha256").text) ∧
    (∀ name ∈ ["intent_id", "prediction_id", "paper_order_id"],
      textAt docs.prepared name = (fresh.get name).text) ∧
    ∀ name ∈ ["intent_id", "request_sha256"], textAt docs.approval name = (fresh.get name).text := by
  simp only [verifyPrepared, bind_eq_ok, check_eq_ok, forM_eq_ok] at h
  obtain ⟨_, -, _, -, content, hcontent, _, hrequest, _, hprepared, happroval⟩ := h
  exact ⟨⟨content, requireMapping_eq_ok hcontent, hrequest⟩, hprepared, happroval⟩

/-- The ticket of an accepted package is open. -/
theorem Verified.openTicket (hobserved : IsoTime.InRange observed)
    (h : Verified C input docs observed fresh) : OpenTicket C docs observed := by
  obtain ⟨hfresh, hequal⟩ := PreExecution.verifyPreExecutionSnapshot_eq_ok h.snapshot
  obtain ⟨-, hvalid, report, created, ticket, hreport, hcreated, hticket, hsame⟩ :=
    DispatchTicket.verifyDispatchTicketAgainstReport_eq_ok h.ticket
  obtain ⟨hagain, -⟩ := PreExecution.verifyPreExecutionSnapshot_eq_ok hreport
  obtain rfl := Except.ok.inj (hfresh.symm.trans hagain)
  obtain ⟨-, time, expires, htime, hexpires, hopen⟩ := DispatchTicket.verifyDispatchTicket_eq_ok hvalid
  obtain rfl := Except.ok.inj ((inUtc_utcDateTime hobserved).symm.trans htime)
  obtain ⟨made, until', -, issued⟩ := DispatchTicket.createDispatchTicket_eq_ok hticket
  have huntil : DispatchTicket.parseTimestamp docs.ticket "expires_at" = .ok until' :=
    DispatchTicket.parseTimestamp_isoformat (Dict.lookup_of_equal hsame issued.expiresAt)
      issued.inRange
  obtain rfl := Except.ok.inj (hexpires.symm.trans huntil)
  have hstored : ∀ name ∈ PreExecution.readyFields ++ PreExecution.sourceTruthFields,
      docs.preExecution.lookup name = fresh.lookup name := by
    intro name hname
    have hlookup := PreExecution.lookup_of_evaluateSigned hfresh hname
    rw [hlookup, Dict.lookup_of_equal hequal hlookup]
  refine ⟨fresh, created, ticket, expires, hfresh, hequal, hcreated, hticket, hsame, hexpires, hopen,
    ?_, fun hhas => ?_⟩
  · rw [DispatchTicket.parseTimestamp_congr (hstored "origin_expires_at" (by decide))]
    exact issued.origin
  · rw [DispatchTicket.parseTimestamp_congr (hstored "source_truth_expires_at" (by decide))]
    refine issued.sourceTruth ?_
    rw [Dict.has, ← hstored "source_truth_expires_at" (by decide)]
    exact hhas

/-- **The documents of an accepted package belong together.** -/
theorem Verified.endToEnd (hobserved : IsoTime.InRange observed)
    (h : Verified C input docs observed fresh) : EndToEnd C docs observed := by
  obtain ⟨⟨content, hcontent, hrequest⟩, hprepared, happroval⟩ := verifyPrepared_eq_ok h.prepared
  refine ⟨?_, ?_, ?_, h.openTicket hobserved⟩
  · have hid : "intent_id" ∈ sharedFields := by decide
    obtain ⟨intent, hne, hreport, hall⟩ := h.shared hid
    have hmanifest := h.manifest_text (by decide) (hall docs.ticket (by simp))
    refine ⟨intent, hne, ?_⟩
    have hfirst : textAt docs.prepared "intent_id" = intent :=
      (hprepared "intent_id" (by simp)).trans hreport
    have hsecond : textAt docs.approval "intent_id" = intent :=
      (happroval "intent_id" (by simp)).trans hreport
    simp only [PackageDocuments.all, List.forall_mem_cons] at hall ⊢
    exact ⟨hfirst, hsecond, hall.1, hall.2.1, hall.2.2.1, hall.2.2.2.1, hmanifest, hall.2.2.2.2⟩
  · have hid : "request_sha256" ∈ sharedFields := by decide
    obtain ⟨request, hne, hreport, hall⟩ := h.shared hid
    have hmanifest := h.manifest_text (by decide) (hall docs.ticket (by simp))
    refine ⟨request, content, hne, ?_, hcontent, hrequest.trans hreport⟩
    have hsecond : textAt docs.approval "request_sha256" = request :=
      (happroval "request_sha256" (by simp)).trans hreport
    simp only [PackageDocuments.requested, List.forall_mem_cons] at hall ⊢
    exact ⟨hsecond, hall.1, hall.2.1, hall.2.2.1, hall.2.2.2.1, hmanifest, hall.2.2.2.2⟩
  · intro name hname
    have hids : ∀ name ∈ ["prediction_id", "paper_order_id"], name ∈ sharedFields ∧
        name ∈ ["intent_id", "prediction_id", "paper_order_id"] := by decide
    obtain ⟨hshared, hid⟩ := hids name hname
    obtain ⟨value, hne, hreport, hall⟩ := h.shared hshared
    refine ⟨value, hne, ?_⟩
    rw [PackageDocuments.ordered, List.forall_mem_cons]
    exact ⟨(hprepared name hid).trans hreport, hall⟩

end EndToEnd

/-! ## Documents that were read -/

/-- The documents in the directory, by the names of their files. -/
def PackageDocuments.stored (docs : PackageDocuments) : List (String × Dict) :=
  [("prepared.json", docs.prepared), ("approval.json", docs.approval),
    ("ready-verification.json", docs.ready), ("pre-execution.json", docs.preExecution),
    ("dispatch-ticket.json", docs.ticket), ("dispatch-claim.json", docs.claim),
    ("package-manifest.json", docs.manifest), ("receipt.json", docs.receipt)]

/-- The file has this document in it. -/
def Holds (C : PackageCrypto) (file : Option StoredFile) (d : Dict) : Prop :=
  ∃ found, file = some found ∧ C.load found.content = .ok (.obj d)

section Reading

variable {C : PackageCrypto} {input : PackageInput} {docs : PackageDocuments} {ownerUid : ℤ}

theorem parsed_eq_ok {content : List UInt8} {label : String} {value : Json}
    (h : parsed C content label = .ok value) : C.load content = .ok value := by
  unfold parsed at h
  split at h
  · rw [← h]
    assumption
  · split_ifs at h
    exact absurd h raise_ne_ok

theorem loadJson_eq_ok {file : Option StoredFile} {label : String} {d : Dict}
    (h : loadJson C file label ownerUid = .ok d) : Holds C file d := by
  cases file with
  | none => exact absurd h raise_ne_ok
  | some file =>
    simp only [loadJson, bind_eq_ok, check_eq_ok] at h
    obtain ⟨-, -, -, -, -, -, -, -, value, hvalue, hmapping⟩ := h
    obtain rfl := requireMapping_eq_ok hmapping
    exact ⟨file, rfl, parsed_eq_ok hvalue⟩

/-- A file holds one document. -/
theorem Holds.eq {file : Option StoredFile} {d d' : Dict} (h : Holds C file d)
    (h' : Holds C file d') : d = d' := by
  obtain ⟨found, rfl, hd⟩ := h
  obtain ⟨other, hother, hd'⟩ := h'
  obtain rfl := Option.some.inj hother
  exact Json.obj.inj (Except.ok.inj (hd.symm.trans hd'))

/-- Each document is in its file. -/
theorem readPackage_eq_ok (h : readPackage C input ownerUid = .ok docs) :
    (∀ entry ∈ docs.stored, Holds C (input.file entry.1) entry.2) ∧
      Holds C input.processed docs.processed := by
  simp only [readPackage, bind_eq_ok] at h
  obtain ⟨_, -, prepared, hprepared, approval, happroval, ready, hready, preExecution, hpreExecution,
    ticket, hticket, claim, hclaim, manifest, hmanifest, receipt, hreceipt, processed, hprocessed,
    hdocs⟩ := h
  obtain rfl := Except.ok.inj hdocs
  refine ⟨?_, loadJson_eq_ok hprocessed⟩
  simp only [PackageDocuments.stored, List.forall_mem_cons, List.not_mem_nil, false_implies,
    implies_true, and_true]
  exact ⟨loadJson_eq_ok hprepared, loadJson_eq_ok happroval, loadJson_eq_ok hready,
    loadJson_eq_ok hpreExecution, loadJson_eq_ok hticket, loadJson_eq_ok hclaim,
    loadJson_eq_ok hmanifest, loadJson_eq_ok hreceipt⟩

end Reading

/-! ## Replaced contents -/

/-- The content of a file of the directory is replaced. -/
def PackageInput.withContent (input : PackageInput) (name : String) (content : List UInt8) :
    PackageInput :=
  { input with
    directory := input.directory.map fun directory =>
      { directory with
        files := match directory.files.get? name with
          | none => directory.files
          | some file => directory.files.set name { file with content } } }

/-- The content of the processed receipt is replaced. -/
def PackageInput.withProcessed (input : PackageInput) (content : List UInt8) : PackageInput :=
  { input with processed := input.processed.map fun file => { file with content } }

theorem file_withContent (input : PackageInput) (name other : String) (content : List UInt8) :
    (input.withContent name content).file other =
      if name = other then (input.file name).map fun file => { file with content }
      else input.file other := by
  unfold PackageInput.file PackageInput.withContent
  cases input.directory with
  | none => simp
  | some directory =>
    simp only [Option.map_some, Option.bind_some]
    cases hfile : directory.files.get? name with
    | none =>
      split_ifs with hname
      · rw [← hname, hfile]
        rfl
      · rfl
    | some file => rw [OrderedDict.get?_set, Option.map_some]

theorem file_withContent_of_ne (input : PackageInput) {name other : String} (content : List UInt8)
    (h : ¬ name = other) : (input.withContent name content).file other = input.file other := by
  rw [file_withContent, if_neg h]

/-- Not accepted at any time, for any owner. -/
def Rejected (C : PackageCrypto) (input : PackageInput) : Prop :=
  ∀ observedAt ownerUid result,
    ¬ verifyExecutionAuthorizationPackage C input observedAt ownerUid = .ok result

section Replaced

variable {C : PackageCrypto} {input other : PackageInput} {docs docs' : PackageDocuments}
  {observed observed' : Timestamp} {fresh fresh' : Dict}

theorem verify_eq_ok {observedAt : DateTime} {ownerUid : ℤ} {result : Dict}
    (h : verifyExecutionAuthorizationPackage C input observedAt ownerUid = .ok result) :
    ∃ observed docs fresh, utc observedAt = .ok observed ∧
      readPackage C input ownerUid = .ok docs ∧ Verified C input docs observed fresh := by
  simp only [verifyExecutionAuthorizationPackage, bind_eq_ok] at h
  obtain ⟨observed, hobserved, docs, hdocs, hresult⟩ := h
  obtain ⟨fresh, hverified⟩ := verifyDocuments_eq_ok hresult
  exact ⟨observed, docs, fresh, hobserved, hdocs, hverified⟩

/-- The manifest has the hash of each payload file. -/
theorem verifyManifest_eq_ok {manifest : Dict} {u : Unit}
    (h : verifyManifest C input manifest = .ok u) : ∃ files : Dict, manifest.get "files" = .obj files ∧
      ∀ name ∈ packagePayloadFiles, ∃ metadata file, files.get name = .obj metadata ∧
        input.file name = some file ∧
        (C.sha256 (C.raw file.content)).1 = textAt metadata "sha256" := by
  simp only [verifyManifest, bind_eq_ok, check_eq_ok, forM_eq_ok] at h
  obtain ⟨_, -, _, -, _, -, _, -, files, hfiles, _, -, hchecked⟩ := h
  refine ⟨files, requireMapping_eq_ok hfiles, fun name hname => ?_⟩
  have hcheck := hchecked name hname
  simp only [verifyManifestFile, bind_eq_ok, check_eq_ok] at hcheck
  obtain ⟨metadata, hmetadata, _, -, hfile⟩ := hcheck
  cases hfound : input.file name with
  | none =>
    rw [hfound] at hfile
    exact absurd hfile raise_ne_ok
  | some file =>
    simp only [hfound, bind_eq_ok, check_eq_ok] at hfile
    obtain ⟨_, hhash, -⟩ := hfile
    exact ⟨metadata, file, requireMapping_eq_ok hmetadata, rfl, hhash⟩

/-- Payload files that pass under one manifest have the same hash. -/
theorem sha256_eq_of_manifest {manifest : Dict} (h : verifyManifest C input manifest = .ok ())
    (h' : verifyManifest C other manifest = .ok ()) {name : String}
    (hname : name ∈ packagePayloadFiles) {file file' : StoredFile}
    (hfile : input.file name = some file) (hfile' : other.file name = some file') :
    C.sha256 (C.raw file.content) = C.sha256 (C.raw file'.content) := by
  obtain ⟨files, hfiles, hlisted⟩ := verifyManifest_eq_ok h
  obtain ⟨files', hfiles', hlisted'⟩ := verifyManifest_eq_ok h'
  obtain rfl := Json.obj.inj (hfiles.symm.trans hfiles')
  obtain ⟨metadata, found, hmetadata, hfound, hhash⟩ := hlisted name hname
  obtain ⟨metadata', found', hmetadata', hfound', hhash'⟩ := hlisted' name hname
  obtain rfl := Json.obj.inj (hmetadata.symm.trans hmetadata')
  obtain rfl := Option.some.inj (hfile.symm.trans hfound)
  obtain rfl := Option.some.inj (hfile'.symm.trans hfound')
  exact Subtype.ext (hhash.trans hhash'.symm)

/-- The fields of the claim that both receipts repeat. -/
def claimFields : List String :=
  sharedFields ++
    ["source_truth_sha256", "authorization_report_sha256", "dispatch_ticket_sha256", "expires_at"]

/-- The bound fields of a receipt. -/
def receiptBoundFields : List String :=
  claimFields ++ ["dispatch_claim_sha256", "package_manifest_sha256"]

/-- The bound fields of the processed receipt. -/
def processedBoundFields : List String := receiptBoundFields ++ ["handoff_dir"]

/-- The texts that both receipts must have. -/
def receiptBinding (C : PackageCrypto) (claim manifest : Dict) : List (String × String) :=
  (claimFields.map fun name => (name, textAt claim name)) ++
    [("dispatch_claim_sha256", textAt claim "claim_sha256"),
      ("package_manifest_sha256", C.payloadSha256 manifest)]

/-- Each bound field has its text. -/
theorem exists_binding (C : PackageCrypto) (claim manifest : Dict) {name : String}
    (hname : name ∈ receiptBoundFields) :
    ∃ binding ∈ receiptBinding C claim manifest, binding.1 = name := by
  have hnames : (receiptBinding C claim manifest).map Prod.fst = receiptBoundFields := by
    simp [receiptBinding, receiptBoundFields, Function.comp_def]
  rw [← hnames] at hname
  exact List.mem_map.mp hname

/-- **The receipts repeat the claim and name the manifest.** -/
theorem Verified.receipts (h : Verified C input docs observed fresh) :
    ∀ binding ∈ receiptBinding C docs.claim docs.manifest,
      textAt docs.receipt binding.1 = binding.2 ∧ textAt docs.processed binding.1 = binding.2 := by
  have hbound := verifyBindings_eq_ok h.bindings
  have hclaim : ∀ name ∈ claimFields, textAt docs.receipt name = textAt docs.claim name ∧
      textAt docs.processed name = textAt docs.claim name := by
    intro name hname
    have hgroup : ∃ value, ∀ d ∈ [docs.claim, docs.receipt, docs.processed],
        textAt d name = value := by
      have hcases : name ∈ sharedFields ∨
          name ∈ ["source_truth_sha256", "authorization_report_sha256"] ∨
          name ∈ ["dispatch_ticket_sha256", "expires_at"] := by
        simpa [claimFields, or_assoc] using hname
      rcases hcases with hname | hname | hname
      · obtain ⟨value, -, hvalue⟩ := hbound.shared name hname
        exact ⟨value, fun d hd => hvalue d (by simp at hd ⊢; tauto)⟩
      · obtain ⟨value, -, hvalue⟩ := hbound.report name hname
        exact ⟨value, fun d hd => hvalue d (by simp at hd ⊢; tauto)⟩
      · obtain ⟨value, -, hvalue⟩ := hbound.ticket name hname
        exact ⟨value, fun d hd => hvalue d (by simp at hd ⊢; tauto)⟩
    obtain ⟨value, hvalue⟩ := hgroup
    have hfirst := hvalue docs.claim (by simp)
    exact ⟨(hvalue docs.receipt (by simp)).trans hfirst.symm,
      (hvalue docs.processed (by simp)).trans hfirst.symm⟩
  intro binding hbinding
  rcases List.mem_append.mp hbinding with hbinding | hbinding
  · obtain ⟨name, hname, rfl⟩ := List.mem_map.mp hbinding
    exact hclaim name hname
  · simp only [List.mem_cons, List.not_mem_nil, or_false] at hbinding
    rcases hbinding with rfl | rfl
    · exact ⟨hbound.receiptClaim, hbound.processedClaim⟩
    · exact ⟨verifyReceipt_eq_ok h.receipt, verifyReceipt_eq_ok h.processed⟩

/-- A document whose file is the same is the same. -/
theorem stored_eq {ownerUid ownerUid' : ℤ} (h : readPackage C input ownerUid = .ok docs)
    (h' : readPackage C other ownerUid' = .ok docs') {name : String} {d d' : Dict}
    (hd : (name, d) ∈ docs.stored) (hd' : (name, d') ∈ docs'.stored)
    (hfile : other.file name = input.file name) : d' = d := by
  have hholds := (readPackage_eq_ok h').1 _ hd'
  rw [hfile] at hholds
  exact hholds.eq ((readPackage_eq_ok h).1 _ hd)

theorem manifest_eq {ownerUid ownerUid' : ℤ} (h : readPackage C input ownerUid = .ok docs)
    (h' : readPackage C other ownerUid' = .ok docs')
    (hfile : other.file "package-manifest.json" = input.file "package-manifest.json") :
    docs'.manifest = docs.manifest :=
  stored_eq h h' (by simp [PackageDocuments.stored]) (by simp [PackageDocuments.stored]) hfile

theorem claim_eq {ownerUid ownerUid' : ℤ} (h : readPackage C input ownerUid = .ok docs)
    (h' : readPackage C other ownerUid' = .ok docs')
    (hfile : other.file "dispatch-claim.json" = input.file "dispatch-claim.json") :
    docs'.claim = docs.claim :=
  stored_eq h h' (by simp [PackageDocuments.stored]) (by simp [PackageDocuments.stored]) hfile

theorem receipt_eq {ownerUid ownerUid' : ℤ} (h : readPackage C input ownerUid = .ok docs)
    (h' : readPackage C other ownerUid' = .ok docs')
    (hfile : other.file "receipt.json" = input.file "receipt.json") :
    docs'.receipt = docs.receipt :=
  stored_eq h h' (by simp [PackageDocuments.stored]) (by simp [PackageDocuments.stored]) hfile

end Replaced

/-! ## The seal -/

/-- No other content passes in one of the files: another payload, another manifest, a receipt or a
processed receipt with another text in a bound field.  SHA-256 is asked to tell the two contents
apart. -/
structure Sealed (C : PackageCrypto) (input : PackageInput) (docs : PackageDocuments) : Prop where
  payload : ∀ name ∈ packagePayloadFiles, ∀ file content, input.file name = some file →
    content ≠ file.content → Set.InjOn C.sha256 {C.raw file.content, C.raw content} →
    Rejected C (input.withContent name content)
  manifest : ∀ content manifest, C.load content = .ok (.obj manifest) →
    ¬ Dict.Same docs.manifest manifest →
    Set.InjOn C.sha256 {C.canonical docs.manifest, C.canonical manifest} →
    Rejected C (input.withContent "package-manifest.json" content)
  receipt : ∀ name ∈ receiptBoundFields, ∀ content receipt, C.load content = .ok (.obj receipt) →
    textAt receipt name ≠ textAt docs.receipt name →
    Rejected C (input.withContent "receipt.json" content)
  processed : ∀ name ∈ processedBoundFields, ∀ content receipt,
    C.load content = .ok (.obj receipt) → textAt receipt name ≠ textAt docs.processed name →
    Rejected C (input.withProcessed content)

section Seal

variable {C : PackageCrypto} {input : PackageInput} {docs : PackageDocuments} {observed : Timestamp}
  {fresh : Dict} {ownerUid : ℤ}

/-- The document in a file whose content was replaced. -/
theorem load_withContent {other : PackageDocuments} {name : String} {content : List UInt8}
    {d d' : Dict} {uid : ℤ} (h : readPackage C (input.withContent name content) uid = .ok other)
    (hd : (name, d) ∈ other.stored) (hload : C.load content = .ok (.obj d')) : d = d' := by
  obtain ⟨found, hfound, hcontent⟩ := (readPackage_eq_ok h).1 _ hd
  rw [file_withContent, if_pos rfl, Option.map_eq_some_iff] at hfound
  obtain ⟨file, -, rfl⟩ := hfound
  exact Json.obj.inj (Except.ok.inj (hcontent.symm.trans hload))

theorem Verified.payload_rejected (hread : readPackage C input ownerUid = .ok docs)
    (h : Verified C input docs observed fresh) {name : String} (hname : name ∈ packagePayloadFiles)
    {file : StoredFile} {content : List UInt8} (hfile : input.file name = some file)
    (hne : content ≠ file.content)
    (hinj : Set.InjOn C.sha256 {C.raw file.content, C.raw content}) :
    Rejected C (input.withContent name content) := by
  intro observedAt uid result hresult
  obtain ⟨time, other, report, -, hother, hverified⟩ := verify_eq_ok hresult
  have hmanifest : other.manifest = docs.manifest := by
    refine manifest_eq hread hother (file_withContent_of_ne input content ?_)
    rintro rfl
    exact absurd hname (by decide)
  have hnew : (input.withContent name content).file name = some { file with content } := by
    rw [file_withContent, if_pos rfl, hfile]
    rfl
  have hcheck := hverified.manifest
  rw [hmanifest] at hcheck
  have hsame := sha256_eq_of_manifest h.manifest hcheck hname hfile hnew
  exact hne (C.raw_injective (hinj (by simp) (by simp) hsame)).symm

theorem Verified.manifest_rejected (hread : readPackage C input ownerUid = .ok docs)
    (h : Verified C input docs observed fresh) {content : List UInt8} {manifest : Dict}
    (hload : C.load content = .ok (.obj manifest)) (hne : ¬ Dict.Same docs.manifest manifest)
    (hinj : Set.InjOn C.sha256 {C.canonical docs.manifest, C.canonical manifest}) :
    Rejected C (input.withContent "package-manifest.json" content) := by
  intro observedAt uid result hresult
  obtain ⟨time, other, report, -, hother, hverified⟩ := verify_eq_ok hresult
  have hmanifest : other.manifest = manifest :=
    load_withContent hother (by simp [PackageDocuments.stored]) hload
  have hreceipt : other.receipt = docs.receipt :=
    receipt_eq hread hother (file_withContent_of_ne input content (by decide))
  have hnew := verifyReceipt_eq_ok hverified.receipt
  rw [hreceipt, hmanifest, verifyReceipt_eq_ok h.receipt] at hnew
  exact hne (Crypto.canonical_eq.1 (hinj (by simp) (by simp) (Subtype.ext hnew)))

theorem Verified.receipt_rejected (hread : readPackage C input ownerUid = .ok docs)
    (h : Verified C input docs observed fresh) {name : String} (hname : name ∈ receiptBoundFields)
    {content : List UInt8} {receipt : Dict} (hload : C.load content = .ok (.obj receipt))
    (hne : textAt receipt name ≠ textAt docs.receipt name) :
    Rejected C (input.withContent "receipt.json" content) := by
  intro observedAt uid result hresult
  obtain ⟨time, other, report, -, hother, hverified⟩ := verify_eq_ok hresult
  have hreceipt : other.receipt = receipt :=
    load_withContent hother (by simp [PackageDocuments.stored]) hload
  have hclaim : other.claim = docs.claim :=
    claim_eq hread hother (file_withContent_of_ne input content (by decide))
  have hmanifest : other.manifest = docs.manifest :=
    manifest_eq hread hother (file_withContent_of_ne input content (by decide))
  have hnew := hverified.receipts
  rw [hclaim, hmanifest, hreceipt] at hnew
  obtain ⟨binding, hbinding, rfl⟩ := exists_binding C docs.claim docs.manifest hname
  exact hne ((hnew binding hbinding).1.trans (h.receipts binding hbinding).1.symm)

theorem Verified.processed_rejected (hread : readPackage C input ownerUid = .ok docs)
    (h : Verified C input docs observed fresh) {name : String} (hname : name ∈ processedBoundFields)
    {content : List UInt8} {receipt : Dict} (hload : C.load content = .ok (.obj receipt))
    (hne : textAt receipt name ≠ textAt docs.processed name) :
    Rejected C (input.withProcessed content) := by
  intro observedAt uid result hresult
  obtain ⟨time, other, report, -, hother, hverified⟩ := verify_eq_ok hresult
  have hprocessed : other.processed = receipt := by
    obtain ⟨found, hfound, hcontent⟩ := (readPackage_eq_ok hother).2
    rw [PackageInput.withProcessed, Option.map_eq_some_iff] at hfound
    obtain ⟨file, -, rfl⟩ := hfound
    exact Json.obj.inj (Except.ok.inj (hcontent.symm.trans hload))
  rcases List.mem_append.mp hname with hname | hname
  · have hclaim : other.claim = docs.claim := claim_eq hread hother rfl
    have hmanifest : other.manifest = docs.manifest := manifest_eq hread hother rfl
    have hnew := hverified.receipts
    rw [hclaim, hmanifest, hprocessed] at hnew
    obtain ⟨binding, hbinding, rfl⟩ := exists_binding C docs.claim docs.manifest hname
    exact hne ((hnew binding hbinding).2.trans (h.receipts binding hbinding).2.symm)
  · obtain rfl := List.mem_singleton.mp hname
    have hnew := hverified.handoff
    rw [hprocessed] at hnew
    exact hne (hnew.trans h.handoff.symm)

end Seal

/-- **An accepted package is bound end to end, and sealed.** -/
theorem package_bound (C : PackageCrypto) (input : PackageInput) (observedAt : DateTime)
    (ownerUid : ℤ) (result : Dict)
    (h : verifyExecutionAuthorizationPackage C input observedAt ownerUid = .ok result) :
    ∃ observed docs, utc observedAt = .ok observed ∧ readPackage C input ownerUid = .ok docs ∧
      EndToEnd C docs observed ∧ Sealed C input docs := by
  obtain ⟨observed, docs, fresh, hobserved, hread, hverified⟩ := verify_eq_ok h
  refine ⟨observed, docs, hobserved, hread, hverified.endToEnd (inUtc_inRange hobserved), ?_⟩
  exact {
    payload := fun _ hname _ _ hfile hne hinj =>
      hverified.payload_rejected hread hname hfile hne hinj
    manifest := fun _ _ hload hne hinj => hverified.manifest_rejected hread hload hne hinj
    receipt := fun _ hname _ _ hload hne => hverified.receipt_rejected hread hname hload hne
    processed := fun _ hname _ _ hload hne => hverified.processed_rejected hread hname hload hne }

/-! ### A sample package -/

/-- What is hashed on the way. -/
def hashed (C : PackageCrypto) (input : PackageInput) (docs : PackageDocuments) : List C.Encoded :=
  (packagePayloadFiles.filterMap fun name => (input.file name).map fun file => C.raw file.content) ++
    [C.canonical docs.prepared,
      C.canonical ((docs.prepared.get "request").mapping.getD []),
      C.canonical docs.approval,
      C.canonical (PreExecution.signedReport docs.ready),
      C.canonical (docs.ticket.without "dispatch_ticket_sha256"),
      C.line (C.canonical
        (((docs.claim.without "claim_id").without "claim_path").without "claim_sha256")),
      C.canonical docs.manifest,
      C.raw (bytes (textAt docs.ready "intent_id" ++ "\x00" ++ textAt docs.ready "request_sha256"))]

def sampleRequest : Dict :=
  [("selected_side", .str "down"), ("limit_price", .str "0.72"), ("requested_shares", .str "6.81"),
    ("target_notional_usd", .str "5")]

def samplePrepared : Dict :=
  [("status", .str "prepared"), ("action", .str "submit"), ("intent_id", .str "intent-1"),
    ("prediction_id", .str "prediction-1"), ("paper_order_id", .str "42"),
    ("request", .obj sampleRequest)]

def requestSha256 : HexDigest := ⟨"86cb268bf5bc34c9169c774fdd86320d57c72bec24c86611f37876a3f0af295c", by decide +kernel⟩

def sampleApproval : Dict :=
  [("schema_version", .int 1), ("status", .str "approved"), ("intent_id", .str "intent-1"),
    ("request_sha256", .str requestSha256.1), ("approved_at", .str "2026-01-01T00:00:00+00:00")]

def preparedSha256 : HexDigest :=
  ⟨"41c5b78607a75b98ed4f080ce7865aa6ef752cc6a4f577efab537a992bcd52d0", by decide +kernel⟩

def approvalSha256 : HexDigest :=
  ⟨"ef08241eed6871d60c413659c0837a33b7887daf8e045e90cd82e87de6e9e530", by decide +kernel⟩

/-- What the documents share. -/
def sampleShared : Dict :=
  [("intent_id", .str "intent-1"),
    ("prediction_id", .str "prediction-1"),
    ("paper_order_id", .str "42"),
    ("request_sha256", .str requestSha256.1),
    ("prepared_sha256", .str preparedSha256.1),
    ("approval_sha256", .str approvalSha256.1),
    ("approval_source_sha256", .str (String.ofList (List.replicate 64 '2'))),
    ("origin_attestation_sha256", .str (String.ofList (List.replicate 64 '3')))]

def sampleReady : Dict :=
  [("status", .str "execution_ready_source_truth_verified"),
    ("transport_key_id", .str "transport-1"),
    ("origin_key_id", .str "origin-1")] ++ sampleShared ++
  [("origin_attested_at", .str "2026-01-01T00:00:01+00:00"),
    ("origin_expires_at", .str "2026-01-01T00:00:31+00:00"),
    ("source_truth_authorization_sha256", .str (String.ofList (List.replicate 64 '4'))),
    ("authorization_snapshot_sha256", .str (String.ofList (List.replicate 64 '6'))),
    ("source_truth_attested_at", .str "2026-01-01T00:00:02+00:00"),
    ("source_truth_expires_at", .str "2026-01-01T00:00:12+00:00"),
    ("project_state_sha256", .str (String.ofList (List.replicate 64 '5'))),
    ("source_truth_authorized", .bool true),
    ("source_truth_blockers", .arr []),
    ("retry_allowed", .bool false),
    ("executor_invoked", .bool false),
    ("real_order_submitted", .bool false)]

def reportSha256 : HexDigest :=
  ⟨"33591f12b5db0fb1f9f134463dccf3df102df653e2b04dc5d11f7d510353e45d", by decide +kernel⟩

def sampleReport : Dict :=
  PreExecution.signedReport sampleReady ++ [("authorization_report_sha256", .str reportSha256.1)]

def ticketSha256 : HexDigest :=
  ⟨"7b7e182e01140b481abe4776a43bfd37f29f556b652cf4c5f4562f7fb9f959f3", by decide +kernel⟩

/-- Made three seconds into 2026, for nine seconds. -/
def sampleTicket : Dict :=
  DispatchTicket.ticketBody sampleReport
    (PreExecution.texts sampleReport PreExecution.sourceTruthFields)
    (Timestamp.ofSeconds 1767225603) (Timestamp.ofSeconds 1767225612) ++
  [("dispatch_ticket_sha256", .str ticketSha256.1)]

def identitySha256 : HexDigest :=
  ⟨"675534c80d2dd2abc4c46486e88aa7ad944186ebfe36692bd18181e81db2bd39", by decide +kernel⟩

def sampleClaimSha256 : HexDigest :=
  ⟨"d3879736a655fa8d6d7461dbc6957c4c48209d52d025633664d042ef7d29a44e", by decide +kernel⟩

/-- The end of the claim, the manifest and the receipts. -/
def sampleFlags : Dict :=
  [("retry_allowed", .bool false), ("executor_invoked", .bool false),
    ("real_order_submitted", .bool false)]

/-- What the receipts have from the ticket. -/
def sampleFromTicket : Dict :=
  [("dispatch_ticket_sha256", .str ticketSha256.1),
    ("authorization_report_sha256", .str reportSha256.1),
    ("source_truth_sha256", .str (String.ofList (List.replicate 64 '5'))),
    ("expires_at", .str "2026-01-01T00:00:12+00:00")]

def sampleClaim : Dict :=
  [("schema_version", .int 1), ("status", .str "dispatch_claimed"),
    ("transport_key_id", .str "transport-1"), ("origin_key_id", .str "origin-1"),
    ("claimed_at", .str "2026-01-01T00:00:04+00:00")] ++ sampleFromTicket ++ sampleShared ++
  sampleFlags ++
  [("claim_id", .str identitySha256.1),
    ("claim_path", .str ("/claims/" ++ identitySha256.1 ++ ".json")),
    ("claim_sha256", .str sampleClaimSha256.1)]

/-- The payload files, each with its document and the hash of its content. -/
def samplePayload : List (String × Dict × HexDigest) :=
  [("prepared.json", samplePrepared,
      ⟨"d5770d12aecf29459ca189a10bcb2590d3194fb8a885e09c4b5e60d72a4598ff", by decide +kernel⟩),
    ("approval.json", sampleApproval,
      ⟨"b0ff638e8b7159a4961847159762381c1d088b85845a0c1d15567bf1f509fe3e", by decide +kernel⟩),
    ("ready-verification.json", sampleReady,
      ⟨"e1d30a0d7c793e1077b5286768dcdd37161d14cec27a883c8f05c1e0bfadd7eb", by decide +kernel⟩),
    ("pre-execution.json", sampleReport,
      ⟨"4a78dc8ca19f57a69ee452fc6ce8456af86f1841d1cac81ffa26a79df1da48c9", by decide +kernel⟩),
    ("dispatch-ticket.json", sampleTicket,
      ⟨"e850d1ec0af79bc651a51af9ecb0fbf0cc466498d793804e7ea7d4b13cd4491d", by decide +kernel⟩),
    ("dispatch-claim.json", sampleClaim,
      ⟨"c3998b9afcb273626f9b53bb9ec54f9ff93bbdad2ade8e0dfcb4cedd38dd67c1", by decide +kernel⟩)]

mutual

/-- The JSON text of a value without characters to be escaped, in pieces. -/
def pieces : Json → List String
  | .null => ["null"]
  | .bool value => [if value then "true" else "false"]
  | .int value => [toString value]
  | .float value => [Json.floatText value]
  | .str value => ["\"", value, "\""]
  | .arr items => "[" :: (itemPieces items ++ ["]"])
  | .obj entries => "\x7b" :: (entryPieces entries ++ ["\x7d"])

def itemPieces : List Json → List String
  | [] => []
  | item :: items => pieces item ++ (if items.isEmpty then [] else [","]) ++ itemPieces items

def entryPieces : List (String × Json) → List String
  | [] => []
  | (key, value) :: entries =>
    ["\"", key, "\":"] ++ pieces value ++ (if entries.isEmpty then [] else [","]) ++
      entryPieces entries

end

/-- The content of a file: the JSON text in one line. -/
def sampleContent (d : Dict) : List UInt8 := (pieces (.obj d) ++ ["\n"]).flatMap bytes

def manifestSha256 : HexDigest :=
  ⟨"8a74c0299e10f7228546da4ddce50c8ec32178da7c6e298b9ee9377a7102258a", by decide +kernel⟩

def sampleManifest : Dict :=
  [("schema_version", .int 1), ("status", .str "execution_authorization_package_manifest"),
    ("intent_id", .str "intent-1"), ("request_sha256", .str requestSha256.1),
    ("expires_at", .str "2026-01-01T00:00:12+00:00"),
    ("files", .obj (samplePayload.map fun file => (file.1, .obj [("sha256", .str file.2.2.1),
      ("size_bytes", .int (sampleContent file.2.1).length)]))),
    ("handoff_invoked", .bool false)] ++ sampleFlags

def sampleReceipt : Dict :=
  [("schema_version", .int 1), ("status", .str "execution_authorized_handoff_ready")] ++ sampleShared ++
  sampleFromTicket ++
  [("dispatch_claim_sha256", .str sampleClaimSha256.1),
    ("package_manifest_sha256", .str manifestSha256.1), ("handoff_invoked", .bool false)] ++ sampleFlags

def sampleProcessed : Dict :=
  sampleReceipt ++ [("handoff_dir", .str ("/authorized/" ++ identitySha256.1))]

/-- The receipt with the paper order as a number. -/
def numberReceipt : Dict := sampleReceipt.put "paper_order_id" (.int 42)

/-- The receipt of another paper order. -/
def otherReceipt : Dict := sampleReceipt.put "paper_order_id" (.str "43")

/-- Encodings are kept as what they encode. -/
inductive SampleEncoded where
  | value (value : Json)
  | raw (content : List UInt8)
  | line (encoded : SampleEncoded)

/-- The digests of the documents, by one of their keys. -/
def valueSha256 (value : Json) : HexDigest :=
  let has (name : String) := (value.mapping.getD []).has name
  if has "limit_price" then requestSha256
  else if has "request" then preparedSha256
  else if has "approved_at" then approvalSha256
  else if has "files" then manifestSha256
  else if has "blockers" then reportSha256
  else ticketSha256

def sampleSha256 : SampleEncoded → HexDigest
  | .value value => valueSha256 value
  | .raw content =>
    match samplePayload.find? fun file => sampleContent file.2.1 = content with
    | some file => file.2.2
    | none => identitySha256
  | .line _ => sampleClaimSha256

def sampleLoad (content : List UInt8) : Outcome Json :=
  let documents := samplePayload.map (fun file => file.2.1) ++
    [sampleManifest, sampleReceipt, sampleProcessed, numberReceipt, otherReceipt]
  match documents.find? fun d => sampleContent d = content with
  | some d => .ok (.obj d)
  | none => raise .jsonDecodeError "Expecting value"

def samplePackageCrypto : PackageCrypto where
  Encoded := SampleEncoded
  encode := .value
  encode_injective := fun _ _ h => SampleEncoded.value.inj h
  sha256 := sampleSha256
  hmac := fun _ _ => identitySha256
  raw := .raw
  raw_injective := fun _ _ h => SampleEncoded.raw.inj h
  line := .line
  load := sampleLoad

def sampleFile (d : Dict) : StoredFile := ⟨.regular, 0o600, 0, sampleContent d⟩

def sampleInput : PackageInput where
  parent := "/authorized"
  name := identitySha256.1
  directory := some {
    kind := .directory
    mode := 0o700
    uid := 0
    files := ⟨samplePayload.map (fun file => (file.1, sampleFile file.2.1)) ++
      [("package-manifest.json", sampleFile sampleManifest), ("receipt.json", sampleFile sampleReceipt)],
      by decide +kernel⟩ }
  processed := some (sampleFile sampleProcessed)

/-- Five seconds into 2026. -/
def sampleObservedAt : DateTime := ⟨Timestamp.ofSeconds 1767225605, some 0⟩

theorem sampleInput_accepted : (verifyExecutionAuthorizationPackage samplePackageCrypto sampleInput
    sampleObservedAt 0).isOk = true := by decide +kernel

theorem numberReceipt_accepted : (verifyExecutionAuthorizationPackage samplePackageCrypto
    (sampleInput.withContent "receipt.json" (sampleContent numberReceipt)) sampleObservedAt 0).isOk =
      true := by decide +kernel

/-- The sample's receipt has its paper order as a text, and no two of the encodings that are hashed have
one digest. -/
def sampleHashed : Bool :=
  match readPackage samplePackageCrypto sampleInput 0 with
  | .ok docs => (docs.receipt.get "paper_order_id").isStr "42" &&
    decide ((hashed samplePackageCrypto sampleInput docs).map samplePackageCrypto.sha256).Nodup
  | .error _ => false

theorem sampleHashed_true : sampleHashed = true := by decide +kernel

/-- The paper order in the document that a content is. -/
def orderIn (content : List UInt8) : Option Json :=
  match samplePackageCrypto.load content with
  | .ok (.obj d) => some (Dict.get d "paper_order_id")
  | _ => none

theorem exists_of_orderIn {content : List UInt8} {p : Json → Bool}
    (h : (orderIn content).any p = true) :
    ∃ d : Dict, samplePackageCrypto.load content = .ok (.obj d) ∧ p (d.get "paper_order_id") = true := by
  unfold orderIn at h
  split at h
  · exact ⟨_, by assumption, h⟩
  · cases h

theorem injOn_of_nodup_map {α β : Type} {f : α → β} {l : List α} (h : (l.map f).Nodup) :
    Set.InjOn f {a | a ∈ l} :=
  fun _ ha _ hb hab => List.inj_on_of_nodup_map h ha hb hab

theorem sampleHashed_eq {docs : PackageDocuments}
    (h : readPackage samplePackageCrypto sampleInput 0 = .ok docs) :
    docs.receipt.get "paper_order_id" = .str "42" ∧
      ((hashed samplePackageCrypto sampleInput docs).map samplePackageCrypto.sha256).Nodup := by
  have hfacts := sampleHashed_true
  unfold sampleHashed at hfacts
  rw [h, Bool.and_eq_true, decide_eq_true_eq] at hfacts
  obtain ⟨horder, hnodup⟩ := hfacts
  refine ⟨?_, hnodup⟩
  cases hvalue : docs.receipt.get "paper_order_id" with
  | str value =>
    rw [hvalue, Json.isStr_str, decide_eq_true_eq] at horder
    rw [horder]
  | _ =>
    rw [hvalue] at horder
    cases horder

/-- A package that is bound, and two replacements that are rejected: another paper order in the receipt,
and another approval. -/
theorem package_bound_sample : ∃ observed docs, utc sampleObservedAt = .ok observed ∧
    EndToEnd samplePackageCrypto docs observed ∧
    Rejected samplePackageCrypto
      (sampleInput.withContent "receipt.json" (sampleContent otherReceipt)) ∧
    Rejected samplePackageCrypto
      (sampleInput.withContent "approval.json" (sampleContent sampleRequest)) := by
  obtain ⟨result, hresult⟩ := exists_ok_of_isOk sampleInput_accepted
  obtain ⟨observed, docs, hobserved, hread, hbound, hsealed⟩ :=
    package_bound samplePackageCrypto sampleInput sampleObservedAt 0 result hresult
  obtain ⟨horder, -⟩ := sampleHashed_eq hread
  have hfound : (orderIn (sampleContent otherReceipt)).any (fun value => value.isStr "43") = true := by
    decide +kernel
  obtain ⟨receipt, hload, hother⟩ := exists_of_orderIn hfound
  refine ⟨observed, docs, hobserved, hbound, ?_, ?_⟩
  · refine hsealed.receipt "paper_order_id" (by decide) _ receipt hload ?_
    unfold textAt
    rw [horder]
    rintro heq
    cases hvalue : receipt.get "paper_order_id" with
    | str value =>
      rw [hvalue, Json.isStr_str, decide_eq_true_eq] at hother
      rw [hvalue, hother, Json.textOrEmpty_str, Json.textOrEmpty_str] at heq
      exact absurd heq (by decide)
    | _ =>
      rw [hvalue] at hother
      cases hother
  · have hdigest : ¬ samplePackageCrypto.sha256 (.raw (sampleContent sampleApproval)) =
        samplePackageCrypto.sha256 (.raw (sampleContent sampleRequest)) := by decide +kernel
    refine hsealed.payload "approval.json" (by decide) (sampleFile sampleApproval) _ (by rfl)
      (by decide +kernel) ?_
    exact Set.injOn_pair.mpr fun heq => absurd heq hdigest

/-- Not every other value in a bound field is rejected: a number stands for its text. -/
theorem receipt_number : ¬ ∀ (C : PackageCrypto) (input : PackageInput) (observedAt : DateTime)
    (ownerUid : ℤ) (result : Dict) (docs : PackageDocuments),
    verifyExecutionAuthorizationPackage C input observedAt ownerUid = .ok result →
    readPackage C input ownerUid = .ok docs →
    Set.InjOn C.sha256 {e | e ∈ hashed C input docs} →
    ∀ name ∈ receiptBoundFields, ∀ content receipt, C.load content = .ok (.obj receipt) →
      Dict.get receipt name ≠ docs.receipt.get name →
      Rejected C (input.withContent "receipt.json" content) := by
  intro hall
  obtain ⟨result, hresult⟩ := exists_ok_of_isOk sampleInput_accepted
  obtain ⟨observed, docs, fresh, -, hread, -⟩ := verify_eq_ok hresult
  obtain ⟨horder, hnodup⟩ := sampleHashed_eq hread
  have hfound : (orderIn (sampleContent numberReceipt)).any (fun value => value.isInt 42) = true := by
    decide +kernel
  obtain ⟨receipt, hload, hnumber⟩ := exists_of_orderIn hfound
  obtain ⟨again, hagain⟩ := exists_ok_of_isOk numberReceipt_accepted
  refine hall samplePackageCrypto sampleInput sampleObservedAt 0 result docs hresult hread
    (injOn_of_nodup_map hnodup) "paper_order_id" (by decide) _ receipt hload ?_ _ _ _ hagain
  rw [horder]
  rintro heq
  rw [heq] at hnumber
  cases hnumber

end BpEngine.ExecutionPackage
