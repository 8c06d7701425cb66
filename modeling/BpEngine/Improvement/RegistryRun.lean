import BpEngine.Improvement.Reload
import BpEngine.Library.Machine
import BpEngine.Library.Table

/-!
# Runs of the improvement registry

What holds of the three tables after any calls of the service, in whatever order.

* `storeExperiment_spec`, `storeEvaluation_spec` and `recordDecision_spec` say what a call adds.
* `RegistryOk` is the invariant; `registryOk_commandStep` says that every call keeps it.
* `registry_sound`: it holds after every run; `experiments_reload`: every experiment can be built again.
-/

namespace BpEngine.Improvement

open BpEngine.Features (Value)

/-! ## Ids -/

/-- The digits of a digest are no blanks. -/
theorem isSpace_of_isHex64 {text : String} (h : isHex64 text = true) {c : Char} (hc : c ∈ text.toList) :
    isSpace c = false := by
  have hbytes : bytes text = text.toList.flatMap String.utf8EncodeChar := by
    rw [← bytes_ofList, String.ofList_toList]
  simp only [isHex64, Bool.and_eq_true, beq_iff_eq, List.all_eq_true, Bool.or_eq_true,
    decide_eq_true_eq] at h
  have hdigits : ∀ b ∈ String.utf8EncodeChar c,
      (48 ≤ b.toNat ∧ b.toNat ≤ 57) ∨ (97 ≤ b.toNat ∧ b.toNat ≤ 102) := by
    intro b hb
    refine h.2 b ?_
    rw [hbytes]
    exact List.mem_flatMap.mpr ⟨c, hc, hb⟩
  have hone := length_utf8EncodeChar_of_ascii fun b hb => by
    have := hdigits b hb
    omega
  have hcode : (48 ≤ c.toNat ∧ c.toNat ≤ 57) ∨ (97 ≤ c.toNat ∧ c.toNat ≤ 102) := by
    have hsmall : c.toNat < 128 := by
      by_contra hlarge
      unfold String.utf8EncodeChar at hone
      simp only at hone
      split_ifs at hone with hfirst
      · exact hlarge (Nat.lt_succ_of_le hfirst)
      all_goals simp at hone
    have hencode : String.utf8EncodeChar c = [c.toNat.toUInt8] := by
      unfold String.utf8EncodeChar
      exact if_pos (Nat.le_of_lt_succ hsmall)
    have hbyte := hdigits c.toNat.toUInt8 (by rw [hencode]; exact List.mem_cons_self)
    rw [UInt8.toNat_ofNat'] at hbyte
    omega
  simp only [isSpace, Bool.or_eq_false_iff, Bool.and_eq_false_iff, decide_eq_false_iff_not,
    beq_eq_false_iff_ne, ne_eq]
  omega

/-- An id made of a digest has no blanks around it. -/
theorem strip_deriveId {stem digest id : String} (hstem : stem.toList.any isSpace = false)
    (hdigest : isHex64 digest = true) (h : deriveId stem digest = .ok id) : strip id = id := by
  obtain ⟨_, -, h⟩ := bind_eq_ok.mp h
  obtain ⟨_, -, h⟩ := bind_eq_ok.mp h
  obtain rfl := Except.ok.inj h
  refine strip_of_all fun c hc => ?_
  simp only [String.toList_append, String.toList_ofList, List.mem_append] at hc
  rcases hc with (hc | hc) | hc
  · exact Bool.eq_false_iff.mpr (List.any_eq_false.mp hstem c hc)
  · obtain rfl : c = '-' := List.mem_singleton.mp hc
    rfl
  · exact isSpace_of_isHex64 hdigest (List.mem_of_mem_take hc)

/-! ## What a call adds -/

theorem storeRow_eq_ok {Row : Type} {rows : List Row} {hasId same : Row → Bool} {written : Outcome Row}
    {conflict : String} {stored : List Row × Bool}
    (h : storeRow rows hasId same written conflict = .ok stored) :
    stored.1 = rows ∨
      rows.find? hasId = none ∧ ∃ row, written = .ok row ∧ stored.1 = rows ++ [row] := by
  unfold storeRow at h
  split at h
  · obtain ⟨_, -, h⟩ := bind_eq_ok.mp h
    obtain rfl := Except.ok.inj h
    exact Or.inl rfl
  · next hnone =>
    obtain ⟨row, hwritten, h⟩ := bind_eq_ok.mp h
    obtain rfl := Except.ok.inj h
    exact Or.inr ⟨hnone, row, hwritten, rfl⟩

theorem forall₂_mem {α β : Type} {f : α → Outcome β} {items : List α} {results : List β}
    (h : items.mapM f = .ok results) :
    List.Forall₂ (fun a b => a ∈ items ∧ f a = .ok b) items results := by
  have hpairs := forall₂_of_mapM h
  rw [List.forall₂_iff_get] at hpairs ⊢
  exact ⟨hpairs.1, fun i hi hi' => ⟨List.get_mem items ⟨i, hi⟩, hpairs.2 i hi hi'⟩⟩

section Registry

variable {F : Type} {N : Numbers F} {registry : Registry F}

/-- A row of an experiment that can be built again. -/
def Reloads (N : Numbers F) (row : ExperimentRow F) : Prop :=
  strip row.experimentId = row.experimentId ∧ ∃ experiment, experimentFromRow N row = .ok experiment ∧
    experiment.experimentId = row.experimentId ∧ experiment.semanticSha256 = row.semanticSha256 ∧
    experiment.createdAt = row.createdAt ∧ experiment.payload N = .ok row.spec

theorem storeExperiment_spec {record : ExperimentSpec F}
    {stored : Registry F × Bool} (h : storeExperiment N registry record = .ok stored) :
    stored.1 = registry ∨ ∃ row, registry.findExperiment row.experimentId = none ∧ Reloads N row ∧
      stored.1 = { registry with experiments := registry.experiments ++ [row] } := by
  obtain ⟨rebuilt, hrebuilt, h⟩ := bind_eq_ok.mp h
  obtain ⟨payload, hpayload, h⟩ := bind_eq_ok.mp h
  obtain ⟨kept, hkept, h⟩ := bind_eq_ok.mp h
  obtain rfl := Except.ok.inj h
  obtain ⟨built, hbuilt, hrebuilt⟩ := bind_eq_ok.mp hrebuilt
  obtain ⟨_, -, hrebuilt⟩ := bind_eq_ok.mp hrebuilt
  obtain rfl := Except.ok.inj hrebuilt
  rcases storeRow_eq_ok hkept with hsame | ⟨hnone, row, hrow, hnew⟩
  · left
    dsimp only
    rw [hsame]
  · right
    have hload := experimentFromRow_experimentRow hbuilt hpayload hrow
    obtain ⟨-, -, other, hother, hdigest, hid⟩ := build_eq_ok hbuilt
    obtain ⟨runId, -, hrow⟩ := bind_eq_ok.mp hrow
    obtain rfl := Except.ok.inj hrow
    refine ⟨_, ?_, ⟨?_, _, hload, rfl, rfl, rfl, payload_again hpayload⟩, ?_⟩
    · exact hnone
    · exact strip_deriveId (by decide) (N.sha256 other.value).2 hid
    · dsimp only
      rw [hnew]

theorem experimentFromRow_id {row : ExperimentRow F} {experiment : ExperimentSpec F}
    (h : experimentFromRow N row = .ok experiment) : experiment.experimentId = row.experimentId := by
  obtain ⟨_, -, h⟩ := bind_eq_ok.mp h
  obtain ⟨_, -, h⟩ := bind_eq_ok.mp h
  obtain ⟨_, -, h⟩ := bind_eq_ok.mp h
  obtain ⟨_, -, h⟩ := bind_eq_ok.mp h
  obtain ⟨built, -, h⟩ := bind_eq_ok.mp h
  obtain ⟨_, hids, h⟩ := bind_eq_ok.mp h
  obtain rfl := Except.ok.inj h
  exact (require_eq_ok.mp hids).1

theorem loadExperiment_eq_ok {experimentId : String}
    {experiment : ExperimentSpec F} (h : loadExperiment N registry experimentId = .ok experiment) :
    ∃ row ∈ registry.experiments, row.experimentId = experimentId ∧
      experimentFromRow N row = .ok experiment ∧ experiment.experimentId = experimentId := by
  unfold loadExperiment at h
  split at h
  · exact absurd h raise_ne_ok
  · next row hrow =>
    have hid := List.find?_some hrow
    rw [decide_eq_true_eq] at hid
    exact ⟨row, List.mem_of_find?_eq_some hrow, hid, h, (experimentFromRow_id h).trans hid⟩

/-- An item of evidence that the check lets through. -/
structure Allowed (experiment : ExperimentSpec F) (selectionRoles confirmationRoles : List EvidenceRole)
    (item : EvidenceItem F) : Prop where
  selection : item.role.isSelection = true → item.role ∈ selectionRoles
  confirmation : item.role.isConfirmation = true → item.role ∈ confirmationRoles
  legacy : item.role = .freshHoldout → item.identifier ∉ experiment.legacyConfirmationIdentifiers ∧
    item.conditionId ∉ experiment.legacyConfirmationIdentifiers
  prospective : item.role = .prospectivePaper → experiment.createdAt < item.observedAt ∧
    item.predictionId.any (· ≠ "") = true

theorem checkEvidence_eq_ok {experiment : ExperimentSpec F} {prior : List String}
    {selectionRoles confirmationRoles : List EvidenceRole} {item : EvidenceItem F} {u : Unit}
    (h : checkEvidence experiment prior selectionRoles confirmationRoles item = .ok u) :
    Allowed experiment selectionRoles confirmationRoles item ∧
      (item.role.isConfirmation = true → item.identifier ∉ prior) := by
  obtain ⟨_, hselection, h⟩ := bind_eq_ok.mp h
  have hselection : item.role.isSelection = true → item.role ∈ selectionRoles := by
    intro hrole
    by_contra hout
    exact require_eq_ok.mp hselection ⟨hrole, hout⟩
  by_cases hconfirmation : item.role.isConfirmation = false
  · have hnot : ∀ role : EvidenceRole, role.isConfirmation = true → item.role ≠ role := by
      rintro role hrole rfl
      rw [hrole] at hconfirmation
      cases hconfirmation
    refine ⟨⟨hselection, fun hrole => absurd rfl (hnot _ hrole), fun hrole => ?_, fun hrole => ?_⟩,
      fun hrole => absurd rfl (hnot _ hrole)⟩
    · exact absurd hrole (hnot .freshHoldout rfl)
    · exact absurd hrole (hnot .prospectivePaper rfl)
  · rw [if_neg hconfirmation] at h
    obtain ⟨_, hallowed, h⟩ := bind_eq_ok.mp h
    obtain ⟨_, hprior, h⟩ := bind_eq_ok.mp h
    obtain ⟨_, hlegacy, h⟩ := bind_eq_ok.mp h
    refine ⟨⟨hselection, fun _ => require_eq_ok.mp hallowed, fun hrole => ?_, fun hrole => ?_⟩,
      fun _ => require_eq_ok.mp hprior⟩
    · have hnot := require_eq_ok.mp hlegacy
      exact ⟨fun hin => hnot ⟨hrole, Or.inl hin⟩, fun hin => hnot ⟨hrole, Or.inr hin⟩⟩
    · rw [if_pos hrole] at h
      obtain ⟨_, hprediction, h⟩ := bind_eq_ok.mp h
      exact ⟨require_eq_ok.mp h, require_eq_ok.mp hprediction⟩

/-- A manifest that the check lets through: the policies are separate, and every item is allowed. -/
structure ManifestOk (N : Numbers F) (experiment : ExperimentSpec F) (items : List (EvidenceItem F)) :
    Prop where
  roles : ∃ selectionRoles confirmationRoles,
    policyRoles N "selection policy" experiment.selectionPolicy = .ok selectionRoles ∧
    policyRoles N "confirmation policy" experiment.confirmationPolicy = .ok confirmationRoles ∧
    (∀ role ∈ selectionRoles, role.isSelection = true) ∧
    (∀ role ∈ confirmationRoles, role.isConfirmation = true) ∧
    ∀ item ∈ items, Allowed experiment selectionRoles confirmationRoles item

theorem validateEvidenceManifest_eq_ok {experiment : ExperimentSpec F} {evidence : List (EvidenceItem F)}
    {prior : List String} {u : Unit}
    (h : validateEvidenceManifest N experiment evidence prior = .ok u) :
    ManifestOk N experiment evidence ∧
      ∀ item ∈ evidence, item.role.isConfirmation = true → item.identifier ∉ prior := by
  obtain ⟨selectionRoles, hselection, h⟩ := bind_eq_ok.mp h
  obtain ⟨confirmationRoles, hconfirmation, h⟩ := bind_eq_ok.mp h
  obtain ⟨_, hpolicies, h⟩ := bind_eq_ok.mp h
  obtain ⟨_, -, hpolicies⟩ := bind_eq_ok.mp hpolicies
  obtain ⟨_, hdevelopment, hpolicies⟩ := bind_eq_ok.mp hpolicies
  have hitems := forM_eq_ok.mp h
  exact ⟨⟨selectionRoles, confirmationRoles, hselection, hconfirmation, require_eq_ok.mp hdevelopment,
    require_eq_ok.mp hpolicies, fun item hitem => (checkEvidence_eq_ok (hitems item hitem)).1⟩,
    fun item hitem => (checkEvidence_eq_ok (hitems item hitem)).2⟩

/-- The items of a row have passed the check of its experiment, in the order of their payloads. -/
def EvidenceOk (N : Numbers F) (experiment : ExperimentSpec F) (row : EvaluationRow F) : Prop :=
  ∃ items, items.mapM (EvidenceItem.payload N) = .ok row.evidenceManifest ∧
    ManifestOk N experiment items

/-- The row of an evaluation: of an experiment that was there before it, with allowed evidence. -/
structure EvaluationOk (N : Numbers F) (registry : Registry F) (row : EvaluationRow F) : Prop where
  plain : strip row.evaluationId = row.evaluationId
  experiment : ∃ experiment, loadExperiment N registry row.experimentId = .ok experiment ∧
    experiment.createdAt ≤ row.createdAt ∧ EvidenceOk N experiment row
  eligible : row.promotionEligible = true → row.ineligibilityReasons = []

/-- Two evaluations have no item of confirmation evidence in common. -/
def Apart (a b : EvaluationRow F) : Prop :=
  ∀ item ∈ a.evidenceManifest, ∀ other ∈ b.evidenceManifest, item.isConfirmation = true →
    other.isConfirmation = true → item.identifier ≠ other.identifier

theorem Apart.symm {a b : EvaluationRow F} (h : Apart a b) : Apart b a :=
  fun item hitem other hother hrole hrole' heq => h other hother item hitem hrole' hrole heq.symm

/-- The texts of the roles of confirmation evidence. -/
theorem EvidenceRole.isConfirmation_value (role : EvidenceRole) :
    (decide (role.value = "fresh_holdout") || decide (role.value = "prospective_paper")) =
      role.isConfirmation := by
  cases role <;> rfl

theorem evidencePayload_eq_ok {item : EvidenceItem F} {payload : EvidencePayload F}
    (h : item.payload N = .ok payload) :
    payload.identifier = item.identifier ∧ payload.isConfirmation = item.role.isConfirmation := by
  obtain ⟨_, -, h⟩ := bind_eq_ok.mp h
  obtain ⟨_, -, h⟩ := bind_eq_ok.mp h
  obtain rfl := Except.ok.inj h
  exact ⟨rfl, EvidenceRole.isConfirmation_value item.role⟩

/-- What has an item of confirmation evidence in common with another experiment is found. -/
theorem mem_usedByOtherExperiments {experimentId : String}
    {identifiers : List String} {row : EvaluationRow F} {item : EvidencePayload F}
    (hrow : row ∈ registry.evaluations) (hother : row.experimentId ≠ experimentId)
    (hitem : item ∈ row.evidenceManifest) (hrole : item.isConfirmation = true)
    (hmem : item.identifier ∈ identifiers) :
    item.identifier ∈ usedByOtherExperiments registry experimentId identifiers := by
  refine List.mem_flatMap.mpr ⟨row, List.mem_filter.mpr ⟨hrow, decide_eq_true hother⟩, ?_⟩
  refine List.mem_map.mpr ⟨item, List.mem_filter.mpr ⟨hitem, ?_⟩, rfl⟩
  rw [Bool.and_eq_true, decide_eq_true_eq]
  exact ⟨hrole, hmem⟩

theorem evaluationNormalise_eq_ok {fields normalised : EvaluationFields F}
    (h : fields.normalise = .ok normalised) :
    normalised.experimentId = strip fields.experimentId ∧
      normalised.evidenceManifest = sortedEvidence fields.evidenceManifest ∧
      normalised.promotionEligible = fields.promotionEligible ∧
      (normalised.promotionEligible = true → normalised.ineligibilityReasons = []) := by
  obtain ⟨_, -, h⟩ := bind_eq_ok.mp h
  obtain ⟨experimentId, hid, h⟩ := bind_eq_ok.mp h
  obtain ⟨challengerId, -, h⟩ := bind_eq_ok.mp h
  obtain ⟨_, -, h⟩ := bind_eq_ok.mp h
  obtain ⟨reasons, -, h⟩ := bind_eq_ok.mp h
  obtain ⟨_, hreasons, h⟩ := bind_eq_ok.mp h
  obtain rfl := Except.ok.inj h
  refine ⟨(requireNonblank_eq_ok hid).2, rfl, rfl, fun heligible => ?_⟩
  by_contra hne
  exact require_eq_ok.mp hreasons ⟨heligible, hne⟩

/-- A row that an evaluation adds. -/
structure NewEvaluation (N : Numbers F) (registry : Registry F) (report : EvaluationReport F)
    (row : EvaluationRow F) : Prop where
  fresh : ∀ other ∈ registry.evaluations, other.evaluationId ≠ row.evaluationId
  ok : EvaluationOk N registry row
  apart : ∀ other ∈ registry.evaluations, other.experimentId ≠ row.experimentId → Apart other row
  eligible : row.promotionEligible = report.promotionEligible

theorem storeEvaluation_spec {report : EvaluationReport F}
    {stored : Registry F × Bool} (hplain : ∀ row ∈ registry.experiments, Reloads N row)
    (h : storeEvaluation N registry report = .ok stored) :
    stored.1 = registry ∨ ∃ row, NewEvaluation N registry report row ∧
      stored.1 = { registry with evaluations := registry.evaluations ++ [row] } := by
  obtain ⟨experiment, hload, h⟩ := bind_eq_ok.mp h
  obtain ⟨_, hcreated, h⟩ := bind_eq_ok.mp h
  obtain ⟨_, hmanifest, h⟩ := bind_eq_ok.mp h
  obtain ⟨rebuilt, hrebuilt, h⟩ := bind_eq_ok.mp h
  obtain ⟨payload, hpayload, h⟩ := bind_eq_ok.mp h
  obtain ⟨kept, hkept, h⟩ := bind_eq_ok.mp h
  obtain rfl := Except.ok.inj h
  rcases storeRow_eq_ok hkept with hsame | ⟨hnone, row, hrow, hnew⟩
  · left
    dsimp only
    rw [hsame]
  refine Or.inr ⟨row, ?_, by rw [← hnew]⟩
  obtain ⟨built, hbuilt, hrebuilt⟩ := bind_eq_ok.mp hrebuilt
  obtain ⟨_, -, hrebuilt⟩ := bind_eq_ok.mp hrebuilt
  obtain rfl := Except.ok.inj hrebuilt
  obtain ⟨normalised, hnormalised, hbuilt⟩ := bind_eq_ok.mp hbuilt
  obtain ⟨written, hwritten, hbuilt⟩ := bind_eq_ok.mp hbuilt
  obtain ⟨evaluationId, hevaluationId, hbuilt⟩ := bind_eq_ok.mp hbuilt
  obtain rfl := Except.ok.inj hbuilt
  obtain rfl := Except.ok.inj (hwritten.symm.trans hpayload)
  obtain ⟨challengerId, -, hrow⟩ := bind_eq_ok.mp hrow
  obtain rfl := Except.ok.inj hrow
  obtain ⟨hid, hsorted, heligible, hreasons⟩ := evaluationNormalise_eq_ok hnormalised
  obtain ⟨source, hsource, hsourceId, -, hexperimentId⟩ := loadExperiment_eq_ok hload
  -- the id that was looked up has no blanks, so it is the id of the row
  have hnoBlanks : normalised.experimentId = report.experimentId := by
    rw [hid, ← hsourceId]
    exact (hplain source hsource).1
  have hitems : normalised.evidenceManifest.mapM (EvidenceItem.payload N) =
      .ok written.evidenceManifest := by
    obtain ⟨_, -, hwritten⟩ := bind_eq_ok.mp hwritten
    obtain ⟨items, hitems, hwritten⟩ := bind_eq_ok.mp hwritten
    obtain ⟨_, -, hwritten⟩ := bind_eq_ok.mp hwritten
    obtain ⟨_, -, hwritten⟩ := bind_eq_ok.mp hwritten
    obtain ⟨_, -, hwritten⟩ := bind_eq_ok.mp hwritten
    obtain rfl := Except.ok.inj hwritten
    exact hitems
  have hmem : ∀ item, item ∈ normalised.evidenceManifest ↔ item ∈ report.evidenceManifest := by
    intro item
    rw [hsorted, sortedEvidence, List.mem_insertionSort]
  obtain ⟨⟨⟨selectionRoles, confirmationRoles, hselection, hconfirmation, hdevelopment, hroles,
    hallowed⟩⟩, hprior⟩ := validateEvidenceManifest_eq_ok hmanifest
  refine ⟨?_, ⟨?_, ?_, ?_⟩, ?_, ?_⟩
  · intro other hother heq
    exact List.find?_eq_none.mp hnone other hother (decide_eq_true heq)
  · exact strip_deriveId (by decide) (N.sha256 written.value).2 hevaluationId
  · refine ⟨experiment, ?_, require_eq_ok.mp hcreated, normalised.evidenceManifest, hitems,
      ⟨selectionRoles, confirmationRoles, hselection, hconfirmation, hdevelopment, hroles, ?_⟩⟩
    · dsimp only
      rw [hnoBlanks]
      exact hload
    · exact fun item hitem => hallowed item ((hmem item).mp hitem)
  · exact hreasons
  · intro other hother hdifferent used hused item hitem husedRole hrole heq
    have hforall := forall_right_of_forall₂ (p := fun payload => ∃ source ∈ report.evidenceManifest,
      payload.identifier = source.identifier ∧ payload.isConfirmation = source.role.isConfirmation)
      (forall₂_mem hitems) fun source payload hpair => by
        obtain ⟨hsource, hpair⟩ := hpair
        exact ⟨source, (hmem source).mp hsource, evidencePayload_eq_ok hpair⟩
    obtain ⟨given, hgiven, hidentifier, hconfirms⟩ := hforall item hitem
    rw [hconfirms] at hrole
    refine hprior given hgiven hrole ?_
    rw [← hidentifier, ← heq]
    refine mem_usedByOtherExperiments hother ?_ hused husedRole ?_
    · rw [hexperimentId, ← hnoBlanks]
      exact hdifferent
    · rw [heq, hidentifier]
      exact List.mem_map_of_mem (List.mem_filter.mpr ⟨hgiven, hrole⟩)
  · exact heligible

/-- The row of a decision: of an evaluation that was there before it. -/
structure DecisionOk (N : Numbers F) (registry : Registry F) (row : DecisionRow) : Prop where
  rationale : strip row.rationale = row.rationale ∧ row.rationale ≠ ""
  evaluation : ∃ evaluation ∈ registry.evaluations, evaluation.evaluationId = row.evaluationId ∧
    evaluation.experimentId = row.experimentId ∧ evaluation.createdAt ≤ row.createdAt ∧
    (row.decision = PromotionDecision.promoteChallenger.value → evaluation.promotionEligible = true)
  champion : ∃ experiment, loadExperiment N registry row.experimentId = .ok experiment ∧
    row.resultingChampion = experiment.champion.toChampionFields

theorem decisionBuild_eq_ok {fields : DecisionFields} {createdAt : Timestamp} {record : Decision}
    (h : Decision.build N fields createdAt = .ok record) :
    record.toDecisionFields = { fields with
      evaluationId := strip fields.evaluationId
      experimentId := strip fields.experimentId
      rationale := strip fields.rationale } ∧
      record.createdAt = createdAt ∧ strip fields.rationale ≠ "" := by
  obtain ⟨normalised, hnormalised, h⟩ := bind_eq_ok.mp h
  obtain ⟨_, -, h⟩ := bind_eq_ok.mp h
  obtain rfl := Except.ok.inj h
  obtain ⟨_, -, hnormalised⟩ := bind_eq_ok.mp hnormalised
  obtain ⟨evaluationId, hevaluation, hnormalised⟩ := bind_eq_ok.mp hnormalised
  obtain ⟨experimentId, hexperiment, hnormalised⟩ := bind_eq_ok.mp hnormalised
  obtain ⟨rationale, hrationale, hnormalised⟩ := bind_eq_ok.mp hnormalised
  obtain rfl := Except.ok.inj hnormalised
  obtain ⟨-, rfl⟩ := requireNonblank_eq_ok hevaluation
  obtain ⟨-, rfl⟩ := requireNonblank_eq_ok hexperiment
  obtain ⟨hblank, rfl⟩ := requireNonblank_eq_ok hrationale
  exact ⟨rfl, rfl, hblank⟩

/-- The row of a decision has the fields of the decision. -/
def DecisionRow.Of (row : DecisionRow) (fields : DecisionFields) : Prop :=
  row.evaluationId = fields.evaluationId ∧ row.experimentId = fields.experimentId ∧
    row.decision = fields.decision.value ∧ row.rationale = fields.rationale ∧
    row.resultingChampion = fields.resultingChampion.toChampionFields

theorem decisionRow_eq_ok {rebuilt : Decision} {row : DecisionRow} (h : decisionRow rebuilt = .ok row) :
    row.Of rebuilt.toDecisionFields ∧ row.createdAt = rebuilt.createdAt := by
  obtain ⟨evaluationId, hwidth, h⟩ := bind_eq_ok.mp h
  obtain ⟨_, -, hwidth⟩ := bind_eq_ok.mp hwidth
  obtain rfl := Except.ok.inj hwidth
  obtain rfl := Except.ok.inj h
  exact ⟨⟨rfl, rfl, rfl, rfl, rfl⟩, rfl⟩

theorem PromotionDecision.value_inj {a b : PromotionDecision} (h : a.value = b.value) : a = b := by
  revert h
  cases a <;> cases b <;> decide

theorem recordDecision_spec {evaluationId rationale : String}
    {decision : PromotionDecision} {createdAt : Timestamp} {stored : Registry F × Decision}
    (hplain : ∀ row ∈ registry.experiments, Reloads N row)
    (hevaluations : ∀ row ∈ registry.evaluations, EvaluationOk N registry row)
    (h : recordDecision N registry evaluationId decision rationale createdAt = .ok stored) :
    stored.1 = registry ∨ ∃ row, (∀ other ∈ registry.decisions, other.decisionId ≠ row.decisionId) ∧
      DecisionOk N registry row ∧
      stored.1 = { registry with decisions := registry.decisions ++ [row] } := by
  unfold recordDecision at h
  split at h
  · exact absurd h raise_ne_ok
  · next evaluation hfind =>
    obtain ⟨_, -, h⟩ := bind_eq_ok.mp h
    obtain ⟨_, hafter, h⟩ := bind_eq_ok.mp h
    obtain ⟨_, heligible, h⟩ := bind_eq_ok.mp h
    obtain ⟨experiment, hload, h⟩ := bind_eq_ok.mp h
    obtain ⟨record, hrecord, h⟩ := bind_eq_ok.mp h
    obtain ⟨next, hnext, h⟩ := bind_eq_ok.mp h
    obtain rfl := Except.ok.inj h
    obtain ⟨rebuilt, hrebuilt, hnext⟩ := bind_eq_ok.mp hnext
    obtain ⟨kept, hkept, hnext⟩ := bind_eq_ok.mp hnext
    obtain rfl := Except.ok.inj hnext
    rcases storeRow_eq_ok hkept with hsame | ⟨hnone, row, hrow, hnew⟩
    · left
      dsimp only
      rw [hsame]
    refine Or.inr ⟨row, ?_, ?_, by rw [← hnew]⟩
    · intro other hother heq
      obtain ⟨_, -, hrow⟩ := bind_eq_ok.mp hrow
      obtain rfl := Except.ok.inj hrow
      exact List.find?_eq_none.mp hnone other hother (decide_eq_true heq)
    · have hmem := List.mem_of_find?_eq_some hfind
      have hid := List.find?_some hfind
      rw [decide_eq_true_eq] at hid
      obtain ⟨source, hsource, hsourceId, -, hexperimentId⟩ := loadExperiment_eq_ok hload
      have hexperimentPlain : strip experiment.experimentId = evaluation.experimentId := by
        rw [hexperimentId, ← hsourceId]
        exact (hplain source hsource).1
      have hevaluationPlain : strip evaluationId = evaluationId := by
        rw [← hid]
        exact (hevaluations evaluation hmem).plain
      -- the record is built twice: by the call, and by the repository
      obtain ⟨again, hagain, hrebuilt⟩ := bind_eq_ok.mp hrebuilt
      obtain ⟨_, -, hrebuilt⟩ := bind_eq_ok.mp hrebuilt
      obtain rfl := Except.ok.inj hrebuilt
      obtain ⟨hfirst, -, -⟩ := decisionBuild_eq_ok hrecord
      obtain ⟨hsecond, hcreated, hblank⟩ := decisionBuild_eq_ok hagain
      rw [hfirst] at hsecond hblank
      dsimp only at hsecond hblank
      rw [strip_strip, strip_strip, strip_strip, hexperimentPlain, hevaluationPlain] at hsecond
      obtain ⟨hrowFields, hrowCreated⟩ := decisionRow_eq_ok hrow
      rw [hsecond] at hrowFields
      obtain ⟨hrowEvaluation, hrowExperiment, hrowDecision, hrowRationale, hrowChampion⟩ := hrowFields
      refine ⟨?_, ⟨evaluation, hmem, ?_, ?_, ?_, fun hpromote => ?_⟩, experiment, ?_, hrowChampion⟩
      · rw [hrowRationale]
        exact ⟨strip_strip rationale, by rwa [strip_strip] at hblank⟩
      · rw [hrowEvaluation]
        exact hid
      · rw [hrowExperiment]
      · rw [hrowCreated, hcreated, (decisionBuild_eq_ok hrecord).2.1]
        exact require_eq_ok.mp hafter
      · rw [hrowDecision] at hpromote
        have hdecision : decision = .promoteChallenger := PromotionDecision.value_inj hpromote
        by_contra hnot
        exact require_eq_ok.mp heligible ⟨hdecision, Bool.eq_false_iff.mpr hnot⟩
      · rw [hrowExperiment]
        exact hload

/-! ## The invariant -/

/-- **The invariant of the registry.** -/
structure RegistryOk (N : Numbers F) (registry : Registry F) : Prop where
  experimentIds : (registry.experiments.map (·.experimentId)).Nodup
  experiments : ∀ row ∈ registry.experiments, Reloads N row
  evaluationIds : (registry.evaluations.map (·.evaluationId)).Nodup
  evaluations : ∀ row ∈ registry.evaluations, EvaluationOk N registry row
  apart : ∀ a ∈ registry.evaluations, ∀ b ∈ registry.evaluations, a.experimentId ≠ b.experimentId →
    Apart a b
  decisionIds : (registry.decisions.map (·.decisionId)).Nodup
  decisions : ∀ row ∈ registry.decisions, DecisionOk N registry row

theorem RegistryOk.empty : RegistryOk N {} where
  experimentIds := List.nodup_nil
  experiments := List.forall_mem_nil _
  evaluationIds := List.nodup_nil
  evaluations := List.forall_mem_nil _
  apart := List.forall_mem_nil _
  decisionIds := List.nodup_nil
  decisions := List.forall_mem_nil _

/-- An experiment that is there is loaded when others are added behind it. -/
theorem loadExperiment_mono {before after : Registry F} {experimentId : String}
    {experiment : ExperimentSpec F} (h : before.experiments <+: after.experiments)
    (hload : loadExperiment N before experimentId = .ok experiment) :
    loadExperiment N after experimentId = .ok experiment := by
  obtain ⟨rest, hrest⟩ := h
  unfold loadExperiment Registry.findExperiment at hload ⊢
  rw [← hrest, List.find?_append]
  split at hload
  · exact absurd hload raise_ne_ok
  · next found hfound =>
    rw [hfound]
    exact hload

theorem EvaluationOk.mono {before after : Registry F} {row : EvaluationRow F}
    (h : EvaluationOk N before row) (hexperiments : before.experiments <+: after.experiments) :
    EvaluationOk N after row := by
  obtain ⟨experiment, hload, hrest⟩ := h.experiment
  exact ⟨h.plain, ⟨experiment, loadExperiment_mono hexperiments hload, hrest⟩, h.eligible⟩

theorem DecisionOk.mono {before after : Registry F} {row : DecisionRow} (h : DecisionOk N before row)
    (hexperiments : before.experiments <+: after.experiments)
    (hevaluations : before.evaluations <+: after.evaluations) : DecisionOk N after row := by
  obtain ⟨evaluation, hevaluation, hrest⟩ := h.evaluation
  obtain ⟨experiment, hload, hchampion⟩ := h.champion
  exact ⟨h.rationale, ⟨evaluation, hevaluations.subset hevaluation, hrest⟩, experiment,
    loadExperiment_mono hexperiments hload, hchampion⟩

theorem RegistryOk.addExperiment {row : ExperimentRow F}
    (h : RegistryOk N registry) (hfresh : registry.findExperiment row.experimentId = none)
    (hrow : Reloads N row) :
    RegistryOk N { registry with experiments := registry.experiments ++ [row] } := by
  refine ⟨?_, Table.forall_mem_concat h.experiments hrow, h.evaluationIds,
    fun evaluation hevaluation => ?_, h.apart, h.decisionIds, fun decision hdecision => ?_⟩
  · refine Table.nodup_map_concat h.experimentIds fun other hother heq => ?_
    exact List.find?_eq_none.mp hfresh other hother (decide_eq_true heq)
  · exact (h.evaluations evaluation hevaluation).mono (List.prefix_append _ _)
  · exact (h.decisions decision hdecision).mono (List.prefix_append _ _) List.prefix_rfl

theorem RegistryOk.addEvaluation {report : EvaluationReport F}
    {row : EvaluationRow F} (h : RegistryOk N registry) (hrow : NewEvaluation N registry report row) :
    RegistryOk N { registry with evaluations := registry.evaluations ++ [row] } := by
  refine ⟨h.experimentIds, h.experiments, Table.nodup_map_concat h.evaluationIds hrow.fresh, ?_,
    fun a ha b hb hne => ?_, h.decisionIds, fun decision hdecision => ?_⟩
  · refine Table.forall_mem_concat (fun other hother => ?_) (hrow.ok.mono List.prefix_rfl)
    exact (h.evaluations other hother).mono List.prefix_rfl
  · rcases List.mem_append.mp ha with ha | ha
    · rcases List.mem_append.mp hb with hb | hb
      · exact h.apart a ha b hb hne
      · rw [List.mem_singleton.mp hb] at hne ⊢
        exact hrow.apart a ha hne
    · rw [List.mem_singleton.mp ha] at hne ⊢
      rcases List.mem_append.mp hb with hb | hb
      · exact (hrow.apart b hb hne.symm).symm
      · rw [List.mem_singleton.mp hb] at hne
        exact absurd rfl hne
  · exact (h.decisions decision hdecision).mono List.prefix_rfl (List.prefix_append _ _)

theorem RegistryOk.addDecision {row : DecisionRow} (h : RegistryOk N registry)
    (hfresh : ∀ other ∈ registry.decisions, other.decisionId ≠ row.decisionId)
    (hrow : DecisionOk N registry row) :
    RegistryOk N { registry with decisions := registry.decisions ++ [row] } := by
  refine ⟨h.experimentIds, h.experiments, h.evaluationIds,
    fun evaluation hevaluation => (h.evaluations evaluation hevaluation).mono List.prefix_rfl, h.apart,
    Table.nodup_map_concat h.decisionIds hfresh,
    Table.forall_mem_concat (fun other hother => ?_) (hrow.mono List.prefix_rfl List.prefix_rfl)⟩
  exact (h.decisions other hother).mono List.prefix_rfl List.prefix_rfl

/-- A call that returns keeps the invariant when what it leaves does. -/
theorem committed_ok {α : Type} {outcome : Outcome (Registry F × α)}
    {J : Registry F → Prop} (h : J registry) (hkept : ∀ after, outcome = .ok after → J after.1) :
    J (committed registry outcome) := by
  cases houtcome : outcome with
  | error raised => exact h
  | ok after => exact hkept after houtcome

theorem registryOk_storeExperiment {record : ExperimentSpec F}
    {stored : Registry F × Bool} (h : RegistryOk N registry)
    (hstored : storeExperiment N registry record = .ok stored) : RegistryOk N stored.1 := by
  rcases storeExperiment_spec hstored with hsame | ⟨row, hfresh, hrow, hnew⟩
  · rwa [hsame]
  · rw [hnew]
    exact h.addExperiment hfresh hrow

theorem registryOk_storeEvaluation {report : EvaluationReport F}
    {stored : Registry F × Bool} (h : RegistryOk N registry)
    (hstored : storeEvaluation N registry report = .ok stored) : RegistryOk N stored.1 := by
  rcases storeEvaluation_spec h.experiments hstored with hsame | ⟨row, hrow, hnew⟩
  · rwa [hsame]
  · rw [hnew]
    exact h.addEvaluation hrow

theorem registryOk_recordDecision {evaluationId rationale : String}
    {decision : PromotionDecision} {createdAt : Timestamp} {stored : Registry F × Decision}
    (h : RegistryOk N registry)
    (hstored : recordDecision N registry evaluationId decision rationale createdAt = .ok stored) :
    RegistryOk N stored.1 := by
  rcases recordDecision_spec h.experiments h.evaluations hstored with
    hsame | ⟨row, hfresh, hrow, hnew⟩
  · rwa [hsame]
  · rw [hnew]
    exact h.addDecision hfresh hrow

/-- An evaluation stores the report of the challenger. -/
theorem evaluateExperiment_spec {experimentId : String} {createdAt : Timestamp}
    {analyse : ExperimentSpec F → Outcome (SpreadGuardSource F)}
    {after : Registry F × EvaluationReport F}
    (h : evaluateExperiment N registry experimentId createdAt analyse = .ok after) :
    ∃ report, evaluateSpreadGuardChallenger N registry experimentId createdAt analyse = .ok report ∧
      ∃ stored, storeEvaluation N registry report = .ok stored ∧ after.1 = stored.1 := by
  obtain ⟨_, -, h⟩ := bind_eq_ok.mp h
  obtain ⟨_, -, h⟩ := bind_eq_ok.mp h
  obtain ⟨report, hreport, h⟩ := bind_eq_ok.mp h
  obtain ⟨stored, hstored, h⟩ := bind_eq_ok.mp h
  obtain rfl := Except.ok.inj h
  exact ⟨report, hreport, stored, hstored, rfl⟩

/-- **Every call keeps the invariant.** -/
theorem registryOk_commandStep (h : RegistryOk N registry) (command : Command F) :
    RegistryOk N (commandStep N registry command) := by
  cases command with
  | register spec => exact committed_ok h fun _ hstored => registryOk_storeExperiment h hstored
  | store report => exact committed_ok h fun _ hstored => registryOk_storeEvaluation h hstored
  | evaluate experimentId createdAt analyse =>
    refine committed_ok h fun after hafter => ?_
    obtain ⟨report, -, stored, hstored, hsame⟩ := evaluateExperiment_spec hafter
    rw [hsame]
    exact registryOk_storeEvaluation h hstored
  | decide evaluationId decision rationale createdAt =>
    exact committed_ok h fun _ hstored => registryOk_recordDecision h hstored

/-- **The registry is sound**, whatever calls were made: no item of confirmation evidence serves two
experiments, every evaluation is of an experiment that was frozen before it, with evidence its policies
allow, and every promotion is of an eligible evaluation. -/
theorem registry_sound (N : Numbers F) :
    ∀ commands : List (Command F), RegistryOk N (Machine.run (commandStep N) {} commands) :=
  Machine.run_invariant' (J := RegistryOk N) (commandStep N)
    (fun _ command h => registryOk_commandStep h command) RegistryOk.empty

/-- **Every experiment can be built again** from the registry, with the id, the digest, the time and the
payload it was registered with. -/
theorem experiments_reload (N : Numbers F) (commands : List (Command F)) :
    ∀ row ∈ (Machine.run (commandStep N) {} commands).experiments,
      ∃ experiment, loadExperiment N (Machine.run (commandStep N) {} commands) row.experimentId =
          .ok experiment ∧
        experiment.experimentId = row.experimentId ∧ experiment.semanticSha256 = row.semanticSha256 ∧
        experiment.createdAt = row.createdAt ∧ experiment.payload N = .ok row.spec := by
  intro row hrow
  have hok := Machine.run_invariant' (J := RegistryOk N) (commandStep N)
    (fun _ command h => registryOk_commandStep h command) RegistryOk.empty commands
  generalize Machine.run (commandStep N) {} commands = registry at hrow hok ⊢
  obtain ⟨-, experiment, hload, hrest⟩ := hok.experiments row hrow
  refine ⟨experiment, ?_, hrest⟩
  have hfound : registry.findExperiment row.experimentId = some row :=
    Table.find?_of_nodup hok.experimentIds hrow
  unfold loadExperiment
  rw [hfound]
  exact hload

end Registry

/-! ### An experiment -/

theorem isHex64_one :
    isHex64 "00000000000000000000000000000000000000000000000000000000000000aa" = true := by
  decide +kernel

/-- Integers, with one digest for every value. -/
def integers : Numbers ℤ where
  isFinite _ := true
  le a b := a ≤ b
  lt a b := a < b
  sub a b := a - b
  ofInt n := n
  sha256 _ := ⟨_, isHex64_one⟩
  repr _ := ""
  same _ _ := true

/-- A registration, when its fields pass their checks. -/
def sampleCommands : List (Command ℤ) :=
  let digest := (integers.sha256 .none).1
  let built := do
    let champion ← ChampionRef.create ⟨"c", digest, "b", digest, "t", digest⟩
    ExperimentSpec.build integers
      { experimentVersion, hypothesis := " wider spreads ", horizonSeconds := 300
        changeFamily := .abstention, champion, challenger := [("kind", .text "spread_guard_v1")]
        sourceVersions := [], researchStart := 0, researchEnd := 1500000, selectionPolicy := []
        confirmationPolicy := [], costAssumptions := [], primaryMetric := "pnl"
        guardrailMetrics := ["ece"], legacyConfirmationIdentifiers := [] } 2000000
  match built with
  | .ok spec => [.register spec]
  | .error _ => []

theorem experiments_reload_sample :
    ∃ row ∈ (Machine.run (commandStep integers) {} sampleCommands).experiments, ∃ experiment,
      loadExperiment integers (Machine.run (commandStep integers) {} sampleCommands)
          row.experimentId = .ok experiment ∧
        experiment.payload integers = .ok row.spec := by
  have hstored : 0 < (Machine.run (commandStep integers) {} sampleCommands).experiments.length := by
    decide +kernel
  obtain ⟨row, hrow⟩ := List.exists_mem_of_length_pos hstored
  obtain ⟨experiment, hload, -, -, -, hpayload⟩ :=
    experiments_reload integers sampleCommands row hrow
  exact ⟨row, hrow, experiment, hload, hpayload⟩

end BpEngine.Improvement
