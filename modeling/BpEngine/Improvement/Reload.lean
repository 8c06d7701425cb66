import BpEngine.Improvement.Registry

/-!
# What is stored is built again

An experiment is built again from its row whenever an evaluation or a decision of it is stored, and the
result is refused unless it has the id and the digest of the row.

* `canonicalPayload_again`: what is canonical stays as it is.
* `parseDatetime_zulu`: a time that was written is read back.
* `normalise_again`: normalised fields are normalised.
* `experimentFromRow_experimentRow`: the row of an experiment gives the experiment, with its mappings in
  canonical form.
-/

namespace BpEngine.Improvement

open BpEngine.Features (Value)

/-! ## Canonical values -/

section Canonical

variable {F : Type} {N : Numbers F}

theorem finiteFloat_eq_ok {value written : F} (h : finiteFloat N value = .ok written) :
    N.isFinite value = true ∧ written = value := by
  obtain ⟨_, hfinite, h⟩ := bind_eq_ok.mp h
  exact ⟨require_eq_ok.mp hfinite, (Except.ok.inj h).symm⟩

mutual

/-- **What is canonical stays as it is.** -/
theorem canonicalPayload_again : ∀ {value written : Value F},
    canonicalPayload N value = .ok written → canonicalPayload N written = .ok written
  | .none, _, h | .bool _, _, h | .int _, _, h | .text _, _, h | .json _, _, h => by
    rw [canonicalPayload] at h
    · obtain rfl := Except.ok.inj h
      rfl
    all_goals simp
  | .time _, _, h => by
    rw [canonicalPayload] at h
    obtain ⟨_, -, h⟩ := bind_eq_ok.mp h
    obtain rfl := Except.ok.inj h
    rfl
  | .decimal _, _, h => by
    rw [canonicalPayload] at h
    obtain ⟨_, -, h⟩ := bind_eq_ok.mp h
    obtain rfl := Except.ok.inj h
    rfl
  | .float _, _, h => by
    rw [canonicalPayload] at h
    obtain ⟨value, hfinite, h⟩ := bind_eq_ok.mp h
    obtain rfl := Except.ok.inj h
    obtain ⟨hfinite, rfl⟩ := finiteFloat_eq_ok hfinite
    simp [canonicalPayload, finiteFloat, require, hfinite]
  | .obj _, _, h => by
    rw [canonicalPayload] at h
    obtain ⟨entries, hentries, h⟩ := bind_eq_ok.mp h
    obtain rfl := Except.ok.inj h
    rw [canonicalPayload, canonicalEntries_again hentries]
    rfl
  | .list _, _, h => by
    rw [canonicalPayload] at h
    obtain ⟨items, hitems, h⟩ := bind_eq_ok.mp h
    obtain rfl := Except.ok.inj h
    rw [canonicalPayload, canonicalItems_again hitems]
    rfl

theorem canonicalEntries_again : ∀ {entries written : List (String × Value F)},
    canonicalEntries N entries = .ok written → canonicalEntries N written = .ok written
  | [], _, h => by
    rw [canonicalEntries] at h
    obtain rfl := Except.ok.inj h
    rfl
  | (_, _) :: _, _, h => by
    rw [canonicalEntries] at h
    obtain ⟨first, hfirst, h⟩ := bind_eq_ok.mp h
    obtain ⟨rest, hrest, h⟩ := bind_eq_ok.mp h
    obtain rfl := Except.ok.inj h
    rw [canonicalEntries, canonicalPayload_again hfirst, ok_bind, canonicalEntries_again hrest]
    rfl

theorem canonicalItems_again : ∀ {items written : List (Value F)},
    canonicalItems N items = .ok written → canonicalItems N written = .ok written
  | [], _, h => by
    rw [canonicalItems] at h
    obtain rfl := Except.ok.inj h
    rfl
  | _ :: _, _, h => by
    rw [canonicalItems] at h
    obtain ⟨first, hfirst, h⟩ := bind_eq_ok.mp h
    obtain ⟨rest, hrest, h⟩ := bind_eq_ok.mp h
    obtain rfl := Except.ok.inj h
    rw [canonicalItems, canonicalPayload_again hfirst, ok_bind, canonicalItems_again hrest]
    rfl

end

end Canonical

/-! ## Times -/

/-- The date and the time of day have no `Z`. -/
theorem flatMap_of_notMem {chars written : List Char} (h : 'Z' ∉ chars) :
    (chars.flatMap fun c => if c = 'Z' then written else [c]) = chars := by
  induction chars with
  | nil => rfl
  | cons c rest ih =>
    rw [List.mem_cons, not_or] at h
    rw [List.flatMap_cons, if_neg (Ne.symm h.1), ih h.2]
    rfl

theorem z_notMem_dateText (date : IsoTime.Civil) : 'Z' ∉ IsoTime.dateText date := by
  have hdigit : ∀ n, 'Z' ≠ IsoTime.digit n := fun n => (IsoTime.digit_ne (by decide)).symm
  simp [IsoTime.dateText, IsoTime.fourDigits, IsoTime.twoDigits, hdigit]

/-- **A time that was written is read back.** -/
theorem parseDatetime_zulu {time : Timestamp} (h : IsoTime.InRange time) (name : String) :
    parseDatetime name (zulu time) = .ok time := by
  have htext : String.ofList ((zulu time).toList.flatMap fun c =>
      if c = 'Z' then "+00:00".toList else [c]) = IsoTime.isoformat time := by
    have hplain : 'Z' ∉ IsoTime.dateText (IsoTime.civilOfDays (time / 86400000000)) ++
        'T' :: IsoTime.timeText (time % 86400000000).toNat := by
      have htime : 'Z' ∉ IsoTime.timeText (time % 86400000000).toNat :=
        IsoTime.notMem_timeText (by decide) (by decide) (by decide)
      simp [z_notMem_dateText, htime]
    have hchars : (zulu time).toList = IsoTime.dateText (IsoTime.civilOfDays (time / 86400000000)) ++
        'T' :: IsoTime.timeText (time % 86400000000).toNat ++ ['Z'] := String.toList_ofList
    rw [hchars, List.flatMap_append, flatMap_of_notMem hplain]
    simp [IsoTime.isoformat, IsoTime.isoChars]
  unfold parseDatetime
  rw [htext, IsoTime.fromisoformat_isoformat h]
  simp

theorem canonicalTime_eq_ok {time : Timestamp} {text : String} (h : canonicalTime time = .ok text) :
    IsoTime.InRange time ∧ text = zulu time := by
  unfold canonicalTime at h
  split_ifs at h with hrange
  · exact ⟨hrange, (Except.ok.inj h).symm⟩
  · exact absurd h raise_ne_ok

/-! ## Normalised fields -/

theorem requireNonblank_eq_ok {name value result : String} (h : requireNonblank name value = .ok result) :
    strip value ≠ "" ∧ result = strip value := by
  obtain ⟨_, hblank, h⟩ := bind_eq_ok.mp h
  exact ⟨require_eq_ok.mp hblank, (Except.ok.inj h).symm⟩

/-- A text that was checked passes the check again. -/
theorem requireNonblank_again {name value result : String} (h : requireNonblank name value = .ok result) :
    requireNonblank name result = .ok result := by
  obtain ⟨hblank, rfl⟩ := requireNonblank_eq_ok h
  rw [requireNonblank, strip_strip, require, if_pos hblank]
  rfl

theorem mapM_again {α : Type} {f : α → Outcome α} {items results : List α}
    (hf : ∀ a b, f a = .ok b → f b = .ok b) (h : items.mapM f = .ok results) :
    results.mapM f = .ok results := by
  induction items generalizing results with
  | nil =>
    obtain rfl := Except.ok.inj h
    rfl
  | cons item rest ih =>
    rw [List.mapM_cons] at h
    obtain ⟨first, hfirst, h⟩ := bind_eq_ok.mp h
    obtain ⟨others, hothers, h⟩ := bind_eq_ok.mp h
    obtain rfl := Except.ok.inj h
    rw [List.mapM_cons, hf _ _ hfirst, ok_bind, ih hothers]
    rfl

theorem sortedSet_again (texts : List String) : sortedSet (sortedSet texts) = sortedSet texts := by
  have hnodup : (sortedSet texts).Nodup :=
    (List.perm_insertionSort (fun a b : String => a ≤ b) texts.dedup).nodup_iff.mpr texts.nodup_dedup
  have hsorted := List.pairwise_insertionSort (fun a b : String => a ≤ b) texts.dedup
  unfold sortedSet at hnodup ⊢
  rw [hnodup.dedup, hsorted.insertionSort_eq]

section Fields

variable {F : Type} {N : Numbers F}

/-- What the checks of `build` say, and what they return. -/
structure Normalised (fields normalised : ExperimentFields F) : Prop where
  version : fields.experimentVersion = Improvement.experimentVersion
  horizon : 0 < fields.horizonSeconds
  ordered : fields.researchStart < fields.researchEnd
  guardrails : fields.guardrailMetrics ≠ []
  hypothesis : requireNonblank "hypothesis" fields.hypothesis = .ok normalised.hypothesis
  primaryMetric : requireNonblank "primary_metric" fields.primaryMetric = .ok normalised.primaryMetric
  metrics : fields.guardrailMetrics.mapM (requireNonblank "guardrail_metrics") =
    .ok normalised.guardrailMetrics
  fields : normalised = { fields with
    hypothesis := normalised.hypothesis
    primaryMetric := normalised.primaryMetric
    guardrailMetrics := normalised.guardrailMetrics
    legacyConfirmationIdentifiers := sortedSet fields.legacyConfirmationIdentifiers }

theorem normalise_eq_ok {fields normalised : ExperimentFields F}
    (h : fields.normalise = .ok normalised) : Normalised fields normalised := by
  obtain ⟨_, hversion, h⟩ := bind_eq_ok.mp h
  obtain ⟨hypothesis, hhypothesis, h⟩ := bind_eq_ok.mp h
  obtain ⟨_, hhorizon, h⟩ := bind_eq_ok.mp h
  obtain ⟨_, hordered, h⟩ := bind_eq_ok.mp h
  obtain ⟨primaryMetric, hprimary, h⟩ := bind_eq_ok.mp h
  obtain ⟨_, hguardrails, h⟩ := bind_eq_ok.mp h
  obtain ⟨metrics, hmetrics, h⟩ := bind_eq_ok.mp h
  obtain rfl := Except.ok.inj h
  exact ⟨require_eq_ok.mp hversion, require_eq_ok.mp hhorizon, require_eq_ok.mp hordered,
    require_eq_ok.mp hguardrails, hhypothesis, hprimary, hmetrics, rfl⟩

/-- The fields with their mappings replaced. -/
def ExperimentFields.withMappings (fields : ExperimentFields F) (payload : SpecPayload F) :
    ExperimentFields F :=
  { fields with
    challenger := payload.challenger
    sourceVersions := payload.sourceVersions
    selectionPolicy := payload.selectionPolicy
    confirmationPolicy := payload.confirmationPolicy
    costAssumptions := payload.costAssumptions }

/-- **Normalised fields are normalised**, whatever the mappings are. -/
theorem normalise_again {fields normalised : ExperimentFields F} (h : fields.normalise = .ok normalised)
    (payload : SpecPayload F) :
    (normalised.withMappings payload).normalise = .ok (normalised.withMappings payload) := by
  have hnormal := normalise_eq_ok h
  have hhypothesis := requireNonblank_again hnormal.hypothesis
  have hprimary := requireNonblank_again hnormal.primaryMetric
  have hmetrics := mapM_again (fun _ _ => requireNonblank_again) hnormal.metrics
  have hne : normalised.guardrailMetrics ≠ [] := by
    intro hempty
    have hlength := (forall₂_of_mapM hnormal.metrics).length_eq
    rw [hempty, List.length_nil, List.length_eq_zero_iff] at hlength
    exact hnormal.guardrails hlength
  have hfields := hnormal.fields
  have hversion : normalised.experimentVersion = Improvement.experimentVersion := by
    rw [hfields]
    exact hnormal.version
  have hhorizon : 0 < normalised.horizonSeconds := by
    rw [hfields]
    exact hnormal.horizon
  have hordered : normalised.researchStart < normalised.researchEnd := by
    rw [hfields]
    exact hnormal.ordered
  have hlegacy : sortedSet normalised.legacyConfirmationIdentifiers =
      normalised.legacyConfirmationIdentifiers := by
    rw [hfields]
    exact sortedSet_again _
  unfold ExperimentFields.normalise ExperimentFields.withMappings
  dsimp only
  rw [require, if_pos hversion, ok_bind, hhypothesis, ok_bind, require, if_pos hhorizon, ok_bind,
    require, if_pos hordered, ok_bind, hprimary, ok_bind, require, if_pos hne, ok_bind, hmetrics,
    ok_bind, hlegacy]

/-- What the payload of an experiment is made of. -/
structure PayloadOf (N : Numbers F) (fields : ExperimentFields F) (payload : SpecPayload F) : Prop where
  challenger : canonicalEntries N fields.challenger = .ok payload.challenger
  sourceVersions : canonicalEntries N fields.sourceVersions = .ok payload.sourceVersions
  researchStart : canonicalTime fields.researchStart = .ok payload.researchStart
  researchEnd : canonicalTime fields.researchEnd = .ok payload.researchEnd
  selectionPolicy : canonicalEntries N fields.selectionPolicy = .ok payload.selectionPolicy
  confirmationPolicy : canonicalEntries N fields.confirmationPolicy = .ok payload.confirmationPolicy
  costAssumptions : canonicalEntries N fields.costAssumptions = .ok payload.costAssumptions
  rest : payload = { payload with
    experimentVersion := fields.experimentVersion
    hypothesis := fields.hypothesis
    horizonSeconds := fields.horizonSeconds
    changeFamily := fields.changeFamily.value
    champion := fields.champion.toChampionFields
    primaryMetric := fields.primaryMetric
    guardrailMetrics := fields.guardrailMetrics
    legacyConfirmationIdentifiers := fields.legacyConfirmationIdentifiers }

theorem payload_eq_ok {fields : ExperimentFields F} {payload : SpecPayload F} :
    fields.payload N = .ok payload ↔ PayloadOf N fields payload := by
  constructor
  · intro h
    obtain ⟨challenger, hchallenger, h⟩ := bind_eq_ok.mp h
    obtain ⟨sources, hsources, h⟩ := bind_eq_ok.mp h
    obtain ⟨first, hfirst, h⟩ := bind_eq_ok.mp h
    obtain ⟨last, hlast, h⟩ := bind_eq_ok.mp h
    obtain ⟨selection, hselection, h⟩ := bind_eq_ok.mp h
    obtain ⟨confirmation, hconfirmation, h⟩ := bind_eq_ok.mp h
    obtain ⟨costs, hcosts, h⟩ := bind_eq_ok.mp h
    obtain rfl := Except.ok.inj h
    exact ⟨hchallenger, hsources, hfirst, hlast, hselection, hconfirmation, hcosts, rfl⟩
  · intro h
    unfold ExperimentFields.payload
    rw [h.challenger, ok_bind, h.sourceVersions, ok_bind, h.researchStart, ok_bind, h.researchEnd,
      ok_bind, h.selectionPolicy, ok_bind, h.confirmationPolicy, ok_bind, h.costAssumptions, ok_bind]
    exact congrArg Except.ok h.rest.symm

/-- The canonical mappings have the same payload. -/
theorem payload_again {fields : ExperimentFields F} {payload : SpecPayload F}
    (h : fields.payload N = .ok payload) : (fields.withMappings payload).payload N = .ok payload := by
  have hof := payload_eq_ok.mp h
  exact payload_eq_ok.mpr
    { challenger := canonicalEntries_again hof.challenger
      sourceVersions := canonicalEntries_again hof.sourceVersions
      researchStart := hof.researchStart
      researchEnd := hof.researchEnd
      selectionPolicy := canonicalEntries_again hof.selectionPolicy
      confirmationPolicy := canonicalEntries_again hof.confirmationPolicy
      costAssumptions := canonicalEntries_again hof.costAssumptions
      rest := hof.rest }

theorem build_eq_ok {fields : ExperimentFields F} {createdAt : Timestamp} {spec : ExperimentSpec F}
    (h : ExperimentSpec.build N fields createdAt = .ok spec) :
    fields.normalise = .ok spec.toExperimentFields ∧ spec.createdAt = createdAt ∧
      ∃ payload, spec.payload N = .ok payload ∧ spec.semanticSha256 = N.digest payload.value ∧
        deriveId "phase13-exp" (N.digest payload.value) = .ok spec.experimentId := by
  obtain ⟨normalised, hnormalised, h⟩ := bind_eq_ok.mp h
  obtain ⟨payload, hpayload, h⟩ := bind_eq_ok.mp h
  obtain ⟨experimentId, hid, h⟩ := bind_eq_ok.mp h
  obtain rfl := Except.ok.inj h
  exact ⟨hnormalised, rfl, payload, hpayload, rfl, hid⟩

@[simp] theorem ChangeFamily.ofValue_value (family : ChangeFamily) :
    ChangeFamily.ofValue family.value = .ok family := by
  cases family <;> rfl

/-- **An experiment is built again from its row**, with its mappings in canonical form. -/
theorem experimentFromRow_experimentRow {fields : ExperimentFields F} {createdAt : Timestamp}
    {spec : ExperimentSpec F} {payload : SpecPayload F} {row : ExperimentRow F}
    (hbuild : ExperimentSpec.build N fields createdAt = .ok spec)
    (hpayload : spec.payload N = .ok payload) (hrow : experimentRow spec payload = .ok row) :
    experimentFromRow N row =
      .ok { spec with toExperimentFields := spec.toExperimentFields.withMappings payload } := by
  obtain ⟨hnormalised, hcreated, other, hother, hdigest, hid⟩ := build_eq_ok hbuild
  obtain rfl := Except.ok.inj (hother.symm.trans hpayload)
  have hof := payload_eq_ok.mp hpayload
  obtain ⟨hstart, hstartText⟩ := canonicalTime_eq_ok hof.researchStart
  obtain ⟨hend, hendText⟩ := canonicalTime_eq_ok hof.researchEnd
  obtain ⟨runId, -, hrow⟩ := bind_eq_ok.mp hrow
  obtain rfl := Except.ok.inj hrow
  have hrest := hof.rest
  have hchampion : other.champion = spec.champion.toChampionFields := congrArg SpecPayload.champion hrest
  have hfamily : other.changeFamily = spec.changeFamily.value := congrArg SpecPayload.changeFamily hrest
  have hfields : (⟨other.experimentVersion, other.hypothesis, other.horizonSeconds, spec.changeFamily,
      spec.champion, other.challenger, other.sourceVersions, spec.researchStart, spec.researchEnd,
      other.selectionPolicy, other.confirmationPolicy, other.costAssumptions, other.primaryMetric,
      other.guardrailMetrics, other.legacyConfirmationIdentifiers⟩ : ExperimentFields F) =
      spec.toExperimentFields.withMappings other := by
    rw [hrest]
    rfl
  have hagain : ExperimentSpec.build N (spec.toExperimentFields.withMappings other) spec.createdAt =
      .ok { spec with toExperimentFields := spec.toExperimentFields.withMappings other } := by
    unfold ExperimentSpec.build
    rw [normalise_again hnormalised, ok_bind, payload_again hpayload, ok_bind, hid, ok_bind, hdigest]
  unfold experimentFromRow
  dsimp only
  rw [hchampion, ChampionRef.create_self, ok_bind, hfamily, ChangeFamily.ofValue_value, ok_bind,
    hstartText, parseDatetime_zulu hstart, ok_bind, hendText, parseDatetime_zulu hend, ok_bind, hfields,
    hagain, ok_bind, require, if_pos ⟨rfl, rfl⟩]
  rfl

end Fields

end BpEngine.Improvement
