import BpEngine.Improvement.RegistryRun

/-!
# The commands of the improvement CLI

`improvement/cli.py`: `register`, `evaluate` and `decide`.  Evaluations come from `evaluate` only, whose
evidence is ordinary out-of-sample evidence, so that none of them is eligible and no challenger is ever
promoted.

* `cliStep` is a command in its transaction.
* `evaluateSpreadGuardChallenger_ineligible`: what the challenger's evaluation reports.
* `cli_never_promotes`: what follows for every run of commands.
-/

namespace BpEngine.Improvement

variable {F : Type} {N : Numbers F}

/-- The commands that write the registry; `register` with what `_load_experiment_spec` reads. -/
inductive CliCommand (F : Type) where
  | register (fields : ExperimentFields F) (createdAt : Timestamp)
  | evaluate (experimentId : String) (now : Timestamp)
      (analyse : ExperimentSpec F → Outcome (SpreadGuardSource F))
  | decide (evaluationId : String) (decision : PromotionDecision) (rationale : String)
      (now : Timestamp)

/-- `_run_database_command`. -/
def cliStep (N : Numbers F) (registry : Registry F) : CliCommand F → Registry F
  | .register fields createdAt =>
    match ExperimentSpec.build N fields createdAt with
    | .ok spec => commandStep N registry (.register spec)
    | .error _ => registry
  | .evaluate experimentId now analyse => commandStep N registry (.evaluate experimentId now analyse)
  | .decide evaluationId decision rationale now =>
    commandStep N registry (.decide evaluationId decision rationale now)

/-- The evidence of a challenger is ordinary. -/
theorem evidenceManifest_ordinary {source : SpreadGuardSource F} {manifest : List (EvidenceItem F)}
    (h : evidenceManifest N source = .ok manifest) : ∀ item ∈ manifest, item.role = .ordinaryOos := by
  have hitem : ∀ {kind conditionId : String} {netPnl : Option F} {item : EvidenceItem F},
      ordinaryItem N source kind conditionId netPnl = .ok item → item.role = .ordinaryOos := by
    intro kind conditionId netPnl item h
    unfold ordinaryItem at h
    split at h
    · exact absurd h raise_ne_ok
    · obtain ⟨_, -, h⟩ := bind_eq_ok.mp h
      obtain rfl := Except.ok.inj h
      rfl
  obtain ⟨ordinary, hordinary, h⟩ := bind_eq_ok.mp h
  obtain ⟨legacy, hlegacy, h⟩ := bind_eq_ok.mp h
  obtain rfl := Except.ok.inj h
  intro item hmem
  rcases List.mem_append.mp hmem with hmem | hmem
  · exact forall_right_of_forall₂ (forall₂_of_mapM hordinary) (fun _ _ => hitem) item hmem
  · exact forall_right_of_forall₂ (forall₂_of_mapM hlegacy) (fun _ _ => hitem) item hmem

theorem mem_sortedSet {text : String} {texts : List String} : text ∈ sortedSet texts ↔ text ∈ texts := by
  rw [sortedSet, List.mem_insertionSort, List.mem_dedup]

/-- Without independent confirmation a challenger is not eligible. -/
theorem comparePolicies_ineligible {interval : Option (BootstrapInterval F)}
    {championLogLoss challengerLogLoss championBrier challengerBrier : F} {integrityOk : Bool}
    {comparison : ComparisonResult F}
    (h : comparePolicies N interval championLogLoss challengerLogLoss championBrier challengerBrier false
      integrityOk = .ok comparison) : comparison.promotionEligible = false := by
  iterate 5 obtain ⟨_, -, h⟩ := bind_eq_ok.mp h
  obtain rfl := Except.ok.inj h
  dsimp only
  rw [List.isEmpty_eq_false_iff]
  refine List.ne_nil_of_mem (a := "independent_confirmation_missing") (mem_sortedSet.mpr ?_)
  simp [reasonIf]

/-- **The evaluation of a spread guard** is not eligible. -/
theorem evaluateSpreadGuardChallenger_ineligible {registry : Registry F} {experimentId : String}
    {createdAt : Timestamp} {analyse : ExperimentSpec F → Outcome (SpreadGuardSource F)}
    {report : EvaluationReport F}
    (h : evaluateSpreadGuardChallenger N registry experimentId createdAt analyse = .ok report) :
    report.promotionEligible = false := by
  iterate 4 obtain ⟨_, -, h⟩ := bind_eq_ok.mp h
  obtain ⟨source, -, h⟩ := bind_eq_ok.mp h
  obtain ⟨manifest, hmanifest, h⟩ := bind_eq_ok.mp h
  obtain ⟨comparison, hcomparison, h⟩ := bind_eq_ok.mp h
  obtain ⟨challengerId, -, h⟩ := bind_eq_ok.mp h
  obtain ⟨normalised, hnormalised, h⟩ := bind_eq_ok.mp h
  obtain ⟨_, -, h⟩ := bind_eq_ok.mp h
  obtain ⟨_, -, h⟩ := bind_eq_ok.mp h
  obtain rfl := Except.ok.inj h
  have hpresent : manifest.any (·.role.isConfirmation) = false := by
    rw [List.any_eq_false]
    intro item hitem
    rw [evidenceManifest_ordinary hmanifest item hitem]
    decide
  rw [hpresent] at hcomparison
  obtain ⟨-, -, heligible, -⟩ := evaluationNormalise_eq_ok hnormalised
  exact heligible.trans (comparePolicies_ineligible hcomparison)

/-! ## Runs -/

/-- No evaluation is eligible, and no decision promotes. -/
structure NeverPromotes (N : Numbers F) (registry : Registry F) : Prop where
  sound : RegistryOk N registry
  ineligible : ∀ row ∈ registry.evaluations, row.promotionEligible = false
  decisions : ∀ row ∈ registry.decisions,
    row.decision ≠ PromotionDecision.promoteChallenger.value

theorem NeverPromotes.register {registry : Registry F} (h : NeverPromotes N registry)
    (spec : ExperimentSpec F) : NeverPromotes N (commandStep N registry (.register spec)) := by
  refine committed_ok h fun after hstored => ?_
  have hsound := registryOk_storeExperiment h.sound hstored
  rcases storeExperiment_spec hstored with hsame | ⟨row, -, -, hnew⟩
  · rwa [hsame]
  · rw [hnew] at hsound ⊢
    exact ⟨hsound, h.ineligible, h.decisions⟩

theorem NeverPromotes.evaluate {registry : Registry F} (h : NeverPromotes N registry)
    (experimentId : String) (now : Timestamp)
    (analyse : ExperimentSpec F → Outcome (SpreadGuardSource F)) :
    NeverPromotes N (commandStep N registry (.evaluate experimentId now analyse)) := by
  refine committed_ok h fun after hafter => ?_
  obtain ⟨report, hreport, stored, hkept, hstored⟩ := evaluateExperiment_spec hafter
  rw [hstored]
  have hsound := registryOk_storeEvaluation h.sound hkept
  rcases storeEvaluation_spec h.sound.experiments hkept with hsame | ⟨row, hrow, hnew⟩
  · rwa [hsame]
  · rw [hnew] at hsound ⊢
    refine ⟨hsound, Table.forall_mem_concat h.ineligible ?_, h.decisions⟩
    rw [hrow.eligible]
    exact evaluateSpreadGuardChallenger_ineligible hreport

theorem NeverPromotes.decide {registry : Registry F} (h : NeverPromotes N registry)
    (evaluationId : String) (decision : PromotionDecision) (rationale : String) (now : Timestamp) :
    NeverPromotes N (commandStep N registry (.decide evaluationId decision rationale now)) := by
  refine committed_ok h fun after hstored => ?_
  have hsound := registryOk_recordDecision h.sound hstored
  rcases recordDecision_spec h.sound.experiments h.sound.evaluations hstored with
    hsame | ⟨row, -, hrow, hnew⟩
  · rwa [hsame]
  · rw [hnew] at hsound ⊢
    refine ⟨hsound, h.ineligible, Table.forall_mem_concat h.decisions fun hpromote => ?_⟩
    obtain ⟨evaluation, hevaluation, -, -, -, heligible⟩ := hrow.evaluation
    have hnot := h.ineligible evaluation hevaluation
    rw [heligible hpromote] at hnot
    cases hnot

theorem neverPromotes_cliStep {registry : Registry F} (h : NeverPromotes N registry)
    (command : CliCommand F) : NeverPromotes N (cliStep N registry command) := by
  cases command with
  | register fields createdAt =>
    unfold cliStep
    dsimp only
    split
    · exact h.register _
    · exact h
  | evaluate experimentId now analyse => exact h.evaluate experimentId now analyse
  | decide evaluationId decision rationale now => exact h.decide evaluationId decision rationale now

/-- **The CLI never promotes a challenger**: in no run of its commands is an evaluation stored that is
eligible, or a decision that promotes. -/
theorem cli_never_promotes (N : Numbers F) (commands : List (CliCommand F)) :
    (∀ row ∈ (Machine.run (cliStep N) {} commands).evaluations, row.promotionEligible = false) ∧
      ∀ row ∈ (Machine.run (cliStep N) {} commands).decisions,
        row.decision ≠ PromotionDecision.promoteChallenger.value := by
  have hempty : NeverPromotes N {} :=
    ⟨RegistryOk.empty, List.forall_mem_nil _, List.forall_mem_nil _⟩
  have hrun := Machine.run_invariant' (J := NeverPromotes N) (cliStep N)
    (fun _ command h => neverPromotes_cliStep h command) hempty commands
  exact ⟨hrun.ineligible, hrun.decisions⟩

end BpEngine.Improvement
