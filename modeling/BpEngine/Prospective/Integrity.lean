import BpEngine.Prospective.Service

/-!
# The prediction ledger keeps its integrity

What holds of the rows of the ledger whatever the clocks, the network and the services do.

* `InsertsTimely`: a program inserts timely predictions only; `processMarketSafely_inserts` says that
  every market of a cycle is such a program.
* `LedgerInv` is the invariant, `ledgerInv_exec` the step and `ledgerInv_run` the run.
* `Extends`: a row is never changed; `extends_exec` is the step.
-/

namespace BpEngine.Prospective

open BpEngine.PaperLedger

variable {F : Type}

/-! ## What a market inserts -/

/-- The effect inserts a timely prediction, or nothing. -/
def TimelyInsert (op : LiveOp F) : Prop := ∀ row, op = .insert row → Timely row

/-- The program inserts timely predictions only. -/
def InsertsTimely {α : Type} (program : LiveM F α) : Prop :=
  program.Only TimelyInsert fun _ => True

theorem inserts_check {α : Type} (outcome : Outcome α) :
    InsertsTimely (LiveM.check outcome : LiveM F α) :=
  Program.only_ofExcept fun _ _ => trivial

theorem InsertsTimely.bind {α β : Type} {program : LiveM F α} {f : α → LiveM F β}
    (h : InsertsTimely program) (hf : ∀ value, InsertsTimely (f value)) :
    InsertsTimely (program >>= f) := Program.Only.bind h hf

theorem inserts_call {op : LiveOp F} (h : TimelyInsert op) :
    InsertsTimely (Program.call op : LiveM F op.Ans) :=
  Program.only_call.mpr h

theorem inserts_now : InsertsTimely (LiveM.now : LiveM F Timestamp) :=
  inserts_call fun _ hop => by cases hop

theorem inserts_getHistory (upTokenId : String) (start finish : Timestamp) (fidelityMinutes : ℕ)
    (timeout : Option ℤ) :
    InsertsTimely (LiveM.getHistory upTokenId start finish fidelityMinutes timeout : LiveM F _) :=
  (inserts_call fun _ hop => by cases hop).bind fun answer => inserts_check answer

theorem inserts_latestState (conditionId assetId : String) (featureAt : Timestamp) :
    InsertsTimely (LiveM.latestState conditionId assetId featureAt : LiveM F _) :=
  (inserts_call fun _ hop => by cases hop).bind fun answer => inserts_check answer

theorem inserts_find (conditionId predictionVersion : String) :
    InsertsTimely (LiveM.find conditionId predictionVersion : LiveM F _) :=
  (inserts_call fun _ hop => by cases hop).bind fun answer => inserts_check answer

theorem inserts_findById (predictionId : String) :
    InsertsTimely (LiveM.findById predictionId : LiveM F _) :=
  (inserts_call fun _ hop => by cases hop).bind fun answer => inserts_check answer

theorem inserts_insert {row : LivePrediction F} (h : Timely row) :
    InsertsTimely (LiveM.insert row) := by
  refine (inserts_call fun other hop => ?_).bind fun answer => inserts_check answer
  cases hop
  exact h

theorem inserts_pure {α : Type} (value : α) : InsertsTimely (pure value : LiveM F α) := trivial

/-- An observation inserts nothing. -/
theorem observeLiveInput_inserts (A : Arithmetic F) (D : InputDigests F)
    (settings : ObserverSettings) (market : DueMarket) :
    InsertsTimely (observeLiveInput A D settings market) := by
  unfold observeLiveInput
  refine (inserts_check _).bind fun _ => ?_
  refine (inserts_check _).bind fun _ => ?_
  refine (inserts_check _).bind fun _ => ?_
  refine inserts_now.bind fun _ => ?_
  refine (inserts_check _).bind fun _ => ?_
  refine (inserts_check _).bind fun _ => ?_
  refine (inserts_getHistory _ _ _ _ _).bind fun _ => ?_
  refine inserts_now.bind fun _ => ?_
  refine (inserts_check _).bind fun _ => ?_
  refine (inserts_check _).bind fun _ => ?_
  refine (inserts_check _).bind fun _ => ?_
  refine (inserts_latestState _ _ _).bind fun _ => ?_
  refine (inserts_latestState _ _ _).bind fun _ => ?_
  refine (inserts_check _).bind fun _ => ?_
  refine (inserts_check _).bind fun _ => ?_
  refine inserts_now.bind fun _ => ?_
  exact (inserts_check _).bind fun _ => inserts_pure _

/-- The store inserts the prediction it is given. -/
theorem storePrediction_inserts (env : LiveEnv F) {prediction : LivePrediction F}
    (h : Timely prediction) : InsertsTimely (storePrediction env prediction) := by
  unfold storePrediction
  refine (inserts_check _).bind fun _ => ?_
  refine (inserts_find _ _).bind fun found => ?_
  cases found with
  | some row => exact (inserts_check _).bind fun _ => inserts_pure _
  | none =>
    refine (inserts_findById _).bind fun found => ?_
    cases found with
    | some row => exact inserts_check _
    | none => exact (inserts_insert h).bind fun _ => inserts_pure _

/-- **A market of a cycle inserts timely predictions only.** -/
theorem processMarket_inserts (env : LiveEnv F) (config : ServiceConfig F) (market : DueMarket) :
    InsertsTimely (processMarket env config market) := by
  unfold processMarket
  split
  · exact inserts_check _
  · next policy _ =>
    refine (observeLiveInput_inserts _ _ _ _).bind fun input => ?_
    refine inserts_now.bind fun completedAt => ?_
    simp only
    split_ifs
    · exact inserts_pure _
    · exact inserts_pure _
    · cases hbuilt : buildLivePrediction env.arithmetic env.predictionDigests policy input market
        completedAt with
      | error raised => trivial
      | ok prediction =>
        have htimely := buildLivePrediction_spec hbuilt
        exact (storePrediction_inserts env htimely).bind fun _ => inserts_pure _

theorem processMarketSafely_inserts (env : LiveEnv F) (config : ServiceConfig F)
    (market : DueMarket) : InsertsTimely (processMarketSafely env config market) := by
  have hattempt := (processMarket_inserts env config market).attempt
  refine (hattempt.mono (fun _ h => h) fun _ _ => trivial).bind fun result => ?_
  cases result <;> trivial

/-! ## The invariant -/

/-- **The invariant of the ledger**: its rows are timely, at most one for a market and a version, and
the markets that are processed insert timely predictions only. -/
structure LedgerInv (world : LiveWorld F) : Prop where
  timely : ∀ row ∈ world.predictions, Timely row
  unique : (world.predictions.map LivePrediction.key).Nodup
  tasks : ∀ service ∈ world.services, ∀ cycle, service.cycle = some cycle →
    ∀ task ∈ cycle.tasks, InsertsTimely task

/-- What an effect does to the tables: a new timely row is added, or nothing changes. -/
theorem serve_cases (world : LiveWorld F) (op : LiveOp F) (proposal : op.Ans) :
    (world.serve op proposal).2 = world ∨
      ∃ row, op = .insert row ∧ isNewRow world.predictions row = true ∧
        (world.serve op proposal).2 = { world with predictions := world.predictions ++ [row] } := by
  cases op with
  | insert row =>
    simp only [LiveWorld.serve]
    cases proposal with
    | error raised => exact Or.inl rfl
    | ok _ =>
      by_cases hnew : isNewRow world.predictions row = true
      · exact Or.inr ⟨row, rfl, hnew, by simp only [hnew, if_true]⟩
      · exact Or.inl (by simp only [hnew]; rfl)
  | now => exact Or.inl rfl
  | getHistory upTokenId start finish fidelityMinutes timeout => exact Or.inl rfl
  | latestState conditionId assetId featureAt => exact Or.inl rfl
  | find conditionId predictionVersion => exact Or.inl rfl
  | findById predictionId => exact Or.inl rfl

theorem LedgerInv.of_serve {world : LiveWorld F} (h : LedgerInv world) {op : LiveOp F}
    (hop : TimelyInsert op) (proposal : op.Ans) : LedgerInv (world.serve op proposal).2 := by
  rcases serve_cases world op proposal with hsame | ⟨row, rfl, hnew, hworld⟩
  · rw [hsame]
    exact h
  · rw [hworld]
    refine ⟨fun other hother => ?_, ?_, h.tasks⟩
    · rcases List.mem_append.mp hother with hin | hin
      · exact h.timely other hin
      · rw [List.mem_singleton.mp hin]
        exact hop row rfl
    · show ((world.predictions ++ [row]).map LivePrediction.key).Nodup
      rw [List.map_append, List.nodup_append]
      refine ⟨h.unique, List.nodup_singleton _, ?_⟩
      intro key hkey key' hkey' heq
      obtain ⟨other, hother, rfl⟩ := List.mem_map.mp hkey
      have hdiffers := List.all_eq_true.mp hnew other hother
      simp only [Bool.and_eq_true, decide_eq_true_eq] at hdiffers
      rw [List.map_singleton, List.mem_singleton] at hkey'
      exact hdiffers.1 (heq.trans hkey')

/-- A service may be changed to one whose markets insert timely predictions only. -/
theorem LedgerInv.of_setService {world : LiveWorld F} (h : LedgerInv world) (place : ℕ)
    {service : LiveService F} (hservice : ∀ cycle, service.cycle = some cycle →
      ∀ task ∈ cycle.tasks, InsertsTimely task) : LedgerInv (world.setService place service) := by
  refine ⟨h.timely, h.unique, fun other hother => ?_⟩
  rcases List.mem_or_eq_of_mem_set hother with hin | rfl
  · exact h.tasks other hin
  · exact hservice

theorem LedgerInv.of_beginCycle {env : LiveEnv F} {world : LiveWorld F} (h : LedgerInv world)
    (place : ℕ) (now : Timestamp) : LedgerInv (world.beginCycle env place now) := by
  unfold LiveWorld.beginCycle
  split
  · split
    · exact h
    · refine h.of_setService place fun cycle hcycle task htask => ?_
      cases hcycle
      obtain ⟨market, -, rfl⟩ := List.mem_map.mp htask
      exact processMarketSafely_inserts env _ market
  · exact h

theorem LedgerInv.of_stepMarket {world : LiveWorld F} (h : LedgerInv world) (place task : ℕ)
    (proposal : (op : LiveOp F) → op.Ans) : LedgerInv (world.stepMarket place task proposal) := by
  unfold LiveWorld.stepMarket
  split
  · next config cycle hservice =>
    have htasks : ∀ program ∈ cycle.tasks, InsertsTimely program :=
      h.tasks _ (List.mem_of_getElem? hservice) cycle rfl
    have herase : ∀ result : CycleResult, LedgerInv
        (world.setService place ⟨config, some ⟨cycle.tasks.eraseIdx task, result⟩⟩) := by
      intro result
      refine h.of_setService place fun cycle' hcycle' program hprogram => ?_
      cases hcycle'
      exact htasks program (List.mem_of_mem_eraseIdx hprogram)
    split
    · exact h
    · exact herase _
    · exact herase _
    · next op next hprogram =>
      have hobeys := htasks _ (List.mem_of_getElem? hprogram)
      refine (h.of_serve hobeys.1 (proposal op)).of_setService place ?_
      intro cycle' hcycle' other hother
      cases hcycle'
      rcases List.mem_or_eq_of_mem_set hother with hin | rfl
      · exact htasks other hin
      · exact hobeys.2 _
  · exact h

theorem LedgerInv.of_endCycle {env : LiveEnv F} {world : LiveWorld F} (h : LedgerInv world)
    (place : ℕ) (now : Timestamp) : LedgerInv (world.endCycle env place now) := by
  unfold LiveWorld.endCycle
  split
  · next config result hservice =>
    have hset : LedgerInv (world.setService place ⟨config, none⟩) := h.of_setService place (by simp)
    exact ⟨hset.timely, hset.unique, hset.tasks⟩
  · exact h

/-- **The step**: every event keeps the invariant. -/
theorem ledgerInv_exec (env : LiveEnv F) (world : LiveWorld F) (event : LiveEvent F)
    (h : LedgerInv world) : LedgerInv (world.exec env event) := by
  cases event with
  | outside markets database labels => exact ⟨h.timely, h.unique, h.tasks⟩
  | start config =>
    refine ⟨h.timely, h.unique, fun service hservice => ?_⟩
    rcases List.mem_append.mp hservice with hin | hin
    · exact h.tasks service hin
    · rw [List.mem_singleton.mp hin]
      simp
  | stop place =>
    exact ⟨h.timely, h.unique, fun service hservice =>
      h.tasks service (List.mem_of_mem_eraseIdx hservice)⟩
  | beginCycle place now => exact h.of_beginCycle place now
  | stepMarket place task proposal => exact h.of_stepMarket place task proposal
  | endCycle place now => exact h.of_endCycle place now

/-! ## Rows are never changed -/

/-- The rows of the other world come after those of the world. -/
structure Extends (world other : LiveWorld F) : Prop where
  predictions : world.predictions <+: other.predictions
  evaluations : world.evaluations <+: other.evaluations

theorem Extends.refl (world : LiveWorld F) : Extends world world :=
  ⟨List.prefix_refl _, List.prefix_refl _⟩

theorem Extends.trans {world other third : LiveWorld F} (h : Extends world other)
    (h' : Extends other third) : Extends world third :=
  ⟨h.predictions.trans h'.predictions, h.evaluations.trans h'.evaluations⟩

/-- One pass of the evaluation appends a row or nothing. -/
theorem appendEvaluation_extends {scoring : Scoring} {labels : List MarketLabel}
    {evaluatedAt : Timestamp} {evaluations after : List Evaluation}
    {prediction : PaperLedger.LivePrediction}
    (h : appendEvaluation scoring labels evaluatedAt evaluations prediction = .ok after) :
    evaluations <+: after := by
  unfold appendEvaluation at h
  split_ifs at h
  · cases h
    exact List.prefix_refl _
  · split at h
    · cases h
      exact List.prefix_refl _
    · split at h
      · obtain ⟨evaluation, -, h⟩ := bind_eq_ok.mp h
        split at h
        · exact absurd h raise_ne_ok
        · cases h
          exact List.prefix_refl _
      · obtain ⟨evaluation, -, h⟩ := bind_eq_ok.mp h
        unfold storeEvaluation at h
        obtain ⟨_, -, h⟩ := bind_eq_ok.mp h
        cases h
        exact List.prefix_append _ _

theorem appendAvailableEvaluations_extends {scoring : Scoring} {labels : List MarketLabel}
    {predictions : List PaperLedger.LivePrediction} {evaluatedAt : Timestamp}
    {evaluations after : List Evaluation}
    (h : appendAvailableEvaluations scoring labels predictions evaluatedAt evaluations =
      .ok after) : evaluations <+: after := by
  unfold appendAvailableEvaluations at h
  induction predictions generalizing evaluations with
  | nil =>
    cases h
    exact List.prefix_refl _
  | cons prediction predictions ih =>
    rw [List.foldlM_cons] at h
    obtain ⟨between, hbetween, h⟩ := bind_eq_ok.mp h
    exact (appendEvaluation_extends hbetween).trans (ih h)

theorem extends_serve (world : LiveWorld F) (op : LiveOp F) (proposal : op.Ans) :
    Extends world (world.serve op proposal).2 := by
  rcases serve_cases world op proposal with hsame | ⟨row, -, -, hworld⟩
  · rw [hsame]
    exact Extends.refl world
  · rw [hworld]
    exact ⟨List.prefix_append _ _, List.prefix_refl _⟩

theorem extends_endCycle (env : LiveEnv F) (world : LiveWorld F) (place : ℕ) (now : Timestamp) :
    Extends world (world.endCycle env place now) := by
  unfold LiveWorld.endCycle
  split
  · refine ⟨List.prefix_refl _, ?_⟩
    show world.evaluations <+: _
    simp only
    split
    · next evaluations hevaluations => exact appendAvailableEvaluations_extends hevaluations
    · exact List.prefix_refl _
  · exact Extends.refl world

/-- **The step**: no event changes a row. -/
theorem extends_exec (env : LiveEnv F) (world : LiveWorld F) (event : LiveEvent F) :
    Extends world (world.exec env event) := by
  cases event with
  | outside markets database labels => exact ⟨List.prefix_refl _, List.prefix_refl _⟩
  | start config => exact ⟨List.prefix_refl _, List.prefix_refl _⟩
  | stop place => exact ⟨List.prefix_refl _, List.prefix_refl _⟩
  | beginCycle place now =>
    show Extends world (world.beginCycle env place now)
    unfold LiveWorld.beginCycle
    split
    · split
      · exact Extends.refl world
      · exact ⟨List.prefix_refl _, List.prefix_refl _⟩
    · exact Extends.refl world
  | stepMarket place task proposal =>
    show Extends world (world.stepMarket place task proposal)
    unfold LiveWorld.stepMarket
    split
    · split
      · exact Extends.refl world
      · exact ⟨List.prefix_refl _, List.prefix_refl _⟩
      · exact ⟨List.prefix_refl _, List.prefix_refl _⟩
      · next op next _ =>
        have hserve := extends_serve world op (proposal op)
        exact ⟨hserve.predictions, hserve.evaluations⟩
    · exact Extends.refl world
  | endCycle place now => exact extends_endCycle env world place now

theorem extends_run (env : LiveEnv F) (world : LiveWorld F) (events : List (LiveEvent F)) :
    Extends world (Machine.run (LiveWorld.exec env) world events) := by
  induction events generalizing world with
  | nil => exact Extends.refl world
  | cons event events ih => exact (extends_exec env world event).trans (ih _)

/-! ## The ledger -/

/-- The database before any prediction, with no service running. -/
def LiveWorld.initial (markets : List PolymarketMarket) (database : Features.Database)
    (labels : List MarketLabel) : LiveWorld F where
  markets := markets
  database := database
  labels := labels

/-- **The run**: the invariant holds after any events. -/
theorem ledgerInv_run (env : LiveEnv F) (markets : List PolymarketMarket)
    (database : Features.Database) (labels : List MarketLabel) (events : List (LiveEvent F)) :
    LedgerInv (Machine.run (LiveWorld.exec env) (.initial markets database labels) events) := by
  refine Machine.run_invariant' _ (fun world event h => ledgerInv_exec env world event h) ?_ events
  exact ⟨by simp [LiveWorld.initial], List.nodup_nil, by simp [LiveWorld.initial]⟩

/-- **The prediction ledger keeps its integrity**: after any events its predictions are timely, there
is at most one for a market and a version, and nothing that happens later changes a stored prediction
or evaluation. -/
theorem ledger_integrity (env : LiveEnv F) (markets : List PolymarketMarket)
    (database : Features.Database) (labels : List MarketLabel) (events later : List (LiveEvent F)) :
    let world := Machine.run (LiveWorld.exec env) (.initial markets database labels) events
    (∀ row ∈ world.predictions, Timely row) ∧
      (world.predictions.map fun row => (row.conditionId, row.predictionVersion)).Nodup ∧
      Extends world (Machine.run (LiveWorld.exec env) world later) := by
  intro world
  have h := ledgerInv_run env markets database labels events
  exact ⟨h.timely, h.unique, extends_run env world later⟩

end BpEngine.Prospective
