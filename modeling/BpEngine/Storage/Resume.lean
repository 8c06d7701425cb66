import BpEngine.Storage.Retirement

/-!
# Retirement after a crash

A retirement is several transactions, and a crash leaves what is between two of them.  The next runs
find the table of the hour in whatever state it is and retire it; the ledger of dedupe keys is cleared
only by the call that drops the table.

* `ResumePhase` is what a run finds and does about one hour; `resumes_runCommand` says that a run that
  returns, and that no critical disk cuts short, has dropped the table and cleared every child.
* `Known` connects it with the world; `resumeKeeps` is its step, `goneKeeps` the one of what stays.
* `retirement_resumes` is the result for a crash in any run; `not_retirement_resumes` is what the runs
  after a crash do not do: they mark no manifest, and they leave the ledger of a dropped table.
-/

namespace BpEngine.Storage

/-! ## What a run does about an hour -/

/-- What a run knows of the hour: whether the disk was critical, and, once the table is gone, the
children of the ledger that hold no claim of the hour. -/
structure ResumePhase where
  critical : Bool := false
  cleared : Option (List ℕ) := none

/-- What a run finds and does about the hour that starts at `startAt`, after `clock`. -/
def resumeProtocol (clock startAt : ℤ) : Protocol Op Op.Ans ResumePhase where
  allowed := fun _ _ => True
  expects := fun _ op answer => match op, answer with
    | .now, .ok now => clock ≤ now
    | .rawStorageMode, .ok mode => mode = .partitioned
    | .readManifest name, .ok content => ∀ manifest, content = some manifest →
      manifest.startAt = name.startAt ∧ manifest.endAt = name.endAt
    | .listDedupePartitions, .ok children => children = List.range dedupePartitions
    | .spin, .ok _ => False
    | _, _ => True
  next := fun phase op answer => match op, answer with
    | .diskHealth, .ok health => { phase with critical := phase.critical || decide (health = .critical) }
    | .listRawRetirementCandidates, .ok candidates =>
      if startAt ∈ candidates then phase
      else { phase with cleared := phase.cleared.or (some (List.range dedupePartitions)) }
    | .recountAndDrop dropped _, .ok _ =>
      if floorHour dropped = startAt then { phase with cleared := some [] } else phase
    | .deleteDedupeBatch child lower upper limit, .ok deleted =>
      if lower = startAt ∧ upper = startAt + hour ∧ deleted < limit then
        { phase with cleared := phase.cleared.map (child :: ·) }
      else phase
    | _, _ => phase

variable {config : StorageConfig} {clock startAt : ℤ} {phase : ResumePhase}

/-- Every child of the ledger is cleared. -/
def ResumePhase.Over (phase : ResumePhase) : Prop :=
  ∃ cleared, phase.cleared = some cleared ∧ ∀ child < dedupePartitions, child ∈ cleared

/-- The run was cut short, or is through with the hour. -/
def ResumePhase.Done (phase : ResumePhase) : Prop := phase.critical = true ∨ phase.Over

/-- The operations that leave what is known of the hour alone. -/
def Op.quietForHour : Op → Bool
  | .now | .rawStorageMode | .readManifest _ | .listDedupePartitions | .spin | .diskHealth
  | .listRawRetirementCandidates | .recountAndDrop _ _ | .deleteDedupeBatch _ _ _ _ => false
  | _ => true

abbrev HourQuiet (op : Op) : Prop := op.quietForHour = true

/-- A triple of the protocol. -/
abbrev HourTriple (clock startAt : ℤ) {α : Type} (phase : ResumePhase) (program : StorageM α)
    (Q : ResumePhase → α → Prop) : Prop :=
  (resumeProtocol clock startAt).Obeys (Protocol.Ends Q) program phase

theorem hour_check {condition : Prop} [Decidable condition] {cls : PyClass} {message : String}
    {α : Type} {f : Unit → StorageM α} {Q : ResumePhase → α → Prop}
    (h : condition → HourTriple clock startAt phase (f ()) Q) :
    HourTriple clock startAt phase (check condition cls message >>= f) Q :=
  Protocol.Obeys.ends_ofExcept_bind fun _ hcheck => h (require_eq_ok.mp hcheck)

theorem hour_next_of_quiet {op : Op} (h : HourQuiet op) (answer : op.Ans) :
    (resumeProtocol clock startAt).next phase op answer = phase := by
  cases op <;> first | rfl | cases h

/-- A quiet operation goes on in the same phase. -/
theorem hour_quiet_bind {op : Op} {α : Type} {f : op.Result → StorageM α}
    {Q : ResumePhase → α → Prop} (hop : HourQuiet op)
    (h : ∀ result, HourTriple clock startAt phase (f result) Q) :
    HourTriple clock startAt phase (perform op >>= f) Q :=
  Protocol.Obeys.ends_ask_bind trivial fun result _ => by
    rw [hour_next_of_quiet hop]
    exact h result

/-- A program of operations that keep a condition on the phase keeps it. -/
theorem hour_keep {α : Type} {S : Op → Prop} {J : ResumePhase → Prop} {program : StorageM α}
    (h : program.Only S fun _ => True)
    (hnext : ∀ phase op answer, J phase → S op → J ((resumeProtocol clock startAt).next phase op answer))
    (hJ : J phase) : HourTriple clock startAt phase program fun phase' _ => J phase' :=
  (Protocol.Obeys.of_only_keep h (fun _ _ _ _ => trivial) hnext hJ).mono fun _ _ hkept _ _ => hkept

/-- Nothing is forbidden. -/
theorem hour_any {α : Type} (program : StorageM α) :
    HourTriple clock startAt phase program fun _ _ => True :=
  hour_keep (J := fun _ => True) (Program.only_true program) (fun _ _ _ _ _ => trivial) trivial

/-- The operations of a prune, of the reads and of the detach. -/
theorem hour_next_same {op : Op} (h : op.readsFiles = true ∨ op.readsDatabase = true ∨
    op.unlinks = true ∨ op.detaches = true) (answer : op.Ans) :
    (resumeProtocol clock startAt).next phase op answer = phase := by
  cases op <;> first | rfl | simp [Op.readsFiles, Op.readsDatabase, Op.unlinks, Op.detaches] at h

/-- What is done with the hour stays done, except for another drop. -/
theorem done_next {op : Op} (hdrop : ∀ dropped rowCount, op ≠ .recountAndDrop dropped rowCount)
    (h : phase.Done) (answer : op.Ans) :
    ((resumeProtocol clock startAt).next phase op answer).Done := by
  cases op
  case recountAndDrop dropped rowCount => exact absurd rfl (hdrop dropped rowCount)
  case diskHealth =>
    cases answer with
    | error raised => exact h
    | ok health => exact h.imp_left fun hcritical => by simp [resumeProtocol, hcritical]
  case listRawRetirementCandidates =>
    cases answer with
    | error raised => exact h
    | ok candidates =>
      simp only [resumeProtocol]
      split_ifs
      · exact h
      · refine h.imp_right fun hover => ?_
        obtain ⟨cleared, hcleared, hall⟩ := hover
        exact ⟨cleared, by simp [hcleared], hall⟩
  case deleteDedupeBatch child lower upper limit =>
    cases answer with
    | error raised => exact h
    | ok deleted =>
      simp only [resumeProtocol]
      split_ifs
      · refine h.imp_right fun hover => ?_
        obtain ⟨cleared, hcleared, hall⟩ := hover
        exact ⟨child :: cleared, by simp [hcleared],
          fun other hother => List.mem_cons_of_mem child (hall other hother)⟩
      · exact h
  all_goals exact h

/-- An operation other than a drop goes on with the hour done. -/
theorem hour_done_bind {op : Op} {α : Type} {f : op.Result → StorageM α}
    {Q : ResumePhase → α → Prop} (hdrop : ∀ dropped rowCount, op ≠ .recountAndDrop dropped rowCount)
    (hdone : phase.Done)
    (h : ∀ phase' result, phase'.Done → HourTriple clock startAt phase' (f result) Q) :
    HourTriple clock startAt phase (perform op >>= f) Q :=
  Protocol.Obeys.ends_ask_bind trivial fun result _ => h _ result (done_next hdrop hdone _)

/-! ### Archives -/

theorem hour_readArchive_bind {name : ArchiveName} {cls : PyClass} {message : String} {α : Type}
    {f : List RawRow → StorageM α} {Q : ResumePhase → α → Prop}
    (h : ∀ rows, HourTriple clock startAt phase (f rows) Q) :
    HourTriple clock startAt phase (readArchive name cls message >>= f) Q := by
  refine Protocol.Obeys.ends_bind (R := fun phase' _ => phase' = phase) ?_ ?_
  · refine hour_quiet_bind rfl fun content => ?_
    cases content with
    | none => exact Protocol.ends_error
    | some rows => exact Protocol.ends_ok.mpr rfl
  · rintro phase' rows rfl
    exact h rows

theorem hour_verifyArchive (name : ArchiveName) :
    HourTriple clock startAt phase (verifyArchive config name) fun phase' manifest =>
      phase' = phase ∧ manifest.archiveName = name ∧ manifest.startAt = name.startAt ∧
        manifest.endAt = name.endAt := by
  refine hour_quiet_bind rfl fun _ => hour_check fun _ => hour_quiet_bind rfl fun _ =>
    hour_check fun _ => ?_
  refine Protocol.Obeys.ends_ask_bind trivial fun content hcontent => ?_
  cases content with
  | none => exact Protocol.ends_error
  | some manifest =>
    obtain ⟨hstart, hend⟩ := hcontent manifest rfl
    refine hour_check fun hname => ?_
    refine hour_readArchive_bind fun _ => hour_check fun _ => ?_
    refine hour_readArchive_bind fun _ => hour_check fun _ => ?_
    refine hour_readArchive_bind fun _ => hour_check fun _ => ?_
    exact Protocol.ends_ok.mpr ⟨rfl, hname, hstart, hend⟩

theorem hour_archiveInterval (lower upper : ℤ) :
    HourTriple clock startAt phase (archiveInterval config lower upper) fun phase' manifest =>
      phase' = phase ∧ manifest.archiveName = ⟨lower, upper⟩ := by
  have hexists : HourTriple clock startAt phase (archiveAndManifestExist ⟨lower, upper⟩)
      fun phase' _ => phase' = phase := by
    refine hour_quiet_bind rfl fun present => ?_
    cases present with
    | false => exact Protocol.ends_ok.mpr rfl
    | true => exact Protocol.Obeys.ends_ask trivial fun _ _ => rfl
  refine hour_check fun _ => hexists.ends_bind fun phase' present hphase => ?_
  subst hphase
  cases present with
  | false =>
    refine hour_quiet_bind rfl fun rows => hour_quiet_bind rfl fun _ => hour_quiet_bind rfl fun _ => ?_
    exact (hour_verifyArchive ⟨lower, upper⟩).ends_mono fun phase'' manifest h => ⟨h.1, h.2.1⟩
  | true =>
    refine (hour_verifyArchive ⟨lower, upper⟩).ends_bind fun phase'' manifest h => ?_
    exact hour_check fun _ => Protocol.ends_ok.mpr ⟨h.1, h.2.1⟩

/-! ### Retirement -/

theorem hour_prepareRetirement (name : ArchiveName) (batchSize : ℤ) (allowTerminal : Bool) :
    HourTriple clock startAt phase (prepareRetirement config name batchSize allowTerminal)
      fun phase' manifest => phase' = phase ∧ manifest.startAt = name.startAt ∧
        manifest.endAt = manifest.startAt + hour ∧ floorHour manifest.startAt = manifest.startAt := by
  have hkeep : ∀ {α : Type} {program : StorageM α}, program.Only (fun op => op.readsFiles = true ∨
      op.readsDatabase = true ∨ op.unlinks = true ∨ op.detaches = true) (fun _ => True) →
      HourTriple clock startAt phase program fun phase' _ => phase' = phase := by
    intro α program honly
    exact hour_keep (J := fun phase' => phase' = phase) honly
      (fun phase' op answer hsame hop => (hour_next_same hop answer).trans hsame) rfl
  refine hour_check fun _ => (hour_verifyArchive name).ends_bind ?_
  rintro phase' manifest ⟨rfl, -, hstart, -⟩
  refine hour_check fun hend => hour_check fun haligned => ?_
  refine (hkeep (only_compactCutoff manifest allowTerminal
    fun _ h => .inr (.inl h))).ends_bind ?_
  rintro phase'' - rfl
  refine (hkeep (only_checkLiveRows manifest fun _ h => .inr (.inl h))).ends_bind ?_
  rintro phase'' - rfl
  refine (hkeep (only_detachRawPartitionConcurrently manifest.startAt (fun _ h => .inr (.inl h))
    fun _ h => .inr (.inr (.inr h)))).ends_bind ?_
  rintro phase'' - rfl
  exact Protocol.ends_ok.mpr ⟨rfl, hstart, hend, haligned⟩

/-- The phase after the children were cleared. -/
def ResumePhase.clear (phase : ResumePhase) (children : List ℕ) : ResumePhase :=
  { phase with cleared := phase.cleared.map (children ++ ·) }

/-- A loop of batches of a child clears it, if it is over the hour. -/
theorem hour_deleteBatches (child : ℕ) (lower upper : ℤ) (limit fuel : ℕ) :
    HourTriple clock startAt phase
      (deleteBatches limit (perform (.deleteDedupeBatch child lower upper limit)) fuel)
      fun phase' _ => phase' =
        if lower = startAt ∧ upper = startAt + hour then phase.clear [child] else phase := by
  induction fuel with
  | zero =>
    refine Protocol.Obeys.ends_ask_bind trivial fun _ hspin => ?_
    cases hspin
  | succ fuel ih =>
    refine Protocol.Obeys.ends_ask_bind trivial fun deleted _ => ?_
    by_cases hlast : (deleted : ℕ) < limit
    · have hshort : (deleted : ℤ) < limit := Int.ofNat_lt.mpr hlast
      rw [if_pos hshort]
      refine Protocol.ends_ok.mpr ?_
      by_cases hhour : lower = startAt ∧ upper = startAt + hour
      · rw [if_pos hhour]
        exact if_pos ⟨hhour.1, hhour.2, hlast⟩
      · rw [if_neg hhour]
        exact if_neg fun h => hhour ⟨h.1, h.2.1⟩
    · have hfull : ¬ (deleted : ℤ) < limit := fun h => hlast (Int.ofNat_lt.mp h)
      rw [if_neg hfull]
      have hsame : (resumeProtocol clock startAt).next phase
          (.deleteDedupeBatch child lower upper limit) (.ok deleted) = phase :=
        if_neg fun h => hlast h.2.2
      rw [hsame]
      refine ih.ends_bind ?_
      rintro phase' later hphase
      exact Protocol.ends_ok.mpr hphase

theorem hour_purgeDedupe (fuel : ℕ) (manifest : ArchiveManifest) (limit : ℕ) (children : List ℕ) :
    HourTriple clock startAt phase (purgeDedupe fuel manifest limit children) fun phase' _ =>
      phase' = if manifest.startAt = startAt ∧ manifest.endAt = startAt + hour then
        phase.clear children.reverse else phase := by
  induction children generalizing phase with
  | nil =>
    refine Protocol.ends_ok.mpr ?_
    split_ifs
    · unfold ResumePhase.clear
      simp
    · rfl
  | cons child children ih =>
    refine (hour_deleteBatches child manifest.startAt manifest.endAt limit fuel).ends_bind ?_
    rintro phase' - rfl
    refine ih.ends_bind ?_
    rintro phase'' - rfl
    refine Protocol.ends_ok.mpr ?_
    split_ifs
    · unfold ResumePhase.clear
      simp [Function.comp_def]
    · rfl

/-- **The retirement of the hour** drops its table and clears every child. -/
theorem hour_retire_own (fuel : ℕ) (name : ArchiveName) (batchSize : ℤ) (allowTerminal : Bool)
    (hname : name.startAt = startAt) :
    HourTriple clock startAt phase (retireVerifiedPartition config fuel name batchSize allowTerminal)
      fun phase' _ => phase'.Over := by
  refine (hour_prepareRetirement name batchSize allowTerminal).ends_bind ?_
  rintro phase' manifest ⟨rfl, hstart, hend, haligned⟩
  have hown : manifest.startAt = startAt := hstart.trans hname
  refine Protocol.Obeys.ends_ask_bind trivial fun _ _ => ?_
  have hnext : (resumeProtocol clock startAt).next phase'
      (.recountAndDrop manifest.startAt manifest.rowCount) (.ok ()) =
        { phase' with cleared := some [] } := if_pos (haligned.trans hown)
  rw [hnext]
  refine Protocol.Obeys.ends_ask_bind trivial fun children hchildren => hour_check fun _ => ?_
  obtain rfl : children = List.range dedupePartitions := hchildren
  refine (hour_purgeDedupe fuel manifest _ _).ends_mono ?_
  rintro phase'' _ rfl
  rw [if_pos ⟨hown, hend.trans (by rw [hown])⟩]
  refine ⟨(List.range dedupePartitions).reverse, ?_, fun child hchild => ?_⟩
  · simp [ResumePhase.clear, resumeProtocol]
  · exact List.mem_reverse.mpr (List.mem_range.mpr hchild)

/-- The retirement of another hour leaves what is known of this one alone. -/
theorem hour_retire_other (fuel : ℕ) (name : ArchiveName) (batchSize : ℤ) (allowTerminal : Bool)
    (hname : name.startAt ≠ startAt) :
    HourTriple clock startAt phase (retireVerifiedPartition config fuel name batchSize allowTerminal)
      fun phase' _ => phase' = phase := by
  refine (hour_prepareRetirement name batchSize allowTerminal).ends_bind ?_
  rintro phase' manifest ⟨rfl, hstart, -, haligned⟩
  have hother : manifest.startAt ≠ startAt := by rwa [hstart]
  refine Protocol.Obeys.ends_ask_bind trivial fun _ _ => ?_
  have hnext : (resumeProtocol clock startAt).next phase'
      (.recountAndDrop manifest.startAt manifest.rowCount) (.ok ()) = phase' :=
    if_neg (by rwa [haligned])
  rw [hnext]
  refine Protocol.Obeys.ends_ask_bind trivial fun children _ => hour_check fun _ => ?_
  refine (hour_purgeDedupe fuel manifest _ _).ends_mono ?_
  rintro phase'' _ rfl
  exact if_neg fun h => hother h.1

/-! ### The run -/

theorem hour_retirePartitions (settings : RunSettings) {eligibleEnd : ℤ}
    (heligible : startAt + hour ≤ eligibleEnd) (candidates : List ℤ)
    (h : startAt ∈ candidates ∨ phase.Done) :
    HourTriple clock startAt phase (retirePartitions config settings eligibleEnd candidates)
      fun phase' _ => phase'.Done := by
  induction candidates generalizing phase with
  | nil => exact Protocol.ends_ok.mpr (h.resolve_left List.not_mem_nil)
  | cons candidate later ih =>
    unfold retirePartitions
    split_ifs with hlate
    · refine ih (h.imp_left fun hmem => ?_)
      rcases List.mem_cons.mp hmem with rfl | hmem
      · omega
      · exact hmem
    · refine Protocol.Obeys.ends_ask_bind trivial fun health _ => ?_
      have hdone : phase.Done →
          ((resumeProtocol clock startAt).next phase .diskHealth (.ok health)).Done :=
        fun hdone => done_next (fun _ _ h => by cases h) hdone _
      split_ifs with hcritical
      · exact Protocol.ends_ok.mpr (.inl (by simp [resumeProtocol, hcritical]))
      · refine (hour_archiveInterval candidate (candidate + hour)).ends_bind ?_
        rintro phase' manifest ⟨rfl, hname⟩
        by_cases hown : manifest.archiveName.startAt = startAt
        · refine (hour_retire_own settings.fuel manifest.archiveName settings.deleteBatchSize
            settings.allowTerminal hown).ends_bind fun phase'' _ hover => ?_
          exact ih (.inr (.inr hover))
        · refine (hour_retire_other settings.fuel manifest.archiveName settings.deleteBatchSize
            settings.allowTerminal hown).ends_bind ?_
          rintro phase'' - rfl
          refine ih ?_
          rcases h with hmem | hover
          · rcases List.mem_cons.mp hmem with rfl | hmem
            · exact absurd (by rw [hname]) hown
            · exact .inl hmem
          · exact .inr (hdone hover)

/-- The hour is outside the hot window of a run that starts at `clock` or later. -/
def Covers (clock startAt : ℤ) (settings : RunSettings) : Prop :=
  startAt + hour ≤ floorHour (clock - settings.hotRawHours * hour)

theorem hour_retainRaw (settings : RunSettings) {now : ℤ} (hnow : clock ≤ now)
    (hcovers : Covers clock startAt settings) (hcleared : phase.cleared = none) :
    HourTriple clock startAt phase (retainRaw config settings now .partitioned)
      fun phase' _ => phase'.Done := by
  have heligible : startAt + hour ≤ floorHour (now - settings.hotRawHours * hour) :=
    hcovers.trans (floorHour_mono (by omega))
  refine Protocol.Obeys.ends_ask_bind trivial fun candidates _ => ?_
  refine hour_retirePartitions settings heligible candidates ?_
  by_cases hmem : startAt ∈ candidates
  · exact .inl hmem
  · refine .inr (.inr ⟨List.range dedupePartitions, ?_, fun child => List.mem_range.mpr⟩)
    simp only [resumeProtocol]
    rw [if_neg hmem]
    simp [hcleared]

theorem hour_finishRun (mode : RawStorageMode) (runId : ℕ) (hdone : phase.Done) :
    HourTriple clock startAt phase (finishRun mode runId) fun phase' _ => phase'.Done := by
  refine hour_done_bind (fun _ _ => nofun) hdone fun phase' finalDisk hdone => ?_
  split_ifs
  · refine hour_done_bind (fun _ _ => nofun) hdone fun phase' finalHealthAt hdone => ?_
    refine hour_done_bind (fun _ _ => nofun) hdone fun phase' _ hdone => ?_
    refine hour_done_bind (fun _ _ => nofun) hdone fun phase' _ hdone => ?_
    refine hour_done_bind (fun _ _ => nofun) hdone fun phase' health hdone => ?_
    split_ifs
    · refine hour_done_bind (fun _ _ => nofun) hdone fun phase' _ hdone => ?_
      exact hour_done_bind (fun _ _ => nofun) hdone fun phase' _ hdone => Protocol.ends_ok.mpr hdone
    · exact Protocol.ends_ok.mpr hdone
  · exact hour_done_bind (fun _ _ => nofun) hdone fun phase' _ hdone => Protocol.ends_ok.mpr hdone
  · exact hour_done_bind (fun _ _ => nofun) hdone fun phase' _ hdone => Protocol.ends_ok.mpr hdone

theorem hour_retentionCycle (settings : RunSettings) {now : ℤ} (hnow : clock ≤ now)
    (hcovers : Covers clock startAt settings) (runId : ℕ) (hcleared : phase.cleared = none) :
    HourTriple clock startAt phase (retentionCycle config settings now .partitioned runId)
      fun phase' _ => phase'.Done := by
  have hprune : HourTriple clock startAt phase
      (pruneExpiredArchives config now (settings.hotRawHours + settings.archiveRetentionHours))
      fun phase' _ => phase' = phase :=
    hour_keep (J := fun phase' => phase' = phase)
      (only_pruneExpiredArchives config now _ (fun _ h => .inl h) (fun _ h => .inr (.inl h))
        fun _ h => .inr (.inr (.inl h)))
      (fun phase' op answer hsame hop => (hour_next_same hop answer).trans hsame) rfl
  refine hprune.ends_bind ?_
  rintro phase' - rfl
  refine Protocol.Obeys.ends_ask_bind trivial fun health _ => ?_
  split_ifs with hcritical
  · refine hour_done_bind (fun _ _ => nofun) (.inl ?_) fun phase'' _ hdone => Protocol.ends_ok.mpr hdone
    simp [resumeProtocol, hcritical]
  · have hretain := @hour_retainRaw config clock startAt
      ((resumeProtocol clock startAt).next phase' .diskHealth (.ok health)) settings now hnow hcovers
      hcleared
    refine hretain.ends_bind fun phase'' _ hdone => ?_
    have hprunes : HourTriple clock startAt phase'' (pruneExpiredState settings.fuel now
        settings.stateRetentionDays settings.deleteBatchSize) fun phase' _ => phase'.Done :=
      hour_keep (only_pruneExpiredState settings.fuel now settings.stateRetentionDays
        settings.deleteBatchSize fun _ h => h)
        (fun phase op answer hdone hop => done_next (by rintro _ _ rfl; cases hop) hdone answer) hdone
    exact hprunes.ends_bind fun phase' _ hdone => hour_finishRun _ runId hdone

/-- **What a run that returns has done** about an hour that it covers. -/
theorem resumes_runCommand (settings : RunSettings) :
    HourTriple clock startAt {} (runCommand config settings)
      fun phase' _ => Covers clock startAt settings → phase'.Done := by
  by_cases hcovers : Covers clock startAt settings
  · refine Protocol.Obeys.ends_mono (Q := fun phase' _ => phase'.Done) ?_ fun _ _ hdone _ => hdone
    refine hour_check fun _ => hour_check fun _ => hour_check fun _ => hour_check fun _ => ?_
    refine Protocol.Obeys.ends_ask_bind trivial fun now hnow => ?_
    refine Protocol.Obeys.ends_ask_bind trivial fun mode hmode => ?_
    obtain rfl : mode = .partitioned := hmode
    refine hour_quiet_bind rfl fun _ => hour_quiet_bind rfl fun runId => ?_
    refine Protocol.obeys_catchError.mpr ?_
    refine (hour_retentionCycle settings hnow hcovers runId rfl).mono fun phase' result hend => ?_
    cases result with
    | ok value => exact hend
    | error raised =>
      have hdisk : (resumeProtocol clock startAt).Obeys (fun _ _ => True)
          ((perform .diskHealth).attempt : StorageM (Outcome HealthStatus)) phase' :=
        (hour_any _).mono fun _ _ _ => trivial
      refine hdisk.bind (fun phase'' _ _ => ?_) fun _ _ _ => Protocol.ends_error
      exact Protocol.Obeys.ends_ask_bind trivial fun _ _ => Protocol.ends_error
  · exact (hour_any _).ends_mono fun _ _ _ h => absurd h hcovers

/-! ## What is known of the hour -/

/-- The table of the hour. -/
def HasTable (startAt : ℤ) (store : RawStore) : Prop :=
  ∃ partition ∈ store.partitions, partition.startAt = startAt

/-- The hour holds no claim. -/
def NoClaims (startAt : ℤ) (store : RawStore) : Prop :=
  ∀ claim ∈ store.dedupe, floorHour claim.receivedAt ≠ startAt

/-- The table of the hour is gone, and, where they count, its claims are. -/
def Gone (claims : Prop) (startAt : ℤ) (store : RawStore) : Prop :=
  ¬ HasTable startAt store ∧ (claims → NoClaims startAt store)

/-- What the phase says of the store. -/
def Known (config : StorageConfig) (claims : Prop) (startAt : ℤ) (store : RawStore)
    (phase : ResumePhase) : Prop :=
  match phase.cleared with
  | none => HasTable startAt store ∨ Gone claims startAt store
  | some cleared => ¬ HasTable startAt store ∧
    (claims → ∀ claim ∈ store.dedupe, floorHour claim.receivedAt = startAt →
      config.child claim.dedupeKey ∉ cleared)

variable {claims : Prop} {world after : World} {store later : RawStore}

theorem Known.gone (h : Known config claims startAt store phase) (hover : phase.Over) :
    Gone claims startAt store := by
  obtain ⟨cleared, hcleared, hall⟩ := hover
  unfold Known at h
  rw [hcleared] at h
  refine ⟨h.1, fun hclaims claim hclaim hhour => ?_⟩
  refine h.2 hclaims claim hclaim hhour (hall _ ?_)
  exact Nat.mod_lt _ (by unfold dedupePartitions; omega)

/-- A closed hour gets no new table. -/
theorem hasTable_grow {bound : ℤ} (hgrow : TablesGrow bound store later)
    (hended : startAt + hour ≤ bound) : HasTable startAt later ↔ HasTable startAt store := by
  constructor
  · rintro ⟨next, hnext, rfl⟩
    rcases hgrow.2 next hnext with hnew | hold
    · omega
    · exact hold
  · rintro ⟨partition, hpartition, rfl⟩
    obtain ⟨next, hnext, hstart, -⟩ := hgrow.1 partition hpartition
    exact ⟨next, hnext, hstart⟩

/-- Growing tables and fewer claims keep what is known. -/
theorem Known.grow (h : Known config claims startAt store phase)
    (htable : HasTable startAt later ↔ HasTable startAt store)
    (hdedupe : ∀ claim ∈ later.dedupe, claim ∈ store.dedupe ∨ floorHour claim.receivedAt ≠ startAt) :
    Known config claims startAt later phase := by
  have hclaims : NoClaims startAt store → NoClaims startAt later := by
    intro hnone claim hclaim
    rcases hdedupe claim hclaim with hold | hother
    · exact hnone claim hold
    · exact hother
  unfold Known at h ⊢
  cases hcleared : phase.cleared with
  | none =>
    rw [hcleared] at h
    exact h.imp htable.mpr fun hgone =>
      ⟨fun hhas => hgone.1 (htable.mp hhas), fun hcount => hclaims (hgone.2 hcount)⟩
  | some cleared =>
    rw [hcleared] at h
    refine ⟨fun hhas => h.1 (htable.mp hhas), fun hcount claim hclaim hhour => ?_⟩
    rcases hdedupe claim hclaim with hold | hother
    · exact h.2 hcount claim hold hhour
    · exact absurd hhour hother

/-- Without a new table and a new claim, what is gone stays gone. -/
theorem Gone.grow (h : Gone claims startAt store)
    (htable : HasTable startAt later → HasTable startAt store)
    (hdedupe : ∀ claim ∈ later.dedupe, claim ∈ store.dedupe ∨ floorHour claim.receivedAt ≠ startAt) :
    Gone claims startAt later := by
  refine ⟨fun hhas => h.1 (htable hhas), fun hcount claim hclaim => ?_⟩
  rcases hdedupe claim hclaim with hold | hother
  · exact h.2 hcount claim hold
  · exact hother

/-- No row of the hour is given to the recorder. -/
def NoInsert (startAt : ℤ) : Change → Prop
  | .insertEvents _ events _ => ∀ event ∈ events, floorHour event.receivedAt ≠ startAt
  | _ => True

theorem dedupe_change {change : Change} (hmode : world.mode = .partitioned)
    (hchange : NoInsert startAt change) : ∀ claim ∈ (world.change change).store.dedupe,
      claim ∈ world.store.dedupe ∨ floorHour claim.receivedAt ≠ startAt := by
  intro claim hclaim
  cases change with
  | ensure => exact .inl hclaim
  | upsertState row => exact .inl hclaim
  | elapse duration => exact .inl hclaim
  | insertEvents early events fault =>
    simp only [World.change, hmode] at hclaim
    rcases commitBatch_cases world.store early events fault with
      ⟨new, hnew, -⟩ | ⟨⟨drawn, hdrawn⟩, -⟩
    · rw [hnew.dedupe] at hclaim
      rcases List.mem_append.mp hclaim with hold | hadded
      · exact .inl hold
      · obtain ⟨row, hrow, rfl⟩ := List.mem_map.mp hadded
        exact .inr (hchange row.event (hnew.given row hrow))
    · rw [hdrawn] at hclaim
      exact .inl hclaim

/-- Only batches of `raw_event_dedupe` change the claims, and they take claims away. -/
theorem dedupe_apply {op : Op} {offered result : op.Result}
    (happly : world.apply config op offered = .ok (result, after)) :
    ∀ claim ∈ after.store.dedupe, claim ∈ world.store.dedupe := by
  intro claim hclaim
  cases op
  case recountAndDrop dropped rowCount =>
    obtain ⟨partition, -, -, -, rfl⟩ := recountAndDrop_eq_ok (apply_recountAndDrop happly)
    exact hclaim
  case rawIntervalIsEmpty lower upper =>
    simp only [World.apply] at happly
    cases hempty : world.rawIntervalIsEmpty lower upper with
    | error raised => simp [hempty, Except.map] at happly
    | ok empty =>
      simp only [hempty, Except.map, Except.ok.injEq, Prod.mk.injEq] at happly
      rwa [← happly.2] at hclaim
  case detachConcurrently lower =>
    simp only [World.apply] at happly
    split_ifs at happly
    · obtain ⟨-, rfl⟩ := Prod.mk.inj (Except.ok.inj happly)
      exact hclaim
    · cases happly
  case finalizeDetach lower =>
    simp only [World.apply] at happly
    split_ifs at happly
    · obtain ⟨-, rfl⟩ := Prod.mk.inj (Except.ok.inj happly)
      exact hclaim
    · cases happly
  case deleteDedupeBatch child lower upper limit =>
    obtain ⟨-, rfl⟩ := Prod.mk.inj (Except.ok.inj happly)
    exact (List.mem_filter.mp hclaim).1
  all_goals
    obtain ⟨-, rfl⟩ := Prod.mk.inj (Except.ok.inj happly)
    exact hclaim

/-- The drop of another hour leaves the table of this one alone. -/
theorem hasTable_drop {dropped : ℤ}
    (hafter : later.partitions = store.partitions.filter (·.startAt ≠ dropped)) :
    HasTable startAt later ↔ HasTable startAt store ∧ startAt ≠ dropped := by
  unfold HasTable
  rw [hafter]
  constructor
  · rintro ⟨partition, hpartition, rfl⟩
    obtain ⟨hmem, hother⟩ := List.mem_filter.mp hpartition
    exact ⟨⟨partition, hmem, rfl⟩, by simpa using hother⟩
  · rintro ⟨⟨partition, hpartition, rfl⟩, hother⟩
    exact ⟨partition, List.mem_filter.mpr ⟨hpartition, by simpa using hother⟩, rfl⟩

/-- A batch that is not full has taken every claim of its child and interval. -/
theorem not_mem_doomed_full {dedupe : List DedupeClaim} {child limit : ℕ} {lower upper : ℤ}
    (hlast : (config.doomedClaims dedupe child lower upper limit).length < limit)
    {claim : DedupeClaim} (hclaim : claim ∈ dedupe)
    (hspared : claim ∉ config.doomedClaims dedupe child lower upper limit)
    (hwithin : lower ≤ claim.receivedAt ∧ claim.receivedAt < upper) :
    config.child claim.dedupeKey ≠ child := by
  intro hchild
  have hall : config.doomedClaims dedupe child lower upper limit =
      (config.claimsOf dedupe child lower upper).insertionSort
        fun a b => a.receivedAt ≤ b.receivedAt := by
    unfold StorageConfig.doomedClaims at hlast ⊢
    rw [List.length_take] at hlast
    exact List.take_of_length_le (by omega)
  refine hspared ?_
  rw [hall]
  refine (List.perm_insertionSort _ _).mem_iff.mpr (List.mem_filter.mpr ⟨hclaim, ?_⟩)
  simpa [hchild] using hwithin

variable (clock) in
/-- **The step**: what an operation of a run does to the store is what the phase records. -/
theorem Known.apply (h : Known config claims startAt world.store phase) {op : Op}
    {offered result : op.Result} {run : RunPhase} (hallowed : (runProtocol config).allowed run op)
    (hended : startAt + hour ≤ run.limit world)
    (happly : world.apply config op offered = .ok (result, after)) :
    Known config claims startAt after.store
      ((resumeProtocol clock startAt).next phase op (.ok result)) := by
  have hdedupe : ∀ claim ∈ after.store.dedupe,
      claim ∈ world.store.dedupe ∨ floorHour claim.receivedAt ≠ startAt :=
    fun claim hclaim => .inl (dedupe_apply happly claim hclaim)
  have htables := tables_apply hallowed happly
  cases op
  case recountAndDrop dropped rowCount =>
    obtain ⟨haligned, -⟩ := hallowed
    obtain ⟨partition, -, -, -, rfl⟩ := recountAndDrop_eq_ok (apply_recountAndDrop happly)
    simp only [resumeProtocol]
    rw [haligned] at hdedupe ⊢
    have hdrop : HasTable startAt { world.store with
        partitions := world.store.partitions.filter (·.startAt ≠ dropped) } ↔ _ := hasTable_drop rfl
    split_ifs with hown
    · exact ⟨fun hhas => (hdrop.mp hhas).2 hown.symm, fun _ _ _ _ => List.not_mem_nil⟩
    · exact h.grow (hdrop.trans ⟨And.left, fun hhas => ⟨hhas, fun heq => hown heq.symm⟩⟩) hdedupe
  case listRawRetirementCandidates =>
    obtain ⟨rfl, rfl⟩ := Prod.mk.inj (Except.ok.inj happly)
    simp only [resumeProtocol]
    split_ifs with hlisted
    · exact h
    · have hnone : ¬ HasTable startAt world.store := by
        rintro ⟨partition, hpartition, rfl⟩
        exact hlisted ((List.perm_insertionSort _ _).mem_iff.mpr (List.mem_map_of_mem hpartition))
      unfold Known at h ⊢
      cases hcleared : phase.cleared with
      | none =>
        rw [hcleared] at h
        obtain ⟨-, hclean⟩ := h.resolve_left hnone
        exact ⟨hnone, fun hcount claim hclaim hhour => absurd hhour (hclean hcount claim hclaim)⟩
      | some cleared =>
        rw [hcleared] at h
        exact h
  case deleteDedupeBatch child lower upper limit =>
    have hkept := h.grow (hasTable_grow (htables.resolve_right nofun) hended) hdedupe
    obtain ⟨rfl, rfl⟩ := Prod.mk.inj (Except.ok.inj happly)
    simp only [resumeProtocol]
    split_ifs with hlast
    · obtain ⟨rfl, rfl, hshort⟩ := hlast
      unfold Known at hkept ⊢
      cases hcleared : phase.cleared with
      | none =>
        rw [hcleared] at hkept
        exact hkept
      | some cleared =>
        rw [hcleared] at hkept
        refine ⟨hkept.1, fun hcount claim hclaim hhour hchild => ?_⟩
        rcases List.mem_cons.mp hchild with hsame | hold
        · obtain ⟨hmem, hspared⟩ := List.mem_filter.mp hclaim
          have hlower := floorHour_le claim.receivedAt
          have hupper := lt_floorHour_add claim.receivedAt
          rw [hhour] at hlower hupper
          exact not_mem_doomed_full hshort hmem (by simpa using hspared) ⟨hlower, hupper⟩ hsame
        · exact hkept.2 hcount claim hclaim hhour hold
    · exact hkept
  all_goals exact h.grow (hasTable_grow (htables.resolve_right nofun) hended) hdedupe

/-! ## The result -/

/-- The world of a run about the hour, and what the run knows of both. -/
structure ResumeInv (config : StorageConfig) (claims : Prop) (clock startAt : ℤ) (world : World)
    (phase : RunPhase × ResumePhase) : Prop where
  retire : RetireInv world phase.1
  late : ∀ now, phase.1.now = some now → clock ≤ now
  clock_le : clock ≤ world.clock
  known : Known config claims startAt world.store phase.2

/-- The world between two runs. -/
structure IdleInv (claims : Prop) (clock startAt : ℤ) (world : World) : Prop where
  archive : ArchiveInv world.clock world
  clock_le : clock ≤ world.clock
  known : HasTable startAt world.store ∨ Gone claims startAt world.store

instance (startAt : ℤ) : ∀ change, Decidable (NoInsert startAt change)
  | .insertEvents _ events _ =>
    inferInstanceAs (Decidable (∀ event ∈ events, floorHour event.receivedAt ≠ startAt))
  | .ensure => isTrue trivial
  | .upsertState _ => isTrue trivial
  | .elapse _ => isTrue trivial

instance (clock startAt : ℤ) (settings : RunSettings) : Decidable (Covers clock startAt settings) :=
  inferInstanceAs (Decidable (_ ≤ _))

/-- What the events after the crash have to be: no row of the hour is given to the recorder, nothing
crashes, and every run is complete: it returns, no critical disk cuts it short, and the hour is
outside its hot window. -/
def resumes (clock startAt : ℤ) :
    Process.Guard World RunSettings Change (RunPhase × ResumePhase) Raised ℕ where
  outside := fun _ _ change => NoInsert startAt change
  finish := fun settings phase result => result.isOk = true ∧ phase.2.critical = false ∧
    Covers clock startAt settings
  crash := False

instance (clock startAt : ℤ) (world : World) (phase : Option (RunPhase × ResumePhase))
    (change : Change) : Decidable ((resumes clock startAt).outside world phase change) :=
  inferInstanceAs (Decidable (NoInsert startAt change))

instance (clock startAt : ℤ) (settings : RunSettings) (phase : RunPhase × ResumePhase)
    (result : Outcome ℕ) : Decidable ((resumes clock startAt).finish settings phase result) :=
  inferInstanceAs (Decidable (_ ∧ _))

instance (clock startAt : ℤ) : Decidable (resumes clock startAt).crash :=
  inferInstanceAs (Decidable False)

/-- Both protocols of a run. -/
abbrev bothProtocols (config : StorageConfig) (clock startAt : ℤ) :
    Protocol Op Op.Ans (RunPhase × ResumePhase) :=
  (runProtocol config).prod (resumeProtocol clock startAt)

/-- How a run ends. -/
abbrev RunEnds (clock startAt : ℤ) (settings : RunSettings) (phase : RunPhase × ResumePhase)
    (result : Outcome ℕ) : Prop :=
  Protocol.Ends (fun _ _ => True) phase.1 result ∧
    Protocol.Ends (fun phase' _ => Covers clock startAt settings → phase'.Done) phase.2 result

theorem ResumeInv.limit_ge {phase : RunPhase × ResumePhase}
    (h : ResumeInv config claims clock startAt world phase) : clock ≤ phase.1.limit world := by
  unfold RunPhase.limit
  cases hnow : phase.1.now with
  | none => exact h.clock_le
  | some now => exact h.late now hnow

/-- What a run can rely on. -/
theorem ResumeInv.expects {phase : RunPhase × ResumePhase}
    (h : ResumeInv config claims clock startAt world phase) {op : Op} {offered result : op.Result}
    (hspin : op.isSpin = false) (hexpects : (runProtocol config).expects phase.1 op (.ok result))
    (happly : world.apply config op offered = .ok (result, after)) :
    (resumeProtocol clock startAt).expects phase.2 op (.ok result) := by
  cases op
  case now =>
    obtain ⟨rfl, rfl⟩ := Prod.mk.inj (Except.ok.inj happly)
    exact h.clock_le
  case rawStorageMode =>
    obtain ⟨rfl, rfl⟩ := Prod.mk.inj (Except.ok.inj happly)
    exact h.retire.inv.mode
  case readManifest name => exact hexpects
  case listDedupePartitions =>
    obtain ⟨rfl, rfl⟩ := Prod.mk.inj (Except.ok.inj happly)
    rfl
  case spin => cases hspin
  all_goals trivial

/-- **The step** of a run. -/
theorem ResumeInv.serve {phase : RunPhase × ResumePhase}
    (h : ResumeInv config claims clock startAt world phase) (hended : startAt + hour ≤ clock)
    {op : Op} {proposal answer : op.Ans}
    (hallowed : (bothProtocols config clock startAt).allowed phase op)
    (hserve : world.serve config op proposal = some (answer, after)) :
    (bothProtocols config clock startAt).expects phase op answer ∧
      ResumeInv config claims clock startAt after
        ((bothProtocols config clock startAt).next phase op answer) := by
  obtain ⟨hexpects, hretire⟩ := h.retire.serve hallowed.1 hserve
  have hspin : op.isSpin = false := by
    unfold World.serve at hserve
    split_ifs at hserve with hspin
    exact Bool.eq_false_iff.mpr hspin
  have hlimit := h.limit_ge
  rcases serve_eq_some hserve with ⟨raised, rfl, rfl⟩ | ⟨offered, result, rfl, happly⟩
  · refine ⟨⟨hexpects, by cases op <;> trivial⟩, hretire, fun now hnow => h.late now ?_, h.clock_le, ?_⟩
    · cases op <;> exact hnow
    · cases op <;> exact h.known
  · obtain ⟨-, hclock, -⟩ := apply_frame happly
    refine ⟨⟨hexpects, h.expects hspin hexpects happly⟩, hretire, fun now hnow => ?_,
      hclock.symm ▸ h.clock_le, h.known.apply clock hallowed.1 (hended.trans hlimit) happly⟩
    cases op
    case now =>
      obtain ⟨rfl, rfl⟩ := Prod.mk.inj (Except.ok.inj happly)
      obtain rfl := Option.some.inj hnow
      exact h.clock_le
    all_goals exact h.late now hnow

/-- The recorder and the clock keep what is known. -/
theorem ResumeInv.change {phase : RunPhase × ResumePhase}
    (h : ResumeInv config claims clock startAt world phase) (hended : startAt + hour ≤ clock)
    {change : Change} (hchange : NoInsert startAt change) :
    ResumeInv config claims clock startAt (world.change change) phase := by
  have hgrow := tables_change h.retire.inv.mode (h.clock_le.trans le_rfl) change
  have hclock : world.clock ≤ (world.change change).clock := by
    cases change with
    | elapse duration => exact le_add_of_nonneg_right (Int.natCast_nonneg duration)
    | ensure => exact le_rfl
    | upsertState row => exact le_rfl
    | insertEvents early events fault =>
      simp only [World.change, h.retire.inv.mode]
      exact le_rfl
  exact ⟨h.retire.change change, h.late, h.clock_le.trans hclock,
    h.known.grow (hasTable_grow hgrow hended) (dedupe_change h.retire.inv.mode hchange)⟩

theorem ResumeInv.idle {phase : RunPhase × ResumePhase}
    (h : ResumeInv config claims clock startAt world phase)
    (hknown : HasTable startAt world.store ∨ Gone claims startAt world.store) :
    IdleInv claims clock startAt world :=
  ⟨h.retire.inv.mono h.retire.inv.bound_le le_rfl, h.clock_le, hknown⟩

theorem IdleInv.start (h : IdleInv claims clock startAt world) :
    ResumeInv config claims clock startAt world ({}, {}) :=
  ⟨⟨h.archive, nofun, nofun, nofun⟩, nofun, h.clock_le, h.known⟩

/-- A complete run leaves nothing of the hour. -/
theorem ResumeInv.finished {phase : RunPhase × ResumePhase}
    (h : ResumeInv config claims clock startAt world phase) {settings : RunSettings}
    {result : Outcome ℕ} (hends : RunEnds clock startAt settings phase result)
    (hcomplete : (resumes clock startAt).finish settings phase result) :
    Gone claims startAt world.store := by
  obtain ⟨hok, hcritical, hcovers⟩ := hcomplete
  cases result with
  | error raised => cases hok
  | ok code =>
    rcases hends.2 code rfl hcovers with hcut | hover
    · rw [hcritical] at hcut
      cases hcut
    · exact h.known.gone hover

/-- The step lemmas put together. -/
theorem resumeKeeps (config : StorageConfig) (claims : Prop) (hended : startAt + hour ≤ clock) :
    Process.Keeps (resumes clock startAt) (bothProtocols config clock startAt) (fun _ => ({}, {}))
      (maintenanceHost config) (RunEnds clock startAt) (IdleInv claims clock startAt)
      (ResumeInv config claims clock startAt) where
  obeys := fun settings => Protocol.obeys_prod (triple_runCommand settings)
    (resumes_runCommand settings)
  start := fun _ _ h => h.start
  serve := fun _ _ _ _ _ _ h hallowed hserve => h.serve hended hallowed hserve
  finish := fun _ _ _ _ h hends hcomplete => h.idle (.inr (h.finished hends hcomplete))
  stop := fun _ hcrash => hcrash.elim
  crash := fun _ _ hcrash => hcrash.elim
  idle := fun _ _ hchange h =>
    have hchanged := (@IdleInv.start config _ _ _ _ h).change hended hchange
    hchanged.idle hchanged.known
  outside := fun _ _ _ hchange h => h.change hended hchange

theorem Gone.apply (h : Gone claims startAt world.store) {op : Op} {offered result : op.Result}
    {run : RunPhase} (hallowed : (runProtocol config).allowed run op)
    (hended : startAt + hour ≤ run.limit world)
    (happly : world.apply config op offered = .ok (result, after)) :
    Gone claims startAt after.store := by
  refine h.grow (fun hhas => ?_) fun claim hclaim => .inl (dedupe_apply happly claim hclaim)
  rcases tables_apply hallowed happly with hgrow | ⟨dropped, rowCount, -, -, -, hafter⟩
  · exact (hasTable_grow hgrow hended).mp hhas
  · exact ((hasTable_drop hafter).mp hhas).1

theorem Gone.change (h : Gone claims startAt world.store) (harchive : ArchiveInv world.clock world)
    (hended : startAt + hour ≤ world.clock) {change : Change} (hchange : NoInsert startAt change) :
    Gone claims startAt (world.change change).store :=
  h.grow (hasTable_grow (tables_change harchive.mode le_rfl change) hended).mp
    (dedupe_change harchive.mode hchange)

/-- What is gone stays gone. -/
theorem goneKeeps (config : StorageConfig) (claims : Prop) (hended : startAt + hour ≤ clock) :
    Process.Keeps (resumes clock startAt) (bothProtocols config clock startAt) (fun _ => ({}, {}))
      (maintenanceHost config) (RunEnds clock startAt)
      (fun world => IdleInv claims clock startAt world ∧ Gone claims startAt world.store)
      (fun world phase => ResumeInv config claims clock startAt world phase ∧
        Gone claims startAt world.store) := by
  have hkeeps := @resumeKeeps clock startAt config claims hended
  constructor
  case obeys => exact hkeeps.obeys
  case start => exact fun world settings h => ⟨h.1.start, h.2⟩
  case serve =>
    intro world phase op proposal answer after h hallowed hserve
    obtain ⟨hexpects, hresume⟩ := h.1.serve hended hallowed hserve
    refine ⟨hexpects, hresume, ?_⟩
    rcases serve_eq_some hserve with ⟨raised, rfl, rfl⟩ | ⟨offered, result, rfl, happly⟩
    · exact h.2
    · exact h.2.apply hallowed.1 (hended.trans h.1.limit_ge) happly
  case finish => exact fun world settings phase result h _ _ => ⟨h.1.idle (.inr h.2), h.2⟩
  case stop => exact fun world hcrash => hcrash.elim
  case crash => exact fun world phase hcrash => hcrash.elim
  case idle =>
    intro world change hchange h
    exact ⟨hkeeps.idle world change hchange h.1,
      h.2.change h.1.archive (hended.trans h.1.clock_le) hchange⟩
  case outside =>
    intro world phase change hchange h
    refine ⟨h.1.change hended hchange, h.2.change ?_ (hended.trans h.1.clock_le) hchange⟩
    exact h.1.retire.inv.mono h.1.retire.inv.bound_le le_rfl

/-- A retirement writes no file: it leaves the archive and its manifest as they are. -/
theorem retire_writes_no_file (fuel : ℕ) (name : ArchiveName) (batchSize : ℤ)
    (allowTerminal : Bool) :
    (retireVerifiedPartition config fuel name batchSize allowTerminal).Only
      (fun op => op.touchesFiles = false) fun _ => True := by
  have hreads : ∀ op : Op, op.readsFiles = true → op.touchesFiles = false := by
    intro op h
    cases op <;> first | rfl | cases h
  have hdatabase : ∀ op : Op, op.readsDatabase = true → op.touchesFiles = false := by
    intro op h
    cases op <;> first | rfl | cases h
  have hdetach : ∀ op : Op, op.detaches = true → op.touchesFiles = false := by
    intro op h
    cases op <;> first | rfl | cases h
  have hpurge : ∀ op : Op, op.purges = true → op.touchesFiles = false := by
    intro op h
    cases op <;> first | rfl | cases h
  have hprepare : (prepareRetirement config name batchSize allowTerminal).Only
      (fun op => op.touchesFiles = false) fun _ => True :=
    only_check.bind fun _ => (only_verifyArchive config name hreads).bind fun manifest =>
      only_verify.bind fun _ => only_verify.bind fun _ =>
      (only_compactCutoff manifest allowTerminal hdatabase).bind fun _ =>
      (only_checkLiveRows manifest hdatabase).bind fun _ =>
      (only_detachRawPartitionConcurrently manifest.startAt hdatabase hdetach).bind fun _ => trivial
  exact hprepare.bind fun manifest =>
    (only_perform (S := fun op => op.touchesFiles = false) rfl).bind fun _ =>
      only_purgeInterval fuel manifest batchSize hpurge

/-- The rows of an hour are in its table. -/
theorem row_of_gone (h : Gone claims startAt store) :
    ∀ row ∈ store.allRows, floorHour row.receivedAt ≠ startAt := by
  intro row hrow hhour
  obtain ⟨partition, hpartition, hin⟩ := List.mem_flatMap.mp hrow
  exact h.1 ⟨partition, hpartition, (partition.bounded row hin).symm.trans hhour⟩

/-- The events after the crash are as they have to be. -/
abbrev Resumes (config : StorageConfig) (clock startAt : ℤ) (process : Maintenance)
    (events : List MaintenanceEvent) : Prop :=
  Machine.Along (Process.exec (maintenanceHost config))
    ((resumes clock startAt).Passes (bothProtocols config clock startAt) fun _ => ({}, {}))
    process events

/-- **Retirement goes on after a crash.**  A run crashes at any point, and complete runs follow, at
least one of them, without rows for the hour: no row of the hour is left, and no claim of it either,
unless the crash came after the drop of its table and before its claims were removed.  No retirement
writes a file: the archive and the manifest stay as they are. -/
theorem retirement_resumes (config : StorageConfig) (clock startAt : ℤ)
    (events later : List MaintenanceEvent) :
    let crashed := (Machine.run (Process.exec (maintenanceHost config))
      (Maintenance.initial .partitioned clock) events).exec (maintenanceHost config) .crash
    let final := Machine.run (Process.exec (maintenanceHost config)) crashed later
    startAt + hour ≤ crashed.world.clock →
    Resumes config crashed.world.clock startAt crashed later → final.ended ≠ crashed.ended →
    (∀ row ∈ final.world.store.allRows, floorHour row.receivedAt ≠ startAt) ∧
      (HasTable startAt crashed.world.store ∨ NoClaims startAt crashed.world.store →
        NoClaims startAt final.world.store) ∧
        ∀ fuel name batchSize allowTerminal,
          (retireVerifiedPartition config fuel name batchSize allowTerminal).Only
            (fun op => op.touchesFiles = false) fun _ => True := by
  intro crashed final hended hpasses hfinished
  let claims := HasTable startAt crashed.world.store ∨ NoClaims startAt crashed.world.store
  have hidle : IdleInv claims crashed.world.clock startAt crashed.world := by
    refine ⟨(retireInv_run config clock events).archiveInv, le_rfl, ?_⟩
    by_cases htable : HasTable startAt crashed.world.store
    · exact .inl htable
    · exact .inr ⟨htable, fun hclaims => hclaims.resolve_left htable⟩
  have hgone : Gone claims startAt final.world.store := by
    have hcrashed : crashed.Inv (bothProtocols config crashed.world.clock startAt)
        (fun _ => ({}, {})) (RunEnds crashed.world.clock startAt)
        (IdleInv claims crashed.world.clock startAt)
        (ResumeInv config claims crashed.world.clock startAt) :=
      (Process.Inv.of_idle rfl).mpr hidle
    have hrun := Process.inv_run_of_finish (resumeKeeps config claims hended)
      (goneKeeps config claims hended)
      (fun world settings phase result h hends hcomplete =>
        ⟨h.idle (.inr (h.finished hends hcomplete)), h.finished hends hcomplete⟩)
      hcrashed hpasses
    have hinv := hrun.resolve_left hfinished
    cases hrunning : final.running with
    | none => exact ((Process.Inv.of_idle hrunning).mp hinv).2
    | some call => exact ((Process.Inv.of_running hrunning).mp hinv).2.2
  exact ⟨row_of_gone hgone, hgone.2, fun fuel name batchSize allowTerminal =>
    retire_writes_no_file fuel name batchSize allowTerminal⟩

/-- A run about an hour with two rows, up to some step. -/
def sampleBefore (steps : ℕ) : List MaintenanceEvent :=
  sampleHour ++ .start sampleSettings :: List.replicate steps MaintenanceEvent.go

/-- A run from its start on. -/
def sampleRun (steps : ℕ) : List MaintenanceEvent :=
  .start sampleSettings :: List.replicate steps MaintenanceEvent.go

/-- A crash between the detach and the drop, and a complete run. -/
theorem retirement_resumes_sample :
    let crashed := (Machine.run (Process.exec (maintenanceHost sampleConfig))
      (Maintenance.initial .partitioned 0) (sampleBefore 30)).exec (maintenanceHost sampleConfig) .crash
    let final := Machine.run (Process.exec (maintenanceHost sampleConfig)) crashed (sampleRun 64)
    HasTable 0 crashed.world.store ∧ NoClaims 0 final.world.store ∧
      ∀ row ∈ final.world.store.allRows, floorHour row.receivedAt ≠ 0 := by
  have hresumes := retirement_resumes sampleConfig 0 0 (sampleBefore 30) (sampleRun 64)
    (by decide +kernel) (by decide +kernel) fun hsame =>
      absurd (congrArg List.length hsame) (by decide +kernel)
  obtain ⟨hrows, hclaims, -⟩ := hresumes
  have htable : HasTable 0 ((Machine.run (Process.exec (maintenanceHost sampleConfig))
      (Maintenance.initial .partitioned 0) (sampleBefore 30)).exec (maintenanceHost sampleConfig)
        .crash).world.store := by
    unfold HasTable
    decide +kernel
  dsimp only
  exact ⟨htable, hclaims (.inl htable), hrows⟩

/-- After a crash between the drop and the removal of the claims, a complete run leaves the claims; and
a complete run that retires an hour leaves its manifest as it was. -/
theorem not_retirement_resumes :
    let crashed steps := (Machine.run (Process.exec (maintenanceHost sampleConfig))
      (Maintenance.initial .partitioned 0) (sampleBefore steps)).exec (maintenanceHost sampleConfig)
        .crash
    let final steps later := Machine.run (Process.exec (maintenanceHost sampleConfig)) (crashed steps)
      (sampleRun later)
    (Resumes sampleConfig (crashed 32).world.clock 0 (crashed 32) (sampleRun 24) ∧
      (final 32 24).ended.length = 1 ∧ ¬ NoClaims 0 (final 32 24).world.store) ∧
    Resumes sampleConfig (crashed 30).world.clock 0 (crashed 30) (sampleRun 64) ∧
      (final 30 64).ended.length = 1 ∧ HasTable 0 (crashed 30).world.store ∧
        ¬ HasTable 0 (final 30 64).world.store ∧
          (final 30 64).world.manifests = (crashed 30).world.manifests := by
  unfold HasTable NoClaims
  decide +kernel

end BpEngine.Storage
