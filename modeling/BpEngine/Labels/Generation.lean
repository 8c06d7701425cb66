import BpEngine.Labels.Service

/-!
# What one generation establishes

When `generateLabels` returns, and what it has stored then, as facts about the rows it selected.

* `RowOk` is what the scan checks of a row; `resolvedOf` is what it keeps of one.  `scanRows_eq_ok`:
  the scan returns exactly when every row is so, and keeps exactly that.
* `Canonical` is the earliest resolved snapshot of a market, `Unanimous` says that its snapshots do
  not contradict each other.
* `generateLabels_spec` is what a call that returned has done; `generateLabels_returns` is when it
  returns on an empty table.
-/

namespace BpEngine.Labels

open BpEngine.PaperLedger

variable {T : GammaText} {call : LabelCall}

/-! ## The scan -/

/-- The market of a row that starts inside the window. -/
def inWindow (T : GammaText) (call : LabelCall) (row : SnapshotRow) : Option PolymarketMarket :=
  match parseGammaMarket T row.payload with
  | .ok market => if call.Covers market.windowStartAt then some market else none
  | .error _ => none

/-- The resolved snapshot that a row inside the window is. -/
def resolvedOf (T : GammaText) (call : LabelCall) (row : SnapshotRow) : Option ResolvedSnapshot :=
  (inWindow T call row).bind fun market =>
    if market.closed = false ∨ market.resolvedOutcome = none then none
    else some ⟨row.id, row.downloadedAt, row.payloadSha256, market⟩

/-- What the scan checks of a row. -/
structure RowOk (T : GammaText) (call : LabelCall) (row : SnapshotRow) : Prop where
  parses : ∃ market, parseGammaMarket T row.payload = .ok market
  envelope : ∀ market, inWindow T call row = some market →
    row.conditionId = market.conditionId ∧ row.slug = market.slug ∧
      row.gammaMarketId = market.gammaMarketId
  observed : ∀ market, inWindow T call row = some market →
    market.resolvedOutcome.isSome = true → market.windowEndAt ≤ row.downloadedAt

theorem inWindow_eq_some {row : SnapshotRow} {market : PolymarketMarket} :
    inWindow T call row = some market ↔
      parseGammaMarket T row.payload = .ok market ∧ call.Covers market.windowStartAt := by
  unfold inWindow
  cases hparse : parseGammaMarket T row.payload with
  | error error => simp
  | ok parsed =>
    simp only [Option.ite_none_right_eq_some, Option.some.injEq, Except.ok.injEq]
    constructor
    · rintro ⟨hcovers, rfl⟩
      exact ⟨rfl, hcovers⟩
    · rintro ⟨rfl, hcovers⟩
      exact ⟨hcovers, rfl⟩

theorem resolvedOf_eq_some {row : SnapshotRow} {snapshot : ResolvedSnapshot} :
    resolvedOf T call row = some snapshot ↔ ∃ market, inWindow T call row = some market ∧
      market.closed = true ∧ market.resolvedOutcome.isSome = true ∧
        snapshot = ⟨row.id, row.downloadedAt, row.payloadSha256, market⟩ := by
  unfold resolvedOf
  rw [Option.bind_eq_some_iff]
  refine exists_congr fun market => and_congr_right fun _ => ?_
  by_cases hskipped : market.closed = false ∨ market.resolvedOutcome = none
  · rw [if_pos hskipped]
    rcases hskipped with hclosed | hnone
    · simp [hclosed]
    · simp [hnone]
  · rw [if_neg hskipped]
    simp only [not_or, Bool.not_eq_false] at hskipped
    obtain ⟨hclosed, hresolved⟩ := hskipped
    constructor
    · intro h
      exact ⟨hclosed, Option.isSome_iff_ne_none.mpr hresolved, (Option.some.inj h).symm⟩
    · rintro ⟨-, -, rfl⟩
      rfl

/-- **One row**: the scan goes on exactly when the row is as it should be. -/
theorem scanRow_eq_ok {scan after : Scan} {row : SnapshotRow} :
    scanRow T call scan row = .ok after ↔ RowOk T call row ∧
      after = ⟨scan.considered ++ ((inWindow T call row).map (·.conditionId)).toList,
        scan.eligible ++ (resolvedOf T call row).toList⟩ := by
  unfold scanRow
  cases hparse : parseGammaMarket T row.payload with
  | error error =>
    simp only [error_bind, reduceCtorEq, false_iff, not_and]
    intro hok
    obtain ⟨market, hmarket⟩ := hok.parses
    rw [hparse] at hmarket
    cases hmarket
  | ok market =>
    rw [ok_bind]
    by_cases hcovers : call.Covers market.windowStartAt
    · have hin : inWindow T call row = some market := inWindow_eq_some.mpr ⟨hparse, hcovers⟩
      have hok : RowOk T call row ↔ (row.conditionId = market.conditionId ∧
          row.slug = market.slug ∧ row.gammaMarketId = market.gammaMarketId) ∧
          ¬ (market.resolvedOutcome.isSome = true ∧ row.downloadedAt < market.windowEndAt) := by
        constructor
        · intro h
          refine ⟨h.envelope market hin, fun hearly => ?_⟩
          exact absurd hearly.2 (not_lt.mpr (h.observed market hin hearly.1))
        · rintro ⟨henvelope, hobserved⟩
          refine ⟨⟨market, hparse⟩, fun other hother => ?_, fun other hother hsome => ?_⟩
          · rw [hin] at hother
            cases hother
            exact henvelope
          · rw [hin] at hother
            cases hother
            by_contra hlt
            exact hobserved ⟨hsome, not_le.mp hlt⟩
      rw [if_pos hcovers, hok]
      simp only [bind_eq_ok, require_eq_ok, exists_const, and_assoc]
      refine and_congr_right fun _ => and_congr_right fun _ => and_congr_right fun _ =>
        and_congr_right fun _ => ?_
      unfold resolvedOf
      rw [hin, Option.bind_some, Option.map_some]
      by_cases hskipped : market.closed = false ∨ market.resolvedOutcome = none
      · rw [if_pos hskipped, if_pos hskipped]
        simp [eq_comm]
      · rw [if_neg hskipped, if_neg hskipped]
        simp [eq_comm]
    · have hin : inWindow T call row = none := by
        unfold inWindow
        rw [hparse]
        exact if_neg hcovers
      have hok : RowOk T call row := by
        refine ⟨⟨market, hparse⟩, fun other hother => ?_, fun other hother => ?_⟩
        · rw [hin] at hother
          cases hother
        · rw [hin] at hother
          cases hother
      have hresolved : resolvedOf T call row = none := by
        unfold resolvedOf
        rw [hin]
        rfl
      rw [if_neg hcovers, hin, hresolved]
      constructor
      · intro h
        exact ⟨hok, by simpa using (Except.ok.inj h).symm⟩
      · rintro ⟨-, rfl⟩
        simp

/-- **The scan** returns exactly when every row is as it should be, and keeps what the rows are. -/
theorem scanRows_eq_ok {rows : List SnapshotRow} {scan after : Scan} :
    scanRows T call rows scan = .ok after ↔ (∀ row ∈ rows, RowOk T call row) ∧
      after = ⟨scan.considered ++ rows.filterMap fun row =>
          (inWindow T call row).map (·.conditionId),
        scan.eligible ++ rows.filterMap (resolvedOf T call)⟩ := by
  induction rows generalizing scan with
  | nil => simp [scanRows, eq_comm]
  | cons row rows ih =>
    unfold scanRows
    rw [bind_eq_ok]
    constructor
    · rintro ⟨between, hrow, hrows⟩
      obtain ⟨hok, rfl⟩ := scanRow_eq_ok.mp hrow
      obtain ⟨hall, rfl⟩ := ih.mp hrows
      refine ⟨fun other hother => ?_, ?_⟩
      · rcases List.mem_cons.mp hother with rfl | hin
        · exact hok
        · exact hall other hin
      · cases hin : inWindow T call row <;> cases hresolved : resolvedOf T call row <;>
          simp [hin, hresolved]
    · rintro ⟨hall, rfl⟩
      refine ⟨_, scanRow_eq_ok.mpr ⟨hall row List.mem_cons_self, rfl⟩, ih.mpr ⟨?_, ?_⟩⟩
      · exact fun other hother => hall other (List.mem_cons_of_mem _ hother)
      · cases hin : inWindow T call row <;> cases hresolved : resolvedOf T call row <;>
          simp [hin, hresolved]

/-- What the scan of a call keeps. -/
def scanOf (T : GammaText) (snapshots : List SnapshotRow) (call : LabelCall) : Scan :=
  let rows := (snapshots.filter call.selects).insertionSort rowFirst
  ⟨rows.filterMap fun row => (inWindow T call row).map (·.conditionId),
    rows.filterMap (resolvedOf T call)⟩

theorem mem_selected {snapshots : List SnapshotRow} {row : SnapshotRow} :
    row ∈ (snapshots.filter call.selects).insertionSort rowFirst ↔
      row ∈ snapshots ∧ call.selects row = true := by
  rw [List.mem_insertionSort, List.mem_filter]

theorem mem_eligible {snapshots : List SnapshotRow} {snapshot : ResolvedSnapshot} :
    snapshot ∈ (scanOf T snapshots call).eligible ↔ ∃ row ∈ snapshots,
      call.selects row = true ∧ resolvedOf T call row = some snapshot := by
  unfold scanOf
  rw [List.mem_filterMap]
  simp only [mem_selected, and_assoc]

theorem mem_considered {snapshots : List SnapshotRow} {conditionId : String} :
    conditionId ∈ (scanOf T snapshots call).considered ↔ ∃ row ∈ snapshots,
      call.selects row = true ∧
        ∃ market, inWindow T call row = some market ∧ market.conditionId = conditionId := by
  unfold scanOf
  rw [List.mem_filterMap]
  simp only [mem_selected, and_assoc, Option.map_eq_some_iff]

/-- A market with a resolved snapshot is considered. -/
theorem considered_of_eligible {snapshots : List SnapshotRow} {snapshot : ResolvedSnapshot}
    (h : snapshot ∈ (scanOf T snapshots call).eligible) :
    snapshot.market.conditionId ∈ (scanOf T snapshots call).considered := by
  obtain ⟨row, hrow, hselects, hresolved⟩ := mem_eligible.mp h
  obtain ⟨market, hin, -, -, rfl⟩ := resolvedOf_eq_some.mp hresolved
  exact mem_considered.mpr ⟨row, hrow, hselects, market, hin, rfl⟩

/-! ## The earliest snapshot -/

/-- Not being before is transitive, for pairs of a time and a number. -/
theorem not_before_trans {a b c : ℤ} {i j k : ℕ} (hab : ¬ (a < b ∨ a = b ∧ i < j))
    (hbc : ¬ (b < c ∨ b = c ∧ j < k)) : ¬ (a < c ∨ a = c ∧ i < k) := by omega

theorem not_before_of_before {a b : ℤ} {i j : ℕ} (h : a < b ∨ a = b ∧ i < j) :
    ¬ (b < a ∨ b = a ∧ j < i) := by omega

theorem not_before_self {a : ℤ} {i : ℕ} : ¬ (a < a ∨ a = a ∧ i < i) := by omega

/-- The earliest of some snapshots is one of them, and none of them is before it. -/
theorem earliest_spec (first : ResolvedSnapshot) (items : List ResolvedSnapshot) :
    earliest first items ∈ first :: items ∧
      ∀ item ∈ first :: items, ¬ item.before (earliest first items) := by
  induction items generalizing first with
  | nil =>
    refine ⟨List.mem_cons_self, fun item hitem => ?_⟩
    rw [List.mem_singleton.mp hitem]
    exact not_before_self
  | cons item items ih =>
    unfold earliest
    by_cases hbefore : item.before first
    · rw [if_pos hbefore]
      obtain ⟨hmem, hleast⟩ := ih item
      refine ⟨List.mem_cons_of_mem _ hmem, fun other hother => ?_⟩
      rcases List.mem_cons.mp hother with rfl | hin
      · exact not_before_trans (not_before_of_before hbefore) (hleast item List.mem_cons_self)
      · exact hleast other hin
    · rw [if_neg hbefore]
      obtain ⟨hmem, hleast⟩ := ih first
      refine ⟨?_, fun other hother => ?_⟩
      · rcases List.mem_cons.mp hmem with hfirst | hin
        · rw [hfirst]
          exact List.mem_cons_self
        · exact List.mem_cons_of_mem _ (List.mem_cons_of_mem _ hin)
      · rcases List.mem_cons.mp hother with rfl | hin
        · exact hleast other List.mem_cons_self
        · rcases List.mem_cons.mp hin with rfl | hin
          · exact not_before_trans hbefore (hleast first List.mem_cons_self)
          · exact hleast other (List.mem_cons_of_mem _ hin)

/-- The earliest resolved snapshot of a market. -/
structure Canonical (scan : Scan) (conditionId : String) (snapshot : ResolvedSnapshot) : Prop where
  mem : snapshot ∈ scan.eligible
  condition : snapshot.market.conditionId = conditionId
  least : ∀ other ∈ scan.eligible, other.market.conditionId = conditionId → ¬ other.before snapshot

/-- The resolved snapshots of a market do not contradict each other. -/
def Unanimous (scan : Scan) (conditionId : String) : Prop :=
  ∀ snapshot ∈ scan.eligible, ∀ other ∈ scan.eligible,
    snapshot.market.conditionId = conditionId → other.market.conditionId = conditionId →
      resolutionSemantics snapshot.market = resolutionSemantics other.market

/-! ## The labels -/

/-- No label of the market and version is stored. -/
def Unlabelled (rows : List LabelRow) (label : MarketLabel) : Prop :=
  ∀ row ∈ rows, ¬ (row.label.conditionId = label.conditionId ∧
    row.label.labelVersion = label.labelVersion)

/-- **A store** finds the market's label, or appends the row. -/
theorem storeLabelRow_cases {rows after : List LabelRow} {row : LabelRow} {created : Bool}
    (h : storeLabelRow rows row = .ok (after, created)) :
    validateLabel row.label = .ok () ∧
      (after = rows ∧ (∃ existing ∈ rows, existing.label.conditionId = row.label.conditionId) ∨
        after = rows ++ [{ row with label := row.label.written }]) := by
  unfold storeLabelRow at h
  obtain ⟨_, hvalid, h⟩ := bind_eq_ok.mp h
  refine ⟨hvalid, ?_⟩
  split at h
  · cases h
    exact .inr rfl
  · case h_2 existing hfind =>
    obtain ⟨_, -, h⟩ := bind_eq_ok.mp h
    cases h
    have hkey := List.find?_some hfind
    simp only [Bool.and_eq_true, decide_eq_true_eq] at hkey
    exact .inl ⟨rfl, existing, List.mem_of_find?_eq_some hfind, hkey.1⟩

/-- A valid label of a market without one is stored. -/
theorem storeLabelRow_new {rows : List LabelRow} {row : LabelRow}
    (hvalid : validateLabel row.label = .ok ()) (hnew : Unlabelled rows row.label) :
    storeLabelRow rows row = .ok (rows ++ [{ row with label := row.label.written }], true) := by
  unfold storeLabelRow
  have hfind : rows.find? (fun other => other.label.conditionId = row.label.conditionId &&
      other.label.labelVersion = row.label.labelVersion) = none := by
    rw [List.find?_eq_none]
    intro other hother
    simpa using fun hcondition hversion => hnew other hother ⟨hcondition, hversion⟩
  rw [hvalid, ok_bind, hfind]

/-- What one market adds to the labels. -/
theorem labelCondition_cases {scan : Scan} {generatedAt : Timestamp} {progress after : Progress}
    {conditionId : String} (h : labelCondition scan generatedAt progress conditionId = .ok after) :
    (after.labels = progress.labels ∧
        ∀ snapshot ∈ scan.eligible, snapshot.market.conditionId ≠ conditionId) ∨
      ∃ canonical, Canonical scan conditionId canonical ∧ Unanimous scan conditionId ∧
        validateLabel (labelOf canonical) = .ok () ∧
          (after.labels = progress.labels ∧
              (∃ existing ∈ progress.labels, existing.label.conditionId = conditionId) ∨
            after.labels = progress.labels ++ [⟨labelOf canonical, generatedAt⟩]) := by
  unfold labelCondition at h
  have hmem : ∀ snapshot, snapshot ∈ scan.eligible.filter (·.market.conditionId = conditionId) ↔
      snapshot ∈ scan.eligible ∧ snapshot.market.conditionId = conditionId := by
    intro snapshot
    rw [List.mem_filter, decide_eq_true_eq]
  split at h
  · case h_1 hnone =>
    cases h
    refine .inl ⟨rfl, fun snapshot hin hcondition => ?_⟩
    have hfound := (hmem snapshot).mpr ⟨hin, hcondition⟩
    rw [hnone] at hfound
    cases hfound
  · case h_2 candidate candidates hcandidates =>
    rw [hcandidates] at hmem
    obtain ⟨hcanonical, hleast⟩ := earliest_spec candidate candidates
    obtain ⟨_, hsame, h⟩ := bind_eq_ok.mp h
    rw [require_eq_ok] at hsame
    obtain ⟨⟨labels, created⟩, hstore, h⟩ := bind_eq_ok.mp h
    have hlabels : after.labels = labels := by
      dsimp only at h
      split_ifs at h <;> cases h <;> rfl
    obtain ⟨hvalid, hstored⟩ := storeLabelRow_cases hstore
    obtain ⟨hin, hcondition⟩ := (hmem _).mp hcanonical
    refine .inr ⟨earliest candidate candidates, ⟨hin, hcondition, fun other hother hother' => ?_⟩,
      fun snapshot hsnapshot other hother hfirst hsecond => ?_, hvalid, ?_⟩
    · exact hleast other ((hmem other).mpr ⟨hother, hother'⟩)
    · rw [hsame snapshot ((hmem snapshot).mpr ⟨hsnapshot, hfirst⟩),
        hsame other ((hmem other).mpr ⟨hother, hsecond⟩)]
    · rw [hlabels]
      rcases hstored with ⟨rfl, existing, hexisting, hits⟩ | hnew
      · exact .inl ⟨rfl, existing, hexisting, hits.trans hcondition⟩
      · exact .inr hnew

/-- A market whose snapshots agree and whose labels are valid is labelled, when it has no label. -/
theorem labelCondition_returns {scan : Scan} {generatedAt : Timestamp} {progress : Progress}
    {conditionId : String} (hunanimous : Unanimous scan conditionId)
    (hvalid : ∀ snapshot ∈ scan.eligible, snapshot.market.conditionId = conditionId →
      validateLabel (labelOf snapshot) = .ok ())
    (hnew : ∀ row ∈ progress.labels, row.label.conditionId ≠ conditionId) :
    ∃ after, labelCondition scan generatedAt progress conditionId = .ok after := by
  unfold labelCondition
  have hmem : ∀ snapshot, snapshot ∈ scan.eligible.filter (·.market.conditionId = conditionId) ↔
      snapshot ∈ scan.eligible ∧ snapshot.market.conditionId = conditionId := by
    intro snapshot
    rw [List.mem_filter, decide_eq_true_eq]
  cases hcandidates : scan.eligible.filter (·.market.conditionId = conditionId) with
  | nil => exact ⟨_, rfl⟩
  | cons candidate candidates =>
    rw [hcandidates] at hmem
    obtain ⟨hcanonical, -⟩ := earliest_spec candidate candidates
    obtain ⟨hin, hcondition⟩ := (hmem _).mp hcanonical
    have hsame : ∀ other ∈ candidate :: candidates, resolutionSemantics other.market =
        resolutionSemantics (earliest candidate candidates).market := by
      intro other hother
      obtain ⟨hother, hits⟩ := (hmem other).mp hother
      exact hunanimous other hother _ hin hits hcondition
    have hunlabelled : Unlabelled progress.labels (labelOf (earliest candidate candidates)) := by
      rintro row hrow ⟨hkey, -⟩
      exact hnew row hrow (hkey.trans hcondition)
    have hstore : storeLabelRow progress.labels
        ⟨labelOf (earliest candidate candidates), generatedAt⟩ = .ok (progress.labels ++
          [⟨labelOf (earliest candidate candidates), generatedAt⟩], true) :=
      storeLabelRow_new (hvalid _ hin hcondition) hunlabelled
    dsimp only
    rw [(require_eq_ok (u := ())).mpr hsame, ok_bind, hstore, ok_bind]
    exact ⟨_, rfl⟩

/-- What the markets of a list add to the labels: every new label is that of the earliest resolved
snapshot of its market, and every market with a resolved snapshot has one. -/
structure Labelled (scan : Scan) (generatedAt : Timestamp) (conditionIds : List String)
    (before after : List LabelRow) : Prop where
  kept : before <+: after
  new : ∀ row ∈ after, row ∈ before ∨ ∃ canonical,
    Canonical scan canonical.market.conditionId canonical ∧ row = ⟨labelOf canonical, generatedAt⟩
  settled : ∀ conditionId ∈ conditionIds, ∀ snapshot ∈ scan.eligible,
    snapshot.market.conditionId = conditionId → Unanimous scan conditionId ∧
      (∃ canonical, Canonical scan conditionId canonical ∧
        validateLabel (labelOf canonical) = .ok ()) ∧
      ∃ row ∈ after, row.label.conditionId = conditionId

/-- **The loop over the markets**; the induction is on their list. -/
theorem labelConditions_spec {scan : Scan} {generatedAt : Timestamp} {conditionIds : List String}
    {progress after : Progress}
    (h : labelConditions scan generatedAt conditionIds progress = .ok after) :
    Labelled scan generatedAt conditionIds progress.labels after.labels := by
  induction conditionIds generalizing progress with
  | nil =>
    cases h
    exact ⟨List.prefix_refl _, fun row hrow => .inl hrow,
      fun conditionId hin => absurd hin List.not_mem_nil⟩
  | cons conditionId conditionIds ih =>
    obtain ⟨between, hfirst, hrest⟩ := bind_eq_ok.mp h
    have hlater := ih hrest
    rcases labelCondition_cases hfirst with ⟨hsame, hnone⟩ |
      ⟨canonical, hcanonical, hunanimous, hvalid, hstored⟩
    · rw [hsame] at hlater
      refine ⟨hlater.kept, hlater.new, fun other hother snapshot hin hits => ?_⟩
      rcases List.mem_cons.mp hother with rfl | hother
      · exact absurd hits (hnone snapshot hin)
      · exact hlater.settled other hother snapshot hin hits
    · have hgrown : progress.labels <+: between.labels := by
        rcases hstored with ⟨hsame, -⟩ | hnew
        · rw [hsame]
        · rw [hnew]
          exact List.prefix_append _ _
      have hlabelled : ∃ row ∈ between.labels, row.label.conditionId = conditionId := by
        rcases hstored with ⟨hsame, existing, hin, hits⟩ | hnew
        · rw [hsame]
          exact ⟨existing, hin, hits⟩
        · rw [hnew]
          exact ⟨_, List.mem_append_right _ List.mem_cons_self, hcanonical.condition⟩
      refine ⟨hgrown.trans hlater.kept, fun row hrow => ?_, fun other hother snapshot hin hits => ?_⟩
      · rcases hlater.new row hrow with hold | hnew
        · rcases hstored with ⟨hsame, -⟩ | happended
          · exact .inl (hsame ▸ hold)
          · rw [happended] at hold
            rcases List.mem_append.mp hold with hold | hlast
            · exact .inl hold
            · refine .inr ⟨canonical, ?_, List.mem_singleton.mp hlast⟩
              rw [hcanonical.condition]
              exact hcanonical
        · exact .inr hnew
      · rcases List.mem_cons.mp hother with rfl | hother
        · obtain ⟨row, hrow, hcondition⟩ := hlabelled
          exact ⟨hunanimous, ⟨canonical, hcanonical, hvalid⟩, row, hlater.kept.subset hrow, hcondition⟩
        · exact hlater.settled other hother snapshot hin hits

/-- The loop over distinct markets returns when their snapshots agree, their labels are valid and
none of them has a label yet. -/
theorem labelConditions_returns {scan : Scan} {generatedAt : Timestamp} {conditionIds : List String}
    {progress : Progress} (hnodup : conditionIds.Nodup)
    (hunanimous : ∀ conditionId ∈ conditionIds, Unanimous scan conditionId)
    (hvalid : ∀ snapshot ∈ scan.eligible, validateLabel (labelOf snapshot) = .ok ())
    (hnew : ∀ row ∈ progress.labels, row.label.conditionId ∉ conditionIds) :
    ∃ after, labelConditions scan generatedAt conditionIds progress = .ok after := by
  induction conditionIds generalizing progress with
  | nil => exact ⟨progress, rfl⟩
  | cons conditionId conditionIds ih =>
    rw [List.nodup_cons] at hnodup
    have hreturns : ∃ between,
        labelCondition scan generatedAt progress conditionId = .ok between :=
      labelCondition_returns (hunanimous conditionId List.mem_cons_self)
        (fun snapshot hin _ => hvalid snapshot hin)
        fun row hrow heq => hnew row hrow (heq ▸ List.mem_cons_self)
    obtain ⟨between, hfirst⟩ := hreturns
    have hbetween : ∀ row ∈ between.labels, row.label.conditionId ∉ conditionIds := by
      intro row hrow hin
      have hold : ∀ row ∈ progress.labels, row.label.conditionId ∉ conditionIds :=
        fun row hrow hin => hnew row hrow (List.mem_cons_of_mem _ hin)
      rcases labelCondition_cases hfirst with ⟨hsame, -⟩ | ⟨canonical, hcanonical, -, -, hstored⟩
      · exact hold row (hsame ▸ hrow) hin
      · rcases hstored with ⟨hsame, -⟩ | happended
        · exact hold row (hsame ▸ hrow) hin
        · rw [happended] at hrow
          rcases List.mem_append.mp hrow with hrow | hlast
          · exact hold row hrow hin
          · rw [List.mem_singleton.mp hlast] at hin
            change canonical.market.conditionId ∈ conditionIds at hin
            rw [hcanonical.condition] at hin
            exact hnodup.1 hin
    obtain ⟨after, hrest⟩ := ih hnodup.2
      (fun other hother => hunanimous other (List.mem_cons_of_mem _ hother)) hbetween
    refine ⟨after, ?_⟩
    unfold labelConditions
    rw [hfirst, ok_bind, hrest]

/-! ## One call -/

/-- What a call that returned has found and stored. -/
structure Generated (T : GammaText) (snapshots : List SnapshotRow) (call : LabelCall)
    (before after : List LabelRow) : Prop where
  ordered : call.start < call.finish
  rows : ∀ row ∈ snapshots, call.selects row = true → RowOk T call row
  kept : before <+: after
  new : ∀ row ∈ after, row ∈ before ∨ ∃ canonical,
    Canonical (scanOf T snapshots call) canonical.market.conditionId canonical ∧
      row = ⟨labelOf canonical, call.generatedAt⟩
  settled : ∀ snapshot ∈ (scanOf T snapshots call).eligible,
    Unanimous (scanOf T snapshots call) snapshot.market.conditionId ∧
      (∃ canonical, Canonical (scanOf T snapshots call) snapshot.market.conditionId canonical ∧
        validateLabel (labelOf canonical) = .ok ()) ∧
      ∃ row ∈ after, row.label.conditionId = snapshot.market.conditionId

/-- **A call that returns** has checked every row it selected, and labelled every market with a
resolved snapshot inside its window by the earliest one. -/
theorem generateLabels_spec {snapshots : List SnapshotRow} {before after : List LabelRow}
    {stats : LabelGenerationStats}
    (h : generateLabels T snapshots before call = .ok (after, stats)) :
    Generated T snapshots call before after := by
  unfold generateLabels at h
  obtain ⟨_, hordered, h⟩ := bind_eq_ok.mp h
  obtain ⟨_, -, h⟩ := bind_eq_ok.mp h
  obtain ⟨scan, hscan, h⟩ := bind_eq_ok.mp h
  obtain ⟨progress, hprogress, h⟩ := bind_eq_ok.mp h
  cases h
  obtain ⟨hrows, hscan⟩ := scanRows_eq_ok.mp hscan
  obtain rfl : scan = scanOf T snapshots call := by
    rw [hscan]
    rfl
  have hlabelled := labelConditions_spec hprogress
  refine ⟨require_eq_ok.mp hordered, fun row hrow hselects => ?_, hlabelled.kept, hlabelled.new,
    fun snapshot hin => ?_⟩
  · exact hrows row (mem_selected.mpr ⟨hrow, hselects⟩)
  · refine hlabelled.settled _ ?_ snapshot hin rfl
    rw [List.mem_insertionSort, List.mem_dedup]
    exact considered_of_eligible hin

/-- **A call returns on an empty table** when its rows are as they should be, the resolved snapshots
of each market agree, and their labels are valid. -/
theorem generateLabels_returns {snapshots : List SnapshotRow} (hordered : call.start < call.finish)
    (hscope : scopeOk call.conditionIds)
    (hrows : ∀ row ∈ snapshots, call.selects row = true → RowOk T call row)
    (hunanimous : ∀ conditionId, Unanimous (scanOf T snapshots call) conditionId)
    (hvalid : ∀ snapshot ∈ (scanOf T snapshots call).eligible,
      validateLabel (labelOf snapshot) = .ok ()) :
    ∃ after stats, generateLabels T snapshots [] call = .ok (after, stats) := by
  have hscan : scanRows T call ((snapshots.filter call.selects).insertionSort rowFirst) {} =
      .ok (scanOf T snapshots call) := by
    refine scanRows_eq_ok.mpr ⟨fun row hrow => ?_, rfl⟩
    obtain ⟨hin, hselects⟩ := mem_selected.mp hrow
    exact hrows row hin hselects
  have hnodup : ((scanOf T snapshots call).considered.dedup.insertionSort (· ≤ ·)).Nodup :=
    (List.perm_insertionSort _ _).nodup_iff.mpr (List.nodup_dedup _)
  have hreturns : ∃ after, labelConditions (scanOf T snapshots call) call.generatedAt
      ((scanOf T snapshots call).considered.dedup.insertionSort (· ≤ ·)) { labels := [] } =
        .ok after :=
    labelConditions_returns hnodup (fun conditionId _ => hunanimous conditionId) hvalid
      fun row hrow => absurd hrow List.not_mem_nil
  obtain ⟨after, hafter⟩ := hreturns
  refine ⟨after.labels, { after.stats with
    conditionsConsidered := (scanOf T snapshots call).considered.dedup.length }, ?_⟩
  unfold generateLabels
  rw [(require_eq_ok (u := ())).mpr hordered, ok_bind, (require_eq_ok (u := ())).mpr hscope, ok_bind,
    hscan, ok_bind]
  dsimp only
  rw [hafter, ok_bind]

end BpEngine.Labels
