import BpEngine.Labels.Generation
import BpEngine.Library.Machine

/-!
# Labels are stable

Arrivals of snapshots and generations of labels in any order.

* `LabelStore.exec` is one event; a generation that raises is rolled back.
* `EarliestResolved` ties a label to the snapshot it was made of; `StoreInv` says that every stored
  label has one, and `storeInv_exec` is its step.
* `generate_split`: generations that together cover a window store what a single one would.
* `labels_are_stable` is the whole of it over runs.
-/

namespace BpEngine.Labels

open BpEngine.PaperLedger

/-- The two tables. -/
structure LabelStore where
  snapshots : List SnapshotRow := []
  labels : List LabelRow := []

/-- An arrival of a snapshot, with the id the database gives it, or a generation of labels. -/
inductive LabelEvent where
  | arrive (id : ℕ) (snapshot : PolymarketMarketSnapshot)
  | generate (call : LabelCall)

/-- One event. -/
def LabelStore.exec (T : GammaText) (store : LabelStore) : LabelEvent → LabelStore
  | .arrive id snapshot => { store with snapshots := (storeSnapshot store.snapshots id snapshot).1 }
  | .generate call =>
    match generateLabels T store.snapshots store.labels call with
    | .ok (labels, _) => { store with labels }
    | .error _ => store

/-- An arrival comes after the snapshots that are there. -/
def Increasing (store : LabelStore) : LabelEvent → Prop
  | .arrive id snapshot => ∀ row ∈ store.snapshots, row.downloadedAt < snapshot.downloadedAt ∨
      row.downloadedAt = snapshot.downloadedAt ∧ row.id < id
  | .generate _ => True

instance (store : LabelStore) : ∀ event, Decidable (Increasing store event)
  | .arrive id snapshot => inferInstanceAs (Decidable (∀ row ∈ store.snapshots,
      row.downloadedAt < snapshot.downloadedAt ∨
        row.downloadedAt = snapshot.downloadedAt ∧ row.id < id))
  | .generate _ => isTrue trivial

/-- A generation does not raise. -/
def Returns (T : GammaText) (store : LabelStore) : LabelEvent → Prop
  | .arrive _ _ => True
  | .generate call => (generateLabels T store.snapshots store.labels call).isOk = true

/-- The store after some events, from empty tables. -/
def storeAfter (T : GammaText) (events : List LabelEvent) : LabelStore :=
  Machine.run (LabelStore.exec T) {} events

/-! ## The source of a label -/

/-- The row is before the other one. -/
def SnapshotRow.before (a b : SnapshotRow) : Prop :=
  a.downloadedAt < b.downloadedAt ∨ a.downloadedAt = b.downloadedAt ∧ a.id < b.id

/-- The label is that of the snapshot: a closed, resolved snapshot of its market, observed at or after
the market's end, and the earliest of those inside the window of the call. -/
structure EarliestResolved (T : GammaText) (snapshots : List SnapshotRow) (call : LabelCall)
    (label : MarketLabel) (row : SnapshotRow) (market : PolymarketMarket) : Prop where
  mem : row ∈ snapshots
  parses : parseGammaMarket T row.payload = .ok market
  condition : row.conditionId = label.conditionId ∧ market.conditionId = label.conditionId
  resolved : market.closed = true ∧ market.resolvedOutcome = some label.officialOutcome
  observed : market.windowEndAt ≤ row.downloadedAt
  covers : call.Covers market.windowStartAt
  made : label = labelOf ⟨row.id, row.downloadedAt, row.payloadSha256, market⟩
  least : ∀ other ∈ snapshots, ∀ its, parseGammaMarket T other.payload = .ok its →
    other.conditionId = label.conditionId → its.closed = true →
    its.resolvedOutcome.isSome = true → call.Covers its.windowStartAt → ¬ other.before row

/-- Snapshots are in the order they arrived in, and every label has a source in a call of `C`. -/
structure StoreInv (T : GammaText) (C : LabelCall → Prop) (store : LabelStore) : Prop where
  ordered : store.snapshots.Pairwise SnapshotRow.before
  sourced : ∀ row ∈ store.labels, ∃ call, C call ∧ row.generatedAt = call.generatedAt ∧
    ∃ snapshot market, EarliestResolved T store.snapshots call row.label snapshot market

section Step

variable {T : GammaText} {C : LabelCall → Prop} {store : LabelStore} {call : LabelCall}

theorem selects_congr {row other : SnapshotRow} (h : other.conditionId = row.conditionId) :
    call.selects other = call.selects row := by
  unfold LabelCall.selects
  rw [h]

/-- The label of the earliest resolved snapshot has it as its source. -/
theorem earliestResolved_of_canonical {snapshots : List SnapshotRow} {canonical : ResolvedSnapshot}
    (hrows : ∀ row ∈ snapshots, call.selects row = true → RowOk T call row)
    (hcanonical : Canonical (scanOf T snapshots call) canonical.market.conditionId canonical) :
    ∃ row market, EarliestResolved T snapshots call (labelOf canonical) row market := by
  obtain ⟨row, hrow, hselects, hresolved⟩ := mem_eligible.mp hcanonical.mem
  obtain ⟨market, hin, hclosed, hsome, rfl⟩ := resolvedOf_eq_some.mp hresolved
  obtain ⟨hparse, hcovers⟩ := inWindow_eq_some.mp hin
  have hok := hrows row hrow hselects
  have hcondition : row.conditionId = market.conditionId := (hok.envelope market hin).1
  obtain ⟨outcome, houtcome⟩ := Option.isSome_iff_exists.mp hsome
  refine ⟨row, market, hrow, hparse, ⟨hcondition, rfl⟩, ⟨hclosed, ?_⟩, hok.observed market hin hsome,
    hcovers, rfl, fun other hother its hits hsame hits' hsome' hcovers' => ?_⟩
  · change _ = some (orEmpty market.resolvedOutcome)
    rw [houtcome]
    rfl
  · have hselects' : call.selects other = true :=
      (selects_congr (hsame.trans hcondition.symm)).trans hselects
    have hin' : inWindow T call other = some its := inWindow_eq_some.mpr ⟨hits, hcovers'⟩
    have heligible := mem_eligible.mpr ⟨other, hother, hselects',
      resolvedOf_eq_some.mpr ⟨its, hin', hits', hsome', rfl⟩⟩
    have henvelope := ((hrows other hother hselects').envelope its hin').1
    exact hcanonical.least _ heligible (henvelope.symm.trans hsame)

/-- A later arrival leaves the source of a label what it is. -/
theorem EarliestResolved.arrive {snapshots : List SnapshotRow} {label : MarketLabel}
    {row new : SnapshotRow} {market : PolymarketMarket}
    (h : EarliestResolved T snapshots call label row market) (hnew : row.before new) :
    EarliestResolved T (snapshots ++ [new]) call label row market where
  mem := List.mem_append_left _ h.mem
  parses := h.parses
  condition := h.condition
  resolved := h.resolved
  observed := h.observed
  covers := h.covers
  made := h.made
  least other hother its hits hsame hclosed hsome hcovers := by
    rcases List.mem_append.mp hother with hin | hlast
    · exact h.least other hin its hits hsame hclosed hsome hcovers
    · rw [List.mem_singleton.mp hlast]
      exact not_before_of_before hnew

/-- **The step**: an arrival in order, or a generation of `C`, keeps the invariant. -/
theorem storeInv_exec (h : StoreInv T C store) {event : LabelEvent}
    (hincreasing : Increasing store event) (hevent : ∀ call, event = .generate call → C call) :
    StoreInv T C (store.exec T event) := by
  cases event with
  | arrive id snapshot =>
    rw [LabelStore.exec, storeSnapshot]
    by_cases hknown : (store.snapshots.any fun row => row.conditionId = snapshot.conditionId &&
        row.payloadSha256 = snapshot.payloadSha256) = true
    · rw [if_pos hknown]
      exact h
    · rw [if_neg hknown]
      refine ⟨?_, fun row hrow => ?_⟩
      · refine List.pairwise_append.mpr ⟨h.ordered, List.pairwise_singleton _ _, ?_⟩
        intro row hrow new hnew
        rw [List.mem_singleton.mp hnew]
        exact hincreasing row hrow
      · obtain ⟨call, hcall, hgenerated, source, market, hsource⟩ := h.sourced row hrow
        exact ⟨call, hcall, hgenerated, source, market,
          hsource.arrive (hincreasing source hsource.mem)⟩
  | generate call =>
    rw [LabelStore.exec]
    cases hgenerate : generateLabels T store.snapshots store.labels call with
    | error error => exact h
    | ok result =>
      obtain ⟨labels, stats⟩ := result
      have hgenerated := generateLabels_spec hgenerate
      refine ⟨h.ordered, fun row hrow => ?_⟩
      rcases hgenerated.new row hrow with hold | ⟨canonical, hcanonical, rfl⟩
      · exact h.sourced row hold
      · exact ⟨call, hevent call rfl, rfl,
          earliestResolved_of_canonical hgenerated.rows hcanonical⟩

/-- An event only adds labels. -/
theorem labels_exec (store : LabelStore) (event : LabelEvent) :
    store.labels <+: (store.exec T event).labels := by
  cases event with
  | arrive id snapshot => exact List.prefix_refl _
  | generate call =>
    rw [LabelStore.exec]
    cases hgenerate : generateLabels T store.snapshots store.labels call with
    | error error => exact List.prefix_refl _
    | ok result => exact (generateLabels_spec hgenerate).kept

/-- **The run**: the events of a run only add labels. -/
theorem labels_run (store : LabelStore) (events : List LabelEvent) :
    store.labels <+: (Machine.run (LabelStore.exec T) store events).labels := by
  induction events generalizing store with
  | nil => exact List.prefix_refl _
  | cons event events ih => exact (labels_exec store event).trans (ih _)

/-- **The run**: arrivals in order and generations of `C` keep the invariant. -/
theorem storeInv_run (h : StoreInv T C store) {events : List LabelEvent}
    (hincreasing : Machine.Along (LabelStore.exec T) Increasing store events)
    (hevents : ∀ call, .generate call ∈ events → C call) :
    StoreInv T C (Machine.run (LabelStore.exec T) store events) := by
  induction events generalizing store with
  | nil => exact h
  | cons event events ih =>
    refine ih (storeInv_exec h hincreasing.1 fun call hcall => ?_) hincreasing.2
      fun call hin => hevents call (List.mem_cons_of_mem _ hin)
    exact hevents call (hcall ▸ List.mem_cons_self)

end Step

/-! ## Split windows -/

/-- The snapshots of each market agree on its window. -/
def SameWindows (T : GammaText) (snapshots : List SnapshotRow) : Prop :=
  ∀ row ∈ snapshots, ∀ other ∈ snapshots, ∀ market its,
    parseGammaMarket T row.payload = .ok market → parseGammaMarket T other.payload = .ok its →
      market.conditionId = its.conditionId →
        market.windowStartAt = its.windowStartAt ∧ market.windowEndAt = its.windowEndAt

/-- The calls together cover the window from `a` to `c`, for every row. -/
def CoverWindow (snapshots : List SnapshotRow) (calls : List LabelCall) (a c : Timestamp) : Prop :=
  ∀ row ∈ snapshots, ∀ instant, a ≤ instant → instant < c →
    ∃ call ∈ calls, call.selects row = true ∧ call.Covers instant

/-- A call without a scope. -/
def wholeCall (a c generatedAt : Timestamp) : LabelCall where
  start := a
  finish := c
  generatedAt := generatedAt

section Split

variable {T : GammaText} {C : LabelCall → Prop} {store : LabelStore}

/-- Generations leave the snapshots alone. -/
theorem snapshots_generations (store : LabelStore) (calls : List LabelCall) :
    (Machine.run (LabelStore.exec T) store (calls.map .generate)).snapshots = store.snapshots := by
  induction calls generalizing store with
  | nil => rfl
  | cons call calls ih =>
    rw [List.map_cons, Machine.run_cons, ih, LabelStore.exec]
    split <;> rfl

/-- **Generations that return**: each of them has found and stored what it says, and the labels it
stored are still there at the end. -/
theorem generated_run {calls : List LabelCall}
    (hreturns : Machine.Along (LabelStore.exec T) (Returns T) store (calls.map .generate)) :
    ∀ call ∈ calls, ∃ before after, Generated T store.snapshots call before after ∧
      after <+: (Machine.run (LabelStore.exec T) store (calls.map .generate)).labels := by
  induction calls generalizing store with
  | nil => exact fun call hin => absurd hin List.not_mem_nil
  | cons first calls ih =>
    rw [List.map_cons] at hreturns ⊢
    obtain ⟨hfirst, hrest⟩ := hreturns
    have hsame : (store.exec T (.generate first)).snapshots = store.snapshots :=
      snapshots_generations store [first]
    intro call hcall
    rcases List.mem_cons.mp hcall with rfl | hin
    · obtain ⟨⟨labels, stats⟩, hgenerate⟩ := exists_ok_of_isOk hfirst
      have hlabels : (store.exec T (.generate call)).labels = labels := by
        rw [LabelStore.exec, hgenerate]
      refine ⟨store.labels, labels, generateLabels_spec hgenerate, ?_⟩
      rw [Machine.run_cons, ← hlabels]
      exact labels_run _ _
    · obtain ⟨before, after, hgenerated, hkept⟩ := ih hrest call hin
      rw [hsame] at hgenerated
      exact ⟨before, after, hgenerated, hkept⟩

/-- Of two rows neither of which is before the other there is only one. -/
theorem row_unique {snapshots : List SnapshotRow} (h : snapshots.Pairwise SnapshotRow.before)
    {a b : SnapshotRow} (ha : a ∈ snapshots) (hb : b ∈ snapshots) (hab : ¬ a.before b)
    (hba : ¬ b.before a) : a = b := by
  by_contra hne
  have hsymmetric : Std.Symm fun a b : SnapshotRow => a.before b ∨ b.before a :=
    ⟨fun _ _ => Or.symm⟩
  have heither : snapshots.Pairwise fun a b => a.before b ∨ b.before a := h.imp Or.inl
  rcases heither.forall ha hb hne with hbefore | hbefore
  · exact hab hbefore
  · exact hba hbefore

/-- What is checked of a label. -/
theorem validateLabel_eq_ok {label : MarketLabel} :
    validateLabel label = .ok () ↔ 0 < label.horizonSeconds ∧
      label.marketStartAt < label.marketEndAt ∧ label.marketEndAt ≤ label.sourceObservedAt ∧
        (label.officialOutcome = "Up" ∨ label.officialOutcome = "Down") := by
  unfold validateLabel
  simp only [bind_eq_ok, require_eq_ok, exists_const]

section Calls

variable {calls : List LabelCall} {a c : Timestamp}
  {snapshots : List SnapshotRow} {labels : List LabelRow}

/-- What the calls have established: every call its rows, and what it stored is in the labels. -/
def Settled (T : GammaText) (snapshots : List SnapshotRow) (labels : List LabelRow)
    (calls : List LabelCall) : Prop :=
  ∀ call ∈ calls, ∃ before after, Generated T snapshots call before after ∧ after <+: labels

/-- Every row is as the whole window needs it. -/
theorem rowOk_whole (hsettled : Settled T snapshots labels calls)
    (hcover : CoverWindow snapshots calls a c) (hac : a < c) (generatedAt : Timestamp)
    {row : SnapshotRow} (hrow : row ∈ snapshots) : RowOk T (wholeCall a c generatedAt) row := by
  have hinside : ∀ market, inWindow T (wholeCall a c generatedAt) row = some market →
      ∃ call ∈ calls, inWindow T call row = some market ∧ RowOk T call row := by
    intro market hin
    obtain ⟨hparse, hstart, hfinish⟩ := inWindow_eq_some.mp hin
    obtain ⟨call, hcall, hselects, hcovers⟩ := hcover row hrow _ hstart hfinish
    obtain ⟨_, _, hgenerated, -⟩ := hsettled call hcall
    exact ⟨call, hcall, inWindow_eq_some.mpr ⟨hparse, hcovers⟩, hgenerated.rows row hrow hselects⟩
  refine ⟨?_, fun market hin => ?_, fun market hin hsome => ?_⟩
  · obtain ⟨call, hcall, hselects, -⟩ := hcover row hrow a le_rfl hac
    obtain ⟨_, _, hgenerated, -⟩ := hsettled call hcall
    exact (hgenerated.rows row hrow hselects).parses
  · obtain ⟨call, -, hin, hok⟩ := hinside market hin
    exact hok.envelope market hin
  · obtain ⟨call, -, hin, hok⟩ := hinside market hin
    exact hok.observed market hin hsome

/-- Two resolved snapshots of one market in the whole window are both in the window of one call. -/
theorem eligible_together (hsettled : Settled T snapshots labels calls)
    (hagree : SameWindows T snapshots) (hcover : CoverWindow snapshots calls a c) (hac : a < c)
    {generatedAt : Timestamp} {snapshot other : ResolvedSnapshot}
    (hsnapshot : snapshot ∈ (scanOf T snapshots (wholeCall a c generatedAt)).eligible)
    (hother : other ∈ (scanOf T snapshots (wholeCall a c generatedAt)).eligible)
    (hsame : other.market.conditionId = snapshot.market.conditionId) :
    ∃ call ∈ calls, snapshot ∈ (scanOf T snapshots call).eligible ∧
      other ∈ (scanOf T snapshots call).eligible := by
  obtain ⟨row, hrow, -, hresolved⟩ := mem_eligible.mp hsnapshot
  obtain ⟨market, hin, hclosed, hsome, rfl⟩ := resolvedOf_eq_some.mp hresolved
  obtain ⟨row', hrow', -, hresolved'⟩ := mem_eligible.mp hother
  obtain ⟨market', hin', hclosed', hsome', rfl⟩ := resolvedOf_eq_some.mp hresolved'
  have henvelope :=
    ((rowOk_whole hsettled hcover hac generatedAt hrow).envelope market hin).1
  have henvelope' :=
    ((rowOk_whole hsettled hcover hac generatedAt hrow').envelope market' hin').1
  obtain ⟨hparse, hstart, hfinish⟩ := inWindow_eq_some.mp hin
  obtain ⟨hparse', -⟩ := inWindow_eq_some.mp hin'
  obtain ⟨call, hcall, hselects, hcovers⟩ := hcover row hrow _ hstart hfinish
  have hselects' : call.selects row' = true := by
    rw [selects_congr (henvelope'.trans (hsame.trans henvelope.symm))]
    exact hselects
  have hcovers' : call.Covers market'.windowStartAt := by
    rw [(hagree row' hrow' row hrow market' market hparse' hparse hsame).1]
    exact hcovers
  refine ⟨call, hcall, ?_, ?_⟩
  · exact mem_eligible.mpr ⟨row, hrow, hselects, resolvedOf_eq_some.mpr
      ⟨market, inWindow_eq_some.mpr ⟨hparse, hcovers⟩, hclosed, hsome, rfl⟩⟩
  · exact mem_eligible.mpr ⟨row', hrow', hselects', resolvedOf_eq_some.mpr
      ⟨market', inWindow_eq_some.mpr ⟨hparse', hcovers'⟩, hclosed', hsome', rfl⟩⟩

/-- The label of the earliest snapshot in the whole window is the stored label of its market. -/
theorem stored_eq_labelOf (hsettled : Settled T snapshots labels calls)
    (hordered : snapshots.Pairwise SnapshotRow.before) (hagree : SameWindows T snapshots)
    (hcover : CoverWindow snapshots calls a c) (hac : a < c) {generatedAt : Timestamp}
    {canonical : ResolvedSnapshot}
    (hcanonical : Canonical (scanOf T snapshots (wholeCall a c generatedAt))
      canonical.market.conditionId canonical) {call : LabelCall} {label : MarketLabel}
    {row : SnapshotRow} {market : PolymarketMarket}
    (hsource : EarliestResolved T snapshots call label row market)
    (hsame : label.conditionId = canonical.market.conditionId) : label = labelOf canonical := by
  obtain ⟨other, hother, -, hresolved⟩ := mem_eligible.mp hcanonical.mem
  obtain ⟨its, hin, hclosed, hsome, rfl⟩ := resolvedOf_eq_some.mp hresolved
  change label.conditionId = its.conditionId at hsame
  have henvelope :=
    ((rowOk_whole hsettled hcover hac generatedAt hother).envelope its hin).1
  obtain ⟨hparse, hcovers⟩ := inWindow_eq_some.mp hin
  have hwindow : market.windowStartAt = its.windowStartAt :=
    (hagree row hsource.mem other hother market its hsource.parses hparse
      (hsource.condition.2.trans hsame)).1
  -- neither of the two snapshots is before the other, so they are one
  have hrow : ¬ other.before row := by
    refine hsource.least other hother its hparse (henvelope.trans hsame.symm) hclosed hsome ?_
    rw [← hwindow]
    exact hsource.covers
  have heligible : (⟨row.id, row.downloadedAt, row.payloadSha256, market⟩ : ResolvedSnapshot) ∈
      (scanOf T snapshots (wholeCall a c generatedAt)).eligible := by
    refine mem_eligible.mpr ⟨row, hsource.mem, rfl, resolvedOf_eq_some.mpr ⟨market, ?_,
      hsource.resolved.1, by rw [hsource.resolved.2]; rfl, rfl⟩⟩
    refine inWindow_eq_some.mpr ⟨hsource.parses, ?_⟩
    rw [hwindow]
    exact hcovers
  have hother' : ¬ row.before other :=
    hcanonical.least _ heligible (hsource.condition.2.trans hsame)
  obtain rfl := row_unique hordered hsource.mem hother hother' hrow
  have hmarket : market = its := by
    have hboth := hsource.parses.symm.trans hparse
    cases hboth
    rfl
  rw [hsource.made, hmarket]

/-- A resolved snapshot in the whole window has a valid label. -/
theorem valid_whole (hsettled : Settled T snapshots labels calls)
    (hagree : SameWindows T snapshots) (hcover : CoverWindow snapshots calls a c) (hac : a < c)
    {generatedAt : Timestamp} {snapshot : ResolvedSnapshot}
    (hsnapshot : snapshot ∈ (scanOf T snapshots (wholeCall a c generatedAt)).eligible) :
    validateLabel (labelOf snapshot) = .ok () := by
  obtain ⟨call, hcall, heligible, -⟩ :=
    eligible_together hsettled hagree hcover hac hsnapshot hsnapshot rfl
  obtain ⟨_, _, hgenerated, -⟩ := hsettled call hcall
  obtain ⟨hunanimous, ⟨canonical, hcanonical, hvalid⟩, -⟩ := hgenerated.settled snapshot heligible
  have hsemantics := hunanimous canonical hcanonical.mem snapshot heligible hcanonical.condition rfl
  simp only [resolutionSemantics, ResolutionSemantics.mk.injEq] at hsemantics
  obtain ⟨-, -, hhorizon, hstart, hend, houtcome, -, -⟩ := hsemantics
  obtain ⟨hpositive, hlong, -, hupOrDown⟩ := validateLabel_eq_ok.mp hvalid
  obtain ⟨row, hrow, hselects, hresolved⟩ := mem_eligible.mp heligible
  obtain ⟨market, hin, -, hsome, rfl⟩ := resolvedOf_eq_some.mp hresolved
  refine validateLabel_eq_ok.mpr ⟨?_, ?_, ?_, ?_⟩
  · change 0 < market.horizonSeconds
    rw [← hhorizon]
    exact hpositive
  · change market.windowStartAt < market.windowEndAt
    rw [← hstart, ← hend]
    exact hlong
  · exact (hgenerated.rows row hrow hselects).observed market hin hsome
  · change orEmpty market.resolvedOutcome = "Up" ∨ orEmpty market.resolvedOutcome = "Down"
    rw [← houtcome]
    exact hupOrDown

/-- **Generations that together cover a window** store the labels that a single one stores: the
single one returns, and its labels are the stored ones of the markets that start in the window. -/
theorem generate_split (hsettled : Settled T snapshots labels calls)
    (hinv : StoreInv T C ⟨snapshots, labels⟩) (hagree : SameWindows T snapshots)
    (hcover : CoverWindow snapshots calls a c) (hac : a < c) (generatedAt : Timestamp) :
    ∃ single stats, generateLabels T snapshots [] (wholeCall a c generatedAt) = .ok (single, stats) ∧
      ∀ label, label ∈ single.map (·.label) ↔
        label ∈ labels.map (·.label) ∧ a ≤ label.marketStartAt ∧ label.marketStartAt < c := by
  have hreturns : ∃ single stats,
      generateLabels T snapshots [] (wholeCall a c generatedAt) = .ok (single, stats) := by
    refine generateLabels_returns hac trivial
      (fun row hrow _ => rowOk_whole hsettled hcover hac generatedAt hrow) ?_
      fun snapshot hin => valid_whole hsettled hagree hcover hac hin
    intro conditionId snapshot hin other hother hfirst hsecond
    obtain ⟨call, hcall, heligible, heligible'⟩ := eligible_together hsettled hagree hcover hac hin
      hother (hsecond.trans hfirst.symm)
    obtain ⟨_, _, hgenerated, -⟩ := hsettled call hcall
    exact (hgenerated.settled snapshot heligible).1 snapshot heligible other heligible' rfl
      (hsecond.trans hfirst.symm)
  obtain ⟨single, stats, hgenerate⟩ := hreturns
  refine ⟨single, stats, hgenerate, fun label => ?_⟩
  have hwhole := generateLabels_spec hgenerate
  simp only [List.mem_map]
  constructor
  · rintro ⟨row, hrow, rfl⟩
    rcases hwhole.new row hrow with hold | ⟨canonical, hcanonical, rfl⟩
    · exact absurd hold List.not_mem_nil
    · obtain ⟨call, hcall, heligible, -⟩ := eligible_together hsettled hagree hcover hac
        hcanonical.mem hcanonical.mem rfl
      obtain ⟨_, after, hgenerated, hkept⟩ := hsettled call hcall
      obtain ⟨-, -, stored, hstored, hcondition⟩ := hgenerated.settled canonical heligible
      obtain ⟨_, -, -, _, _, hsource⟩ := hinv.sourced stored (hkept.subset hstored)
      have hsame := stored_eq_labelOf hsettled hinv.ordered hagree hcover hac hcanonical hsource
        hcondition
      refine ⟨⟨stored, hkept.subset hstored, hsame⟩, ?_⟩
      obtain ⟨_, -, -, hresolved⟩ := mem_eligible.mp hcanonical.mem
      obtain ⟨market, hin, -, -, rfl⟩ := resolvedOf_eq_some.mp hresolved
      exact (inWindow_eq_some.mp hin).2
  · rintro ⟨⟨stored, hstored, rfl⟩, hstart, hfinish⟩
    obtain ⟨_, -, -, row, market, hsource⟩ := hinv.sourced stored hstored
    have hmarket : stored.label.marketStartAt = market.windowStartAt := by
      rw [hsource.made]
      rfl
    have hcovers : (wholeCall a c generatedAt).Covers market.windowStartAt := by
      rw [hmarket] at hstart hfinish
      exact ⟨hstart, hfinish⟩
    have heligible := mem_eligible.mpr ⟨row, hsource.mem, rfl, resolvedOf_eq_some.mpr ⟨market,
      inWindow_eq_some.mpr ⟨hsource.parses, hcovers⟩, hsource.resolved.1,
      by rw [hsource.resolved.2]; rfl, rfl⟩⟩
    obtain ⟨-, -, fresh, hfresh, hcondition⟩ := hwhole.settled _ heligible
    rcases hwhole.new fresh hfresh with hold | ⟨canonical, hcanonical, rfl⟩
    · exact absurd hold List.not_mem_nil
    · have hsame := stored_eq_labelOf hsettled hinv.ordered hagree hcover hac hcanonical hsource
        (hsource.condition.2.symm.trans hcondition.symm)
      exact ⟨_, hfresh, hsame.symm⟩

end Calls

/-! ## Over runs -/

/-- What holds of the store after some events: labels are never changed, each is that of the earliest
resolved snapshot in the window of a call, and split windows make no difference. -/
structure LabelsStable (T : GammaText) (events : List LabelEvent) : Prop where
  kept : ∀ before later, events = before ++ later →
    (storeAfter T before).labels <+: (storeAfter T events).labels
  sourced : ∀ row ∈ (storeAfter T events).labels, ∃ call, .generate call ∈ events ∧
    row.generatedAt = call.generatedAt ∧ ∃ snapshot market,
      EarliestResolved T (storeAfter T events).snapshots call row.label snapshot market
  split : ∀ before calls a c generatedAt, events = before ++ calls.map .generate →
    Machine.Along (LabelStore.exec T) (Returns T) (storeAfter T before) (calls.map .generate) →
    SameWindows T (storeAfter T events).snapshots →
    CoverWindow (storeAfter T events).snapshots calls a c → a < c →
    ∃ single stats, generateLabels T (storeAfter T events).snapshots [] (wholeCall a c generatedAt) =
        .ok (single, stats) ∧
      ∀ label, label ∈ single.map (·.label) ↔
        label ∈ (storeAfter T events).labels.map (·.label) ∧
          a ≤ label.marketStartAt ∧ label.marketStartAt < c

/-- **Labels are stable and independent of how they were generated**, after arrivals in order and
generations of any windows, times and scopes in any interleaving. -/
theorem labels_are_stable (T : GammaText) (events : List LabelEvent)
    (hincreasing : Machine.Along (LabelStore.exec T) Increasing {} events) :
    LabelsStable T events := by
  have hinv : StoreInv T (fun call => .generate call ∈ events) (storeAfter T events) := by
    refine storeInv_run ⟨List.Pairwise.nil, ?_⟩ hincreasing fun _ hin => hin
    exact fun row hrow => absurd hrow List.not_mem_nil
  refine ⟨fun before later hevents => ?_, hinv.sourced, ?_⟩
  · rw [hevents, storeAfter, storeAfter, Machine.run_append]
    exact labels_run _ later
  · intro before calls a c generatedAt hevents hreturns hagree hcover hac
    have hrun : storeAfter T events =
        Machine.run (LabelStore.exec T) (storeAfter T before) (calls.map .generate) := by
      rw [hevents, storeAfter, Machine.run_append]
      rfl
    have hsettled : Settled T (storeAfter T events).snapshots (storeAfter T events).labels calls := by
      intro call hcall
      rw [hrun, snapshots_generations]
      exact generated_run hreturns call hcall
    exact generate_split hsettled hinv hagree hcover hac generatedAt

/-- The texts of a market that has ended Up. -/
def sampleText : GammaText where
  loads text :=
    if text = "outcomes" then .ok (.arr [.str "Up", .str "Down"])
    else if text = "tokens" then .ok (.arr [.str "1", .str "2"])
    else if text = "prices" then .ok (.arr [.str "1", .str "0"])
    else raise .jsonDecodeError ""
  digit c := if '0' ≤ c ∧ c ≤ '9' then some (c.toNat - '0'.toNat) else none
  sha256 _ := ""

/-- A snapshot of a market of 300 seconds from the epoch on, closed or not. -/
def sampleSnapshot (seconds : ℤ) (sha256 : String) (closed : Bool) : PolymarketMarketSnapshot where
  conditionId := "0xc"
  gammaMarketId := "g"
  slug := "btc-updown-5m-0"
  downloadedAt := Timestamp.ofSeconds seconds
  payloadSha256 := sha256
  payload := [("slug", .str "btc-updown-5m-0"), ("outcomes", .str "outcomes"),
    ("clobTokenIds", .str "tokens"), ("outcomePrices", .str "prices"),
    ("resolutionSource", .str "chainlink"), ("description", .str "rules"), ("id", .str "g"),
    ("conditionId", .str "0xc"), ("question", .str "up?"), ("closed", .bool closed)]

/-- Two generations between three arrivals. -/
def sampleEvents : List LabelEvent :=
  [.arrive 1 (sampleSnapshot 10 "a" false),
    .generate (wholeCall 0 (Timestamp.ofSeconds 60) (Timestamp.ofSeconds 400)),
    .arrive 2 (sampleSnapshot 310 "b" true),
    .generate (wholeCall 0 (Timestamp.ofSeconds 60) (Timestamp.ofSeconds 500)),
    .arrive 3 (sampleSnapshot 320 "c" true)]

theorem labels_are_stable_sample :
    ((storeAfter sampleText sampleEvents).labels.map fun row =>
        (row.label.officialOutcome, row.label.sourceSnapshotSha256, row.generatedAt)) =
      [("Up", "b", Timestamp.ofSeconds 500)] ∧ LabelsStable sampleText sampleEvents :=
  ⟨by decide +kernel, labels_are_stable sampleText sampleEvents (by decide +kernel)⟩

end Split

end BpEngine.Labels
