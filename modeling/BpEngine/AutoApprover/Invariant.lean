import BpEngine.AutoApprover.Discipline

/-!
# Rows, reservations and callbacks of the auto-approver

* `ApprovalRow.key` is what no update of a row changes; `StoreOk` says what holds of the keys and the
  callbacks, `CallOk` what the phase of a task says of them.
* `ApproverInv` puts them together: no two tasks hold one reservation, and at most one is starting the
  service.
* There is a lemma for each kind of operation; `keeps_approverInv` is the step, `approverInv_after` the
  run.
-/

namespace BpEngine.AutoApprover

/-! ## The columns that stay -/

/-- The columns of a row that no update writes. -/
structure RowKey where
  id : ℕ
  message : ℤ × ℤ
  nonce : String
  receivedAt : Timestamp
  deadlineAt : Timestamp
  generation : ℕ

def ApprovalRow.key (row : ApprovalRow) : RowKey :=
  ⟨row.id, row.message, row.nonce, row.receivedAt, row.deadlineAt, row.generation⟩

/-- The key of a row that is stored under an id. -/
def keyOf (rowId : ℕ) (row : NewApproval) (generation : ℕ) : RowKey :=
  ⟨rowId, row.message, row.nonce, row.receivedAt, row.deadlineAt, generation⟩

def ApproverWorld.keys (world : ApproverWorld) : List RowKey := world.rows.map ApprovalRow.key

/-- The keys and the callbacks: no message and no nonce has two rows, and every callback is the only
one of its message, with the data of its row. -/
structure StoreOk (world : ApproverWorld) : Prop where
  messages : (world.keys.map RowKey.message).Nodup
  nonces : (world.keys.map RowKey.nonce).Nodup
  ids : (world.keys.map RowKey.id).Nodup
  bounded : ∀ key ∈ world.keys, key.id ≤ world.rows.length
  generations : ∀ key ∈ world.keys, key.generation ≤ world.generation
  answered : ∀ callback ∈ world.callbacks, ∃ key ∈ world.keys,
    key.message = callback.message ∧ callback.data = approveData key.nonce
  once : (world.callbacks.map Callback.message).Nodup
  serving : world.decider.isSome = true → world.alive = true

/-- What a task's phase says of the world: a reservation is a row of this process, which is reserved
until the task moves it and has no callback until the task sends one. -/
structure CallOk (world : ApproverWorld) (phase : ApproverPhase) : Prop where
  booted : phase.booted = true → world.alive = true ∧ world.decider = none
  decider : phase.decider.isSome = true → world.decider = phase.decider
  owner : phase.reservation.isSome = true → phase.decider.isSome = true
  reserved : ∀ rowId row, phase.reservation = some (rowId, row) →
    ∃ stored ∈ world.rows, stored.key = keyOf rowId row world.generation ∧
      (phase.moved = false → stored.status = .reserved) ∧
      (phase.sent = false → ∀ callback ∈ world.callbacks, callback.message ≠ row.message)

/-- A task without a decider that does not start the service knows nothing. -/
theorem CallOk.idle {world : ApproverWorld} {phase : ApproverPhase} (hbooted : phase.booted = false)
    (hdecider : phase.decider = none) (hreservation : phase.reservation = none) :
    CallOk world phase := by
  refine ⟨fun hstarts => ?_, fun hsome => ?_, fun hsome => ?_, fun rowId row hrow => ?_⟩
  · rw [hbooted] at hstarts
    cases hstarts
  · rw [hdecider] at hsome
    cases hsome
  · rw [hreservation] at hsome
    cases hsome
  · rw [hreservation] at hrow
    cases hrow

/-- A task without a decider has no reservation. -/
theorem CallOk.reservation_none {world : ApproverWorld} {phase : ApproverPhase}
    (h : CallOk world phase) (hdecider : phase.decider = none) : phase.reservation = none := by
  by_contra hholds
  have hsome := h.owner (Option.isSome_iff_ne_none.mpr hholds)
  rw [hdecider] at hsome
  cases hsome

/-- While nobody serves, no task has a decider. -/
theorem CallOk.decider_none {world : ApproverWorld} {phase : ApproverPhase} (h : CallOk world phase)
    (hdecider : world.decider = none) : phase.decider = none := by
  by_contra hserves
  exact hserves ((h.decider (Option.isSome_iff_ne_none.mpr hserves)).symm.trans hdecider)

/-- The id of a task's reservation. -/
def reservedId (entry : ApproverTask × ApproverPhase) : Option ℕ := entry.2.reservation.map Prod.fst

/-- The invariant: no two tasks hold one reservation, and at most one is starting the service. -/
structure ApproverInv (world : ApproverWorld) (phases : List (ApproverTask × ApproverPhase)) :
    Prop where
  store : StoreOk world
  calls : ∀ entry ∈ phases, CallOk world entry.2
  distinct : (phases.filterMap reservedId).Nodup
  booting : phases.countP (·.2.booted) ≤ 1

/-! ## Updates of rows -/

section Rows

variable {p : ApprovalRow → Bool} {f : ApprovalRow → ApprovalRow} {rows : List ApprovalRow}

theorem keys_updateRows (hf : ∀ row, (f row).key = row.key) :
    (updateRows p f rows).map ApprovalRow.key = rows.map ApprovalRow.key := by
  unfold updateRows
  rw [List.map_map]
  refine List.map_congr_left fun row _ => ?_
  change (if p row then f row else row).key = row.key
  split_ifs
  · exact hf row
  · rfl

theorem mem_updateRows {row : ApprovalRow} (h : row ∈ rows) :
    (if p row then f row else row) ∈ updateRows p f rows := List.mem_map_of_mem h

/-- The store is as good as before when the rows keep their keys. -/
theorem StoreOk.of_keys {world after : ApproverWorld} (h : StoreOk world)
    (hkeys : after.keys = world.keys) (hgeneration : world.generation ≤ after.generation)
    (hcallbacks : after.callbacks = world.callbacks)
    (hserving : after.decider.isSome = true → after.alive = true) : StoreOk after := by
  have hlength : after.rows.length = world.rows.length := by
    have := congrArg List.length hkeys
    simpa only [ApproverWorld.keys, List.length_map] using this
  exact {
    messages := hkeys ▸ h.messages
    nonces := hkeys ▸ h.nonces
    ids := hkeys ▸ h.ids
    bounded := by
      rw [hkeys, hlength]
      exact h.bounded
    generations := by
      rw [hkeys]
      exact fun key hkey => (h.generations key hkey).trans hgeneration
    answered := by
      rw [hkeys, hcallbacks]
      exact h.answered
    once := hcallbacks ▸ h.once
    serving := hserving }

end Rows

/-! ## Replacing one phase -/

section Replace

variable {world after : ApproverWorld} {task : ApproverTask} {phase phase' : ApproverPhase}
  {before later : List (ApproverTask × ApproverPhase)}

/-- The other tasks hold other reservations. -/
theorem ApproverInv.other_id (h : ApproverInv world (before ++ (task, phase) :: later))
    {entry : ApproverTask × ApproverPhase} (hentry : entry ∈ before ++ later) {rowId : ℕ}
    (hid : reservedId entry = some rowId) : reservedId (task, phase) ≠ some rowId := by
  intro hsame
  have hnodup := (List.perm_middle.filterMap reservedId).nodup_iff.mp h.distinct
  rw [List.filterMap_cons_some hsame, List.nodup_cons] at hnodup
  exact hnodup.1 (List.mem_filterMap.mpr ⟨entry, hentry, hid⟩)

/-- While a task starts the service, no other one does. -/
theorem ApproverInv.other_booted (h : ApproverInv world (before ++ (task, phase) :: later))
    (hbooted : phase.booted = true) {entry : ApproverTask × ApproverPhase}
    (hentry : entry ∈ before ++ later) : entry.2.booted = false := by
  have hcount := h.booting
  rw [List.perm_middle.countP_eq, List.countP_cons_of_pos (by exact hbooted)] at hcount
  have hzero : (before ++ later).countP (·.2.booted) = 0 := by omega
  rw [List.countP_eq_zero] at hzero
  simpa using hzero entry hentry

theorem mem_of_mem_others {entry : ApproverTask × ApproverPhase} (h : entry ∈ before ++ later) :
    entry ∈ before ++ (task, phase) :: later :=
  List.perm_middle.mem_iff.mpr (List.mem_cons_of_mem _ h)

/-- **The step of one task**: the store stays as it should, the other tasks know what they knew, and
the task knows what its new phase says. -/
theorem ApproverInv.replace (h : ApproverInv world (before ++ (task, phase) :: later))
    (hstore : StoreOk after)
    (hothers : ∀ entry ∈ before ++ later, CallOk world entry.2 → CallOk after entry.2)
    (hcall : CallOk world phase → CallOk after phase')
    (hid : ∀ rowId, reservedId (task, phase') = some rowId → reservedId (task, phase) = some rowId ∨
      ∀ entry ∈ before ++ later, reservedId entry ≠ some rowId)
    (hbooted : phase'.booted = true →
      phase.booted = true ∨ ∀ entry ∈ before ++ later, entry.2.booted = false) :
    ApproverInv after (before ++ (task, phase') :: later) := by
  have hdistinct := (List.perm_middle.filterMap reservedId).nodup_iff.mp h.distinct
  have hrest : ((before ++ later).filterMap reservedId).Nodup := by
    cases hold : reservedId (task, phase) with
    | none => rwa [List.filterMap_cons_none hold] at hdistinct
    | some rowId =>
      rw [List.filterMap_cons_some hold] at hdistinct
      exact (List.nodup_cons.mp hdistinct).2
  refine ⟨hstore, fun entry hentry => ?_, ?_, ?_⟩
  · rcases List.mem_cons.mp (List.perm_middle.mem_iff.mp hentry) with rfl | hin
    · exact hcall (h.calls _ (List.mem_append_right _ List.mem_cons_self))
    · exact hothers entry hin (h.calls entry (mem_of_mem_others hin))
  · refine (List.perm_middle.filterMap reservedId).nodup_iff.mpr ?_
    cases hnew : reservedId (task, phase') with
    | none => rwa [List.filterMap_cons_none hnew]
    | some rowId =>
      rw [List.filterMap_cons_some hnew, List.nodup_cons]
      refine ⟨fun hmem => ?_, hrest⟩
      obtain ⟨entry, hentry, hsame⟩ := List.mem_filterMap.mp hmem
      rcases hid rowId hnew with hold | hfresh
      · exact h.other_id hentry hsame hold
      · exact hfresh entry hentry hsame
  · have hcount := h.booting
    rw [List.perm_middle.countP_eq] at hcount ⊢
    by_cases hnow : phase'.booted = true
    · rw [List.countP_cons_of_pos (by exact hnow)]
      have hzero : (before ++ later).countP (·.2.booted) = 0 := by
        rw [List.countP_eq_zero]
        intro entry hentry
        rcases hbooted hnow with hwas | hnone
        · simpa using h.other_booted hwas hentry
        · simpa using hnone entry hentry
      omega
    · rw [List.countP_cons_of_neg (by exact hnow)]
      have hle : (before ++ later).countP (·.2.booted) ≤
          ((task, phase) :: (before ++ later)).countP (·.2.booted) := 
        (List.sublist_cons_self _ _).countP_le
      omega

/-- A step that changes neither what the phase reserves nor whether it starts the service. -/
theorem ApproverInv.keep (h : ApproverInv world (before ++ (task, phase) :: later))
    (hstore : StoreOk after)
    (hothers : ∀ entry ∈ before ++ later, CallOk world entry.2 → CallOk after entry.2)
    (hcall : CallOk world phase → CallOk after phase')
    (hreservation : phase'.reservation = phase.reservation)
    (hbooted : phase'.booted = true → phase.booted = true) :
    ApproverInv after (before ++ (task, phase') :: later) := by
  refine h.replace hstore hothers hcall (fun rowId hid => .inl ?_) fun hnow => .inl (hbooted hnow)
  unfold reservedId at hid ⊢
  rwa [← hreservation]

/-- What a phase knows stays when the process, the callbacks and the row it reserves do. -/
theorem CallOk.frame (h : CallOk world phase) (halive : after.alive = world.alive)
    (hdecider : after.decider = world.decider) (hgeneration : after.generation = world.generation)
    (hcallbacks : after.callbacks = world.callbacks)
    (hrows : ∀ stored ∈ world.rows, phase.reservation.map Prod.fst = some stored.id →
      ∃ stored' ∈ after.rows, stored'.key = stored.key ∧
        (stored.status = .reserved → stored'.status = .reserved)) : CallOk after phase := by
  refine ⟨?_, ?_, h.owner, ?_⟩
  · rw [halive, hdecider]
    exact h.booted
  · rw [hdecider]
    exact h.decider
  · intro rowId row hrow
    obtain ⟨stored, hstored, hkey, hstatus, hsent⟩ := h.reserved rowId row hrow
    have hid : phase.reservation.map Prod.fst = some stored.id := by
      rw [hrow, show stored.id = rowId from congrArg RowKey.id hkey]
      rfl
    obtain ⟨stored', hstored', hkey', hstatus'⟩ := hrows stored hstored hid
    rw [hgeneration, hcallbacks]
    exact ⟨stored', hstored', hkey'.trans hkey, fun hmoved => hstatus' (hstatus hmoved), hsent⟩

end Replace

/-! ## The operations -/

section Serve

variable {world after : ApproverWorld} {task : ApproverTask} {phase : ApproverPhase}
  {before later : List (ApproverTask × ApproverPhase)}

/-- A quiet operation that keeps the rows' keys and statuses. -/
theorem ApproverInv.quiet (h : ApproverInv world (before ++ (task, phase) :: later))
    (halive : after.alive = world.alive) (hdecider : after.decider = world.decider)
    (hgeneration : after.generation = world.generation)
    (hcallbacks : after.callbacks = world.callbacks)
    (hrows : after.rows = world.rows ∨ ∃ p f, after.rows = updateRows p f world.rows ∧
      ∀ row : ApprovalRow, (f row).key = row.key ∧ (f row).status = row.status) :
    ApproverInv after (before ++ (task, phase) :: later) := by
  have hkept : after.keys = world.keys ∧ ∀ stored ∈ world.rows, ∃ stored' ∈ after.rows,
      stored'.key = stored.key ∧ (stored.status = .reserved → stored'.status = .reserved) := by
    rcases hrows with hsame | ⟨p, f, hupdate, hf⟩
    · refine ⟨congrArg (List.map ApprovalRow.key) hsame, fun stored hstored => ⟨stored, hsame ▸ hstored, rfl, id⟩⟩
    · constructor
      · unfold ApproverWorld.keys
        rw [hupdate, keys_updateRows fun row => (hf row).1]
      · intro stored hstored
        refine ⟨_, hupdate ▸ mem_updateRows hstored, ?_⟩
        split_ifs
        · exact ⟨(hf stored).1, fun hstatus => (hf stored).2.trans hstatus⟩
        · exact ⟨rfl, id⟩
  have hstore : StoreOk after := by
    refine h.store.of_keys hkept.1 hgeneration.ge hcallbacks fun hsome => ?_
    rw [halive]
    exact h.store.serving (hdecider ▸ hsome)
  have hframe : ∀ phase, CallOk world phase → CallOk after phase := fun _ hcall =>
    hcall.frame halive hdecider hgeneration hcallbacks fun stored hstored _ => hkept.2 stored hstored
  exact h.keep hstore (fun _ _ => hframe _) (hframe _) rfl id

/-! ### Booting -/

theorem ApproverInv.boot (h : ApproverInv world (before ++ (task, phase) :: later))
    (hallowed : phase.booted = false ∧ phase.decider = none ∧ phase.reservation = none)
    (hdead : world.alive = false) :
    ApproverInv { world with alive := true, generation := world.generation + 1 }
      (before ++ (task, { phase with booted := true }) :: later) := by
  obtain ⟨-, hnone, hfree⟩ := hallowed
  -- No task serves a dead process, and none starts it.
  have hdecider : world.decider = none := by
    cases hsome : world.decider with
    | none => rfl
    | some decider =>
      have halive := h.store.serving (by rw [hsome]; rfl)
      rw [hdead] at halive
      cases halive
  have hstarting : ∀ entry ∈ before ++ later, CallOk world entry.2 → entry.2.booted = false := by
    intro entry hentry hcall
    by_contra hstarts
    have halive := (hcall.booted (by simpa using hstarts)).1
    rw [hdead] at halive
    cases halive
  refine h.replace ?_ (fun entry hentry hcall => ?_) (fun hcall => ?_) (fun rowId hid => ?_)
    fun _ => .inr fun entry hentry => ?_
  · exact h.store.of_keys rfl (Nat.le_succ _) rfl fun _ => rfl
  · have hnobody := hcall.decider_none hdecider
    exact .idle (hstarting entry hentry hcall) hnobody (hcall.reservation_none hnobody)
  · refine ⟨fun _ => ⟨rfl, hdecider⟩, fun hsome => ?_, fun hsome => ?_, fun rowId row hrow => ?_⟩
    · rw [show phase.decider = none from hnone] at hsome
      cases hsome
    · rw [show phase.reservation = none from hfree] at hsome
      cases hsome
    · rw [show phase.reservation = none from hfree] at hrow
      cases hrow
  · unfold reservedId at hid
    rw [show phase.reservation = none from hfree] at hid
    cases hid
  · exact hstarting entry hentry (h.calls entry (mem_of_mem_others hentry))

/-- The service gets ready: until then nobody has a decider. -/
theorem ApproverInv.ready (h : ApproverInv world (before ++ (task, phase) :: later))
    (hbooted : phase.booted = true) (decider : Decider) :
    ApproverInv { world with decider := some decider }
      (before ++ (task, { phase with booted := false }) :: later) := by
  obtain ⟨halive, hnone⟩ :=
    (h.calls _ (List.mem_append_right _ List.mem_cons_self)).booted hbooted
  refine h.keep ?_ (fun entry hentry hcall => ?_) (fun hcall => ?_) rfl fun hnow => by cases hnow
  · exact h.store.of_keys rfl le_rfl rfl fun _ => halive
  · have hnobody := hcall.decider_none hnone
    exact .idle (h.other_booted hbooted hentry) hnobody (hcall.reservation_none hnobody)
  · have hnobody := hcall.decider_none hnone
    exact .idle rfl hnobody (hcall.reservation_none hnobody)

theorem ApproverInv.currentDecider (h : ApproverInv world (before ++ (task, phase) :: later))
    (hallowed : phase.booted = false ∧ phase.decider = none ∧ phase.reservation = none)
    {decider : Decider} (hdecider : world.decider = some decider) :
    ApproverInv world (before ++ (task, { phase with decider := some decider }) :: later) := by
  obtain ⟨hbooted, -, hfree⟩ := hallowed
  refine h.keep h.store (fun _ _ hcall => hcall) (fun hcall => ?_) rfl id
  refine ⟨hcall.booted, fun _ => hdecider, fun hsome => ?_, fun rowId row hrow => ?_⟩
  · rw [show phase.reservation = none from hfree] at hsome
    cases hsome
  · rw [show phase.reservation = none from hfree] at hrow
    cases hrow

/-! ### Updates -/

theorem update_cases {p : ApprovalRow → Bool} {f : ApprovalRow → ApprovalRow}
    {proposal answer : UpdateAnswer} (h : world.update p f proposal = (answer, after)) :
    after = world ∨ after = { world with rows := updateRows p f world.rows } := by
  unfold ApproverWorld.update at h
  split at h
  · exact .inr (Prod.mk.inj h).2.symm
  · split_ifs at h
    · exact .inr (Prod.mk.inj h).2.symm
    · exact .inl (Prod.mk.inj h).2.symm

/-- An update of rows: the tasks whose reservations it passes over know what they knew. -/
theorem ApproverInv.update (h : ApproverInv world (before ++ (task, phase) :: later))
    {p : ApprovalRow → Bool} {f : ApprovalRow → ApprovalRow} {proposal answer : UpdateAnswer}
    (hserve : world.update p f proposal = (answer, after)) (hf : ∀ row, (f row).key = row.key)
    (hothers : ∀ entry ∈ before ++ later, ∀ stored ∈ world.rows,
      reservedId entry = some stored.id → p stored = false) (moved : Bool)
    (hmoved : phase.reservation = none ∨ moved = true) :
    ApproverInv after (before ++ (task, { phase with moved }) :: later) := by
  have hkept : after.alive = world.alive ∧ after.decider = world.decider ∧
      after.generation = world.generation ∧ after.callbacks = world.callbacks ∧
      after.keys = world.keys ∧ ∀ stored ∈ world.rows, ∃ stored' ∈ after.rows,
        stored'.key = stored.key ∧
        (p stored = false → stored.status = .reserved → stored'.status = .reserved) := by
    rcases update_cases hserve with rfl | rfl
    · exact ⟨rfl, rfl, rfl, rfl, rfl, fun stored hstored => ⟨stored, hstored, rfl, fun _ => id⟩⟩
    · refine ⟨rfl, rfl, rfl, rfl, keys_updateRows hf, fun stored hstored => ?_⟩
      refine ⟨_, mem_updateRows hstored, ?_⟩
      split_ifs with hp
      · exact ⟨hf stored, fun hnot => absurd hp (by simp [hnot])⟩
      · exact ⟨rfl, fun _ => id⟩
  obtain ⟨halive, hdecider, hgeneration, hcallbacks, hkeys, hrows⟩ := hkept
  refine h.keep ?_ (fun entry hentry hcall => ?_) (fun hcall => ?_) rfl id
  · refine h.store.of_keys hkeys hgeneration.ge hcallbacks fun hsome => ?_
    rw [halive]
    exact h.store.serving (hdecider ▸ hsome)
  · refine hcall.frame halive hdecider hgeneration hcallbacks fun stored hstored hid => ?_
    obtain ⟨stored', hstored', hkey, hstatus⟩ := hrows stored hstored
    exact ⟨stored', hstored', hkey, hstatus (hothers entry hentry stored hstored hid)⟩
  · refine ⟨?_, ?_, hcall.owner, fun rowId row hrow => ?_⟩
    · rw [halive, hdecider]
      exact hcall.booted
    · rw [hdecider]
      exact hcall.decider
    · obtain ⟨stored, hstored, hkey, -, hsent⟩ := hcall.reserved rowId row hrow
      obtain ⟨stored', hstored', hkey', -⟩ := hrows stored hstored
      rw [hgeneration, hcallbacks]
      refine ⟨stored', hstored', hkey'.trans hkey, fun hnot => ?_, hsent⟩
      rcases hmoved with hnone | hmoved
      · rw [show phase.reservation = none from hnone] at hrow
        cases hrow
      · rw [hmoved] at hnot
        cases hnot

/-! ### Insertions -/

theorem insert_cases {row : NewApproval} {proposal answer : InsertAnswer}
    (h : world.insert row proposal = (answer, after)) :
    (after = world ∧ ∀ rowId, answer ≠ .created rowId) ∨
      (world.rows.any (clashes row) = false ∧
        after = { world with rows := world.rows ++ [world.stored row] } ∧
        ∀ rowId, answer = .created rowId → rowId = world.rows.length + 1) := by
  unfold ApproverWorld.insert at h
  split at h
  · obtain ⟨rfl, rfl⟩ := Prod.mk.inj h
    exact .inl ⟨rfl, fun _ hcreated => by cases hcreated⟩
  · split_ifs at h with hclash
    · obtain ⟨rfl, rfl⟩ := Prod.mk.inj h
      exact .inl ⟨rfl, fun _ hcreated => by cases hcreated⟩
    · obtain ⟨rfl, rfl⟩ := Prod.mk.inj h
      exact .inr ⟨by simpa using hclash, rfl, fun _ hcreated => by cases hcreated⟩
  · split_ifs at h with hclash
    · obtain ⟨rfl, rfl⟩ := Prod.mk.inj h
      exact .inl ⟨rfl, fun _ hcreated => by cases hcreated⟩
    · obtain ⟨rfl, rfl⟩ := Prod.mk.inj h
      refine .inr ⟨by simpa using hclash, rfl, fun _ hcreated => ?_⟩
      exact (InsertAnswer.created.inj hcreated).symm

/-- A row that does not clash has a new message and a new nonce. -/
theorem clashes_eq_false {row : NewApproval} (h : world.rows.any (clashes row) = false) :
    ∀ key ∈ world.keys, key.message ≠ row.message ∧ key.nonce ≠ row.nonce := by
  intro key hkey
  obtain ⟨stored, hstored, rfl⟩ := List.mem_map.mp hkey
  have hnot := List.any_eq_false.mp h stored hstored
  unfold clashes at hnot
  simp only [Bool.or_eq_true, decide_eq_true_eq, not_or] at hnot
  exact ⟨Ne.symm hnot.1, Ne.symm hnot.2⟩

theorem StoreOk.insert (h : StoreOk world) {row : NewApproval}
    (hfresh : world.rows.any (clashes row) = false) :
    StoreOk { world with rows := world.rows ++ [world.stored row] } := by
  have hkeys : ({ world with rows := world.rows ++ [world.stored row] } : ApproverWorld).keys =
      world.keys ++ [keyOf (world.rows.length + 1) row world.generation] := List.map_append
  have hnew := clashes_eq_false hfresh
  have hnodup : ∀ {β : Type} (column : RowKey → β), (world.keys.map column).Nodup →
      (∀ key ∈ world.keys, column key ≠ column (keyOf (world.rows.length + 1) row world.generation)) →
      ((world.keys ++ [keyOf (world.rows.length + 1) row world.generation]).map column).Nodup := by
    intro β column hold hne
    rw [List.map_append, List.map_singleton, List.nodup_append]
    refine ⟨hold, List.nodup_singleton _, ?_⟩
    rintro value hvalue other hother rfl
    obtain ⟨key, hkey, hsame⟩ := List.mem_map.mp hvalue
    exact hne key hkey (hsame.trans (List.mem_singleton.mp hother))
  exact {
    messages := hkeys ▸ hnodup _ h.messages fun key hkey => (hnew key hkey).1
    nonces := hkeys ▸ hnodup _ h.nonces fun key hkey => (hnew key hkey).2
    ids := by
      rw [hkeys]
      refine hnodup _ h.ids fun key hkey hsame => ?_
      have hle := h.bounded key hkey
      rw [show key.id = world.rows.length + 1 from hsame] at hle
      omega
    bounded := by
      rw [hkeys]
      intro key hkey
      rw [List.length_append, List.length_singleton]
      rcases List.mem_append.mp hkey with hin | hin
      · have hle := h.bounded key hin
        omega
      · rw [List.mem_singleton.mp hin]
        exact le_rfl
    generations := by
      rw [hkeys]
      intro key hkey
      rcases List.mem_append.mp hkey with hin | hin
      · exact h.generations key hin
      · rw [List.mem_singleton.mp hin]
        exact le_rfl
    answered := by
      rw [hkeys]
      intro callback hcallback
      obtain ⟨key, hkey, hanswer⟩ := h.answered callback hcallback
      exact ⟨key, List.mem_append_left _ hkey, hanswer⟩
    once := h.once
    serving := h.serving }

/-- A row is stored, and if it is a reservation its task holds it. -/
theorem ApproverInv.insert (h : ApproverInv world (before ++ (task, phase) :: later))
    {row : NewApproval}
    (hallowed : row.status = .reserved → phase.decider.isSome = true ∧ phase.reservation = none)
    {proposal answer : InsertAnswer} (hserve : world.insert row proposal = (answer, after)) :
    ApproverInv after (before ++ (task, approverNext phase (.insert row) answer) :: later) := by
  rcases insert_cases hserve with ⟨rfl, hnot⟩ | ⟨hfresh, rfl, hid⟩
  · have hsame : approverNext phase (.insert row) answer = phase := by
      cases answer with
      | created rowId => exact absurd rfl (hnot rowId)
      | duplicate => rfl
      | failed done raised => rfl
    rwa [hsame]
  · have hstore := h.store.insert hfresh
    have hframe : ∀ phase, CallOk world phase →
        CallOk { world with rows := world.rows ++ [world.stored row] } phase := fun _ hcall =>
      hcall.frame rfl rfl rfl rfl fun stored hstored _ =>
        ⟨stored, List.mem_append_left _ hstored, rfl, id⟩
    by_cases hholds : (∃ rowId, answer = .created rowId) ∧ row.status = .reserved
    · obtain ⟨⟨rowId, rfl⟩, hstatus⟩ := hholds
      obtain rfl := hid rowId rfl
      obtain ⟨howner, hfree⟩ := hallowed hstatus
      rw [show approverNext phase (.insert row) (.created (world.rows.length + 1)) =
        { phase with reservation := some (world.rows.length + 1, row) } by
          simp only [approverNext, if_pos hstatus]]
      refine h.replace hstore (fun entry _ => hframe entry.2) (fun hcall => ?_)
        (fun rowId hrowId => .inr fun entry hentry hother => ?_) fun hbooted => .inl hbooted
      · refine ⟨hcall.booted, hcall.decider, fun _ => howner, fun rowId held hheld => ?_⟩
        obtain ⟨rfl, rfl⟩ := Prod.mk.inj (Option.some.inj hheld)
        refine ⟨world.stored row, List.mem_append_right _ (List.mem_singleton.mpr rfl), rfl,
          fun _ => hstatus, fun _ callback hcallback hsame => ?_⟩
        obtain ⟨key, hkey, hmessage, -⟩ := h.store.answered callback hcallback
        exact (clashes_eq_false hfresh key hkey).1 (hmessage.trans hsame)
      · -- The ids of the other reservations are those of older rows.
        obtain rfl := Option.some.inj hrowId
        obtain ⟨⟨otherId, otherRow⟩, hheld, hsame⟩ := Option.map_eq_some_iff.mp hother
        obtain ⟨stored, hstored, hkey, -⟩ :=
          (h.calls entry (mem_of_mem_others hentry)).reserved otherId otherRow hheld
        have hle := h.store.bounded stored.key (List.mem_map_of_mem hstored)
        rw [hkey] at hle
        change otherId ≤ world.rows.length at hle
        change otherId = world.rows.length + 1 at hsame
        omega
    · have hsame : approverNext phase (.insert row) answer = phase := by
        cases answer with
        | created rowId =>
          simp only [approverNext, if_neg fun hstatus => hholds ⟨⟨rowId, rfl⟩, hstatus⟩]
        | duplicate => rfl
        | failed done raised => rfl
      rw [hsame]
      exact h.keep hstore (fun entry _ => hframe entry.2) (hframe phase) rfl id

/-! ### Callbacks -/

/-- The callback of an approvable message answers the message of its row. -/
theorem Approvable.callback_message {decider : Decider} {message : IncomingMessage}
    {row : NewApproval} (h : Approvable decider message row) (data : List UInt8) :
    Callback.message ⟨decider.botUserId, row.telegramMessageId, data⟩ = row.message := by
  have hchat : row.telegramChatId = message.chatId := (Prod.mk.inj h.identity).1
  change (decider.botUserId, row.telegramMessageId) = (row.telegramChatId, row.telegramMessageId)
  rw [hchat, h.sender.2.1]

/-- The only callback of a reservation. -/
theorem ApproverInv.send (h : ApproverInv world (before ++ (task, phase) :: later))
    {callback : Callback} (hallowed : approverAllowed phase (.sendCallback callback)) :
    ApproverInv { world with callbacks := world.callbacks ++ [callback] }
      (before ++ (task, { phase with sent := true }) :: later) := by
  obtain ⟨decider, message, rowId, row, -, -, hrow, hunsent, -, happrovable, rfl⟩ := hallowed
  have hmessage := happrovable.callback_message (approveData row.nonce)
  have hcall := h.calls _ (List.mem_append_right _ List.mem_cons_self)
  obtain ⟨stored, hstored, hkey, -, hnone⟩ := hcall.reserved rowId row hrow
  have hmem : keyOf rowId row world.generation ∈ world.keys := hkey ▸ List.mem_map_of_mem hstored
  refine h.keep ?_ (fun entry hentry hother => ?_) (fun hcall => ?_) rfl id
  · refine { h.store with answered := ?_, once := ?_ }
    · intro callback hcallback
      rcases List.mem_append.mp hcallback with hin | hin
      · exact h.store.answered callback hin
      · rw [List.mem_singleton.mp hin]
        exact ⟨_, hmem, hmessage.symm, rfl⟩
    · rw [List.map_append, List.map_singleton, List.nodup_append]
      refine ⟨h.store.once, List.nodup_singleton _, ?_⟩
      rintro old hold new hnew rfl
      obtain ⟨earlier, hearlier, hsame⟩ := List.mem_map.mp hold
      exact hnone hunsent earlier hearlier
        (hsame.trans ((List.mem_singleton.mp hnew).trans hmessage))
  · refine ⟨hother.booted, hother.decider, hother.owner, fun otherId otherRow hheld => ?_⟩
    obtain ⟨stored', hstored', hkey', hstatus', hnone'⟩ := hother.reserved otherId otherRow hheld
    refine ⟨stored', hstored', hkey', hstatus', fun hnot earlier hearlier hsame => ?_⟩
    rcases List.mem_append.mp hearlier with hin | hin
    · exact hnone' hnot earlier hin hsame
    · -- The messages of two rows differ, and so do the rows of two tasks.
      rw [List.mem_singleton.mp hin, hmessage] at hsame
      have hmem' : keyOf otherId otherRow world.generation ∈ world.keys :=
        hkey' ▸ List.mem_map_of_mem hstored'
      have heq := List.inj_on_of_nodup_map h.store.messages hmem hmem' hsame
      have hid : rowId = otherId := congrArg RowKey.id heq
      refine h.other_id hentry (show reservedId entry = some otherId from ?_) ?_
      · unfold reservedId
        rw [hheld]
        rfl
      · unfold reservedId
        rw [show phase.reservation = _ from hrow, hid]
        rfl
  · refine ⟨hcall.booted, hcall.decider, hcall.owner, fun heldId held hheld => ?_⟩
    obtain ⟨stored', hstored', hkey', hstatus', -⟩ := hcall.reserved heldId held hheld
    exact ⟨stored', hstored', hkey', hstatus', fun hnot => by cases hnot⟩

end Serve

/-! ## The invariant over a run -/

theorem ApproverInv.sublist {world : ApproverWorld}
    {phases fewer : List (ApproverTask × ApproverPhase)} (h : ApproverInv world phases)
    (hfewer : fewer.Sublist phases) : ApproverInv world fewer where
  store := h.store
  calls entry hentry := h.calls entry (hfewer.subset hentry)
  distinct := h.distinct.sublist (hfewer.filterMap reservedId)
  booting := hfewer.countP_le.trans h.booting

theorem serve_boot (world : ApproverWorld) (proposal : ApproverOp.boot.Ans) :
    world.serve .boot proposal = if world.alive then none
      else some ((), { world with alive := true, generation := world.generation + 1 }) := rfl

theorem serve_lock (world : ApproverWorld) (proposal : ApproverOp.lock.Ans) :
    world.serve .lock proposal =
      if world.locked then none else some ((), { world with locked := true }) := rfl

theorem recordEdit_cases {world after : ApproverWorld} {message : ℤ × ℤ} {intentId : String}
    {listenerDecisionAt observedAt : Timestamp} {proposal answer : EditAnswer}
    (h : world.recordEdit message intentId listenerDecisionAt observedAt proposal =
      (answer, after)) : after = world ∨ after = { world with
        rows := updateRows (fun row => row.message = message)
          (·.edited intentId listenerDecisionAt observedAt) world.rows } := by
  have hafter : after = (world.recordEdit message intentId listenerDecisionAt observedAt
      proposal).2 := by rw [h]
  rw [hafter]
  unfold ApproverWorld.recordEdit
  dsimp only
  split
  · split <;> exact .inl rfl
  · split_ifs
    · split <;> exact .inl rfl
    · split
      · split_ifs
        · exact .inr rfl
        · exact .inl rfl
      · exact .inr rfl

/-- **The step**: every operation of a task keeps the invariant. -/
theorem ApproverInv.serve {world after : ApproverWorld} {task : ApproverTask} {phase : ApproverPhase}
    {before later : List (ApproverTask × ApproverPhase)} {op : ApproverOp} {proposal answer : op.Ans}
    (h : ApproverInv world (before ++ (task, phase) :: later)) (hallowed : approverAllowed phase op)
    (hserve : world.serve op proposal = some (answer, after)) :
    ApproverInv after (before ++ (task, approverNext phase op answer) :: later) := by
  cases op with
  | boot =>
    rw [serve_boot] at hserve
    split_ifs at hserve with halive
    obtain ⟨-, rfl⟩ := Prod.mk.inj (Option.some.inj hserve)
    exact h.boot hallowed (by simpa using halive)
  | sweepUnconfirmed updatedAt =>
    have hnone := ((h.calls _ (List.mem_append_right _ List.mem_cons_self)).booted hallowed).2
    have hfree : ∀ entry ∈ before ++ (task, phase) :: later, entry.2.reservation = none :=
      fun entry hentry =>
        (h.calls entry hentry).reservation_none ((h.calls entry hentry).decider_none hnone)
    have hupdate : world.update _ _ proposal = (answer, after) := Option.some.inj hserve
    refine h.update hupdate (fun _ => rfl) (fun entry hentry stored _ hid => ?_)
      phase.moved (.inl (hfree _ (List.mem_append_right _ List.mem_cons_self)))
    unfold reservedId at hid
    rw [hfree entry (mem_of_mem_others hentry)] at hid
    cases hid
  | ready decider =>
    obtain ⟨-, rfl⟩ := Prod.mk.inj (Option.some.inj hserve)
    exact h.ready hallowed decider
  | currentDecider =>
    obtain ⟨decider, hdecider, hsame⟩ := Option.map_eq_some_iff.mp hserve
    obtain ⟨rfl, rfl⟩ := Prod.mk.inj hsame
    exact h.currentDecider hallowed hdecider
  | insert row => exact h.insert hallowed (Option.some.inj hserve)
  | transitionReserved rowId status updatedAt approvalAt result failureReason =>
    obtain ⟨-, row, hrow⟩ := hallowed
    have hupdate : world.update _ _ proposal = (answer, after) := Option.some.inj hserve
    refine h.update hupdate (fun _ => rfl) (fun entry hentry stored _ hid => ?_)
      true (.inr rfl)
    have hne := h.other_id hentry hid
    unfold reservedId at hne
    rw [show phase.reservation = _ from hrow] at hne
    unfold isReservation
    rw [Bool.and_eq_false_iff, decide_eq_false_iff_not]
    exact .inl fun hsame => hne (by rw [hsame]; rfl)
  | recordListenerEdit chatId messageId intentId listenerDecisionAt observedAt =>
    rcases recordEdit_cases (Option.some.inj hserve) with rfl | rfl
    · exact h
    · exact h.quiet rfl rfl rfl rfl (.inr ⟨_, _, rfl, fun _ => ⟨rfl, rfl⟩⟩)
  | sendCallback callback =>
    obtain ⟨-, rfl⟩ := Prod.mk.inj (Option.some.inj hserve)
    exact h.send hallowed
  | lock =>
    rw [serve_lock] at hserve
    split_ifs at hserve
    obtain ⟨-, rfl⟩ := Prod.mk.inj (Option.some.inj hserve)
    exact h.quiet rfl rfl rfl rfl (.inl rfl)
  | unlock | setLastReconciled =>
    obtain ⟨-, rfl⟩ := Prod.mk.inj (Option.some.inj hserve)
    exact h.quiet rfl rfl rfl rfl (.inl rfl)
  | resolveIdentity | approvalSource | now | lastReconciled =>
    obtain ⟨-, rfl⟩ := Prod.mk.inj (Option.some.inj hserve)
    exact h

/-- **Every kind of event keeps the invariant.** -/
theorem keeps_approverInv :
    Pool.Keeps approverHost Pool.Guard.all approverProtocol ApproverPhase.fresh
      (fun _ => Protocol.Ends fun _ _ => True) ApproverInv where
  obeys task _ := obeys_task task
  start world phases task _ h := by
    refine ⟨h.store, fun entry hentry => ?_, ?_, ?_⟩
    · rcases List.mem_append.mp hentry with hin | hin
      · exact h.calls entry hin
      · rw [List.mem_singleton.mp hin]
        exact .idle rfl rfl rfl
    · rw [List.filterMap_append, List.filterMap_cons_none rfl, List.filterMap_nil, List.append_nil]
      exact h.distinct
    · rw [List.countP_append, List.countP_singleton]
      exact h.booting
  serve world before task phase later op proposal answer after h hallowed hserve _ :=
    ⟨trivial, h.serve hallowed hserve⟩
  finish world before entry later h :=
    h.sublist ((List.Sublist.refl before).append (List.sublist_cons_self entry later))
  stop world phases h := {
    store := h.store.of_keys rfl le_rfl rfl fun hsome => by cases hsome
    calls := fun _ hentry => absurd hentry List.not_mem_nil
    distinct := List.nodup_nil
    booting := Nat.zero_le _ }
  outside _ _ change := nomatch change

/-- The invariant of the service. -/
abbrev ApproverPoolInv
    (pool : Pool ApproverWorld ApproverTask ApproverOp ApproverOp.Ans Raised Unit) : Prop :=
  pool.Inv Pool.Guard.all approverProtocol ApproverPhase.fresh
    (fun _ => Protocol.Ends fun _ _ => True) ApproverInv

theorem approverInv_after (events : List ApproverEvent) : ApproverPoolInv (approverAfter events) := by
  refine Pool.inv_run keeps_approverInv ?_
    (Pool.Guard.along_passes _ _ (fun _ _ => trivial) fun _ _ _ _ _ _ => trivial)
  refine ⟨fun call hcall => absurd hcall List.not_mem_nil,
    fun call hcall => absurd hcall List.not_mem_nil, ?_, fun _ hentry => absurd hentry
      List.not_mem_nil, List.nodup_nil, Nat.zero_le _⟩
  refine ⟨List.nodup_nil, List.nodup_nil, List.nodup_nil, ?_, ?_, ?_, List.nodup_nil,
    fun h => by cases h⟩
  · exact fun key hkey => absurd hkey List.not_mem_nil
  · exact fun key hkey => absurd hkey List.not_mem_nil
  · exact fun callback hcallback => absurd hcallback List.not_mem_nil

end BpEngine.AutoApprover
