import BpEngine.AutoApprover.Invariant

/-!
# The auto-approver clicks at most once

* `serve_moves` says what an operation does to the rows and to the process, and `exec_moves` what an
  event does.
* `SentOnce`, `SendsApproved` and `RestartForgets` are what is claimed of a run.
* `approver_run` has it for every interleaving of launches, messages, edits and crashes.
-/

namespace BpEngine.AutoApprover

/-! ## What one event does -/

/-- A row keeps its key, and its status moves from `reserved` alone: to `failed_or_unknown`, or to
`clicked` if `mine` holds of the row. -/
def Moves (mine : ApprovalRow → Prop) (row row' : ApprovalRow) : Prop :=
  row'.key = row.key ∧ (row'.status = row.status ∨ row.status = .reserved ∧
    (row'.status = .failedOrUnknown ∨ row'.status = .clicked ∧ mine row))

/-- The rows stay and move as they may. -/
def RowsMove (mine : ApprovalRow → Prop) (world after : ApproverWorld) : Prop :=
  ∀ row ∈ world.rows, ∃ row' ∈ after.rows, Moves mine row row'

/-- A process that came up is a later one. -/
def Later (world after : ApproverWorld) : Prop :=
  world.generation ≤ after.generation ∧
    (after.alive = true → world.alive = true ∨ world.generation < after.generation)

section Event

variable {mine mine' : ApprovalRow → Prop} {world after : ApproverWorld}

theorem later_of_eq (hgeneration : after.generation = world.generation)
    (halive : after.alive = world.alive) : Later world after :=
  ⟨hgeneration.ge, fun hup => .inl (halive ▸ hup)⟩

theorem rowsMove_of_mem (h : ∀ row ∈ world.rows, row ∈ after.rows) : RowsMove mine world after :=
  fun row hrow => ⟨row, h row hrow, rfl, .inl rfl⟩

theorem rowsMove_updateRows {p : ApprovalRow → Bool} {f : ApprovalRow → ApprovalRow}
    (hrows : after.rows = updateRows p f world.rows) (h : ∀ row, p row = true → Moves mine row (f row)) :
    RowsMove mine world after := by
  intro row hrow
  refine ⟨_, hrows ▸ mem_updateRows hrow, ?_⟩
  split_ifs with hp
  · exact h row hp
  · exact ⟨rfl, .inl rfl⟩

theorem RowsMove.mono (h : RowsMove mine world after)
    (hmine : ∀ row ∈ world.rows, mine row → mine' row) : RowsMove mine' world after := by
  intro row hrow
  obtain ⟨row', hrow', hkey, hstatus⟩ := h row hrow
  refine ⟨row', hrow', hkey, hstatus.imp_right fun hmoved => ⟨hmoved.1, ?_⟩⟩
  exact hmoved.2.imp_right fun hclicked => ⟨hclicked.1, hmine row hrow hclicked.2⟩

/-- **What an operation does to the rows and to the process.** -/
theorem serve_moves {phase : ApproverPhase} {op : ApproverOp} {proposal answer : op.Ans}
    (hallowed : approverAllowed phase op)
    (hserve : world.serve op proposal = some (answer, after)) :
    RowsMove (fun row => ∃ held, phase.reservation = some (row.id, held)) world after ∧
      Later world after := by
  cases op with
  | boot =>
    rw [serve_boot] at hserve
    split_ifs at hserve
    obtain ⟨-, rfl⟩ := Prod.mk.inj (Option.some.inj hserve)
    exact ⟨rowsMove_of_mem fun _ => id, Nat.le_succ _, fun _ => .inr (Nat.lt_succ_self _)⟩
  | lock =>
    rw [serve_lock] at hserve
    split_ifs at hserve
    obtain ⟨-, rfl⟩ := Prod.mk.inj (Option.some.inj hserve)
    exact ⟨rowsMove_of_mem fun _ => id, later_of_eq rfl rfl⟩
  | currentDecider =>
    obtain ⟨decider, -, hsame⟩ := Option.map_eq_some_iff.mp hserve
    obtain ⟨rfl, rfl⟩ := Prod.mk.inj hsame
    exact ⟨rowsMove_of_mem fun _ => id, later_of_eq rfl rfl⟩
  | sweepUnconfirmed updatedAt =>
    have hupdate : world.update _ _ proposal = (answer, after) := Option.some.inj hserve
    rcases update_cases hupdate with rfl | rfl
    · exact ⟨rowsMove_of_mem fun _ => id, later_of_eq rfl rfl⟩
    · refine ⟨rowsMove_updateRows rfl fun row hp => ?_, later_of_eq rfl rfl⟩
      exact ⟨rfl, .inr ⟨of_decide_eq_true hp, .inl rfl⟩⟩
  | transitionReserved rowId status updatedAt approvalAt result failureReason =>
    obtain ⟨hstatus, held, hheld⟩ := hallowed
    have hupdate : world.update _ _ proposal = (answer, after) := Option.some.inj hserve
    rcases update_cases hupdate with rfl | rfl
    · exact ⟨rowsMove_of_mem fun _ => id, later_of_eq rfl rfl⟩
    · refine ⟨rowsMove_updateRows rfl fun row hp => ?_, later_of_eq rfl rfl⟩
      unfold isReservation at hp
      rw [Bool.and_eq_true, decide_eq_true_eq, decide_eq_true_eq] at hp
      refine ⟨rfl, .inr ⟨hp.2, ?_⟩⟩
      rcases hstatus with hclicked | hfailed
      · exact .inr ⟨hclicked, held, by rw [hp.1]; exact hheld⟩
      · exact .inl hfailed
  | recordListenerEdit chatId messageId intentId listenerDecisionAt observedAt =>
    rcases recordEdit_cases (Option.some.inj hserve) with rfl | rfl
    · exact ⟨rowsMove_of_mem fun _ => id, later_of_eq rfl rfl⟩
    · exact ⟨rowsMove_updateRows rfl fun _ _ => ⟨rfl, .inl rfl⟩, later_of_eq rfl rfl⟩
  | insert row =>
    rcases insert_cases (Option.some.inj hserve) with ⟨rfl, -⟩ | ⟨-, rfl, -⟩
    · exact ⟨rowsMove_of_mem fun _ => id, later_of_eq rfl rfl⟩
    · exact ⟨rowsMove_of_mem fun _ => List.mem_append_left _, later_of_eq rfl rfl⟩
  | sendCallback | unlock | setLastReconciled | ready | resolveIdentity | approvalSource | now
  | lastReconciled =>
    obtain ⟨-, rfl⟩ := Prod.mk.inj (Option.some.inj hserve)
    exact ⟨rowsMove_of_mem fun _ => id, later_of_eq rfl rfl⟩

end Event

/-! ## Every run -/

section Run

variable {pool : Pool ApproverWorld ApproverTask ApproverOp ApproverOp.Ans Raised Unit}

/-- The row of this process. -/
def ofProcess (world : ApproverWorld) (row : ApprovalRow) : Prop :=
  row.generation = world.generation ∧ world.alive = true

/-- Rows of one id are one row. -/
theorem StoreOk.row_eq {world : ApproverWorld} (h : StoreOk world) {row other : ApprovalRow}
    (hrow : row ∈ world.rows) (hother : other ∈ world.rows) (hid : row.id = other.id) :
    row = other := by
  have hids : (world.rows.map fun row => row.key.id).Nodup := by
    have hnodup := h.ids
    unfold ApproverWorld.keys at hnodup
    rwa [List.map_map] at hnodup
  exact List.inj_on_of_nodup_map hids hrow hother hid

/-- What a task that holds a reservation knows of its row. -/
theorem ApproverInv.holds {world : ApproverWorld} {phases : List (ApproverTask × ApproverPhase)}
    (h : ApproverInv world phases) {entry : ApproverTask × ApproverPhase} (hentry : entry ∈ phases)
    {rowId : ℕ} {held : NewApproval} (hheld : entry.2.reservation = some (rowId, held)) :
    ∃ decider, entry.2.decider = some decider ∧ world.decider = some decider ∧
      world.alive = true := by
  have hcall := h.calls entry hentry
  have hsome := hcall.owner (by rw [hheld]; rfl)
  obtain ⟨decider, hdecider⟩ := Option.isSome_iff_exists.mp hsome
  have hworld := (hcall.decider hsome).trans hdecider
  exact ⟨decider, hdecider, hworld, h.store.serving (by rw [hworld]; rfl)⟩

theorem inv_approver_exec (h : ApproverPoolInv pool) (event : ApproverEvent) :
    ApproverPoolInv (pool.exec approverHost event) :=
  Pool.inv_exec keeps_approverInv h ⟨fun _ _ => trivial, fun _ _ _ _ => trivial⟩

/-- **One event**: statuses move as they may, and only rows of the running process get clicked. -/
theorem exec_moves (h : ApproverPoolInv pool) (event : ApproverEvent) :
    RowsMove (ofProcess pool.world) pool.world (pool.exec approverHost event).world ∧
      Later pool.world (pool.exec approverHost event).world := by
  rcases pool.exec_world_cases approverHost event with
    hsame | ⟨-, hstopped⟩ | ⟨change, -⟩ | ⟨call, op, proposal, answer, hperforms, hserve⟩
  · rw [hsame]
    exact ⟨rowsMove_of_mem fun _ => id, later_of_eq rfl rfl⟩
  · rw [hstopped]
    exact ⟨rowsMove_of_mem fun _ => id, le_rfl, fun hup => by cases hup⟩
  · exact nomatch change
  · obtain ⟨hmem, hallowed⟩ := h.allowed_of_performs hperforms
    obtain ⟨hmoves, hlater⟩ := serve_moves hallowed hserve
    refine ⟨hmoves.mono ?_, hlater⟩
    rintro row hrow ⟨held, hheld⟩
    obtain ⟨stored, hstored, hkey, -⟩ := (h.world.calls _ hmem).reserved row.id held hheld
    have hid : stored.id = row.id := congrArg RowKey.id hkey
    obtain rfl := h.world.store.row_eq hstored hrow hid
    obtain ⟨decider, -, -, halive⟩ := h.world.holds hmem hheld
    exact ⟨congrArg RowKey.generation hkey, halive⟩

/-- A phase is that of its task. -/
theorem phaseOf_task (call : Call ApproverTask ApproverOp ApproverOp.Ans Raised Unit) :
    (Pool.phaseOf approverProtocol ApproverPhase.fresh call).task = call.task := by
  have hnext : ∀ (phase : ApproverPhase) (op : ApproverOp) (answer : op.Ans),
      (approverNext phase op answer).task = phase.task := by
    intro phase op answer
    unfold approverNext
    split
    case h_4 => split_ifs <;> rfl
    all_goals rfl
  unfold Pool.phaseOf
  induction call.trace with
  | nil => rfl
  | cons entry trace ih =>
    rw [Protocol.after_cons]
    exact (hnext _ _ _).trans ih

/-! ### What is claimed of a run -/

/-- No message and no nonce has two callbacks; the data of a callback are those of a nonce. -/
def SentOnce (world : ApproverWorld) : Prop :=
  (world.callbacks.map Callback.message).Nodup ∧ (world.callbacks.map Callback.data).Nodup

/-- A callback that is sent next is `approve:<nonce>` of an approvable message, whose row was reserved
by the running process and still is. -/
def SendsApproved (pool : Pool ApproverWorld ApproverTask ApproverOp ApproverOp.Ans Raised Unit)
    (event : ApproverEvent) : Prop :=
  ∀ call callback answer,
    pool.performs approverHost event = some (call, ⟨.sendCallback callback, answer⟩) →
    ∃ decider message, ∃ row ∈ pool.world.rows, pool.world.decider = some decider ∧
      call.task.incoming decider = some message ∧ row.status = .reserved ∧
      ofProcess pool.world row ∧ Approvable decider message row.toNewApproval ∧
      callback = ⟨decider.botUserId, row.telegramMessageId, approveData row.nonce⟩

/-- The rows from before a restart are not clicked after it, and no callback is sent for them. -/
def RestartForgets (before later : List ApproverEvent) : Prop :=
  let old := (approverAfter before).world
  let pool := approverAfter (before ++ .stop :: later)
  ∀ row ∈ old.rows,
    (∀ row' ∈ pool.world.rows, row'.id = row.id → row'.status = .clicked → row.status = .clicked) ∧
    ∀ event call callback answer,
      pool.performs approverHost event = some (call, ⟨.sendCallback callback, answer⟩) →
      callback.message ≠ row.message ∧ callback.data ≠ approveData row.nonce

theorem StoreOk.sentOnce {world : ApproverWorld} (h : StoreOk world) : SentOnce world := by
  refine ⟨h.once, ?_⟩
  have honce := List.pairwise_map.mp h.once
  refine List.pairwise_map.mpr (honce.imp_of_mem fun {a b} ha hb hne hsame => hne ?_)
  obtain ⟨keyA, hkeyA, hmessageA, hdataA⟩ := h.answered a ha
  obtain ⟨keyB, hkeyB, hmessageB, hdataB⟩ := h.answered b hb
  have hnonce : keyA.nonce = keyB.nonce :=
    approveData_injective (hdataA.symm.trans (hsame.trans hdataB))
  have hkey := List.inj_on_of_nodup_map h.nonces hkeyA hkeyB hnonce
  rw [← hmessageA, ← hmessageB, hkey]

theorem sendsApproved (h : ApproverPoolInv pool) (event : ApproverEvent) :
    SendsApproved pool event := by
  intro call callback answer hperforms
  obtain ⟨hmem, hallowed⟩ := h.allowed_of_performs hperforms
  obtain ⟨decider, message, rowId, row, hdecider, hincoming, hrow, -, hunmoved, happrovable, rfl⟩ :=
    hallowed
  obtain ⟨stored, hstored, hkey, hstatus, -⟩ := (h.world.calls _ hmem).reserved rowId row hrow
  obtain ⟨other, hother, hworld, halive⟩ := h.world.holds hmem hrow
  obtain rfl := Option.some.inj (hdecider.symm.trans hother)
  rw [phaseOf_task] at hincoming
  have hmessage : stored.message = row.message := congrArg RowKey.message hkey
  have hnonce : stored.nonce = row.nonce := congrArg RowKey.nonce hkey
  have hreceived : stored.receivedAt = row.receivedAt := congrArg RowKey.receivedAt hkey
  have hdeadline : stored.deadlineAt = row.deadlineAt := congrArg RowKey.deadlineAt hkey
  refine ⟨decider, message, stored, hstored, hworld, hincoming, hstatus hunmoved,
    ⟨congrArg RowKey.generation hkey, halive⟩, ?_, ?_⟩
  · refine { happrovable with identity := ?_, keyboard := ?_, prompt := ?_, inTime := ?_ }
    · exact hmessage.trans happrovable.identity
    · rw [hnonce]
      exact happrovable.keyboard
    · rw [hdeadline]
      exact happrovable.prompt
    · rw [hreceived, hdeadline]
      exact happrovable.inTime
  · rw [hnonce, (Prod.mk.inj hmessage).2]

/-- A row of an earlier process stays as it was with regard to clicks. -/
theorem run_old_row (h : ApproverPoolInv pool) {row : ApprovalRow} (hrow : row ∈ pool.world.rows)
    {generation : ℕ} (hold : row.generation ≤ generation) (hlater : generation ≤ pool.world.generation)
    (hup : pool.world.alive = true → generation < pool.world.generation)
    (events : List ApproverEvent) :
    let after := (Machine.run (Pool.exec approverHost) pool events).world
    (∃ row' ∈ after.rows, row'.key = row.key ∧ (row'.status = .clicked → row.status = .clicked)) ∧
      generation ≤ after.generation ∧ (after.alive = true → generation < after.generation) := by
  induction events generalizing pool row with
  | nil => exact ⟨⟨row, hrow, rfl, id⟩, hlater, hup⟩
  | cons event events ih =>
    obtain ⟨hmoves, hgeneration, halive⟩ := exec_moves h event
    obtain ⟨row', hrow', hkey, hstatus⟩ := hmoves row hrow
    have hkept : row'.status = .clicked → row.status = .clicked := by
      intro hclicked
      rcases hstatus with hsame | ⟨-, hfailed | ⟨-, hmine, hrunning⟩⟩
      · exact hsame.symm.trans hclicked
      · cases hfailed.symm.trans hclicked
      · have hlt := hup hrunning
        omega
    have hold' : row'.generation ≤ generation := by
      rw [show row'.generation = row.generation from congrArg RowKey.generation hkey]
      exact hold
    obtain ⟨⟨last, hlast, hlastKey, hlastStatus⟩, hrest⟩ :=
      ih (inv_approver_exec h event) hrow' hold' (hlater.trans hgeneration) fun hnow => by
        rcases halive hnow with hwas | hlt
        · exact (hup hwas).trans_le hgeneration
        · omega
    exact ⟨⟨last, hlast, hlastKey.trans hkey, fun hclicked => hkept (hlastStatus hclicked)⟩, hrest⟩

theorem restartForgets (before later : List ApproverEvent) : RestartForgets before later := by
  intro row hrow
  have hinv := approverInv_after before
  have hafter := approverInv_after (before ++ .stop :: later)
  have hgeneration : row.generation ≤ (approverAfter before).world.generation :=
    hinv.world.store.generations row.key (List.mem_map_of_mem hrow)
  have hpool : approverAfter (before ++ .stop :: later) = Machine.run (Pool.exec approverHost)
      ((approverAfter before).exec approverHost .stop) later := Machine.run_append ..
  have hstopped := inv_approver_exec hinv .stop
  obtain ⟨⟨row', hrow', hkey, hstatus⟩, -, hup⟩ :=
    run_old_row hstopped hrow hgeneration le_rfl (fun hnow => by cases hnow) later
  rw [← hpool] at hrow' hup
  constructor
  · intro other hother hid hclicked
    have hid' : other.id = row'.id := hid.trans (congrArg RowKey.id hkey).symm
    obtain rfl := hafter.world.store.row_eq hother hrow' hid'
    exact hstatus hclicked
  · intro event call callback answer hperforms
    obtain ⟨decider, message, sent, hsent, -, -, -, ⟨hnow, halive⟩, happrovable, rfl⟩ :=
      sendsApproved hafter event call callback answer hperforms
    -- The row of the callback is of the running process, which came up after the restart.
    have hne : sent.key ≠ row'.key := by
      intro hsame
      have hsame' : sent.generation = row.generation :=
        congrArg RowKey.generation (hsame.trans hkey)
      have hlt := hup halive
      omega
    have hmem := List.mem_map_of_mem (f := ApprovalRow.key) hsent
    have hmem' := List.mem_map_of_mem (f := ApprovalRow.key) hrow'
    constructor
    · intro hmessage
      rw [happrovable.callback_message] at hmessage
      have hrows : sent.key.message = row'.key.message :=
        hmessage.trans (congrArg RowKey.message hkey).symm
      exact hne (List.inj_on_of_nodup_map hafter.world.store.messages hmem hmem' hrows)
    · intro hdata
      have hrows : sent.key.nonce = row'.key.nonce :=
        (approveData_injective hdata).trans (congrArg RowKey.nonce hkey).symm
      exact hne (List.inj_on_of_nodup_map hafter.world.store.nonces hmem hmem' hrows)

/-- **The auto-approver clicks at most once**: in every interleaving of launches, messages, edits, looks
at the latest message and ends of the process, a message and a nonce have one callback at most, every
callback is the exact one of an approvable message that the running process has reserved in time, the
status of a row moves as it may, and a restart leaves the rows from before alone. -/
theorem approver_run (events : List ApproverEvent) :
    SentOnce (approverAfter events).world ∧
      (∀ event, SendsApproved (approverAfter events) event ∧
        RowsMove (ofProcess (approverAfter events).world) (approverAfter events).world
          (approverAfter (events ++ [event])).world) ∧
      ∀ before later, events = before ++ .stop :: later → RestartForgets before later := by
  have hinv := approverInv_after events
  refine ⟨hinv.world.store.sentOnce, fun event => ⟨sendsApproved hinv event, ?_⟩,
    fun before later _ => restartForgets before later⟩
  have hnext : approverAfter (events ++ [event]) =
      (approverAfter events).exec approverHost event := Machine.run_append ..
  rw [hnext]
  exact (exec_moves hinv event).1

end Run

end BpEngine.AutoApprover
