import BpEngine.FastLive.Recovery

/-!
# What the recovery finds in the state directory

The invariant of the state directory under the executor's calls one after the other, with a crash in
any of them.

* `AcceptedWorld` is the world together with the orders the exchange has accepted.
* `DirectoryInv` is the invariant of the directory, `HeldInv` and `VisitedInv` say that what a call
  holds and has visited is so; `RecoveryInv` are the three.
* `Unchanged` is the frame: most operations leave results and markers alone (`serve_same`).
* `serve_recovery` is the step, with one lemma for each operation that does change them.
-/

namespace BpEngine.FastLive

/-- The world, and the orders that the exchange has accepted: for which payload, and the order. -/
structure AcceptedWorld where
  world : World := {}
  accepted : List (Verified × String) := []

namespace AcceptedWorld

/-- The order that an answer accepts. -/
def acceptedBy : (op : Op) → op.Ans → List (Verified × String)
  | .postOrder verified _, response => (acceptedId response).toList.map (verified, ·)
  | _, _ => []

/-- The answer to an operation, and what the exchange accepts with it. -/
def serve (scene : AcceptedWorld) (op : Op) (proposal : op.Ans) : Option (op.Ans × AcceptedWorld) :=
  (scene.world.serve op proposal).map fun served =>
    (served.1, ⟨served.2, scene.accepted ++ acceptedBy op served.1⟩)

/-- The result that is stored of an attempt. -/
def stored (scene : AcceptedWorld) (root : Root) : Option FastLiveResult :=
  (scene.world.files root).result

/-- The marker of an attempt exists. -/
def marked (scene : AcceptedWorld) (root : Root) : Prop :=
  (scene.world.files root).attempt.isSome = true

theorem serve_eq_some {scene after : AcceptedWorld} {op : Op} {proposal answer : op.Ans} :
    scene.serve op proposal = some (answer, after) ↔
      scene.world.serve op proposal = some (answer, after.world) ∧
        after.accepted = scene.accepted ++ acceptedBy op answer := by
  unfold serve
  constructor
  · intro h
    obtain ⟨⟨served, world⟩, hserved, h⟩ := Option.map_eq_some_iff.mp h
    cases h
    exact ⟨hserved, rfl⟩
  · rintro ⟨hserved, haccepted⟩
    rw [hserved, Option.map_some, ← haccepted]

end AcceptedWorld

/-- The calls of the executor one after the other. -/
def recoveryHost (config : ExecutorConfig) :
    Host AcceptedWorld ExecutorTask World.Change Op Op.Ans Raised ExecutorReturn where
  start := ExecutorTask.program config
  serve := AcceptedWorld.serve
  stop scene := { scene with world := scene.world.crash }
  outside scene change := { scene with world := scene.world.change change }

/-- One call of the executor at a time over one state directory. -/
abbrev ExecutorProcess := Process AcceptedWorld ExecutorTask Op Op.Ans Raised ExecutorReturn

/-- An event of the executor: a call starts, performs its next operation, or the process crashes. -/
abbrev ExecutorStep := ProcessEvent ExecutorTask World.Change Op Op.Ans

/-- The executor before its first call: an empty state directory. -/
def ExecutorProcess.initial (now : Timestamp) : ExecutorProcess := { world := { world := { now } } }

/-! ## The invariant -/

/-- The state directory. -/
structure DirectoryInv (config : ExecutorConfig) (scene : AcceptedWorld) : Prop where
  marked : ∀ root result, scene.stored root = some result → scene.marked root
  listed : ∀ root, scene.marked root →
    root ∈ scene.world.roots ∧ (config.continuousSession = false → root = none)
  sound : ∀ root result, scene.stored root = some result → result.Sound
  owner : ∀ root result orderId, scene.stored root = some result →
    result.externalOrderId.join = some orderId → ∃ verified, (verified, orderId) ∈ scene.accepted ∧
      intentStateRoot config verified = .ok root ∧ result.identity = verified.identity

/-- What a call holds is so. -/
def HeldInv (config : ExecutorConfig) (scene : AcceptedWorld) (task : ExecutorTask) :
    Held → Prop
  | .nothing => True
  | .opened root => scene.marked root ∧ scene.stored root = none ∧
      ∀ verified, task.payload = some verified → intentStateRoot config verified = .ok root
  | .posted root orderId => scene.marked root ∧ scene.stored root = none ∧
      ∀ verified, task.payload = some verified → intentStateRoot config verified = .ok root ∧
        ∀ id, orderId = some id → (verified, id) ∈ scene.accepted
  | .present root => (scene.stored root).isSome = true
  | .holds root result => scene.stored root = some result

/-- What a recovery has visited is so. -/
structure VisitedInv (scene : AcceptedWorld) (phase : RecoveryPhase) : Prop where
  found : ∀ root found, (root, found) ∈ phase.visited →
    found = (scene.stored root).bind FastLiveResult.returned
  settled : ∀ root result, (root, some result) ∈ phase.visited →
    result.cancellationPending ≠ some true
  complete : ∀ roots, phase.listed = some roots → ∀ root, scene.marked root → root ∈ roots

/-- The directory and the call that runs. -/
structure RecoveryInv (config : ExecutorConfig) (scene : AcceptedWorld) (phase : RecoveryPhase) :
    Prop where
  directory : DirectoryInv config scene
  held : HeldInv config scene phase.task phase.held
  visited : phase.task = .recoverPendingCancellations → VisitedInv scene phase

section Step

variable {config : ExecutorConfig} {scene after : AcceptedWorld} {phase : RecoveryPhase}

/-- Results and markers are the same, and no accepted order is forgotten. -/
structure Unchanged (scene after : AcceptedWorld) : Prop where
  stored : ∀ root, after.stored root = scene.stored root
  marked : ∀ root, after.marked root ↔ scene.marked root
  roots : after.world.roots = scene.world.roots
  accepted : ∀ order ∈ scene.accepted, order ∈ after.accepted

theorem Unchanged.of_files (hfiles : after.world.files = scene.world.files)
    (hroots : after.world.roots = scene.world.roots)
    (haccepted : ∀ order ∈ scene.accepted, order ∈ after.accepted) : Unchanged scene after := by
  refine ⟨fun root => ?_, fun root => ?_, hroots, haccepted⟩
  · unfold AcceptedWorld.stored
    rw [hfiles]
  · unfold AcceptedWorld.marked
    rw [hfiles]

theorem DirectoryInv.frame (h : DirectoryInv config scene) (hsame : Unchanged scene after) :
    DirectoryInv config after := by
  refine ⟨fun root result hstored => ?_, fun root hmarked => ?_, fun root result hstored => ?_,
    fun root result orderId hstored horder => ?_⟩
  · rw [hsame.stored] at hstored
    exact (hsame.marked root).mpr (h.marked root result hstored)
  · rw [hsame.roots]
    exact h.listed root ((hsame.marked root).mp hmarked)
  · rw [hsame.stored] at hstored
    exact h.sound root result hstored
  · rw [hsame.stored] at hstored
    obtain ⟨verified, hin, howns⟩ := h.owner root result orderId hstored horder
    exact ⟨verified, hsame.accepted _ hin, howns⟩

theorem HeldInv.frame {task : ExecutorTask} {held : Held} (h : HeldInv config scene task held)
    (hsame : Unchanged scene after) : HeldInv config after task held := by
  cases held with
  | nothing => trivial
  | opened root =>
    obtain ⟨hmarked, hnone, hroot⟩ := h
    exact ⟨(hsame.marked root).mpr hmarked, by rw [hsame.stored, hnone], hroot⟩
  | posted root orderId =>
    obtain ⟨hmarked, hnone, hroot⟩ := h
    refine ⟨(hsame.marked root).mpr hmarked, by rw [hsame.stored, hnone], fun verified hpayload => ?_⟩
    obtain ⟨hroot, hin⟩ := hroot verified hpayload
    exact ⟨hroot, fun id hid => hsame.accepted _ (hin id hid)⟩
  | present root =>
    change (after.stored root).isSome = true
    rw [hsame.stored]
    exact h
  | holds root result =>
    change after.stored root = some result
    rw [hsame.stored]
    exact h

theorem VisitedInv.frame (h : VisitedInv scene phase) (hsame : Unchanged scene after) :
    VisitedInv after phase := by
  refine ⟨fun root found hin => ?_, h.settled, fun roots hlisted root hmarked => ?_⟩
  · rw [hsame.stored]
    exact h.found root found hin
  · exact h.complete roots hlisted root ((hsame.marked root).mp hmarked)

theorem RecoveryInv.frame (h : RecoveryInv config scene phase) (hsame : Unchanged scene after) :
    RecoveryInv config after phase :=
  ⟨h.directory.frame hsame, h.held.frame hsame, fun htask => (h.visited htask).frame hsame⟩

/-- An operation that touches no attempt adds no directory. -/
theorem serve_roots {world after : World} {op : Op} {proposal answer : op.Ans}
    (hop : op.touchesAttempts = false) (hserve : world.serve op proposal = some (answer, after)) :
    after.roots = world.roots := by
  unfold World.serve at hserve
  split at hserve <;> first
    | (cases hop; done)
    | (cases hserve; done)
    | (cases hserve; rfl)
    | (split at hserve <;> cases hserve <;> rfl)

/-- An operation that touches no attempt leaves results and markers alone. -/
theorem serve_same {op : Op} {proposal answer : op.Ans} (hop : op.touchesAttempts = false)
    (hserve : scene.serve op proposal = some (answer, after)) : Unchanged scene after := by
  obtain ⟨hserve, haccepted⟩ := AcceptedWorld.serve_eq_some.mp hserve
  refine .of_files (serve_frame hop hserve).1 (serve_roots hop hserve) fun order hin => ?_
  rw [haccepted]
  exact List.mem_append_left _ hin

/-- One entry more in what a recovery has visited. -/
theorem VisitedInv.append (h : VisitedInv scene phase) {root : Root} {found : Option FastLiveResult}
    {held : Held} (hfound : found = (scene.stored root).bind FastLiveResult.returned)
    (hsettled : ∀ result, found = some result → result.cancellationPending ≠ some true) :
    VisitedInv scene { phase with held, visited := phase.visited ++ [(root, found)] } := by
  refine ⟨fun other its hin => ?_, fun other its hin => ?_, h.complete⟩
  · rcases List.mem_append.mp hin with hin | hin
    · exact h.found other its hin
    · cases List.mem_singleton.mp hin
      exact hfound
  · rcases List.mem_append.mp hin with hin | hin
    · exact h.settled other its hin
    · cases List.mem_singleton.mp hin
      exact hsettled its rfl

/-- An answer that touches no attempt is as the discipline expects, and what the call learns from it
is so. -/
theorem RecoveryInv.learn {op : Op} {proposal answer : op.Ans} (h : RecoveryInv config scene phase)
    (hop : op.touchesAttempts = false) (hserve : scene.serve op proposal = some (answer, after)) :
    recoveryExpects phase op answer ∧ RecoveryInv config after (recoveryNext phase op answer) := by
  have hafter := h.frame (serve_same hop hserve)
  have hsame := serve_same hop hserve
  obtain ⟨hserve, -⟩ := AcceptedWorld.serve_eq_some.mp hserve
  cases op with
  | attemptExists root =>
    refine ⟨trivial, ?_⟩
    obtain ⟨hanswer, -⟩ := Prod.mk.inj (Option.some.inj hserve)
    cases answer with
    | true => exact hafter
    | false =>
      refine ⟨hafter.directory, hafter.held, fun htask => (hafter.visited htask).append ?_ ?_⟩
      · have hnone : after.stored root = none := by
          by_contra hsome
          obtain ⟨result, hresult⟩ := Option.ne_none_iff_exists'.mp hsome
          have hmarked := (hsame.marked root).mp (hafter.directory.marked root result hresult)
          rw [AcceptedWorld.marked, hanswer] at hmarked
          cases hmarked
        rw [hnone]
        rfl
      · intro result hresult
        cases hresult
  | resultExists root =>
    refine ⟨trivial, ?_⟩
    obtain ⟨hanswer, -⟩ := Prod.mk.inj (Option.some.inj hserve)
    have hstored : (after.stored root).isSome = answer := by
      rw [hsame.stored]
      exact hanswer
    cases answer with
    | true => exact ⟨hafter.directory, hstored, fun htask =>
        ⟨(hafter.visited htask).found, (hafter.visited htask).settled,
          (hafter.visited htask).complete⟩⟩
    | false =>
      refine ⟨hafter.directory, hafter.held, fun htask => (hafter.visited htask).append ?_ ?_⟩
      · have hnone : after.stored root = none := by
          simpa using hstored
        rw [hnone]
        rfl
      · intro result hresult
        cases hresult
  | readResult root =>
    obtain ⟨hanswer, -⟩ := Prod.mk.inj (Option.some.inj hserve)
    have hstored : after.stored root = answer := by
      rw [hsame.stored]
      exact hanswer
    refine ⟨⟨fun hheld => ?_, fun result hresult => ?_⟩, ?_⟩
    · have hpresent := hafter.held
      rw [hheld] at hpresent
      rw [← hstored]
      exact hpresent
    · rw [hresult] at hstored
      exact hafter.directory.sound root result hstored
    · cases answer with
      | none => exact hafter
      | some result =>
        refine ⟨hafter.directory, hstored, fun htask => ?_⟩
        have hvisited := hafter.visited htask
        by_cases hpending : result.cancellationPending = some true
        · have hnext : recoveryNext phase (.readResult root) (some result) =
              { phase with held := .holds root result } := by
            simp only [recoveryNext, if_pos hpending]
          rw [hnext]
          exact ⟨hvisited.found, hvisited.settled, hvisited.complete⟩
        · have hnext : recoveryNext phase (.readResult root) (some result) =
              { phase with
                held := .holds root result
                visited := phase.visited ++ [(root, result.returned)] } := by
            simp only [recoveryNext, if_neg hpending]
          rw [hnext]
          refine hvisited.append ?_ ?_
          · rw [hstored]
            rfl
          · intro returned hreturned
            unfold FastLiveResult.returned at hreturned
            split_ifs at hreturned
            rw [← Option.some.inj hreturned]
            exact hpending
  | listRoots =>
    refine ⟨trivial, hafter.directory, hafter.held, fun htask => ?_⟩
    have hvisited := hafter.visited htask
    obtain ⟨hanswer, -⟩ := Prod.mk.inj (Option.some.inj hserve)
    refine ⟨hvisited.found, hvisited.settled, fun roots hlisted root hmarked => ?_⟩
    rw [← Option.some.inj hlisted, ← hanswer, List.mem_insertionSort, ← hsame.roots]
    exact (hafter.directory.listed root hmarked).1
  | createAttempt root => cases hop
  | writeAttempt root attempt => cases hop
  | replaceResult root result => cases hop
  | postOrder verified order => cases hop
  | _ => exact ⟨trivial, hafter⟩

/-- **A marker is created** for an attempt that has none. -/
theorem RecoveryInv.create {root : Root} (h : RecoveryInv config scene phase)
    (hallowed : recoveryAllowed config phase (.createAttempt root))
    (hnone : (scene.world.files root).attempt = none)
    (hfiles : after.world.files = Function.update scene.world.files root
      { scene.world.files root with attempt := some none })
    (hroots : after.world.roots = scene.world.roots ++ [root])
    (haccepted : after.accepted = scene.accepted) :
    RecoveryInv config after { phase with held := .opened root } := by
  obtain ⟨verified, hpayload, hroot⟩ := hallowed
  have hstored : ∀ other, after.stored other = scene.stored other := by
    intro other
    unfold AcceptedWorld.stored
    rw [hfiles]
    by_cases heq : other = root
    · rw [heq, Function.update_self]
    · rw [Function.update_of_ne heq]
  have hmarked : ∀ other, after.marked other ↔ other = root ∨ scene.marked other := by
    intro other
    unfold AcceptedWorld.marked
    rw [hfiles]
    by_cases heq : other = root
    · simp [heq]
    · simp [heq]
  have hempty : scene.stored root = none := by
    by_contra hsome
    obtain ⟨result, hresult⟩ := Option.ne_none_iff_exists'.mp hsome
    have hexists := h.directory.marked root result hresult
    rw [AcceptedWorld.marked, hnone] at hexists
    cases hexists
  refine ⟨⟨fun other result hresult => ?_, fun other hother => ?_, fun other result hresult => ?_,
    fun other result orderId hresult horder => ?_⟩, ?_, fun htask => ?_⟩
  · rw [hstored] at hresult
    exact (hmarked other).mpr (.inr (h.directory.marked other result hresult))
  · rw [hroots, List.mem_append, List.mem_singleton]
    rcases (hmarked other).mp hother with rfl | hother
    · refine ⟨.inr rfl, fun hsingle => ?_⟩
      simpa [intentStateRoot, stateRootOf, hsingle] using hroot.symm
    · obtain ⟨hin, hsingle⟩ := h.directory.listed other hother
      exact ⟨.inl hin, hsingle⟩
  · rw [hstored] at hresult
    exact h.directory.sound other result hresult
  · rw [hstored] at hresult
    rw [haccepted]
    exact h.directory.owner other result orderId hresult horder
  · refine ⟨(hmarked root).mpr (.inl rfl), by rw [hstored, hempty], fun other hother => ?_⟩
    rw [hpayload] at hother
    cases hother
    exact hroot
  · change phase.task = _ at htask
    rw [htask] at hpayload
    cases hpayload

/-- **A marker is written** by the call that created it. -/
theorem Unchanged.write {root : Root} {attempt : FastLiveResult} (hmarked : scene.marked root)
    (hfiles : after.world.files = Function.update scene.world.files root
      { scene.world.files root with attempt := some (some attempt) })
    (hroots : after.world.roots = scene.world.roots) (haccepted : after.accepted = scene.accepted) :
    Unchanged scene after := by
  refine ⟨fun other => ?_, fun other => ?_, hroots, fun order hin => haccepted ▸ hin⟩
  · unfold AcceptedWorld.stored
    rw [hfiles]
    by_cases heq : other = root
    · rw [heq, Function.update_self]
    · rw [Function.update_of_ne heq]
  · by_cases heq : other = root
    · subst heq
      refine ⟨fun _ => hmarked, fun _ => ?_⟩
      unfold AcceptedWorld.marked
      rw [hfiles, Function.update_self]
      rfl
    · unfold AcceptedWorld.marked
      rw [hfiles, Function.update_of_ne heq]

/-- **The order is posted** by the call that opened the attempt. -/
theorem RecoveryInv.post {verified : Verified} {response : Option PostResponse}
    (h : RecoveryInv config scene phase) (hpayload : phase.task.payload = some verified)
    {root : Root} (hheld : phase.held = .opened root) (hsame : Unchanged scene after)
    (haccepted : after.accepted =
      scene.accepted ++ (acceptedId response).toList.map (verified, ·)) :
    RecoveryInv config after { phase with held := .posted root (acceptedId response) } := by
  have hafter := h.frame hsame
  have hopened := hafter.held
  rw [hheld] at hopened
  obtain ⟨hmarked, hnone, hroot⟩ := hopened
  refine ⟨hafter.directory, ⟨hmarked, hnone, fun its hits => ?_⟩, fun htask => ?_⟩
  · change phase.task.payload = _ at hits
    rw [hpayload] at hits
    cases hits
    refine ⟨hroot _ hpayload, fun id hid => ?_⟩
    rw [haccepted, hid]
    exact List.mem_append_right _ List.mem_cons_self
  · change phase.task = _ at htask
    rw [htask] at hpayload
    cases hpayload

/-- What an allowed record is about: the attempt's first result, or the next one of a stored result;
it is sound, and names the order that the exchange accepted for its attempt. -/
theorem RecoveryInv.record_cases {root : Root} {result : FastLiveResult}
    (h : RecoveryInv config scene phase) (hallowed : RecordAllowed config phase root result) :
    scene.marked root ∧ result.Sound ∧
      (∀ orderId, result.externalOrderId.join = some orderId →
        ∃ verified, (verified, orderId) ∈ scene.accepted ∧
          intentStateRoot config verified = .ok root ∧ result.identity = verified.identity) ∧
      ((scene.stored root = none ∧ ∃ verified, phase.task.payload = some verified) ∨
        ∃ before, scene.stored root = some before ∧
          Follows config phase.task root before result) := by
  have hheld := h.held
  unfold RecordAllowed at hallowed
  split at hallowed
  · case h_1 opened orderId hposted =>
    obtain ⟨rfl, verified, hpayload, hfirst⟩ := hallowed
    rw [hposted] at hheld
    obtain ⟨hmarked, hnone, hroot⟩ := hheld
    obtain ⟨hroot, hin⟩ := hroot verified hpayload
    refine ⟨hmarked, hfirst.sound, fun id hid => ?_, .inl ⟨hnone, verified, hpayload⟩⟩
    rw [hfirst.2.1] at hid
    exact ⟨verified, hin id hid, hroot, hfirst.1⟩
  · case h_2 opened before hholds =>
    obtain ⟨rfl, hfollows⟩ := hallowed
    rw [hholds] at hheld
    have hstored : scene.stored root = some before := hheld
    obtain ⟨hidentity, horder⟩ := hfollows.sameOrder
    refine ⟨h.directory.marked root before hstored,
      hfollows.sound (h.directory.sound root before hstored), fun id hid => ?_,
      .inr ⟨before, hstored, hfollows⟩⟩
    rw [horder] at hid
    obtain ⟨verified, hin, hroot, hsame⟩ := h.directory.owner root before id hstored hid
    exact ⟨verified, hin, hroot, hidentity.trans hsame⟩
  · cases hallowed

/-- **A result is recorded.** -/
theorem RecoveryInv.record {root : Root} {result : FastLiveResult}
    (h : RecoveryInv config scene phase) (hallowed : RecordAllowed config phase root result)
    (hfiles : after.world.files = Function.update scene.world.files root
      { scene.world.files root with result := some result })
    (hroots : after.world.roots = scene.world.roots) (haccepted : after.accepted = scene.accepted) :
    RecoveryInv config after (phase.recorded root result) := by
  obtain ⟨hmarked, hsound, howner, hbefore⟩ := h.record_cases hallowed
  have hself : after.stored root = some result := by
    unfold AcceptedWorld.stored
    rw [hfiles, Function.update_self]
  have hother : ∀ other, other ≠ root → after.stored other = scene.stored other := by
    intro other hne
    unfold AcceptedWorld.stored
    rw [hfiles, Function.update_of_ne hne]
  have hmarks : ∀ other, after.marked other ↔ scene.marked other := by
    intro other
    unfold AcceptedWorld.marked
    rw [hfiles]
    by_cases heq : other = root
    · rw [heq, Function.update_self]
    · rw [Function.update_of_ne heq]
  refine ⟨⟨fun other stored hstored => ?_, fun other hin => ?_, fun other stored hstored => ?_,
    fun other stored orderId hstored horder => ?_⟩, hself, fun htask => ?_⟩
  · by_cases heq : other = root
    · rw [heq]
      exact (hmarks root).mpr hmarked
    · rw [hother other heq] at hstored
      exact (hmarks other).mpr (h.directory.marked other stored hstored)
  · rw [hroots]
    exact h.directory.listed other ((hmarks other).mp hin)
  · by_cases heq : other = root
    · rw [heq, hself] at hstored
      cases hstored
      exact hsound
    · rw [hother other heq] at hstored
      exact h.directory.sound other stored hstored
  · rw [haccepted]
    by_cases heq : other = root
    · rw [heq, hself] at hstored
      cases hstored
      rw [heq]
      exact howner orderId horder
    · rw [hother other heq] at hstored
      exact h.directory.owner other stored orderId hstored horder
  · -- a recovery records a result whose cancellation was pending, so it had not visited its directory
    change phase.task = _ at htask
    have hvisited := h.visited htask
    rcases hbefore with ⟨-, verified, hpayload⟩ | ⟨before, hstored, hfollows⟩
    · rw [htask] at hpayload
      cases hpayload
    · rw [htask] at hfollows
      cases hfollows with
      | finished verified _ _ hpayload => cases hpayload
      | published _ _ hpublished => cases hpublished
      | recovered cancellation official recoveredAt _ hpending =>
        have hnew : ∀ found, (root, found) ∉ phase.visited := by
          intro found hin
          have hfound := hvisited.found root found hin
          rw [hstored] at hfound
          have hreturned : before.returned = some before := if_pos (.inl hpending)
          change found = before.returned at hfound
          rw [hfound, hreturned] at hin
          exact hvisited.settled root before hin hpending
        have hkept : VisitedInv after phase := by
          refine ⟨fun other found hin => ?_, hvisited.settled, fun roots hlisted other hin => ?_⟩
          · rw [hother other fun heq => hnew found (heq ▸ hin)]
            exact hvisited.found other found hin
          · exact hvisited.complete roots hlisted other ((hmarks other).mp hin)
        refine hkept.append ?_ ?_
        · rw [hself]
          have hreturned : ((before.cancelled cancellation official).recovered recoveredAt).returned =
              some ((before.cancelled cancellation official).recovered recoveredAt) :=
            if_pos (.inr rfl)
          exact hreturned.symm
        · intro recovered hrecovered
          cases hrecovered
          exact fun hpending => by cases hpending

/-- An exclusive create leaves the world alone, or creates a marker that did not exist. -/
theorem createAttempt_cases (world : World) (root : Root) (proposal : CreateResult) :
    ((world.createAttempt root proposal).1 ≠ .created ∧
      (world.createAttempt root proposal).2 = world) ∨
      (world.files root).attempt = none ∧ world.createAttempt root proposal =
        (.created, { world.setFiles root { world.files root with attempt := some none } with
          roots := world.roots ++ [root] }) := by
  cases hnone : (world.files root).attempt with
  | some marker => cases proposal <;> simp [World.createAttempt, hnone]
  | none => cases proposal <;> simp [World.createAttempt, hnone]

/-- An operation leaves a stored result alone, or it is the operation that records it. -/
theorem serve_stored {op : Op} {proposal answer : op.Ans}
    (hserve : scene.serve op proposal = some (answer, after)) (root : Root) :
    after.stored root = scene.stored root ∨
      ∃ result, (⟨op, answer⟩ : Σ op, Op.Ans op) = ⟨.replaceResult root result, true⟩ ∧
        after.stored root = some result := by
  by_cases hop : op.touchesAttempts = false
  · exact .inl ((serve_same hop hserve).stored root)
  obtain ⟨hworld, -⟩ := AcceptedWorld.serve_eq_some.mp hserve
  cases op with
  | createAttempt other =>
    have hcreate : scene.world.createAttempt other proposal = (answer, after.world) :=
      Option.some.inj hworld
    left
    unfold AcceptedWorld.stored
    rcases createAttempt_cases scene.world other proposal with ⟨-, hleft⟩ | ⟨-, hcreated⟩
    · have hafter : after.world = scene.world := by simpa only [hcreate] using hleft
      rw [hafter]
    · rw [hcreate] at hcreated
      rw [(Prod.mk.inj hcreated).2]
      by_cases heq : root = other
      · simp [World.setFiles, heq]
      · simp [World.setFiles, Function.update_of_ne heq]
  | writeAttempt other attempt =>
    left
    unfold AcceptedWorld.stored
    cases proposal with
    | false =>
      obtain ⟨-, hafter⟩ := Prod.mk.inj (Option.some.inj hworld)
      rw [← hafter]
    | true =>
      obtain ⟨-, hafter⟩ := Prod.mk.inj (Option.some.inj hworld)
      rw [← hafter]
      by_cases heq : root = other
      · simp [World.setFiles, heq]
      · simp [World.setFiles, Function.update_of_ne heq]
  | replaceResult other result =>
    unfold AcceptedWorld.stored
    cases proposal with
    | false =>
      obtain ⟨-, hafter⟩ := Prod.mk.inj (Option.some.inj hworld)
      exact .inl (by rw [← hafter])
    | true =>
      obtain ⟨hanswer, hafter⟩ := Prod.mk.inj (Option.some.inj hworld)
      subst hanswer
      rw [← hafter]
      by_cases heq : root = other
      · subst heq
        exact .inr ⟨result, rfl, by simp [World.setFiles]⟩
      · exact .inl (by simp [World.setFiles, Function.update_of_ne heq])
  | postOrder verified order =>
    obtain ⟨-, hafter⟩ := Prod.mk.inj (Option.some.inj hworld)
    left
    unfold AcceptedWorld.stored
    rw [← hafter]
  | _ => exact absurd rfl hop

/-- **The step**: an operation that the discipline allows keeps the invariant, and its answer is as
the discipline expects. -/
theorem serve_recovery {op : Op} {proposal answer : op.Ans} (h : RecoveryInv config scene phase)
    (hallowed : recoveryAllowed config phase op)
    (hserve : scene.serve op proposal = some (answer, after)) :
    recoveryExpects phase op answer ∧ RecoveryInv config after (recoveryNext phase op answer) := by
  by_cases hop : op.touchesAttempts = false
  · exact h.learn hop hserve
  obtain ⟨hworld, haccepted⟩ := AcceptedWorld.serve_eq_some.mp hserve
  have hkept : ∀ order ∈ scene.accepted, order ∈ after.accepted := by
    intro order hin
    rw [haccepted]
    exact List.mem_append_left _ hin
  have hsame (hafter : scene.world = after.world) : RecoveryInv config after phase := by
    refine h.frame (.of_files ?_ ?_ hkept)
    · rw [hafter]
    · rw [hafter]
  refine ⟨by cases op <;> trivial, ?_⟩
  cases op with
  | createAttempt root =>
    have hcreate : scene.world.createAttempt root proposal = (answer, after.world) :=
      Option.some.inj hworld
    rcases createAttempt_cases scene.world root proposal with ⟨hne, hleft⟩ | ⟨hnone, hcreated⟩
    · rw [hcreate] at hne hleft
      cases answer with
      | created => exact absurd rfl hne
      | «exists» => exact hsame hleft.symm
      | failed => exact hsame hleft.symm
    · rw [hcreate] at hcreated
      obtain ⟨rfl, hafter⟩ := Prod.mk.inj hcreated
      refine h.create hallowed hnone ?_ ?_ (haccepted.trans (List.append_nil _))
      · rw [hafter]
        rfl
      · rw [hafter]
  | writeAttempt root attempt =>
    have hheld : phase.held = .opened root := hallowed
    have hopened := h.held
    rw [hheld] at hopened
    cases proposal with
    | false =>
      obtain ⟨hanswer, hafter⟩ := Prod.mk.inj (Option.some.inj hworld)
      cases answer with
      | true => cases hanswer
      | false => exact hsame hafter
    | true =>
      obtain ⟨hanswer, hafter⟩ := Prod.mk.inj (Option.some.inj hworld)
      have hfiles : after.world.files = Function.update scene.world.files root
          { scene.world.files root with attempt := some (some attempt) } := by
        rw [← hafter]
        rfl
      have hroots : after.world.roots = scene.world.roots := by
        rw [← hafter]
        rfl
      have hwritten : RecoveryInv config after phase :=
        h.frame (.write hopened.1 hfiles hroots (haccepted.trans (List.append_nil _)))
      cases answer <;> exact hwritten
  | replaceResult root result =>
    cases proposal with
    | false =>
      obtain ⟨hanswer, hafter⟩ := Prod.mk.inj (Option.some.inj hworld)
      cases answer with
      | true => cases hanswer
      | false => exact hsame hafter
    | true =>
      obtain ⟨hanswer, hafter⟩ := Prod.mk.inj (Option.some.inj hworld)
      cases answer with
      | false => cases hanswer
      | true =>
        refine h.record hallowed ?_ ?_ (haccepted.trans (List.append_nil _))
        · rw [← hafter]
          rfl
        · rw [← hafter]
          rfl
  | postOrder verified order =>
    obtain ⟨hpayload, root, hheld⟩ := hallowed
    obtain ⟨hanswer, hafter⟩ := Prod.mk.inj (Option.some.inj hworld)
    have hnext : recoveryNext phase (.postOrder verified order) answer =
        { phase with held := .posted root (acceptedId answer) } := by
      simp only [recoveryNext, hheld, Held.post]
    rw [hnext]
    refine h.post hpayload hheld (.of_files ?_ ?_ hkept) haccepted
    · rw [← hafter]
    · rw [← hafter]
  | _ => exact absurd rfl hop

end Step

end BpEngine.FastLive
