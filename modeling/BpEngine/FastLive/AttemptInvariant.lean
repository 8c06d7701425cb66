import BpEngine.FastLive.Attempt

/-!
# The state directory under any interleaving

What holds of the files and the posts as long as every call keeps to the discipline of an attempt.

* `AttemptInv`: an order needs a marker and at most one call may still post it; a marker names a
  payload of its directory and never changes; a stored result and a posted order carry its ids.
* `serve_attempt` is the step: one operation of one call.
* `executorHost` runs the calls of the executor; `attemptInv_run` is the invariant of every run.
-/

namespace BpEngine.FastLive

/-- The marker of the directory has been written with these ids. -/
def MarkerOf (world : World) (root : Root) (identity : Identity) : Prop :=
  ∃ attempt, (world.files root).attempt = some (some attempt) ∧ attempt.identity = identity

instance (world : World) (root : Root) (identity : Identity) :
    Decidable (MarkerOf world root identity) :=
  decidable_of_iff (∃ attempt ∈ (world.files root).attempt.join, attempt.identity = identity) <| by
    simp [MarkerOf, Option.join_eq_some_iff]

/-- The post is of an attempt in this directory. -/
def Post.of (config : ExecutorConfig) (root : Root) (post : Post) : Bool :=
  intentStateRoot config post.verified = .ok root

/-- The invariant of the state directory, given the phases of the running calls. -/
structure AttemptInv (config : ExecutorConfig) (S : Verified → Prop) (world : World)
    (phases : List AttemptPhase) : Prop where
  once : ∀ root, world.posts.countP (Post.of config root) + phases.countP (·.claims root) ≤
    if (world.files root).attempt.isSome then 1 else 0
  opened : ∀ root, .opened root ∈ phases → (world.files root).attempt = some none
  marked : ∀ root identity, .marked root identity ∈ phases → MarkerOf world root identity
  knows : ∀ root identity, .knows root identity ∈ phases → MarkerOf world root identity
  owner : ∀ root attempt, (world.files root).attempt = some (some attempt) →
    ∃ verified, S verified ∧ intentStateRoot config verified = .ok root ∧
      attempt.identity = verified.identity
  stored : ∀ root result, (world.files root).result = some result →
    result.consumed = true ∧ MarkerOf world root result.identity
  posted : ∀ post ∈ world.posts, ∃ root, intentStateRoot config post.verified = .ok root ∧
    MarkerOf world root post.verified.identity

section Step

variable {config : ExecutorConfig} {S : Verified → Prop} {world after : World}
  {before later : List AttemptPhase} {phase next : AttemptPhase}

theorem AttemptInv.empty (hfiles : ∀ root, world.files root = {}) (hposts : world.posts = []) :
    AttemptInv config S world [] where
  once root := by simp [hposts]
  opened _ h := absurd h List.not_mem_nil
  marked _ _ h := absurd h List.not_mem_nil
  knows _ _ h := absurd h List.not_mem_nil
  owner root attempt h := by simp [hfiles] at h
  stored root result h := by simp [hfiles] at h
  posted post h := by simp [hposts] at h

theorem countP_split (root : Root) :
    (before ++ phase :: later).countP (·.claims root) =
      (before.countP (·.claims root) + later.countP (·.claims root)) +
        if phase.claims root then 1 else 0 := by
  rw [List.countP_append, List.countP_cons]
  omega

/-- Calls may leave. -/
theorem AttemptInv.sublist {phases phases' : List AttemptPhase}
    (h : AttemptInv config S world phases) (hsub : phases'.Sublist phases) :
    AttemptInv config S world phases' where
  once root := by
    have honce := h.once root
    have hcount := hsub.countP_le (p := (·.claims root))
    omega
  opened root hmem := h.opened root (hsub.subset hmem)
  marked root identity hmem := h.marked root identity (hsub.subset hmem)
  knows root identity hmem := h.knows root identity (hsub.subset hmem)
  owner := h.owner
  stored := h.stored
  posted := h.posted

/-- A call that has claimed nothing may come. -/
theorem AttemptInv.append_fresh {phases : List AttemptPhase}
    (h : AttemptInv config S world phases) : AttemptInv config S world (phases ++ [.fresh]) where
  once root := by
    have honce := h.once root
    rw [List.countP_append]
    simpa [AttemptPhase.claims] using honce
  opened root hmem := h.opened root (by simpa using hmem)
  marked root identity hmem := h.marked root identity (by simpa using hmem)
  knows root identity hmem := h.knows root identity (by simpa using hmem)
  owner := h.owner
  stored := h.stored
  posted := h.posted

/-- The world has the same files and posts. -/
theorem AttemptInv.frame {phases : List AttemptPhase} (h : AttemptInv config S world phases)
    (hfiles : after.files = world.files) (hposts : after.posts = world.posts) :
    AttemptInv config S after phases := by
  obtain ⟨honce, hopened, hmarked, hknows, howner, hstored, hposted⟩ := h
  constructor <;> simp only [MarkerOf, hfiles, hposts] at * <;> assumption

/-- A call learns what the marker says, or only that it is there. -/
theorem AttemptInv.learn (h : AttemptInv config S world (before ++ phase :: later))
    (hclaims : ∀ root, next.claims root = phase.claims root)
    (hnext : next = phase ∨ next = .found ∨
      ∃ root identity, next = .knows root identity ∧ MarkerOf world root identity) :
    AttemptInv config S world (before ++ next :: later) := by
  have hmem : ∀ other ∈ before ++ next :: later,
      other ∈ before ++ phase :: later ∨ other = next := by
    intro other hother
    simp only [List.mem_append, List.mem_cons] at hother ⊢
    tauto
  refine ⟨fun root => ?_, fun root hin => ?_, fun root identity hin => ?_,
    fun root identity hin => ?_, h.owner, h.stored, h.posted⟩
  · have honce := h.once root
    rw [countP_split] at honce ⊢
    rwa [hclaims]
  · rcases hmem _ hin with hin | heq
    · exact h.opened root hin
    · rcases hnext with rfl | rfl | ⟨_, _, rfl, _⟩
      · exact h.opened root (heq ▸ by simp)
      · cases heq
      · cases heq
  · rcases hmem _ hin with hin | heq
    · exact h.marked root identity hin
    · rcases hnext with rfl | rfl | ⟨_, _, rfl, _⟩
      · exact h.marked root identity (heq ▸ by simp)
      · cases heq
      · cases heq
  · rcases hmem _ hin with hin | heq
    · exact h.knows root identity hin
    · rcases hnext with rfl | rfl | ⟨other, its, rfl, hmarker⟩
      · exact h.knows root identity (heq ▸ by simp)
      · cases heq
      · cases heq
        exact hmarker

theorem MarkerOf.mono {root : Root} {identity : Identity} (h : MarkerOf world root identity)
    (hkeep : ∀ attempt, (world.files root).attempt = some (some attempt) →
      (after.files root).attempt = some (some attempt)) : MarkerOf after root identity := by
  obtain ⟨attempt, hattempt, hidentity⟩ := h
  exact ⟨attempt, hkeep attempt hattempt, hidentity⟩

/-- Membership of a call other than the one that moves. -/
theorem mem_other {other : AttemptPhase} (hother : other ∈ before ++ next :: later)
    (hne : other ≠ next) : other ∈ before ++ phase :: later := by
  simp only [List.mem_append, List.mem_cons] at hother ⊢
  tauto

/-- **The marker is created.** -/
theorem AttemptInv.create (h : AttemptInv config S world (before ++ .fresh :: later)) {root : Root}
    (hnone : (world.files root).attempt = none) (hposts : after.posts = world.posts)
    (hfiles : after.files = Function.update world.files root
      { world.files root with attempt := some none }) :
    AttemptInv config S after (before ++ .opened root :: later) := by
  have hself : (after.files root).attempt = some none := by simp [hfiles]
  have helse : ∀ other, other ≠ root → after.files other = world.files other := by
    intro other hne
    simp [hfiles, Function.update_of_ne hne]
  have hmono : ∀ other identity, MarkerOf world other identity → MarkerOf after other identity := by
    intro other identity hmarker
    refine hmarker.mono fun attempt hattempt => ?_
    have hne : other ≠ root := by
      rintro rfl
      rw [hnone] at hattempt
      cases hattempt
    rw [helse other hne, hattempt]
  have hzero := h.once root
  simp only [hnone, Option.isSome_none, Bool.false_eq_true, if_false] at hzero
  refine ⟨fun other => ?_, fun other hin => ?_, fun other identity hin => ?_,
    fun other identity hin => ?_, fun other attempt hattempt => ?_, fun other result hresult => ?_,
    fun post hpost => ?_⟩
  · have honce := h.once other
    rw [countP_split] at honce hzero ⊢
    rw [hposts]
    by_cases heq : other = root
    · have hclaims : (AttemptPhase.opened root).claims root = true := by
        simp [AttemptPhase.claims]
      rw [heq, hself, hclaims]
      simp only [Option.isSome_some, if_true]
      omega
    · have hclaims : (AttemptPhase.opened root).claims other = false := by
        simp [AttemptPhase.claims, Ne.symm heq]
      rw [helse other heq, hclaims]
      exact honce
  · by_cases heq : other = root
    · rw [heq, hself]
    · rw [helse other heq]
      exact h.opened other (mem_other hin fun h => heq (by cases h; rfl))
  · exact hmono _ _ (h.marked other identity (mem_other hin fun h => by cases h))
  · exact hmono _ _ (h.knows other identity (mem_other hin fun h => by cases h))
  · by_cases heq : other = root
    · rw [heq, hself] at hattempt
      cases hattempt
    · rw [helse other heq] at hattempt
      exact h.owner other attempt hattempt
  · have hresult' : (world.files other).result = some result := by
      by_cases heq : other = root
      · subst heq
        simpa [hfiles] using hresult
      · rwa [helse other heq] at hresult
    obtain ⟨hconsumed, hmarker⟩ := h.stored other result hresult'
    exact ⟨hconsumed, hmono _ _ hmarker⟩
  · rw [hposts] at hpost
    obtain ⟨other, hroot, hmarker⟩ := h.posted post hpost
    exact ⟨other, hroot, hmono _ _ hmarker⟩

/-- **The marker is written.**  No other call is about to write it, so it is never changed. -/
theorem AttemptInv.write {root : Root} {attempt : FastLiveResult}
    (h : AttemptInv config S world (before ++ .opened root :: later))
    (hattempt : ∃ verified, S verified ∧ intentStateRoot config verified = .ok root ∧
      attempt.identity = verified.identity) (hposts : after.posts = world.posts)
    (hfiles : after.files = Function.update world.files root
      { world.files root with attempt := some (some attempt) }) :
    AttemptInv config S after (before ++ .marked root attempt.identity :: later) := by
  have hopen : (world.files root).attempt = some none := h.opened root (by simp)
  have hself : (after.files root).attempt = some (some attempt) := by simp [hfiles]
  have helse : ∀ other, other ≠ root → after.files other = world.files other := by
    intro other hne
    simp [hfiles, Function.update_of_ne hne]
  have hmono : ∀ other identity, MarkerOf world other identity → MarkerOf after other identity := by
    intro other identity hmarker
    refine hmarker.mono fun written hwritten => ?_
    have hne : other ≠ root := by
      rintro rfl
      rw [hopen] at hwritten
      cases hwritten
    rw [helse other hne, hwritten]
  have halone : ∀ other ∈ before ++ later, other.claims root = false := by
    intro other hother
    have honce := h.once root
    have hself : (AttemptPhase.opened root).claims root = true := by simp [AttemptPhase.claims]
    rw [countP_split, hopen, hself] at honce
    simp only [if_true, Option.isSome_some] at honce
    by_contra hclaims
    have hpos : 0 < (before ++ later).countP (·.claims root) :=
      List.countP_pos_iff.mpr ⟨other, hother, by simpa using hclaims⟩
    rw [List.countP_append] at hpos
    omega
  refine ⟨fun other => ?_, fun other hin => ?_, fun other identity hin => ?_,
    fun other identity hin => ?_, fun other stored hstored => ?_, fun other result hresult => ?_,
    fun post hpost => ?_⟩
  · have honce := h.once other
    rw [countP_split] at honce ⊢
    rw [hposts]
    have hsome : (after.files other).attempt.isSome = (world.files other).attempt.isSome := by
      by_cases heq : other = root
      · rw [heq, hself, hopen]
        rfl
      · rw [helse other heq]
    rw [hsome]
    exact honce
  · have hin' : .opened other ∈ before ++ later := by
      simp only [List.mem_append, List.mem_cons] at hin ⊢
      tauto
    by_cases heq : other = root
    · have hclaims := halone _ hin'
      simp [AttemptPhase.claims, heq] at hclaims
    · rw [helse other heq]
      exact h.opened other (mem_other hin fun h => by cases h)
  · by_cases heq : AttemptPhase.marked other identity = .marked root attempt.identity
    · cases heq
      exact ⟨attempt, hself, rfl⟩
    · exact hmono _ _ (h.marked other identity (mem_other hin heq))
  · exact hmono _ _ (h.knows other identity (mem_other hin fun h => by cases h))
  · by_cases heq : other = root
    · subst heq
      rw [hself] at hstored
      cases hstored
      exact hattempt
    · rw [helse other heq] at hstored
      exact h.owner other stored hstored
  · have hresult' : (world.files other).result = some result := by
      by_cases heq : other = root
      · subst heq
        simpa [hfiles] using hresult
      · rwa [helse other heq] at hresult
    obtain ⟨hconsumed, hmarker⟩ := h.stored other result hresult'
    exact ⟨hconsumed, hmono _ _ hmarker⟩
  · rw [hposts] at hpost
    obtain ⟨other, hroot, hmarker⟩ := h.posted post hpost
    exact ⟨other, hroot, hmono _ _ hmarker⟩

/-- **A result is recorded** by a call that knows the attempt. -/
theorem AttemptInv.record {phases : List AttemptPhase} {root : Root} {result : FastLiveResult}
    (h : AttemptInv config S world phases) (hknows : MarkerOf world root result.identity)
    (hconsumed : result.consumed = true) (hposts : after.posts = world.posts)
    (hfiles : after.files = Function.update world.files root
      { world.files root with result := some result }) :
    AttemptInv config S after phases := by
  have hattempt : ∀ other, (after.files other).attempt = (world.files other).attempt := by
    intro other
    by_cases heq : other = root
    · subst heq
      simp [hfiles]
    · simp [hfiles, Function.update_of_ne heq]
  have hmono : ∀ other identity, MarkerOf world other identity → MarkerOf after other identity :=
    fun other identity hmarker => hmarker.mono fun attempt h => by rw [hattempt, h]
  refine ⟨fun other => ?_, fun other hin => ?_, fun other identity hin => ?_,
    fun other identity hin => ?_, fun other stored hstored => ?_, fun other stored hstored => ?_,
    fun post hpost => ?_⟩
  · rw [hattempt, hposts]
    exact h.once other
  · rw [hattempt]
    exact h.opened other hin
  · exact hmono _ _ (h.marked other identity hin)
  · exact hmono _ _ (h.knows other identity hin)
  · rw [hattempt] at hstored
    exact h.owner other stored hstored
  · by_cases heq : other = root
    · subst heq
      simp only [hfiles, Function.update_self, Option.some.injEq] at hstored
      subst hstored
      exact ⟨hconsumed, hmono _ _ hknows⟩
    · simp only [hfiles, Function.update_of_ne heq] at hstored
      obtain ⟨hconsumed, hmarker⟩ := h.stored other stored hstored
      exact ⟨hconsumed, hmono _ _ hmarker⟩
  · rw [hposts] at hpost
    obtain ⟨other, hroot, hmarker⟩ := h.posted post hpost
    exact ⟨other, hroot, hmono _ _ hmarker⟩

/-- **The order is posted** by the call that claimed the attempt. -/
theorem AttemptInv.post {root : Root} {p : Post}
    (h : AttemptInv config S world (before ++ .marked root p.verified.identity :: later))
    (hroot : intentStateRoot config p.verified = .ok root)
    (hfiles : after.files = world.files) (hposts : after.posts = world.posts ++ [p]) :
    AttemptInv config S after (before ++ .knows root p.verified.identity :: later) := by
  have hmarker : MarkerOf world root p.verified.identity := h.marked root _ (by simp)
  have hsame : ∀ other identity, MarkerOf after other identity ↔ MarkerOf world other identity := by
    intro other identity
    unfold MarkerOf
    rw [hfiles]
  refine ⟨fun other => ?_, fun other hin => ?_, fun other identity hin => ?_,
    fun other identity hin => ?_, fun other attempt hattempt => ?_, fun other result hresult => ?_,
    fun other hother => ?_⟩
  · have honce := h.once other
    rw [countP_split] at honce ⊢
    rw [hposts, hfiles, List.countP_append, List.countP_singleton]
    have hpost : Post.of config other p =
        (AttemptPhase.marked root p.verified.identity).claims other := by
      simp [Post.of, hroot, AttemptPhase.claims]
    have hclaims : (AttemptPhase.knows root p.verified.identity).claims other = false := rfl
    rw [hpost, hclaims]
    simp only [Bool.false_eq_true, if_false]
    omega
  · rw [hfiles]
    exact h.opened other (mem_other hin fun h => by cases h)
  · exact (hsame _ _).2 (h.marked other identity (mem_other hin fun h => by cases h))
  · by_cases heq : AttemptPhase.knows other identity = .knows root p.verified.identity
    · cases heq
      exact (hsame _ _).2 hmarker
    · exact (hsame _ _).2 (h.knows other identity (mem_other hin heq))
  · rw [hfiles] at hattempt
    exact h.owner other attempt hattempt
  · rw [hfiles] at hresult
    obtain ⟨hconsumed, hmarker⟩ := h.stored other result hresult
    exact ⟨hconsumed, (hsame _ _).2 hmarker⟩
  · rw [hposts] at hother
    rcases List.mem_append.mp hother with hin | hin
    · obtain ⟨its, hits, hmarker⟩ := h.posted other hin
      exact ⟨its, hits, (hsame _ _).2 hmarker⟩
    · rw [List.mem_singleton.mp hin]
      exact ⟨root, hroot, (hsame _ _).2 hmarker⟩

/-- The operations whose answer tells a call something about an attempt. -/
def Op.tellsOfAttempt : Op → Bool
  | .attemptExists _ | .readResult _ | .readAttempt _ => true
  | _ => false

theorem attemptNext_other {op : Op} (htouches : op.touchesAttempts = false)
    (htells : op.tellsOfAttempt = false) (answer : op.Ans) :
    attemptNext phase op answer = phase := by
  cases phase <;> cases op <;> first | rfl | (cases htouches; done) | cases htells

theorem attemptExpects_other {op : Op} (htells : op.tellsOfAttempt = false) (answer : op.Ans) :
    attemptExpects op answer := by
  cases op <;> trivial

theorem serve_createAttempt {root : Root} {proposal answer : CreateResult}
    (h : AttemptInv config S world (before ++ .fresh :: later))
    (hserve : world.serve (.createAttempt root) proposal = some (answer, after)) :
    AttemptInv config S after
      (before ++ attemptNext .fresh (.createAttempt root) answer :: later) := by
  simp only [World.serve, Option.some.injEq] at hserve
  cases hnone : (world.files root).attempt with
  | some marker =>
    have hcreate : world.createAttempt root proposal = (.failed, world) ∨
        world.createAttempt root proposal = (.exists, world) := by
      cases proposal <;> simp [World.createAttempt, hnone]
    rcases hcreate with hcreate | hcreate <;> rw [hcreate] at hserve <;> cases hserve <;> exact h
  | none =>
    have hcreate : world.createAttempt root proposal = (.failed, world) ∨
        world.createAttempt root proposal = (.created, { world.setFiles root
          { world.files root with attempt := some none } with
            roots := world.roots ++ [root] }) := by
      cases proposal <;> simp [World.createAttempt, hnone]
    rcases hcreate with hcreate | hcreate <;> rw [hcreate] at hserve <;> cases hserve
    · exact h
    · exact h.create hnone rfl rfl

/-- **The step**: an operation that the discipline allows keeps the invariant, and its answer is as
the discipline expects. -/
theorem serve_attempt {op : Op} {proposal answer : op.Ans}
    (h : AttemptInv config S world (before ++ phase :: later))
    (hallowed : attemptAllowed config S phase op)
    (hserve : world.serve op proposal = some (answer, after)) :
    attemptExpects op answer ∧
      AttemptInv config S after (before ++ attemptNext phase op answer :: later) := by
  by_cases htouches : op.touchesAttempts = true
  · refine ⟨attemptExpects_other (by cases op <;> first | rfl | cases htouches) answer, ?_⟩
    cases op <;> try (cases htouches; done)
    case createAttempt root =>
      obtain rfl : phase = .fresh := hallowed
      exact serve_createAttempt h hserve
    case writeAttempt root attempt =>
      obtain ⟨rfl, hattempt⟩ := hallowed
      cases proposal <;> cases hserve
      · exact h
      · exact h.write hattempt rfl rfl
    case replaceResult root result =>
      obtain ⟨rfl, hconsumed⟩ := hallowed
      cases proposal <;> cases hserve
      · exact h
      · exact h.record (h.knows root _ (by simp)) hconsumed rfl rfl
    case postOrder verified order =>
      obtain ⟨root, rfl, hroot⟩ := hallowed
      cases hserve
      exact AttemptInv.post (p := ⟨verified, world.now⟩) h hroot rfl rfl
  · rw [Bool.not_eq_true] at htouches
    obtain ⟨hfiles, hposts⟩ := serve_frame htouches hserve
    by_cases htells : op.tellsOfAttempt = true
    · cases op <;> try (cases htells; done)
      case attemptExists root =>
        refine ⟨trivial, (h.learn ?_ ?_).frame hfiles hposts⟩
        · cases phase <;> cases answer <;> exact fun _ => rfl
        · cases phase <;> cases answer <;> simp [attemptNext]
      case readResult root =>
        cases hserve
        cases hresult : (world.files root).result with
        | none =>
          refine ⟨trivial, h.learn (fun _ => ?_) (.inl ?_)⟩ <;> cases phase <;> rfl
        | some result =>
          obtain ⟨hconsumed, hmarker⟩ := h.stored root result hresult
          refine ⟨hconsumed, h.learn ?_ ?_⟩
          · cases phase <;> exact fun _ => rfl
          · cases phase <;> first
              | exact .inl rfl
              | exact .inr (.inr ⟨_, _, rfl, hmarker⟩)
      case readAttempt root =>
        cases hserve
        cases hattempt : (world.files root).attempt.join with
        | none =>
          refine ⟨trivial, h.learn (fun _ => ?_) (.inl ?_)⟩ <;> cases phase <;> rfl
        | some attempt =>
          have hmarker : MarkerOf world root attempt.identity :=
            ⟨attempt, Option.join_eq_some_iff.mp hattempt, rfl⟩
          refine ⟨trivial, h.learn ?_ ?_⟩
          · cases phase <;> exact fun _ => rfl
          · cases phase <;> first
              | exact .inl rfl
              | exact .inr (.inr ⟨_, _, rfl, hmarker⟩)
    · rw [Bool.not_eq_true] at htells
      rw [attemptNext_other htouches htells]
      exact ⟨attemptExpects_other htells answer, h.frame hfiles hposts⟩

end Step

/-! ## The calls of the executor -/

/-- A call of the executor. -/
inductive ExecutorTask where
  | execute (verified : Verified) (prepared : Option PreparedFastLiveOrder)
  | executeWithRetry (verified : Verified) (prepared : Option PreparedFastLiveOrder) (fuel : ℕ)
  | recoverPendingCancellations
  | markRecoveryResultPublished (result : FastLiveResult)
  | prepareOrder (verified : Verified)

/-- What a call of the executor returns. -/
inductive ExecutorReturn where
  | result (result : FastLiveResult)
  | recovered (results : List FastLiveResult)
  | marked
  | prepared (order : PreparedFastLiveOrder)
deriving DecidableEq

namespace ExecutorTask

/-- The payload that a call submits. -/
def payload : ExecutorTask → Option Verified
  | .execute verified _ => some verified
  | .executeWithRetry verified _ _ => some verified
  | _ => none

/-- The program of a call. -/
def program (config : ExecutorConfig) : ExecutorTask → FastLiveM ExecutorReturn
  | .execute verified prepared => do
    let result ← BpEngine.FastLive.execute config verified prepared
    pure (.result result)
  | .executeWithRetry verified prepared fuel => do
    let result ← executeWithBoundedPreAttemptRetry config verified prepared fuel
    pure (.result result)
  | .recoverPendingCancellations => do
    let results ← BpEngine.FastLive.recoverPendingCancellations config
    pure (.recovered results)
  | .markRecoveryResultPublished result => do
    BpEngine.FastLive.markRecoveryResultPublished config result
    pure .marked
  | .prepareOrder verified => do
    let order ← BpEngine.FastLive.prepareOrder config verified
    pure (.prepared order)

end ExecutorTask

/-- The calls of the executor side by side over one state directory; a crash stops them all. -/
def executorHost (config : ExecutorConfig) :
    Host World ExecutorTask World.Change Op Op.Ans Raised ExecutorReturn where
  start := ExecutorTask.program config
  serve := World.serve
  stop := World.crash
  outside := World.change

/-- Any number of calls of the executor over one state directory. -/
abbrev ExecutorPool := Pool World ExecutorTask Op Op.Ans Raised ExecutorReturn

/-- An event of the executor's calls. -/
abbrev ExecutorEvent := PoolEvent ExecutorTask World.Change Op Op.Ans

/-- The end of a call: the result of a submission is as `Executed` says. -/
def executorDone (config : ExecutorConfig) (task : ExecutorTask) (phase : AttemptPhase) :
    Except Raised ExecutorReturn → Prop
  | .ok (.result result) => ∀ verified, task.payload = some verified →
      Executed config verified phase (.ok result)
  | _ => True

/-- The guard that admits submissions of payloads of `S`. -/
def submissionGuard (S : Verified → Prop) : Pool.Guard World ExecutorTask Op Op.Ans AttemptPhase where
  admits task := ∀ verified, task.payload = some verified → S verified
  permits _ _ _ _ _ _ := True

theorem obeys_program (config : ExecutorConfig) (S : Verified → Prop) (task : ExecutorTask)
    (htask : (submissionGuard S).admits task) :
    (attemptProtocol config S).Obeys (executorDone config task) (task.program config) .fresh := by
  have hunclaimed : Unclaimed .fresh := fun _ => rfl
  cases task with
  | execute verified prepared =>
    refine (obeys_execute (htask verified rfl) prepared).bind (fun phase result h => ?_)
      fun _ _ _ => trivial
    exact fun other hother => by cases hother; exact h.1
  | executeWithRetry verified prepared fuel =>
    refine (obeys_executeWithRetry (htask verified rfl) prepared fuel 0).bind
      (fun phase result h => ?_) fun _ _ _ => trivial
    exact fun other hother => by cases hother; exact h
  | recoverPendingCancellations =>
    exact (obeys_recoverPendingCancellations hunclaimed).bind (fun _ _ _ => trivial)
      fun _ _ _ => trivial
  | markRecoveryResultPublished result =>
    exact (obeys_markRecoveryResultPublished result hunclaimed).bind (fun _ _ _ => trivial)
      fun _ _ _ => trivial
  | prepareOrder verified =>
    exact (obeys_prepareOrder verified hunclaimed).bind (fun _ _ _ => trivial)
      fun _ _ _ => trivial

/-- The executor's calls keep the invariant of the state directory. -/
theorem executor_keeps (config : ExecutorConfig) (S : Verified → Prop) :
    Pool.Keeps (executorHost config) (submissionGuard S) (attemptProtocol config S)
      (fun _ => .fresh) (executorDone config)
      (fun world phases => AttemptInv config S world (phases.map Prod.snd)) where
  obeys task htask := obeys_program config S task htask
  start world phases task _ h := by
    rw [List.map_append]
    exact h.append_fresh
  serve world before task phase later op proposal answer after h hallowed hserve _ := by
    rw [List.map_append, List.map_cons] at h ⊢
    exact serve_attempt h hallowed hserve
  finish world before entry later h := by
    refine h.sublist ?_
    rw [List.map_append, List.map_append, List.map_cons]
    exact List.Sublist.append_left (List.sublist_cons_self _ _) _
  stop world phases h := (h.sublist (List.nil_sublist _)).frame rfl rfl
  outside world phases change h := by cases change <;> exact h.frame rfl rfl

/-- The pool before the first call: an empty state directory and nothing posted. -/
def ExecutorPool.initial (now : Timestamp) : ExecutorPool := { world := { now } }

/-- The payloads that a run submits. -/
def submitted (events : List ExecutorEvent) (verified : Verified) : Prop :=
  ∃ task, PoolEvent.start task ∈ events ∧ task.payload = some verified

/-- **Every run** of the executor's calls keeps the invariant of the state directory. -/
theorem attemptInv_run (config : ExecutorConfig) (now : Timestamp) (events : List ExecutorEvent) :
    (Machine.run (Pool.exec (executorHost config)) (ExecutorPool.initial now) events).Inv
      (submissionGuard (submitted events)) (attemptProtocol config (submitted events))
      (fun _ => .fresh) (executorDone config)
      (fun world phases => AttemptInv config (submitted events) world (phases.map Prod.snd)) := by
  refine Pool.inv_run (executor_keeps config (submitted events))
    ⟨fun call hcall => ?_, fun call hcall => ?_, ?_⟩
    (Pool.Guard.along_passes _ events (fun task htask verified hverified => ?_)
      fun _ _ _ _ _ _ => trivial)
  · exact absurd hcall List.not_mem_nil
  · exact absurd hcall List.not_mem_nil
  · exact AttemptInv.empty (fun _ => rfl) rfl
  · exact ⟨task, htask, hverified⟩

end BpEngine.FastLive
