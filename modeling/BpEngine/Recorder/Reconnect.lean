import BpEngine.Recorder.Subscription

/-!
# What a connection is opened with

* `Retains` is the invariant of the runner: its subscription has every message it took from the queue,
  except the one its outbound task holds.
* `Follows` is the one of the updater: with the messages of the queue the initial assets are those the
  coordinator follows.
* `opened_with_controls` is what they say of a connection.
-/

namespace BpEngine.Recorder

open Machine

/-! ## The coordinator and its messages -/

/-- The tokens of the market have ids. -/
def MarketTokens.named (market : MarketTokens) : Bool :=
  market.upTokenId ≠ "" && market.downTokenId ≠ ""

/-- The tokens known to the coordinator have ids. -/
def Named (tokenExpiry : List (String × Timestamp)) : Prop := ∀ entry ∈ tokenExpiry, entry.1 ≠ ""

theorem extendExpiry_named {tokenExpiry : List (String × Timestamp)} (hnamed : Named tokenExpiry)
    {tokenId : String} (htoken : tokenId ≠ "") (expiry : Timestamp) :
    Named (extendExpiry expiry tokenExpiry tokenId) := by
  unfold extendExpiry
  split
  · intro entry hentry
    rcases List.mem_append.mp hentry with hold | hnew
    · exact hnamed entry hold
    · rw [List.mem_singleton.mp hnew]
      exact htoken
  · split_ifs
    · intro entry hentry
      obtain ⟨known, hknown, rfl⟩ := List.mem_map.mp hentry
      split_ifs
      · exact htoken
      · exact hnamed known hknown
    · exact hnamed

theorem noteMarket_named {tokenExpiry : List (String × Timestamp)} (hnamed : Named tokenExpiry)
    {market : MarketTokens} (hmarket : market.named = true) (grace : ℤ) (now : Timestamp) :
    Named (noteMarket grace now tokenExpiry market) := by
  obtain ⟨hup, hdown⟩ : market.upTokenId ≠ "" ∧ market.downTokenId ≠ "" := by
    simpa [MarketTokens.named] using hmarket
  unfold noteMarket
  dsimp only
  split_ifs
  · exact hnamed
  · exact extendExpiry_named (extendExpiry_named hnamed hup _) hdown _

theorem foldl_noteMarket_named {markets : List MarketTokens}
    (hmarkets : ∀ market ∈ markets, market.named = true) (grace : ℤ) (now : Timestamp)
    {tokenExpiry : List (String × Timestamp)} (hnamed : Named tokenExpiry) :
    Named (markets.foldl (noteMarket grace now) tokenExpiry) := by
  induction markets generalizing tokenExpiry with
  | nil => exact hnamed
  | cons market markets ih =>
    exact ih (fun other hother => hmarkets other (List.mem_cons_of_mem _ hother))
      (noteMarket_named hnamed (hmarkets market List.mem_cons_self) grace now)

/-- What a refresh says of named markets. -/
theorem refresh_spec {coordinator : Coordinator} {markets : List MarketTokens}
    (hnamed : Named coordinator.tokenExpiry) (hmarkets : ∀ market ∈ markets, market.named = true)
    (now : Timestamp) {diff : SubscriptionDiff} {next : Coordinator}
    (hrefresh : coordinator.refresh now markets = (diff, next)) :
    Named next.tokenExpiry ∧ "" ∉ next.current ∧ diff.current = next.current ∧
      diff.added = next.current \ coordinator.current ∧
      diff.removed = coordinator.current \ next.current := by
  cases hrefresh
  have hkept : Named ((markets.foldl (noteMarket coordinator.grace now)
      coordinator.tokenExpiry).filter fun entry => now ≤ entry.2) := by
    intro entry hentry
    exact foldl_noteMarket_named hmarkets _ now hnamed entry (List.mem_of_mem_filter hentry)
  refine ⟨hkept, fun hempty => ?_, rfl, rfl, rfl⟩
  obtain ⟨entry, hentry, hname⟩ := List.mem_map.mp (List.mem_toFinset.mp hempty)
  exact hkept entry hentry hname

theorem filter_named {assets : Finset String} (hassets : "" ∉ assets) :
    assets.filter (· ≠ "") = assets := by
  refine Finset.filter_true_of_mem fun asset hasset hempty => hassets ?_
  rwa [← hempty]

/-- The updater does not raise on ids that are not empty. -/
theorem controlMessages_named (message : Finset String → Update) {assets : Finset String}
    (hassets : "" ∉ assets) :
    controlMessages message assets = some (if assets = ∅ then [] else [message assets]) := by
  unfold controlMessages assetIds
  rw [filter_named hassets]
  by_cases hempty : assets = ∅
  · rw [if_pos hempty, if_pos hempty]
  · rw [if_neg hempty, if_neg hempty]
    simp [hempty]

/-- A message about no assets is left out, and would do nothing. -/
theorem foldl_subscribe {assets added : Finset String} (hassets : "" ∉ assets) (hadded : "" ∉ added) :
    (if added = ∅ then [] else [Update.subscribe added]).foldl applyUpdate assets =
      assets ∪ added := by
  split_ifs with hempty
  · rw [hempty, Finset.union_empty]
    rfl
  · rw [List.foldl_cons, List.foldl_nil, applyUpdate, filter_named hassets, filter_named hadded]

theorem foldl_unsubscribe {assets removed : Finset String} (hassets : "" ∉ assets)
    (hremoved : "" ∉ removed) :
    (if removed = ∅ then [] else [Update.unsubscribe removed]).foldl applyUpdate assets =
      assets \ removed := by
  split_ifs with hempty
  · rw [hempty, Finset.sdiff_empty]
    rfl
  · rw [List.foldl_cons, List.foldl_nil, applyUpdate, filter_named hassets, filter_named hremoved]

/-- The messages about a difference turn one set into the other. -/
theorem foldl_controlMessages {assets next : Finset String} (hassets : "" ∉ assets)
    (hnext : "" ∉ next) :
    ((if next \ assets = ∅ then [] else [Update.subscribe (next \ assets)]) ++
      if assets \ next = ∅ then [] else [Update.unsubscribe (assets \ next)]).foldl applyUpdate
        assets = next := by
  have hadded : "" ∉ next \ assets := fun h => hnext (Finset.mem_sdiff.mp h).1
  have hremoved : "" ∉ assets \ next := fun h => hassets (Finset.mem_sdiff.mp h).1
  have hunion : "" ∉ assets ∪ next \ assets := by
    rw [Finset.mem_union]
    exact not_or.mpr ⟨hassets, hadded⟩
  rw [List.foldl_append, foldl_subscribe hassets hadded, foldl_unsubscribe hunion hremoved]
  ext asset
  simp only [Finset.mem_sdiff, Finset.mem_union]
  tauto

/-! ## The updater -/

/-- With the messages that are taken or queued, the initial assets are the ones followed now. -/
structure Follows (initial : Finset String) (feed : Feed) : Prop where
  named : Named feed.coordinator.tokenExpiry
  current : "" ∉ feed.coordinator.current
  follows : (feed.taken ++ feed.queue).foldl applyUpdate initial = feed.coordinator.current

/-- The action discovers markets whose tokens have ids, if any. -/
def FeedAction.named : FeedAction → Bool
  | .refreshes _ markets => markets.all MarketTokens.named
  | _ => true

/-! ## The runner -/

/-- The message that the outbound task holds and the runner has not looked at. -/
def Connection.held : Connection → List Update
  | .waiting got => got.toList
  | .handling false got => got.toList
  | _ => []

/-- The subscription has the messages that were taken, but for the one that is held. -/
def Retains (initial : Finset String) (feed : Feed) : Prop :=
  feed.connection ≠ .returned →
    ∃ looked, feed.taken = looked ++ feed.connection.held ∧
      feed.subscription = looked.foldl applyUpdate initial

/-- The connection ends by an exception while its outbound task holds a message that the runner has
not looked at. -/
def losesControl (feed : Feed) (action : FeedAction) : Bool :=
  match feed.connection, action with
  | .handling false (some _), .fails => !feed.stop
  | _, _ => false

namespace Feed

variable {initial : Finset String} {feed : Feed}

theorem update_follows (hfollows : Follows initial feed) {markets : List MarketTokens}
    (hmarkets : ∀ market ∈ markets, market.named = true) (now : Timestamp) :
    Follows initial (feed.update now markets) := by
  unfold update
  cases hrefresh : feed.coordinator.refresh now markets with
  | mk diff next =>
    obtain ⟨hnamed, hcurrent, -, hadd, hremove⟩ := refresh_spec hfollows.named hmarkets now hrefresh
    have hadded : "" ∉ diff.added := by
      rw [hadd]
      exact fun h => hcurrent (Finset.mem_sdiff.mp h).1
    have hremoved : "" ∉ diff.removed := by
      rw [hremove]
      exact fun h => hfollows.current (Finset.mem_sdiff.mp h).1
    simp only [controlMessages_named _ hadded, controlMessages_named _ hremoved]
    refine ⟨hnamed, hcurrent, ?_⟩
    rw [List.append_assoc, ← List.append_assoc, List.foldl_append, hfollows.follows, hadd, hremove]
    exact foldl_controlMessages hfollows.current hcurrent

theorem take_follows (hfollows : Follows initial feed) (connection : Option Update → Connection) :
    Follows initial (feed.take connection) := by
  unfold take
  split
  · exact hfollows
  · next message queue hqueue =>
    refine ⟨hfollows.named, hfollows.current, ?_⟩
    rw [List.append_assoc, List.singleton_append, ← hqueue]
    exact hfollows.follows

/-- **What one action can do.** -/
inductive Stepped (feed : Feed) : FeedAction → Feed → Prop
  | stays (action : FeedAction) : Stepped feed action feed
  | stops : Stepped feed .setStop { feed with stop := true }
  | refreshes (now : Timestamp) (markets : List MarketTokens) :
    Stepped feed (.refreshes now markets) (feed.update now markets)
  | connects (hat : feed.connection = .down) :
    Stepped feed .connects
      { feed with connection := .opening, opened := feed.opened ++ [feed.subscription] }
  | subscribed (hat : feed.connection = .opening) :
    Stepped feed .subscribed { feed with connection := .waiting none }
  | takes (hat : feed.connection = .waiting none) : Stepped feed .takes (feed.take .waiting)
  | takesMeanwhile (hat : feed.connection = .handling false none) :
    Stepped feed .takes (feed.take (.handling false))
  | wakes (got : Option Update) (hat : feed.connection = .waiting got) (stopSeen received : Bool) :
    Stepped feed (.wakes stopSeen received) (feed.wake got)
  | sends (got : Option Update) (hat : feed.connection = .handling true got) :
    Stepped feed .finishes { feed with connection := .waiting none }
  | finishes (got : Option Update) (hat : feed.connection = .handling false got) :
    Stepped feed .finishes { feed with connection := .waiting got }
  | closes (hat : feed.connection = .opening ∨ ∃ ready got, feed.connection = .handling ready got) :
    Stepped feed .fails feed.close
  | returns (action : FeedAction) : Stepped feed action { feed with connection := .returned }

theorem exec_stepped (feed : Feed) (action : FeedAction) : Stepped feed action (feed.exec action) := by
  unfold exec
  split
  · exact .stops
  · split_ifs
    · exact .refreshes _ _
    · exact .stays _
  · next hat => exact .connects hat
  · next hat => exact .subscribed hat
  · next hat => exact .takes hat
  · next hat => exact .takesMeanwhile hat
  · next hat =>
    split_ifs
    · exact .returns _
    · exact .wakes _ hat _ _
  · next hat => exact .sends _ hat
  · next hat => exact .finishes _ hat
  · next hat => exact .closes (.inl hat)
  · next hat => exact .closes (.inr ⟨_, _, hat⟩)
  · exact .returns _
  · exact .stays _

theorem exec_follows (hfollows : Follows initial feed) {action : FeedAction}
    (hnamed : action.named = true) : Follows initial (feed.exec action) := by
  have hsame : ∀ next : Feed, next.coordinator = feed.coordinator → next.taken = feed.taken →
      next.queue = feed.queue → Follows initial next := by
    rintro next hcoordinator htaken hqueue
    refine ⟨?_, ?_, ?_⟩
    · rw [hcoordinator]
      exact hfollows.named
    · rw [hcoordinator]
      exact hfollows.current
    · rw [htaken, hqueue, hcoordinator]
      exact hfollows.follows
  have hstep := exec_stepped feed action
  generalize feed.exec action = next at hstep ⊢
  cases hstep with
  | refreshes now markets => exact update_follows hfollows (List.all_eq_true.mp hnamed) now
  | takes hat => exact take_follows hfollows _
  | takesMeanwhile hat => exact take_follows hfollows _
  | wakes got hat stopSeen received => cases got <;> exact hsame _ rfl rfl rfl
  | _ => exact hsame _ rfl rfl rfl

/-- A message that is taken is held. -/
theorem take_retains (hretains : Retains initial feed) {connection : Option Update → Connection}
    (hnone : feed.connection.held = []) (hreturned : feed.connection ≠ .returned)
    (hconnection : ∀ got, (connection got).held = got.toList) :
    Retains initial (feed.take connection) := by
  unfold take
  split
  · exact hretains
  · next message queue hqueue =>
    obtain ⟨looked, htaken, hsubscription⟩ := hretains hreturned
    refine fun _ => ⟨looked, ?_, hsubscription⟩
    rw [hnone, List.append_nil] at htaken
    rw [hconnection, htaken]
    rfl

theorem update_fields (feed : Feed) (now : Timestamp) (markets : List MarketTokens) :
    (feed.update now markets).connection = feed.connection ∧
      (feed.update now markets).taken = feed.taken ∧
      (feed.update now markets).subscription = feed.subscription := by
  unfold update
  dsimp only
  split
  · exact ⟨rfl, rfl, rfl⟩
  · split <;> exact ⟨rfl, rfl, rfl⟩

/-- The runner keeps what it took, unless its connection ends with a message that it holds. -/
theorem exec_retains (hretains : Retains initial feed) {action : FeedAction}
    (hkeeps : losesControl feed action = false) : Retains initial (feed.exec action) := by
  have hmoved : ∀ next : Feed, feed.connection ≠ .returned → next.taken = feed.taken →
      next.subscription = feed.subscription → next.connection.held = feed.connection.held →
      Retains initial next := by
    intro next hreturned htaken hsubscription hheld
    obtain ⟨looked, hlooked, hassets⟩ := hretains hreturned
    exact fun _ => ⟨looked, by rw [htaken, hlooked, hheld], by rw [hsubscription, hassets]⟩
  have hstep := exec_stepped feed action
  generalize feed.exec action = next at hstep ⊢
  cases hstep with
  | stays action => exact hretains
  | stops => exact hretains
  | refreshes now markets =>
    obtain ⟨hconnection, htaken, hsubscription⟩ := update_fields feed now markets
    unfold Retains
    rw [hconnection, htaken, hsubscription]
    exact hretains
  | connects hat => exact hmoved _ (by simp [hat]) rfl rfl (by rw [hat]; rfl)
  | subscribed hat => exact hmoved _ (by simp [hat]) rfl rfl (by rw [hat]; rfl)
  | takes hat => exact take_retains hretains (by rw [hat]; rfl) (by simp [hat]) fun _ => rfl
  | takesMeanwhile hat => exact take_retains hretains (by rw [hat]; rfl) (by simp [hat]) fun _ => rfl
  | wakes got hat stopSeen received =>
    cases got with
    | none => exact hmoved _ (by simp [hat]) rfl rfl (by rw [hat]; rfl)
    | some message =>
      -- what the runner looks at is retained before anything can fail
      obtain ⟨looked, hlooked, hassets⟩ := hretains (by simp [hat])
      refine fun _ => ⟨looked ++ [message], ?_, ?_⟩
      · rw [hat] at hlooked
        exact hlooked.trans (List.append_nil _).symm
      · rw [List.foldl_append, ← hassets]
        rfl
  | sends got hat => exact hmoved _ (by simp [hat]) rfl rfl (by rw [hat]; rfl)
  | finishes got hat => exact hmoved _ (by simp [hat]) rfl rfl (by rw [hat]; rfl)
  | closes hat =>
    by_cases hstop : feed.stop = true
    · exact fun hreturned => absurd (by simp [close, hstop]) hreturned
    · have hnone : feed.connection.held = [] := by
        rcases hat with hat | ⟨ready, got, hat⟩
        · rw [hat]
          rfl
        · rw [hat]
          cases ready with
          | true => rfl
          | false =>
            cases got with
            | none => rfl
            | some message => simp [losesControl, hat, hstop] at hkeeps
      have hreturned : feed.connection ≠ .returned := by
        rcases hat with hat | ⟨ready, got, hat⟩ <;> simp [hat]
      refine hmoved _ hreturned rfl rfl ?_
      rw [hnone]
      simp [close, hstop, Connection.held]
  | returns action => exact fun hreturned => absurd rfl hreturned

/-! ## Runs -/

theorem run_retains (hretains : Retains initial feed) {actions : List FeedAction}
    (hkeeps : Along exec (fun feed action => losesControl feed action = false) feed actions) :
    Retains initial (run exec feed actions) :=
  run_invariant exec (J := Retains initial) (fun _ _ h hkeeps => exec_retains h hkeeps) hretains
    hkeeps

theorem run_follows (hfollows : Follows initial feed) {actions : List FeedAction}
    (hnamed : ∀ action ∈ actions, action.named = true) : Follows initial (run exec feed actions) :=
  run_invariant exec (J := Follows initial) (fun _ _ h hnamed => exec_follows h hnamed) hfollows
    (along_of_forall exec hnamed feed)

/-- A feed starts with the assets of its coordinator. -/
theorem openFeed_spec {grace : ℤ} {now : Timestamp} {markets : List MarketTokens}
    (hopen : openFeed grace now markets = some feed) :
    Retains feed.subscription feed ∧
      ((∀ market ∈ markets, market.named = true) → Follows feed.subscription feed) := by
  unfold openFeed at hopen
  cases hrefresh : Coordinator.refresh { grace } now markets with
  | mk diff next =>
    rw [hrefresh] at hopen
    obtain ⟨subscription, hids, rfl⟩ := Option.map_eq_some_iff.mp hopen
    refine ⟨fun _ => ⟨[], rfl, rfl⟩, fun hmarkets => ?_⟩
    obtain ⟨hnamed, hcurrent, hdiff, -, -⟩ :=
      @refresh_spec { grace } markets (fun _ h => absurd h List.not_mem_nil) hmarkets now diff next
        hrefresh
    refine ⟨hnamed, hcurrent, ?_⟩
    unfold assetIds at hids
    rw [hdiff, filter_named hcurrent] at hids
    have hsome : (if next.current = ∅ then none else some next.current) = some subscription := hids
    split_ifs at hsome
    exact (Option.some.inj hsome).symm

end Feed

/-- **What a connection is opened with**, when no connection ends by an exception while its outbound
task holds a message that the runner has not looked at: the initial assets with every message taken
from the queue applied in order, and so the assets the coordinator follows once the queue is empty. -/
theorem opened_with_controls {grace : ℤ} {now : Timestamp} {markets : List MarketTokens} {feed : Feed}
    (hopen : openFeed grace now markets = some feed) {actions : List FeedAction}
    (hkeeps : Along Feed.exec (fun feed action => losesControl feed action = false) feed actions) :
    let last := run Feed.exec feed actions
    last.connection = .down →
      (last.exec .connects).opened =
          last.opened ++ [last.taken.foldl applyUpdate feed.subscription] ∧
        ((∀ market ∈ markets, market.named = true) → (∀ action ∈ actions, action.named = true) →
          last.queue = [] →
          (last.exec .connects).opened = last.opened ++ [last.coordinator.current]) := by
  intro last hdown
  obtain ⟨hretains, hfollows⟩ := Feed.openFeed_spec hopen
  have hsends : (last.exec .connects).opened = last.opened ++ [last.subscription] := by
    unfold Feed.exec
    rw [hdown]
  have hsubscription : last.subscription = last.taken.foldl applyUpdate feed.subscription := by
    obtain ⟨looked, htaken, hlooked⟩ := Feed.run_retains hretains hkeeps (by simp [last, hdown])
    rw [show last.connection.held = [] by rw [hdown]; rfl, List.append_nil] at htaken
    rw [htaken, hlooked]
  refine ⟨by rw [hsends, hsubscription], fun hmarkets hnamed hqueue => ?_⟩
  have hcurrent := (Feed.run_follows (hfollows hmarkets) hnamed).follows
  rw [show (run Feed.exec feed actions).queue = [] from hqueue, List.append_nil] at hcurrent
  rw [hsends, hsubscription, hcurrent]

/-! ### A control message and a failing frame -/

/-- A market of five minutes that ends at an instant, with the tokens of its sides. -/
def sampleMarket (windowEndAt : Timestamp) (upTokenId downTokenId : String) : MarketTokens where
  active := true
  windowEndAt
  upTokenId
  downTokenId

/-- The feed after its first discovery. -/
def sampleFeed : Feed where
  coordinator :=
    { grace := 30000000
      tokenExpiry := [("11", 330000000), ("12", 330000000)]
      current := ["11", "12"].toFinset }
  subscription := ["11", "12"].toFinset

theorem openFeed_sample :
    openFeed 30000000 0 [sampleMarket 300000000 "11" "12"] = some sampleFeed := by rfl

/-- The message about the next market is among what is done when the frame fails. -/
def controlReady : List FeedAction :=
  [.connects, .subscribed, .refreshes 240000000 [sampleMarket 600000000 "21" "22"], .takes,
    .wakes false true, .fails]

/-- The outbound task takes the message while the frame is processed, and then the frame fails. -/
def controlMeanwhile : List FeedAction :=
  [.connects, .subscribed, .wakes false true,
    .refreshes 240000000 [sampleMarket 600000000 "21" "22"], .takes, .fails]

theorem opened_with_controls_sample :
    ((run Feed.exec sampleFeed controlReady).exec .connects).opened =
      [["11", "12"].toFinset, ["11", "12", "21", "22"].toFinset] :=
  (@opened_with_controls _ _ _ _ openFeed_sample controlReady (by decide +kernel) (by rfl)).1.trans
    (by decide +kernel)

/-- A connection is opened without a message that was taken from the queue. -/
theorem not_opened_with_controls :
    ¬ ∀ (grace : ℤ) (now : Timestamp) (markets : List MarketTokens) (feed : Feed)
      (actions : List FeedAction), openFeed grace now markets = some feed →
      (run Feed.exec feed actions).connection = .down →
      ((run Feed.exec feed actions).exec .connects).opened =
        (run Feed.exec feed actions).opened ++
          [(run Feed.exec feed actions).taken.foldl applyUpdate feed.subscription] := by
  intro h
  exact absurd (h _ _ _ _ controlMeanwhile openFeed_sample (by rfl)) (by decide +kernel)

end BpEngine.Recorder
