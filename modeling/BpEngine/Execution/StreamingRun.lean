import BpEngine.Execution.BookRun
import BpEngine.Execution.StreamingBook
import BpEngine.Library.Machine

/-!
# What a reader of the streaming book sees

* `bookAfter` is the book of a token after complete messages, `AllOrNone` says of a message that it is
  applied as a whole or not at all.
* `changesFrom_of_valid` and `changesFrom_of_invalid` are the two ends of the loop over price changes;
  `StreamInv.step` is what a step keeps.
* `replay_agrees`: where the replay accepts the messages too, it has the same asks.
* `streaming_book` puts them together for every run of the threads.
-/

namespace BpEngine.StreamingBook

open PaperLedger (BookLevel setSize byPrice)
open BookReplay (changeSide writeLevel Anchor AppliedPayload ReplayedBook Replay)

/-! ## The book after complete messages -/

/-- The asks of a token after all changes of a message. -/
def changedAsks (token : String) : List Json → List BookLevel → Outcome (List BookLevel)
  | [], levels => .ok levels
  | .obj change :: rest, levels =>
    if tokenOf change = token ∧ changeSide change = some .sell then do
      let level ← readChange change
      changedAsks token rest (writeLevel levels level)
    else changedAsks token rest levels
  | _ :: rest, levels => changedAsks token rest levels

/-- The asks of a token after the price changes of a message. -/
def changedBook (token : String) (payload : Dict) (current : Option (List BookLevel)) :
    Option (List BookLevel) :=
  match payload.get "price_changes" with
  | .arr changes => current.bind fun levels => (changedAsks token changes levels).toOption
  | _ => current

/-- The asks of a token after one message. -/
def bookStep (token : String) (current : Option (List BookLevel)) :
    Json → Option (List BookLevel)
  | .obj payload =>
    if (Dict.get payload "event_type").textOrEmpty = "book" then
      if tokenOf payload = token then (readBook payload).toOption else current
    else if (Dict.get payload "event_type").textOrEmpty = "price_change" then
      changedBook token payload current
    else current
  | _ => current

/-- **The book of a token after complete messages**, if there is one. -/
def bookAfter (token : String) (messages : List Json) : Option (List BookLevel) :=
  messages.foldl (bookStep token) none

theorem bookAfter_append (token : String) (messages : List Json) (message : Json) :
    bookAfter token (messages ++ [message]) = bookStep token (bookAfter token messages) message := by
  rw [bookAfter, List.foldl_append]
  rfl

/-! ## Messages that are applied as a whole -/

/-- The changes that the cache makes. -/
def selected (cache : BookCache) : List Json → List Dict
  | [] => []
  | .obj change :: rest =>
    if selects cache change then change :: selected cache rest else selected cache rest
  | _ :: rest => selected cache rest

/-- The changes of a message. -/
def changesOf : Json → List Json
  | .obj payload =>
    if (Dict.get payload "event_type").textOrEmpty = "price_change" then
      BookReplay.entriesOf payload
    else []
  | _ => []

/-- The changes the cache makes are all valid, or the first of them is not. -/
def AllOrNone (cache : BookCache) (message : Json) : Prop :=
  (∀ change ∈ selected cache (changesOf message), (readChange change).isOk = true) ∨
    ∃ change ∈ (selected cache (changesOf message)).head?, (readChange change).isOk = false

instance (cache : BookCache) (message : Json) : Decidable (AllOrNone cache message) :=
  inferInstanceAs (Decidable (_ ∨ _))

theorem selects_iff {cache : BookCache} {change : Dict} :
    selects cache change = true ↔ tokenOf change ∈ cache.desired ∧
      tokenOf change ∈ cache.initialized ∧ changeSide change = some .sell := by
  simp [selects, and_assoc]

/-- Valid changes are all made, each to its own token. -/
theorem changesFrom_of_valid {cache : BookCache} {changes : List Json} (applied : Applied)
    (hvalid : ∀ change ∈ selected cache changes, (readChange change).isOk = true)
    (hopen : applied.failed = none) :
    (changesFrom cache changes applied).failed = none ∧
      ∀ token ∈ cache.initialized, token ∈ cache.desired →
        changedAsks token changes (applied.asks token) =
          .ok ((changesFrom cache changes applied).asks token) := by
  induction changes generalizing applied with
  | nil => exact ⟨hopen, fun _ _ _ => rfl⟩
  | cons entry rest ih =>
    cases entry with
    | obj change =>
      by_cases hselects : selects cache change = true
      · rw [selected, if_pos hselects] at hvalid
        obtain ⟨level, hlevel⟩ := exists_ok_of_isOk (hvalid change List.mem_cons_self)
        have hrest := fun other hother => hvalid other (List.mem_cons_of_mem change hother)
        rw [changesFrom, if_pos hselects, hlevel]
        dsimp only
        set next : Applied := { applied with
          asks := Function.update applied.asks (tokenOf change)
            (writeLevel (applied.asks (tokenOf change)) level)
          touched := tokenOf change :: applied.touched } with hnext
        obtain ⟨hfailed, hasks⟩ := ih next hrest hopen
        refine ⟨hfailed, fun token htoken hdesired => ?_⟩
        rw [← hasks token htoken hdesired, changedAsks]
        by_cases hown : tokenOf change = token
        · rw [if_pos ⟨hown, (selects_iff.mp hselects).2.2⟩, hlevel, ok_bind, hnext, hown]
          simp
        · rw [if_neg fun h => hown h.1, hnext]
          simp [Function.update_of_ne (Ne.symm hown)]
      · rw [selected, if_neg hselects] at hvalid
        rw [changesFrom, if_neg hselects]
        obtain ⟨hfailed, hasks⟩ := ih applied hvalid hopen
        refine ⟨hfailed, fun token htoken hdesired => ?_⟩
        rw [← hasks token htoken hdesired, changedAsks, if_neg]
        rintro ⟨rfl, hside⟩
        exact hselects (selects_iff.mpr ⟨hdesired, htoken, hside⟩)
    | _ => exact ih applied hvalid hopen

/-- A first change that is not valid leaves the dictionaries alone. -/
theorem changesFrom_of_invalid {cache : BookCache} {changes : List Json} (applied : Applied)
    {change : Dict} (hfirst : change ∈ (selected cache changes).head?)
    (hinvalid : (readChange change).isOk = false) :
    ∃ raised, changesFrom cache changes applied = { applied with failed := some raised } := by
  induction changes with
  | nil => cases hfirst
  | cons entry rest ih =>
    cases entry with
    | obj other =>
      by_cases hselects : selects cache other = true
      · rw [selected, if_pos hselects] at hfirst
        cases hfirst
        rw [changesFrom, if_pos hselects]
        cases hread : readChange change with
        | error raised => exact ⟨raised, rfl⟩
        | ok level =>
          rw [hread] at hinvalid
          cases hinvalid
      · rw [selected, if_neg hselects] at hfirst
        rw [changesFrom, if_neg hselects]
        exact ih hfirst
    | _ => exact ih hfirst

/-! ## What the cache shows -/

/-- The cache has the books after the messages. -/
structure Shows (cache : BookCache) (messages : List Json) : Prop where
  desired : ∀ token ∈ cache.initialized, token ∈ cache.desired
  shown : ∀ token ∈ cache.initialized, bookAfter token messages = some (cache.asks token)

/-- A message other than a full book of the token or a price change is nothing to it. -/
theorem bookStep_other {token : String} {current : Option (List BookLevel)} {payload : Dict}
    (hbook : (payload.get "event_type").textOrEmpty ≠ "book")
    (hchange : (payload.get "event_type").textOrEmpty ≠ "price_change") :
    bookStep token current (.obj payload) = current := by
  rw [bookStep, if_neg hbook, if_neg hchange]

theorem bookStep_book {token : String} {current : Option (List BookLevel)} {payload : Dict}
    (hbook : (payload.get "event_type").textOrEmpty = "book") :
    bookStep token current (.obj payload) =
      if tokenOf payload = token then (readBook payload).toOption else current := by
  rw [bookStep, if_pos hbook]

theorem bookStep_change {token : String} {current : Option (List BookLevel)} {payload : Dict}
    (hchange : (payload.get "event_type").textOrEmpty = "price_change") :
    bookStep token current (.obj payload) = changedBook token payload current := by
  rw [bookStep, if_neg (by rw [hchange]; decide), if_pos hchange]

/-- **A full book** is put in place as a whole, or not at all. -/
theorem Shows.replaceBook {cache after : BookCache} {messages : List Json} {payload : Dict} {now : ℚ}
    (h : Shows cache messages) (hbook : (payload.get "event_type").textOrEmpty = "book")
    (hafter : replaceBook payload now cache = .ok after) :
    Shows after (messages ++ [.obj payload]) := by
  obtain ⟨levels, hlevels, hafter⟩ := bind_eq_ok.mp hafter
  dsimp only at hafter
  split_ifs at hafter with hdesired
  · cases hafter
    refine ⟨fun token htoken => ?_, fun token htoken => ?_⟩
    · rcases List.mem_cons.mp htoken with rfl | htoken
      · exact hdesired
      · exact h.desired token htoken
    · rw [bookAfter_append, bookStep_book hbook]
      dsimp only at htoken ⊢
      by_cases hown : tokenOf payload = token
      · rw [if_pos hown, hlevels, hown, Function.update_self]
        rfl
      · have hother := (List.mem_cons.mp htoken).resolve_left (Ne.symm hown)
        rw [if_neg hown, Function.update_of_ne (Ne.symm hown), h.shown token hother]
  · cases hafter
    refine ⟨h.desired, fun token htoken => ?_⟩
    rw [bookAfter_append, bookStep_book hbook, if_neg, h.shown token htoken]
    rintro rfl
    exact hdesired (h.desired _ htoken)

/-- **Price changes** are made as a whole, or not at all. -/
theorem Shows.applyPriceChanges {cache : BookCache} {messages : List Json} {payload : Dict} {now : ℚ}
    (h : Shows cache messages)
    (hchange : (payload.get "event_type").textOrEmpty = "price_change")
    (hall : AllOrNone cache (.obj payload)) :
    ((applyPriceChanges payload now cache).2 = none ∧
        Shows (applyPriceChanges payload now cache).1 (messages ++ [.obj payload])) ∨
      (applyPriceChanges payload now cache).2.isSome = true ∧
        Shows (applyPriceChanges payload now cache).1 messages := by
  have hchanges : changesOf (.obj payload) = BookReplay.entriesOf payload := if_pos hchange
  unfold AllOrNone at hall
  rw [hchanges, BookReplay.entriesOf] at hall
  unfold StreamingBook.applyPriceChanges
  cases hentries : payload.get "price_changes" with
  | arr changes =>
    rw [hentries] at hall
    dsimp only at hall ⊢
    rcases hall with hvalid | ⟨change, hfirst, hinvalid⟩
    · left
      obtain ⟨hfailed, hasks⟩ := changesFrom_of_valid ⟨cache.asks, [], none⟩ hvalid rfl
      have hshown : ∀ token ∈ cache.initialized, bookAfter token (messages ++ [.obj payload]) =
          some ((changesFrom cache changes ⟨cache.asks, [], none⟩).asks token) := by
        intro token htoken
        rw [bookAfter_append, bookStep_change hchange, h.shown token htoken, changedBook, hentries]
        dsimp only [Option.bind]
        rw [hasks token htoken (h.desired token htoken)]
        rfl
      rw [hfailed]
      split_ifs
      · exact ⟨rfl, h.desired, hshown⟩
      · exact ⟨rfl, h.desired, hshown⟩
    · right
      obtain ⟨raised, hraised⟩ :=
        changesFrom_of_invalid ⟨cache.asks, [], none⟩ hfirst hinvalid
      rw [hraised]
      exact ⟨rfl, h.desired, h.shown⟩
  | _ =>
    left
    refine ⟨rfl, h.desired, fun token htoken => ?_⟩
    rw [bookAfter_append, bookStep_change hchange, changedBook, hentries]
    exact h.shown token htoken

/-- A message is handled as a whole, or not at all. -/
theorem Shows.handleMessage {cache : BookCache} {messages : List Json} {message : Json}
    (h : Shows cache messages) (hall : AllOrNone cache message) (now : ℚ) :
    ((handleMessage message now cache).2 = none ∧
        Shows (handleMessage message now cache).1 (messages ++ [message])) ∨
      (handleMessage message now cache).2.isSome = true ∧
        Shows (handleMessage message now cache).1 messages := by
  cases message with
  | obj payload =>
    unfold StreamingBook.handleMessage
    dsimp only
    by_cases hbook : (Dict.get payload "event_type").textOrEmpty = "book"
    · rw [if_pos hbook]
      cases hafter : StreamingBook.replaceBook payload now cache with
      | error raised => exact Or.inr ⟨rfl, h⟩
      | ok after => exact Or.inl ⟨rfl, h.replaceBook hbook hafter⟩
    · rw [if_neg hbook]
      by_cases hchange : (Dict.get payload "event_type").textOrEmpty = "price_change"
      · rw [if_pos hchange]
        exact h.applyPriceChanges hchange hall
      · rw [if_neg hchange]
        refine Or.inl ⟨rfl, h.desired, fun token htoken => ?_⟩
        rw [bookAfter_append, bookStep_other hbook hchange]
        exact h.shown token htoken
  | _ =>
    refine Or.inl ⟨rfl, h.desired, fun token htoken => ?_⟩
    rw [bookAfter_append]
    exact h.shown token htoken

/-! ## Runs -/

/-- The cache shows the books after complete messages: all of them, unless the connection has ended. -/
def StreamInv (stream : Stream) : Prop :=
  ∃ messages, messages <+: stream.received ∧
    (stream.phase ≠ .failed → messages = stream.received) ∧ Shows stream.cache messages

/-- A message is applied as a whole or not at all. -/
def Whole (stream : Stream) : StreamEvent → Prop
  | .message message _ => stream.phase = .connected → AllOrNone stream.cache message
  | _ => True

instance (stream : Stream) : ∀ event, Decidable (Whole stream event)
  | .message message _ =>
    inferInstanceAs (Decidable (stream.phase = .connected → AllOrNone stream.cache message))
  | .subscribe _ | .connected _ | .pong _ | .broken | .disconnected => isTrue trivial

theorem StreamInv.step (stream : Stream) (event : StreamEvent) (hinv : StreamInv stream)
    (hwhole : Whole stream event) : StreamInv (streamStep stream event) := by
  obtain ⟨messages, hprefix, hall, hshows⟩ := hinv
  cases event with
  | subscribe tokenIds =>
    exact ⟨messages, hprefix, hall,
      fun token htoken => List.mem_append_right _ (hshows.desired token htoken), hshows.shown⟩
  | connected now =>
    rw [streamStep]
    split_ifs with hphase
    · exact ⟨messages, hprefix, fun _ => hall (by rw [hphase]; decide), hshows.desired, hshows.shown⟩
    · exact ⟨messages, hprefix, hall, hshows⟩
  | message message now =>
    rw [streamStep]
    split_ifs with hphase
    · have hreceived : messages = stream.received := hall (by rw [hphase]; decide)
      subst hreceived
      rcases hshows.handleMessage (hwhole hphase) now with ⟨hnone, hafter⟩ | ⟨hsome, hafter⟩
      · exact ⟨_, List.prefix_rfl, fun _ => rfl, hafter⟩
      · refine ⟨_, List.prefix_append _ _, fun hphase => ?_, hafter⟩
        dsimp only at hphase
        rw [hsome] at hphase
        exact absurd rfl hphase
    · exact ⟨messages, hprefix, hall, hshows⟩
  | pong now =>
    rw [streamStep]
    split_ifs
    · exact ⟨messages, hprefix, hall, hshows.desired, hshows.shown⟩
    · exact ⟨messages, hprefix, hall, hshows⟩
  | broken =>
    rw [streamStep]
    split_ifs
    · exact ⟨messages, hprefix, hall, hshows⟩
    · exact ⟨messages, hprefix, fun hphase => absurd rfl hphase, hshows⟩
  | disconnected =>
    rw [streamStep]
    split_ifs
    · exact ⟨stream.received, List.prefix_rfl, fun _ => rfl, fun _ h => absurd h List.not_mem_nil,
        fun _ h => absurd h List.not_mem_nil⟩
    · exact ⟨messages, hprefix, hall, hshows⟩

theorem streamInv_run {events : List StreamEvent}
    (hrun : Machine.Along streamStep Whole {} events) : StreamInv (Machine.run streamStep {} events) :=
  Machine.run_invariant streamStep StreamInv.step
    ⟨[], List.prefix_rfl, fun _ => rfl, fun _ h => absurd h List.not_mem_nil,
      fun _ h => absurd h List.not_mem_nil⟩ hrun

/-! ## Agreement with the replay -/

/-- What both read of a number is the same. -/
theorem decimal_agrees {value : Json} {name other : String} {a b : Decimal}
    (ha : BookReplay.decimal value name = .ok a) (hb : decimal value other = .ok b) : a = b := by
  unfold BookReplay.decimal at ha
  unfold decimal at hb
  split at ha
  · cases ha
  · cases ha
  · cases hnumeral : decimalOfText value.text with
    | none =>
      rw [hnumeral] at ha
      cases ha
    | some numeral =>
      rw [hnumeral] at ha hb
      cases numeral with
      | finite number =>
        cases ha
        cases hb
        rfl
      | infinity negative => cases ha
      | nan => cases ha

theorem quote_agrees {entry : Dict} {what outOfRange : String} {a b : BookLevel}
    (ha : BookReplay.readPair (entry.get "price") (entry.get "size") = .ok a)
    (hb : readQuote entry what outOfRange = .ok b) : a = b := by
  obtain ⟨price, hprice, ha⟩ := bind_eq_ok.mp ha
  obtain ⟨size, hsize, ha⟩ := bind_eq_ok.mp ha
  cases ha
  obtain ⟨read, hread, hprice⟩ := bind_eq_ok.mp hprice
  obtain ⟨_, -, hprice⟩ := bind_eq_ok.mp hprice
  cases hprice
  obtain ⟨amount, hamount, hsize⟩ := bind_eq_ok.mp hsize
  obtain ⟨_, -, hsize⟩ := bind_eq_ok.mp hsize
  cases hsize
  obtain ⟨price, hprice, hb⟩ := bind_eq_ok.mp hb
  obtain ⟨size, hsize, hb⟩ := bind_eq_ok.mp hb
  obtain ⟨_, -, hb⟩ := bind_eq_ok.mp hb
  cases hb
  rw [decimal_agrees hread hprice, decimal_agrees hamount hsize]

/-- A full book both accept has the same asks: the replay rejects a price that comes twice. -/
theorem asks_agree {side : String} {items : List Json} {levels replayed streamed : List BookLevel}
    (hreplayed : BookReplay.levelsFrom side items levels = .ok replayed)
    (hstreamed : asksFrom items levels = .ok streamed) : replayed = streamed := by
  induction items generalizing levels with
  | nil =>
    cases hreplayed
    cases hstreamed
    rfl
  | cons entry rest ih =>
    cases entry with
    | obj level =>
      obtain ⟨read, hread, hreplayed⟩ := bind_eq_ok.mp hreplayed
      obtain ⟨_, hfresh, hreplayed⟩ := bind_eq_ok.mp hreplayed
      obtain ⟨quote, hquote, hstreamed⟩ := bind_eq_ok.mp hstreamed
      have hpair : BookReplay.readPair (Dict.get level "price") (Dict.get level "size") = .ok read := by
        unfold BookReplay.readLevel at hread
        dsimp only at hread
        split_ifs at hread
        · exact hread
        · cases hread
      have hsame := quote_agrees hpair hquote
      subst hsame
      have hset : setSize levels read = levels ++ [read] := by
        have hfresh := require_eq_ok.mp hfresh
        rw [BookReplay.hasPrice] at hfresh
        rw [setSize, hfresh]
        rfl
      rw [hset] at hstreamed
      exact ih hreplayed hstreamed
    | _ => cases hstreamed

/-- No asset id has blanks around it. -/
def PlainIds (payload : Dict) : Prop :=
  ∀ change : Dict, .obj change ∈ BookReplay.entriesOf payload →
    tokenOf change = (change.get "asset_id").textOrEmpty

/-- Price changes both accept leave the same asks. -/
theorem changes_agree {token : String} {changes : List Json} {sides : BookReplay.Sides}
    {used : Bool} {applied : BookReplay.Sides × Bool} {levels : List BookLevel}
    (hplain : ∀ change : Dict, .obj change ∈ changes →
      tokenOf change = (change.get "asset_id").textOrEmpty)
    (hreplayed : BookReplay.applyChangesFrom token changes sides used = .ok applied)
    (hstreamed : changedAsks token changes sides.asks = .ok levels) : applied.1.asks = levels := by
  induction changes generalizing sides used with
  | nil =>
    cases hreplayed
    cases hstreamed
    rfl
  | cons entry rest ih =>
    cases entry with
    | obj change =>
      have hrest := fun other hother => hplain other (List.mem_cons_of_mem _ hother)
      have hid := hplain change List.mem_cons_self
      rw [BookReplay.applyChangesFrom] at hreplayed
      rw [changedAsks] at hstreamed
      by_cases hconcerns : BookReplay.concerns token change = true
      · have htoken : tokenOf change = token := hid.trans (of_decide_eq_true hconcerns)
        rw [if_pos hconcerns] at hreplayed
        obtain ⟨read, hread, hreplayed⟩ := bind_eq_ok.mp hreplayed
        unfold BookReplay.readChange at hread
        split at hread
        · cases hread
        · next side hside =>
          obtain ⟨price, hprice, hread⟩ := bind_eq_ok.mp hread
          obtain ⟨size, hsize, hread⟩ := bind_eq_ok.mp hread
          cases hread
          cases side with
          | buy =>
            rw [if_neg (by rw [hside]; simp)] at hstreamed
            exact ih hrest hreplayed hstreamed
          | sell =>
            rw [if_pos ⟨htoken, hside⟩] at hstreamed
            obtain ⟨level, hlevel, hstreamed⟩ := bind_eq_ok.mp hstreamed
            have hpair : BookReplay.readPair (Dict.get change "price") (Dict.get change "size") =
                .ok ⟨price, size⟩ := by
              rw [BookReplay.readPair, hprice, ok_bind, hsize]
              rfl
            have hsame := quote_agrees hpair hlevel
            subst hsame
            exact ih hrest hreplayed hstreamed
      · have htoken : tokenOf change ≠ token := by
          intro htoken
          exact hconcerns (decide_eq_true (hid.symm.trans htoken))
        rw [if_neg hconcerns] at hreplayed
        rw [if_neg fun h => htoken h.1] at hstreamed
        exact ih hrest hreplayed hstreamed
    | _ => cases hreplayed

theorem textOrEmpty_of_isStr {value : Json} {s : String} (h : Json.isStr s value = true) :
    value.textOrEmpty = s := by
  cases value with
  | str text =>
    rw [Json.isStr_str, decide_eq_true_eq] at h
    rw [Json.textOrEmpty_str, h]
  | _ => cases h

theorem validateMarket_eventType {payload : Dict} {conditionId eventType : String} {u : Unit}
    (h : BookReplay.validateMarket payload conditionId eventType = .ok u) :
    (payload.get "event_type").textOrEmpty = eventType := by
  obtain ⟨_, htype, -⟩ := bind_eq_ok.mp h
  exact textOrEmpty_of_isStr (require_eq_ok.mp htype)

/-- The changes the replay takes are price changes, of which the stream makes the same asks. -/
theorem events_agree {conditionId token : String} {events : List AppliedPayload}
    {replay last : Replay} {current : Option (List BookLevel)} {levels : List BookLevel}
    (hplain : ∀ event ∈ events, PlainIds event.payload)
    (hreplayed : BookReplay.applyEvents conditionId token events replay = .ok last)
    (hstreamed : (events.map fun event => Json.obj event.payload).foldl (bookStep token) current =
      some levels) (hcurrent : ∀ asks ∈ current, replay.asks = asks) : last.asks = levels := by
  induction events generalizing replay current with
  | nil =>
    cases hreplayed
    exact hcurrent levels hstreamed
  | cons event rest ih =>
    have hrest := fun other hother => hplain other (List.mem_cons_of_mem event hother)
    obtain ⟨next, hnext, hreplayed⟩ := bind_eq_ok.mp hreplayed
    refine ih hrest hreplayed hstreamed fun asks hasks => ?_
    obtain ⟨_, -, hnext⟩ := bind_eq_ok.mp hnext
    obtain ⟨_, -, hnext⟩ := bind_eq_ok.mp hnext
    obtain ⟨_, -, hnext⟩ := bind_eq_ok.mp hnext
    obtain ⟨applied, happlied, hnext⟩ := bind_eq_ok.mp hnext
    cases hnext
    obtain ⟨_, hmarket, happlied⟩ := bind_eq_ok.mp happlied
    rw [bookStep_change (validateMarket_eventType hmarket)] at hasks
    split at happlied
    · next changes hchanges =>
      rw [changedBook, hchanges] at hasks
      obtain ⟨before, hbefore, hasks⟩ := Option.bind_eq_some_iff.mp hasks
      cases hcurrent before hbefore
      have hstreamed : changedAsks token changes replay.asks = .ok asks := by
        cases hchanged : changedAsks token changes replay.asks with
        | error raised =>
          rw [hchanged] at hasks
          cases hasks
        | ok result =>
          rw [hchanged] at hasks
          cases hasks
          rfl
      obtain ⟨result, hresult, happlied⟩ := bind_eq_ok.mp happlied
      have hentries : BookReplay.entriesOf event.payload = changes := by
        rw [BookReplay.entriesOf, hchanges]
      have hids := hplain event List.mem_cons_self
      rw [PlainIds, hentries] at hids
      have hsame := changes_agree hids hresult hstreamed
      split_ifs at happlied
      · obtain ⟨_, -, happlied⟩ := bind_eq_ok.mp happlied
        cases happlied
        exact hsame
      · cases happlied
        exact hsame
    · cases happlied

/-- **The replay agrees**: where it accepts a full book and the changes after it, its asks are those of
the stream. -/
theorem replay_agrees {conditionId token : String} {earlier : List Json} {anchor : Anchor}
    {events : List AppliedPayload} {cutoff : Timestamp} {book : ReplayedBook}
    {levels : List BookLevel} (htoken : strip token = token)
    (hplain : ∀ event ∈ events, PlainIds event.payload)
    (hreplayed : BookReplay.replayBookPayloads conditionId token anchor events cutoff = .ok book)
    (hstreamed : bookAfter token (earlier ++ .obj anchor.payload ::
      events.map fun event => .obj event.payload) = some levels) :
    display levels = book.asks.map fun level => ⟨level.price.formatF, level.size.formatF⟩ := by
  obtain ⟨start, hstart, hreplayed⟩ := bind_eq_ok.mp hreplayed
  obtain ⟨last, hlast, hreplayed⟩ := bind_eq_ok.mp hreplayed
  cases hreplayed
  have hinv := (BookReplay.startReplay_inv hstart).run hlast
  obtain ⟨_, -, hstart⟩ := bind_eq_ok.mp hstart
  obtain ⟨_, -, hstart⟩ := bind_eq_ok.mp hstart
  obtain ⟨_, hmarket, hstart⟩ := bind_eq_ok.mp hstart
  obtain ⟨asset, hasset, hstart⟩ := bind_eq_ok.mp hstart
  obtain ⟨_, hsame, hstart⟩ := bind_eq_ok.mp hstart
  obtain ⟨bids, -, hstart⟩ := bind_eq_ok.mp hstart
  obtain ⟨asks, hasks, hstart⟩ := bind_eq_ok.mp hstart
  obtain ⟨_, -, hstart⟩ := bind_eq_ok.mp hstart
  cases hstart
  have hown : tokenOf anchor.payload = token := by
    have hsame := require_eq_ok.mp hsame
    unfold BookReplay.text at hasset
    split at hasset
    · cases hasset
    · next text hne htext =>
      cases hasset
      rw [tokenOf, htext, Json.textOrEmpty_str, hsame, htoken]
    · cases hasset
  rw [bookAfter, List.foldl_append, List.foldl_cons, bookStep_book (validateMarket_eventType hmarket),
    if_pos hown] at hstreamed
  have hagree : last.asks = levels := by
    refine events_agree hplain hlast hstreamed fun shown hshown => ?_
    dsimp only
    unfold readBook at hshown
    unfold BookReplay.readLevels at hasks
    split at hasks
    · next items hitems =>
      rw [hitems] at hshown
      dsimp only at hshown
      split_ifs at hshown
      · cases hshown
      · cases hread : asksFrom items [] with
        | error raised =>
          rw [hread] at hshown
          cases hshown
        | ok streamed =>
          rw [hread] at hshown
          cases hshown
          exact asks_agree hasks hread
    · cases hasks
  have hpositive : (byPrice levels).filter (fun level => 0 < level.size) = byPrice levels := by
    refine List.filter_eq_self.mpr fun level hlevel => ?_
    rw [decide_eq_true_eq, Decimal.lt_iff, Decimal.toRat_zero]
    rw [← hagree] at hlevel
    exact hinv.sides.asks.positive level ((BookReplay.byPrice_perm _).mem_iff.mp hlevel)
  rw [display, hpositive, ← hagree]
  rfl

/-- **The streaming book.**  In every run of the threads in which each message is applied as a whole or
not at all, a snapshot is the book after complete messages: all that were received, unless the
connection has ended.  Where the replay accepts them, with asset ids without blanks around them, the
snapshot shows the asks of the replay. -/
theorem streaming_book (config : CacheConfig) {events : List StreamEvent}
    (hrun : Machine.Along streamStep Whole {} events) (tokenId : String) (now : ℚ)
    (shown : List BookLevel)
    (hshown : snapshot config (Machine.run streamStep {} events).cache tokenId now = some shown) :
    ∃ messages levels, messages <+: (Machine.run streamStep {} events).received ∧
      ((Machine.run streamStep {} events).phase ≠ .failed →
        messages = (Machine.run streamStep {} events).received) ∧
      bookAfter (strip tokenId) messages = some levels ∧ shown = display levels ∧
      ∀ conditionId earlier (anchor : Anchor) (applied : List AppliedPayload) cutoff book,
        messages = earlier ++ .obj anchor.payload :: (applied.map fun event => .obj event.payload) →
        (∀ event ∈ applied, PlainIds event.payload) →
        BookReplay.replayBookPayloads conditionId (strip tokenId) anchor applied cutoff = .ok book →
        shown = book.asks.map fun level => ⟨level.price.formatF, level.size.formatF⟩ := by
  obtain ⟨messages, hprefix, hall, hshows⟩ := streamInv_run hrun
  unfold snapshot at hshown
  dsimp only at hshown
  split at hshown
  · cases hshown
  · split_ifs at hshown with hhealthy
    cases hshown
    have hbook := hshows.shown (strip tokenId) hhealthy.2.1
    refine ⟨messages, _, hprefix, hall, hbook, rfl, ?_⟩
    intro conditionId earlier anchor applied cutoff book hmessages hplain hreplayed
    rw [hmessages] at hbook
    exact replay_agrees (strip_strip tokenId) hplain hreplayed hbook

/-- Ten shares offered at `0.5`. -/
def tenAtHalf : Anchor :=
  ⟨1, "00000000000000000000000000000000000000000000000000000000000000aa",
    [("event_type", .str "book"), ("market", .str "c"), ("asset_id", .str "t"), ("bids", .arr []),
      ("asks", .arr [.obj [("price", .str "0.5"), ("size", .str "10")]])]⟩

/-- A change of one ask. -/
def askChange (asset price size : String) : Json :=
  .obj [("asset_id", .str asset), ("side", .str "SELL"), ("price", .str price), ("size", .str size)]

/-- A message of changes. -/
def changeMessage (changes : List Json) : AppliedPayload :=
  ⟨2, "00000000000000000000000000000000000000000000000000000000000000aa",
    [("event_type", .str "price_change"), ("market", .str "c"), ("price_changes", .arr changes)]⟩

/-- The full book and one message of changes, on a fresh connection. -/
def twoMessages (changes : List Json) : List StreamEvent :=
  [.subscribe ["t"], .connected 0, .message (.obj tenAtHalf.payload) 0,
    .message (.obj (changeMessage changes).payload) (1 / 10)]

theorem streaming_book_at_two_messages :
    ∃ messages levels,
      messages <+: (Machine.run streamStep {} (twoMessages [askChange "t" "0.5" "7"])).received ∧
        bookAfter "t" messages = some levels ∧ [⟨⟨5, -1⟩, ⟨7, 0⟩⟩] = display levels := by
  have hstrip : strip "t" = "t" := by decide +kernel
  have hrun : Machine.Along streamStep Whole {} (twoMessages [askChange "t" "0.5" "7"]) := by
    decide +kernel
  obtain ⟨messages, levels, hprefix, -, hbook, hshown, -⟩ :=
    streaming_book {} hrun "t" (1 / 10) [⟨⟨5, -1⟩, ⟨7, 0⟩⟩] (by decide +kernel)
  rw [hstrip] at hbook
  exact ⟨messages, levels, hprefix, hbook, hshown⟩

/-- A message whose second change is invalid leaves its first change in the book that readers see, and
that book is not the one after any complete messages.  And a change of `" t"` is one of `"t"` to the
stream and not to the replay. -/
theorem half_applied_seen :
    (∃ shown, snapshot {} (Machine.run streamStep {}
        (twoMessages [askChange "t" "0.5" "7", askChange "t" "2" "1"])).cache "t" (1 / 10) =
          some shown ∧
      ∀ messages ∈ (Machine.run streamStep {}
          (twoMessages [askChange "t" "0.5" "7", askChange "t" "2" "1"])).received.inits,
        (bookAfter "t" messages).map display ≠ some shown) ∧
    ∃ book, BookReplay.replayBookPayloads "c" "t" tenAtHalf [changeMessage [askChange " t" "0.5" "7"]] 0 =
        .ok book ∧
      snapshot {} (Machine.run streamStep {} (twoMessages [askChange " t" "0.5" "7"])).cache "t" (1 / 10) =
        some [⟨⟨5, -1⟩, ⟨7, 0⟩⟩] ∧
      book.asks = [⟨⟨5, -1⟩, ⟨10, 0⟩⟩] :=
  ⟨⟨[⟨⟨5, -1⟩, ⟨7, 0⟩⟩], by decide +kernel, by decide +kernel⟩, _, rfl, by decide +kernel,
    by decide +kernel⟩

end BpEngine.StreamingBook
