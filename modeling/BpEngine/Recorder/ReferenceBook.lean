import BpEngine.Recorder.Rejection

/-!
# The book under numeric prices

A book message names its prices by texts, and the reducer stores a level under the text it was sent
with.  The reference book stores it under the number.

* `RefBook` is the reference: under each price the size sent last, nothing after a size of zero.
* `Represents` says that a side of the reducer's book is a side of the reference.
* `OneNotation` is the condition on a message: no price stays in the book in another notation than the
  one its value was sent in last.  `represents_apply`: such a message keeps `Represents`.
* `best_extreme`, `sideReport_of_represents`: the best price and the depth that are computed from a
  side are those of the reference.
* `reducer_reports_reference`: after a run of accepted messages the market reports the reference book.
-/

namespace BpEngine.Recorder

open BpEngine.Storage (RawEvent)

/-! ## The reference -/

/-- The number a price stands for. -/
def priceOf (text : String) : Option ℚ :=
  match decimalOfText text with
  | some (.finite value) => some value.toRat
  | _ => none

/-- The size a level leaves under its price. -/
def shownSize (level : String × String) : Option String :=
  if isShown level then some level.2 else none

/-- A side under numeric prices. -/
abbrev RefSide := ℚ → Option String

/-- The last size sent replaces the one before; zero removes it. -/
def RefSide.apply (side : RefSide) (level : String × String) : RefSide :=
  match priceOf level.1 with
  | none => side
  | some price => Function.update side price (shownSize level)

/-- The levels of a message, in the order they were sent in. -/
def RefSide.applyAll (side : RefSide) (sent : List (String × String)) : RefSide :=
  sent.foldl RefSide.apply side

/-- A book under numeric prices. -/
structure RefBook where
  bids : RefSide
  asks : RefSide

def RefBook.empty : RefBook := ⟨fun _ => none, fun _ => none⟩

/-- The levels of a message. -/
def sentLevels : Json → List (String × String)
  | .arr items => items.filterMap levelOf
  | _ => []

theorem levels_eq (payload : Json) : levels payload = OrderedDict.ofPairs (sentLevels payload) := by
  cases payload <;> rfl

/-- A snapshot replaces the book, a delta changes its levels. -/
def RefBook.receive (book : RefBook) (event : RawEvent) : RefBook :=
  match event.payload.get "data" with
  | .obj data =>
    let start := if event.eventType = "orderbook_snapshot" then RefBook.empty else book
    ⟨start.bids.applyAll (sentLevels (Dict.get data "b")),
      start.asks.applyAll (sentLevels (Dict.get data "a"))⟩
  | _ => book

/-- The reference book of a market after the messages. -/
def reference (events : List RawEvent) (key : String) : RefBook :=
  (events.filter fun event => stateKey event none = key).foldl RefBook.receive RefBook.empty

theorem reference_append (events : List RawEvent) (event : RawEvent) (key : String) :
    reference (events ++ [event]) key =
      if stateKey event none = key then (reference events key).receive event
      else reference events key := by
  unfold reference
  rw [List.filter_append, List.foldl_append]
  by_cases h : stateKey event none = key
  · rw [if_pos h, List.filter_cons_of_pos (by simpa using h)]
    rfl
  · rw [if_neg h, List.filter_cons_of_neg (by simpa using h)]
    rfl

/-- The last level of a message at a price. -/
def lastLevel (sent : List (String × String)) (price : ℚ) : Option (String × String) :=
  sent.reverse.find? fun level => priceOf level.1 = some price

theorem RefSide.applyAll_eq (side : RefSide) (sent : List (String × String)) (price : ℚ) :
    side.applyAll sent price =
      match lastLevel sent price with
      | some level => shownSize level
      | none => side price := by
  unfold RefSide.applyAll lastLevel
  induction sent generalizing side with
  | nil => rfl
  | cons level sent ih =>
    rw [List.foldl_cons, ih, List.reverse_cons, List.find?_append]
    cases sent.reverse.find? fun level => priceOf level.1 = some price with
    | some last => rfl
    | none =>
      unfold RefSide.apply
      by_cases h : priceOf level.1 = some price
      · simp [h]
      · cases hprice : priceOf level.1 with
        | none => simp [hprice]
        | some other =>
          have hne : price ≠ other := by
            rintro rfl
            exact h hprice
          simp [hprice, Function.update_of_ne hne, Ne.symm hne]

/-! ## The condition -/

/-- The text is a price of the side after the levels. -/
def Stays (side : Levels) (sent : List (String × String)) (text : String) : Prop :=
  match (OrderedDict.ofPairs sent).get? text with
  | some size => isShown (text, size) = true
  | none => side.get? text ≠ none

/-- A text that is a price of the side after the levels is the one its number was sent with last, if it
was sent at all. -/
def OneNotation (side : Levels) (sent : List (String × String)) : Prop :=
  ∀ text price, priceOf text = some price → Stays side sent text →
    ∀ level, lastLevel sent price = some level → level.1 = text

/-- The book the levels of a message are applied to. -/
def Reducer.startBook (reducer : Reducer) (event : RawEvent) : Book :=
  if event.eventType = "orderbook_snapshot" then Book.empty else reducer.book (stateKey event none)

/-- Both sides of the message have one notation for each price. -/
def KeepsNotation (reducer : Reducer) (event : RawEvent) : Prop :=
  ∀ data : Dict, event.payload.get "data" = .obj data →
    OneNotation (reducer.startBook event).bids (sentLevels (data.get "b")) ∧
      OneNotation (reducer.startBook event).asks (sentLevels (data.get "a"))

/-- Every price of the message is a number. -/
def NumericPrices (event : RawEvent) : Prop :=
  ∀ data : Dict, event.payload.get "data" = .obj data →
    ∀ level ∈ sentLevels (data.get "b") ++ sentLevels (data.get "a"), priceOf level.1 ≠ none

/-! ## Representation -/

/-- A side of the reducer's book is a side of the reference. -/
structure Represents (side : Levels) (ref : RefSide) : Prop where
  numeric : ∀ text ∈ side.keys, ∃ price, priceOf text = some price
  distinct : ∀ text ∈ side.keys, ∀ other ∈ side.keys, priceOf text = priceOf other → text = other
  agrees : ∀ text ∈ side.keys, ∀ price, priceOf text = some price → ref price = side.get? text
  covers : ∀ price, ref price ≠ none → ∃ text ∈ side.keys, priceOf text = some price

theorem represents_empty : Represents .empty fun _ => none where
  numeric _ h := nomatch h
  distinct _ h := nomatch h
  agrees _ h := nomatch h
  covers _ h := absurd rfl h

theorem mem_keys_iff {side : Levels} {text : String} : text ∈ side.keys ↔ side.get? text ≠ none := by
  rw [ne_eq, OrderedDict.get?_eq_none, not_not]

/-- What an accepted message leaves under a text. -/
theorem get?_applyLevels_of_accepted {side : Levels} {sent : List (String × String)}
    (hnodup : (sent.map Prod.fst).Nodup) (h : (applyLevels side sent).raised = none)
    (text : String) :
    (applyLevels side sent).state.get? text =
      match sent.lookup text with
      | some size => shownSize (text, size)
      | none => side.get? text := by
  induction sent generalizing side with
  | nil => rfl
  | cons level sent ih =>
    rw [List.map_cons, List.nodup_cons] at hnodup
    unfold applyLevels at h ⊢
    cases hzero : isZeroSize level.2 with
    | error raised =>
      rw [hzero] at h
      cases h
    | ok zero =>
      rw [hzero] at h
      show (applyLevels (applyLevel side level zero) sent).state.get? text = _
      rw [ih hnodup.2 h, get?_applyLevel hzero, OrderedDict.lookup_cons]
      by_cases htext : level.1 = text
      · have hrest : sent.lookup text = none := by
          rw [List.lookup_eq_none_iff]
          intro other hother
          have hne : text ≠ other.1 := fun heq =>
            hnodup.1 (htext ▸ heq ▸ List.mem_map_of_mem hother)
          simpa using hne
        subst htext
        rw [hrest, if_pos rfl, if_pos rfl]
        rfl
      · rw [if_neg htext, if_neg htext]

theorem find?_of_imp {α : Type} {p q : α → Bool} {l : List α} {a : α} (h : l.find? p = some a)
    (ha : q a = true) (himp : ∀ x, q x = true → p x = true) : l.find? q = some a := by
  induction l with
  | nil => cases h
  | cons x l ih =>
    rw [List.find?_cons] at h ⊢
    cases hx : p x with
    | true =>
      rw [hx] at h
      cases h
      rw [ha]
    | false =>
      have hq : q x = false := by
        rw [← Bool.not_eq_true]
        intro hq
        rw [himp x hq] at hx
        cases hx
      rw [hx] at h
      rw [hq]
      exact ih h

/-- The dictionary of a message has the size of the last level of a price under its text. -/
theorem get?_ofPairs_of_last {sent : List (String × String)} {price : ℚ} {level : String × String}
    (h : lastLevel sent price = some level) :
    (OrderedDict.ofPairs sent).get? level.1 = some level.2 := by
  have hprice : priceOf level.1 = some price := by simpa using List.find?_some h
  rw [OrderedDict.get?_ofPairs,
    find?_of_imp (q := fun pair => pair.1 = level.1) h (by simp) (by
      intro other hother
      simp only [decide_eq_true_eq] at hother ⊢
      rw [hother, hprice])]
  rfl

/-- A text the message does not send is not in its dictionary. -/
theorem get?_ofPairs_of_unsent {sent : List (String × String)} {price : ℚ} {text : String}
    (h : lastLevel sent price = none) (hprice : priceOf text = some price) :
    (OrderedDict.ofPairs sent).get? text = none := by
  rw [OrderedDict.get?_ofPairs]
  have hnone : (sent.reverse.find? fun pair => pair.1 = text) = none := by
    rw [List.find?_eq_none]
    intro level hlevel
    have hother := List.find?_eq_none.mp h level hlevel
    simp only [decide_eq_true_eq] at hother ⊢
    rintro rfl
    exact hother hprice
  rw [hnone]
  rfl

theorem mem_of_get?_ofPairs {sent : List (String × String)} {text size : String}
    (h : (OrderedDict.ofPairs sent).get? text = some size) : (text, size) ∈ sent := by
  rw [OrderedDict.get?_ofPairs, Option.map_eq_some_iff] at h
  obtain ⟨level, hfind, hsize⟩ := h
  have htext : level.1 = text := by simpa using List.find?_some hfind
  have hmem := List.mem_reverse.mp (List.mem_of_find?_eq_some hfind)
  rw [← htext, ← hsize]
  exact hmem

/-- The texts of a side after an accepted message. -/
theorem mem_keys_applyLevels {side : Levels} {sent : List (String × String)}
    (h : (applyLevels side (OrderedDict.ofPairs sent).entries).raised = none) (text : String) :
    text ∈ (applyLevels side (OrderedDict.ofPairs sent).entries).state.keys ↔
      Stays side sent text := by
  rw [mem_keys_iff, get?_applyLevels_of_accepted (OrderedDict.ofPairs sent).nodup h]
  unfold Stays
  change (match (OrderedDict.ofPairs sent).get? text with
    | some size => shownSize (text, size)
    | none => side.get? text) ≠ none ↔ _
  cases (OrderedDict.ofPairs sent).get? text with
  | none => exact Iff.rfl
  | some size =>
    unfold shownSize
    cases isShown (text, size) <;> simp

/-- **An accepted message with one notation for each price keeps the representation.** -/
theorem represents_apply {side : Levels} {ref : RefSide} {sent : List (String × String)}
    (hside : Represents side ref) (hnumeric : ∀ level ∈ sent, priceOf level.1 ≠ none)
    (haccepted : (applyLevels side (OrderedDict.ofPairs sent).entries).raised = none)
    (hone : OneNotation side sent) :
    Represents (applyLevels side (OrderedDict.ofPairs sent).entries).state (ref.applyAll sent) := by
  have hkeys := mem_keys_applyLevels haccepted
  have hget : ∀ text, (applyLevels side (OrderedDict.ofPairs sent).entries).state.get? text =
      match (OrderedDict.ofPairs sent).get? text with
      | some size => shownSize (text, size)
      | none => side.get? text :=
    get?_applyLevels_of_accepted (OrderedDict.ofPairs sent).nodup haccepted
  -- a text at a price the message does not send was there before
  have hbefore : ∀ text price, Stays side sent text → priceOf text = some price →
      lastLevel sent price = none → text ∈ side.keys := by
    intro text price hstays hprice hlast
    unfold Stays at hstays
    rw [get?_ofPairs_of_unsent hlast hprice] at hstays
    exact mem_keys_iff.mpr hstays
  refine ⟨?_, ?_, ?_, ?_⟩
  · intro text htext
    have hstays := (hkeys text).mp htext
    unfold Stays at hstays
    cases hsent : (OrderedDict.ofPairs sent).get? text with
    | some size =>
      have hne : priceOf text ≠ none := hnumeric (text, size) (mem_of_get?_ofPairs hsent)
      exact Option.ne_none_iff_exists'.mp hne
    | none =>
      rw [hsent] at hstays
      exact hside.numeric text (mem_keys_iff.mpr hstays)
  · intro text htext other hother hsame
    have hstays := (hkeys text).mp htext
    have hstaysOther := (hkeys other).mp hother
    cases hprice : priceOf text with
    | none =>
      unfold Stays at hstays
      cases hsent : (OrderedDict.ofPairs sent).get? text with
      | some size => exact absurd hprice (hnumeric (text, size) (mem_of_get?_ofPairs hsent))
      | none =>
        rw [hsent] at hstays
        obtain ⟨price, hsome⟩ := hside.numeric text (mem_keys_iff.mpr hstays)
        rw [hprice] at hsome
        cases hsome
    | some price =>
      have hpriceOther : priceOf other = some price := by rw [← hsame, hprice]
      cases hlast : lastLevel sent price with
      | some level =>
        rw [← hone text price hprice hstays level hlast,
          hone other price hpriceOther hstaysOther level hlast]
      | none =>
        exact hside.distinct text (hbefore text price hstays hprice hlast) other
          (hbefore other price hstaysOther hpriceOther hlast) hsame
  · intro text htext price hprice
    have hstays := (hkeys text).mp htext
    rw [RefSide.applyAll_eq, hget]
    cases hlast : lastLevel sent price with
    | some level =>
      have hlevel := hone text price hprice hstays level hlast
      subst hlevel
      rw [get?_ofPairs_of_last hlast]
    | none =>
      rw [get?_ofPairs_of_unsent hlast hprice]
      exact hside.agrees text (hbefore text price hstays hprice hlast) price hprice
  · intro price hshown
    rw [RefSide.applyAll_eq] at hshown
    cases hlast : lastLevel sent price with
    | some level =>
      rw [hlast] at hshown
      have hprice : priceOf level.1 = some price := by simpa using List.find?_some hlast
      refine ⟨level.1, ?_, hprice⟩
      rw [mem_keys_iff, hget, get?_ofPairs_of_last hlast]
      exact hshown
    | none =>
      rw [hlast] at hshown
      obtain ⟨text, htext, hprice⟩ := hside.covers price hshown
      refine ⟨text, ?_, hprice⟩
      rw [mem_keys_iff, hget, get?_ofPairs_of_unsent hlast hprice]
      exact mem_keys_iff.mp htext

/-! ## Best prices -/

/-- A price is not better than another on its side. -/
def NotBetter (highest : Bool) (price other : ℚ) : Prop :=
  if highest then price ≤ other else other ≤ price

theorem NotBetter.refl (highest : Bool) (price : ℚ) : NotBetter highest price price := by
  cases highest <;> exact le_refl price

theorem NotBetter.trans {highest : Bool} {a b c : ℚ} (h : NotBetter highest a b)
    (h' : NotBetter highest b c) : NotBetter highest a c := by
  cases highest with
  | false => exact le_trans (show c ≤ b from h') h
  | true => exact le_trans (show a ≤ b from h) h'

theorem operandOf_of_priceOf {text : String} {price : ℚ} (h : priceOf text = some price) :
    ∃ value, operandOf text = .ok (.finite value) ∧ value.toRat = price := by
  unfold priceOf at h
  unfold operandOf
  split at h
  · next value hvalue =>
    rw [hvalue]
    exact ⟨value, rfl, Option.some.inj h⟩
  · cases h

/-- One comparison: the better one of the two is kept. -/
theorem betterOf_spec (highest : Bool) {first text : String} {value : Decimal} {price : ℚ}
    (hfirst : priceOf first = some value.toRat) (htext : priceOf text = some price) :
    ∃ found number, betterOf highest (first, .finite value) text = .ok (found, .finite number) ∧
      priceOf found = some number.toRat ∧ (found = first ∨ found = text) ∧
      NotBetter highest value.toRat number.toRat ∧ NotBetter highest price number.toRat := by
  obtain ⟨other, hother, rfl⟩ := operandOf_of_priceOf htext
  unfold betterOf
  rw [hother]
  cases highest with
  | true =>
    simp only [ok_bind, if_true, Operand.less]
    by_cases hless : value < other
    · refine ⟨text, other, by simp [hless], htext, .inr rfl, ?_, NotBetter.refl true _⟩
      exact le_of_lt (Decimal.lt_iff.mp hless)
    · refine ⟨first, value, by simp [hless], hfirst, .inl rfl, NotBetter.refl true _, ?_⟩
      exact not_lt.mp fun h => hless (Decimal.lt_iff.mpr h)
  | false =>
    simp only [ok_bind, Bool.false_eq_true, if_false, Operand.less]
    by_cases hless : other < value
    · refine ⟨text, other, by simp [hless], htext, .inr rfl, ?_, NotBetter.refl false _⟩
      exact le_of_lt (Decimal.lt_iff.mp hless)
    · refine ⟨first, value, by simp [hless], hfirst, .inl rfl, NotBetter.refl false _, ?_⟩
      exact not_lt.mp fun h => hless (Decimal.lt_iff.mpr h)

theorem foldlM_betterOf (highest : Bool) {texts : List String} {first : String} {value : Decimal}
    (hfirst : priceOf first = some value.toRat)
    (hnumeric : ∀ text ∈ texts, ∃ price, priceOf text = some price) :
    ∃ found number, texts.foldlM (betterOf highest) (first, .finite value) =
        .ok (found, .finite number) ∧
      priceOf found = some number.toRat ∧ found ∈ first :: texts ∧
      ∀ text ∈ first :: texts, ∀ price, priceOf text = some price →
        NotBetter highest price number.toRat := by
  induction texts generalizing first value with
  | nil =>
    refine ⟨first, value, rfl, hfirst, List.mem_singleton_self first, ?_⟩
    intro text htext price hprice
    rw [List.mem_singleton.mp htext, hfirst] at hprice
    rw [← Option.some.inj hprice]
    exact NotBetter.refl highest _
  | cons text texts ih =>
    obtain ⟨price, hprice⟩ := hnumeric text List.mem_cons_self
    obtain ⟨between, betweenValue, hstep, hbetween, hone, hbeats, hbeatsNext⟩ :=
      betterOf_spec highest hfirst hprice
    obtain ⟨found, number, hrest, hfound, hmem, hall⟩ := ih hbetween fun other hother =>
      hnumeric other (List.mem_cons_of_mem text hother)
    have hlast : NotBetter highest betweenValue.toRat number.toRat :=
      hall between List.mem_cons_self _ hbetween
    refine ⟨found, number, ?_, hfound, ?_, ?_⟩
    · rw [List.foldlM_cons, hstep]
      exact hrest
    · rcases List.mem_cons.mp hmem with rfl | hmem
      · rcases hone with h | h
        · rw [h]
          exact List.mem_cons_self
        · rw [h]
          exact List.mem_cons_of_mem _ List.mem_cons_self
      · exact List.mem_cons_of_mem _ (List.mem_cons_of_mem _ hmem)
    · intro other hother otherPrice hotherPrice
      rcases List.mem_cons.mp hother with rfl | hother
      · rw [hfirst] at hotherPrice
        rw [← Option.some.inj hotherPrice]
        exact hbeats.trans hlast
      · rcases List.mem_cons.mp hother with rfl | hother
        · rw [hprice] at hotherPrice
          rw [← Option.some.inj hotherPrice]
          exact hbeatsNext.trans hlast
        · exact hall other (List.mem_cons_of_mem _ hother) otherPrice hotherPrice

/-- The best price of a side that represents the reference is the best price of the reference. -/
theorem best_extreme {highest : Bool} {side : Levels} {ref : RefSide} {found : Option String}
    (hside : Represents side ref) (h : best highest side = .ok found) :
    match found with
    | none => ∀ price, ref price = none
    | some text => ∃ price, priceOf text = some price ∧ ref price ≠ none ∧
        ∀ other, ref other ≠ none → NotBetter highest other price := by
  unfold best at h
  cases hkeys : side.keys with
  | nil =>
    rw [hkeys] at h
    cases h
    intro price
    by_contra hshown
    obtain ⟨text, htext, -⟩ := hside.covers price hshown
    rw [hkeys] at htext
    cases htext
  | cons first texts =>
    rw [hkeys] at h
    have hnumeric : ∀ text ∈ first :: texts, ∃ price, priceOf text = some price := by
      intro text htext
      exact hside.numeric text (hkeys ▸ htext)
    obtain ⟨firstPrice, hfirst⟩ := hnumeric first List.mem_cons_self
    obtain ⟨value, hvalue, rfl⟩ := operandOf_of_priceOf hfirst
    obtain ⟨text, number, hfold, htext, hmem, hall⟩ := foldlM_betterOf highest hfirst
      fun other hother => hnumeric other (List.mem_cons_of_mem first hother)
    dsimp only at h
    rw [hvalue, ok_bind, hfold] at h
    cases h
    have hstored : text ∈ side.keys := hkeys ▸ hmem
    refine ⟨number.toRat, htext, ?_, ?_⟩
    · rw [hside.agrees text hstored _ htext]
      exact mem_keys_iff.mp hstored
    · intro other hother
      obtain ⟨otherText, hotherMem, hotherPrice⟩ := hside.covers other hother
      exact hall otherText (hkeys ▸ hotherMem) other hotherPrice

/-! ## Depth -/

/-- The levels of a side of the reference, in some order. -/
structure Lists (listed : List (ℚ × String)) (ref : RefSide) : Prop where
  nodup : (listed.map Prod.fst).Nodup
  mem : ∀ price size, (price, size) ∈ listed ↔ ref price = some size

/-- A side that represents the reference lists its levels. -/
theorem lists_of_represents {side : Levels} {ref : RefSide} (h : Represents side ref) :
    ∃ listed, Lists listed ref ∧ listed.map Prod.snd = side.values := by
  have hprice : ∀ entry ∈ side.entries, priceOf entry.1 = some ((priceOf entry.1).getD 0) := by
    intro entry hentry
    obtain ⟨price, hprice⟩ := h.numeric entry.1 (List.mem_map_of_mem hentry)
    rw [hprice]
    rfl
  refine ⟨side.entries.map fun entry => ((priceOf entry.1).getD 0, entry.2), ⟨?_, ?_⟩, ?_⟩
  · rw [List.map_map]
    have hnodup := List.Nodup.of_map Prod.fst side.nodup
    refine (List.nodup_map_iff_inj_on hnodup).mpr ?_
    intro entry hentry other hother hsame
    have htexts : entry.1 = other.1 := by
      refine h.distinct _ (List.mem_map_of_mem hentry) _ (List.mem_map_of_mem hother) ?_
      rw [hprice entry hentry, hprice other hother]
      exact congrArg some hsame
    exact List.inj_on_of_nodup_map side.nodup hentry hother htexts
  · intro price size
    rw [List.mem_map]
    constructor
    · rintro ⟨entry, hentry, heq⟩
      cases heq
      rw [h.agrees entry.1 (List.mem_map_of_mem hentry) _ (hprice entry hentry)]
      exact OrderedDict.get?_eq_some.mpr hentry
    · intro hsize
      obtain ⟨text, htext, htextPrice⟩ := h.covers price (by rw [hsize]; exact Option.some_ne_none _)
      rw [h.agrees text htext price htextPrice] at hsize
      refine ⟨(text, size), OrderedDict.get?_eq_some.mp hsize, ?_⟩
      rw [htextPrice]
      rfl
  · rw [List.map_map]
    rfl

/-- The sum of numbers is the sum in the context, one after the other. -/
theorem foldlM_add_finite {sizes : List String} {values : List Decimal} {init : Decimal}
    {total : Operand}
    (hsizes : List.Forall₂ (fun size value => operandOf size = .ok (.finite value)) sizes values)
    (h : sizes.foldlM (fun (total : Operand) size => do total.add (← operandOf size)) (.finite init) =
      .ok total) :
    total = .finite (values.foldl (· + ·) init) := by
  induction hsizes generalizing init with
  | nil =>
    cases h
    rfl
  | @cons size value sizes values hsize _ ih =>
    rw [List.foldlM_cons, hsize] at h
    change ((Operand.inContext (init + value)) >>= _) = _ at h
    unfold Operand.inContext at h
    split_ifs at h
    · cases h
    · exact ih h

/-- The total of sizes: the sum in the context, and the sum itself when it has no more digits than the
context. -/
structure IsTotal (sizes : List String) (total : Operand) : Prop where
  sum : totalSize sizes = .ok total
  exact : ∀ (values : List Decimal) (k : ℤ),
    List.Forall₂ (fun size value => operandOf size = .ok (.finite value)) sizes values →
    (∀ value ∈ values, ∃ z : ℤ, value.toRat = z * (10 : ℚ) ^ (-k)) →
    (∀ value ∈ values, 0 ≤ value.toRat) →
    (values.map Decimal.toRat).sum < (10 : ℚ) ^ ((Decimal.precision : ℤ) - k) →
    ∃ value, total = .finite value ∧ value.toRat = (values.map Decimal.toRat).sum

theorem isTotal_of_totalSize {sizes : List String} {total : Operand}
    (h : totalSize sizes = .ok total) : IsTotal sizes total where
  sum := h
  exact values k hsizes hgrid hpos hsmall := by
    refine ⟨_, foldlM_add_finite hsizes h, ?_⟩
    have hzero : (0 : Decimal).toRat = 0 := Decimal.toRat_ofInt 0
    have hexact := Decimal.foldl_add_exact (k := k) values 0 hgrid hpos ⟨0, by rw [hzero]; simp⟩
      (le_of_eq hzero.symm) (by rw [hzero, zero_add]; exact hsmall)
    rw [hexact, hzero, zero_add]

/-! ## Reports -/

/-- What the market reports of a side is what the reference has: its best price as a number, and the
total of its sizes. -/
structure SideReport (state : MarketState) (bestName depthName : String) (highest : Bool)
    (ref : RefSide) : Prop where
  best : match state.get? bestName with
    | none => ∀ price, ref price = none
    | some text => ∃ price, text.bind priceOf = some price ∧ ref price ≠ none ∧
        ∀ other, ref other ≠ none → NotBetter highest other price
  depth : ∃ listed total, Lists listed ref ∧ IsTotal (listed.map Prod.snd) total ∧
    state.get? depthName = some (some (decimalText total))

/-- The market reports the book of the reference. -/
structure Reports (state : MarketState) (ref : RefBook) : Prop where
  bids : SideReport state "best_bid" "bid_depth" true ref.bids
  asks : SideReport state "best_ask" "ask_depth" false ref.asks

/-- The fields of a side are computed from it. -/
structure Shows (state : MarketState) (bestName depthName : String) (highest : Bool) (side : Levels) :
    Prop where
  best : ∃ found, Recorder.best highest side = .ok found ∧ state.get? bestName = found.map some
  depth : ∃ depth, sumSizes side = .ok depth ∧ state.get? depthName = some (some depth)

theorem sideReport_of_represents {state : MarketState} {bestName depthName : String} {highest : Bool}
    {side : Levels} {ref : RefSide} (hshows : Shows state bestName depthName highest side)
    (hside : Represents side ref) : SideReport state bestName depthName highest ref where
  best := by
    obtain ⟨found, hfound, hstate⟩ := hshows.best
    have hextreme := best_extreme hside hfound
    rw [hstate]
    cases found with
    | none => exact hextreme
    | some text => exact hextreme
  depth := by
    obtain ⟨depth, hdepth, hstate⟩ := hshows.depth
    obtain ⟨total, htotal, htext⟩ := bind_eq_ok.mp hdepth
    cases htext
    obtain ⟨listed, hlisted, hvalues⟩ := lists_of_represents hside
    exact ⟨listed, total, hlisted, isTotal_of_totalSize (by rw [hvalues]; exact htotal), hstate⟩

/-- Accepted quotes show both sides. -/
theorem shows_of_setQuoteState {state : MarketState} {bids asks : Levels}
    (h : (setQuoteState state bids asks).raised = none) :
    Shows (setQuoteState state bids asks).state "best_bid" "bid_depth" true bids ∧
      Shows (setQuoteState state bids asks).state "best_ask" "ask_depth" false asks := by
  unfold setQuoteState at h ⊢
  cases hbid : best true bids with
  | error raised => simp [given, hbid] at h
  | ok bid =>
    cases hask : best false asks with
    | error raised => simp [given, hbid, hask] at h
    | ok ask =>
      cases hbids : sumSizes bids with
      | error raised => simp [given, hbid, hask, hbids] at h
      | ok bidDepth =>
        cases hasks : sumSizes asks with
        | error raised => simp [given, hbid, hask, hbids, hasks] at h
        | ok askDepth =>
          simp only [given]
          refine ⟨⟨⟨bid, hbid, ?_⟩, ⟨bidDepth, hbids, ?_⟩⟩, ⟨⟨ask, hask, ?_⟩, ⟨askDepth, hasks, ?_⟩⟩⟩
          · rw [OrderedDict.get?_set_of_ne _ _ (by decide), OrderedDict.get?_set_of_ne _ _ (by decide),
              get?_writeOrPop, if_neg (by decide), get?_writeOrPop, if_pos rfl]
          · rw [OrderedDict.get?_set_of_ne _ _ (by decide), OrderedDict.get?_set_self]
          · rw [OrderedDict.get?_set_of_ne _ _ (by decide), OrderedDict.get?_set_of_ne _ _ (by decide),
              get?_writeOrPop, if_pos rfl]
          · rw [OrderedDict.get?_set_self]

/-! ## Runs -/

/-- The event is a message of a Bybit order book. -/
def IsBybitBook (event : RawEvent) : Prop := event.source = "bybit" ∧ isBookMessage event = true

/-- The books of the reducer are those of the reference, and each market with a book shows it. -/
structure FollowsReference (reducer : Reducer) (events : List RawEvent) : Prop where
  bids : ∀ key, Represents (reducer.book key).bids (reference events key).bids
  asks : ∀ key, Represents (reducer.book key).asks (reference events key).asks
  shown : ∀ key book, reducer.bybitBooks.get? key = some book →
    ∃ tracked, reducer.states.get? key = some tracked ∧
      Shows tracked.state "best_bid" "bid_depth" true book.bids ∧
      Shows tracked.state "best_ask" "ask_depth" false book.asks
  seen : ∀ event ∈ events, ∀ data : Dict, event.payload.get "data" = .obj data →
    reducer.bybitBooks.get? (stateKey event none) ≠ none

theorem followsReference_new : FollowsReference Reducer.new [] where
  bids _ := represents_empty
  asks _ := represents_empty
  shown _ _ h := nomatch h
  seen _ h := nomatch h

/-- What a touched market holds, and that no other market changes. -/
theorem get?_withTouched (reducer : Reducer) (event : RawEvent) (assetId : Option String)
    (write : MarketState → Mutation MarketState) (key : String) :
    (reducer.withTouched event assetId write).state.states.get? key =
      if stateKey event assetId = key then
        some { touched event assetId (reducer.states.get? (stateKey event assetId)) with
          state := (write
            (touched event assetId (reducer.states.get? (stateKey event assetId))).state).state }
      else reducer.states.get? key :=
  OrderedDict.get?_set _ _ _ _

theorem observe_of_bybitBook (reducer : Reducer) {event : RawEvent} (h : IsBybitBook event) :
    observe reducer event =
      match (event.payload.get "data").mapping with
      | none => reducer.withTouched event none fun state => ⟨state, none⟩
      | some data => observeBook reducer event data := by
  have hpolymarket : event.source ≠ "polymarket" := by
    rw [h.1]
    decide
  have hbybit : observe reducer event = observeBybit reducer event :=
    (if_neg hpolymarket).trans (if_pos h.1)
  exact hbybit.trans (if_pos h.2)

/-- An accepted book message applies both sides, and then the market shows the book. -/
theorem observeBook_of_accepted {reducer : Reducer} {event : RawEvent} {data : Dict}
    (h : (observeBook reducer event data).raised = none) :
    (applyLevels (reducer.startBook event).bids (levels (data.get "b")).entries).raised = none ∧
    (applyLevels (reducer.startBook event).asks (levels (data.get "a")).entries).raised = none ∧
    ∃ book, book.bids =
        (applyLevels (reducer.startBook event).bids (levels (data.get "b")).entries).state ∧
      book.asks =
        (applyLevels (reducer.startBook event).asks (levels (data.get "a")).entries).state ∧
      (observeBook reducer event data).state.bybitBooks =
        reducer.bybitBooks.set (stateKey event none) book ∧
      ∃ tracked, (observeBook reducer event data).state.states =
          reducer.states.set (stateKey event none) tracked ∧
        Shows tracked.state "best_bid" "bid_depth" true book.bids ∧
        Shows tracked.state "best_ask" "ask_depth" false book.asks := by
  have hstart : (if decide (event.eventType = "orderbook_snapshot") = true then Book.empty
      else reducer.book (stateKey event none)) = reducer.startBook event := by
    unfold Reducer.startBook
    simp only [decide_eq_true_eq]
  rw [observeBook_eq] at h ⊢
  dsimp only at h ⊢
  generalize happlied : applyBook (reducer.book (stateKey event none))
    (event.eventType = "orderbook_snapshot") data = applied at h ⊢
  rw [withTouched_raised] at h
  unfold writeBookQuotes at h
  cases hraised : applied.raised with
  | some raised =>
    rw [hraised] at h
    cases h
  | none =>
    rw [hraised] at h
    dsimp only at h
    obtain ⟨hbids, hasks⟩ := applyBook_raised.mp (happlied ▸ hraised)
    have hstate := happlied
    unfold applyBook at hstate
    rw [hstart] at hstate
    dsimp only at hstate
    rw [applyLevels_raised.mpr hbids] at hstate
    dsimp only at hstate
    refine ⟨applyLevels_raised.mpr hbids, applyLevels_raised.mpr hasks, applied.state, ?_, ?_, rfl, ?_⟩
    · rw [← hstate]
    · rw [← hstate]
    · refine ⟨_, rfl, ?_⟩
      unfold writeBookQuotes
      rw [hraised]
      exact shows_of_setQuoteState h

/-- An accepted message that has one notation for each price keeps the books and what is shown. -/
theorem FollowsReference.step {reducer : Reducer} {events : List RawEvent} {event : RawEvent}
    (h : FollowsReference reducer events) (hbook : IsBybitBook event)
    (haccepted : (observe reducer event).raised = none) (hnumeric : NumericPrices event)
    (hone : KeepsNotation reducer event) : FollowsReference (observed reducer event) (events ++ [event]) := by
  unfold observed
  have heq := observe_of_bybitBook reducer hbook
  cases hdata : (event.payload.get "data").mapping with
  | none =>
    have hnone : ∀ data : Dict, event.payload.get "data" ≠ .obj data := by
      intro data hobj
      rw [hobj] at hdata
      cases hdata
    have hreference : ∀ key, reference (events ++ [event]) key = reference events key := by
      intro key
      rw [reference_append]
      split_ifs
      · unfold RefBook.receive
        split
        · next data hobj => exact absurd hobj (hnone data)
        · rfl
      · rfl
    rw [heq, hdata]
    refine ⟨?_, ?_, ?_, ?_⟩
    · intro key
      rw [hreference]
      exact h.bids key
    · intro key
      rw [hreference]
      exact h.asks key
    · intro key book hkey
      obtain ⟨tracked, htracked, hshows⟩ := h.shown key book hkey
      dsimp only
      rw [get?_withTouched]
      by_cases hown : stateKey event none = key
      · rw [if_pos hown, hown, htracked]
        refine ⟨_, rfl, ?_⟩
        dsimp only
        rw [touched_state]
        exact hshows
      · rw [if_neg hown]
        exact ⟨tracked, htracked, hshows⟩
    · intro other hother data hobj
      rcases List.mem_append.mp hother with hother | hother
      · exact h.seen other hother data hobj
      · rw [List.mem_singleton.mp hother] at hobj
        exact absurd hobj (hnone data)
  | some data =>
    have hobj : event.payload.get "data" = .obj data := by
      cases hpayload : event.payload.get "data" <;> rw [hpayload] at hdata <;> cases hdata
      rfl
    rw [heq, hdata] at haccepted ⊢
    dsimp only at haccepted ⊢
    obtain ⟨hbids, hasks, book, hbookBids, hbookAsks, hbooks, tracked, hstates, hshows⟩ :=
      observeBook_of_accepted haccepted
    obtain ⟨honeBids, honeAsks⟩ := hone data hobj
    have hnum := hnumeric data hobj
    rw [levels_eq] at hbids hasks hbookBids hbookAsks
    have hstart : ∃ ref : RefBook, Represents (reducer.startBook event).bids ref.bids ∧
        Represents (reducer.startBook event).asks ref.asks ∧
        (reference events (stateKey event none)).receive event =
          ⟨ref.bids.applyAll (sentLevels (data.get "b")),
            ref.asks.applyAll (sentLevels (data.get "a"))⟩ := by
      unfold RefBook.receive Reducer.startBook
      rw [hobj]
      by_cases hsnapshot : event.eventType = "orderbook_snapshot"
      · simp only [if_pos hsnapshot]
        exact ⟨RefBook.empty, represents_empty, represents_empty, rfl⟩
      · simp only [if_neg hsnapshot]
        exact ⟨_, h.bids _, h.asks _, rfl⟩
    obtain ⟨ref, hrefBids, hrefAsks, hreceive⟩ := hstart
    have hnewBids := represents_apply hrefBids
      (fun level hlevel => hnum level (List.mem_append_left _ hlevel)) hbids honeBids
    have hnewAsks := represents_apply hrefAsks
      (fun level hlevel => hnum level (List.mem_append_right _ hlevel)) hasks honeAsks
    have hgetBook : ∀ key, (observeBook reducer event data).state.book key =
        if stateKey event none = key then book else reducer.book key := by
      intro key
      unfold Reducer.book
      rw [hbooks, OrderedDict.get?_set]
      split_ifs <;> rfl
    refine ⟨?_, ?_, ?_, ?_⟩
    · intro key
      rw [hgetBook, reference_append]
      split_ifs with hkey
      · rw [← hkey, hreceive, hbookBids]
        exact hnewBids
      · exact h.bids key
    · intro key
      rw [hgetBook, reference_append]
      split_ifs with hkey
      · rw [← hkey, hreceive, hbookAsks]
        exact hnewAsks
      · exact h.asks key
    · intro key other hother
      rw [hbooks, OrderedDict.get?_set] at hother
      rw [hstates, OrderedDict.get?_set]
      split_ifs at hother ⊢ with hkey
      · cases hother
        exact ⟨tracked, rfl, hshows⟩
      · exact h.shown key other hother
    · intro other hother otherData hotherData
      rw [hbooks, OrderedDict.get?_set]
      split_ifs with hkey
      · exact Option.some_ne_none _
      · rcases List.mem_append.mp hother with hother | hother
        · exact h.seen other hother otherData hotherData
        · rw [List.mem_singleton.mp hother] at hkey
          exact absurd rfl hkey

/-- **The reducer's book is the reference book.**  After every run of accepted messages of Bybit order
books with numeric prices, each of which keeps the notation of its prices, every market that was sent a
book reports the best prices and the depths of the reference book. -/
theorem reducer_reports_reference {events : List RawEvent}
    (hbook : ∀ event ∈ events, IsBybitBook event)
    (hnumeric : ∀ event ∈ events, NumericPrices event)
    (haccepted : Machine.Along observed (fun reducer event => (observe reducer event).raised = none)
      Reducer.new events)
    (hone : Machine.Along observed KeepsNotation Reducer.new events) :
    ∀ event ∈ events, ∀ data : Dict, event.payload.get "data" = .obj data →
      ∃ tracked, (Machine.run observed Reducer.new events).states.get? (stateKey event none) =
          some tracked ∧
        Reports tracked.state (reference events (stateKey event none)) := by
  have hfollows : FollowsReference (Machine.run observed Reducer.new events) events := by
    induction events using List.reverseRecOn with
    | nil => exact followsReference_new
    | append_singleton events event ih =>
      rw [Machine.along_append] at haccepted hone
      rw [Machine.run_append]
      exact (ih (fun other hother => hbook other (List.mem_append_left _ hother))
        (fun other hother => hnumeric other (List.mem_append_left _ hother)) haccepted.1 hone.1).step
        (hbook event (by simp)) haccepted.2.1 (hnumeric event (by simp)) hone.2.1
  intro event hevent data hdata
  obtain ⟨book, hget⟩ := Option.ne_none_iff_exists'.mp (hfollows.seen event hevent data hdata)
  obtain ⟨tracked, htracked, hbids, hasks⟩ := hfollows.shown _ book hget
  have hown : (Machine.run observed Reducer.new events).book (stateKey event none) = book := by
    rw [Reducer.book, hget, Option.getD_some]
  have hrepBids := hfollows.bids (stateKey event none)
  have hrepAsks := hfollows.asks (stateKey event none)
  rw [hown] at hrepBids hrepAsks
  exact ⟨tracked, htracked, sideReport_of_represents hbids hrepBids,
    sideReport_of_represents hasks hrepAsks⟩

/-! ### One price in one notation, and in two -/

/-- A side and a message that know one text only have one notation. -/
theorem oneNotation_of_text {side : Levels} {sent : List (String × String)} {own : String}
    (hside : ∀ text, side.get? text ≠ none → text = own) (hsent : ∀ level ∈ sent, level.1 = own) :
    OneNotation side sent := by
  intro text price _ hstays level hlast
  have hlevel := hsent level (List.mem_reverse.mp (List.mem_of_find?_eq_some hlast))
  unfold Stays at hstays
  cases hget : (OrderedDict.ofPairs sent).get? text with
  | some size => rw [hlevel, ← hsent _ (mem_of_get?_ofPairs hget)]
  | none =>
    rw [hget] at hstays
    rw [hlevel, hside text hstays]

/-- The bid of `snapshotEvent` with another size. -/
def resizeEvent : RawEvent :=
  bookEvent "orderbook_delta" 2000000 [.arr [.str "100", .str "3"]]

theorem numericPrices_bookEvent {eventType : String} {receivedAt : Timestamp} {bids : List Json}
    (h : ∀ level ∈ sentLevels (.arr bids), priceOf level.1 ≠ none) :
    NumericPrices (bookEvent eventType receivedAt bids) := by
  intro data hdata
  cases hdata
  intro level hlevel
  rcases List.mem_append.mp hlevel with hlevel | hlevel
  · exact h level hlevel
  · cases hlevel

theorem reducer_reports_reference_sample :
    ∃ tracked, (Machine.run observed Reducer.new [snapshotEvent, resizeEvent]).states.get?
        "bybit/linear/BTCUSDT" = some tracked ∧
      Reports tracked.state (reference [snapshotEvent, resizeEvent] "bybit/linear/BTCUSDT") := by
  have hkeeps : ∀ reducer : Reducer, ∀ event ∈ [snapshotEvent, resizeEvent],
      (∀ text, (reducer.startBook event).bids.get? text ≠ none → text = "100") →
        KeepsNotation reducer event := by
    intro reducer event hevent hside data hdata
    rcases List.mem_pair.mp hevent with rfl | rfl
    · cases hdata
      refine ⟨oneNotation_of_text hside (by decide), ?_⟩
      intro text price _ _ level hlast
      cases hlast
    · cases hdata
      refine ⟨oneNotation_of_text hside (by decide), ?_⟩
      intro text price _ _ level hlast
      cases hlast
  have hreports := @reducer_reports_reference [snapshotEvent, resizeEvent] ?_ ?_ ?_ ?_ snapshotEvent
    (by simp) [("b", .arr [.arr [.str "100", .str "2"]]), ("a", .arr [])] rfl
  · exact hreports
  · intro event hevent
    rcases List.mem_pair.mp hevent with rfl | rfl <;> exact ⟨rfl, rfl⟩
  · intro event hevent
    rcases List.mem_pair.mp hevent with rfl | rfl <;>
      exact numericPrices_bookEvent (by decide +kernel)
  · decide +kernel
  · refine ⟨hkeeps _ _ (by simp) ?_, hkeeps _ _ (by simp) ?_, trivial⟩
    · intro text htext
      exact absurd rfl htext
    · intro text htext
      have hbook : ((observed Reducer.new snapshotEvent).startBook resizeEvent).bids.keys =
          ["100"] := by decide +kernel
      have hmem := mem_keys_iff.mpr htext
      rw [hbook] at hmem
      exact List.mem_singleton.mp hmem

/-- A bid in one notation. -/
def firstNotation : RawEvent :=
  bookEvent "orderbook_snapshot" 1000000 [.arr [.str "1.0", .str "5"]]

/-- The bid removed in another notation. -/
def secondNotation : RawEvent :=
  bookEvent "orderbook_delta" 2000000 [.arr [.str "1.00", .str "0"]]

/-- The reference has no bid left, the reducer still reports one. -/
theorem notation_breaks_reports :
    ¬ ∀ events : List RawEvent, (∀ event ∈ events, IsBybitBook event) →
      (∀ event ∈ events, NumericPrices event) →
      Machine.Along observed (fun reducer event => (observe reducer event).raised = none)
        Reducer.new events →
      ∀ event ∈ events, ∀ data : Dict, event.payload.get "data" = .obj data →
        ∃ tracked, (Machine.run observed Reducer.new events).states.get? (stateKey event none) =
            some tracked ∧
          Reports tracked.state (reference events (stateKey event none)) := by
  intro h
  obtain ⟨tracked, htracked, hbids, -⟩ := h [firstNotation, secondNotation] (by
    intro event hevent
    rcases List.mem_pair.mp hevent with rfl | rfl <;> exact ⟨rfl, rfl⟩) (by
    intro event hevent
    rcases List.mem_pair.mp hevent with rfl | rfl <;>
      exact numericPrices_bookEvent (by decide +kernel)) (by decide +kernel) secondNotation
    (by simp) [("b", .arr [.arr [.str "1.00", .str "0"]]), ("a", .arr [])] rfl
  have hshown : ((Machine.run observed Reducer.new [firstNotation, secondNotation]).states.get?
      (stateKey secondNotation none)).bind (fun tracked => tracked.state.get? "best_bid") =
        some (some "1.0") := by decide +kernel
  rw [htracked, Option.bind_some] at hshown
  have hbest := hbids.best
  rw [hshown] at hbest
  obtain ⟨price, hprice, href, -⟩ := hbest
  have hone : priceOf "1.0" = some 1 := by decide +kernel
  have hnone : (reference [firstNotation, secondNotation] (stateKey secondNotation none)).bids 1 =
      none := by decide +kernel
  rw [Option.bind_some, hone] at hprice
  rw [← Option.some.inj hprice] at href
  exact href hnone

end BpEngine.Recorder
