import BpEngine.V4Paper.FreshBookShadow

/-!
# How a book is listed

The levels of a listing are merged by their prices; what is displayed, and hashed, are the price as it
is written first and the sum in the order of the listing.

* `levelAt` is the entry of a price, `levelAt_setSize` what a change of an entry does to it.
* `shownAt` is what a listing comes to at a price; `levelAt_merge` says that the merged levels have it.
* `byPrice_merge_iff`: two listings have the same levels exactly when they come to the same at every
  price.
* `listing_iff` is the result about the evaluation.
-/

namespace BpEngine.V4Paper

open BpEngine.Execution BpEngine.Features BookReplay
open PaperLedger (BookLevel setSize sizeAt byPrice)

/-! ## Entries of a dictionary -/

/-- The entry of a price. -/
def levelAt (levels : List BookLevel) (price : Decimal) : Option BookLevel :=
  levels.find? fun level => Decimal.Same level.price price

theorem levelAt_eq_some {levels : List BookLevel} {price : Decimal} {level : BookLevel}
    (h : levelAt levels price = some level) : level ∈ levels ∧ level.price.toRat = price.toRat := by
  have hsame := List.find?_some (p := fun other : BookLevel => decide (Decimal.Same other.price price)) h
  exact ⟨List.mem_of_find?_eq_some h, Decimal.same_iff.mp (of_decide_eq_true hsame)⟩

theorem levelAt_append (levels : List BookLevel) (level : BookLevel) (price : Decimal) :
    levelAt (levels ++ [level]) price = (levelAt levels price).or
      (if level.price.toRat = price.toRat then some level else none) := by
  unfold levelAt
  rw [List.find?_append]
  congr 1
  by_cases h : Decimal.Same level.price price
  · simp [h, Decimal.same_iff.mp h]
  · have hne : ¬ level.price.toRat = price.toRat := fun heq => h (Decimal.same_iff.mpr heq)
    simp [h, hne]

theorem levelAt_congr (levels : List BookLevel) {price other : Decimal}
    (h : price.toRat = other.toRat) : levelAt levels price = levelAt levels other := by
  unfold levelAt
  congr 1
  funext level
  rw [decide_eq_decide, Decimal.same_iff, Decimal.same_iff, h]

theorem levelAt_ne_none {levels : List BookLevel} {price : Decimal} :
    levelAt levels price ≠ none ↔ price.toRat ∈ pricesOf levels := by
  rw [← any_same_iff, Ne, levelAt, List.find?_eq_none, List.any_eq_true]
  simp

theorem sizeAt_eq (levels : List BookLevel) (price : Decimal) :
    sizeAt levels price = ((levelAt levels price).map BookLevel.size).getD 0 := by
  unfold sizeAt levelAt
  cases levels.find? fun level => decide (Decimal.Same level.price price) <;> rfl

/-- An entry is the one of its price. -/
theorem levelAt_eq_some_iff {levels : List BookLevel} (hok : SideOk levels) {price : Decimal}
    {level : BookLevel} :
    levelAt levels price = some level ↔ level ∈ levels ∧ level.price.toRat = price.toRat := by
  constructor
  · exact levelAt_eq_some
  · rintro ⟨hmem, hprice⟩
    have hsome : levelAt levels price ≠ none :=
      levelAt_ne_none.mpr (List.mem_map.mpr ⟨level, hmem, hprice⟩)
    obtain ⟨shown, hshown⟩ := Option.ne_none_iff_exists'.mp hsome
    obtain ⟨hmem', hprice'⟩ := levelAt_eq_some hshown
    rw [hshown, hok.eq_of_price hmem' hmem (hprice'.trans hprice.symm)]

/-- `levels[price] = size` keeps the price as it is written, or writes it. -/
theorem levelAt_setSize (levels : List BookLevel) (level : BookLevel) (price : Decimal) :
    levelAt (setSize levels level) price =
      if level.price.toRat = price.toRat then
        some ⟨((levelAt levels level.price).map BookLevel.price).getD level.price, level.size⟩
      else levelAt levels price := by
  unfold setSize
  split_ifs with hany hprice hprice
  · obtain ⟨shown, hshown⟩ := Option.ne_none_iff_exists'.mp
      (levelAt_ne_none.mpr (any_same_iff.mp hany))
    have hsame := (levelAt_eq_some hshown).2
    rw [hshown]
    rw [levelAt_congr levels hprice] at hshown
    unfold levelAt at hshown ⊢
    rw [List.find?_map]
    have hpred : ((fun other : BookLevel => decide (Decimal.Same other.price price)) ∘
        fun other => if Decimal.Same other.price level.price then ⟨other.price, level.size⟩ else other) =
        fun other => decide (Decimal.Same other.price price) := by
      funext other
      rw [Function.comp_apply]
      split_ifs <;> rfl
    rw [hpred, hshown, Option.map_some, if_pos (Decimal.same_iff.mpr hsame)]
    rfl
  · unfold levelAt
    rw [List.find?_map]
    have hpred : ((fun other : BookLevel => decide (Decimal.Same other.price price)) ∘
        fun other => if Decimal.Same other.price level.price then ⟨other.price, level.size⟩ else other) =
        fun other => decide (Decimal.Same other.price price) := by
      funext other
      rw [Function.comp_apply]
      split_ifs <;> rfl
    rw [hpred]
    change (levelAt levels price).map _ = levelAt levels price
    cases hfound : levelAt levels price with
    | none => rfl
    | some other =>
      have hother := (levelAt_eq_some hfound).2
      rw [Option.map_some, if_neg fun hsame =>
        hprice ((Decimal.same_iff.mp hsame).symm.trans hother)]
  · have hnone : levelAt levels level.price = none := by
      by_contra hsome
      exact hany (any_same_iff.mpr (levelAt_ne_none.mp hsome))
    rw [hnone]
    rw [levelAt_congr levels hprice] at hnone
    rw [levelAt_append, hnone, if_pos hprice]
    rfl
  · rw [levelAt_append, if_neg hprice, Option.or_none]

/-! ## What a listing comes to -/

/-- What a listing comes to at a price: the price as it is written first, and the sizes added up in
the order they are listed in.  Sizes that are zero are passed over. -/
def shownAt (listed : List BookLevel) (price : Decimal) : Option BookLevel :=
  match listed.filter fun level => ¬ level.size.isZero ∧ Decimal.Same level.price price with
  | [] => none
  | first :: rest => some ⟨first.price, (first :: rest).foldl (fun sum level => sum + level.size) 0⟩

/-- A level more in a listing. -/
theorem shownAt_append_singleton (listed : List BookLevel) (level : BookLevel) (price : Decimal) :
    shownAt (listed ++ [level]) price =
      if ¬ level.size.isZero ∧ level.price.toRat = price.toRat then
        some ⟨((shownAt listed price).map BookLevel.price).getD level.price,
          ((shownAt listed price).map BookLevel.size).getD 0 + level.size⟩
      else shownAt listed price := by
  unfold shownAt
  rw [List.filter_append]
  by_cases hlevel : ¬ level.size.isZero ∧ level.price.toRat = price.toRat
  · have hkept : [level].filter (fun level =>
        decide (¬ level.size.isZero ∧ Decimal.Same level.price price)) = [level] := by
      simp [hlevel.1, Decimal.same_iff.mpr hlevel.2]
    rw [if_pos hlevel, hkept]
    cases listed.filter fun level => decide (¬ level.size.isZero ∧ Decimal.Same level.price price) with
    | nil => rfl
    | cons first rest =>
      dsimp only [List.cons_append]
      rw [← List.cons_append, List.foldl_append]
      rfl
  · have hkept : [level].filter (fun level =>
        decide (¬ level.size.isZero ∧ Decimal.Same level.price price)) = [] := by
      refine List.filter_eq_nil_iff.mpr fun other hother h => hlevel ?_
      rw [List.mem_singleton.mp hother] at h
      obtain ⟨hzero, hsame⟩ := of_decide_eq_true h
      exact ⟨hzero, Decimal.same_iff.mp hsame⟩
    rw [if_neg hlevel, hkept, List.append_nil]

/-- What adding a level does to the entry of a price. -/
theorem levelAt_addSize (merged : List BookLevel) (level : BookLevel) (price : Decimal) :
    levelAt (addSize merged level) price =
      if ¬ level.size.isZero ∧ level.price.toRat = price.toRat then
        some ⟨((levelAt merged price).map BookLevel.price).getD level.price,
          ((levelAt merged price).map BookLevel.size).getD 0 + level.size⟩
      else levelAt merged price := by
  unfold addSize
  by_cases hzero : level.size.isZero
  · rw [if_pos hzero, if_neg fun h => h.1 hzero]
  · rw [if_neg hzero, levelAt_setSize, sizeAt_eq]
    by_cases hprice : level.price.toRat = price.toRat
    · rw [if_pos hprice, if_pos ⟨hzero, hprice⟩, levelAt_congr merged hprice]
    · rw [if_neg hprice, if_neg fun h => hprice h.2]

/-- **The merged levels have at every price what the listing comes to.** -/
theorem levelAt_merge (listed : List BookLevel) (price : Decimal) :
    levelAt (merge listed) price = shownAt listed price := by
  induction listed using List.reverseRecOn with
  | nil => rfl
  | append_singleton listed level ih =>
    unfold merge at ih ⊢
    rw [List.foldl_append, List.foldl_cons, List.foldl_nil, levelAt_addSize, ih,
      shownAt_append_singleton]

/-- Sizes that are not negative are merged into a dictionary with positive sizes. -/
theorem merge_sideOk {listed : List BookLevel} (hsizes : ∀ level ∈ listed, 0 ≤ level.size.toRat) :
    SideOk (merge listed) := by
  induction listed using List.reverseRecOn with
  | nil => exact SideOk.nil
  | append_singleton listed level ih =>
    have hok : SideOk (merge listed) :=
      ih fun other hother => hsizes other (List.mem_append_left _ hother)
    have hsize : 0 ≤ level.size.toRat := hsizes level (List.mem_append_right _ List.mem_cons_self)
    unfold merge at hok ⊢
    rw [List.foldl_append, List.foldl_cons, List.foldl_nil]
    generalize listed.foldl addSize [] = merged at hok ⊢
    unfold addSize
    by_cases hzero : level.size.isZero
    · rw [if_pos hzero]
      exact hok
    · rw [if_neg hzero]
      have hpos : 0 < level.size.toRat :=
        lt_of_le_of_ne hsize fun h => hzero (Decimal.isZero_iff.mpr h.symm)
      have hbefore : 0 ≤ (sizeAt merged level.price).toRat := by
        rw [sizeAt_eq]
        cases hfound : levelAt merged level.price with
        | none => exact Decimal.toRat_zero.ge
        | some shown => exact (hok.positive shown (levelAt_eq_some hfound).1).le
      have hsum : 0 < (sizeAt merged level.price + level.size).toRat :=
        Decimal.fix_pos (by rw [Decimal.toRat_rawAdd]; linarith)
      have hwrite : SideOk (writeLevel merged ⟨level.price, sizeAt merged level.price + level.size⟩) :=
        hok.write hsum.le
      unfold writeLevel at hwrite
      rwa [if_neg fun h => hsum.ne' (Decimal.isZero_iff.mp h)] at hwrite

/-- Dictionaries with one entry for each price are determined by the entries. -/
theorem perm_iff_levelAt {levels other : List BookLevel} (hok : SideOk levels) (hok' : SideOk other) :
    levels.Perm other ↔ ∀ price, levelAt levels price = levelAt other price := by
  constructor
  · intro hperm price
    refine Option.ext fun level => ?_
    rw [levelAt_eq_some_iff hok, levelAt_eq_some_iff hok', hperm.mem_iff]
  · intro hsame
    refine (List.perm_ext_iff_of_nodup (List.Nodup.of_map _ hok.distinct)
      (List.Nodup.of_map _ hok'.distinct)).mpr fun level => ?_
    have hself := hsame level.price
    constructor
    · intro hmem
      rw [(levelAt_eq_some_iff hok).mpr ⟨hmem, rfl⟩] at hself
      exact ((levelAt_eq_some_iff hok').mp hself.symm).1
    · intro hmem
      rw [(levelAt_eq_some_iff hok').mpr ⟨hmem, rfl⟩] at hself
      exact ((levelAt_eq_some_iff hok).mp hself).1

/-- **Two listings have the same levels exactly when they come to the same at every price.** -/
theorem byPrice_merge_iff {listed other : List BookLevel}
    (hsizes : ∀ level ∈ listed, 0 ≤ level.size.toRat)
    (hsizes' : ∀ level ∈ other, 0 ≤ level.size.toRat) :
    byPrice (merge listed) = byPrice (merge other) ↔
      ∀ price, shownAt listed price = shownAt other price := by
  have hok := merge_sideOk hsizes
  have hok' := merge_sideOk hsizes'
  have hperm := perm_iff_levelAt hok hok'
  simp only [levelAt_merge] at hperm
  rw [← hperm]
  constructor
  · intro hsorted
    have hback := byPrice_perm (merge other)
    rw [← hsorted] at hback
    exact (byPrice_perm (merge listed)).symm.trans hback
  · exact hok.byPrice_congr

/-! ## What is hashed -/

section Hash

variable {F : Type} (A : ShadowFloats F)

theorem canonicalize_textOrNull (value : Option Decimal) :
    canonicalize A.toFloats (textOrNull value) = .ok (textOrNull value) := by
  cases value <;> simp [textOrNull, canonicalize]

theorem canonicalizeItems_levels (levels : List BookLevel) :
    canonicalizeItems A.toFloats (levels.map fun level =>
      .list [.text level.price.text, .text level.size.text]) =
      .ok (levels.map fun level => .list [.text level.price.text, .text level.size.text]) := by
  induction levels with
  | nil => simp [canonicalizeItems]
  | cons level levels ih =>
    rw [List.map_cons, canonicalizeItems, ih]
    simp [canonicalize, canonicalizeItems]

/-- The semantic values are canonical as they are. -/
theorem canonicalHash_semanticValues (r : V4FreshBookShadowResult) :
    canonicalHash A.toFloats (semanticValues r) = .ok (A.digest (semanticValues r)) := by
  have hcanonical : canonicalize A.toFloats (semanticValues r) = .ok (semanticValues r) := by
    unfold semanticValues
    simp [canonicalize, canonicalizeEntries, canonicalize_textOrNull, canonicalizeItems_levels]
  unfold canonicalHash
  rw [hcanonical]
  rfl

/-- Semantic values tell the levels apart, with the forms they are written in. -/
theorem displayedAskLevels_eq {r s : V4FreshBookShadowResult}
    (h : (semanticValues r : Value F) = semanticValues s) :
    r.displayedAskLevels = s.displayedAskLevels := by
  have hlevels : (r.displayedAskLevels.map fun level =>
      (.list [.text level.price.text, .text level.size.text] : Value F)) =
      s.displayedAskLevels.map fun level => .list [.text level.price.text, .text level.size.text] := by
    unfold semanticValues at h
    simp only [Value.obj.injEq, List.cons.injEq, Prod.mk.injEq, Value.list.injEq] at h
    tauto
  refine List.map_injective_iff.mpr ?_ hlevels
  intro level other heq
  simp only [Value.list.injEq, List.cons.injEq, Value.text.injEq] at heq
  obtain ⟨hprice, hsize, -⟩ := heq
  cases level
  cases other
  rw [BookLevel.mk.injEq]
  exact ⟨Decimal.text_injective hprice, Decimal.text_injective hsize⟩

/-- A result shows the levels it was made from and has the digest of its semantic values. -/
theorem evaluateLevels_eq_ok {p : Accepted} {levels : List BookLevel} {r : V4FreshBookShadowResult}
    (h : evaluateLevels A p levels = .ok r) :
    r.displayedAskLevels = levels ∧ r.semanticSha256 = A.digest (semanticValues r) := by
  obtain ⟨decision, -, h⟩ := bind_eq_ok.mp h
  obtain ⟨ordered, -, h⟩ := bind_eq_ok.mp h
  rw [canonicalHash_semanticValues, ok_bind] at h
  cases h
  exact ⟨rfl, rfl⟩

end Hash

/-! ## The evaluation of two listings -/

/-- What `==` of two results compares: numbers by their values. -/
def compared (r : V4FreshBookShadowResult) :
    List String × List Timestamp × List Bool × List (Option ℚ) × List (ℚ × ℚ) :=
  ([r.shadowVersion, r.predictionId, r.modelSha256, r.sourceFeatureVersion, r.conditionId, r.tokenId,
      r.selectedSide, r.decisionReason, r.semanticSha256],
    [r.decisionAt, r.predictionRecordedAt, r.quoteObservedAt],
    [r.extremeEdgeObservation, r.trade, r.fullFill],
    [some r.probabilityUp.toRat, some r.sideProbability.toRat, r.bestAsk.map Decimal.toRat,
      r.limitPrice.map Decimal.toRat, r.rawEdge.map Decimal.toRat,
      r.feePerShareAtSignal.map Decimal.toRat, r.costAdjustedEdge.map Decimal.toRat,
      some r.requestedShares.toRat, some r.filledShares.toRat, some r.grossFillCost.toRat,
      some r.totalFees.toRat, some r.totalFillCost.toRat],
    r.displayedAskLevels.map fun level => (level.price.toRat, level.size.toRat))

section Listings

variable {F : Type} {A : ShadowFloats F}

theorem decimal_nonneg_of_not_lt {d : Decimal} (h : ¬ d < 0) : 0 ≤ d.toRat := by
  rw [Decimal.lt_iff, Decimal.toRat_zero, not_lt] at h
  exact h

/-- What the checks of a level say. -/
theorem readLevel_eq_ok {raw : Field F × Field F} {level : BookLevel} (h : readLevel A raw = .ok level) :
    (0 < level.price.toRat ∧ level.price.toRat ≤ 1) ∧ 0 ≤ level.size.toRat := by
  obtain ⟨price, -, h⟩ := bind_eq_ok.mp h
  obtain ⟨size, -, h⟩ := bind_eq_ok.mp h
  obtain ⟨_, hprice, h⟩ := bind_eq_ok.mp h
  obtain ⟨_, hsize, h⟩ := bind_eq_ok.mp h
  cases h
  obtain ⟨hpos, hone⟩ := require_eq_ok.mp hprice
  rw [Decimal.lt_iff, Decimal.toRat_zero] at hpos
  rw [Decimal.le_iff, Decimal.toRat_one] at hone
  exact ⟨⟨hpos, hone⟩, decimal_nonneg_of_not_lt (require_eq_ok.mp hsize)⟩

/-- What a property of read levels says about all of a listing. -/
theorem forall_of_readLevels {P : BookLevel → Prop} {raw : List (Field F × Field F)}
    {listed : List BookLevel} (h : raw.mapM (readLevel A) = .ok listed)
    (hP : ∀ value level, readLevel A value = .ok level → P level) : ∀ level ∈ listed, P level := by
  induction raw generalizing listed with
  | nil =>
    cases h
    exact fun level hlevel => nomatch hlevel
  | cons value raw ih =>
    rw [List.mapM_cons] at h
    obtain ⟨first, hfirst, h⟩ := bind_eq_ok.mp h
    obtain ⟨rest, hrest, h⟩ := bind_eq_ok.mp h
    cases h
    intro level hlevel
    rcases List.mem_cons.mp hlevel with rfl | hlevel
    · exact hP value level hfirst
    · exact ih hrest level hlevel

/-- An evaluation reads the prediction, reads the levels and evaluates them. -/
theorem evaluate_eq {prediction : List (String × Field F)} {observedAt : Field F} {p : Accepted}
    (haccept : acceptPrediction A prediction observedAt = .ok p) {asks : List (Field F × Field F)}
    {listed : List BookLevel} (hread : asks.mapM (readLevel A) = .ok listed) :
    evaluateV4FreshBookShadow A prediction asks observedAt =
      evaluateLevels A p (byPrice (merge listed)) := by
  unfold evaluateV4FreshBookShadow levelsOf
  rw [haccept, ok_bind, hread]
  rfl

/-- **Two listings have the same evaluation, with the same hash, exactly when they come to the same at
every price**, in the forms that are written.  The digest does not collide on the two results. -/
theorem listing_iff {prediction : List (String × Field F)} {asks other : List (Field F × Field F)}
    {observedAt : Field F} {listed listed' : List BookLevel} {result : V4FreshBookShadowResult}
    (hread : asks.mapM (readLevel A) = .ok listed) (hread' : other.mapM (readLevel A) = .ok listed')
    (hresult : evaluateV4FreshBookShadow A prediction asks observedAt = .ok result)
    (hdigest : ∀ result', evaluateV4FreshBookShadow A prediction other observedAt = .ok result' →
      A.digest (semanticValues result) = A.digest (semanticValues result') →
        (semanticValues result : Value F) = semanticValues result') :
    (∃ result', evaluateV4FreshBookShadow A prediction other observedAt = .ok result' ∧
        compared result = compared result') ↔
      ∀ price, shownAt listed price = shownAt listed' price := by
  obtain ⟨p, haccept, -⟩ := bind_eq_ok.mp hresult
  have hsizes : ∀ level ∈ listed, 0 ≤ level.size.toRat :=
    forall_of_readLevels hread fun _ _ h => (readLevel_eq_ok h).2
  have hsizes' : ∀ level ∈ listed', 0 ≤ level.size.toRat :=
    forall_of_readLevels hread' fun _ _ h => (readLevel_eq_ok h).2
  rw [← byPrice_merge_iff hsizes hsizes']
  have hresult' := hresult
  rw [evaluate_eq haccept hread] at hresult'
  obtain ⟨hlevels, hhash⟩ := evaluateLevels_eq_ok A hresult'
  constructor
  · rintro ⟨result', hother, hsame⟩
    have hother' := hother
    rw [evaluate_eq haccept hread'] at hother'
    obtain ⟨hlevels', hhash'⟩ := evaluateLevels_eq_ok A hother'
    have htexts := congrArg Prod.fst hsame
    have hhashes : result.semanticSha256 = result'.semanticSha256 := by
      simp only [compared, List.cons.injEq] at htexts
      tauto
    rw [hhash, hhash'] at hhashes
    rw [← hlevels, ← hlevels']
    exact displayedAskLevels_eq (hdigest result' hother hhashes)
  · intro hsame
    refine ⟨result, ?_, rfl⟩
    rw [evaluate_eq haccept hread', ← hsame]
    exact hresult'

end Listings

/-! ### A price in two forms -/

/-- Exact numbers in the place of floats, with twelve decimals in their texts; the digest of semantic
values is the first price of their levels. -/
def rationals : ShadowFloats ℚ where
  ofDecimal := Decimal.toRat
  ofInt n := n
  totalSeconds n := n / 1000000
  isFinite _ := true
  isPositive q := 0 < q
  isNegative q := q < 0
  add := (· + ·)
  sub := (· - ·)
  div := (· / ·)
  log _ := none
  pstdev _ := 0
  digest values :=
    match values with
    | .obj entries =>
      match entries.lookup "displayed_ask_levels" with
      | some (.list (.list (.text price :: _) :: _)) => price
      | _ => ""
    | _ => ""
  mul := (· * ·)
  neg q := -q
  exp _ := 1
  lt a b := a < b
  le a b := a ≤ b
  same a b := a = b
  trunc q := q.num.tdiv q.den
  repr q := (⟨(q * 10 ^ 12).floor, -12⟩ : Decimal).text
  shown q := ⟨(q * 10 ^ 12).floor, -12⟩

/-- A prediction of Up with nine tenths. -/
def upPrediction : List (String × Field ℚ) :=
  [("model_sha256", .text frozenV4ModelSha256),
    ("source_feature_version", .text v4SourceTimeFeatureVersion),
    ("prediction_id", .text "prediction"), ("condition_id", .text "market"),
    ("decision_at", .aware 0), ("recorded_at", .aware 0), ("probability_up", .text "0.9"),
    ("up_token_id", .text "up")]

/-- Ten shares at one half, twice, with the price in two forms. -/
def twoForms : List (Field ℚ × Field ℚ) := [(.text "0.50", .text "10"), (.text "0.5", .text "10")]

theorem listing_iff_sample :
    ∃ result, evaluateV4FreshBookShadow rationals upPrediction twoForms (.aware 0) = .ok result ∧
      ((∃ result', evaluateV4FreshBookShadow rationals upPrediction twoForms (.aware 0) = .ok result' ∧
          compared result = compared result') ↔
        ∀ price, shownAt [⟨⟨50, -2⟩, ⟨10, 0⟩⟩, ⟨⟨5, -1⟩, ⟨10, 0⟩⟩] price =
          shownAt [⟨⟨50, -2⟩, ⟨10, 0⟩⟩, ⟨⟨5, -1⟩, ⟨10, 0⟩⟩] price) := by
  have hread : twoForms.mapM (readLevel rationals) =
      .ok [⟨⟨50, -2⟩, ⟨10, 0⟩⟩, ⟨⟨5, -1⟩, ⟨10, 0⟩⟩] := by decide +kernel
  have hreturns : (match
      evaluateV4FreshBookShadow rationals upPrediction twoForms (.aware 0) with
      | .ok _ => true
      | .error _ => false) = true := by decide +kernel
  cases hresult : evaluateV4FreshBookShadow rationals upPrediction twoForms (.aware 0) with
  | error raised => simp [hresult] at hreturns
  | ok result =>
    refine ⟨result, rfl, ?_⟩
    rw [← hresult]
    refine listing_iff hread hread hresult fun result' hother _ => ?_
    rw [Except.ok.inj (hresult.symm.trans hother)]

/-- The hash of a listing and that of the listing turned round are two. -/
theorem notation_changes_hash :
    ∃ result result',
      evaluateV4FreshBookShadow rationals upPrediction twoForms (.aware 0) = .ok result ∧
      evaluateV4FreshBookShadow rationals upPrediction twoForms.reverse (.aware 0) = .ok result' ∧
      result.semanticSha256 ≠ result'.semanticSha256 := by
  have hhashes :
      (evaluateV4FreshBookShadow rationals upPrediction twoForms (.aware 0)).toOption.any
        (fun result =>
          (evaluateV4FreshBookShadow rationals upPrediction twoForms.reverse (.aware 0)).toOption.any
            fun result' => decide (result.semanticSha256 ≠ result'.semanticSha256)) = true := by
    decide +kernel
  cases hresult : evaluateV4FreshBookShadow rationals upPrediction twoForms (.aware 0) with
  | error raised => simp [hresult, Except.toOption] at hhashes
  | ok result =>
    cases hresult' : evaluateV4FreshBookShadow rationals upPrediction twoForms.reverse (.aware 0) with
    | error raised => simp [hresult, hresult', Except.toOption] at hhashes
    | ok result' =>
      rw [hresult, hresult'] at hhashes
      exact ⟨result, result', rfl, rfl, of_decide_eq_true hhashes⟩

end BpEngine.V4Paper
