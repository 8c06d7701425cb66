import BpEngine.Execution.Book
import BpEngine.Library.Rounding

/-!
# Dictionaries of levels

The dictionaries from prices to sizes of a replay, as lists of their items.

* `SideOk` says that there is one entry per price, and only positive sizes; `SideOk.write` keeps it.
* `sizeAt_setSize`, `sizeAt_dropPrice` and `toRat_sizeAt_writeLevel` say what a dictionary shows after a
  change; `SideOk.sizeAt_perm` that the order of its entries does not matter.
* `SideOk.pairwise_byPrice`, `SideOk.byPrice_congr` and their likes are about the sorted dictionaries.
-/

namespace BpEngine.BookReplay

open PaperLedger (BookLevel setSize sizeAt byPrice)

/-! ## Entries -/

/-- The prices of a dictionary, as numbers. -/
def pricesOf (levels : List BookLevel) : List ℚ := levels.map (·.price.toRat)

/-- One entry per price, with a positive size. -/
structure SideOk (levels : List BookLevel) : Prop where
  distinct : (pricesOf levels).Nodup
  positive : ∀ level ∈ levels, 0 < level.size.toRat

theorem SideOk.nil : SideOk [] := ⟨List.nodup_nil, fun _ hlevel => nomatch hlevel⟩

theorem SideOk.perm {levels other : List BookLevel} (hok : SideOk levels)
    (hperm : levels.Perm other) : SideOk other :=
  ⟨(hperm.map _).nodup_iff.mp hok.distinct, fun level hlevel =>
    hok.positive level (hperm.mem_iff.mpr hlevel)⟩

@[simp] theorem sizeAt_nil (price : Decimal) : sizeAt [] price = 0 := rfl

theorem sizeAt_cons (level : BookLevel) (levels : List BookLevel) (price : Decimal) :
    sizeAt (level :: levels) price =
      if level.price.toRat = price.toRat then level.size else sizeAt levels price := by
  unfold sizeAt
  rw [List.find?_cons]
  by_cases h : Decimal.Same level.price price
  · rw [if_pos (Decimal.same_iff.mp h), decide_eq_true h]
  · rw [if_neg fun heq => h (Decimal.same_iff.mpr heq), decide_eq_false h]

theorem sizeAt_eq_zero {levels : List BookLevel} {price : Decimal}
    (h : price.toRat ∉ pricesOf levels) : sizeAt levels price = 0 := by
  induction levels with
  | nil => rfl
  | cons level levels ih =>
    have hne : ¬ level.price.toRat = price.toRat := fun heq => h (by simp [pricesOf, heq])
    rw [sizeAt_cons, if_neg hne]
    exact ih fun hmem => h (List.mem_cons_of_mem _ hmem)

/-- A dictionary shows the sizes of its entries. -/
theorem SideOk.sizeAt_of_mem {levels : List BookLevel} (hok : SideOk levels) {level : BookLevel}
    (hmem : level ∈ levels) {price : Decimal} (hprice : level.price.toRat = price.toRat) :
    sizeAt levels price = level.size := by
  induction levels with
  | nil => cases hmem
  | cons first rest ih =>
    have hnodup := List.nodup_cons.mp hok.distinct
    rw [sizeAt_cons]
    rcases List.mem_cons.mp hmem with rfl | hrest
    · rw [if_pos hprice]
    · have hne : ¬ first.price.toRat = price.toRat := by
        intro heq
        have hmem : level.price.toRat ∈ pricesOf rest := List.mem_map_of_mem hrest
        rw [hprice, ← heq] at hmem
        exact hnodup.1 hmem
      rw [if_neg hne]
      exact ih ⟨hnodup.2, fun l hl => hok.positive l (List.mem_cons_of_mem _ hl)⟩ hrest

theorem SideOk.sizeAt_perm {levels other : List BookLevel} (hok : SideOk levels)
    (hperm : levels.Perm other) (price : Decimal) : sizeAt other price = sizeAt levels price := by
  by_cases hmem : price.toRat ∈ pricesOf levels
  · obtain ⟨level, hlevel, hprice⟩ := List.mem_map.mp hmem
    rw [hok.sizeAt_of_mem hlevel hprice, (hok.perm hperm).sizeAt_of_mem (hperm.mem_iff.mp hlevel) hprice]
  · have hother : price.toRat ∉ pricesOf other := fun h => hmem ((hperm.map _).mem_iff.mpr h)
    rw [sizeAt_eq_zero hmem, sizeAt_eq_zero hother]

theorem any_same_iff {levels : List BookLevel} {price : Decimal} :
    (levels.any fun level => Decimal.Same level.price price) = true ↔
      price.toRat ∈ pricesOf levels := by
  simp [pricesOf, Decimal.same_iff]

theorem hasPrice_iff {levels : List BookLevel} {price : Decimal} :
    hasPrice levels price = true ↔ price.toRat ∈ pricesOf levels := any_same_iff

theorem sizeAt_map_set (levels : List BookLevel) (level : BookLevel) (price : Decimal) :
    sizeAt (levels.map fun shown =>
      if Decimal.Same shown.price level.price then ⟨shown.price, level.size⟩ else shown) price =
      if level.price.toRat = price.toRat ∧ price.toRat ∈ pricesOf levels then level.size
      else sizeAt levels price := by
  induction levels with
  | nil => simp [pricesOf]
  | cons first rest ih =>
    rw [List.map_cons, sizeAt_cons, ih, sizeAt_cons]
    by_cases hfirst : Decimal.Same first.price level.price
    · have heq := Decimal.same_iff.mp hfirst
      by_cases hprice : level.price.toRat = price.toRat
      · simp [pricesOf, hfirst, hprice, heq]
      · have hne : ¬ first.price.toRat = price.toRat := fun h => hprice (heq.symm.trans h)
        simp [pricesOf, hfirst, hprice, hne]
    · have heq : ¬ first.price.toRat = level.price.toRat := fun h => hfirst (Decimal.same_iff.mpr h)
      by_cases hprice : level.price.toRat = price.toRat
      · have hne : ¬ first.price.toRat = price.toRat := fun h => heq (h.trans hprice.symm)
        have hne' : ¬ price.toRat = first.price.toRat := fun h => hne h.symm
        simp [pricesOf, hfirst, hprice, hne, hne']
      · simp [hfirst, hprice]

theorem sizeAt_append_singleton (levels : List BookLevel) (level : BookLevel) (price : Decimal) :
    sizeAt (levels ++ [level]) price =
      if price.toRat ∈ pricesOf levels then sizeAt levels price
      else if level.price.toRat = price.toRat then level.size else 0 := by
  induction levels with
  | nil => simp [pricesOf, sizeAt_cons]
  | cons first rest ih =>
    rw [List.cons_append, sizeAt_cons, ih, sizeAt_cons]
    by_cases hfirst : first.price.toRat = price.toRat
    · simp [pricesOf, hfirst]
    · have hne : ¬ price.toRat = first.price.toRat := fun h => hfirst h.symm
      simp [pricesOf, hfirst, hne]

/-- `levels[price] = size` changes the size at that price. -/
theorem sizeAt_setSize (levels : List BookLevel) (level : BookLevel) (price : Decimal) :
    sizeAt (setSize levels level) price =
      if level.price.toRat = price.toRat then level.size else sizeAt levels price := by
  unfold setSize
  split_ifs with hany hprice hprice
  · rw [sizeAt_map_set, if_pos ⟨hprice, hprice ▸ any_same_iff.mp hany⟩]
  · rw [sizeAt_map_set, if_neg fun h => hprice h.1]
  · have hnot : price.toRat ∉ pricesOf levels := fun h => hany (any_same_iff.mpr (hprice ▸ h))
    rw [sizeAt_append_singleton, if_neg hnot, if_pos hprice]
  · rw [sizeAt_append_singleton, if_neg hprice]
    split_ifs with hmem
    · rfl
    · exact (sizeAt_eq_zero hmem).symm

theorem sizeAt_dropPrice (levels : List BookLevel) (dropped price : Decimal) :
    sizeAt (dropPrice levels dropped) price =
      if dropped.toRat = price.toRat then 0 else sizeAt levels price := by
  induction levels with
  | nil => simp [dropPrice]
  | cons first rest ih =>
    unfold dropPrice at ih ⊢
    rw [List.filter_cons, sizeAt_cons]
    by_cases hfirst : Decimal.Same first.price dropped
    · have heq := Decimal.same_iff.mp hfirst
      rw [if_neg (by simpa using hfirst), ih]
      by_cases hprice : dropped.toRat = price.toRat
      · rw [if_pos hprice, if_pos hprice]
      · rw [if_neg hprice, if_neg hprice, if_neg fun h => hprice (heq.symm.trans h)]
    · rw [if_pos (by simpa using hfirst), sizeAt_cons, ih]
      by_cases hprice : dropped.toRat = price.toRat
      · have hne : ¬ first.price.toRat = price.toRat := fun h =>
          hfirst (Decimal.same_iff.mpr (h.trans hprice.symm))
        rw [if_neg hne, if_pos hprice, if_pos hprice]
      · rw [if_neg hprice, if_neg hprice]

/-- **A change of a level** gives its size to its price. -/
theorem toRat_sizeAt_writeLevel (levels : List BookLevel) (level : BookLevel) (price : Decimal) :
    (sizeAt (writeLevel levels level) price).toRat =
      if level.price.toRat = price.toRat then level.size.toRat else (sizeAt levels price).toRat := by
  unfold writeLevel
  split_ifs with hzero hprice hprice
  · rw [sizeAt_dropPrice, if_pos hprice, Decimal.toRat_zero, Decimal.isZero_iff.mp hzero]
  · rw [sizeAt_dropPrice, if_neg hprice]
  · rw [sizeAt_setSize, if_pos hprice]
  · rw [sizeAt_setSize, if_neg hprice]

theorem pricesOf_map_set (levels : List BookLevel) (level : BookLevel) :
    pricesOf (levels.map fun shown =>
      if Decimal.Same shown.price level.price then ⟨shown.price, level.size⟩ else shown) =
      pricesOf levels := by
  unfold pricesOf
  rw [List.map_map]
  refine List.map_congr_left fun shown _ => ?_
  rw [Function.comp_apply]
  split_ifs <;> rfl

theorem SideOk.append {levels : List BookLevel} (hok : SideOk levels) {level : BookLevel}
    (hnew : level.price.toRat ∉ pricesOf levels) (hsize : 0 < level.size.toRat) :
    SideOk (levels ++ [level]) := by
  refine ⟨?_, fun shown hshown => ?_⟩
  · unfold pricesOf
    rw [List.map_append, List.map_singleton, List.nodup_append]
    refine ⟨hok.distinct, List.nodup_singleton _, ?_⟩
    rintro a ha b hb rfl
    rw [List.mem_singleton] at hb
    exact hnew (hb ▸ ha)
  · rcases List.mem_append.mp hshown with h | h
    · exact hok.positive shown h
    · rw [List.mem_singleton.mp h]
      exact hsize

/-- A change of a level with a size that is not negative keeps a dictionary in order. -/
theorem SideOk.write {levels : List BookLevel} (hok : SideOk levels) {level : BookLevel}
    (hsize : 0 ≤ level.size.toRat) : SideOk (writeLevel levels level) := by
  unfold writeLevel
  split_ifs with hzero
  · exact ⟨hok.distinct.sublist (List.filter_sublist.map _), fun shown hshown =>
      hok.positive shown (List.mem_of_mem_filter hshown)⟩
  · have hpos : 0 < level.size.toRat :=
      lt_of_le_of_ne hsize fun h => hzero (Decimal.isZero_iff.mpr h.symm)
    unfold setSize
    split_ifs with hany
    · refine ⟨?_, fun shown hshown => ?_⟩
      · rw [pricesOf_map_set]
        exact hok.distinct
      · obtain ⟨before, hbefore, rfl⟩ := List.mem_map.mp hshown
        split_ifs
        · exact hpos
        · exact hok.positive before hbefore
    · exact hok.append (fun hmem => hany (any_same_iff.mpr hmem)) hpos

/-- What a list shows at a price depends on its end only through what the end shows there. -/
theorem toRat_sizeAt_append_congr (front : List BookLevel) {levels other : List BookLevel}
    {price : Decimal} (h : (sizeAt levels price).toRat = (sizeAt other price).toRat) :
    (sizeAt (front ++ levels) price).toRat = (sizeAt (front ++ other) price).toRat := by
  induction front with
  | nil => exact h
  | cons first rest ih =>
    rw [List.cons_append, List.cons_append, sizeAt_cons, sizeAt_cons]
    split_ifs
    · rfl
    · exact ih

/-! ## Sorting -/

instance : Std.Total fun a b : BookLevel => a.price ≤ b.price :=
  ⟨fun a b => by
    rw [Decimal.le_iff, Decimal.le_iff]
    exact le_total _ _⟩

instance : IsTrans BookLevel fun a b => a.price ≤ b.price :=
  ⟨fun a b c hab hbc => by
    rw [Decimal.le_iff] at hab hbc ⊢
    exact hab.trans hbc⟩

instance : Std.Total fun a b : BookLevel => b.price ≤ a.price :=
  ⟨fun a b => by
    rw [Decimal.le_iff, Decimal.le_iff]
    exact le_total _ _⟩

instance : IsTrans BookLevel fun a b => b.price ≤ a.price :=
  ⟨fun a b c hab hbc => by
    rw [Decimal.le_iff] at hab hbc ⊢
    exact hbc.trans hab⟩

theorem byPrice_perm (levels : List BookLevel) : (byPrice levels).Perm levels :=
  List.perm_insertionSort _ _

theorem bestBidFirst_perm (levels : List BookLevel) : (bestBidFirst levels).Perm levels :=
  List.perm_insertionSort _ _

/-- Entries of a dictionary with one price are one entry. -/
theorem SideOk.eq_of_price {levels : List BookLevel} (hok : SideOk levels) {a b : BookLevel}
    (ha : a ∈ levels) (hb : b ∈ levels) (hprice : a.price.toRat = b.price.toRat) : a = b :=
  List.inj_on_of_nodup_map hok.distinct ha hb hprice

/-- A sorted dictionary has its prices in strict order. -/
theorem SideOk.pairwise_byPrice {levels : List BookLevel} (hok : SideOk levels) :
    (byPrice levels).Pairwise fun a b => a.price < b.price := by
  have hsorted := List.pairwise_insertionSort (fun a b : BookLevel => a.price ≤ b.price) levels
  have hdistinct := (hok.perm (byPrice_perm levels).symm).distinct
  refine (hsorted.and (List.pairwise_map.mp hdistinct)).imp ?_
  rintro a b ⟨hle, hne⟩
  rw [Decimal.lt_iff]
  exact lt_of_le_of_ne (Decimal.le_iff.mp hle) hne

theorem SideOk.pairwise_bestBidFirst {levels : List BookLevel} (hok : SideOk levels) :
    (bestBidFirst levels).Pairwise fun a b => b.price < a.price := by
  have hsorted := List.pairwise_insertionSort (fun a b : BookLevel => b.price ≤ a.price) levels
  have hdistinct := (hok.perm (bestBidFirst_perm levels).symm).distinct
  refine (hsorted.and (List.pairwise_map.mp hdistinct)).imp ?_
  rintro a b ⟨hle, hne⟩
  rw [Decimal.lt_iff]
  exact lt_of_le_of_ne (Decimal.le_iff.mp hle) (Ne.symm hne)

/-- Dictionaries with the same entries are sorted alike. -/
theorem SideOk.byPrice_congr {levels other : List BookLevel} (hok : SideOk levels)
    (hperm : levels.Perm other) : byPrice levels = byPrice other := by
  have hsame := ((byPrice_perm levels).trans hperm).trans (byPrice_perm other).symm
  refine hsame.eq_of_pairwise (fun a b ha hb hab hba => ?_) (List.pairwise_insertionSort _ _)
    (List.pairwise_insertionSort _ _)
  have hmem := (byPrice_perm levels).mem_iff.mp ha
  have hmem' := (byPrice_perm levels).mem_iff.mp (hsame.mem_iff.mpr hb)
  exact hok.eq_of_price hmem hmem' (le_antisymm (Decimal.le_iff.mp hab) (Decimal.le_iff.mp hba))

theorem SideOk.bestBidFirst_congr {levels other : List BookLevel} (hok : SideOk levels)
    (hperm : levels.Perm other) : bestBidFirst levels = bestBidFirst other := by
  have hsame := ((bestBidFirst_perm levels).trans hperm).trans (bestBidFirst_perm other).symm
  refine hsame.eq_of_pairwise (fun a b ha hb hab hba => ?_) (List.pairwise_insertionSort _ _)
    (List.pairwise_insertionSort _ _)
  have hmem := (bestBidFirst_perm levels).mem_iff.mp ha
  have hmem' := (bestBidFirst_perm levels).mem_iff.mp (hsame.mem_iff.mpr hb)
  exact hok.eq_of_price hmem hmem' (le_antisymm (Decimal.le_iff.mp hba) (Decimal.le_iff.mp hab))

end BpEngine.BookReplay
