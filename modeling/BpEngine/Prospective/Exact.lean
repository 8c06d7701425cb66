import BpEngine.Prospective.Policy

/-!
# Exact arithmetic and the training prior

The arithmetic of an ordered field, and what a prior is in it.

* `exact` leaves the logarithm and the exponential abstract; `applyCalibration_clip` says that a
  probability may be clipped before it is calibrated.
* `foldPredictorFit_exact` and `trainingPrior_exact` : the weighted prior of training rows and the mean
  of training labels are both means over the markets.
-/

namespace BpEngine.Prospective

open BpEngine.Calibration BpEngine.Features BpEngine.PaperLedger

/-! ## Labels -/

/-- What the label of a market says, `1` for Up. -/
def labelTarget (labels : LabelTable) (labelVersion conditionId : String) : ℤ :=
  match labels.rows.find? fun label =>
      label.conditionId = conditionId ∧ label.labelVersion = labelVersion with
  | some label => if label.officialOutcome = "Up" then 1 else 0
  | none => 0

theorem labelTarget_eq (labels : LabelTable) {label : MarketLabel} (hlabel : label ∈ labels.rows) :
    labelTarget labels label.labelVersion label.conditionId =
      if label.officialOutcome = "Up" then 1 else 0 := by
  unfold labelTarget
  split
  · next other hother =>
    have hkey := List.find?_some hother
    rw [decide_eq_true_eq] at hkey
    rw [labels.eq_of_key (List.mem_of_find?_eq_some hother) hlabel hkey.1 hkey.2]
  · next hnone =>
    have := List.find?_eq_none.mp hnone label hlabel
    simp at this

/-- The target of a row is what the label of its market says. -/
theorem target_eq_labelTarget {F : Type} {A : Arithmetic F} {row : SupervisedRow F}
    {feature : MarketFeature F} {label : MarketLabel} (labels : LabelTable)
    (hlabel : label ∈ labels.rows) (hmarket : label.conditionId = row.conditionId)
    (hof : RowOf A row feature label) :
    row.target = labelTarget labels label.labelVersion row.conditionId := by
  rw [← hmarket, labelTarget_eq labels hlabel]
  have htarget := hof.target
  unfold targetOf at htarget
  split_ifs at htarget ⊢ with hup hdown
  · exact (Except.ok.inj htarget).symm
  · exact (Except.ok.inj htarget).symm
  · exact absurd htarget raise_ne_ok

/-- The training target of a market is what its label says. -/
theorem trainingTarget_eq (labels : LabelTable) {conditionIds : List String} {labelVersion : String}
    {horizonSeconds : ℤ} {conditionId : String} {target : ℤ}
    (h : trainingTarget (labels.rows.filter fun label =>
      label.conditionId ∈ conditionIds && label.labelVersion = labelVersion) horizonSeconds
        conditionId = .ok target) : target = labelTarget labels labelVersion conditionId := by
  unfold trainingTarget at h
  split at h
  · exact absurd h raise_ne_ok
  · next label hlabel =>
    obtain ⟨_, -, h⟩ := bind_eq_ok.mp h
    have hmarket := List.find?_some hlabel
    rw [decide_eq_true_eq] at hmarket
    have hmem := List.mem_filter.mp (List.mem_reverse.mp (List.mem_of_find?_eq_some hlabel))
    have hversion : label.labelVersion = labelVersion :=
      of_decide_eq_true (Bool.and_eq_true_iff.mp hmem.2).2
    rw [← hmarket, ← hversion, labelTarget_eq labels hmem.1]
    split_ifs at h ⊢ with hup hdown
    · exact (Except.ok.inj h).symm
    · exact (Except.ok.inj h).symm
    · exact absurd h raise_ne_ok

/-! ## Exact arithmetic -/

/-- What an exact arithmetic leaves abstract. -/
structure Abstract (K : Type) where
  log : K → Option K
  exp : K → K
  pstdev : List K → K
  trunc : K → ℤ
  digest : Value K → String

section Exact

variable {K : Type} [Field K] [LinearOrder K]

/-- The arithmetic of an ordered field. -/
def exact (X : Abstract K) : Arithmetic K where
  ofDecimal value := value.coeff * 10 ^ value.exp
  ofInt value := value
  totalSeconds value := value / 1000000
  isFinite _ := true
  isPositive value := decide (0 < value)
  isNegative value := decide (value < 0)
  add := (· + ·)
  sub := (· - ·)
  div := (· / ·)
  log := X.log
  pstdev := X.pstdev
  digest := X.digest
  mul := (· * ·)
  neg value := -value
  exp := X.exp
  lt a b := decide (a < b)
  le a b := decide (a ≤ b)
  same a b := decide (a = b)
  trunc := X.trunc

variable (X : Abstract K)

theorem exact_zero : (exact X).zero = 0 := Int.cast_zero

theorem exact_one : (exact X).one = 1 := Int.cast_one

theorem exact_min' (a b : K) : (exact X).min' a b = min b a := by
  show (if decide (b < a) = true then b else a) = min b a
  by_cases h : b < a
  · rw [if_pos (decide_eq_true h), min_eq_left h.le]
  · rw [if_neg (by simpa using h), min_eq_right (not_lt.mp h)]

theorem exact_max' (a b : K) : (exact X).max' a b = max b a := by
  show (if decide (a < b) = true then b else a) = max b a
  by_cases h : a < b
  · rw [if_pos (decide_eq_true h), max_eq_left h.le]
  · rw [if_neg (by simpa using h), max_eq_right (not_lt.mp h)]

theorem total_exact (values : List K) : total (exact X) values = values.sum := by
  show values.foldl (· + ·) (exact X).zero = values.sum
  rw [exact_zero, List.sum_eq_foldl]

theorem clipProbability_exact (value : K) :
    clipProbability (exact X) value = .ok (clip (exact X) value) := rfl

variable [IsStrictOrderedRing K]

/-- The clip bounds are in order. -/
theorem epsilon_le : (exact X).epsilon ≤ (exact X).sub (exact X).one (exact X).epsilon := by
  show ((1 : ℤ) : K) * 10 ^ (-6 : ℤ) ≤ (exact X).one - ((1 : ℤ) : K) * 10 ^ (-6 : ℤ)
  rw [exact_one]
  norm_num

/-- **Clipping** once is enough. -/
theorem clip_clip (value : K) : clip (exact X) (clip (exact X) value) = clip (exact X) value := by
  unfold clip
  simp only [exact_min', exact_max']
  have hbounds := epsilon_le X
  rw [max_eq_right (le_min hbounds (le_max_left _ _)), min_eq_right (min_le_left _ _)]

/-- A calibration clips what it is given. -/
theorem applyCalibration_clip (fit : CalibrationFit K) (value : K) :
    applyCalibration (exact X) fit (clip (exact X) value) = applyCalibration (exact X) fit value := by
  unfold applyCalibration identityPredict plattPredict logit
  simp only [clipProbability_exact, clip_clip]

/-! ## The training prior -/

/-- In equal market weights, the rows add up to what their markets do. -/
theorem sum_equalWeights (ids : List String) (g : String → K) :
    (ids.map fun id => g id * (1 / (ids.count id : K))).sum = ∑ id ∈ ids.toFinset, g id := by
  rw [Finset.sum_list_map_count]
  refine Finset.sum_congr rfl fun id hid => ?_
  have hpos : (ids.count id : K) ≠ 0 := by
    have := List.count_pos_iff.mpr (List.mem_toFinset.mp hid)
    exact_mod_cast this.ne'
  rw [nsmul_eq_mul]
  field_simp

omit [IsStrictOrderedRing K] in
theorem equalMarketWeights_exact (rows : List (SupervisedRow K)) :
    equalMarketWeights (exact X) rows =
      rows.map fun row => 1 / ((rows.map (·.conditionId)).count row.conditionId : K) := by
  unfold equalMarketWeights
  refine List.map_congr_left fun row _ => ?_
  show (exact X).one / (((rows.map (·.conditionId)).count row.conditionId : ℤ) : K) = _
  rw [exact_one, Int.cast_natCast]

/-- **The weighted prior** of rows that say what their markets do is the mean over the markets. -/
theorem foldPredictorFit_exact {rows : List (SupervisedRow K)} {fallback : K} {τ : String → ℤ}
    (hτ : ∀ row ∈ rows, row.target = τ row.conditionId)
    (h : foldPredictorFit (exact X) rows = .ok fallback) :
    fallback = (∑ id ∈ (rows.map (·.conditionId)).toFinset, (τ id : K)) /
      ((rows.map (·.conditionId)).toFinset.card : K) := by
  unfold foldPredictorFit at h
  obtain ⟨prior, hprior, h⟩ := bind_eq_ok.mp h
  obtain ⟨_, -, h⟩ := bind_eq_ok.mp h
  cases h
  unfold priorFit at hprior
  obtain ⟨_, -, hprior⟩ := bind_eq_ok.mp hprior
  obtain ⟨_, -, hprior⟩ := bind_eq_ok.mp hprior
  cases hprior
  show total (exact X) _ / total (exact X) _ = _
  rw [total_exact, total_exact, equalMarketWeights_exact]
  congr 1
  · rw [← sum_equalWeights (rows.map (·.conditionId)) fun id => (τ id : K), List.zipWith_map_right,
      List.zipWith_self, List.map_map]
    congr 1
    refine List.map_congr_left fun row hrow => ?_
    show ((row.target : ℤ) : K) * _ = _
    rw [hτ row hrow]
    rfl
  · have hone := sum_equalWeights (rows.map (·.conditionId)) fun _ => (1 : K)
    simp only [one_mul, List.map_map, Finset.sum_const, nsmul_eq_mul, mul_one] at hone
    rw [← hone]
    rfl

theorem targets_eq (labels : LabelTable) {conditionIds ids : List String} {labelVersion : String}
    {horizonSeconds : ℤ} {targets : List ℤ}
    (h : ids.mapM (trainingTarget (labels.rows.filter fun label =>
      label.conditionId ∈ conditionIds && label.labelVersion = labelVersion) horizonSeconds) =
        .ok targets) : targets = ids.map (labelTarget labels labelVersion) := by
  replace h := forall₂_of_mapM h
  induction h with
  | nil => rfl
  | cons htarget _ ih => rw [List.map_cons, trainingTarget_eq labels htarget, ih]

omit [IsStrictOrderedRing K] in
/-- **The prior of a policy** is the mean over its training markets. -/
theorem trainingPrior_exact {labels : LabelTable} {conditionIds : List String}
    {labelVersion : String} {horizonSeconds : ℤ} {prior : K} (hnodup : conditionIds.Nodup)
    (h : trainingPrior (exact X) labels conditionIds labelVersion horizonSeconds = .ok prior) :
    prior = (∑ id ∈ conditionIds.toFinset, (labelTarget labels labelVersion id : K)) /
      (conditionIds.toFinset.card : K) := by
  unfold trainingPrior at h
  obtain ⟨_, -, h⟩ := bind_eq_ok.mp h
  obtain ⟨targets, htargets, h⟩ := bind_eq_ok.mp h
  obtain ⟨_, -, h⟩ := bind_eq_ok.mp h
  obtain ⟨_, -, h⟩ := bind_eq_ok.mp h
  cases h
  rw [targets_eq labels htargets, List.sum_toFinset _ hnodup,
    List.toFinset_card_of_nodup hnodup]
  show ((List.sum _ : ℤ) : K) / (((List.length _ : ℕ) : ℤ) : K) = _
  rw [List.length_map, Int.cast_natCast, Int.cast_list_sum, List.map_map]
  rfl

end Exact

end BpEngine.Prospective
