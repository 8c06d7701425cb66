import Mathlib.Data.List.Nodup
import Mathlib.Tactic

/-!
# Remembered answers and grouped questions

Two ways to ask a function less often, and what they change of its answers.

* `learn` remembers the answers to the questions that have none yet; `known` is what one believes that
  remembers a memo.  Asking more changes no belief (`known_learn`); the beliefs are true while the
  remembered answers are (`known_of_sound`).
* `grouped` puts the items of one key together; group by group the same items come out
  (`flatMap_grouped_perm`), and each key finds its own again (`items_of_key`).
-/

namespace BpEngine.Batch

/-! ## Memos -/

section Memo

variable {K V : Type} [DecidableEq K] {memo : List (K × V)} {f g : K → V}

/-- What is remembered of a question, or else its answer. -/
def known (memo : List (K × V)) (f : K → V) (key : K) : V := (memo.lookup key).getD (f key)

/-- The memo after the questions that it has no answer to. -/
def learn (memo : List (K × V)) (f : K → V) (keys : List K) : List (K × V) :=
  memo ++ (keys.eraseDups.filter fun key => (memo.lookup key).isNone).map fun key => (key, f key)

theorem lookup_map_pair (keys : List K) (f : K → V) (key : K) :
    (keys.map fun other => (other, f other)).lookup key = if key ∈ keys then some (f key) else none := by
  induction keys with
  | nil => rfl
  | cons first rest ih =>
    rw [List.map_cons, List.lookup_cons, ih]
    by_cases h : key = first
    · subst h
      simp
    · simp [h, beq_false_of_ne h]

theorem lookup_learn (memo : List (K × V)) (f : K → V) (keys : List K) (key : K) :
    (learn memo f keys).lookup key =
      (memo.lookup key).or (if key ∈ keys then some (f key) else none) := by
  unfold learn
  rw [List.lookup_append, lookup_map_pair]
  cases hlookup : memo.lookup key with
  | some value => rfl
  | none => simp [hlookup]

theorem lookup_learn_of_mem {keys : List K} {key : K} (h : key ∈ keys) :
    (learn memo f keys).lookup key = some (known memo f key) := by
  rw [lookup_learn, if_pos h]
  unfold known
  cases memo.lookup key <;> rfl

/-- **Asking changes no belief.** -/
theorem known_learn (memo : List (K × V)) (f : K → V) (keys : List K) :
    known (learn memo f keys) f = known memo f := by
  funext key
  unfold known
  rw [lookup_learn]
  cases memo.lookup key with
  | some value => rfl
  | none =>
    split_ifs <;> rfl

/-- What is remembered is so. -/
def Sound (memo : List (K × V)) (f : K → V) : Prop :=
  ∀ key value, memo.lookup key = some value → value = f key

theorem sound_nil (f : K → V) : Sound [] f := fun _ _ h => nomatch h

theorem known_of_sound (h : Sound memo f) : known memo f = f := by
  funext key
  unfold known
  cases hlookup : memo.lookup key with
  | none => rfl
  | some value => exact h key value hlookup

/-- A memo that believes the same of a function is as sound. -/
theorem Sound.of_known {memo' : List (K × V)} (h : Sound memo f) (hsame : known memo' f = known memo f) :
    Sound memo' f := by
  intro key value hlookup
  have hbelief : known memo' f key = f key := by rw [hsame, known_of_sound h]
  unfold known at hbelief
  rw [hlookup] at hbelief
  exact hbelief

/-- A memo stays sound of a function that answers the remembered questions as before. -/
theorem Sound.change (h : Sound memo f)
    (hsame : ∀ key, (memo.lookup key).isSome → g key = f key) : Sound memo g := by
  intro key value hlookup
  rw [hsame key (by rw [hlookup]; rfl)]
  exact h key value hlookup

end Memo

/-! ## Groups -/

theorem nodup_eraseDups {α : Type} [DecidableEq α] (l : List α) : l.eraseDups.Nodup := by
  induction h : l.length using Nat.strong_induction_on generalizing l with
  | _ n ih =>
    subst h
    cases l with
    | nil => simp
    | cons a l =>
      rw [List.eraseDups_cons, List.nodup_cons]
      refine ⟨fun ha => ?_, ih _ ?_ _ rfl⟩
      · simpa using (List.mem_filter.mp (List.mem_eraseDups.mp ha)).2
      · exact Nat.lt_succ_of_le (List.length_filter_le _ _)

section Groups

variable {K α β : Type} [DecidableEq K]

/-- The items under their keys, a key at its first item. -/
def grouped (pairs : List (K × α)) : List (K × List α) :=
  (pairs.map Prod.fst).eraseDups.map fun key =>
    (key, (pairs.filter fun pair => pair.1 = key).map Prod.snd)

theorem mem_grouped {pairs : List (K × α)} {group : K × List α} (h : group ∈ grouped pairs) :
    ∀ item, item ∈ group.2 ↔ (group.1, item) ∈ pairs := by
  obtain ⟨key, -, rfl⟩ := List.mem_map.mp h
  intro item
  constructor
  · intro hitem
    obtain ⟨pair, hpair, rfl⟩ := List.mem_map.mp hitem
    obtain ⟨hmem, hkey⟩ := List.mem_filter.mp hpair
    obtain rfl := of_decide_eq_true hkey
    exact hmem
  · intro hitem
    exact List.mem_map.mpr ⟨_, List.mem_filter.mpr ⟨hitem, decide_eq_true rfl⟩, rfl⟩

theorem exists_grouped {pairs : List (K × α)} {key : K} {item : α} (h : (key, item) ∈ pairs) :
    ∃ items, (key, items) ∈ grouped pairs ∧ item ∈ items := by
  have hmem : (key, (pairs.filter fun pair => pair.1 = key).map Prod.snd) ∈ grouped pairs :=
    List.mem_map.mpr ⟨key, List.mem_eraseDups.mpr (List.mem_map.mpr ⟨_, h, rfl⟩), rfl⟩
  exact ⟨_, hmem, (mem_grouped hmem item).mpr h⟩

/-- The first group, and the groups of the items under other keys. -/
theorem grouped_cons (pair : K × α) (rest : List (K × α)) :
    grouped (pair :: rest) =
      (pair.1, pair.2 :: (rest.filter fun other => other.1 = pair.1).map Prod.snd) ::
        grouped (rest.filter fun other => ¬ other.1 = pair.1) := by
  have hkeys : ((rest.map Prod.fst).filter fun key => !key == pair.1) =
      (rest.filter fun other => ¬ other.1 = pair.1).map Prod.fst := by
    rw [List.filter_map]
    congr 1
    refine List.filter_congr fun other _ => ?_
    rw [Function.comp_apply, beq_eq_decide, decide_not]
  unfold grouped
  rw [List.map_cons, List.eraseDups_cons, List.map_cons, hkeys]
  congr 1
  · rw [List.filter_cons_of_pos (by simp), List.map_cons]
  · refine List.map_congr_left fun key hkey => ?_
    obtain ⟨other, hother, rfl⟩ := List.mem_map.mp (List.mem_eraseDups.mp hkey)
    have hne : ¬ other.1 = pair.1 := of_decide_eq_true (List.mem_filter.mp hother).2
    rw [List.filter_cons_of_neg (by simpa using Ne.symm hne), List.filter_filter]
    congr 2
    refine List.filter_congr fun third _ => ?_
    by_cases hthird : third.1 = other.1
    · simp [hthird, hne]
    · simp [hthird]

/-- **Group by group the same items come out**, in another order. -/
theorem flatMap_grouped_perm (pairs : List (K × α)) (f : K → α → List β) :
    ((grouped pairs).flatMap fun group => group.2.flatMap (f group.1)).Perm
      (pairs.flatMap fun pair => f pair.1 pair.2) := by
  generalize hn : pairs.length = n
  induction n using Nat.strong_induction_on generalizing pairs with
  | _ n ih =>
    cases pairs with
    | nil => exact List.Perm.nil
    | cons pair rest =>
      have hshorter : (rest.filter fun other => ¬ other.1 = pair.1).length < n := by
        have := List.length_filter_le (fun other => decide (¬ other.1 = pair.1)) rest
        rw [← hn, List.length_cons]
        omega
      have hsame : ((rest.filter fun other => other.1 = pair.1).map Prod.snd).flatMap (f pair.1) =
          (rest.filter fun other => other.1 = pair.1).flatMap fun other => f other.1 other.2 := by
        rw [List.flatMap_map]
        refine List.flatMap_congr fun other hother => ?_
        rw [of_decide_eq_true (List.mem_filter.mp hother).2]
      have hsplit : ((rest.filter fun other => other.1 = pair.1) ++
          rest.filter fun other => ¬ other.1 = pair.1).Perm rest := by
        simpa using List.filter_append_perm (fun other => decide (other.1 = pair.1)) rest
      rw [grouped_cons, List.flatMap_cons, List.flatMap_cons, List.flatMap_cons, hsame,
        List.append_assoc]
      refine List.Perm.append_left _ ?_
      refine ((ih _ hshorter _ rfl).append_left _).trans ?_
      rw [← List.flatMap_append]
      exact hsplit.flatMap_right _

/-- Items that carry their keys, of keys without a repetition: those of a key are its items. -/
theorem items_of_key {keys : List K} (hnodup : keys.Nodup) {items : K → List β} {key : K}
    (hkey : key ∈ keys) :
    (((keys.flatMap fun other => (items other).map fun item => (other, item)).filter
      fun pair => pair.1 = key).map Prod.snd) = items key := by
  have hown : ∀ other : K, (((items other).map fun item => (other, item)).filter
      fun pair => pair.1 = key).map Prod.snd = if other = key then items other else [] := by
    intro other
    rw [List.filter_map, List.map_map]
    show ((items other).filter fun _ => decide (other = key)).map (fun item => item) = _
    split_ifs with h
    · rw [List.filter_eq_self.mpr fun item _ => decide_eq_true h]
      exact List.map_id' _
    · rw [List.filter_eq_nil_iff.mpr fun item _ hitem => h (of_decide_eq_true hitem)]
      rfl
  induction keys with
  | nil => exact absurd hkey List.not_mem_nil
  | cons first rest ih =>
    obtain ⟨hfirst, hrest⟩ := List.nodup_cons.mp hnodup
    rw [List.flatMap_cons, List.filter_append, List.map_append, hown]
    split_ifs with h
    · subst h
      have hnone : ((rest.flatMap fun other => (items other).map fun item => (other, item)).filter
          fun pair => pair.1 = first) = [] := by
        rw [List.filter_eq_nil_iff]
        intro pair hpair hsame
        obtain ⟨other, hother, hitem⟩ := List.mem_flatMap.mp hpair
        obtain ⟨item, -, rfl⟩ := List.mem_map.mp hitem
        exact hfirst (of_decide_eq_true hsame ▸ hother)
      rw [hnone, List.map_nil, List.append_nil]
    · rcases List.mem_cons.mp hkey with rfl | hmem
      · exact absurd rfl h
      · rw [List.nil_append]
        exact ih hrest hmem

end Groups

end BpEngine.Batch
