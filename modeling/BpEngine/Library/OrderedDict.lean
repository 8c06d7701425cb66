import Mathlib.Data.List.Nodup
import Mathlib.Tactic

/-!
# Dictionaries in insertion order

A dictionary is the list of its entries in the order their keys were first set, one entry a key.

* `set` is `d[key] = value`: an entry keeps its place, a new one goes to the end; `pop` drops a key.
* `get?_set`, `get?_pop`: what the other keys hold is unchanged.
* `set_eq_self`, `pop_eq_self`: a write leaves the dictionary as it is exactly when it writes what the
  key already holds, a removal when there is nothing to remove.
* `ofPairs` sets a list of entries one after the other; without a key that comes twice it is the list.
-/

namespace BpEngine

/-- A dictionary: its entries, in insertion order. -/
structure OrderedDict (K V : Type) where
  entries : List (K × V)
  nodup : (entries.map Prod.fst).Nodup

namespace OrderedDict

variable {K V : Type}

@[ext] theorem ext {d d' : OrderedDict K V} (h : d.entries = d'.entries) : d = d' := by
  cases d
  cases d'
  cases h
  rfl

instance [DecidableEq K] [DecidableEq V] : DecidableEq (OrderedDict K V) := fun d d' =>
  decidable_of_iff (d.entries = d'.entries) ⟨ext, congrArg entries⟩

/-- The dictionary without entries. -/
def empty : OrderedDict K V := ⟨[], List.nodup_nil⟩

def keys (d : OrderedDict K V) : List K := d.entries.map Prod.fst

def values (d : OrderedDict K V) : List V := d.entries.map Prod.snd

variable [DecidableEq K]

/-- `d.get(key)`. -/
def get? (d : OrderedDict K V) (key : K) : Option V := d.entries.lookup key

/-- `d.pop(key, None)`. -/
def pop (d : OrderedDict K V) (key : K) : OrderedDict K V where
  entries := d.entries.filter fun entry => entry.1 ≠ key
  nodup := d.nodup.sublist (List.filter_sublist.map _)

/-- The entries after `d[key] = value`. -/
def setEntries (key : K) (value : V) : List (K × V) → List (K × V)
  | [] => [(key, value)]
  | entry :: entries =>
    if entry.1 = key then (key, value) :: entries else entry :: setEntries key value entries

theorem mem_keys_setEntries {key other : K} {value : V} {entries : List (K × V)} :
    other ∈ (setEntries key value entries).map Prod.fst ↔
      other = key ∨ other ∈ entries.map Prod.fst := by
  induction entries with
  | nil => simp [setEntries]
  | cons entry entries ih =>
    unfold setEntries
    split_ifs with h
    · subst h
      simp
    · rw [List.map_cons, List.mem_cons, ih, List.map_cons, List.mem_cons]
      exact or_left_comm

theorem nodup_setEntries {key : K} {value : V} {entries : List (K × V)}
    (h : (entries.map Prod.fst).Nodup) : ((setEntries key value entries).map Prod.fst).Nodup := by
  induction entries with
  | nil => simp [setEntries]
  | cons entry entries ih =>
    rw [List.map_cons, List.nodup_cons] at h
    unfold setEntries
    split_ifs with hkey
    · subst hkey
      rw [List.map_cons, List.nodup_cons]
      exact h
    · rw [List.map_cons, List.nodup_cons, mem_keys_setEntries]
      refine ⟨?_, ih h.2⟩
      rintro (heq | hmem)
      · exact hkey heq
      · exact h.1 hmem

/-- `d[key] = value`. -/
def set (d : OrderedDict K V) (key : K) (value : V) : OrderedDict K V where
  entries := setEntries key value d.entries
  nodup := nodup_setEntries d.nodup

/-! ## Reading what was written -/

@[simp] theorem get?_empty (key : K) : (empty : OrderedDict K V).get? key = none := rfl

theorem lookup_cons (entry : K × V) (entries : List (K × V)) (key : K) :
    (entry :: entries).lookup key = if entry.1 = key then some entry.2 else entries.lookup key := by
  obtain ⟨first, value⟩ := entry
  by_cases h : first = key
  · subst h
    simp
  · have hne : (key == first) = false := by simpa using Ne.symm h
    rw [List.lookup_cons, hne, if_neg h]

theorem lookup_setEntries (key other : K) (value : V) (entries : List (K × V)) :
    (setEntries key value entries).lookup other =
      if key = other then some value else entries.lookup other := by
  induction entries with
  | nil => rw [setEntries, lookup_cons]
  | cons entry entries ih =>
    unfold setEntries
    split_ifs with hkey hother hother
    · rw [lookup_cons, if_pos hother]
    · rw [lookup_cons, if_neg hother, lookup_cons, hkey, if_neg hother]
    · have hne : ¬ entry.1 = other := fun h => hkey (h.trans hother.symm)
      rw [lookup_cons, if_neg hne, ih, if_pos hother]
    · rw [lookup_cons, ih, if_neg hother, lookup_cons]

theorem get?_set (d : OrderedDict K V) (key other : K) (value : V) :
    (d.set key value).get? other = if key = other then some value else d.get? other :=
  lookup_setEntries key other value d.entries

@[simp] theorem get?_set_self (d : OrderedDict K V) (key : K) (value : V) :
    (d.set key value).get? key = some value := by
  rw [get?_set, if_pos rfl]

theorem get?_set_of_ne (d : OrderedDict K V) {key other : K} (value : V) (h : key ≠ other) :
    (d.set key value).get? other = d.get? other := by
  rw [get?_set, if_neg h]

theorem lookup_filter (key other : K) (entries : List (K × V)) :
    (entries.filter fun entry => entry.1 ≠ key).lookup other =
      if key = other then none else entries.lookup other := by
  induction entries with
  | nil => simp
  | cons entry entries ih =>
    rw [List.filter_cons]
    by_cases hkey : entry.1 = key
    · rw [if_neg (by simpa using hkey), ih, lookup_cons]
      by_cases hother : key = other
      · rw [if_pos hother, if_pos hother]
      · rw [if_neg hother, if_neg hother, if_neg (fun h => hother (hkey.symm.trans h))]
    · rw [if_pos (by simpa using hkey), lookup_cons, ih, lookup_cons]
      by_cases hother : key = other
      · rw [if_pos hother, if_pos hother, if_neg (fun h => hkey (h.trans hother.symm))]
      · rw [if_neg hother, if_neg hother]

theorem get?_pop (d : OrderedDict K V) (key other : K) :
    (d.pop key).get? other = if key = other then none else d.get? other :=
  lookup_filter key other d.entries

@[simp] theorem get?_pop_self (d : OrderedDict K V) (key : K) : (d.pop key).get? key = none := by
  rw [get?_pop, if_pos rfl]

theorem get?_eq_none {d : OrderedDict K V} {key : K} : d.get? key = none ↔ key ∉ d.keys := by
  unfold get? keys
  induction d.entries with
  | nil => simp
  | cons entry entries ih =>
    rw [lookup_cons, List.map_cons, List.mem_cons]
    by_cases h : entry.1 = key
    · simp [h]
    · rw [if_neg h, ih]
      simp [Ne.symm h]

theorem get?_eq_some {d : OrderedDict K V} {key : K} {value : V} :
    d.get? key = some value ↔ (key, value) ∈ d.entries := by
  have hnodup := d.nodup
  unfold get?
  generalize d.entries = entries at hnodup ⊢
  induction entries with
  | nil => simp
  | cons entry entries ih =>
    rw [List.map_cons, List.nodup_cons] at hnodup
    rw [lookup_cons, List.mem_cons]
    by_cases h : entry.1 = key
    · rw [if_pos h]
      constructor
      · intro hvalue
        exact .inl (by rw [← h, ← Option.some.inj hvalue])
      · rintro (heq | hmem)
        · rw [← heq]
        · exact absurd (h ▸ List.mem_map_of_mem hmem) hnodup.1
    · rw [if_neg h]
      refine (ih hnodup.2).trans ?_
      constructor
      · exact .inr
      · rintro (heq | hmem)
        · exact absurd (by rw [← heq]) h
        · exact hmem

/-! ## Writes that change nothing -/

theorem setEntries_eq_self {key : K} {value : V} {entries : List (K × V)}
    (h : entries.lookup key = some value) : setEntries key value entries = entries := by
  induction entries with
  | nil => simp at h
  | cons entry entries ih =>
    rw [lookup_cons] at h
    unfold setEntries
    split_ifs at h ⊢ with hkey
    · rw [← hkey, ← Option.some.inj h]
    · rw [ih h]

/-- A write changes nothing exactly when the key holds the value. -/
theorem set_eq_self {d : OrderedDict K V} {key : K} {value : V} :
    d.set key value = d ↔ d.get? key = some value := by
  constructor
  · intro h
    rw [← h, get?_set_self]
  · intro h
    exact ext (setEntries_eq_self h)

/-- A removal changes nothing exactly when the key is not there. -/
theorem pop_eq_self {d : OrderedDict K V} {key : K} : d.pop key = d ↔ d.get? key = none := by
  constructor
  · intro h
    rw [← h, get?_pop_self]
  · intro h
    refine ext (List.filter_eq_self.mpr fun entry hentry => ?_)
    rw [get?_eq_none] at h
    simp only [ne_eq, decide_not, Bool.not_eq_eq_eq_not, Bool.not_true, decide_eq_false_iff_not]
    rintro rfl
    exact h (List.mem_map_of_mem hentry)

/-- A new key goes to the end. -/
theorem entries_set_of_none {d : OrderedDict K V} {key : K} (value : V) (h : d.get? key = none) :
    (d.set key value).entries = d.entries ++ [(key, value)] := by
  rw [get?_eq_none] at h
  unfold keys at h
  show setEntries key value d.entries = _
  generalize d.entries = entries at h ⊢
  induction entries with
  | nil => rfl
  | cons entry entries ih =>
    rw [List.map_cons, List.mem_cons, not_or] at h
    rw [setEntries, if_neg (Ne.symm h.1), ih h.2, List.cons_append]

/-! ## Dictionaries made of entries -/

/-- The entries set one after the other. -/
def ofPairs (pairs : List (K × V)) : OrderedDict K V :=
  pairs.foldl (fun d pair => d.set pair.1 pair.2) empty

/-- A key holds the value it was set to last. -/
theorem get?_foldl_set (d : OrderedDict K V) (pairs : List (K × V)) (key : K) :
    (pairs.foldl (fun d pair => d.set pair.1 pair.2) d).get? key =
      match pairs.reverse.find? fun pair => pair.1 = key with
      | some pair => some pair.2
      | none => d.get? key := by
  induction pairs generalizing d with
  | nil => rfl
  | cons pair pairs ih =>
    rw [List.foldl_cons, ih, List.reverse_cons, List.find?_append]
    cases pairs.reverse.find? fun pair => pair.1 = key with
    | some last => rfl
    | none =>
      rw [get?_set]
      by_cases h : pair.1 = key
      · simp [h]
      · simp [h]

theorem get?_ofPairs (pairs : List (K × V)) (key : K) :
    (ofPairs pairs).get? key =
      (pairs.reverse.find? fun pair => pair.1 = key).map Prod.snd := by
  unfold ofPairs
  rw [get?_foldl_set]
  cases pairs.reverse.find? fun pair => pair.1 = key <;> rfl

/-- Entries that agree on a key, set after others, decide what it holds. -/
theorem get?_ofPairs_append {pairs later : List (K × V)} {key : K} {value : V}
    (hmem : (key, value) ∈ later) (hsame : ∀ other, (key, other) ∈ later → other = value) :
    (ofPairs (pairs ++ later)).get? key = some value := by
  rw [get?_ofPairs, List.reverse_append, List.find?_append]
  cases hfind : later.reverse.find? fun pair => pair.1 = key with
  | none =>
    have hnot := List.find?_eq_none.mp hfind (key, value) (List.mem_reverse.mpr hmem)
    exact absurd (decide_eq_true rfl) hnot
  | some pair =>
    have hkey := List.find?_some hfind
    rw [decide_eq_true_eq] at hkey
    have hpair := List.mem_reverse.mp (List.mem_of_find?_eq_some hfind)
    have heq : (key, pair.2) ∈ later := by
      rw [← hkey]
      exact hpair
    show some pair.2 = some value
    rw [hsame pair.2 heq]

theorem get?_ofPairs_of_mem {pairs : List (K × V)} {key : K} {value : V}
    (hmem : (key, value) ∈ pairs) (hsame : ∀ other, (key, other) ∈ pairs → other = value) :
    (ofPairs pairs).get? key = some value := by
  have happend : (ofPairs ([] ++ pairs)).get? key = some value := get?_ofPairs_append hmem hsame
  exact happend

/-- A key without an entry holds nothing. -/
theorem get?_ofPairs_eq_none {pairs : List (K × V)} {key : K}
    (h : ∀ value, (key, value) ∉ pairs) : (ofPairs pairs).get? key = none := by
  rw [get?_ofPairs, Option.map_eq_none_iff, List.find?_eq_none]
  intro pair hpair hkey
  rw [decide_eq_true_eq] at hkey
  refine h pair.2 ?_
  rw [← hkey]
  exact List.mem_reverse.mp hpair

end OrderedDict

end BpEngine
