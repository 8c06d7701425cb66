import Mathlib.Data.List.Sort
import Mathlib.Tactic

/-!
# Append-only tables

A table is the list of its rows in insertion order; a row is only ever appended.

* `existingOrInsert`: the idempotent write by key.  A row with the key is returned when its content
  agrees and is a conflict when it does not; a new row is appended otherwise.
* `latestFirst`: the rows by descending time, and among equal times by descending insertion order.
  `latestFirst_append` says where one more row goes.
-/

namespace BpEngine.Table

/-! ## Writing by key -/

section Insert

variable {ρ κ ε : Type} [DecidableEq κ]

/-- What a write by key did: the table after it, the stored row, and whether it was created. -/
structure Stored (ρ : Type) where
  table : List ρ
  row : ρ
  created : Bool

/-- Returns the row with the key when its content agrees, appends `new` when there is none. -/
def existingOrInsert (table : List ρ) (hasKey : ρ → Bool) (content : ρ → κ) (new : ρ)
    (conflict : ε) : Except ε (Stored ρ) :=
  match table.find? hasKey with
  | some existing =>
    if content existing = content new then .ok ⟨table, existing, false⟩ else .error conflict
  | none => .ok ⟨table ++ [new], new, true⟩

/-- **A write by key either finds an agreeing row or appends the new one.** -/
theorem existingOrInsert_eq_ok {table : List ρ} {hasKey : ρ → Bool} {content : ρ → κ} {new : ρ}
    {conflict : ε} {s : Stored ρ}
    (h : existingOrInsert table hasKey content new conflict = .ok s) :
    (s.table = table ∧ s.row ∈ table ∧ hasKey s.row = true ∧ content s.row = content new ∧
        s.created = false) ∨
      (s.table = table ++ [new] ∧ s.row = new ∧ (∀ r ∈ table, hasKey r = false) ∧
        s.created = true) := by
  unfold existingOrInsert at h
  split at h
  · next existing hfind =>
    split_ifs at h with hc
    cases h
    exact Or.inl ⟨rfl, List.mem_of_find?_eq_some hfind, List.find?_some hfind, hc, rfl⟩
  · next hfind =>
    cases h
    refine Or.inr ⟨rfl, rfl, fun r hr => ?_, rfl⟩
    exact Bool.not_eq_true _ ▸ List.find?_eq_none.mp hfind r hr

/-- The row a write by key returns is the first one with the key, when the new row has it. -/
theorem existingOrInsert_find {table : List ρ} {hasKey : ρ → Bool} {content : ρ → κ} {new : ρ}
    {conflict : ε} {s : Stored ρ} (hnew : hasKey new = true)
    (h : existingOrInsert table hasKey content new conflict = .ok s) :
    s.table.find? hasKey = some s.row := by
  unfold existingOrInsert at h
  split at h
  · next existing hfind =>
    split_ifs at h with hc
    cases h
    exact hfind
  · next hfind =>
    cases h
    rw [List.find?_append, hfind]
    simp [hnew]

end Insert

/-- Keys stay distinct when a row with a new key is appended. -/
theorem nodup_map_concat {ρ κ : Type} {table : List ρ} {key : ρ → κ} {new : ρ}
    (h : (table.map key).Nodup) (hfresh : ∀ row ∈ table, key row ≠ key new) :
    ((table ++ [new]).map key).Nodup := by
  rw [List.map_append, List.map_singleton, List.nodup_append]
  refine ⟨h, List.nodup_singleton _, ?_⟩
  rintro a ha b hb rfl
  obtain ⟨row, hrow, rfl⟩ := List.mem_map.mp ha
  exact hfresh row hrow (List.mem_singleton.mp hb)

/-- What holds of the rows and of a new one holds of them all. -/
theorem forall_mem_concat {ρ : Type} {table : List ρ} {new : ρ} {holds : ρ → Prop}
    (h : ∀ row ∈ table, holds row) (hnew : holds new) : ∀ row ∈ table ++ [new], holds row := by
  rw [List.forall_mem_append, List.forall_mem_singleton]
  exact ⟨h, hnew⟩

/-- When keys are distinct, a row is the one that is found by its key. -/
theorem find?_of_nodup {ρ κ : Type} [DecidableEq κ] {table : List ρ} {key : ρ → κ} {row : ρ}
    (h : (table.map key).Nodup) (hrow : row ∈ table) :
    table.find? (fun other => key other = key row) = some row := by
  induction table with
  | nil => exact absurd hrow List.not_mem_nil
  | cons other rest ih =>
    obtain ⟨hnew, hrest⟩ := List.nodup_cons.mp h
    rcases List.mem_cons.mp hrow with rfl | hrow
    · exact List.find?_cons_of_pos (by simp)
    · have hne : key other ≠ key row := fun heq => hnew (heq ▸ List.mem_map_of_mem hrow)
      rw [List.find?_cons_of_neg (by simpa using hne)]
      exact ih hrest hrow

/-! ## Newest first -/

section Latest

variable {ρ : Type} (time : ρ → ℤ)

/-- The order of a descending listing: a row may stand before the rows that are not newer. -/
def notNewer (a b : ρ) : Prop := time b ≤ time a

instance : DecidableRel (notNewer time) := fun a b => inferInstanceAs (Decidable (time b ≤ time a))

/-- The rows by descending time, then by descending insertion order. -/
def latestFirst (rows : List ρ) : List ρ := rows.reverse.insertionSort (notNewer time)

@[simp] theorem latestFirst_nil : latestFirst time ([] : List ρ) = [] := rfl

/-- One more row goes before every row that is not newer. -/
theorem latestFirst_append (rows : List ρ) (r : ρ) :
    latestFirst time (rows ++ [r]) = (latestFirst time rows).orderedInsert (notNewer time) r := by
  simp [latestFirst]

theorem latestFirst_perm (rows : List ρ) : (latestFirst time rows).Perm rows :=
  (List.perm_insertionSort _ _).trans (List.reverse_perm rows)

@[simp] theorem mem_latestFirst {rows : List ρ} {r : ρ} : r ∈ latestFirst time rows ↔ r ∈ rows :=
  (latestFirst_perm time rows).mem_iff

theorem latestFirst_eq_nil {rows : List ρ} : latestFirst time rows = [] ↔ rows = [] := by
  constructor
  · intro h
    have hp := latestFirst_perm time rows
    rw [h] at hp
    exact hp.symm.eq_nil
  · rintro rfl
    rfl

/-- A row that is not older than the others is listed first. -/
theorem latestFirst_append_of_le {rows : List ρ} {r : ρ} (h : ∀ x ∈ rows, time x ≤ time r) :
    latestFirst time (rows ++ [r]) = r :: latestFirst time rows := by
  rw [latestFirst_append]
  cases hl : latestFirst time rows with
  | nil => rfl
  | cons x xs =>
    have hx : x ∈ rows := (mem_latestFirst time).mp (hl ▸ List.mem_cons_self)
    exact List.orderedInsert_cons_of_le _ _ (h x hx)

/-- The head of a listing after one more row: the new row unless the old head is newer. -/
theorem head?_latestFirst_append (rows : List ρ) (r : ρ) :
    (latestFirst time (rows ++ [r])).head? =
      match (latestFirst time rows).head? with
      | none => some r
      | some x => if time x ≤ time r then some r else some x := by
  rw [latestFirst_append]
  cases latestFirst time rows with
  | nil => rfl
  | cons x xs =>
    by_cases h : time x ≤ time r
    · have hn : notNewer time r x := h
      simp [List.orderedInsert_cons, hn, h]
    · have hn : ¬ notNewer time r x := h
      simp [List.orderedInsert_cons, hn, h]

/-- Every row inserted after the head of the listing is older than it. -/
theorem head_latestFirst_split {rows : List ρ} {x : ρ} {xs : List ρ}
    (h : latestFirst time rows = x :: xs) :
    ∃ before after, rows = before ++ x :: after ∧ ∀ y ∈ after, time y < time x := by
  induction rows using List.reverseRecOn generalizing x xs with
  | nil => simp at h
  | append_singleton rows r ih =>
    have hhead := head?_latestFirst_append time rows r
    rw [h] at hhead
    cases hl : latestFirst time rows with
    | nil =>
      rw [hl] at hhead
      cases (latestFirst_eq_nil time).mp hl
      cases hhead
      exact ⟨[], [], rfl, by simp⟩
    | cons y ys =>
      rw [hl] at hhead
      by_cases hle : time y ≤ time r
      · simp only [List.head?_cons, hle, if_true, Option.some.injEq] at hhead
        subst hhead
        exact ⟨rows, [], rfl, by simp⟩
      · simp only [List.head?_cons, hle, if_false, Option.some.injEq] at hhead
        subst hhead
        obtain ⟨before, after, rfl, hafter⟩ := ih hl
        refine ⟨before, after ++ [r], by simp, fun z hz => ?_⟩
        rcases List.mem_append.mp hz with hz | hz
        · exact hafter z hz
        · rw [List.mem_singleton.mp hz]
          exact not_le.mp hle

end Latest

end BpEngine.Table
