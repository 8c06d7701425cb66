import Mathlib.Data.List.Sort
import Mathlib.Tactic

/-!
# Queries of a relation

A relation is a list of rows under distinct ids.  A query keeps the rows of a condition and puts them
in an order that its ids make strict, so that what it returns depends on the rows it keeps and not on
how the relation lists them.

* `oldestFirst` and `newestFirst` are the orders: by a time, then by the id.
* `select_congr`: relations with the same rows under the condition give the same answer.
-/

namespace BpEngine

/-- Rows under distinct ids. -/
structure Relation (α : Type) (id : α → ℕ) where
  rows : List α
  distinct : (rows.map id).Nodup

namespace Relation

variable {α : Type} {id : α → ℕ} {time : α → ℤ}

theorem nodup (relation : Relation α id) : relation.rows.Nodup := relation.distinct.of_map id

/-! ## Orders -/

/-- `ORDER BY time, id`. -/
def oldestFirst (time : α → ℤ) (id : α → ℕ) (a b : α) : Prop :=
  time a < time b ∨ time a = time b ∧ id a ≤ id b

/-- `ORDER BY time DESC, id DESC`. -/
def newestFirst (time : α → ℤ) (id : α → ℕ) (a b : α) : Prop := oldestFirst time id b a

instance : DecidableRel (oldestFirst time id) :=
  fun _ _ => inferInstanceAs (Decidable (_ ∨ _ ∧ _))

instance : DecidableRel (newestFirst time id) := fun a b =>
  inferInstanceAs (Decidable (oldestFirst time id b a))

instance : Std.Total (oldestFirst time id) where
  total a b := by
    unfold oldestFirst
    omega

instance : IsTrans α (oldestFirst time id) where
  trans a b c hab hbc := by
    unfold oldestFirst at *
    omega

instance : Std.Total (newestFirst time id) where
  total a b := Std.Total.total (r := oldestFirst time id) b a

instance : IsTrans α (newestFirst time id) where
  trans _ _ _ hab hbc := IsTrans.trans (r := oldestFirst time id) _ _ _ hbc hab

theorem oldestFirst_antisymm {a b : α} (hab : oldestFirst time id a b)
    (hba : oldestFirst time id b a) : id a = id b := by
  unfold oldestFirst at *
  omega

/-! ## Queries -/

/-- `SELECT * … WHERE condition ORDER BY order`. -/
def select (relation : Relation α id) (condition : α → Bool) (order : α → α → Prop)
    [DecidableRel order] : List α :=
  (relation.rows.filter condition).insertionSort order

theorem mem_select {relation : Relation α id} {condition : α → Bool} {order : α → α → Prop}
    [DecidableRel order] {row : α} :
    row ∈ relation.select condition order ↔ row ∈ relation.rows ∧ condition row = true := by
  unfold select
  rw [List.mem_insertionSort, List.mem_filter]

/-- The relations have the same rows under the condition. -/
def Agree (condition : α → Prop) (relation other : Relation α id) : Prop :=
  ∀ row, condition row → (row ∈ relation.rows ↔ row ∈ other.rows)

theorem Agree.mono {relation other : Relation α id} {condition weaker : α → Prop}
    (hagree : Agree weaker relation other) (himp : ∀ row, condition row → weaker row) :
    Agree condition relation other :=
  fun row hrow => hagree row (himp row hrow)

theorem agree_of_filter_eq {relation other : Relation α id} {condition : α → Prop}
    [DecidablePred condition]
    (h : relation.rows.filter (condition ·) = other.rows.filter (condition ·)) :
    Agree condition relation other := by
  intro row hrow
  have hiff : row ∈ relation.rows.filter (condition ·) ↔ row ∈ other.rows.filter (condition ·) := by
    rw [h]
  simpa only [List.mem_filter, decide_eq_true_eq, hrow, and_true] using hiff

/-- An order that is strict on ids leaves one way to list some rows of a relation. -/
theorem eq_of_perm (relation : Relation α id) {order : α → α → Prop} {l l' : List α}
    (hstrict : ∀ a b, order a b → order b a → id a = id b) (hl : ∀ row ∈ l, row ∈ relation.rows)
    (hperm : l.Perm l') (hsorted : l.Pairwise order) (hsorted' : l'.Pairwise order) : l = l' := by
  refine hperm.eq_of_pairwise (fun a b ha hb hab hba => ?_) hsorted hsorted'
  have hmem := hl a ha
  have hmem' := hl b (hperm.symm.subset hb)
  exact List.inj_on_of_nodup_map relation.distinct hmem hmem' (hstrict a b hab hba)

/-- **What a query returns** depends on the rows under its condition alone. -/
theorem select_congr {relation other : Relation α id} {condition : α → Bool}
    {order : α → α → Prop} [DecidableRel order] [Std.Total order] [IsTrans α order]
    (hstrict : ∀ a b, order a b → order b a → id a = id b)
    (hagree : Agree (fun row => condition row = true) relation other) :
    relation.select condition order = other.select condition order := by
  have hfilter : (relation.rows.filter condition).Perm (other.rows.filter condition) := by
    rw [List.perm_ext_iff_of_nodup (relation.nodup.filter _) (other.nodup.filter _)]
    intro row
    rw [List.mem_filter, List.mem_filter]
    exact and_congr_left fun hcondition => hagree row hcondition
  have hperm : (relation.select condition order).Perm (other.select condition order) :=
    ((List.perm_insertionSort order _).trans hfilter).trans (List.perm_insertionSort order _).symm
  exact eq_of_perm relation hstrict (fun row hrow => (mem_select.mp hrow).1) hperm
    (List.pairwise_insertionSort order _) (List.pairwise_insertionSort order _)

/-- A condition more on the answer is a condition more in the query. -/
theorem select_filter {relation : Relation α id} {condition more : α → Bool}
    {order : α → α → Prop} [DecidableRel order] [Std.Total order] [IsTrans α order]
    (hstrict : ∀ a b, order a b → order b a → id a = id b) :
    (relation.select condition order).filter more =
      relation.select (fun row => condition row && more row) order := by
  have hsame : (relation.rows.filter condition).filter more =
      relation.rows.filter fun row => condition row && more row := by
    rw [List.filter_filter]
    exact List.filter_congr fun row _ => Bool.and_comm _ _
  have hperm : ((relation.select condition order).filter more).Perm
      (relation.select (fun row => condition row && more row) order) := by
    refine ((List.perm_insertionSort order _).filter more).trans ?_
    rw [hsame]
    exact (List.perm_insertionSort order _).symm
  refine eq_of_perm relation hstrict (fun row hrow => ?_) hperm
    ((List.pairwise_insertionSort order _).filter _) (List.pairwise_insertionSort order _)
  exact (mem_select.mp (List.mem_filter.mp hrow).1).1

theorem select_oldestFirst_congr {relation other : Relation α id} {condition : α → Bool}
    (hagree : Agree (fun row => condition row = true) relation other) :
    relation.select condition (oldestFirst time id) =
      other.select condition (oldestFirst time id) :=
  select_congr (fun _ _ => oldestFirst_antisymm) hagree

theorem select_newestFirst_congr {relation other : Relation α id} {condition : α → Bool}
    (hagree : Agree (fun row => condition row = true) relation other) :
    relation.select condition (newestFirst time id) =
      other.select condition (newestFirst time id) :=
  select_congr (fun _ _ hab hba => (oldestFirst_antisymm hab hba).symm) hagree

/-- Rows under distinct times and ids are sorted in one way. -/
theorem insertionSort_newestFirst_eq {l l' : List α}
    (hdistinct : (l.map fun row => (time row, id row)).Nodup) (hperm : l.Perm l') :
    l.insertionSort (newestFirst time id) = l'.insertionSort (newestFirst time id) := by
  have hsorted : (l.insertionSort (newestFirst time id)).Perm
      (l'.insertionSort (newestFirst time id)) :=
    ((List.perm_insertionSort _ l).trans hperm).trans (List.perm_insertionSort _ l').symm
  refine hsorted.eq_of_pairwise (fun a b ha hb hab hba => ?_) (List.pairwise_insertionSort _ _)
    (List.pairwise_insertionSort _ _)
  have hmem : a ∈ l := (List.mem_insertionSort _).mp ha
  have hmem' : b ∈ l := (List.mem_insertionSort _).mp (hsorted.symm.subset hb)
  have htime : time a = time b ∧ id a = id b := by
    unfold newestFirst oldestFirst at hab hba
    omega
  exact List.inj_on_of_nodup_map hdistinct hmem hmem' (Prod.ext htime.1 htime.2)

end Relation

end BpEngine
