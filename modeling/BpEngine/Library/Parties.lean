import Mathlib.Tactic

/-!
# Parties by their place

The parties of a system are a list; a step of one of them puts its new state in its place.

* `sum_map_set` says what a sum over the parties becomes.
* `forall_mem_set` and `exists_mem_set` say what all of them, or one of them, keep.
-/

namespace BpEngine.Parties

variable {α : Type} {parties : List α} {place : ℕ} {old new : α}

variable (new) in
theorem sum_map_set {M : Type} [AddCommMonoid M] (f : α → M) (hold : parties[place]? = some old) :
    ((parties.set place new).map f).sum + f old = (parties.map f).sum + f new := by
  induction parties generalizing place with
  | nil => cases hold
  | cons party parties ih =>
    cases place with
    | zero =>
      obtain rfl : party = old := by simpa using hold
      simp only [List.set_cons_zero, List.map_cons, List.sum_cons]
      abel
    | succ place =>
      have hrest := @ih place (by simpa using hold)
      simp only [List.set_cons_succ, List.map_cons, List.sum_cons, add_assoc]
      rw [hrest]

theorem forall_mem_set {P : α → Prop} (hall : ∀ party ∈ parties, P party) (hnew : P new) :
    ∀ party ∈ parties.set place new, P party := by
  intro party hparty
  rcases List.mem_or_eq_of_mem_set hparty with hmem | rfl
  · exact hall party hmem
  · exact hnew

theorem mem_set_self (hold : parties[place]? = some old) : new ∈ parties.set place new :=
  List.mem_set (List.getElem?_eq_some_iff.mp hold).1 new

theorem exists_mem_set {P : α → Prop} (hold : parties[place]? = some old)
    (hexists : ∃ party ∈ parties, P party) (hkept : P old → P new) :
    ∃ party ∈ parties.set place new, P party := by
  obtain ⟨party, hmem, hparty⟩ := hexists
  obtain ⟨other, hother, hget⟩ := List.getElem_of_mem hmem
  by_cases hsame : other = place
  · subst hsame
    have heq : party = old := by
      rw [List.getElem?_eq_getElem hother, hget] at hold
      exact Option.some.inj hold
    exact ⟨new, mem_set_self hold, hkept (heq ▸ hparty)⟩
  · refine ⟨party, List.mem_iff_getElem?.mpr ⟨other, ?_⟩, hparty⟩
    rw [List.getElem?_set_ne (Ne.symm hsame), List.getElem?_eq_getElem hother, hget]

end BpEngine.Parties
