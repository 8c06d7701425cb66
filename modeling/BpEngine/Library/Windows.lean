import Mathlib.Data.List.Nodup
import Mathlib.Order.Lattice
import Mathlib.Tactic

/-!
# Windows of a time line

Items with a start and a finish on a linear order, and windows of it.  An item is `Within` a window,
or it `Straddles` an instant that is strictly between its ends.

* `Within.finish_le_start`: what is within a window ends before what is within a later one starts.
* `within_split`: an item within two adjacent windows taken together is within one of them, or
  straddles the instant they share; `within_count` is the count for three windows.
* `count_map_filter` counts an item of a list without repetition in a part of it.
* `during` is what a list has at the times of a window that contains its start only;
  `during_split` cuts such a window in two.
-/

namespace BpEngine.Windows

variable {T α : Type} [LinearOrder T] {start finish : α → T}

/-- The item starts and finishes in the window. -/
def Within (start finish : α → T) (a b : T) (x : α) : Prop := a ≤ start x ∧ finish x ≤ b

/-- The item starts before the instant and finishes after it. -/
def Straddles (start finish : α → T) (t : T) (x : α) : Prop := start x < t ∧ t < finish x

instance (a b : T) (x : α) : Decidable (Within start finish a b x) :=
  inferInstanceAs (Decidable (_ ∧ _))

instance (t : T) (x : α) : Decidable (Straddles start finish t x) :=
  inferInstanceAs (Decidable (_ ∧ _))

/-- What is within a window ends before what is within a later one starts. -/
theorem Within.finish_le_start {a b c d : T} {x y : α} (hx : Within start finish a b x)
    (hy : Within start finish c d y) (hbc : b ≤ c) : finish x ≤ start y :=
  hx.2.trans (hbc.trans hy.1)

theorem Within.mono {a b a' b' : T} {x : α} (h : Within start finish a b x) (ha : a' ≤ a)
    (hb : b ≤ b') : Within start finish a' b' x :=
  ⟨ha.trans h.1, h.2.trans hb⟩

/-- An item of positive length is not within two windows one of which ends before the other. -/
theorem Within.not_within {a b c d : T} {x : α} (hx : start x < finish x)
    (h : Within start finish a b x) (hbc : b ≤ c) : ¬ Within start finish c d x := by
  intro h'
  exact absurd hx (not_lt.mpr (h.finish_le_start h' hbc))

theorem Within.not_straddles_start {a b t : T} {x : α} (h : Within start finish a b x)
    (ht : t ≤ a) : ¬ Straddles start finish t x :=
  fun hs => absurd hs.1 (not_lt.mpr (ht.trans h.1))

theorem Within.not_straddles_end {a b t : T} {x : α} (h : Within start finish a b x)
    (ht : b ≤ t) : ¬ Straddles start finish t x :=
  fun hs => absurd hs.2 (not_lt.mpr (h.2.trans ht))

/-- **An item within two adjacent windows taken together is within one of them, or straddles the
instant they share.** -/
theorem within_split {a b c : T} {x : α} (h : Within start finish a c x) :
    Within start finish a b x ∨ Within start finish b c x ∨ Straddles start finish b x := by
  by_cases hf : finish x ≤ b
  · exact Or.inl ⟨h.1, hf⟩
  · by_cases hs : b ≤ start x
    · exact Or.inr (Or.inl ⟨hs, h.2⟩)
    · exact Or.inr (Or.inr ⟨not_le.mp hs, not_le.mp hf⟩)

/-- **An item of positive length that is within three adjacent windows taken together is within one
of them only, or straddles one of the instants between them.** -/
theorem within_count {a b c d : T} {x : α} (hx : start x < finish x) (hbc : b ≤ c)
    (h : Within start finish a d x) :
    (if Within start finish a b x then 1 else 0) + (if Within start finish b c x then 1 else 0) +
        (if Within start finish c d x then 1 else 0) +
        (if Straddles start finish a x ∨ Straddles start finish b x ∨ Straddles start finish c x ∨
          Straddles start finish d x then 1 else 0) = 1 := by
  have hna : ¬ Straddles start finish a x := h.not_straddles_start le_rfl
  have hnd : ¬ Straddles start finish d x := h.not_straddles_end le_rfl
  rcases within_split (b := b) h with hw | hw | hs
  · have h2 : ¬ Within start finish b c x := hw.not_within hx le_rfl
    have h3 : ¬ Within start finish c d x := hw.not_within hx hbc
    have hnb : ¬ Straddles start finish b x := hw.not_straddles_end le_rfl
    have hnc : ¬ Straddles start finish c x := hw.not_straddles_end hbc
    simp [hw, h2, h3, hna, hnb, hnc, hnd]
  · have h1 : ¬ Within start finish a b x := fun h1 => h1.not_within hx le_rfl hw
    have hnb : ¬ Straddles start finish b x := hw.not_straddles_start le_rfl
    rcases within_split (b := c) hw with hw | hw | hs
    · have h3 : ¬ Within start finish c d x := hw.not_within hx le_rfl
      have hnc : ¬ Straddles start finish c x := hw.not_straddles_end le_rfl
      simp [hw, h1, h3, hna, hnb, hnc, hnd]
    · have h2 : ¬ Within start finish b c x := fun h2 => h2.not_within hx le_rfl hw
      have hnc : ¬ Straddles start finish c x := hw.not_straddles_start le_rfl
      simp [hw, h1, h2, hna, hnb, hnc, hnd]
    · have h2 : ¬ Within start finish b c x := fun h2 => h2.not_straddles_end le_rfl hs
      have h3 : ¬ Within start finish c d x := fun h3 => h3.not_straddles_start le_rfl hs
      simp [hs, h1, h2, h3]
  · have h1 : ¬ Within start finish a b x := fun h1 => h1.not_straddles_end le_rfl hs
    have h2 : ¬ Within start finish b c x := fun h2 => h2.not_straddles_start le_rfl hs
    have h3 : ¬ Within start finish c d x := fun h3 => h3.not_straddles_start hbc hs
    simp [hs, h1, h2, h3]

/-! ## Counting -/

variable {β : Type} [DecidableEq β]

/-- An item of a list without repetition occurs in a part of the list once or not at all. -/
theorem count_map_filter {f : α → β} {l : List α} (hl : (l.map f).Nodup) {x : α} (hx : x ∈ l)
    (p : α → Bool) : ((l.filter p).map f).count (f x) = if p x = true then 1 else 0 := by
  have hnodup : ((l.filter p).map f).Nodup := hl.sublist (List.filter_sublist.map f)
  split_ifs with hp
  · exact List.count_eq_one_of_mem hnodup
      (List.mem_map.mpr ⟨x, List.mem_filter.mpr ⟨hx, hp⟩, rfl⟩)
  · refine List.count_eq_zero.mpr fun hmem => hp ?_
    obtain ⟨y, hy, hxy⟩ := List.mem_map.mp hmem
    have hyl : y ∈ l := (List.mem_filter.mp hy).1
    rw [← List.inj_on_of_nodup_map hl hyl hx hxy]
    exact (List.mem_filter.mp hy).2

/-! ## Windows that contain their start only -/

section During

variable (time : α → T)

/-- The items of a list whose times are in the window. -/
def during (a b : T) (l : List α) : List α := l.filter fun x => a ≤ time x ∧ time x < b

theorem mem_during {a b : T} {l : List α} {x : α} :
    x ∈ during time a b l ↔ x ∈ l ∧ a ≤ time x ∧ time x < b := by
  simp [during]

theorem during_of_le {a b : T} (h : b ≤ a) (l : List α) : during time a b l = [] := by
  refine List.eq_nil_iff_forall_not_mem.mpr fun x hx => ?_
  obtain ⟨-, ha, hb⟩ := (mem_during time).mp hx
  exact absurd hb (not_lt.mpr (h.trans ha))

/-- **A window that is cut in two has its items in the two parts.** -/
theorem during_split {a b c : T} (hab : a ≤ b) (hbc : b ≤ c) (l : List α) :
    (during time a b l ++ during time b c l).Perm (during time a c l) := by
  have hparts := List.filter_append_perm (fun x => decide (time x < b)) (during time a c l)
  have hfirst : (during time a c l).filter (fun x => decide (time x < b)) = during time a b l := by
    unfold during
    rw [List.filter_filter]
    refine List.filter_congr fun x _ => ?_
    have hlt : time x < b → time x < c := fun h => h.trans_le hbc
    simp only [← Bool.decide_and, decide_eq_decide]
    tauto
  have hsecond : (during time a c l).filter (fun x => !decide (time x < b)) = during time b c l := by
    unfold during
    rw [List.filter_filter]
    refine List.filter_congr fun x _ => ?_
    have hle : b ≤ time x → a ≤ time x := fun h => hab.trans h
    simp only [← decide_not, ← Bool.decide_and, decide_eq_decide, not_lt]
    tauto
  rwa [hfirst, hsecond] at hparts

end During

end BpEngine.Windows
