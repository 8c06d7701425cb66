import BpEngine.Library.Json

/-!
# Equality of JSON values

`==` of the values that a JSON text is read as: truth values and numbers are compared as numbers, lists
item by item, and mappings by their keys.

* `equal` is the comparison; `Dict.equal` compares mappings.
* `eq_str_of_equal` and `Dict.lookup_of_equal`: what equals a text is this text, also inside a mapping.
-/

namespace BpEngine

namespace Json

/-- The number a value counts as. -/
def number : Json → Option Decimal
  | .bool value => some ⟨if value then 1 else 0, 0⟩
  | .int value => some ⟨value, 0⟩
  | .float repr => some repr
  | _ => none

/-- Two values count as the same number. -/
def equalNumbers (a b : Json) : Bool :=
  match a.number, b.number with
  | some a, some b => Decimal.Same a b
  | _, _ => false

mutual

/-- `a == b`. -/
def equal : Json → Json → Bool
  | .null, .null => true
  | .str a, .str b => a = b
  | .arr a, .arr b => equalItems a b
  | .obj a, .obj b => equalEntries a b && b.all fun entry => (a.lookup entry.1).isSome
  | a, b => equalNumbers a b

def equalItems : List Json → List Json → Bool
  | [], [] => true
  | item :: items, other :: others => equal item other && equalItems items others
  | _, _ => false

/-- Each entry has its counterpart. -/
def equalEntries : List (String × Json) → List (String × Json) → Bool
  | [], _ => true
  | (key, value) :: entries, b =>
    (match b.lookup key with
      | none => false
      | some other => equal value other) && equalEntries entries b

end

/-- Only a text equals a text. -/
theorem eq_str_of_equal {value : Json} {s : String} (h : equal value (.str s) = true) :
    value = .str s := by
  cases value with
  | str a => simpa [equal] using h
  | _ => simp [equal, equalNumbers, number] at h

/-- What is found in one of two equal mappings has its counterpart in the other. -/
theorem exists_of_equalEntries {a b : List (String × Json)} (h : equalEntries a b = true)
    {name : String} {value : Json} (hvalue : a.lookup name = some value) :
    ∃ other, b.lookup name = some other ∧ equal value other = true := by
  induction a with
  | nil => cases hvalue
  | cons entry entries ih =>
    obtain ⟨key, first⟩ := entry
    rw [equalEntries, Bool.and_eq_true] at h
    obtain ⟨hfirst, hrest⟩ := h
    rw [lookup_cons] at hvalue
    split_ifs at hvalue with hname
    · obtain rfl := Option.some.inj hvalue
      rw [show name = key from hname]
      split at hfirst
      · cases hfirst
      · exact ⟨_, by assumption, hfirst⟩
    · exact ih hrest hvalue

end Json

/-- `a == b` of mappings. -/
def Dict.equal (a b : Dict) : Bool := Json.equal (.obj a) (.obj b)

/-- A text in a mapping stands in every equal one. -/
theorem Dict.lookup_of_equal {a b : Dict} (h : Dict.equal a b = true) {name s : String}
    (hname : b.lookup name = some (.str s)) : a.lookup name = some (.str s) := by
  unfold Dict.equal Json.equal at h
  rw [Bool.and_eq_true, List.all_eq_true] at h
  obtain ⟨hentries, hkeys⟩ := h
  have hsome : (a.lookup name).isSome = true := by
    obtain ⟨l, r, hsplit, -⟩ := List.lookup_eq_some_iff.mp hname
    exact hkeys (name, .str s) (hsplit ▸ List.mem_append_right l List.mem_cons_self)
  obtain ⟨value, hvalue⟩ := Option.isSome_iff_exists.mp hsome
  obtain ⟨other, hother, hequal⟩ := Json.exists_of_equalEntries hentries hvalue
  obtain rfl := Option.some.inj (hother.symm.trans hname)
  rw [hvalue, Json.eq_str_of_equal hequal]

end BpEngine
