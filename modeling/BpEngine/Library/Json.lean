import BpEngine.Library.Decimal

/-!
# JSON values

The values `json.loads` builds, with the operations Python has on them.

* A float is given by the decimal its `repr` shows; `Json.text` is `str`, `Json.truthy` is `bool`.
* `Dict` is a mapping; `get` reads a missing entry as `None`, `without` drops an entry and `hasKeys`
  compares the set of its keys.
* `normal` sorts the keys of all mappings; two mappings are equal when their normal forms are.
-/

namespace BpEngine

/-- A JSON value; the entries of a mapping are in the order they were made in. -/
inductive Json where
  | null
  | bool (value : Bool)
  | int (value : ℤ)
  | float (repr : Decimal)
  | str (value : String)
  | arr (items : List Json)
  | obj (entries : List (String × Json))

/-- A mapping with text keys. -/
abbrev Dict := List (String × Json)

namespace Json

/-- `bool(value)`. -/
def truthy : Json → Bool
  | .null => false
  | .bool value => value
  | .int value => value ≠ 0
  | .float repr => repr.coeff ≠ 0
  | .str value => value ≠ ""
  | .arr items => !items.isEmpty
  | .obj entries => !entries.isEmpty

/-! ## Text -/

/-- The digits of a float's `repr`, without the zeros at their end, and its decimal point. -/
def floatDigits (d : Decimal) : List Char × ℤ :=
  let digits := Nat.toDigits 10 d.coeff.natAbs
  (((digits.reverse.dropWhile (· = '0')).reverse), digits.length + d.exp)

/-- `repr(float)`: positional from 0.0001 up to 16 digits before the point. -/
def floatText (d : Decimal) : String :=
  let (digits, point) := floatDigits d
  let sign := if d.coeff < 0 then "-" else ""
  let zeros (n : ℤ) : List Char := List.replicate n.toNat '0'
  sign ++
    if digits = [] then "0.0"
    else if point ≤ -4 ∨ 16 < point then
      let mantissa := String.ofList (digits.take 1) ++
        (if digits.length ≤ 1 then "" else "." ++ String.ofList (digits.drop 1))
      let exponent := Nat.toDigits 10 (point - 1).natAbs
      mantissa ++ (if point - 1 < 0 then "e-" else "e+") ++
        String.ofList (zeros (2 - exponent.length) ++ exponent)
    else if point ≤ 0 then "0." ++ String.ofList (zeros (-point) ++ digits)
    else if (digits.length : ℤ) ≤ point then
      String.ofList (digits ++ zeros (point - digits.length)) ++ ".0"
    else String.ofList (digits.take point.toNat) ++ "." ++ String.ofList (digits.drop point.toNat)

/-- A character inside the quotes of a `repr`. -/
def quotedChar (quote c : Char) : List Char :=
  if c = quote ∨ c = '\\' then ['\\', c]
  else if c = '\n' then ['\\', 'n']
  else if c = '\r' then ['\\', 'r']
  else if c = '\t' then ['\\', 't']
  else if c.toNat < 32 ∨ c.toNat = 127 then
    ['\\', 'x', Nat.digitChar (c.toNat / 16), Nat.digitChar (c.toNat % 16)]
  else [c]

/-- `repr(str)`; every character beyond ASCII counts as printable. -/
def quoted (s : String) : String :=
  let quote := if '\'' ∈ s.toList ∧ '"' ∉ s.toList then '"' else '\''
  String.ofList ([quote] ++ s.toList.flatMap (quotedChar quote) ++ [quote])

mutual

/-- `repr(value)`. -/
def repr : Json → String
  | .null => "None"
  | .bool value => if value then "True" else "False"
  | .int value => toString value
  | .float d => floatText d
  | .str value => quoted value
  | .arr items => "[" ++ ", ".intercalate (reprItems items) ++ "]"
  | .obj entries => "\x7b" ++ ", ".intercalate (reprEntries entries) ++ "\x7d"

def reprItems : List Json → List String
  | [] => []
  | item :: items => repr item :: reprItems items

def reprEntries : List (String × Json) → List String
  | [] => []
  | (key, value) :: entries => (quoted key ++ ": " ++ repr value) :: reprEntries entries

end

/-- `str(value)`. -/
def text : Json → String
  | .str value => value
  | value => value.repr

/-- `str(value or "")`. -/
def textOrEmpty (value : Json) : String := if value.truthy then value.text else ""

@[simp] theorem textOrEmpty_str (s : String) : textOrEmpty (.str s) = s := by
  by_cases h : s = ""
  · subst h
    rfl
  · simp [textOrEmpty, truthy, h, text]

/-- `value == n`. -/
def isInt (n : ℤ) : Json → Bool
  | .bool value => (if value then 1 else 0) = n
  | .int value => value = n
  | .float repr => Decimal.Same repr ⟨n, 0⟩
  | _ => false

@[simp] theorem isInt_int (n m : ℤ) : isInt n (.int m) = decide (m = n) := rfl

/-- `value == text`. -/
def isStr (s : String) : Json → Bool
  | .str value => value = s
  | _ => false

/-- `value is flag`. -/
def isBool (flag : Bool) : Json → Bool
  | .bool value => value = flag
  | _ => false

@[simp] theorem isStr_str (s t : String) : isStr s (.str t) = decide (t = s) := rfl

@[simp] theorem isBool_bool (a b : Bool) : isBool a (.bool b) = decide (b = a) := rfl

/-! ## Normal forms -/

/-- Puts an entry in front of the first entry whose key is not smaller. -/
def insertKey (entry : String × Json) : Dict → Dict
  | [] => [entry]
  | first :: rest =>
    if entry.1 ≤ first.1 then entry :: first :: rest else first :: insertKey entry rest

mutual

/-- The value with the keys of all its mappings sorted. -/
def normal : Json → Json
  | .arr items => .arr (normalItems items)
  | .obj entries => .obj (normalEntries entries)
  | value => value

def normalItems : List Json → List Json
  | [] => []
  | item :: items => normal item :: normalItems items

def normalEntries : List (String × Json) → List (String × Json)
  | [] => []
  | (key, value) :: entries => insertKey (key, normal value) (normalEntries entries)

end

/-- What is found under a name in front of a mapping. -/
theorem lookup_cons (entry : String × Json) (d : Dict) (name : String) :
    List.lookup name (entry :: d) = if name = entry.1 then some entry.2 else d.lookup name := by
  obtain ⟨key, value⟩ := entry
  by_cases h : name = key
  · simp [h]
  · have hne : (name == key) = false := by simpa using h
    simp [List.lookup_cons, hne, h]

theorem lookup_insertKey (entry : String × Json) (d : Dict) (name : String) :
    (insertKey entry d).lookup name = if name = entry.1 then some entry.2 else d.lookup name := by
  induction d with
  | nil => exact lookup_cons entry [] name
  | cons first rest ih =>
    unfold insertKey
    split_ifs with hle hname hname
    · rw [lookup_cons, if_pos hname]
    · rw [lookup_cons, if_neg hname]
    · have hne : ¬ name = first.1 := by
        rintro heq
        rw [← hname, heq] at hle
        exact hle (String.le_refl _)
      rw [lookup_cons, if_neg hne, ih, if_pos hname]
    · rw [lookup_cons, lookup_cons, ih, if_neg hname]

/-- Sorting keeps what is found under a name. -/
theorem lookup_normalEntries (d : Dict) (name : String) :
    (normalEntries d).lookup name = (d.lookup name).map normal := by
  induction d with
  | nil => rfl
  | cons entry rest ih =>
    obtain ⟨key, value⟩ := entry
    rw [normalEntries, lookup_insertKey, ih, lookup_cons]
    split_ifs <;> rfl

theorem mem_insertKey {entry other : String × Json} {d : Dict} :
    other ∈ insertKey entry d ↔ other = entry ∨ other ∈ d := by
  induction d with
  | nil => simp [insertKey]
  | cons first rest ih =>
    unfold insertKey
    split_ifs
    · simp
    · rw [List.mem_cons, ih, List.mem_cons]
      tauto

/-- The keys are in order. -/
def KeysSorted (d : Dict) : Prop := d.Pairwise fun entry other => entry.1 ≤ other.1

theorem keysSorted_insertKey {entry : String × Json} {d : Dict} (h : KeysSorted d) :
    KeysSorted (insertKey entry d) := by
  induction d with
  | nil => exact List.pairwise_singleton _ _
  | cons first rest ih =>
    obtain ⟨hfirst, hrest⟩ := List.pairwise_cons.mp h
    unfold insertKey
    split_ifs with hle
    · refine List.pairwise_cons.mpr ⟨fun other hother => ?_, h⟩
      rcases List.mem_cons.mp hother with rfl | hother
      · exact hle
      · exact String.le_trans hle (hfirst other hother)
    · have hge : first.1 ≤ entry.1 := (String.le_total first.1 entry.1).resolve_right hle
      refine List.pairwise_cons.mpr ⟨fun other hother => ?_, ih hrest⟩
      rcases mem_insertKey.mp hother with rfl | hother
      · exact hge
      · exact hfirst other hother

theorem keysSorted_normalEntries (d : Dict) : KeysSorted (normalEntries d) := by
  induction d with
  | nil => exact List.Pairwise.nil
  | cons entry rest ih => exact keysSorted_insertKey ih

/-- A mapping in order, with values in normal form, is in normal form. -/
theorem normalEntries_eq_self {d : Dict} (hsorted : KeysSorted d)
    (hvalues : ∀ entry ∈ d, entry.2.normal = entry.2) : normalEntries d = d := by
  induction d with
  | nil => rfl
  | cons entry rest ih =>
    obtain ⟨hfirst, hrest⟩ := List.pairwise_cons.mp hsorted
    have hentry : entry.2.normal = entry.2 := hvalues entry List.mem_cons_self
    have htail : normalEntries rest = rest :=
      ih hrest fun other hother => hvalues other (List.mem_cons_of_mem _ hother)
    rw [normalEntries, htail, hentry]
    cases rest with
    | nil => rfl
    | cons second rest => exact if_pos (hfirst second List.mem_cons_self)

mutual

/-- A normal form is in normal form. -/
theorem normal_normal : ∀ value : Json, value.normal.normal = value.normal
  | .null | .bool _ | .int _ | .float _ | .str _ => rfl
  | .arr items => by rw [normal, normal, normalItems_normalItems items]
  | .obj entries => by
    rw [normal, normal,
      normalEntries_eq_self (keysSorted_normalEntries entries) (normal_of_mem entries)]

theorem normalItems_normalItems : ∀ items : List Json,
    normalItems (normalItems items) = normalItems items
  | [] => rfl
  | item :: items => by
    rw [normalItems, normalItems, normal_normal item, normalItems_normalItems items]

theorem normal_of_mem : ∀ d : List (String × Json), ∀ entry ∈ normalEntries d,
    entry.2.normal = entry.2
  | [], _, hentry => absurd hentry List.not_mem_nil
  | (_, value) :: rest, entry, hentry => by
    rw [normalEntries] at hentry
    rcases mem_insertKey.mp hentry with rfl | hrest
    · exact normal_normal value
    · exact normal_of_mem rest entry hrest

end

@[simp] theorem normalEntries_normalEntries (d : Dict) :
    normalEntries (normalEntries d) = normalEntries d :=
  normalEntries_eq_self (keysSorted_normalEntries d) (normal_of_mem d)

/-! ## What sorting keeps -/

@[simp] theorem isInt_normal (n : ℤ) (value : Json) : isInt n value.normal = isInt n value := by
  cases value <;> rfl

@[simp] theorem isStr_normal (s : String) (value : Json) :
    isStr s value.normal = isStr s value := by
  cases value <;> rfl

@[simp] theorem isBool_normal (flag : Bool) (value : Json) :
    isBool flag value.normal = isBool flag value := by
  cases value <;> rfl

theorem isEmpty_insertKey (entry : String × Json) (d : Dict) :
    (insertKey entry d).isEmpty = false := by
  cases d with
  | nil => rfl
  | cons first rest =>
    unfold insertKey
    split_ifs <;> rfl

@[simp] theorem truthy_normal (value : Json) : truthy value.normal = truthy value := by
  cases value with
  | arr items => cases items <;> rfl
  | obj entries =>
    cases entries with
    | nil => rfl
    | cons entry rest =>
      rw [normal, truthy, normalEntries, isEmpty_insertKey]
      rfl
  | _ => rfl

/-- The text starts like that of a list or a mapping. -/
def bracketed (text : String) : Bool := text.toList.head?.any (· ∈ ['[', '\x7b'])

/-- Sorting changes the text of lists and mappings only. -/
theorem text_normal {value : Json} (h : bracketed value.text = false) :
    value.normal.text = value.text := by
  cases value with
  | arr items => simp [text, repr, bracketed] at h
  | obj entries => simp [text, repr, bracketed] at h
  | _ => rfl

end Json

/-! ## Mappings -/

namespace Dict

/-- `d.get(name)`. -/
def get (d : Dict) (name : String) : Json := (d.lookup name).getD .null

/-- The entries other than `name`. -/
def without (d : Dict) (name : String) : Dict := d.filter (·.1 ≠ name)

/-- `name in d`. -/
def has (d : Dict) (name : String) : Bool := (d.lookup name).isSome

/-- `d[name] = value`: in its place, or at the end. -/
def put (d : Dict) (name : String) (value : Json) : Dict :=
  if d.has name then d.map fun entry => if entry.1 = name then (name, value) else entry
  else d ++ [(name, value)]

/-- `set(d) == set(names)`. -/
def hasKeys (d : Dict) (names : List String) : Bool :=
  d.all (fun entry => entry.1 ∈ names) && names.all fun name => d.has name

/-- `a == b` of mappings, also inside them. -/
def Same (a b : Dict) : Prop := Json.normalEntries a = Json.normalEntries b

theorem lookup_append (a b : Dict) (name : String) :
    List.lookup name (a ++ b) = (List.lookup name a).or (List.lookup name b) := by
  induction a with
  | nil => rfl
  | cons entry rest ih =>
    rw [List.cons_append, Json.lookup_cons, Json.lookup_cons, ih]
    split_ifs <;> rfl

/-- Dropping the last entry of a mapping that has no other of its name. -/
theorem without_append_singleton {d : Dict} {name : String} {value : Json}
    (h : ∀ entry ∈ d, entry.1 ≠ name) : Dict.without (d ++ [(name, value)]) name = d := by
  have hfilter : d.filter (fun entry => decide (entry.1 ≠ name)) = d :=
    List.filter_eq_self.2 fun entry hentry => by simpa using h entry hentry
  rw [without, List.filter_append, hfilter]
  simp

theorem get_normalEntries (d : Dict) (name : String) :
    get (Json.normalEntries d) name = (d.get name).normal := by
  unfold get
  rw [Json.lookup_normalEntries]
  cases d.lookup name <;> rfl

theorem has_normalEntries (d : Dict) (name : String) :
    has (Json.normalEntries d) name = d.has name := by
  unfold has
  rw [Json.lookup_normalEntries, Option.isSome_map]

/-- Sorting keeps the set of the keys. -/
theorem hasKeys_normalEntries (d : Dict) (names : List String) :
    hasKeys (Json.normalEntries d) names = d.hasKeys names := by
  have hall : (Json.normalEntries d).all (fun entry => entry.1 ∈ names) =
      d.all fun entry => entry.1 ∈ names := by
    induction d with
    | nil => rfl
    | cons entry rest ih =>
      rw [List.all_cons, ← ih, Bool.eq_iff_iff]
      simp only [Json.normalEntries, List.all_eq_true, Json.mem_insertKey, forall_eq_or_imp,
        Bool.and_eq_true]
  unfold hasKeys
  rw [hall]
  simp only [has_normalEntries]

/-- A key of a mapping is one of its keys. -/
theorem mem_of_hasKeys {d : Dict} {names : List String} {name : String}
    (hkeys : d.hasKeys names = true) (hhas : d.has name = true) : name ∈ names := by
  obtain ⟨value, hvalue⟩ := Option.isSome_iff_exists.mp hhas
  have hall : ∀ entry ∈ d, entry.1 ∈ names := by
    simp only [hasKeys, Bool.and_eq_true, List.all_eq_true, decide_eq_true_eq] at hkeys
    exact hkeys.1
  clear hkeys hhas
  induction d with
  | nil => cases hvalue
  | cons entry rest ih =>
    rw [Json.lookup_cons] at hvalue
    split_ifs at hvalue with hname
    · rw [hname]
      exact hall entry List.mem_cons_self
    · exact ih hvalue fun other hother => hall other (List.mem_cons_of_mem _ hother)

theorem lookup_map_entry (d : Dict) (name other : String) (value : Json) :
    List.lookup other (d.map fun entry => if entry.1 = name then (name, value) else entry) =
      if other = name then (d.lookup other).map fun _ => value else d.lookup other := by
  induction d with
  | nil => simp
  | cons entry rest ih =>
    rw [List.map_cons, Json.lookup_cons, Json.lookup_cons, ih]
    by_cases hentry : entry.1 = name
    · rw [if_pos hentry, hentry]
      split_ifs <;> rfl
    · rw [if_neg hentry]
      by_cases hother : other = entry.1
      · rw [if_pos hother, if_pos hother, if_neg (hother ▸ hentry)]
      · rw [if_neg hother, if_neg hother]

/-- What is written is read back; the other entries are kept. -/
theorem lookup_put (d : Dict) (name other : String) (value : Json) :
    List.lookup other (d.put name value) = if other = name then some value else d.lookup other := by
  unfold put has
  split_ifs with hhas hother hother
  · rw [lookup_map_entry, if_pos hother]
    obtain ⟨old, hold⟩ := Option.isSome_iff_exists.mp hhas
    rw [hother, hold]
    rfl
  · rw [lookup_map_entry, if_neg hother]
  · have hnone : List.lookup name d = none := Option.not_isSome_iff_eq_none.mp hhas
    rw [lookup_append, Json.lookup_cons, hother, hnone, if_pos rfl]
    rfl
  · rw [lookup_append, Json.lookup_cons, if_neg hother]
    simp

end Dict

end BpEngine
