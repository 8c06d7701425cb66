import BpEngine.Features.Coverage

/-!
# What is hashed

The encoding that `canonical_hash` of `features/hashing.py` hashes: the JSON text of a canonical value,
with sorted keys and without blanks, in UTF-8.

* `dumps` is the JSON text, `canonicalEncoding` the bytes.  The text of a binary float is a parameter.
* `OneLeaf` relates payloads of one shape that differ in one decimal; `encoding_split` says that their
  texts differ in the text of this decimal only.
* `decimalText_eq_iff`: two decimals have the same text exactly when the context leaves the same of
  them, which is what `separated_iff` says of the encodings.
-/

namespace BpEngine.Features

variable {F : Type} (floats : Floats F) (shown : F → String)

/-! ## JSON texts -/

/-- A character in a JSON text, with `ensure_ascii=False`. -/
def jsonChar (c : Char) : List Char :=
  if c = '"' ∨ c = '\\' then ['\\', c]
  else if c = '\n' then ['\\', 'n']
  else if c = '\r' then ['\\', 'r']
  else if c = '\t' then ['\\', 't']
  else if c = '\x08' then ['\\', 'b']
  else if c = '\x0c' then ['\\', 'f']
  else if c.toNat < 32 then
    ['\\', 'u', '0', '0', Nat.digitChar (c.toNat / 16), Nat.digitChar (c.toNat % 16)]
  else [c]

def jsonString (text : String) : List Char := '"' :: (text.toList.flatMap jsonChar ++ ['"'])

/-- The text of a list, of the texts of its items. -/
def jsonList (items : List (List Char)) : List Char := '[' :: (List.intercalate [','] items ++ [']'])

/-- The text of a mapping, of the texts of its values; `sort_keys=True`. -/
def jsonMapping (entries : List (String × List Char)) : List Char :=
  '\x7b' :: (List.intercalate [','] ((sortedByKey entries).map fun entry =>
    jsonString entry.1 ++ ':' :: entry.2) ++ ['\x7d'])

mutual

/-- The text of a JSON value. -/
def jsonText : Json → List Char
  | .null => "null".toList
  | .bool value => (if value then "true" else "false").toList
  | .int value => (toString value).toList
  | .float value => (Json.floatText value).toList
  | .str value => jsonString value
  | .arr items => jsonList (jsonTexts items)
  | .obj entries => jsonMapping (jsonEntries entries)

def jsonTexts : List Json → List (List Char)
  | [] => []
  | item :: items => jsonText item :: jsonTexts items

def jsonEntries : List (String × Json) → List (String × List Char)
  | [] => []
  | (key, value) :: entries => (key, jsonText value) :: jsonEntries entries

end

mutual

/-- `json.dumps`; a canonical value has no datetime and no `Decimal`. -/
def dumps : Value F → Outcome (List Char)
  | .none => .ok "null".toList
  | .bool value => .ok (if value then "true" else "false").toList
  | .int value => .ok (toString value).toList
  | .text value => .ok (jsonString value)
  | .float value => do
    require (floats.isFinite value = true) .valueError "Out of range float values are not JSON compliant"
    .ok (shown value).toList
  | .json value => .ok (jsonText value)
  | .time _ => raise .typeError "Object of type datetime is not JSON serializable"
  | .decimal _ => raise .typeError "Object of type Decimal is not JSON serializable"
  | .obj entries => do .ok (jsonMapping (← dumpsEntries entries))
  | .list items => do .ok (jsonList (← dumpsItems items))

def dumpsEntries : List (String × Value F) → Outcome (List (String × List Char))
  | [] => .ok []
  | (key, value) :: entries => do
    let first ← dumps value
    let rest ← dumpsEntries entries
    .ok ((key, first) :: rest)

def dumpsItems : List (Value F) → Outcome (List (List Char))
  | [] => .ok []
  | item :: items => do
    let first ← dumps item
    let rest ← dumpsItems items
    .ok (first :: rest)

end

/-- The JSON text of a value that is made canonical. -/
def canonicalChars (value : Value F) : Outcome (List Char) := do
  let canonical ← canonicalize floats value
  dumps floats shown canonical

/-- What `canonical_hash` hashes. -/
def canonicalEncoding (value : Value F) : Outcome (List UInt8) := do
  .ok (bytes (String.ofList (← canonicalChars floats shown value)))

/-! ## Texts of decimals -/

/-- The last digit of a number that is no multiple of ten. -/
theorem getLast_toDigits {n : ℕ} (h : n % 10 ≠ 0) (hne : Nat.toDigits 10 n ≠ []) :
    (Nat.toDigits 10 n).getLast hne ≠ '0' := by
  have hdigit : ∀ k < 10, k ≠ 0 → Nat.digitChar k ≠ '0' := by decide
  by_cases hsmall : n < 10
  · have hone : Nat.toDigits 10 n = [Nat.digitChar n] := Nat.toDigits_of_lt_base hsmall
    simp only [hone, List.getLast_singleton]
    exact hdigit n hsmall (by omega)
  · have hsplit : Nat.toDigits 10 n = Nat.toDigits 10 (n / 10) ++ [Nat.digitChar (n % 10)] :=
      Nat.toDigits_of_base_le (by decide) (by omega)
    simp only [hsplit, List.getLast_append_singleton]
    exact hdigit (n % 10) (by omega) h

/-- A mantissa ends with the last of the digits. -/
theorem mantissa_eq_concat {digits : List Char} (hne : digits ≠ []) (place : ℤ) :
    ∃ front, Decimal.mantissa digits place = front ++ [digits.getLast hne] := by
  have hlast : digits.dropLast ++ [digits.getLast hne] = digits := List.dropLast_append_getLast hne
  unfold Decimal.mantissa
  split_ifs with hneg hlt
  · refine ⟨'0' :: '.' :: (List.replicate (-place).toNat '0' ++ digits.dropLast), ?_⟩
    rw [List.cons_append, List.cons_append, List.append_assoc, hlast]
  · have hdrop : digits.drop place.toNat ≠ [] := by
      rw [ne_eq, List.drop_eq_nil_iff]
      omega
    have hsplit := List.dropLast_append_getLast hdrop
    rw [List.getLast_drop hdrop] at hsplit
    refine ⟨digits.take place.toNat ++ '.' :: (digits.drop place.toNat).dropLast, ?_⟩
    rw [List.append_assoc, List.cons_append, hsplit]
  · exact ⟨digits.dropLast, hlast.symm⟩

/-- A multiple of ten is written without a point. -/
theorem point_notMem_fixedChars {d : Decimal} (h : 0 < d.exp) : '.' ∉ d.fixedChars := by
  have hform : d.formatF = ⟨d.align 0, 0⟩ := if_pos h
  have hexp : d.formatF.exp = 0 := by rw [hform]
  have hpos := d.formatF.length_digitChars_pos
  have hwhole : Decimal.mantissa d.formatF.digitChars
      (d.formatF.exp + d.formatF.digitChars.length) = d.formatF.digitChars := by
    rw [hexp, zero_add]
    unfold Decimal.mantissa
    rw [if_neg (by omega), if_neg (lt_irrefl _)]
  unfold Decimal.fixedChars Decimal.signOf
  rw [hwhole]
  rintro hmem
  rcases List.mem_append.mp hmem with hmem | hmem
  · split_ifs at hmem
    · exact absurd (List.mem_singleton.mp hmem) (by decide)
    · cases hmem
  · have hdigit := Decimal.isDigit_of_mem_digitChars hmem
    exact absurd hdigit (by decide)

/-- The text of a reduced number has no zeros to drop. -/
theorem withoutZeros_fixedChars {d : Decimal} (h : d.Reduced) :
    withoutZeros d.fixedChars = d.fixedChars := by
  unfold withoutZeros
  split_ifs with hpoint
  · have hexp : ¬ 0 < d.exp := fun hexp => point_notMem_fixedChars hexp hpoint
    have hform : d.formatF = d := if_neg hexp
    have hcoeff : d.coeff.natAbs % 10 ≠ 0 := by
      rcases h with rfl | h
      · exact absurd hpoint (by decide)
      · omega
    have hne : d.digitChars ≠ [] := List.ne_nil_of_length_pos d.length_digitChars_pos
    obtain ⟨front, hfront⟩ := mantissa_eq_concat hne (d.exp + d.digitChars.length)
    have hlast : d.digitChars.getLast hne ≠ '0' := getLast_toDigits hcoeff hne
    have hdigit := Decimal.isDigit_of_mem_digitChars (List.getLast_mem hne)
    have hdot : d.digitChars.getLast hne ≠ '.' := by
      rintro heq
      rw [heq] at hdigit
      exact absurd hdigit (by decide)
    unfold Decimal.fixedChars
    rw [hform, hfront, ← List.append_assoc, List.rdropWhile_concat_neg _ _ _ (by simpa using hlast),
      List.rdropWhile_concat_neg _ _ _ (by simpa using hdot)]
  · rfl

theorem reduced_of_normalize {value normalized : Decimal} (h : value.normalize = some normalized) :
    normalized.Reduced ∧ value.contextValue = some normalized.toRat := by
  unfold Decimal.normalize at h
  unfold Decimal.contextValue
  obtain ⟨rounded, hrounded, rfl⟩ := Option.map_eq_some_iff.mp h
  rw [hrounded]
  exact ⟨Decimal.reduced_reduced rounded, by simp⟩

/-- The text of a decimal is the positional text of its normalized form. -/
theorem decimalText_eq_ok {value : Decimal} {text : String} :
    decimalText value = .ok text ↔
      ∃ normalized, value.normalize = some normalized ∧ text = String.ofList normalized.fixedChars := by
  unfold decimalText
  cases hnormal : value.normalize with
  | none => simp [raise]
  | some normalized =>
    obtain ⟨hreduced, -⟩ := reduced_of_normalize hnormal
    have htext : (if normalized.coeff = 0 then "0"
        else String.ofList (withoutZeros normalized.fixedChars)) =
        String.ofList normalized.fixedChars := by
      split_ifs with hzero
      · have hnormalized : normalized = 0 := by
          rcases hreduced with h | h
          · exact h
          · omega
        rw [hnormalized]
        decide
      · rw [withoutZeros_fixedChars hreduced]
    simp only [htext, Except.ok.injEq, Option.some.injEq, exists_eq_left', eq_comm]

/-- **The texts of two decimals** are the same exactly when the context leaves the same of them. -/
theorem decimalText_eq_iff {a b : Decimal} {textA textB : String} (ha : decimalText a = .ok textA)
    (hb : decimalText b = .ok textB) : textA = textB ↔ a.contextValue = b.contextValue := by
  obtain ⟨normalA, hnormalA, rfl⟩ := decimalText_eq_ok.mp ha
  obtain ⟨normalB, hnormalB, rfl⟩ := decimalText_eq_ok.mp hb
  constructor
  · intro h
    rw [(reduced_of_normalize hnormalA).2, (reduced_of_normalize hnormalB).2,
      Decimal.toRat_of_fixedChars (String.ofList_injective h)]
  · intro h
    rw [← Decimal.normalize_eq_iff, hnormalA, hnormalB] at h
    rw [Option.some.inj h]

/-- Nothing in the text of a decimal is escaped. -/
theorem jsonString_decimalText {value : Decimal} {text : String} (h : decimalText value = .ok text) :
    jsonString text = '"' :: (text.toList ++ ['"']) := by
  obtain ⟨normalized, -, rfl⟩ := decimalText_eq_ok.mp h
  have hplain : ∀ c ∈ normalized.fixedChars, jsonChar c = [c] := by
    intro c hc
    rcases Decimal.mem_fixedChars hc with rfl | hdigit | rfl
    · rfl
    · have hrange : 48 ≤ c.toNat ∧ c.toNat ≤ 57 := Char.isDigit_iff_toNat.mp hdigit
      have hother : ∀ k : Char, k.isDigit = false → c ≠ k := by
        rintro k hk rfl
        rw [hk] at hdigit
        cases hdigit
      unfold jsonChar
      rw [if_neg (by simp [hother]), if_neg (hother _ rfl), if_neg (hother _ rfl),
        if_neg (hother _ rfl), if_neg (hother _ rfl), if_neg (hother _ rfl), if_neg (by omega)]
    · rfl
  unfold jsonString
  rw [String.toList_ofList]
  have hsame : normalized.fixedChars.flatMap jsonChar = normalized.fixedChars := by
    have hcongr := List.flatMap_congr hplain
    rw [hcongr, List.flatMap_singleton']
  rw [hsame]

/-! ## Payloads that differ in one decimal -/

/-- Payloads of one shape that differ in one leaf, the decimal `a` of the first, `b` of the second. -/
inductive OneLeaf (a b : Decimal) : Value F → Value F → Prop
  | leaf : OneLeaf a b (.decimal a) (.decimal b)
  | entry {key : String} {value other : Value F} (front back : List (String × Value F)) :
    OneLeaf a b value other →
      OneLeaf a b (.obj (front ++ (key, value) :: back)) (.obj (front ++ (key, other) :: back))
  | item {value other : Value F} (front back : List (Value F)) :
    OneLeaf a b value other →
      OneLeaf a b (.list (front ++ value :: back)) (.list (front ++ other :: back))

/-! ### Texts of parts -/

/-- The texts of the entries of a mapping. -/
def entryChars (entries : List (String × Value F)) : Outcome (List (String × List Char)) := do
  let canonical ← canonicalizeEntries floats entries
  dumpsEntries floats shown canonical

/-- The texts of the items of a list. -/
def itemChars (items : List (Value F)) : Outcome (List (List Char)) := do
  let canonical ← canonicalizeItems floats items
  dumpsItems floats shown canonical

variable {floats shown}

theorem canonicalChars_obj {entries : List (String × Value F)} {text : List Char} :
    canonicalChars floats shown (.obj entries) = .ok text ↔
      ∃ texts, entryChars floats shown entries = .ok texts ∧ text = jsonMapping texts := by
  simp only [canonicalChars, entryChars, canonicalize, bind_eq_ok]
  constructor
  · rintro ⟨canonical, ⟨entries, hentries, hcanonical⟩, htext⟩
    obtain rfl := Except.ok.inj hcanonical
    rw [dumps, bind_eq_ok] at htext
    obtain ⟨texts, htexts, htext⟩ := htext
    exact ⟨texts, ⟨entries, hentries, htexts⟩, (Except.ok.inj htext).symm⟩
  · rintro ⟨texts, ⟨entries, hentries, htexts⟩, rfl⟩
    refine ⟨.obj entries, ⟨entries, hentries, rfl⟩, ?_⟩
    rw [dumps, htexts]
    rfl

theorem canonicalChars_list {items : List (Value F)} {text : List Char} :
    canonicalChars floats shown (.list items) = .ok text ↔
      ∃ texts, itemChars floats shown items = .ok texts ∧ text = jsonList texts := by
  simp only [canonicalChars, itemChars, canonicalize, bind_eq_ok]
  constructor
  · rintro ⟨canonical, ⟨items, hitems, hcanonical⟩, htext⟩
    obtain rfl := Except.ok.inj hcanonical
    rw [dumps, bind_eq_ok] at htext
    obtain ⟨texts, htexts, htext⟩ := htext
    exact ⟨texts, ⟨items, hitems, htexts⟩, (Except.ok.inj htext).symm⟩
  · rintro ⟨texts, ⟨items, hitems, htexts⟩, rfl⟩
    refine ⟨.list items, ⟨items, hitems, rfl⟩, ?_⟩
    rw [dumps, htexts]
    rfl

theorem entryChars_cons {entry : String × Value F} {entries : List (String × Value F)}
    {texts : List (String × List Char)} :
    entryChars floats shown (entry :: entries) = .ok texts ↔
      ∃ first rest, canonicalChars floats shown entry.2 = .ok first ∧
        entryChars floats shown entries = .ok rest ∧ texts = (entry.1, first) :: rest := by
  obtain ⟨key, value⟩ := entry
  simp only [entryChars, canonicalChars, canonicalizeEntries, bind_eq_ok]
  constructor
  · rintro ⟨canonical, ⟨value, hvalue, entries, hentries, hcanonical⟩, htexts⟩
    obtain rfl := Except.ok.inj hcanonical
    simp only [dumpsEntries, bind_eq_ok] at htexts
    obtain ⟨first, hfirst, rest, hrest, htexts⟩ := htexts
    exact ⟨first, rest, ⟨value, hvalue, hfirst⟩, ⟨entries, hentries, hrest⟩,
      (Except.ok.inj htexts).symm⟩
  · rintro ⟨first, rest, ⟨value, hvalue, hfirst⟩, ⟨entries, hentries, hrest⟩, rfl⟩
    refine ⟨(key, value) :: entries, ⟨value, hvalue, entries, hentries, rfl⟩, ?_⟩
    rw [dumpsEntries, hfirst, hrest]
    rfl

theorem itemChars_cons {item : Value F} {items : List (Value F)} {texts : List (List Char)} :
    itemChars floats shown (item :: items) = .ok texts ↔
      ∃ first rest, canonicalChars floats shown item = .ok first ∧
        itemChars floats shown items = .ok rest ∧ texts = first :: rest := by
  simp only [itemChars, canonicalChars, canonicalizeItems, bind_eq_ok]
  constructor
  · rintro ⟨canonical, ⟨value, hvalue, items, hitems, hcanonical⟩, htexts⟩
    obtain rfl := Except.ok.inj hcanonical
    simp only [dumpsItems, bind_eq_ok] at htexts
    obtain ⟨first, hfirst, rest, hrest, htexts⟩ := htexts
    exact ⟨first, rest, ⟨value, hvalue, hfirst⟩, ⟨items, hitems, hrest⟩,
      (Except.ok.inj htexts).symm⟩
  · rintro ⟨first, rest, ⟨value, hvalue, hfirst⟩, ⟨items, hitems, hrest⟩, rfl⟩
    refine ⟨value :: items, ⟨value, hvalue, items, hitems, rfl⟩, ?_⟩
    rw [dumpsItems, hfirst, hrest]
    rfl

/-- The texts of entries, one of which is replaced by another of its key. -/
theorem entryChars_middle {front back : List (String × Value F)} {key : String}
    {value : Value F} {texts : List (String × List Char)}
    (h : entryChars floats shown (front ++ (key, value) :: back) = .ok texts) :
    ∃ before text after, entryChars floats shown front = .ok before ∧
      canonicalChars floats shown value = .ok text ∧ entryChars floats shown back = .ok after ∧
      texts = before ++ (key, text) :: after := by
  induction front generalizing texts with
  | nil =>
    obtain ⟨first, rest, hfirst, hrest, rfl⟩ := entryChars_cons.mp h
    exact ⟨[], first, rest, rfl, hfirst, hrest, rfl⟩
  | cons entry front ih =>
    obtain ⟨first, rest, hfirst, hrest, rfl⟩ := entryChars_cons.mp h
    obtain ⟨before, text, after, hbefore, htext, hafter, rfl⟩ := ih hrest
    exact ⟨(entry.1, first) :: before, text, after,
      entryChars_cons.mpr ⟨first, before, hfirst, hbefore, rfl⟩, htext, hafter, rfl⟩

theorem itemChars_middle {front back : List (Value F)} {value : Value F} {texts : List (List Char)}
    (h : itemChars floats shown (front ++ value :: back) = .ok texts) :
    ∃ before text after, itemChars floats shown front = .ok before ∧
      canonicalChars floats shown value = .ok text ∧ itemChars floats shown back = .ok after ∧
      texts = before ++ text :: after := by
  induction front generalizing texts with
  | nil =>
    obtain ⟨first, rest, hfirst, hrest, rfl⟩ := itemChars_cons.mp h
    exact ⟨[], first, rest, rfl, hfirst, hrest, rfl⟩
  | cons item front ih =>
    obtain ⟨first, rest, hfirst, hrest, rfl⟩ := itemChars_cons.mp h
    obtain ⟨before, text, after, hbefore, htext, hafter, rfl⟩ := ih hrest
    exact ⟨first :: before, text, after,
      itemChars_cons.mpr ⟨first, before, hfirst, hbefore, rfl⟩, htext, hafter, rfl⟩

/-! ### Where the leaf is -/

/-- Where an entry is inserted depends on its key. -/
theorem orderedInsert_split {α : Type} (key : String) (sorted : List (String × α)) :
    ∃ before after, ∀ value : α,
      sorted.orderedInsert (fun a b => a.1 ≤ b.1) (key, value) = before ++ (key, value) :: after := by
  induction sorted with
  | nil => exact ⟨[], [], fun value => rfl⟩
  | cons entry sorted ih =>
    by_cases h : key ≤ entry.1
    · exact ⟨[], entry :: sorted, fun value => List.orderedInsert_cons_of_le _ _ h⟩
    · obtain ⟨before, after, hinsert⟩ := ih
      refine ⟨entry :: before, after, fun value => ?_⟩
      rw [List.orderedInsert, if_neg h, hinsert, List.cons_append]

/-- An entry is inserted into entries, one of which has any value, at the same place. -/
theorem orderedInsert_middle {α : Type} (entry : String × α) (key : String)
    (before after : List (String × α)) :
    ∃ before' after', ∀ value : α,
      (before ++ (key, value) :: after).orderedInsert (fun a b => a.1 ≤ b.1) entry =
        before' ++ (key, value) :: after' := by
  induction before with
  | nil =>
    by_cases h : entry.1 ≤ key
    · exact ⟨[entry], after, fun value => List.orderedInsert_cons_of_le _ _ h⟩
    · refine ⟨[], after.orderedInsert (fun a b => a.1 ≤ b.1) entry, fun value => ?_⟩
      exact List.orderedInsert_of_not_le _ _ h
  | cons first before ih =>
    by_cases h : entry.1 ≤ first.1
    · exact ⟨entry :: first :: before, after, fun value => List.orderedInsert_cons_of_le _ _ h⟩
    · obtain ⟨before', after', hinsert⟩ := ih
      refine ⟨first :: before', after', fun value => ?_⟩
      rw [List.cons_append, List.orderedInsert, if_neg h, hinsert, List.cons_append]

/-- The place of an entry among the sorted ones does not depend on its value. -/
theorem sortedByKey_middle {α : Type} (key : String) (front back : List (String × α)) :
    ∃ before after, ∀ value : α,
      sortedByKey (front ++ (key, value) :: back) = before ++ (key, value) :: after := by
  unfold sortedByKey
  induction front with
  | nil => exact orderedInsert_split key _
  | cons entry front ih =>
    obtain ⟨before, after, hsorted⟩ := ih
    obtain ⟨before', after', hinsert⟩ := orderedInsert_middle entry key before after
    refine ⟨before', after', fun value => ?_⟩
    rw [List.cons_append, List.insertionSort_cons, hsorted, hinsert]

/-- Texts with a separator between them, around one of them. -/
theorem intercalate_middle (before after : List (List Char)) :
    ∃ front back : List Char, ∀ part : List Char,
      List.intercalate [','] (before ++ part :: after) = front ++ part ++ back := by
  induction before with
  | nil =>
    cases after with
    | nil => exact ⟨[], [], fun part => by simp [List.intercalate]⟩
    | cons next after =>
      refine ⟨[], ',' :: List.intercalate [','] (next :: after), fun part => ?_⟩
      simp [List.intercalate]
  | cons first before ih =>
    obtain ⟨front, back, hparts⟩ := ih
    refine ⟨first ++ ',' :: front, back, fun part => ?_⟩
    have hcons : List.intercalate [','] (first :: (before ++ part :: after)) =
        first ++ ',' :: List.intercalate [','] (before ++ part :: after) := by
      cases before <;> simp [List.intercalate]
    rw [List.cons_append, hcons, hparts]
    simp

theorem jsonList_middle (before after : List (List Char)) :
    ∃ front back : List Char, ∀ part : List Char,
      jsonList (before ++ part :: after) = front ++ part ++ back := by
  obtain ⟨front, back, hparts⟩ := intercalate_middle before after
  refine ⟨'[' :: front, back ++ [']'], fun part => ?_⟩
  unfold jsonList
  rw [hparts]
  simp

theorem jsonMapping_middle (key : String) (before after : List (String × List Char)) :
    ∃ front back : List Char, ∀ part : List Char,
      jsonMapping (before ++ (key, part) :: after) = front ++ part ++ back := by
  obtain ⟨sortedBefore, sortedAfter, hsorted⟩ := sortedByKey_middle (α := List Char) key before after
  obtain ⟨front, back, hparts⟩ := intercalate_middle
    (sortedBefore.map fun entry => jsonString entry.1 ++ ':' :: entry.2)
    (sortedAfter.map fun entry => jsonString entry.1 ++ ':' :: entry.2)
  refine ⟨'\x7b' :: (front ++ jsonString key ++ [':']), back ++ ['\x7d'], fun part => ?_⟩
  unfold jsonMapping
  rw [hsorted, List.map_append, List.map_cons, hparts]
  simp

/-- **Payloads that differ in one decimal** have texts that differ in the text of this decimal. -/
theorem encoding_split {a b : Decimal} {value other : Value F} (h : OneLeaf a b value other)
    {text otherText : List Char} (hvalue : canonicalChars floats shown value = .ok text)
    (hother : canonicalChars floats shown other = .ok otherText) :
    ∃ textA textB front back, decimalText a = .ok textA ∧ decimalText b = .ok textB ∧
      text = front ++ jsonString textA ++ back ∧ otherText = front ++ jsonString textB ++ back := by
  induction h generalizing text otherText with
  | leaf =>
    have hleaf : ∀ {d : Decimal} {text : List Char},
        canonicalChars floats shown (.decimal d) = .ok text →
          ∃ shownText, decimalText d = .ok shownText ∧ text = jsonString shownText := by
      intro d text hd
      simp only [canonicalChars, canonicalize, bind_eq_ok] at hd
      obtain ⟨canonical, ⟨shownText, hshown, hcanonical⟩, htext⟩ := hd
      obtain rfl := Except.ok.inj hcanonical
      rw [dumps] at htext
      exact ⟨shownText, hshown, (Except.ok.inj htext).symm⟩
    obtain ⟨textA, htextA, rfl⟩ := hleaf hvalue
    obtain ⟨textB, htextB, rfl⟩ := hleaf hother
    exact ⟨textA, textB, [], [], htextA, htextB, by simp, by simp⟩
  | @entry key value other front back _ ih =>
    obtain ⟨texts, htexts, rfl⟩ := canonicalChars_obj.mp hvalue
    obtain ⟨otherTexts, hotherTexts, rfl⟩ := canonicalChars_obj.mp hother
    obtain ⟨before, part, after, hbefore, hpart, hafter, rfl⟩ := entryChars_middle htexts
    obtain ⟨before', otherPart, after', hbefore', hotherPart, hafter', rfl⟩ :=
      entryChars_middle hotherTexts
    obtain rfl := Except.ok.inj (hbefore.symm.trans hbefore')
    obtain rfl := Except.ok.inj (hafter.symm.trans hafter')
    obtain ⟨textA, textB, inner, outer, htextA, htextB, rfl, rfl⟩ := ih hpart hotherPart
    obtain ⟨front, back, hmapping⟩ := jsonMapping_middle key before after
    refine ⟨textA, textB, front ++ inner, outer ++ back, htextA, htextB, ?_, ?_⟩
    · rw [hmapping]
      simp
    · rw [hmapping]
      simp
  | @item value other front back _ ih =>
    obtain ⟨texts, htexts, rfl⟩ := canonicalChars_list.mp hvalue
    obtain ⟨otherTexts, hotherTexts, rfl⟩ := canonicalChars_list.mp hother
    obtain ⟨before, part, after, hbefore, hpart, hafter, rfl⟩ := itemChars_middle htexts
    obtain ⟨before', otherPart, after', hbefore', hotherPart, hafter', rfl⟩ :=
      itemChars_middle hotherTexts
    obtain rfl := Except.ok.inj (hbefore.symm.trans hbefore')
    obtain rfl := Except.ok.inj (hafter.symm.trans hafter')
    obtain ⟨textA, textB, inner, outer, htextA, htextB, rfl, rfl⟩ := ih hpart hotherPart
    obtain ⟨front, back, hlist⟩ := jsonList_middle before after
    refine ⟨textA, textB, front ++ inner, outer ++ back, htextA, htextB, ?_, ?_⟩
    · rw [hlist]
      simp
    · rw [hlist]
      simp

/-! ## Numbers and encodings -/

theorem bytes_injective {a b : List Char} (h : bytes (String.ofList a) = bytes (String.ofList b)) :
    a = b := by
  have hbytes : (String.ofList a).toByteArray = (String.ofList b).toByteArray := by
    ext1
    exact Array.toList_inj.mp h
  exact String.ofList_injective (String.toByteArray_inj.mp hbytes)

/-- The encodings are the same exactly when the context leaves the same of the two decimals. -/
theorem canonicalEncoding_eq_iff {a b : Decimal} {value other : Value F} (h : OneLeaf a b value other)
    {encoded otherEncoded : List UInt8} (hvalue : canonicalEncoding floats shown value = .ok encoded)
    (hother : canonicalEncoding floats shown other = .ok otherEncoded) :
    encoded = otherEncoded ↔ a.contextValue = b.contextValue := by
  simp only [canonicalEncoding, bind_eq_ok] at hvalue hother
  obtain ⟨text, htext, hencoded⟩ := hvalue
  obtain ⟨otherText, hotherText, hotherEncoded⟩ := hother
  obtain rfl := Except.ok.inj hencoded
  obtain rfl := Except.ok.inj hotherEncoded
  obtain ⟨textA, textB, front, back, htextA, htextB, rfl, rfl⟩ := encoding_split h htext hotherText
  rw [← decimalText_eq_iff htextA htextB]
  constructor
  · intro hbytes
    have hmiddle := bytes_injective hbytes
    rw [List.append_left_inj, List.append_right_inj, jsonString_decimalText htextA,
      jsonString_decimalText htextB] at hmiddle
    have hquoted := (List.cons.inj hmiddle).2
    rw [List.append_left_inj] at hquoted
    exact String.toList_inj.mp hquoted
  · rintro rfl
    rfl

/-- **Canonical hashing separates numbers** exactly when they are equal or the context leaves them
different. -/
theorem separated_iff {a b : Decimal} {value other : Value F} (h : OneLeaf a b value other)
    {encoded otherEncoded : List UInt8} (hvalue : canonicalEncoding floats shown value = .ok encoded)
    (hother : canonicalEncoding floats shown other = .ok otherEncoded) :
    (encoded = otherEncoded ↔ a.toRat = b.toRat) ↔
      a.toRat = b.toRat ∨ a.contextValue ≠ b.contextValue := by
  rw [canonicalEncoding_eq_iff h hvalue hother]
  constructor
  · intro hiff
    by_cases hsame : a.contextValue = b.contextValue
    · exact .inl (hiff.mp hsame)
    · exact .inr hsame
  · rintro (hequal | hdifferent)
    · exact iff_of_true (Decimal.contextValue_congr hequal) hequal
    · refine iff_of_false hdifferent fun hequal => hdifferent (Decimal.contextValue_congr hequal)

/-! ### A number of 29 digits -/

/-- A price with nothing beside it. -/
def priced (price : Decimal) : Value ℚ := .obj [("price", .decimal price)]

theorem oneLeaf_priced (a b : Decimal) : OneLeaf a b (priced a) (priced b) :=
  .entry [] [] .leaf

/-- One, and one with a 29th digit. -/
theorem separated_price :
    ∃ encoded,
      canonicalEncoding Coverage.sampleFloats.toFloats toString (priced ⟨1, 0⟩) = .ok encoded ∧
      canonicalEncoding Coverage.sampleFloats.toFloats toString
        (priced ⟨10000000000000000000000000001, -28⟩) = .ok encoded ∧
      ¬ (encoded = encoded ↔
        (⟨1, 0⟩ : Decimal).toRat = (⟨10000000000000000000000000001, -28⟩ : Decimal).toRat) := by
  refine ⟨bytes "\x7b\"price\":\"1\"\x7d", by decide +kernel, by decide +kernel, fun hiff => ?_⟩
  have hne : ¬ (⟨1, 0⟩ : Decimal).toRat = (⟨10000000000000000000000000001, -28⟩ : Decimal).toRat := by
    rw [← Decimal.same_iff]
    decide +kernel
  exact hne (hiff.mp rfl)

/-- Two numbers of 28 digits. -/
theorem separated_iff_price :
    ∃ encoded otherEncoded,
      canonicalEncoding Coverage.sampleFloats.toFloats toString (priced ⟨1, 0⟩) = .ok encoded ∧
      canonicalEncoding Coverage.sampleFloats.toFloats toString
        (priced ⟨1000000000000000000000000001, -27⟩) = .ok otherEncoded ∧
      ((encoded = otherEncoded ↔
          (⟨1, 0⟩ : Decimal).toRat = (⟨1000000000000000000000000001, -27⟩ : Decimal).toRat) ↔
        (⟨1, 0⟩ : Decimal).toRat = (⟨1000000000000000000000000001, -27⟩ : Decimal).toRat ∨
          (⟨1, 0⟩ : Decimal).contextValue ≠
            (⟨1000000000000000000000000001, -27⟩ : Decimal).contextValue) := by
  have hone : canonicalEncoding Coverage.sampleFloats.toFloats toString (priced ⟨1, 0⟩) =
      .ok (bytes "\x7b\"price\":\"1\"\x7d") := by decide +kernel
  have hother : canonicalEncoding Coverage.sampleFloats.toFloats toString
      (priced ⟨1000000000000000000000000001, -27⟩) =
      .ok (bytes "\x7b\"price\":\"1.000000000000000000000000001\"\x7d") := by decide +kernel
  exact ⟨_, _, hone, hother, separated_iff (oneLeaf_priced _ _) hone hother⟩

end BpEngine.Features
