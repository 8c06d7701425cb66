import BpEngine.Core
import BpEngine.Library.IsoTime
import BpEngine.Library.Json
import Mathlib.Data.List.DropRight

/-!
# Signed documents

What the signed documents share: conversions of JSON values, times, digests and authentication codes.

* `Numeral` is what `Decimal` makes of a text; `toInt` is `int`.
* `DateTime` is a `datetime` with or without an offset; `inUtc` is its time in UTC.
* `Crypto` has the canonical encoding, SHA-256 and HMAC-SHA-256.  `encode` takes a value with sorted
  keys and is injective; digests are lower-case hexadecimal.
-/

namespace BpEngine

/-! ## Text -/

/-- What is stripped stays stripped. -/
theorem stripChars_stripChars (l : List Char) : stripChars (stripChars l) = stripChars l := by
  change List.rdropWhile isSpace (List.dropWhile isSpace
    (List.rdropWhile isSpace (List.dropWhile isSpace l))) =
      List.rdropWhile isSpace (List.dropWhile isSpace l)
  have hfront : List.dropWhile isSpace (List.rdropWhile isSpace (List.dropWhile isSpace l)) =
      List.rdropWhile isSpace (List.dropWhile isSpace l) := by
    rw [List.dropWhile_eq_self_iff]
    intro hpos
    have hprefix := List.rdropWhile_prefix isSpace (List.dropWhile isSpace l)
    have hlong : 0 < (List.dropWhile isSpace l).length := hpos.trans_le hprefix.length_le
    have hhead := List.dropWhile_eq_self_iff.mp (List.dropWhile_idempotent isSpace l) hlong
    rwa [ hprefix.getElem hpos]
  rw [hfront, List.rdropWhile_idempotent]

theorem strip_strip (s : String) : strip (strip s) = strip s := by
  by_cases h : ((bytes s).head?.any isVisible && (bytes s).getLast?.any isVisible) = true
  · have hs : strip s = s := if_pos h
    rw [hs, hs]
  · have hs : strip s = String.ofList (stripChars s.toList) := if_neg h
    rw [hs]
    unfold strip
    split_ifs
    · rfl
    · rw [String.toList_ofList, stripChars_stripChars]

theorem bytes_ofList (l : List Char) : bytes (String.ofList l) = l.flatMap String.utf8EncodeChar := by
  unfold bytes
  rw [String.toByteArray_ofList]
  simp [List.utf8Encode]

/-- A character whose bytes are all ASCII is one byte. -/
theorem length_utf8EncodeChar_of_ascii {c : Char}
    (h : ∀ b ∈ String.utf8EncodeChar c, b.toNat < 128) :
    (String.utf8EncodeChar c).length = 1 := by
  unfold String.utf8EncodeChar at h ⊢
  simp only at h ⊢
  split_ifs at h ⊢
  · rfl
  all_goals
    have hfirst := h _ List.mem_cons_self
    rw [UInt8.toNat_ofNat'] at hfirst
    omega

/-- An ASCII text has as many characters as bytes. -/
theorem length_eq_length_bytes {s : String} (h : ∀ b ∈ bytes s, b.toNat < 128) :
    s.length = (bytes s).length := by
  have hlist : ∀ l : List Char, (∀ b ∈ l.flatMap String.utf8EncodeChar, b.toNat < 128) →
      l.length = (l.flatMap String.utf8EncodeChar).length := by
    intro l
    induction l with
    | nil => exact fun _ => rfl
    | cons c rest ih =>
      intro hascii
      rw [List.flatMap_cons] at hascii ⊢
      have hc := length_utf8EncodeChar_of_ascii fun b hb => hascii b (List.mem_append_left _ hb)
      have hrest := ih fun b hb => hascii b (List.mem_append_right _ hb)
      rw [List.length_append, List.length_cons, hc, ← hrest, Nat.add_comm]
  have hbytes := bytes_ofList s.toList
  rw [String.ofList_toList] at hbytes
  rw [hbytes] at h ⊢
  rw [← hlist s.toList h, String.length_toList]

/-- A digest is an ASCII text of 64 characters. -/
theorem isHex64_ascii {s : String} (h : isHex64 s = true) :
    s.length = 64 ∧ (bytes s).all (· < 128) = true := by
  unfold isHex64 at h
  simp only [Bool.and_eq_true, beq_iff_eq, List.all_eq_true, Bool.or_eq_true,
    decide_eq_true_eq] at h
  obtain ⟨hlength, hdigits⟩ := h
  have hascii : ∀ b ∈ bytes s, b.toNat < 128 := by
    intro b hb
    have := hdigits b hb
    omega
  refine ⟨(length_eq_length_bytes hascii).trans hlength, ?_⟩
  rw [List.all_eq_true]
  intro b hb
  simpa [UInt8.lt_iff_toNat_lt] using hascii b hb

/-! ## Numbers -/

/-- What `Decimal` makes of a text. -/
inductive Numeral where
  | nan
  | infinity (negative : Bool)
  | finite (value : Decimal)
deriving DecidableEq

/-- The digits at the front of a text. -/
def digitsOf (cs : List Char) : List Char := cs.takeWhile fun c => (IsoTime.digitValue c).isSome

/-- An unsigned number: digits with a point among them, and a power of ten. -/
def unsignedDecimal (cs : List Char) : Option Decimal := do
  let whole := digitsOf cs
  let rest := cs.drop whole.length
  let fraction := if rest.head? = some '.' then digitsOf rest.tail else []
  let rest := if rest.head? = some '.' then rest.tail.drop fraction.length else rest
  let coeff ← if whole ++ fraction = [] then none else IsoTime.number (whole ++ fraction)
  match rest with
  | [] => some ⟨coeff, -(fraction.length : ℤ)⟩
  | c :: power =>
    if c.toLower = 'e' then
      let negative : Bool := power.head? = some '-'
      let digits := if negative ∨ power.head? = some '+' then power.tail else power
      let exponent ← if digits = [] then none else IsoTime.number digits
      some ⟨coeff, (if negative then -(exponent : ℤ) else exponent) - fraction.length⟩
    else none

/-- `Decimal(text)`: blanks around it and underscores in it are dropped; digits are ASCII digits. -/
def decimalOfText (text : String) : Option Numeral :=
  let cs := (stripChars text.toList).filter (· ≠ '_')
  let negative : Bool := cs.head? = some '-'
  let unsigned := if negative ∨ cs.head? = some '+' then cs.tail else cs
  let word := unsigned.map Char.toLower
  let isNan (letters : List Char) : Bool :=
    word.take letters.length = letters ∧
      (word.drop letters.length).all fun c => (IsoTime.digitValue c).isSome
  if word = "inf".toList ∨ word = "infinity".toList then some (.infinity negative)
  else if isNan "nan".toList ∨ isNan "snan".toList then some .nan
  else (unsignedDecimal unsigned).map fun value => .finite (if negative then -value else value)

/-- `int(text)`: single underscores may separate digits. -/
def intOfText (text : String) : Option ℤ := do
  let cs := stripChars text.toList
  let negative : Bool := cs.head? = some '-'
  let unsigned := if negative ∨ cs.head? = some '+' then cs.tail else cs
  let groups := unsigned.splitOn '_'
  let value ← if groups.any (·.isEmpty) then none else IsoTime.number (unsigned.filter (· ≠ '_'))
  some (if negative then -(value : ℤ) else value)

/-- `int(value)`. -/
def Json.toInt : Json → Outcome ℤ
  | .bool value => .ok (if value then 1 else 0)
  | .int value => .ok value
  | .float repr => .ok ((if repr.exp < 0 then repr.coeff.tdiv (10 ^ repr.exp.natAbs)
      else repr.coeff * 10 ^ repr.exp.natAbs))
  | .str text =>
    match intOfText text with
    | some value => .ok value
    | none => raise .valueError ("invalid literal for int() with base 10: " ++ quoted text)
  | .null => raise .typeError "int() argument must be a string or a number, not 'NoneType'"
  | .arr _ => raise .typeError "int() argument must be a string or a number, not 'list'"
  | .obj _ => raise .typeError "int() argument must be a string or a number, not 'dict'"

/-- `d.get(name, default)`. -/
def Dict.getOr (d : Dict) (name : String) (default : Json) : Json :=
  (d.lookup name).getD default

/-- `isinstance(value, Mapping)`, with the mapping. -/
def Json.mapping : Json → Option Dict
  | .obj entries => some entries
  | _ => none

/-- The value is a mapping, or an error is raised. -/
def requireMapping (value : Json) (cls : PyClass) (message : String) : Outcome Dict :=
  match value.mapping with
  | some entries => .ok entries
  | none => raise cls message

theorem requireMapping_eq_ok {value : Json} {cls : PyClass} {message : String} {d : Dict}
    (h : requireMapping value cls message = .ok d) : value = .obj d := by
  cases value with
  | obj entries =>
    cases h
    rfl
  | _ => cases h

/-! ## Times -/

/-- A `datetime`. -/
abbrev DateTime := IsoTime.Written

/-- `datetime.fromisoformat(text)`. -/
def dateTimeOf (text : String) : Outcome DateTime :=
  match IsoTime.fromisoformat text with
  | some time => .ok time
  | none => raise .valueError ("Invalid isoformat string: " ++ Json.quoted text)

/-- `value.astimezone(UTC)` of an aware `datetime`; a naive one raises the given error. -/
def inUtc (cls : PyClass) (message : String) (value : DateTime) : Outcome Timestamp :=
  match value.offset with
  | none => raise cls message
  | some offset =>
    if IsoTime.InRange (value.wall - offset) then .ok (value.wall - offset)
    else raise .overflowError "date value out of range"

/-- `time + timedelta(seconds=seconds)`. -/
def addSeconds (time : Timestamp) (seconds : ℤ) : Outcome Timestamp :=
  if IsoTime.InRange (time + Timestamp.ofSeconds seconds) then
    .ok (time + Timestamp.ofSeconds seconds)
  else raise .overflowError "date value out of range"

/-- The `datetime` of a time in UTC. -/
def utcDateTime (time : Timestamp) : DateTime := ⟨time, some 0⟩

section Times

variable {cls : PyClass} {message : String}

theorem inUtc_inRange {value : DateTime} {time : Timestamp}
    (h : inUtc cls message value = .ok time) : IsoTime.InRange time := by
  unfold inUtc at h
  split at h
  · exact absurd h raise_ne_ok
  · split_ifs at h with hrange
    · cases h
      exact hrange
    · exact absurd h raise_ne_ok

theorem inUtc_utcDateTime {time : Timestamp} (h : IsoTime.InRange time) :
    inUtc cls message (utcDateTime time) = .ok time := by
  simp [inUtc, utcDateTime, h]

theorem addSeconds_eq_ok {time after : Timestamp} {seconds : ℤ} :
    addSeconds time seconds = .ok after ↔
      IsoTime.InRange after ∧ after = time + Timestamp.ofSeconds seconds := by
  unfold addSeconds
  constructor
  · intro h
    split_ifs at h with hrange
    · cases h
      exact ⟨hrange, rfl⟩
    · exact absurd h raise_ne_ok
  · rintro ⟨hrange, rfl⟩
    rw [if_pos hrange]

/-- A written time is read back. -/
theorem dateTimeOf_isoformat {time : Timestamp} (h : IsoTime.InRange time) :
    dateTimeOf (IsoTime.isoformat time) = .ok (utcDateTime time) := by
  simp [dateTimeOf, IsoTime.fromisoformat_isoformat h, utcDateTime]

end Times

/-- A difference of times compared with whole seconds. -/
theorem seconds_lt {delta n : ℤ} : Timestamp.seconds delta < ⟨n, 0⟩ ↔ delta < n * 1000000 := by
  change ¬ n * 10 ^ (0 - min 0 (-6 : ℤ)).toNat ≤ delta * 10 ^ (-6 - min 0 (-6 : ℤ)).toNat ↔ _
  have hsix : Int.toNat 6 = 6 := rfl
  norm_num [hsix]

theorem lt_seconds {delta n : ℤ} : ⟨n, 0⟩ < Timestamp.seconds delta ↔ n * 1000000 < delta := by
  change ¬ delta * 10 ^ (-6 - min (-6 : ℤ) 0).toNat ≤ n * 10 ^ (0 - min (-6 : ℤ) 0).toNat ↔ _
  have hsix : Int.toNat 6 = 6 := rfl
  norm_num [hsix]

/-! ## Texts of lists and mappings -/

section Bracketed

variable {text : String}

theorem exists_of_bracketed (h : Json.bracketed text = true) :
    ∃ c rest, text.toList = c :: rest ∧ (c = '[' ∨ c = '\x7b') := by
  unfold Json.bracketed at h
  cases hchars : text.toList with
  | nil =>
    rw [hchars] at h
    cases h
  | cons c rest =>
    rw [hchars] at h
    exact ⟨c, rest, rfl, by simpa using h⟩

/-- A first character that is no blank is not stripped. -/
theorem stripChars_cons {c : Char} (hc : isSpace c = false) (rest : List Char) :
    ∃ stripped, stripChars (c :: rest) = c :: stripped := by
  unfold stripChars
  rw [List.dropWhile_cons, if_neg (by simp [hc]), List.reverse_cons, List.dropWhile_append]
  split_ifs with hempty
  · exact ⟨[], by simp [hc]⟩
  · exact ⟨(List.dropWhile isSpace rest.reverse).reverse, by simp⟩

theorem bracketed_strip (h : Json.bracketed text = true) :
    Json.bracketed (strip text) = true := by
  obtain ⟨c, rest, htext, hc⟩ := exists_of_bracketed h
  have hspace : isSpace c = false := by rcases hc with rfl | rfl <;> rfl
  obtain ⟨stripped, hstripped⟩ := stripChars_cons hspace rest
  unfold strip
  split_ifs
  · exact h
  · rw [Json.bracketed, String.toList_ofList, htext, hstripped]
    rcases hc with rfl | rfl <;> rfl

/-- The text of a list or a mapping is no number. -/
theorem decimalOfText_bracketed (h : Json.bracketed text = true) : decimalOfText text = none := by
  obtain ⟨c, rest, htext, hc⟩ := exists_of_bracketed h
  have hspace : isSpace c = false := by rcases hc with rfl | rfl <;> rfl
  obtain ⟨stripped, hstripped⟩ := stripChars_cons hspace rest
  unfold decimalOfText
  rw [htext, hstripped]
  rcases hc with rfl | rfl
  · simp [unsignedDecimal, digitsOf, IsoTime.digitValue]
  · simp [unsignedDecimal, digitsOf, IsoTime.digitValue]

/-- The text of a list or a mapping is no time. -/
theorem fromisoformat_bracketed (h : Json.bracketed text = true) :
    IsoTime.fromisoformat text = none := by
  obtain ⟨c, rest, htext, hc⟩ := exists_of_bracketed h
  have hdigit : IsoTime.digitValue c = none := by rcases hc with rfl | rfl <;> rfl
  have hdate : ∀ n, IsoTime.parseDate ((c :: rest).take n) = none := by
    intro n
    have hnumber : IsoTime.takeNumber 4 ((c :: rest).take n) = none := by
      cases n with
      | zero => rfl
      | succ n =>
        unfold IsoTime.takeNumber
        split_ifs
        · simp [IsoTime.number, hdigit]
        · rfl
    simp [IsoTime.parseDate, hnumber]
  unfold IsoTime.fromisoformat IsoTime.parseIso
  rw [htext]
  split_ifs
  · rfl
  · simp [hdate]

/-- The text of a list or a mapping is no digest. -/
theorem isHex64_bracketed (h : Json.bracketed text = true) : isHex64 text = false := by
  obtain ⟨c, rest, htext, hc⟩ := exists_of_bracketed h
  have hsplit : text = String.ofList [c] ++ String.ofList rest := by
    rw [← String.ofList_append, List.singleton_append, ← htext, String.ofList_toList]
  have hbytes : bytes text = bytes (String.ofList [c]) ++ bytes (String.ofList rest) := by
    rw [hsplit]
    simp [bytes]
  have hfirst : bytes (String.ofList [c]) = [91] ∨ bytes (String.ofList [c]) = [123] := by
    rcases hc with rfl | rfl
    · exact .inl (by decide)
    · exact .inr (by decide)
  unfold isHex64
  rcases hfirst with hfirst | hfirst
  · rw [hbytes, hfirst]
    simp
  · rw [hbytes, hfirst]
    simp

end Bracketed

/-- What counts as false has not the text of a time. -/
theorem fromisoformat_falsy {value : Json} (h : value.truthy = false) :
    IsoTime.fromisoformat value.text = none := by
  cases value with
  | null => decide
  | bool value =>
    cases value with
    | false => decide
    | true => cases h
  | int value =>
    have hzero : value = 0 := by simpa [Json.truthy] using h
    rw [hzero]
    decide
  | float d =>
    have hzero : d.coeff = 0 := by simpa [Json.truthy] using h
    have htext : (Json.float d).text = "0.0" := by
      simp [Json.text, Json.repr, Json.floatText, Json.floatDigits, hzero]
    rw [htext]
    decide
  | str value =>
    have hempty : value = "" := by simpa [Json.truthy] using h
    rw [hempty]
    decide
  | arr items => exact fromisoformat_bracketed (by simp [Json.text, Json.repr, Json.bracketed])
  | obj entries => exact fromisoformat_bracketed (by simp [Json.text, Json.repr, Json.bracketed])

/-- Sorting keys leaves the text alone. -/
def Json.KeepsText (value : Json) : Prop := value.normal.textOrEmpty = value.textOrEmpty

instance (value : Json) : Decidable value.KeepsText := by unfold Json.KeepsText; infer_instance

/-- Sorting changes the text of lists and mappings only. -/
theorem Json.keepsText_of_text {value : Json} (h : Json.bracketed value.textOrEmpty = false) :
    value.KeepsText := by
  unfold Json.KeepsText Json.textOrEmpty at *
  rw [Json.truthy_normal]
  split_ifs at h ⊢ with htruthy
  · exact Json.text_normal h
  · rfl

/-- What is a digest keeps its text. -/
theorem Json.keepsText_of_isHex64 {value : Json} (h : isHex64 value.textOrEmpty = true) :
    value.KeepsText := by
  apply Json.keepsText_of_text
  by_contra hbracketed
  rw [isHex64_bracketed (by simpa using hbracketed)] at h
  cases h

/-! ## Digests and codes -/

/-- A digest in lower-case hexadecimal. -/
abbrev HexDigest := { text : String // isHex64 text = true }

/-- The canonical encoding of values with sorted keys, SHA-256, and HMAC-SHA-256. -/
structure Crypto where
  Encoded : Type
  encode : Json → Encoded
  encode_injective : Function.Injective encode
  sha256 : Encoded → HexDigest
  hmac : List UInt8 → Encoded → HexDigest

/-- `_canonical`. -/
def Crypto.canonical (C : Crypto) (value : Dict) : C.Encoded := C.encode (Json.obj value).normal

/-- `payload_sha256`. -/
def Crypto.payloadSha256 (C : Crypto) (value : Dict) : String := (C.sha256 (C.canonical value)).1

/-- The code of a mapping under a key. -/
def Crypto.code (C : Crypto) (key : List UInt8) (value : Dict) : String :=
  (C.hmac key (C.canonical value)).1

/-- The canonical encoding tells mappings apart. -/
theorem Crypto.canonical_eq {C : Crypto} {a b : Dict} :
    C.canonical a = C.canonical b ↔ a.Same b := by
  constructor
  · intro h
    have hnormal := C.encode_injective h
    rw [Json.normal, Json.normal] at hnormal
    exact Json.obj.inj hnormal
  · intro h
    simp only [Crypto.canonical, Json.normal]
    rw [show Json.normalEntries a = Json.normalEntries b from h]

/-- A copy with sorted keys has the same encoding. -/
theorem Crypto.canonical_normalEntries (C : Crypto) (value : Dict) :
    C.canonical (Json.normalEntries value) = C.canonical value :=
  Crypto.canonical_eq.2 (Json.normalEntries_normalEntries value)

theorem Crypto.payloadSha256_normalEntries (C : Crypto) (value : Dict) :
    C.payloadSha256 (Json.normalEntries value) = C.payloadSha256 value := by
  unfold Crypto.payloadSha256
  rw [C.canonical_normalEntries]

theorem Crypto.isHex64_payloadSha256 (C : Crypto) (value : Dict) :
    isHex64 (C.payloadSha256 value) = true := (C.sha256 (C.canonical value)).2

theorem Crypto.isHex64_code (C : Crypto) (key : List UInt8) (value : Dict) :
    isHex64 (C.code key value) = true := (C.hmac key (C.canonical value)).2

end BpEngine
