import Mathlib.Tactic

/-!
# Times as text

The proleptic Gregorian calendar and the ISO 8601 texts of times, in microseconds since 1970.

* `civilOfDays` and `daysOfCivil` convert days to dates and back; `daysOfCivil_civilOfDays` is the
  round trip.
* `isoformat` writes a time in UTC, with six digits of a second's fraction or none.
* `fromisoformat` reads a date (also as a week date), a time of day, and an offset, in the basic or
  the extended format.
* `fromisoformat_isoformat`: what is written is read back.
-/

namespace BpEngine.IsoTime

/-! ## The calendar -/

/-- A date: year, month and day. -/
structure Civil where
  year : ℤ
  month : ℤ
  day : ℤ
deriving DecidableEq, Repr

/-- The year of an era of 400 years, counted from March, that a day of the era falls in. -/
def yearOfEra (doe : ℤ) : ℤ :=
  let century := min (doe / 36524) 3
  let quad := (doe - 36524 * century) / 1461
  100 * century + 4 * quad + min ((doe - 36524 * century - 1461 * quad) / 365) 3

/-- The days of an era before a year of it. -/
def daysBeforeYear (yoe : ℤ) : ℤ := 365 * yoe + yoe / 4 - yoe / 100

/-- The date `days` after 1970-01-01. -/
def civilOfDays (days : ℤ) : Civil :=
  let z := days + 719468
  let yoe := yearOfEra (z % 146097)
  let doy := z % 146097 - daysBeforeYear yoe
  let mp := (5 * doy + 2) / 153
  let month := if mp < 10 then mp + 3 else mp - 9
  ⟨yoe + z / 146097 * 400 + (if month ≤ 2 then 1 else 0), month, doy - (153 * mp + 2) / 5 + 1⟩

/-- The days of a date after 1970-01-01. -/
def daysOfCivil (date : Civil) : ℤ :=
  let y := date.year - (if date.month ≤ 2 then 1 else 0)
  let mp := if date.month ≤ 2 then date.month + 9 else date.month - 3
  y / 400 * 146097 + daysBeforeYear (y % 400) + (153 * mp + 2) / 5 + date.day - 1 - 719468

/-- The days of a month. -/
def daysInMonth (year month : ℤ) : ℤ :=
  if month = 2 then if year % 4 = 0 ∧ (year % 100 ≠ 0 ∨ year % 400 = 0) then 29 else 28
  else if month = 4 ∨ month = 6 ∨ month = 9 ∨ month = 11 then 30 else 31

/-- A day of an era falls in one of its 400 years, and is one of the days of it. -/
theorem yearOfEra_bounds {doe : ℤ} (h0 : 0 ≤ doe) (h1 : doe < 146097) :
    0 ≤ yearOfEra doe ∧ yearOfEra doe < 400 ∧ 0 ≤ doe - daysBeforeYear (yearOfEra doe) ∧
      doe - daysBeforeYear (yearOfEra doe) ≤ 365 := by
  simp only [yearOfEra, daysBeforeYear]
  generalize hc : min (doe / 36524) 3 = century
  generalize hq : (doe - 36524 * century) / 1461 = quad
  generalize hy : min ((doe - 36524 * century - 1461 * quad) / 365) 3 = year
  have hcentury : 0 ≤ century ∧ century ≤ 3 := by omega
  have hrest : 0 ≤ doe - 36524 * century ∧ doe - 36524 * century ≤ 36524 := by omega
  have hquad : 0 ≤ quad ∧ quad ≤ 24 := by omega
  have hdays : 0 ≤ doe - 36524 * century - 1461 * quad ∧
      doe - 36524 * century - 1461 * quad ≤ 1460 := by omega
  have hyear : 0 ≤ year ∧ year ≤ 3 := by omega
  have hquarter : (100 * century + 4 * quad + year) / 4 = 25 * century + quad := by omega
  have hhundredth : (100 * century + 4 * quad + year) / 100 = century := by omega
  omega

/-- A year counted from March has 366 days only when it ends in a leap year's February. -/
theorem yearOfEra_leap {doe : ℤ} (h0 : 0 ≤ doe) (h1 : doe < 146097)
    (hlast : doe - daysBeforeYear (yearOfEra doe) = 365) :
    (yearOfEra doe + 1) % 4 = 0 ∧
      ((yearOfEra doe + 1) % 100 ≠ 0 ∨ (yearOfEra doe + 1) % 400 = 0) := by
  simp only [yearOfEra, daysBeforeYear] at hlast ⊢
  generalize hc : min (doe / 36524) 3 = century at *
  generalize hq : (doe - 36524 * century) / 1461 = quad at *
  generalize hy : min ((doe - 36524 * century - 1461 * quad) / 365) 3 = year at *
  have hcentury : 0 ≤ century ∧ century ≤ 3 := by omega
  have hrest : 0 ≤ doe - 36524 * century ∧ doe - 36524 * century ≤ 36524 := by omega
  have hquad : 0 ≤ quad ∧ quad ≤ 24 := by omega
  have hyear : 0 ≤ year ∧ year ≤ 3 := by omega
  have hquarter : (100 * century + 4 * quad + year) / 4 = 25 * century + quad := by omega
  have hhundredth : (100 * century + 4 * quad + year) / 100 = century := by omega
  have hthree : year = 3 := by omega
  refine ⟨by omega, ?_⟩
  by_cases hend : quad = 24
  · right
    omega
  · left
    omega

/-- The month and the day of a day of the year are in range, and give the day back. -/
theorem month_bounds {doy mp : ℤ} (h0 : 0 ≤ doy) (h1 : doy ≤ 365) (hmp : mp = (5 * doy + 2) / 153) :
    0 ≤ mp ∧ mp ≤ 11 ∧ 1 ≤ doy - (153 * mp + 2) / 5 + 1 ∧ doy - (153 * mp + 2) / 5 + 1 ≤ 31 := by
  omega

/-- A date given by the year of its era and the day of the year gives its day back. -/
theorem daysOfCivil_parts {era yoe doy mp : ℤ} (hyoe0 : 0 ≤ yoe) (hyoe1 : yoe < 400)
    (hmp0 : 0 ≤ mp) (hmp1 : mp ≤ 11) :
    daysOfCivil ⟨yoe + era * 400 + (if (if mp < 10 then mp + 3 else mp - 9) ≤ 2 then 1 else 0),
        if mp < 10 then mp + 3 else mp - 9, doy - (153 * mp + 2) / 5 + 1⟩ =
      era * 146097 + daysBeforeYear yoe + doy - 719468 := by
  have hera : (yoe + era * 400) / 400 = era := by omega
  have hyear : (yoe + era * 400) % 400 = yoe := by omega
  by_cases hlate : mp < 10
  · have hmonth : ¬ mp + 3 ≤ 2 := by omega
    have hback : mp + 3 - 3 = mp := by omega
    simp only [daysOfCivil, if_pos hlate, if_neg hmonth, Int.add_zero, Int.sub_zero, hera, hyear,
      hback]
    omega
  · have hmonth : mp - 9 ≤ 2 := by omega
    have hback : mp - 9 + 9 = mp := by omega
    simp only [daysOfCivil, if_neg hlate, if_pos hmonth, Int.add_sub_cancel, hera, hyear, hback]
    omega

/-- **A day's date gives the day back.** -/
theorem daysOfCivil_civilOfDays (days : ℤ) : daysOfCivil (civilOfDays days) = days := by
  have hdoe0 : 0 ≤ (days + 719468) % 146097 := by omega
  have hdoe1 : (days + 719468) % 146097 < 146097 := by omega
  obtain ⟨hyoe0, hyoe1, hdoy0, hdoy1⟩ := yearOfEra_bounds hdoe0 hdoe1
  obtain ⟨hmp0, hmp1, -, -⟩ := month_bounds hdoy0 hdoy1 rfl
  refine (daysOfCivil_parts hyoe0 hyoe1 hmp0 hmp1).trans ?_
  omega

/-- A date of the calendar. -/
def Civil.Valid (date : Civil) : Prop :=
  1 ≤ date.month ∧ date.month ≤ 12 ∧ 1 ≤ date.day ∧ date.day ≤ daysInMonth date.year date.month

instance (date : Civil) : Decidable date.Valid := by unfold Civil.Valid; infer_instance

/-- The last day of a month, counted in a year from March. -/
theorem daysInMonth_ge {year doy mp month : ℤ} (h1 : doy ≤ 365) (h0 : 0 ≤ doy)
    (hmp : mp = (5 * doy + 2) / 153) (hmonth : month = if mp < 10 then mp + 3 else mp - 9)
    (hleap : doy = 365 → year % 4 = 0 ∧ (year % 100 ≠ 0 ∨ year % 400 = 0)) :
    doy - (153 * mp + 2) / 5 + 1 ≤ daysInMonth year month := by
  have hrange : 0 ≤ mp ∧ mp ≤ 11 := by omega
  unfold daysInMonth
  by_cases hlate : mp < 10
  · rw [if_pos hlate] at hmonth
    rw [if_neg (by omega : ¬ month = 2)]
    split_ifs <;> omega
  · rw [if_neg hlate] at hmonth
    by_cases hfebruary : month = 2
    · rw [if_pos hfebruary]
      by_cases hlast : doy = 365
      · rw [if_pos (hleap hlast)]
        omega
      · split_ifs <;> omega
    · rw [if_neg hfebruary, if_neg (by omega)]
      omega

/-- A day's date is one of the calendar. -/
theorem civilOfDays_valid (days : ℤ) : (civilOfDays days).Valid := by
  have hdoe0 : 0 ≤ (days + 719468) % 146097 := by omega
  have hdoe1 : (days + 719468) % 146097 < 146097 := by omega
  obtain ⟨-, -, hdoy0, hdoy1⟩ := yearOfEra_bounds hdoe0 hdoe1
  obtain ⟨hmp0, hmp1, hday, -⟩ := month_bounds hdoy0 hdoy1 rfl
  have hleap := yearOfEra_leap hdoe0 hdoe1
  simp only [Civil.Valid, civilOfDays]
  generalize yearOfEra ((days + 719468) % 146097) = yoe at *
  refine ⟨by split_ifs <;> omega, by split_ifs <;> omega, hday,
    daysInMonth_ge hdoy1 hdoy0 rfl rfl fun hlast => ?_⟩
  have hyear := hleap hlast
  have hfebruary : (5 * ((days + 719468) % 146097 - daysBeforeYear yoe) + 2) / 153 = 11 := by
    omega
  rw [hfebruary]
  norm_num
  omega

/-! ## Digits -/

/-- The last decimal digit of a number. -/
def digit (n : ℕ) : Char := Char.ofNat (48 + n % 10)

def digitValue (c : Char) : Option ℕ :=
  if 48 ≤ c.toNat ∧ c.toNat ≤ 57 then some (c.toNat - 48) else none

/-- The number a text of digits stands for. -/
def number (cs : List Char) : Option ℕ :=
  cs.foldlM (fun n c => (digitValue c).map (10 * n + ·)) 0

/-- Reads a number of `n` digits, and what follows it. -/
def takeNumber (n : ℕ) (cs : List Char) : Option (ℕ × List Char) :=
  if n ≤ cs.length then (number (cs.take n)).map (·, cs.drop n) else none

def twoDigits (n : ℕ) : List Char := [digit (n / 10), digit n]

def fourDigits (n : ℕ) : List Char := [digit (n / 1000), digit (n / 100), digit (n / 10), digit n]

def sixDigits (n : ℕ) : List Char :=
  [digit (n / 100000), digit (n / 10000), digit (n / 1000), digit (n / 100), digit (n / 10), digit n]

theorem toNat_digit (n : ℕ) : (digit n).toNat = 48 + n % 10 := by
  have hlt : n % 10 < 10 := Nat.mod_lt n (by decide)
  unfold digit
  interval_cases n % 10 <;> rfl

@[simp] theorem digitValue_digit (n : ℕ) : digitValue (digit n) = some (n % 10) := by
  simp only [digitValue, toNat_digit]
  rw [if_pos (by omega)]
  simp

/-- A digit is no other character. -/
theorem digit_ne {n : ℕ} {c : Char} (h : c.toNat < 48 ∨ 57 < c.toNat) : digit n ≠ c := by
  intro heq
  have := toNat_digit n
  rw [heq] at this
  omega

/-! ## Writing -/

/-- The time of day in microseconds, as text; the fraction is written when it is not zero. -/
def timeText (us : ℕ) : List Char :=
  twoDigits (us / 3600000000) ++ ':' :: twoDigits (us / 60000000 % 60) ++
    ':' :: twoDigits (us / 1000000 % 60) ++
    (if us % 1000000 = 0 then [] else '.' :: sixDigits (us % 1000000))

def dateText (date : Civil) : List Char :=
  fourDigits date.year.toNat ++ '-' :: twoDigits date.month.toNat ++ '-' :: twoDigits date.day.toNat

/-- The characters of `isoformat`. -/
def isoChars (time : ℤ) : List Char :=
  dateText (civilOfDays (time / 86400000000)) ++ 'T' :: timeText (time % 86400000000).toNat ++
    ['+', '0', '0', ':', '0', '0']

/-- `isoformat` of a time in UTC. -/
def isoformat (time : ℤ) : String := String.ofList (isoChars time)

/-! ## Reading -/

/-- A time as it is written: the wall clock, and its offset from UTC unless it has none. -/
structure Written where
  wall : ℤ
  offset : Option ℤ
deriving DecidableEq, Repr

/-- The number of characters of the date.  A date without separators that is a week date may be
followed by digits of the time; an odd number of digits belongs to the date. -/
def separatorLocation (cs : List Char) : Option ℕ :=
  if cs.length = 7 then some 7
  else if cs[4]? = some '-' then
    if cs[5]? = some 'W' then
      if cs[8]? = some '-' then
        if cs.length = 9 then none
        else if 10 < cs.length ∧ (cs[10]?.bind digitValue).isSome then some 8
        else some 10
      else some 8
    else some 10
  else if cs[4]? = some 'W' then
    let digits := ((cs.drop 7).takeWhile fun c => (digitValue c).isSome).length
    if digits < 2 then some (7 + digits)
    else if (7 + digits) % 2 = 0 then some 7
    else some 8
  else some 8

/-- The first day of a year's first week, which has its Thursday in the year. -/
def firstWeek (year : ℤ) : ℤ :=
  let first := daysOfCivil ⟨year, 1, 1⟩
  let weekday := (first + 3) % 7
  if 3 < weekday then first - weekday + 7 else first - weekday

/-- The day of a week date; a year has a 53rd week when its first day is a Thursday, or a Wednesday
in a leap year. -/
def daysOfWeek (year week day : ℤ) : Option ℤ :=
  let weekday := (daysOfCivil ⟨year, 1, 1⟩ + 3) % 7
  let long := weekday = 3 ∨ (weekday = 2 ∧ daysInMonth year 2 = 29)
  if 1 ≤ year ∧ 0 < week ∧ (week < 53 ∨ (week = 53 ∧ long)) ∧ 0 < day ∧ day < 8 then
    some (firstWeek year + (week - 1) * 7 + (day - 1))
  else none

/-- A separator, which is there exactly if `present`. -/
def separator (present : Bool) (c : Char) (cs : List Char) : Option (List Char) :=
  if (cs.head? = some c) = present then some (if present then cs.tail else cs) else none

/-- The day of a date. -/
def parseDate (cs : List Char) : Option ℤ := do
  let (year, rest) ← takeNumber 4 cs
  let present : Bool := rest.head? = some '-'
  let rest ← separator present '-' rest
  if rest.head? = some 'W' then
    let (week, rest) ← takeNumber 2 rest.tail
    if rest = [] then daysOfWeek year week 1
    else do
      let rest ← separator present '-' rest
      let (day, _) ← takeNumber 1 rest
      daysOfWeek year week day
  else do
    let (month, rest) ← takeNumber 2 rest
    let rest ← separator present '-' rest
    let (day, _) ← takeNumber 2 rest
    let date : Civil := ⟨year, month, day⟩
    if date.Valid ∧ 1 ≤ date.year then some (daysOfCivil date) else none

/-- A fraction of a second, in microseconds: six digits count. -/
def parseFraction (cs : List Char) : Option ℕ := do
  if cs = [] ∨ ¬ (cs.all fun c => (digitValue c).isSome) then none
  else do
    let value ← number (cs.take 6)
    some (value * 10 ^ (6 - min cs.length 6))

/-- Hours, minutes, seconds and microseconds. -/
def parseClock (cs : List Char) : Option (ℕ × ℕ × ℕ × ℕ) := do
  let (hour, rest) ← takeNumber 2 cs
  if rest = [] then some (hour, 0, 0, 0)
  else do
    let present : Bool := rest.head? = some ':'
    let rest ← separator present ':' rest
    let (minute, rest) ← takeNumber 2 rest
    if rest = [] then some (hour, minute, 0, 0)
    else do
      let rest ← separator present ':' rest
      let (second, rest) ← takeNumber 2 rest
      if rest = [] then some (hour, minute, second, 0)
      else if rest.head? = some '.' ∨ rest.head? = some ',' then
        (parseFraction rest.tail).map (hour, minute, second, ·)
      else none

/-- The microseconds of a clock. -/
def clockMicroseconds (clock : ℕ × ℕ × ℕ × ℕ) : ℤ :=
  ((clock.1 * 60 + clock.2.1) * 60 + clock.2.2.1) * 1000000 + clock.2.2.2

/-- The time of day. -/
def parseTimeOfDay (cs : List Char) : Option ℤ := do
  let clock ← parseClock cs
  if clock.1 < 24 ∧ clock.2.1 < 60 ∧ clock.2.2.1 < 60 then some (clockMicroseconds clock) else none

/-- An offset of less than a day. -/
def parseOffset (negative : Bool) (cs : List Char) : Option ℤ := do
  let offset := clockMicroseconds (← parseClock cs)
  if offset < 86400000000 then some (if negative then -offset else offset) else none

/-- The time of day and the offset; the first sign, or the first `Z`, starts the offset. -/
def parseTime (cs : List Char) : Option (ℤ × Option ℤ) := do
  let split (c : Char) := (cs.takeWhile (· ≠ c), (cs.dropWhile (· ≠ c)).tail)
  if '-' ∈ cs then
    some (← parseTimeOfDay (split '-').1, some (← parseOffset true (split '-').2))
  else if '+' ∈ cs then
    some (← parseTimeOfDay (split '+').1, some (← parseOffset false (split '+').2))
  else if 'Z' ∈ cs then
    if (split 'Z').2 = [] then some (← parseTimeOfDay (split 'Z').1, some 0) else none
  else some (← parseTimeOfDay cs, none)

/-- `fromisoformat` on characters. -/
def parseIso (cs : List Char) : Option Written := do
  if cs.length < 7 then none
  else do
    let location ← separatorLocation cs
    let days ← parseDate (cs.take location)
    let (time, offset) ←
      if cs.length ≤ location then some (0, none) else parseTime (cs.drop (location + 1))
    if days < 2932897 then some ⟨days * 86400000000 + time, offset⟩ else none

/-- `fromisoformat`; it raises a `ValueError` on every other text. -/
def fromisoformat (text : String) : Option Written := parseIso text.toList

/-! ## The round trip -/

/-- The times of the years 1 to 9999. -/
def InRange (time : ℤ) : Prop := -62135596800000000 ≤ time ∧ time < 253402300800000000

instance (time : ℤ) : Decidable (InRange time) := by unfold InRange; infer_instance

/-- A day of the range has a year of four digits. -/
theorem civilOfDays_year {days : ℤ} (h0 : -719162 ≤ days) (h1 : days < 2932897) :
    1 ≤ (civilOfDays days).year ∧ (civilOfDays days).year ≤ 9999 := by
  have hdoe0 : 0 ≤ (days + 719468) % 146097 := by omega
  have hdoe1 : (days + 719468) % 146097 < 146097 := by omega
  obtain ⟨hyoe0, hyoe1, hdoy0, hdoy1⟩ := yearOfEra_bounds hdoe0 hdoe1
  simp only [civilOfDays]
  generalize yearOfEra ((days + 719468) % 146097) = yoe at *
  have hbefore : daysBeforeYear yoe = 365 * yoe + yoe / 4 - yoe / 100 := rfl
  generalize hdoy : (days + 719468) % 146097 - daysBeforeYear yoe = doy at *
  have hera : 0 ≤ (days + 719468) / 146097 ∧ (days + 719468) / 146097 ≤ 24 := by omega
  constructor
  · by_cases hfirst : (days + 719468) / 146097 = 0 ∧ yoe = 0
    · obtain ⟨hzero, rfl⟩ := hfirst
      have hmp : ¬ (5 * doy + 2) / 153 < 10 := by omega
      rw [if_neg hmp, if_pos (by omega)]
      omega
    · split_ifs <;> omega
  · by_cases hlast : (days + 719468) / 146097 = 24 ∧ yoe = 399
    · obtain ⟨hera24, rfl⟩ := hlast
      have hmp : (5 * doy + 2) / 153 < 10 := by omega
      rw [if_pos hmp, if_neg (by omega)]
      omega
    · split_ifs <;> omega

@[simp] theorem number_two (n : ℕ) : number (twoDigits n) = some (n / 10 % 10 * 10 + n % 10) := by
  simp [number, twoDigits, Nat.mul_comm]

@[simp] theorem number_four (n : ℕ) : number (fourDigits n) = some (n % 10000) := by
  simp only [number, fourDigits, List.foldlM_cons, List.foldlM_nil, digitValue_digit]
  simp
  omega

@[simp] theorem number_six (n : ℕ) : number (sixDigits n) = some (n % 1000000) := by
  simp only [number, sixDigits, List.foldlM_cons, List.foldlM_nil, digitValue_digit]
  simp
  omega

theorem takeNumber_two {n : ℕ} (h : n < 100) (rest : List Char) :
    takeNumber 2 (twoDigits n ++ rest) = some (n, rest) := by
  have hnumber := number_two n
  have : n / 10 % 10 * 10 + n % 10 = n := by omega
  rw [this] at hnumber
  simp only [takeNumber, twoDigits, List.cons_append, List.nil_append, List.length_cons,
    List.take_succ_cons, List.take_zero, List.drop_succ_cons, List.drop_zero] at hnumber ⊢
  rw [if_pos (by omega), hnumber]
  rfl

theorem takeNumber_four {n : ℕ} (h : n < 10000) (rest : List Char) :
    takeNumber 4 (fourDigits n ++ rest) = some (n, rest) := by
  have hnumber := number_four n
  rw [Nat.mod_eq_of_lt h] at hnumber
  simp only [takeNumber, fourDigits, List.cons_append, List.nil_append, List.length_cons,
    List.take_succ_cons, List.take_zero, List.drop_succ_cons, List.drop_zero] at hnumber ⊢
  rw [if_pos (by omega), hnumber]
  rfl

theorem separator_present (c : Char) (cs : List Char) : separator true c (c :: cs) = some cs := by
  simp [separator]

/-- A date in text is read back. -/
theorem parseDate_dateText {date : Civil} (hvalid : date.Valid) (h1 : 1 ≤ date.year)
    (h2 : date.year ≤ 9999) : parseDate (dateText date) = some (daysOfCivil date) := by
  obtain ⟨hmonth1, hmonth2, hday1, hday2⟩ := hvalid
  have hday : date.day ≤ 31 := by
    have : daysInMonth date.year date.month ≤ 31 := by
      unfold daysInMonth
      split_ifs <;> omega
    omega
  have hyear : takeNumber 4 (dateText date) = some (date.year.toNat,
      '-' :: (twoDigits date.month.toNat ++ '-' :: twoDigits date.day.toNat)) := by
    simpa [dateText] using takeNumber_four (n := date.year.toNat) (by omega)
      ('-' :: (twoDigits date.month.toNat ++ '-' :: twoDigits date.day.toNat))
  have hmonth := takeNumber_two (n := date.month.toNat) (by omega)
    ('-' :: twoDigits date.day.toNat)
  have hdate : takeNumber 2 (twoDigits date.day.toNat) = some (date.day.toNat, []) := by
    simpa using takeNumber_two (n := date.day.toNat) (by omega) []
  have hweek : (twoDigits date.month.toNat ++ '-' :: twoDigits date.day.toNat).head? ≠ some 'W' := by
    have := digit_ne (n := date.month.toNat / 10) (c := 'W') (by decide)
    simpa [twoDigits] using this
  have hsame : (⟨date.year.toNat, date.month.toNat, date.day.toNat⟩ : Civil) = date := by
    obtain ⟨year, month, day⟩ := date
    simp only at h1 hmonth1 hday1
    simp only [Civil.mk.injEq]
    omega
  simp only [parseDate, hyear, hmonth, hdate, hweek, Option.bind_eq_bind, Option.bind_some,
    List.head?_cons, decide_true, separator_present, if_false, hsame]
  have hpositive : (1 : ℤ) ≤ date.year.toNat := by omega
  exact if_pos ⟨⟨hmonth1, hmonth2, hday1, hday2⟩, hpositive⟩

/-- A fraction in six digits is read back. -/
theorem parseFraction_six {n : ℕ} (h : n < 1000000) : parseFraction (sixDigits n) = some n := by
  have hnumber := number_six n
  rw [Nat.mod_eq_of_lt h] at hnumber
  have htake : (sixDigits n).take 6 = sixDigits n := rfl
  have hdigits : (sixDigits n).all (fun c => (digitValue c).isSome) = true := by
    simp [sixDigits]
  have hlength : (sixDigits n).length = 6 := rfl
  simp only [parseFraction, htake, hnumber, hdigits, hlength]
  simp [sixDigits]

/-- A clock in text is read back. -/
theorem parseClock_timeText {us : ℕ} (h : us < 86400000000) : parseClock (timeText us) =
    some (us / 3600000000, us / 60000000 % 60, us / 1000000 % 60, us % 1000000) := by
  have hhour := takeNumber_two (n := us / 3600000000) (by omega)
    (':' :: (twoDigits (us / 60000000 % 60) ++ ':' :: (twoDigits (us / 1000000 % 60) ++
      (if us % 1000000 = 0 then [] else '.' :: sixDigits (us % 1000000)))))
  have hminute := takeNumber_two (n := us / 60000000 % 60) (by omega)
    (':' :: (twoDigits (us / 1000000 % 60) ++
      (if us % 1000000 = 0 then [] else '.' :: sixDigits (us % 1000000))))
  have hsecond := takeNumber_two (n := us / 1000000 % 60) (by omega)
    (if us % 1000000 = 0 then [] else '.' :: sixDigits (us % 1000000))
  have htext : timeText us = twoDigits (us / 3600000000) ++
      ':' :: (twoDigits (us / 60000000 % 60) ++ ':' :: (twoDigits (us / 1000000 % 60) ++
        (if us % 1000000 = 0 then [] else '.' :: sixDigits (us % 1000000)))) := by
    simp [timeText]
  simp only [parseClock, htext, hhour, hminute, hsecond, Option.bind_eq_bind, Option.bind_some,
    List.head?_cons, decide_true, separator_present, reduceCtorEq, if_false]
  by_cases hwhole : us % 1000000 = 0
  · simp [hwhole]
  · simp [hwhole, parseFraction_six (n := us % 1000000) (by omega)]

/-- A text of digits, colons and points has no other sign. -/
theorem notMem_timeText {us : ℕ} {c : Char} (hdigit : c.toNat < 48 ∨ 57 < c.toNat)
    (hcolon : c ≠ ':') (hpoint : c ≠ '.') : c ∉ timeText us := by
  have hne : ∀ n, ¬ c = digit n := fun n heq => digit_ne hdigit heq.symm
  unfold timeText
  split_ifs <;> simp [twoDigits, sixDigits, hne, hcolon, hpoint]

/-- A time of day in UTC is read back. -/
theorem parseTime_timeText {us : ℕ} (h : us < 86400000000) :
    parseTime (timeText us ++ ['+', '0', '0', ':', '0', '0']) = some ((us : ℤ), some 0) := by
  have hminus : '-' ∉ timeText us := notMem_timeText (by decide) (by decide) (by decide)
  have hplus : '+' ∉ timeText us := notMem_timeText (by decide) (by decide) (by decide)
  have hbefore : ∀ c ∈ timeText us, decide (c ≠ '+') = true := by
    intro c hc
    simp only [decide_eq_true_eq]
    rintro rfl
    exact hplus hc
  have htake : (timeText us ++ ['+', '0', '0', ':', '0', '0']).takeWhile (· ≠ '+') =
      timeText us := by
    rw [List.takeWhile_append_of_pos hbefore]
    simp
  have hdrop : (timeText us ++ ['+', '0', '0', ':', '0', '0']).dropWhile (· ≠ '+') =
      ['+', '0', '0', ':', '0', '0'] := by
    rw [List.dropWhile_append_of_pos hbefore]
    rfl
  have hclock : parseTimeOfDay (timeText us) = some (us : ℤ) := by
    simp only [parseTimeOfDay, parseClock_timeText h, Option.bind_eq_bind, Option.bind_some]
    rw [if_pos (by omega)]
    simp only [clockMicroseconds, Option.some.injEq]
    omega
  have hoffset : parseOffset false ['0', '0', ':', '0', '0'] = some 0 := by decide
  simp only [parseTime]
  rw [if_neg (by simp [hminus]), if_pos (by simp), htake, hdrop, hclock, List.tail_cons, hoffset]
  rfl

/-- The separator follows a date in text. -/
theorem separatorLocation_dateText (date : Civil) (c : Char) (rest : List Char) :
    separatorLocation (dateText date ++ c :: rest) = some 10 := by
  have hweek := digit_ne (n := date.month.toNat / 10) (c := 'W') (by decide)
  simp [separatorLocation, dateText, fourDigits, twoDigits, hweek]

/-- **A written time is read back.** -/
theorem fromisoformat_isoformat {time : ℤ} (h : InRange time) :
    fromisoformat (isoformat time) = some ⟨time, some 0⟩ := by
  have hdays : -719162 ≤ time / 86400000000 ∧ time / 86400000000 < 2932897 := by
    unfold InRange at h
    omega
  obtain ⟨hyear1, hyear2⟩ := civilOfDays_year hdays.1 hdays.2
  have hdate := parseDate_dateText (civilOfDays_valid (time / 86400000000)) hyear1 hyear2
  rw [daysOfCivil_civilOfDays] at hdate
  have hday : (time % 86400000000).toNat < 86400000000 := by omega
  have htime := parseTime_timeText hday
  have hlocation := separatorLocation_dateText (civilOfDays (time / 86400000000)) 'T'
    (timeText (time % 86400000000).toNat ++ ['+', '0', '0', ':', '0', '0'])
  have hlength : (dateText (civilOfDays (time / 86400000000))).length = 10 := rfl
  have hchars : (isoformat time).toList = dateText (civilOfDays (time / 86400000000)) ++
      'T' :: (timeText (time % 86400000000).toNat ++ ['+', '0', '0', ':', '0', '0']) := by
    simp [isoformat, isoChars]
  generalize timeText (time % 86400000000).toNat ++ ['+', '0', '0', ':', '0', '0'] = back
    at htime hlocation hchars
  generalize dateText (civilOfDays (time / 86400000000)) = front at hdate hlocation hlength hchars
  have htake : (front ++ 'T' :: back).take 10 = front := by
    rw [← hlength, List.take_left']
    rfl
  have hdrop : (front ++ 'T' :: back).drop 11 = back := by
    have : (11 : ℕ) = front.length + 1 := by omega
    rw [this, List.drop_append]
    simp
  have hlong : ¬ (front ++ 'T' :: back).length < 7 := by
    simp [hlength]
    omega
  have hrest : ¬ (front ++ 'T' :: back).length ≤ 10 := by
    simp [hlength]
  have hwhole : time / 86400000000 * 86400000000 + ((time % 86400000000).toNat : ℤ) = time := by
    omega
  simp only [fromisoformat, parseIso, hchars, hlong, if_false, hlocation, htake, hdate, hdrop,
    hrest, htime, Option.bind_eq_bind, Option.bind_some, hdays.2, if_true, hwhole]

end BpEngine.IsoTime
