import Mathlib.Algebra.Order.Field.Rat
import Mathlib.Data.String.Basic
import Mathlib.Tactic.Linarith
import Mathlib.Tactic.Positivity
import Mathlib.Tactic.FieldSimp

/-!
# Written times

A time is written as ISO 8601 has it, in the extended format: date and clock, a fraction of a second
of any length, and the offset from UTC, `Z` or in hours and minutes. `IsoTime.instant` is the moment
it denotes, in seconds since the year one. `UtcTime.written` is how a clock that counts microseconds
in UTC writes the time: without a fraction at a full second, with six digits otherwise.

Two written times can be compared as texts or as moments. The digits before the fraction have fixed
places, so as texts they compare as clock readings do (`text_lt_iff`); whatever follows them decides
within one second, and there the offset and the number of digits take part.
`comparesAsText_iff` says for which times the order as texts against every clock reading is the
order of the moments.
-/

set_option autoImplicit false
set_option relaxedAutoImplicit false

namespace AgentRuntime.Library

/-! ### Digits -/

/-- The character of a digit. -/
def digitChar (digit : Fin 10) : Char := Char.ofNat (48 + digit.val)

theorem digitChar_lt_iff (left right : Fin 10) :
    digitChar left < digitChar right ↔ left < right := by
  revert left right
  decide

theorem digitChar_inj (left right : Fin 10) : digitChar left = digitChar right ↔ left = right := by
  revert left right
  decide

/-- The lowest decimal digits of a number, the highest of them first. -/
def digits : Nat → Nat → List (Fin 10)
  | 0, _ => []
  | width + 1, number => Fin.ofNat 10 (number / 10 ^ width) :: digits width number

/-- The number that some digits write. -/
def numeral : List (Fin 10) → Nat
  | [] => 0
  | digit :: rest => digit.val * 10 ^ rest.length + numeral rest

/-- The fraction that some digits write after the point. -/
def fractionValue : List (Fin 10) → ℚ
  | [] => 0
  | digit :: rest => (digit.val + fractionValue rest) / 10

@[simp] theorem length_digits (width number : Nat) : (digits width number).length = width := by
  induction width with
  | zero => rfl
  | succ width ih => simp [digits, ih]

theorem numeral_lt (word : List (Fin 10)) : numeral word < 10 ^ word.length := by
  induction word with
  | nil => simp [numeral]
  | cons digit rest ih =>
    have hdigit : digit.val + 1 ≤ 10 := digit.isLt
    have hstep : (digit.val + 1) * 10 ^ rest.length ≤ 10 * 10 ^ rest.length :=
      Nat.mul_le_mul_right _ hdigit
    rw [numeral, List.length_cons, pow_succ, Nat.mul_comm (10 ^ rest.length)]
    rw [Nat.add_mul, Nat.one_mul] at hstep
    omega

theorem fractionValue_eq (word : List (Fin 10)) :
    fractionValue word = numeral word / 10 ^ word.length := by
  induction word with
  | nil => simp [fractionValue, numeral]
  | cons digit rest ih =>
    rw [fractionValue, numeral, ih, List.length_cons, pow_succ]
    push_cast
    field_simp

theorem numeral_cons_lt_iff {digit other : Fin 10} {rest more : List (Fin 10)}
    (hlength : rest.length = more.length) :
    numeral (digit :: rest) < numeral (other :: more) ↔
      digit < other ∨ digit = other ∧ numeral rest < numeral more := by
  have hrest := numeral_lt rest
  have hmore := numeral_lt more
  rw [numeral, numeral, hlength]
  rw [hlength] at hrest
  rcases lt_trichotomy digit other with hlt | rfl | hgt
  · have hstep : (digit.val + 1) * 10 ^ more.length ≤ other.val * 10 ^ more.length :=
      Nat.mul_le_mul_right _ hlt
    rw [Nat.add_mul, Nat.one_mul] at hstep
    exact iff_of_true (by omega) (.inl hlt)
  · simp
  · have hstep : (other.val + 1) * 10 ^ more.length ≤ digit.val * 10 ^ more.length :=
      Nat.mul_le_mul_right _ hgt
    rw [Nat.add_mul, Nat.one_mul] at hstep
    refine iff_of_false (by omega) ?_
    rintro (hlt | ⟨rfl, -⟩)
    · exact absurd hlt hgt.asymm
    · exact absurd hgt (lt_irrefl _)

theorem numeral_injective {word other : List (Fin 10)} (hlength : word.length = other.length)
    (hnumeral : numeral word = numeral other) : word = other := by
  induction word generalizing other with
  | nil =>
    cases other with
    | nil => rfl
    | cons digit rest => cases hlength
  | cons digit rest ih =>
    cases other with
    | nil => cases hlength
    | cons first more =>
      have htail : rest.length = more.length := Nat.succ.inj hlength
      have hleft := mt (numeral_cons_lt_iff htail).mpr hnumeral.not_lt
      have hright := mt (numeral_cons_lt_iff htail.symm).mpr hnumeral.not_gt
      rw [not_or] at hleft hright
      obtain rfl : digit = first := le_antisymm (not_lt.mp hright.1) (not_lt.mp hleft.1)
      have hrest : numeral rest = numeral more := by
        refine le_antisymm (not_lt.mp fun hlt ↦ hright.2 ⟨rfl, hlt⟩)
          (not_lt.mp fun hlt ↦ hleft.2 ⟨rfl, hlt⟩)
      rw [ih htail hrest]

theorem numeral_digits (width number : Nat) :
    numeral (digits width number) = number % 10 ^ width := by
  induction width with
  | zero => simp [digits, numeral, Nat.mod_one]
  | succ width ih =>
    rw [digits, numeral, length_digits, ih, Nat.mod_pow_succ]
    change number / 10 ^ width % 10 * 10 ^ width + _ = _
    rw [Nat.mul_comm, Nat.add_comm]

theorem digits_numeral (word : List (Fin 10)) : digits word.length (numeral word) = word := by
  refine numeral_injective (length_digits _ _) ?_
  rw [numeral_digits, Nat.mod_eq_of_lt (numeral_lt word)]

/-- Words of one length compare as the numbers they write, before whatever follows them. -/
theorem word_append_lt_iff {word other : List (Fin 10)} (hlength : word.length = other.length)
    (tail more : List Char) :
    word.map digitChar ++ tail < other.map digitChar ++ more ↔
      numeral word < numeral other ∨ numeral word = numeral other ∧ tail < more := by
  induction word generalizing other with
  | nil =>
    cases other with
    | nil => simp [numeral]
    | cons digit rest => cases hlength
  | cons digit rest ih =>
    cases other with
    | nil => cases hlength
    | cons first others =>
      have htail : rest.length = others.length := Nat.succ.inj hlength
      have hsame : numeral (digit :: rest) = numeral (first :: others) ↔
          digit = first ∧ numeral rest = numeral others := by
        constructor
        · intro hnumeral
          cases numeral_injective hlength hnumeral
          exact ⟨rfl, rfl⟩
        · rintro ⟨rfl, hrest⟩
          rw [numeral, numeral, hrest, htail]
      rw [List.map_cons, List.map_cons, List.cons_append, List.cons_append, List.cons_lt_cons_iff,
        ih htail, digitChar_lt_iff, digitChar_inj, numeral_cons_lt_iff htail, hsame]
      tauto

/-- Numbers of one width compare as texts, before whatever follows them. -/
theorem digits_append_lt_iff {width number other : Nat} (hnumber : number < 10 ^ width)
    (hother : other < 10 ^ width) (tail more : List Char) :
    (digits width number).map digitChar ++ tail < (digits width other).map digitChar ++ more ↔
      number < other ∨ number = other ∧ tail < more := by
  rw [word_append_lt_iff (by simp), numeral_digits, numeral_digits, Nat.mod_eq_of_lt hnumber,
    Nat.mod_eq_of_lt hother]

/-! ### The calendar -/

/-- The year has a 29th of February. -/
def isLeap (year : Nat) : Bool :=
  year % 4 == 0 && (year % 100 != 0 || year % 400 == 0)

def daysInMonth (year month : Nat) : Nat :=
  match month with
  | 2 => if isLeap year then 29 else 28
  | 4 | 6 | 9 | 11 => 30
  | _ => 31

/-- The days of the years before. -/
def daysBeforeYear (year : Nat) : Nat :=
  (year - 1) * 365 + (year - 1) / 4 - (year - 1) / 100 + (year - 1) / 400

/-- The days of the months before, from January on. -/
def daysBeforeMonth (year : Nat) : Nat → Nat
  | 0 | 1 => 0
  | month + 2 => daysBeforeMonth year (month + 1) + daysInMonth year (month + 1)

/-- A date with the reading of a clock. -/
structure CivilTime where
  year : Nat
  month : Nat
  day : Nat
  hour : Nat
  minute : Nat
  second : Nat
  year_mem : 1 ≤ year ∧ year < 10000
  month_mem : 1 ≤ month ∧ month ≤ 12
  day_mem : 1 ≤ day ∧ day ≤ daysInMonth year month
  hour_lt : hour < 24
  minute_lt : minute < 60
  second_lt : second < 60

namespace CivilTime

/-- The days since the first of January of the year one. -/
def days (time : CivilTime) : Nat :=
  daysBeforeYear time.year + daysBeforeMonth time.year time.month + (time.day - 1)

/-- The seconds since the year one. -/
def seconds (time : CivilTime) : Nat :=
  ((time.days * 24 + time.hour) * 60 + time.minute) * 60 + time.second

/-- `YYYY-MM-DDTHH:MM:SS`, before the given characters. -/
def write (time : CivilTime) (tail : List Char) : List Char :=
  (digits 4 time.year).map digitChar ++ '-' :: ((digits 2 time.month).map digitChar ++ '-' ::
    ((digits 2 time.day).map digitChar ++ 'T' :: ((digits 2 time.hour).map digitChar ++ ':' ::
      ((digits 2 time.minute).map digitChar ++ ':' ::
        ((digits 2 time.second).map digitChar ++ tail)))))

end CivilTime

theorem daysInMonth_le (year month : Nat) : 28 ≤ daysInMonth year month ∧
    daysInMonth year month ≤ 31 := by
  unfold daysInMonth
  split
  · split_ifs <;> omega
  · omega
  · omega
  · omega
  · omega
  · omega

/-- The days of a year. -/
theorem daysBeforeMonth_year (year : Nat) :
    daysBeforeMonth year 12 + 31 = if isLeap year then 366 else 365 := by
  simp only [daysBeforeMonth, daysInMonth]
  split_ifs <;> rfl

theorem daysBeforeYear_succ (year : Nat) (hyear : 1 ≤ year) :
    daysBeforeYear (year + 1) = daysBeforeYear year + if isLeap year then 366 else 365 := by
  obtain ⟨before, rfl⟩ := Nat.exists_eq_add_of_le' hyear
  have hfour : (before + 1) / 4 = before / 4 + if (before + 1) % 4 = 0 then 1 else 0 := by
    split_ifs <;> omega
  have hcentury : (before + 1) / 100 = before / 100 + if (before + 1) % 100 = 0 then 1 else 0 := by
    split_ifs <;> omega
  have hcycle : (before + 1) / 400 = before / 400 + if (before + 1) % 400 = 0 then 1 else 0 := by
    split_ifs <;> omega
  have hcenturies : (before + 1) % 100 = 0 → (before + 1) % 4 = 0 := by omega
  have hcycles : (before + 1) % 400 = 0 → (before + 1) % 100 = 0 := by omega
  have hle : before / 100 ≤ before / 4 := by omega
  unfold daysBeforeYear
  rw [Nat.add_sub_cancel, Nat.add_sub_cancel, hfour, hcentury, hcycle]
  generalize before / 4 = fours at hle ⊢
  generalize before / 100 = centuries at hle ⊢
  generalize before / 400 = cycles
  by_cases h400 : (before + 1) % 400 = 0
  · simp only [isLeap, h400, hcycles h400, hcenturies (hcycles h400)]
    simp only [if_true, beq_self_eq_true, bne_self_eq_false, Bool.or_true, Bool.and_self]
    omega
  · by_cases h100 : (before + 1) % 100 = 0
    · simp only [isLeap, h400, h100, hcenturies h100]
      simp [h400]
      omega
    · by_cases h4 : (before + 1) % 4 = 0
      · simp only [isLeap, h400, h100, h4]
        simp [h100]
        omega
      · simp only [isLeap, h400, h100, h4]
        simp [h4]
        omega

theorem daysBeforeMonth_mono (year : Nat) {month later : Nat} (hmonth : 1 ≤ month)
    (hlt : month < later) :
    daysBeforeMonth year month + daysInMonth year month ≤ daysBeforeMonth year later := by
  induction later, hlt using Nat.le_induction with
  | base =>
    obtain ⟨month, rfl⟩ := Nat.exists_eq_add_of_le' hmonth
    exact Nat.le_refl _
  | succ later hle ih =>
    refine ih.trans ?_
    obtain ⟨later, rfl⟩ := Nat.exists_eq_add_of_le' (hmonth.trans (Nat.le_of_succ_le hle))
    exact Nat.le_add_right _ _

theorem daysBeforeYear_mono {year later : Nat} (hyear : 1 ≤ year) (hlt : year < later) :
    daysBeforeYear year + (if isLeap year then 366 else 365) ≤ daysBeforeYear later := by
  induction later, hlt using Nat.le_induction with
  | base => exact (daysBeforeYear_succ year hyear).ge
  | succ later hle ih =>
    rw [daysBeforeYear_succ later (hyear.trans (Nat.le_of_succ_le hle))]
    exact ih.trans (Nat.le_add_right _ _)

namespace CivilTime

variable (time other : CivilTime)

/-- The date and the reading come before the others. -/
def Before : Prop :=
  time.year < other.year ∨ time.year = other.year ∧
    (time.month < other.month ∨ time.month = other.month ∧
      (time.day < other.day ∨ time.day = other.day ∧
        (time.hour < other.hour ∨ time.hour = other.hour ∧
          (time.minute < other.minute ∨ time.minute = other.minute ∧
            time.second < other.second))))

/-- A day of a year lies within the year. -/
theorem dayOfYear_lt : daysBeforeMonth time.year time.month + (time.day - 1) <
    if isLeap time.year then 366 else 365 := by
  have hday := time.day_mem
  have hmonth := time.month_mem
  rw [← daysBeforeMonth_year]
  by_cases hlast : time.month = 12
  · have hdecember : daysInMonth time.year 12 = 31 := rfl
    rw [hlast] at hday ⊢
    omega
  · have hmono := daysBeforeMonth_mono time.year hmonth.1 (show time.month < 12 by omega)
    omega

variable {time other}

theorem days_lt_of_year (hyear : time.year < other.year) : time.days < other.days := by
  have hmono := daysBeforeYear_mono time.year_mem.1 hyear
  have hinside := dayOfYear_lt time
  unfold days
  omega

theorem days_lt_of_month (hyear : time.year = other.year) (hmonth : time.month < other.month) :
    time.days < other.days := by
  have hmono := daysBeforeMonth_mono time.year time.month_mem.1 hmonth
  have hday := time.day_mem
  unfold days
  rw [← hyear]
  omega

theorem days_lt_of_day (hyear : time.year = other.year) (hmonth : time.month = other.month)
    (hday : time.day < other.day) : time.days < other.days := by
  have hfirst := time.day_mem.1
  unfold days
  rw [← hyear, ← hmonth]
  omega

/-- Earlier readings are fewer seconds. -/
theorem seconds_lt_of_before (hbefore : time.Before other) : time.seconds < other.seconds := by
  have hhour := time.hour_lt
  have hminute := time.minute_lt
  have hsecond := time.second_lt
  unfold seconds
  rcases hbefore with hlt | ⟨hyear, hlt | ⟨hmonth, hlt | ⟨hday, hlt⟩⟩⟩
  · have := days_lt_of_year hlt
    omega
  · have := days_lt_of_month hyear hlt
    omega
  · have := days_lt_of_day hyear hmonth hlt
    omega
  · have hdays : time.days = other.days := by
      unfold days
      rw [hyear, hmonth, hday]
    omega

variable (time other) in
theorem before_or : time.Before other ∨ other.Before time ∨ time = other := by
  obtain ⟨year, month, day, hour, minute, second, _, _, _, _, _, _⟩ := time
  obtain ⟨year', month', day', hour', minute', second', _, _, _, _, _, _⟩ := other
  unfold Before
  simp only [mk.injEq]
  omega

theorem before_iff : time.Before other ↔ time.seconds < other.seconds := by
  constructor
  · exact seconds_lt_of_before
  · intro hlt
    rcases before_or time other with hbefore | hafter | rfl
    · exact hbefore
    · exact absurd (seconds_lt_of_before hafter) hlt.asymm
    · exact absurd hlt (lt_irrefl _)

theorem eq_iff_seconds : time = other ↔ time.seconds = other.seconds := by
  constructor
  · rintro rfl
    rfl
  · intro heq
    rcases before_or time other with hbefore | hafter | hsame
    · exact absurd heq (seconds_lt_of_before hbefore).ne
    · exact absurd heq (seconds_lt_of_before hafter).ne'
    · exact hsame

/-- As texts, times compare as readings, before whatever follows them. -/
theorem write_lt_iff (tail more : List Char) :
    time.write tail < other.write more ↔
      time.seconds < other.seconds ∨ time.seconds = other.seconds ∧ tail < more := by
  have hyears : time.year < 10 ^ 4 ∧ other.year < 10 ^ 4 := ⟨time.year_mem.2, other.year_mem.2⟩
  have hmonths : time.month < 10 ^ 2 ∧ other.month < 10 ^ 2 := by
    have := time.month_mem
    have := other.month_mem
    omega
  have hdays : time.day < 10 ^ 2 ∧ other.day < 10 ^ 2 := by
    have := time.day_mem
    have := other.day_mem
    have := daysInMonth_le time.year time.month
    have := daysInMonth_le other.year other.month
    omega
  have hhours : time.hour < 10 ^ 2 ∧ other.hour < 10 ^ 2 := by
    have := time.hour_lt
    have := other.hour_lt
    omega
  have hminutes : time.minute < 10 ^ 2 ∧ other.minute < 10 ^ 2 := by
    have := time.minute_lt
    have := other.minute_lt
    omega
  have hseconds : time.second < 10 ^ 2 ∧ other.second < 10 ^ 2 := by
    have := time.second_lt
    have := other.second_lt
    omega
  have hmark (mark : Char) (left right : List Char) : mark :: left < mark :: right ↔
      left < right := by
    simp
  rw [← before_iff, ← eq_iff_seconds]
  unfold write Before
  rw [digits_append_lt_iff hyears.1 hyears.2, hmark,
    digits_append_lt_iff hmonths.1 hmonths.2, hmark,
    digits_append_lt_iff hdays.1 hdays.2, hmark, digits_append_lt_iff hhours.1 hhours.2, hmark,
    digits_append_lt_iff hminutes.1 hminutes.2, hmark, digits_append_lt_iff hseconds.1 hseconds.2]
  have hsame : time = other ↔ time.year = other.year ∧ time.month = other.month ∧
      time.day = other.day ∧ time.hour = other.hour ∧ time.minute = other.minute ∧
        time.second = other.second := by
    cases time
    cases other
    simp
  rw [hsame]
  simp only [and_or_left, or_assoc, and_assoc]

end CivilTime

/-! ### Written times -/

/-- The offset of a written time: `Z`, or ahead of or behind UTC by hours and minutes. UTC itself is
never written as behind. -/
inductive Zone where
  | zulu
  | ahead (hours minutes : Nat) (hhours : hours < 24) (hminutes : minutes < 60)
  | behind (hours minutes : Nat) (hhours : hours < 24) (hminutes : minutes < 60)
    (hpos : 0 < hours * 60 + minutes)

namespace Zone

/-- How many minutes the clock is ahead of UTC. -/
def minutesAhead : Zone → Int
  | zulu => 0
  | ahead hours minutes _ _ => hours * 60 + minutes
  | behind hours minutes _ _ _ => -(hours * 60 + minutes)

/-- `HH:MM`. -/
def writeOffset (hours minutes : Nat) : List Char :=
  (digits 2 hours).map digitChar ++ ':' :: ((digits 2 minutes).map digitChar ++ [])

def write : Zone → List Char
  | zulu => ['Z']
  | ahead hours minutes _ _ => '+' :: writeOffset hours minutes
  | behind hours minutes _ _ _ => '-' :: writeOffset hours minutes

theorem zero_lt_sixty : 0 < 60 := by decide

/-- UTC, written as an offset. -/
def utc : Zone := ahead 0 0 (by decide) zero_lt_sixty

end Zone

/-- A written time; without a fraction its digits are none. -/
structure IsoTime where
  clock : CivilTime
  fraction : List (Fin 10)
  zone : Zone

namespace IsoTime

def writeFraction : List (Fin 10) → List Char → List Char
  | [], tail => tail
  | digit :: rest, tail => '.' :: ((digit :: rest).map digitChar ++ tail)

/-- What follows the seconds. -/
def rest (time : IsoTime) : List Char := writeFraction time.fraction time.zone.write

/-- The time as a text. -/
def text (time : IsoTime) : String := String.ofList (time.clock.write time.rest)

/-- The moment that is denoted, in seconds since the year one. -/
def instant (time : IsoTime) : ℚ :=
  time.clock.seconds + fractionValue time.fraction - time.zone.minutesAhead * 60

theorem text_lt_iff (time other : IsoTime) :
    time.text < other.text ↔ time.clock.seconds < other.clock.seconds ∨
      time.clock.seconds = other.clock.seconds ∧ time.rest < other.rest := by
  unfold text
  rw [String.lt_iff_toList_lt, String.toList_ofList, String.toList_ofList,
    CivilTime.write_lt_iff]

end IsoTime

/-- A clock that counts microseconds in UTC. -/
structure UtcTime where
  clock : CivilTime
  microsecond : Nat
  microsecond_lt : microsecond < 1000000

namespace UtcTime

/-- How the clock writes its time: a full second has no fraction. -/
def written (time : UtcTime) : IsoTime where
  clock := time.clock
  fraction := if time.microsecond = 0 then [] else digits 6 time.microsecond
  zone := .utc

/-- The moment, in seconds since the year one. -/
def instant (time : UtcTime) : ℚ := time.clock.seconds + time.microsecond / 1000000

/-- The six digits of the microseconds. -/
theorem fractionValue_digits (time : UtcTime) :
    fractionValue (digits 6 time.microsecond) = time.microsecond / 1000000 := by
  have hlt : time.microsecond < 10 ^ 6 := time.microsecond_lt
  rw [fractionValue_eq, numeral_digits, length_digits, Nat.mod_eq_of_lt hlt]
  norm_num

theorem instant_written (time : UtcTime) : time.written.instant = time.instant := by
  have hzone : time.written.zone.minutesAhead = 0 := rfl
  unfold IsoTime.instant instant
  rw [hzone]
  change (time.clock.seconds : ℚ) + fractionValue (if _ then _ else _) - _ = _
  split_ifs with hzero
  · rw [hzero, fractionValue]
    simp
  · rw [fractionValue_digits]
    simp

/-- The clock at the microsecond of six digits. -/
def ofDigits (clock : CivilTime) (word : List (Fin 10)) (hlength : word.length = 6) : UtcTime where
  clock := clock
  microsecond := numeral word
  microsecond_lt := by
    have hlt := numeral_lt word
    rw [hlength] at hlt
    exact hlt

end UtcTime

/-! ### Fractions -/

theorem fractionValue_nonneg (word : List (Fin 10)) : 0 ≤ fractionValue word := by
  rw [fractionValue_eq]
  positivity

theorem fractionValue_lt_one (word : List (Fin 10)) : fractionValue word < 1 := by
  have hlt : (numeral word : ℚ) < 10 ^ word.length := by exact_mod_cast numeral_lt word
  rw [fractionValue_eq, div_lt_one (by positivity)]
  exact hlt

theorem fractionValue_pos_iff (word : List (Fin 10)) :
    0 < fractionValue word ↔ ∃ digit ∈ word, digit ≠ 0 := by
  induction word with
  | nil => simp [fractionValue]
  | cons digit rest ih =>
    have hnonneg := fractionValue_nonneg rest
    simp only [fractionValue, List.mem_cons, exists_eq_or_imp, ← ih]
    constructor
    · intro hpos
      by_cases hzero : digit = 0
      · right
        rw [hzero] at hpos
        simpa using hpos
      · exact .inl hzero
    · rintro (hne | hpos)
      · have hdigit : (0 : ℚ) < digit.val := by
          exact_mod_cast Nat.pos_of_ne_zero fun hval ↦ hne (Fin.ext hval)
        positivity
      · positivity

theorem fractionValue_cons_lt_iff (digit other : Fin 10) (word more : List (Fin 10)) :
    fractionValue (digit :: word) < fractionValue (other :: more) ↔
      digit < other ∨ digit = other ∧ fractionValue word < fractionValue more := by
  have hword := fractionValue_nonneg word
  have hmore := fractionValue_nonneg more
  have hwordOne := fractionValue_lt_one word
  have hmoreOne := fractionValue_lt_one more
  rw [fractionValue, fractionValue, div_lt_div_iff_of_pos_right (by norm_num)]
  rcases lt_trichotomy digit other with hlt | rfl | hgt
  · have hval : (digit.val : ℚ) + 1 ≤ other.val := by exact_mod_cast hlt
    exact iff_of_true (by linarith) (.inl hlt)
  · simp
  · have hval : (other.val : ℚ) + 1 ≤ digit.val := by exact_mod_cast hgt
    refine iff_of_false (by linarith) ?_
    rintro (hlt | ⟨rfl, -⟩)
    · exact absurd hlt hgt.asymm
    · exact absurd hgt (lt_irrefl _)

/-- Whole seconds decide before fractions do. -/
theorem add_fraction_lt_iff (left right : Nat) (word more : List (Fin 10)) :
    (left : ℚ) + fractionValue word < right + fractionValue more ↔
      left < right ∨ left = right ∧ fractionValue word < fractionValue more := by
  have hword := fractionValue_nonneg word
  have hmore := fractionValue_nonneg more
  have hwordOne := fractionValue_lt_one word
  have hmoreOne := fractionValue_lt_one more
  rcases lt_trichotomy left right with hlt | rfl | hgt
  · have hval : (left : ℚ) + 1 ≤ right := by exact_mod_cast hlt
    exact iff_of_true (by linarith) (.inl hlt)
  · simp
  · have hval : (right : ℚ) + 1 ≤ left := by exact_mod_cast hgt
    refine iff_of_false (by linarith) ?_
    rintro (hlt | ⟨rfl, -⟩)
    · exact absurd hlt hgt.asymm
    · exact absurd hgt (lt_irrefl _)

/-- The first digits of a word, filled up with zeros. -/
def padTo : Nat → List (Fin 10) → List (Fin 10)
  | 0, _ => []
  | width + 1, [] => 0 :: padTo width []
  | width + 1, digit :: rest => digit :: padTo width rest

theorem length_padTo (width : Nat) (word : List (Fin 10)) : (padTo width word).length = width := by
  induction width generalizing word with
  | zero => rfl
  | succ width ih => cases word <;> simp [padTo, ih]

/-- Zeros that are cut off change nothing. -/
theorem fractionValue_padTo (width : Nat) (word : List (Fin 10))
    (hzero : ¬ ∃ digit ∈ word.drop width, digit ≠ 0) :
    fractionValue (padTo width word) = fractionValue word := by
  induction width generalizing word with
  | zero =>
    rw [List.drop_zero, ← fractionValue_pos_iff] at hzero
    rw [padTo, fractionValue]
    exact (le_antisymm (not_lt.mp hzero) (fractionValue_nonneg word)).symm
  | succ width ih =>
    cases word with
    | nil =>
      have hnil := ih [] (by simp)
      simp only [padTo, fractionValue] at hnil ⊢
      rw [hnil]
      simp
    | cons digit rest => rw [padTo, fractionValue, fractionValue, ih rest (by simpa using hzero)]

/-! ### What follows the seconds -/

theorem marks_lt_digitChar (digit : Fin 10) :
    '+' < digitChar digit ∧ '-' < digitChar digit ∧ digitChar digit < 'Z' := by
  revert digit
  decide

theorem Zone.eq_of_minutesAhead {zone : Zone} (hzero : zone.minutesAhead = 0) :
    zone = .zulu ∨ zone = .utc := by
  cases zone with
  | zulu => exact .inl rfl
  | ahead hours minutes hhours hminutes =>
    right
    simp only [minutesAhead] at hzero
    obtain rfl : hours = 0 := by omega
    obtain rfl : minutes = 0 := by omega
    rfl
  | behind hours minutes hhours hminutes hpos =>
    simp only [minutesAhead] at hzero
    omega

/-- Offsets compare as texts by their minutes. -/
theorem Zone.writeOffset_lt_iff {hours minutes otherHours otherMinutes : Nat} (hhours : hours < 24)
    (hminutes : minutes < 60) (hother : otherHours < 24) (hotherMinutes : otherMinutes < 60) :
    writeOffset hours minutes < writeOffset otherHours otherMinutes ↔
      hours * 60 + minutes < otherHours * 60 + otherMinutes := by
  unfold writeOffset
  rw [digits_append_lt_iff (by omega) (by omega), List.cons_lt_cons_iff,
    digits_append_lt_iff (by omega) (by omega)]
  simp only [lt_irrefl, and_false, or_false, true_and, false_or]
  omega

/-- Every other offset is a later text than UTC written as an offset. -/
theorem Zone.utc_write_lt_iff (zone : Zone) : Zone.utc.write < zone.write ↔ zone ≠ .utc := by
  cases zone with
  | zulu => exact iff_of_true (by decide) (by simp [utc])
  | ahead hours minutes hhours hminutes =>
    change '+' :: writeOffset 0 0 < '+' :: writeOffset hours minutes ↔ _
    rw [List.cons_lt_cons_iff, writeOffset_lt_iff (by decide) (by decide) hhours hminutes]
    simp only [lt_irrefl, true_and, false_or, utc, ne_eq, ahead.injEq]
    omega
  | behind hours minutes hhours hminutes hpos =>
    refine iff_of_true ?_ (by simp [utc])
    change '+' :: writeOffset 0 0 < '-' :: writeOffset hours minutes
    exact List.cons_lt_cons_iff.mpr (.inl (by decide))

/-- A digit is an earlier text than `Z` and a later one than an offset in hours. -/
theorem Zone.digit_lt_write_iff (zone : Zone) (digit : Fin 10) (tail : List Char) :
    digitChar digit :: tail < zone.write ↔ zone = .zulu := by
  obtain ⟨hplus, hminus, hzulu⟩ := marks_lt_digitChar digit
  cases zone with
  | zulu => exact iff_of_true (List.cons_lt_cons_iff.mpr (.inl hzulu)) rfl
  | ahead hours minutes hhours hminutes =>
    refine iff_of_false ?_ (by simp)
    rw [write, List.cons_lt_cons_iff]
    rintro (hlt | ⟨heq, -⟩)
    · exact absurd hlt hplus.asymm
    · exact absurd heq hplus.ne'
  | behind hours minutes hhours hminutes hpos =>
    refine iff_of_false ?_ (by simp)
    rw [write, List.cons_lt_cons_iff]
    rintro (hlt | ⟨heq, -⟩)
    · exact absurd hlt hminus.asymm
    · exact absurd heq hminus.ne'

theorem Zone.utc_write_lt_digit (digit : Fin 10) (tail : List Char) :
    Zone.utc.write < digitChar digit :: tail :=
  List.cons_lt_cons_iff.mpr (.inl (marks_lt_digitChar digit).1)

/-- The digits of a fraction against those of the clock, where the text tells the fractions
apart. -/
theorem fraction_text_lt_iff (zone : Zone) (word other : List (Fin 10))
    (hgood : (∃ digit ∈ other.drop word.length, digit ≠ 0) ∨
      (zone = .utc ∧ other.length ≤ word.length)) :
    word.map digitChar ++ Zone.utc.write < other.map digitChar ++ zone.write ↔
      fractionValue word < fractionValue other := by
  induction word generalizing other with
  | nil =>
    rw [fractionValue, fractionValue_pos_iff]
    cases other with
    | nil =>
      obtain ⟨_, hmem, -⟩ | ⟨rfl, -⟩ := hgood
      · cases hmem
      · simp
    | cons digit rest =>
      refine iff_of_true (Zone.utc_write_lt_digit digit _) ?_
      exact hgood.resolve_right fun hshort ↦ by simp at hshort
  | cons digit rest ih =>
    cases other with
    | nil =>
      have hutc : zone = .utc := by
        obtain ⟨_, hmem, -⟩ | ⟨hutc, -⟩ := hgood
        · cases hmem
        · exact hutc
      have hnot : ¬ fractionValue (digit :: rest) < fractionValue [] :=
        not_lt.mpr (fractionValue_nonneg _)
      refine iff_of_false (fun hlt ↦ ?_) hnot
      have hzulu : zone = .zulu := (Zone.digit_lt_write_iff zone digit _).mp hlt
      rw [hutc] at hzulu
      cases hzulu
    | cons first more =>
      have hrest := ih more (by simpa using hgood)
      rw [fractionValue_cons_lt_iff, ← hrest, List.map_cons, List.map_cons, List.cons_append,
        List.cons_append, List.cons_lt_cons_iff, digitChar_lt_iff, digitChar_inj]

/-- A clock whose digits agree with those of the fraction is an earlier text, if the fraction goes
on or ends in `Z`. -/
theorem padTo_text_lt {zone : Zone} (width : Nat) (word : List (Fin 10))
    (hlong : width < word.length ∨ zone = .zulu) :
    (padTo width word).map digitChar ++ Zone.utc.write < word.map digitChar ++ zone.write := by
  induction width generalizing word with
  | zero =>
    cases word with
    | nil =>
      obtain rfl := hlong.resolve_left (by simp)
      exact (Zone.utc_write_lt_iff .zulu).mpr (by simp [Zone.utc])
    | cons digit rest => exact Zone.utc_write_lt_digit digit _
  | succ width ih =>
    cases word with
    | nil =>
      obtain rfl := hlong.resolve_left (by simp)
      exact (Zone.digit_lt_write_iff _ 0 _).mpr rfl
    | cons digit rest =>
      exact List.cons_lt_cons_iff.mpr (.inr ⟨rfl, ih rest (by simpa using hlong)⟩)

/-- Six nines are not later than the digits of any clock. -/
theorem text_lt_of_nines {zone : Zone} (hzone : zone ≠ .utc) {word other : List (Fin 10)}
    (hnines : other.take word.length = List.replicate word.length 9) :
    word.map digitChar ++ Zone.utc.write < other.map digitChar ++ zone.write := by
  induction word generalizing other with
  | nil =>
    cases other with
    | nil => exact (Zone.utc_write_lt_iff zone).mpr hzone
    | cons digit rest => exact Zone.utc_write_lt_digit digit _
  | cons digit rest ih =>
    cases other with
    | nil => cases hnines
    | cons first more =>
      obtain ⟨hfirst, hmore⟩ := List.cons.inj hnines
      have hle : digit ≤ first := hfirst ▸ Fin.le_last digit
      rw [List.map_cons, List.map_cons, List.cons_append, List.cons_append, List.cons_lt_cons_iff,
        digitChar_lt_iff, digitChar_inj]
      exact hle.lt_or_eq.imp_right fun heq ↦ ⟨heq, ih hmore⟩

/-- What follows six nines begins with them. -/
theorem nines_of_text_lt {zone : Zone} (hzone : zone ≠ .zulu) (width : Nat) {other : List (Fin 10)}
    (hlt : (List.replicate width 9).map digitChar ++ Zone.utc.write <
      other.map digitChar ++ zone.write) : other.take width = List.replicate width 9 := by
  induction width generalizing other with
  | zero => rfl
  | succ width ih =>
    cases other with
    | nil => exact absurd ((Zone.digit_lt_write_iff zone 9 _).mp hlt) hzone
    | cons digit rest =>
      rw [List.replicate_succ, List.map_cons, List.map_cons, List.cons_append, List.cons_append,
        List.cons_lt_cons_iff, digitChar_lt_iff, digitChar_inj] at hlt
      obtain ⟨rfl, hrest⟩ := hlt.resolve_left (not_lt.mpr (Fin.le_last digit))
      rw [List.take_succ_cons, List.replicate_succ, ih hrest]

namespace UtcTime

/-- Nothing but the offset follows a full second. -/
theorem rest_of_zero {now : UtcTime} (hzero : now.microsecond = 0) :
    now.written.rest = Zone.utc.write := by
  unfold IsoTime.rest written
  rw [if_pos hzero]
  rfl

theorem rest_of_ne_zero {now : UtcTime} (hne : now.microsecond ≠ 0) :
    now.written.rest = '.' :: ((digits 6 now.microsecond).map digitChar ++ Zone.utc.write) := by
  unfold IsoTime.rest written
  rw [if_neg hne]
  rfl

end UtcTime

namespace IsoTime

variable {time : IsoTime}

/-- Against every reading of the clock, the texts compare as the moments do. -/
def ComparesAsText (time : IsoTime) : Prop :=
  ∀ now : UtcTime, now.written.text < time.text ↔ now.instant < time.instant

/-- The last second that can be written. -/
def IsLastSecond (clock : CivilTime) : Prop :=
  clock.year = 9999 ∧ clock.month = 12 ∧ clock.day = 31 ∧ clock.hour = 23 ∧ clock.minute = 59 ∧
    clock.second = 59

/-- The time is in UTC and has a digit other than zero beyond the sixth; or it ends in `+00:00` and
has no fraction, or one of at most six digits that are not all zero; or it is behind UTC and its
clock shows the last microsecond there is. -/
def Aligned (time : IsoTime) : Prop :=
  (time.zone.minutesAhead = 0 ∧ ∃ digit ∈ time.fraction.drop 6, digit ≠ 0) ∨
    (time.zone = .utc ∧ (time.fraction = [] ∨
      time.fraction.length ≤ 6 ∧ ∃ digit ∈ time.fraction, digit ≠ 0)) ∨
    (time.zone.minutesAhead < 0 ∧ IsLastSecond time.clock ∧
      time.fraction.take 6 = List.replicate 6 9)

/-- In UTC the moments compare by seconds and fractions. -/
theorem instant_lt_iff (hzero : time.zone.minutesAhead = 0) (now : UtcTime) :
    now.instant < time.instant ↔ now.clock.seconds < time.clock.seconds ∨
      now.clock.seconds = time.clock.seconds ∧
        fractionValue (digits 6 now.microsecond) < fractionValue time.fraction := by
  rw [← add_fraction_lt_iff, UtcTime.fractionValue_digits]
  unfold instant UtcTime.instant
  rw [hzero]
  simp

theorem text_lt_iff_of_now (now : UtcTime) :
    now.written.text < time.text ↔ now.clock.seconds < time.clock.seconds ∨
      now.clock.seconds = time.clock.seconds ∧ now.written.rest < time.rest :=
  text_lt_iff now.written time

theorem rest_of_fraction {digit : Fin 10} {more : List (Fin 10)}
    (hfraction : time.fraction = digit :: more) :
    time.rest = '.' :: (time.fraction.map digitChar ++ time.zone.write) := by
  unfold rest
  rw [hfraction]
  rfl

/-- A fraction follows a full second of the clock as a text. -/
theorem utc_lt_rest (hsome : time.fraction ≠ [] ∨ time.zone ≠ .utc) :
    Zone.utc.write < time.rest := by
  cases hfraction : time.fraction with
  | nil =>
    unfold rest
    rw [hfraction]
    exact (Zone.utc_write_lt_iff _).mpr (hsome.resolve_left (not_not.mpr hfraction))
  | cons digit more =>
    rw [rest_of_fraction hfraction]
    exact List.cons_lt_cons_iff.mpr (.inl (by decide))

/-- A time in UTC that is aligned compares as a text. -/
theorem comparesAsText_of_utc (hzero : time.zone.minutesAhead = 0)
    (hgood : (∃ digit ∈ time.fraction.drop 6, digit ≠ 0) ∨ (time.zone = .utc ∧
      (time.fraction = [] ∨ time.fraction.length ≤ 6 ∧ ∃ digit ∈ time.fraction, digit ≠ 0))) :
    time.ComparesAsText := by
  intro now
  rw [text_lt_iff_of_now, instant_lt_iff hzero]
  refine or_congr_right (and_congr_right fun _ ↦ ?_)
  cases hfraction : time.fraction with
  | nil =>
    have hutc : time.zone = .utc := by
      rw [hfraction] at hgood
      simpa using hgood
    have hrest : time.rest = Zone.utc.write := by
      unfold rest
      rw [hfraction, hutc]
      rfl
    refine iff_of_false ?_ (not_lt.mpr (fractionValue_nonneg _))
    rw [hrest]
    by_cases hmicro : now.microsecond = 0
    · rw [UtcTime.rest_of_zero hmicro]
      exact lt_irrefl _
    · rw [UtcTime.rest_of_ne_zero hmicro]
      exact fun hlt ↦ absurd hlt (by
        rw [not_lt]
        exact (List.cons_lt_cons_iff.mpr (.inl (by decide))).le)
  | cons digit more =>
    have hpositive : 0 < fractionValue time.fraction := by
      rw [fractionValue_pos_iff]
      rcases hgood with ⟨found, hmem, hne⟩ | ⟨-, hnil | ⟨-, hnonzero⟩⟩
      · exact ⟨found, List.mem_of_mem_drop hmem, hne⟩
      · rw [hfraction] at hnil
        cases hnil
      · exact hnonzero
    by_cases hmicro : now.microsecond = 0
    · have hclock : fractionValue (digits 6 now.microsecond) = 0 := by
        rw [UtcTime.fractionValue_digits, hmicro]
        simp
      rw [UtcTime.rest_of_zero hmicro, hclock, ← hfraction]
      exact iff_of_true (utc_lt_rest (.inl (by simp [hfraction]))) hpositive
    · rw [UtcTime.rest_of_ne_zero hmicro, rest_of_fraction hfraction, ← hfraction,
        List.cons_lt_cons_iff]
      have hdigits := fraction_text_lt_iff time.zone (digits 6 now.microsecond)
        time.fraction (by
          rw [length_digits]
          rcases hgood with hlate | ⟨hutc, hnil | ⟨hshort, -⟩⟩
          · exact .inl hlate
          · rw [hfraction] at hnil
            cases hnil
          · exact .inr ⟨hutc, hshort⟩)
      rw [← hdigits]
      simp

theorem seconds_le_of_isLastSecond {clock : CivilTime} (hlast : IsLastSecond clock)
    (other : CivilTime) : other.seconds ≤ clock.seconds := by
  obtain ⟨hyear, hmonth, hday, hhour, hminute, hsecond⟩ := hlast
  rw [← not_lt, ← CivilTime.before_iff]
  have hyears := other.year_mem
  have hmonths := other.month_mem
  have hdays := other.day_mem
  have hlength := daysInMonth_le other.year other.month
  have hhours := other.hour_lt
  have hminutes := other.minute_lt
  have hseconds := other.second_lt
  unfold CivilTime.Before
  omega

theorem daysBeforeMonth_succ (year : Nat) {month : Nat} (hmonth : 1 ≤ month) :
    daysBeforeMonth year (month + 1) = daysBeforeMonth year month + daysInMonth year month := by
  obtain ⟨before, rfl⟩ := Nat.exists_eq_add_of_le' hmonth
  rfl

/-- The day after, unless it is the last one. -/
theorem exists_next_day {clock : CivilTime}
    (hlast : ¬ (clock.year = 9999 ∧ clock.month = 12 ∧ clock.day = 31)) :
    ∃ later : CivilTime, later.days = clock.days + 1 ∧ later.hour = 0 ∧ later.minute = 0 ∧
      later.second = 0 := by
  have hyear := clock.year_mem
  have hmonth := clock.month_mem
  have hday := clock.day_mem
  by_cases hinside : clock.day < daysInMonth clock.year clock.month
  · refine ⟨⟨clock.year, clock.month, clock.day + 1, 0, 0, 0, hyear, hmonth, ⟨by omega, hinside⟩,
      by decide, by decide, by decide⟩, ?_, rfl, rfl, rfl⟩
    simp only [CivilTime.days]
    omega
  · by_cases hmonths : clock.month < 12
    · refine ⟨⟨clock.year, clock.month + 1, 1, 0, 0, 0, hyear, ⟨by omega, hmonths⟩,
        ⟨Nat.le_refl _, (by decide : 1 ≤ 28).trans (daysInMonth_le _ _).1⟩, by decide, by decide,
        by decide⟩, ?_, rfl, rfl, rfl⟩
      simp only [CivilTime.days, daysBeforeMonth_succ _ hmonth.1]
      omega
    · have hdecember : clock.month = 12 := by omega
      have hdays : daysInMonth clock.year 12 = 31 := rfl
      rw [hdecember, hdays] at hday hinside
      have hyears : clock.year + 1 < 10000 := by omega
      refine ⟨⟨clock.year + 1, 1, 1, 0, 0, 0, ⟨by omega, hyears⟩, by decide, ⟨Nat.le_refl _, by
        change 1 ≤ 31
        decide⟩, by decide, by decide, by decide⟩, ?_, rfl, rfl, rfl⟩
      have hlength := daysBeforeMonth_year clock.year
      simp only [CivilTime.days, daysBeforeYear_succ _ hyear.1, hdecember]
      rw [← hlength]
      simp only [daysBeforeMonth]
      omega

/-- Every other second has a next one. -/
theorem exists_next_second {clock : CivilTime} (hlast : ¬ IsLastSecond clock) :
    ∃ later : CivilTime, later.seconds = clock.seconds + 1 := by
  have hhour := clock.hour_lt
  have hminute := clock.minute_lt
  have hsecond := clock.second_lt
  by_cases hseconds : clock.second < 59
  · refine ⟨{ clock with second := clock.second + 1, second_lt := by omega }, ?_⟩
    simp only [CivilTime.seconds, CivilTime.days]
    omega
  · by_cases hminutes : clock.minute < 59
    · refine ⟨{ clock with
        minute := clock.minute + 1, minute_lt := by omega
        second := 0, second_lt := by decide }, ?_⟩
      simp only [CivilTime.seconds, CivilTime.days]
      omega
    · by_cases hhours : clock.hour < 23
      · refine ⟨{ clock with
          hour := clock.hour + 1, hour_lt := by omega
          minute := 0, minute_lt := by decide
          second := 0, second_lt := by decide }, ?_⟩
        simp only [CivilTime.seconds, CivilTime.days]
        omega
      · have hdate : ¬ (clock.year = 9999 ∧ clock.month = 12 ∧ clock.day = 31) := by
          rintro ⟨hyear, hmonth, hday⟩
          exact hlast ⟨hyear, hmonth, hday, by omega, by omega, by omega⟩
        obtain ⟨later, hdays, hlater⟩ := exists_next_day hdate
        refine ⟨later, ?_⟩
        simp only [CivilTime.seconds]
        omega

/-- Behind UTC, only the last microsecond compares as a text. -/
theorem comparesAsText_of_last (hbehind : time.zone.minutesAhead < 0)
    (hlast : IsLastSecond time.clock) (hnines : time.fraction.take 6 = List.replicate 6 9) :
    time.ComparesAsText := by
  intro now
  have hle := seconds_le_of_isLastSecond hlast now.clock
  have hzone : time.zone ≠ .utc := fun heq ↦ by
    rw [heq] at hbehind
    exact absurd hbehind (by decide)
  refine iff_of_true ?_ ?_
  · rw [text_lt_iff_of_now]
    refine hle.lt_or_eq.imp_right fun heq ↦ ⟨heq, ?_⟩
    cases hfraction : time.fraction with
    | nil =>
      rw [hfraction] at hnines
      cases hnines
    | cons digit more =>
      by_cases hmicro : now.microsecond = 0
      · rw [UtcTime.rest_of_zero hmicro]
        exact utc_lt_rest (.inr hzone)
      · rw [UtcTime.rest_of_ne_zero hmicro, rest_of_fraction hfraction, List.cons_lt_cons_iff]
        exact .inr ⟨rfl, text_lt_of_nines hzone (by rwa [length_digits])⟩
  · have hnow : now.instant < now.clock.seconds + 1 := by
      have hlt := fractionValue_lt_one (digits 6 now.microsecond)
      rw [UtcTime.fractionValue_digits] at hlt
      unfold UtcTime.instant
      linarith
    have hseconds : (now.clock.seconds : ℚ) ≤ time.clock.seconds := by exact_mod_cast hle
    have hoffset : (time.zone.minutesAhead : ℚ) ≤ -1 := by
      exact_mod_cast Int.le_sub_one_of_lt hbehind
    have hfraction := fractionValue_nonneg time.fraction
    unfold instant
    linarith

/-- The clock at a reading and six digits. -/
theorem instant_ofDigits (clock : CivilTime) {word : List (Fin 10)} (hlength : word.length = 6) :
    (UtcTime.ofDigits clock word hlength).instant = clock.seconds + fractionValue word := by
  have hdigits := UtcTime.fractionValue_digits (UtcTime.ofDigits clock word hlength)
  have hword : digits 6 (numeral word) = word := hlength ▸ digits_numeral word
  unfold UtcTime.instant
  rw [← hdigits]
  change _ + fractionValue (digits 6 (numeral word)) = _
  rw [hword]
  rfl

/-- The text of the clock at a reading and six digits. -/
theorem rest_ofDigits (clock : CivilTime) {word : List (Fin 10)} (hlength : word.length = 6)
    (hne : numeral word ≠ 0) :
    (UtcTime.ofDigits clock word hlength).written.rest =
      '.' :: (word.map digitChar ++ Zone.utc.write) := by
  have hword : digits 6 (numeral word) = word := hlength ▸ digits_numeral word
  have hrest : (UtcTime.ofDigits clock word hlength).written.rest =
      '.' :: ((digits 6 (numeral word)).map digitChar ++ Zone.utc.write) :=
    UtcTime.rest_of_ne_zero hne
  rw [hrest, hword]

/-- Ahead of UTC, the full second of the clock comes between text and moment. -/
theorem not_comparesAsText_of_ahead (hahead : 0 < time.zone.minutesAhead) :
    ¬ time.ComparesAsText := by
  intro hcompares
  have hzone : time.zone ≠ .utc := fun heq ↦ by
    rw [heq] at hahead
    exact absurd hahead (by decide)
  have hlength : (List.replicate 6 (0 : Fin 10)).length = 6 := rfl
  have hnow := hcompares (UtcTime.ofDigits time.clock _ hlength)
  rw [text_lt_iff_of_now, instant_ofDigits] at hnow
  have htext : (UtcTime.ofDigits time.clock _ hlength).written.rest < time.rest := by
    rw [UtcTime.rest_of_zero (by rfl)]
    exact utc_lt_rest (.inr hzone)
  have hlater := hnow.mp (.inr ⟨rfl, htext⟩)
  have hoffset : (1 : ℚ) ≤ time.zone.minutesAhead := by exact_mod_cast hahead
  have hfraction := fractionValue_lt_one time.fraction
  have hnonneg := fractionValue_nonneg (List.replicate 6 (0 : Fin 10))
  unfold instant at hlater
  linarith

/-- Behind UTC, the last microsecond of the second, or the next second, tells them apart. -/
theorem last_of_behind (hbehind : time.zone.minutesAhead < 0) (hcompares : time.ComparesAsText) :
    IsLastSecond time.clock ∧ time.fraction.take 6 = List.replicate 6 9 := by
  have hoffset : (time.zone.minutesAhead : ℚ) ≤ -1 := by exact_mod_cast Int.le_sub_one_of_lt hbehind
  have hfraction := fractionValue_nonneg time.fraction
  constructor
  · by_contra hlast
    obtain ⟨later, hlater⟩ := exists_next_second hlast
    have hlength : (List.replicate 6 (0 : Fin 10)).length = 6 := rfl
    have hnow := hcompares (UtcTime.ofDigits later _ hlength)
    rw [text_lt_iff_of_now, instant_ofDigits] at hnow
    have hzero := fractionValue_lt_one (List.replicate 6 (0 : Fin 10))
    have hseconds : (later.seconds : ℚ) = time.clock.seconds + 1 := by exact_mod_cast hlater
    have htext := hnow.mpr (by
      unfold instant
      linarith)
    change later.seconds < _ ∨ later.seconds = _ ∧ _ at htext
    omega
  · have hlength : (List.replicate 6 (9 : Fin 10)).length = 6 := rfl
    have hnow := hcompares (UtcTime.ofDigits time.clock _ hlength)
    rw [text_lt_iff_of_now, instant_ofDigits, rest_ofDigits _ _ (by decide)] at hnow
    have hnines := fractionValue_lt_one (List.replicate 6 (9 : Fin 10))
    have htext := hnow.mpr (by
      unfold instant
      linarith)
    obtain ⟨-, hrest⟩ := htext.resolve_left (lt_irrefl _)
    have hzone : time.zone ≠ .zulu := fun heq ↦ by
      rw [heq] at hbehind
      exact absurd hbehind (by decide)
    cases hcase : time.fraction with
    | nil =>
      have hplain : time.rest = time.zone.write := by
        unfold rest
        rw [hcase]
        rfl
      rw [hplain] at hrest
      cases hwritten : time.zone with
      | zulu => exact absurd hwritten hzone
      | ahead hours minutes hhours hminutes =>
        rw [hwritten, Zone.write, List.cons_lt_cons_iff] at hrest
        exact absurd hrest (by simp)
      | behind hours minutes hhours hminutes hpos =>
        rw [hwritten, Zone.write, List.cons_lt_cons_iff] at hrest
        exact absurd hrest (by simp)
    | cons digit more =>
      rw [rest_of_fraction hcase, List.cons_lt_cons_iff] at hrest
      rw [← hcase]
      exact nines_of_text_lt hzone 6 (hrest.resolve_left (lt_irrefl _)).2

/-- In UTC, the microsecond in which the time lies tells text and moment apart. -/
theorem aligned_of_utc (hzero : time.zone.minutesAhead = 0) (hcompares : time.ComparesAsText) :
    (∃ digit ∈ time.fraction.drop 6, digit ≠ 0) ∨ (time.zone = .utc ∧
      (time.fraction = [] ∨ time.fraction.length ≤ 6 ∧ ∃ digit ∈ time.fraction, digit ≠ 0)) := by
  by_cases hextra : ∃ digit ∈ time.fraction.drop 6, digit ≠ 0
  · exact .inl hextra
  right
  have hlength := length_padTo 6 time.fraction
  have hvalue := fractionValue_padTo 6 time.fraction hextra
  -- The clock at this microsecond shows the same moment, so its text must not be earlier.
  have hrest : ¬ (UtcTime.ofDigits time.clock _ hlength).written.rest < time.rest := by
    intro hlt
    have hlater := (hcompares (UtcTime.ofDigits time.clock _ hlength)).mp
      ((text_lt_iff_of_now _).mpr (.inr ⟨rfl, hlt⟩))
    rw [instant_ofDigits, hvalue] at hlater
    unfold instant at hlater
    rw [hzero] at hlater
    simp at hlater
  by_cases hmicro : numeral (padTo 6 time.fraction) = 0
  · have hplain : (UtcTime.ofDigits time.clock _ hlength).written.rest = Zone.utc.write :=
      UtcTime.rest_of_zero hmicro
    rw [hplain] at hrest
    have hutc : time.zone = .utc := by
      by_contra hzone
      exact hrest (utc_lt_rest (.inr hzone))
    refine ⟨hutc, .inl ?_⟩
    by_contra hsome
    exact hrest (utc_lt_rest (.inl hsome))
  · have hpositive : ∃ digit ∈ time.fraction, digit ≠ 0 := by
      rw [← fractionValue_pos_iff, ← hvalue, fractionValue_eq]
      have hnumeral : (0 : ℚ) < numeral (padTo 6 time.fraction) := by
        exact_mod_cast Nat.pos_of_ne_zero hmicro
      positivity
    obtain ⟨digit, more, hfraction⟩ : ∃ digit more, time.fraction = digit :: more := by
      obtain ⟨digit, hmem, -⟩ := hpositive
      exact List.exists_cons_of_ne_nil (List.ne_nil_of_mem hmem)
    rw [rest_ofDigits _ hlength hmicro, rest_of_fraction hfraction, List.cons_lt_cons_iff] at hrest
    have hnot (hlong : 6 < time.fraction.length ∨ time.zone = .zulu) : False :=
      hrest (.inr ⟨rfl, padTo_text_lt 6 time.fraction hlong⟩)
    have hutc := (Zone.eq_of_minutesAhead hzero).resolve_left fun hzulu ↦ hnot (.inr hzulu)
    exact ⟨hutc, .inr ⟨not_lt.mp fun hlong ↦ hnot (.inl hlong), hpositive⟩⟩

/-- For which written times the order as texts is the order of the moments. -/
theorem comparesAsText_iff (time : IsoTime) : time.ComparesAsText ↔ time.Aligned := by
  constructor
  · intro hcompares
    rcases lt_trichotomy time.zone.minutesAhead 0 with hbehind | hzero | hahead
    · exact .inr (.inr ⟨hbehind, last_of_behind hbehind hcompares⟩)
    · rcases aligned_of_utc hzero hcompares with hextra | hutc
      · exact .inl ⟨hzero, hextra⟩
      · exact .inr (.inl hutc)
    · exact absurd hcompares (not_comparesAsText_of_ahead hahead)
  · rintro (⟨hzero, hextra⟩ | hutc | ⟨hbehind, hlast, hnines⟩)
    · exact comparesAsText_of_utc hzero (.inl hextra)
    · refine comparesAsText_of_utc ?_ (.inr hutc)
      rw [hutc.1]
      rfl
    · exact comparesAsText_of_last hbehind hlast hnines

end IsoTime

end AgentRuntime.Library
