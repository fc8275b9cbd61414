import StaticSite.Text.Integer

/-!
# Dates

Calendar dates of the years 1 to 9999. A date is written with four, two and two digits. It is read
more freely: the month and the day may have one digit, the digits may be of any script where the
first digit leaves a choice, and a day below ten may stand after a space.
-/

set_option autoImplicit false

namespace StaticSite.Calendar

open StaticSite.Text

/-- A calendar date. -/
structure Date where
  year : Nat
  month : Nat
  day : Nat
deriving DecidableEq, Repr

/-- Why a time has no date. -/
inductive TimeFault where
  /-- The calendar does not reach that far. -/
  | calendar
  /-- The year is too far away to be counted. -/
  | year
  /-- The time is too far away to be counted. -/
  | time
deriving DecidableEq, Repr

/-- Whether a year has a leap day. -/
def isLeap (year : Nat) : Bool :=
  year % 4 = 0 && (year % 100 != 0 || year % 400 = 0)

/-- The number of days of a month. -/
def daysInMonth (year month : Nat) : Nat :=
  if month = 2 then (if isLeap year then 29 else 28)
  else if month = 4 || month = 6 || month = 9 || month = 11 then 30
  else 31

/-- A number with leading zeros up to a width. -/
def padded (width n : Nat) : String :=
  let digits := Nat.toDigits 10 n
  String.ofList (List.replicate (width - digits.length) '0' ++ digits)

namespace Date

/-- Whether a date exists. -/
def isValid (d : Date) : Bool :=
  1 ≤ d.year && d.year ≤ 9999 && 1 ≤ d.month && d.month ≤ 12 && 1 ≤ d.day &&
    d.day ≤ daysInMonth d.year d.month

/-- A date as text. -/
def text (d : Date) : String :=
  padded 4 d.year ++ "-" ++ padded 2 d.month ++ "-" ++ padded 2 d.day

/-- What dates are ordered by. -/
def sortKey (d : Date) : List Nat :=
  [d.year, d.month, d.day]

/-- The later of two dates. -/
def latest (d e : Date) : Date :=
  if d.sortKey < e.sortKey then e else d

/-! ## Days since the beginning of 1970 -/

/-- The date a number of days after the beginning of March of the year 0, counting years from March
on so that leap days come last. -/
def ofMarchDays (days : Nat) : Date :=
  let era := days / 146097
  let dayOfEra := days % 146097
  let yearOfEra := (dayOfEra - dayOfEra / 1460 + dayOfEra / 36524 - dayOfEra / 146096) / 365
  let dayOfYear := dayOfEra - (365 * yearOfEra + yearOfEra / 4 - yearOfEra / 100)
  let shifted := (5 * dayOfYear + 2) / 153
  let day := dayOfYear - (153 * shifted + 2) / 5 + 1
  let month := if shifted < 10 then shifted + 3 else shifted - 9
  let year := yearOfEra + era * 400 + (if month ≤ 2 then 1 else 0)
  ⟨year, month, day⟩

/-- The number of days of a date after the beginning of March of the year 0, for dates not before
it. -/
def marchDays (d : Date) : Nat :=
  let year := if d.month ≤ 2 then d.year - 1 else d.year
  let shifted := if d.month ≤ 2 then d.month + 9 else d.month - 3
  365 * year + year / 4 - year / 100 + year / 400 + (153 * shifted + 2) / 5 + d.day - 1

/-- The beginning of a year in seconds since the beginning of 1970. -/
def yearStart (year : Int) : Int :=
  let past := year - 1
  86400 * (365 * (year - 1970) + past.fdiv 4 - past.fdiv 100 + past.fdiv 400 - 477)

/-- The date of a time in seconds since the beginning of 1970. Times are counted in 64 bits, and the
years since 1900 in 32 bits. -/
def ofSeconds (seconds : Int) : Except TimeFault Date :=
  if seconds < -0x8000000000000000 || 0x8000000000000000 ≤ seconds then .error .time
  else if seconds < yearStart (1900 - 0x80000000) || yearStart (1900 + 0x80000000) ≤ seconds then
    .error .year
  else
    let days := seconds.fdiv 86400 + 719468
    let date := ofMarchDays days.toNat
    if 0 ≤ days && date.isValid then .ok date else .error .calendar

/-! ## Reading -/

/-- Reads a year: four digits. -/
def readYear? : List Char → Option (Nat × List Char)
  | a :: b :: c :: d :: rest =>
    match digitValue? a, digitValue? b, digitValue? c, digitValue? d with
    | some a, some b, some c, some d => some (1000 * a + 100 * b + 10 * c + d, rest)
    | _, _, _, _ => none
  | _ => none

/-- The value of an ASCII digit other than zero. -/
def nonzeroDigit? (c : Char) : Option Nat :=
  if '1' ≤ c && c ≤ '9' then some (c.toNat - '0'.toNat) else none

/-- Reads a month: two digits if they name one, or else one digit. -/
def readMonth? : List Char → Option (Nat × List Char)
  | '1' :: '0' :: rest => some (10, rest)
  | '1' :: '1' :: rest => some (11, rest)
  | '1' :: '2' :: rest => some (12, rest)
  | '0' :: c :: rest => (nonzeroDigit? c).map (·, rest)
  | c :: rest => (nonzeroDigit? c).map (·, rest)
  | [] => none

/-- Reads a day at the front: two digits if they name one, or else one digit, maybe after a space.
-/
def readDay? : List Char → Option (Nat × List Char)
  | '3' :: '0' :: rest => some (30, rest)
  | '3' :: '1' :: rest => some (31, rest)
  | '0' :: c :: rest => (nonzeroDigit? c).map (·, rest)
  | ' ' :: c :: rest => (nonzeroDigit? c).map (·, rest)
  | c :: rest =>
    match nonzeroDigit? c, rest with
    | some tens, d :: more =>
      match digitValue? d with
      | some ones => if tens ≤ 2 then some (10 * tens + ones, more) else some (tens, rest)
      | none => some (tens, rest)
    | first, _ => first.map (·, rest)
  | [] => none

/-- The date that a text writes, if it writes one. -/
def ofString? (s : String) : Option Date :=
  match readYear? s.toList with
  | some (year, '-' :: rest) =>
    match readMonth? rest with
    | some (month, '-' :: rest) =>
      match readDay? rest with
      | some (day, []) => if isValid ⟨year, month, day⟩ then some ⟨year, month, day⟩ else none
      | _ => none
    | _ => none
  | _ => none

end Date

end StaticSite.Calendar
