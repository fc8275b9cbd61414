import StaticSite.Calendar.Moment

/-!
# Timestamps

Moments as authors and programs write them: a date, one character of any kind, a time of day, and
perhaps an offset. A date is written with its month and day or with its week and weekday, with or
without hyphens; a time of day with or without colons, the later parts left out, the seconds with a
fraction after a point or a comma. Where the date ends is settled first, from its fifth and sixth
characters.

A place past the end of the text reads as a null character.
-/

set_option autoImplicit false

namespace StaticSite.Calendar.Timestamp

/-- The character at a place. -/
def charAt (s : Array Char) (i : Nat) : Char :=
  s.getD i '\x00'

/-- Reads a number of ASCII digits at a place. -/
def readDigits? (s : Array Char) (i count : Nat) : Option Nat :=
  let digits := (s.extract i (i + count)).toList
  if digits.length = count && digits.all Char.isDigit then
    some (digits.foldl (fun n c => 10 * n + (c.toNat - '0'.toNat)) 0)
  else none

/-- The first place from `i` on that holds no ASCII digit. -/
def afterDigits (s : Array Char) (i : Nat) : Nat :=
  i + ((s.toList.drop i).takeWhile Char.isDigit).length

/-! ## Dates -/

/-- Where the date ends. A week may be followed by a weekday or by the time of day: if digits follow
without a hyphen, an odd number of them begins with a weekday, and if a hyphen and two digits
follow, these are hours. -/
def dateEnd? (s : Array Char) : Option Nat :=
  if s.size = 7 then some 7
  else if charAt s 4 = '-' then
    if charAt s 5 = 'W' then
      if s.size < 8 then none
      else if charAt s 8 = '-' then
        if s.size = 9 then none
        else if (charAt s 10).isDigit then some 8
        else some 10
      else some 8
    else some 10
  else if charAt s 4 = 'W' then
    let next := afterDigits s 7
    if next < 9 then some next else if next % 2 = 0 then some 7 else some 8
  else some 8

/-- The days of the week from Monday on, as the number of days since the Monday before a date. -/
def weekday (d : Date) : Nat :=
  (d.marchDays + 2) % 7

/-- The date of a weekday, from 1 on, in a week of a year. The first week holds the fourth of
January, and only a year that begins or ends with a Thursday has a week 53. -/
def dateOfWeek? (year week day : Nat) : Option Date :=
  let first := weekday ⟨year, 1, 1⟩
  let weeks := if first = 3 || (first = 2 && isLeap year) then 53 else 52
  if year = 0 || week = 0 || weeks < week || day = 0 || 7 < day then none
  else
    let january : Date := ⟨year, 1, 4⟩
    some (Date.ofMarchDays (january.marchDays - weekday january + 7 * (week - 1) + (day - 1)))

/-- Reads a date, which ends at a place. -/
def readDate? (s : Array Char) (stop : Nat) : Option Date := do
  let year ← readDigits? s 0 4
  let hyphens := charAt s 4 = '-'
  let i := if hyphens then 5 else 4
  if charAt s i = 'W' then
    let week ← readDigits? s (i + 1) 2
    if i + 3 < stop then
      if hyphens && charAt s (i + 3) != '-' then none
      else dateOfWeek? year week (← readDigits? s (if hyphens then i + 4 else i + 3) 1)
    else dateOfWeek? year week 1
  else
    let month ← readDigits? s i 2
    if hyphens && charAt s (i + 2) != '-' then none
    else
      let day ← readDigits? s (if hyphens then i + 3 else i + 2) 2
      some ⟨year, month, day⟩

/-! ## Times of day -/

/-- The parts of a time of day, and whether nothing follows them. -/
structure ClockReading where
  parts : List Nat
  microsecond : Nat := 0
  isWhole : Bool

/-- How a time of day goes on after a part of two digits. -/
inductive Continuation where
  | stop (isWhole : Bool)
  | part (i : Nat)
  | fraction (i : Nat)
  | malformed

/-- Looks at what stands after a part. One character may stand between the last part and the end of
the time of day, but it does not belong to it. -/
def continuation (s : Array Char) (stop : Nat) (colons : Bool) (i : Nat) : Continuation :=
  let c := charAt s i
  if 127 < c.toNat then .malformed
  else if stop ≤ i + 1 then .stop (c = '\x00')
  else if colons && c = ':' then .part (i + 1)
  else if c = '.' || c = ',' then .fraction (i + 1)
  else if !colons then .part i
  else .malformed

/-- Reads a fraction of a second in millionths; further digits are passed over. -/
def readFraction? (s : Array Char) (stop i : Nat) : Option ClockReading := do
  let count := min (stop - i) 6
  let digits ← readDigits? s i count
  some
    { parts := []
      microsecond := digits * Nat.pow 10 (6 - count)
      isWhole := charAt s (afterDigits s (i + count)) = '\x00' }

/-- Reads up to `count` parts and a fraction. -/
def readParts? (s : Array Char) (stop : Nat) (colons : Bool) :
    (count : Nat) → Nat → Option ClockReading
  | 0, i => readFraction? s stop i
  | count + 1, i => do
    let value ← readDigits? s i 2
    let rest ← match continuation s stop colons (i + 2) with
      | .stop isWhole => some { parts := [], isWhole := isWhole }
      | .fraction i => readFraction? s stop i
      | .part i => readParts? s stop colons count i
      | .malformed => none
    some { rest with parts := value :: rest.parts }

/-- Reads a time of day between two places. Colons stand between all parts or between none. -/
def readClock? (s : Array Char) (start stop : Nat) : Option ClockReading :=
  readParts? s stop (charAt s (start + 2) = ':') 3 start

/-- Hours, minutes and seconds in seconds. -/
def ClockReading.seconds (clock : ClockReading) : Nat :=
  3600 * clock.parts.getD 0 0 + 60 * clock.parts.getD 1 0 + clock.parts.getD 2 0

/-! ## Moments -/

/-- The offset that a sign and a time of day stand for: less than a day. A fraction of less than a
second alone says nothing. -/
def offset? (east : Bool) (clock : ClockReading) : Option Offset :=
  if !clock.isWhole || 86400 ≤ clock.seconds then none
  else if clock.seconds = 0 then some {}
  else some { east := east, seconds := clock.seconds, microsecond := clock.microsecond }

/-- Whether a character begins an offset. -/
def beginsOffset (c : Char) : Bool :=
  c = '+' || c = '-' || c = 'Z'

/-- The moment of a date and a time of day, if both exist. -/
def moment? (date : Date) (clock : ClockReading) (offset : Option Offset) : Option Moment :=
  let hour := clock.parts.getD 0 0
  let minute := clock.parts.getD 1 0
  let second := clock.parts.getD 2 0
  if date.isValid && hour < 24 && minute < 60 && second < 60 then
    some { date := date, hour := hour, minute := minute, second := second,
           microsecond := clock.microsecond, offset := offset }
  else none

/-- The moment that a text writes, if it writes one. -/
def read? (text : String) : Option Moment := do
  let s := text.toList.toArray
  let dateEnd ← dateEnd? s
  let date ← readDate? s dateEnd
  if s.size ≤ dateEnd then moment? date { parts := [], isWhole := true } none
  else
    let start := dateEnd + 1
    let stop := start + ((s.toList.drop start).takeWhile (!beginsOffset ·)).length
    let clock ← readClock? s start stop
    if s.size ≤ stop then
      if clock.isWhole then moment? date clock none else none
    else if charAt s stop = 'Z' then
      if charAt s (stop + 1) = '\x00' then moment? date clock (some {}) else none
    else
      let offset ← offset? (charAt s stop = '+') (← readClock? s (stop + 1) s.size)
      moment? date clock (some offset)

end StaticSite.Calendar.Timestamp
