import StaticSite.Calendar.Date

/-!
# Moments

A date with a time of day, and perhaps the distance from universal time at which it is meant. Feeds
say when they were last changed in this form.
-/

set_option autoImplicit false

namespace StaticSite.Calendar

/-- A distance from universal time, in seconds and millionths of a second. -/
structure Offset where
  east : Bool := true
  seconds : Nat := 0
  microsecond : Nat := 0
deriving DecidableEq, Repr

/-- A date with a time of day. -/
structure Moment where
  date : Date
  hour : Nat := 0
  minute : Nat := 0
  second : Nat := 0
  microsecond : Nat := 0
  offset : Option Offset := none
deriving DecidableEq, Repr

/-- An offset as text: hours and minutes, and seconds and their fraction where there are any. -/
def Offset.text (o : Offset) : String :=
  let rest := o.seconds % 60
  (if o.east then "+" else "-") ++ padded 2 (o.seconds / 3600) ++ ":" ++
    padded 2 (o.seconds / 60 % 60) ++
    (if rest = 0 && o.microsecond = 0 then "" else ":" ++ padded 2 rest) ++
    (if o.microsecond = 0 then "" else "." ++ padded 6 o.microsecond)

namespace Moment

/-- The beginning of a date in universal time. -/
def midnight (date : Date) : Moment :=
  { date := date, offset := some {} }

/-- The time of day as text; fractions of a second are written where there are any. -/
def clockText (m : Moment) : String :=
  padded 2 m.hour ++ ":" ++ padded 2 m.minute ++ ":" ++ padded 2 m.second ++
    (if m.microsecond = 0 then "" else "." ++ padded 6 m.microsecond)

/-- A moment as text. -/
def text (m : Moment) : String :=
  m.date.text ++ "T" ++ m.clockText ++ ((m.offset.map Offset.text).getD "")

/-- The seconds from the beginning of March of the year 0 to a moment. -/
def marchSeconds (m : Moment) : Int :=
  Int.ofNat (m.date.marchDays * 86400 + m.hour * 3600 + m.minute * 60 + m.second)

/-- The moment some seconds later, if the calendar reaches that far. -/
def shift? (m : Moment) (seconds : Int) : Option Moment :=
  let total := m.marchSeconds + seconds
  if total < 0 then none
  else
    let clock := total.toNat % 86400
    let date := Date.ofMarchDays (total.toNat / 86400)
    if date.isValid then
      some { m with
        date := date, hour := clock / 3600, minute := clock / 60 % 60, second := clock % 60 }
    else none

/-- The millionths of a second by which a distance is to the east. -/
def eastward (o : Offset) : Int :=
  let distance := Int.ofNat (o.seconds * 1000000 + o.microsecond)
  if o.east then distance else -distance

/-- Whether two moments are the same. In universal time moments of different zones may be; a moment
without a zone is the same only as another one without. -/
def isSame (m n : Moment) : Bool :=
  let clock (m : Moment) : Int := m.marchSeconds * 1000000 + Int.ofNat m.microsecond
  match m.offset, n.offset with
  | some o, some p => clock m - eastward o = clock n - eastward p
  | none, none => clock m = clock n
  | _, _ => false

end Moment

end StaticSite.Calendar
