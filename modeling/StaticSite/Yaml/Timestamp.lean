import StaticSite.Calendar.Moment
import StaticSite.Yaml.Cursor

/-!
# Timestamps

A date of four, two and two digits, perhaps with a time of day, and with that perhaps a zone. What
is not only spelled like a date may leave out the zeros of month and day.
-/

set_option autoImplicit false

namespace StaticSite.Yaml

open StaticSite.Calendar

/-- Whether characters are digits, one at least. -/
def areDigits (s : List Char) : Bool :=
  !s.isEmpty && s.all Char.isDigit

/-- A zone as it is written: to the east of universal time or not, and how far. -/
structure Zone where
  name : String
  isEast : Bool := true
  hours : Nat := 0
  minutes : Nat := 0
deriving DecidableEq, Repr

/-- The parts of a date with a time, before it is known whether they make sense. -/
structure Timestamp where
  year : Nat
  month : Nat
  day : Nat
  /-- Whether month and day have two digits each. -/
  isFull : Bool
  /-- Hours, minutes, seconds, and the digits of the fraction. -/
  clock : Option (Nat × Nat × Nat × List Char) := none
  zone : Option Zone := none

/-- The number that decimal digits write. -/
def decimal (digits : List Char) : Nat :=
  digits.foldl (fun n c => 10 * n + (c.toNat - 0x30)) 0

/-- A given number of digits. -/
def exactDigits? (count : Nat) (s : List Char) : Option (Nat × List Char) :=
  if areDigits (s.take count) && (s.take count).length = count then
    some (decimal (s.take count), s.drop count)
  else none

/-- One or two digits. -/
def fewDigits? (s : List Char) : Option (Nat × List Char) :=
  (exactDigits? 2 s).orElse fun _ => exactDigits? 1 s

/-- A character that has to come next. -/
def afterChar? (c : Char) : List Char → Option (List Char)
  | d :: rest => if c = d then some rest else none
  | [] => none

/-- The zone at the end of a time, if there is one. -/
def readZone? (s : List Char) : Option (Option Zone) :=
  match s.dropWhile fun c => c = ' ' || c = '\t' with
  | [] => if s.isEmpty then some none else none
  | ['Z'] => some (some { name := "Z" })
  | sign :: rest => do
    guard (sign = '+' || sign = '-')
    let zone : Zone := { name := String.ofList (sign :: rest), isEast := sign = '+' }
    let (hours, rest) ← fewDigits? rest
    match rest with
    | [] => some (some { zone with hours := hours })
    | ':' :: rest => do
      let (minutes, rest) ← exactDigits? 2 rest
      guard rest.isEmpty
      some (some { zone with hours := hours, minutes := minutes })
    | _ => none

/-- The parts of a date, maybe with a time. -/
def readTimestamp? (s : List Char) : Option Timestamp := do
  let (year, rest) ← exactDigits? 4 s
  let rest ← afterChar? '-' rest
  let (month, afterMonth) ← fewDigits? rest
  let rest ← afterChar? '-' afterMonth
  let (day, afterDay) ← fewDigits? rest
  let date : Timestamp :=
    { year := year, month := month, day := day, isFull := s.length - afterDay.length = 10 }
  match afterDay with
  | [] => some date
  | c :: rest => do
    guard (c = 'T' || c = 't' || c = ' ' || c = '\t')
    let rest := if c = ' ' || c = '\t' then rest.dropWhile (fun c => c = ' ' || c = '\t') else rest
    let (hour, rest) ← fewDigits? rest
    let rest ← afterChar? ':' rest
    let (minute, rest) ← exactDigits? 2 rest
    let rest ← afterChar? ':' rest
    let (second, rest) ← exactDigits? 2 rest
    let (fraction, rest) := match rest with
      | '.' :: rest => rest.span Char.isDigit
      | rest => ([], rest)
    let zone ← readZone? rest
    some { date with clock := some (hour, minute, second, fraction), zone := zone }

/-- Whether a text is spelled like a date or a time. -/
def isTimestamp (s : List Char) : Bool :=
  (readTimestamp? s).any fun t => t.clock.isSome || t.isFull

/-! ## Moments -/

/-- Millionths of a second from the digits of a fraction; the seventh digit rounds. -/
def millionths (fraction : List Char) : Nat :=
  decimal ((fraction ++ List.replicate 6 '0').take 6) +
    (if (fraction[6]?).any fun c => '4' < c then 1 else 0)

/-- How far a zone is away from universal time, which has to be less than a day. -/
def Zone.offset? (zone : Zone) : Option Offset :=
  let seconds := 3600 * zone.hours + 60 * zone.minutes
  if seconds < 86400 then some { east := zone.isEast || seconds = 0, seconds := seconds } else none

/-- The moment of a time on a date. A fraction that rounds up to a second makes it a second later.
-/
def Timestamp.moment (stamp : Timestamp) (date : Date) (hour minute second : Nat)
    (fraction : List Char) : Except YamlError Moment :=
  let offset := stamp.zone.map Zone.offset?
  if 23 < hour || 59 < minute || 59 < second || offset = some none then .error .badValue
  else
    let parts := millionths fraction
    let moment : Moment :=
      { date := date, hour := hour, minute := minute, second := second
        microsecond := parts % 1000000, offset := offset.join }
    if parts < 1000000 then .ok moment
    else match moment.shift? 1 with
      | some later => .ok later
      | none => .error .noMoment

end StaticSite.Yaml
