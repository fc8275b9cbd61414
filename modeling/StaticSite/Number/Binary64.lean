/-!
# Double-precision numbers

A number of double precision is a sign, a whole mantissa and a power of two; not-a-number and the
infinities are kept apart. Reading rounds a decimal to the nearest such number, a tie to the even
mantissa. Writing gives the fewest digits that read back as the same number. All arithmetic is
exact arithmetic of whole numbers.
-/

set_option autoImplicit false

namespace StaticSite.Number

/-- A number of double precision. A finite one is `mantissa * 2 ^ exponent`, negated if `negative`.
-/
inductive Binary64 where
  | nan
  | infinity (negative : Bool)
  | finite (negative : Bool) (mantissa : Nat) (exponent : Int)
deriving DecidableEq, Repr

namespace Binary64

/-- The quotient rounded to the nearest whole number, a tie to the even one. -/
def roundDiv (num den : Nat) : Nat :=
  let q := num / den
  let r := num % den
  if 2 * r < den then q
  else if den < 2 * r then q + 1
  else if q % 2 = 0 then q else q + 1

/-- A positive ratio as numerator and denominator after division by a power of two. -/
def scaleDown (num den : Nat) (exponent : Int) : Nat × Nat :=
  match exponent with
  | .ofNat e => (num, den * Nat.pow 2 e)
  | .negSucc e => (num * Nat.pow 2 (e + 1), den)

/-- The double nearest to a ratio. -/
def ofRatio (negative : Bool) (num den : Nat) : Binary64 :=
  if num = 0 then finite negative 0 0
  else
    let guess : Int := Int.ofNat num.log2 - Int.ofNat den.log2 - 53
    let (n, d) := scaleDown num den guess
    let exponent := max (if Nat.pow 2 53 ≤ n / d then guess + 1 else guess) (-1074)
    let (n, d) := scaleDown num den exponent
    let mantissa := roundDiv n d
    let (mantissa, exponent) :=
      if mantissa = Nat.pow 2 53 then (Nat.pow 2 52, exponent + 1) else (mantissa, exponent)
    if mantissa = 0 then finite negative 0 0
    else if 971 < exponent then infinity negative
    else finite negative mantissa exponent

/-- The number of decimal digits of a whole number. -/
def decimalLength (n : Nat) : Nat :=
  (Nat.toDigits 10 n).length

/-- The double nearest to `digits * 10 ^ exponent`. Magnitudes far outside the range are settled
without computing the power. -/
def ofDecimal (negative : Bool) (digits : Nat) (exponent : Int) : Binary64 :=
  let magnitude := Int.ofNat (decimalLength digits) + exponent
  if digits = 0 ∨ magnitude < -400 then finite negative 0 0
  else if 400 < magnitude then infinity negative
  else match exponent with
    | .ofNat e => ofRatio negative (digits * Nat.pow 10 e) 1
    | .negSucc e => ofRatio negative digits (Nat.pow 10 (e + 1))

/-- The whole part of a finite number; the fraction is cut off. -/
def wholePart? : Binary64 → Option Int
  | nan => none
  | infinity _ => none
  | finite negative mantissa exponent =>
    let magnitude := match exponent with
      | .ofNat e => mantissa * Nat.pow 2 e
      | .negSucc e => mantissa / Nat.pow 2 (e + 1)
    some (if negative then -Int.ofNat magnitude else Int.ofNat magnitude)

/-- The greatest whole number that is not above a finite number. -/
def floor? : Binary64 → Option Int
  | nan => none
  | infinity _ => none
  | finite negative mantissa exponent =>
    let signed := if negative then -Int.ofNat mantissa else Int.ofNat mantissa
    match exponent with
    | .ofNat e => some (signed * Int.ofNat (Nat.pow 2 e))
    | .negSucc e => some (signed.fdiv (Int.ofNat (Nat.pow 2 (e + 1))))

/-- The number with the other sign. -/
def neg : Binary64 → Binary64
  | nan => nan
  | infinity negative => infinity (!negative)
  | finite negative mantissa exponent => finite (!negative) mantissa exponent

/-- Whether a number is zero. -/
def isZero : Binary64 → Bool
  | finite _ mantissa _ => mantissa == 0
  | _ => false

/-- The ratio that a mantissa and a power of two stand for. -/
def toRatio (mantissa : Nat) (exponent : Int) : Nat × Nat :=
  match exponent with
  | .ofNat e => (mantissa * Nat.pow 2 e, 1)
  | .negSucc e => (mantissa, Nat.pow 2 (e + 1))

/-- The product of two numbers. -/
def mul : Binary64 → Binary64 → Binary64
  | finite s a x, finite t b y =>
    let (num, den) := toRatio (a * b) (x + y)
    ofRatio (s != t) num den
  | nan, _ => nan
  | _, nan => nan
  | infinity s, infinity t => infinity (s != t)
  | infinity s, finite t b _ => if b = 0 then nan else infinity (s != t)
  | finite s a _, infinity t => if a = 0 then nan else infinity (s != t)

/-- A finite number as a multiple of a power of two that is not above its own. -/
def multiple (negative : Bool) (mantissa : Nat) (exponent power : Int) : Int :=
  let magnitude := Int.ofNat (mantissa * Nat.pow 2 (exponent - power).toNat)
  if negative then -magnitude else magnitude

/-- The sum of two numbers. A sum of zero is negative only if both are. -/
def add : Binary64 → Binary64 → Binary64
  | finite s a x, finite t b y =>
    let power := min x y
    let sum := multiple s a x power + multiple t b y power
    let (num, den) := toRatio sum.natAbs power
    ofRatio (if sum = 0 then s && t else sum < 0) num den
  | nan, _ => nan
  | _, nan => nan
  | infinity s, infinity t => if s = t then infinity s else nan
  | infinity s, finite _ _ _ => infinity s
  | finite _ _ _, infinity t => infinity t

/-- The least `j ≥ 1` with `den ≤ num * 10 ^ j`, searched in a number of steps. -/
def leadingZeros (den : Nat) : (steps num j : Nat) → Nat
  | 0, _, j => j
  | steps + 1, num, j => if den ≤ num * 10 then j else leadingZeros den steps (num * 10) (j + 1)

/-- The power of ten of the leading digit of a positive ratio. -/
def leadingPower (num den : Nat) : Int :=
  if den ≤ num then Int.ofNat (decimalLength (num / den)) - 1
  else -Int.ofNat (leadingZeros den 400 num 1)

/-- The two neighbours of a positive ratio among the multiples of `10 ^ power`, given as the lower
multiple and the comparison of the ratio with the middle between the two. -/
def decimalNeighbours (num den : Nat) (power : Int) : Nat × Ordering :=
  let (n, d) := match power with
    | .ofNat p => (num, den * Nat.pow 10 p)
    | .negSucc p => (num * Nat.pow 10 (p + 1), den)
  (n / d, compare (2 * (n % d)) d)

/-- The shortest digits that read back as the number, with the power of ten of the last digit,
searched from `length` digits on. The nearer neighbour is preferred, the even one in a tie. -/
def shortestFrom (mantissa : Nat) (exponent leading : Int) : (steps length : Nat) → Nat × Int
  | 0, length =>
    let (num, den) := toRatio mantissa exponent
    let power := leading - Int.ofNat length + 1
    ((decimalNeighbours num den power).1, power)
  | steps + 1, length =>
    let (num, den) := toRatio mantissa exponent
    let power := leading - Int.ofNat length + 1
    let (low, side) := decimalNeighbours num den power
    let readsBack (digits : Nat) : Bool :=
      ofDecimal false digits power == finite false mantissa exponent
    let lowFirst := match side with
      | .lt => true
      | .eq => low % 2 == 0
      | .gt => false
    let (near, far) := if lowFirst then (low, low + 1) else (low + 1, low)
    if readsBack near then (near, power)
    else if readsBack far then (far, power)
    else shortestFrom mantissa exponent leading steps (length + 1)

/-- Cuts zeros off the end of a number's digits; each raises the power of ten by one. -/
def trimZeros : (steps digits : Nat) → Int → Nat × Int
  | 0, digits, power => (digits, power)
  | steps + 1, digits, power =>
    if digits ≠ 0 ∧ digits % 10 = 0 then trimZeros steps (digits / 10) (power + 1)
    else (digits, power)

/-- An exponent with its sign and at least two digits. -/
def exponentText (exponent : Int) : String :=
  let digits := toString exponent.natAbs
  (if exponent < 0 then "-" else "+") ++ (if digits.length < 2 then "0" ++ digits else digits)

/-- Writes digits and the power of ten of the last one: positional with at least one decimal from
`1e-4` up to below `1e16`, and otherwise with an exponent after the leading digit. -/
def decimalText (digits : Nat) (power : Int) : String :=
  let ds := toString digits
  let leading := power + Int.ofNat ds.length - 1
  if leading < -4 ∨ 16 ≤ leading then
    let head := String.ofList (ds.toList.take 1)
    let tail := String.ofList (ds.toList.drop 1)
    head ++ (if tail.isEmpty then "" else "." ++ tail) ++ "e" ++ exponentText leading
  else if 0 ≤ power then
    ds ++ String.ofList (List.replicate power.toNat '0') ++ ".0"
  else if 0 ≤ leading then
    String.ofList (ds.toList.take (leading.toNat + 1)) ++ "." ++
      String.ofList (ds.toList.drop (leading.toNat + 1))
  else
    "0." ++ String.ofList (List.replicate ((-leading).toNat - 1) '0') ++ ds

/-- The written form of a number. -/
def text : Binary64 → String
  | nan => "nan"
  | infinity false => "inf"
  | infinity true => "-inf"
  | finite negative mantissa exponent =>
    let sign := if negative then "-" else ""
    if mantissa = 0 then sign ++ "0.0"
    else
      let (num, den) := toRatio mantissa exponent
      let (digits, power) :=
        shortestFrom mantissa exponent (leadingPower num den) 17 1
      let (digits, power) := trimZeros 20 digits power
      sign ++ decimalText digits power

end Binary64

end StaticSite.Number
