/-!
# Host names in ASCII

A label of a host name with characters outside ASCII is written with its ASCII characters first and
then, as numbers of variable length in base 36, where the other characters are to be inserted. The
insertions are in increasing order of code point, so each number is a difference from the one
before.
-/

set_option autoImplicit false

namespace StaticSite.Url.Punycode

/-! ## Numbers of variable length -/

/-- The digit for a value below 36: letters first, then the decimal digits. -/
def digitChar (d : Nat) : Char :=
  if d < 26 then Char.ofNat (0x61 + d) else Char.ofNat (0x30 + (d - 26))

/-- The value of a digit of either case. -/
def digitValue? (c : Char) : Option Nat :=
  if 'a' ≤ c ∧ c ≤ 'z' then some (c.toNat - 0x61)
  else if 'A' ≤ c ∧ c ≤ 'Z' then some (c.toNat - 0x41)
  else if '0' ≤ c ∧ c ≤ '9' then some (c.toNat - 0x30 + 26)
  else none

/-- The threshold of the digit at a position: a digit below it is the last one. -/
def threshold (position bias : Nat) : Nat :=
  max 1 (min 26 (36 * (position + 1) - bias))

theorem one_le_threshold (position bias : Nat) : 1 ≤ threshold position bias := by
  unfold threshold; omega

theorem threshold_le (position bias : Nat) : threshold position bias ≤ 26 := by
  unfold threshold; omega

/-- Divides the difference by 35 until it is at most 455, counting 36 for each division. -/
def scaleDifference (difference weight : Nat) : Nat × Nat :=
  if 455 < difference then scaleDifference (difference / 35) (weight + 36)
  else (difference, weight)
termination_by difference
decreasing_by exact Nat.div_lt_self (by omega) (by omega)

/-- The bias for the next number. -/
def adapt (difference count : Nat) (first : Bool) : Nat :=
  let d := if first then difference / 700 else difference / 2
  let (d, weight) := scaleDifference (d + d / count) 0
  weight + 36 * d / (d + 38)

/-- The digits of a number, least significant first, from a position on. -/
def digits (bias position n : Nat) : List Char :=
  let t := threshold position bias
  if n < t then [digitChar n]
  else digitChar (t + (n - t) % (36 - t)) :: digits bias (position + 1) ((n - t) / (36 - t))
termination_by n
decreasing_by
  have h1 := one_le_threshold position bias
  have h2 : (n - threshold position bias) / (36 - threshold position bias)
      ≤ n - threshold position bias := Nat.div_le_self _ _
  omega

/-- Reads a number from the front of a text, together with what follows it. -/
def readNumber (bias position weight value : Nat) : List Char → Option (Nat × List Char)
  | [] => none
  | c :: rest =>
    match digitValue? c with
    | none => none
    | some d =>
      let t := threshold position bias
      if d < t then some (value + d * weight, rest)
      else readNumber bias (position + 1) (weight * (36 - t)) (value + d * weight) rest

theorem readNumber_length {bias position weight value : Nat} {s rest : List Char} {n : Nat}
    (h : readNumber bias position weight value s = some (n, rest)) : rest.length < s.length := by
  induction s generalizing position weight value with
  | nil => simp [readNumber] at h
  | cons c s ih =>
    rw [readNumber] at h
    split at h
    · simp at h
    · simp only at h
      split at h
      · simp only [Option.some.injEq, Prod.mk.injEq] at h
        simp [← h.2]
      · have := ih h
        simp only [List.length_cons]; omega

/-! ## Labels -/

/-- What is known while the insertions are written: the difference so far, the bias, the number of
characters placed, and the digits written. -/
structure Encoder where
  difference : Nat
  bias : Nat
  placed : Nat
  written : List Char

/-- Passes one character of the label while the occurrences of code point `code` are inserted. -/
def Encoder.pass (basic code : Nat) (e : Encoder) (c : Char) : Encoder :=
  if c.toNat < code then { e with difference := e.difference + 1 }
  else if c.toNat = code then
    { difference := 0
      bias := adapt e.difference (e.placed + 1) (e.placed == basic)
      placed := e.placed + 1
      written := e.written ++ digits e.bias 0 e.difference }
  else e

/-- Inserts the code points, which are in increasing order; `next` is the least one possible. -/
def encodeInsertions (label : List Char) (basic : Nat) :
    List Nat → Nat → Encoder → List Char
  | [], _, e => e.written
  | code :: codes, next, e =>
    let e := { e with difference := e.difference + (code - next) * (e.placed + 1) }
    let e := label.foldl (Encoder.pass basic code) e
    encodeInsertions label basic codes (code + 1) { e with difference := e.difference + 1 }

/-- Inserts a code point into an increasing list without repetitions. -/
def insertCode (code : Nat) : List Nat → List Nat
  | [] => [code]
  | other :: codes =>
    if code < other then code :: other :: codes
    else if code = other then other :: codes
    else other :: insertCode code codes

/-- Writes a label in ASCII. -/
def encode (label : List Char) : List Char :=
  let basic := label.filter (·.toNat < 0x80)
  let codes := (label.filter (0x80 ≤ ·.toNat)).foldl (fun codes c => insertCode c.toNat codes) []
  let start : Encoder := { difference := 0, bias := 72, placed := basic.length, written := [] }
  basic ++ (if basic.isEmpty then [] else ['-']) ++
    encodeInsertions label basic.length codes 0x80 start

/-- Reads insertions: the code point and the place of the last one are known. -/
def decodeInsertions (bias code place : Nat) (first : Bool) (base : List Char) :
    (s : List Char) → Option (List Char)
  | [] => some base
  | c :: rest =>
    match _h : readNumber bias 0 1 0 (c :: rest) with
    | none => none
    | some (n, rest') =>
      let size := base.length + 1
      let code := code + (place + n) / size
      let place := (place + n) % size
      if code.isValidChar then
        decodeInsertions (adapt n size first) code (place + 1) false
          (base.take place ++ Char.ofNat code :: base.drop place) rest'
      else none
termination_by s => s.length
decreasing_by exact readNumber_length _h

/-- Reads a label written in ASCII, if it is well written. -/
def decode (label : List Char) : Option (List Char) :=
  if label.all (·.toNat < 0x80) then
    let tail := (label.reverse.takeWhile (· != '-')).reverse
    let base := label.take (label.length - tail.length - 1)
    decodeInsertions 72 0x80 0 true base tail
  else none

end StaticSite.Url.Punycode
