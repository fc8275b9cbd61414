import StaticSite.Number.Binary64
import StaticSite.Text.Integer

/-!
# Scalars

Attributes of tokens and settings in configuration files hold single values whose kind is only known
when they are read. A scalar is such a value, with the three questions that are put to it: whether
it says anything, how it is written, and which whole number it stands for.
-/

set_option autoImplicit false

namespace StaticSite.Number

/-- A single value of any kind. -/
inductive Scalar where
  | null
  | boolean (value : Bool)
  | whole (value : Int)
  | real (value : Binary64)
  | text (value : String)
deriving DecidableEq, Repr

/-- Why a scalar stands for no whole number. -/
inductive NumberError where
  /-- It is a text that writes no number, or not a number. -/
  | unreadable
  /-- It is no kind of value that could be a number. -/
  | wrongKind
  /-- It is infinite. -/
  | infinite
deriving DecidableEq, Repr

namespace Scalar

/-- Whether the value says anything: null, false, zero and the empty text do not. -/
def isSet : Scalar → Bool
  | null => false
  | boolean value => value
  | whole value => value != 0
  | real value => !value.isZero
  | text value => !value.isEmpty

/-- The value as text. -/
def display : Scalar → String
  | null => "None"
  | boolean true => "True"
  | boolean false => "False"
  | whole value => toString value
  | real value => value.text
  | text value => value

/-- The value as text, empty if it says nothing. -/
def textOrEmpty (value : Scalar) : String :=
  if value.isSet then value.display else ""

/-- The whole number that a value stands for. -/
def toWhole : Scalar → Except NumberError Int
  | null => .error .wrongKind
  | boolean value => .ok (if value then 1 else 0)
  | whole value => .ok value
  | real .nan => .error .unreadable
  | real (.infinity _) => .error .infinite
  | real value => .ok (value.wholePart?.getD 0)
  | text value =>
    match StaticSite.Text.readInteger? value with
    | some n => .ok n
    | none => .error .unreadable

end Scalar

end StaticSite.Number
