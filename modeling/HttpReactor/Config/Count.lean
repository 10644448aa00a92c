import HttpReactor.Text.Blank
/-!
# Counts written in decimal

A count given as text, such as the number of event loops, is an optional `+` followed by one or
more ASCII digits, and must fit in a 64-bit word. The characters are read from left to right; the
first one that is not a digit, or the first digit that makes the count too large, decides the
error.
-/

namespace HttpReactor

namespace Config

/-- Why a text is not a count. -/
inductive CountError where
  /-- There is no character at all. -/
  | empty
  /-- A character is not a digit, or a sign stands alone. -/
  | invalidDigit
  /-- The count does not fit in a 64-bit word. -/
  | tooLarge
  deriving DecidableEq, Repr

namespace CountError

/-- The sentence that reports the error. -/
def message : CountError → String
  | .empty => "cannot parse integer from empty string"
  | .invalidDigit => "invalid digit found in string"
  | .tooLarge => "number too large to fit in target type"

end CountError

/-- The largest count: a 64-bit word. -/
def maxCount : Nat := Nat.pow 2 64 - 1

/-- Reads digits onto the count `n`. -/
def readDigits (n : Nat) : List Char → Except CountError Nat
  | [] => .ok n
  | c :: cs =>
    if c.isDigit then
      let m := n * 10 + (c.toNat - 48)
      if m > maxCount then .error .tooLarge else readDigits m cs
    else .error .invalidDigit

/-- The count a text gives: an optional `+`, then digits. -/
def readCount (s : String) : Except CountError Nat :=
  match s.toList with
  | [] => .error .empty
  | ['+'] => .error .invalidDigit
  | ['-'] => .error .invalidDigit
  | '+' :: cs => readDigits 0 cs
  | cs => readDigits 0 cs

end Config

end HttpReactor
