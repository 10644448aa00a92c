import HttpReactor.Octets
/-!
# Reading a Content-Length value

A Content-Length value is one or more ASCII digits, leading zeros allowed, whose decimal value fits
in 64 bits. The reader folds the digits left to right and refuses as soon as the running value
leaves the 64-bit range, so it never needs a number wider than the result.

Once the running value is refused it stays refused (`foldl_stepDigit_none`).
-/

namespace HttpReactor

namespace Framing

open Octets

/-- The largest count a Content-Length may declare: a 64-bit word. -/
def maxLength : Nat := Nat.pow 2 64 - 1

/-- The decimal value of a digit string, leading zeros allowed. -/
def decimalValue (ds : List UInt8) : Nat := ds.foldl (fun n b => n * 10 + (b.toNat - 48)) 0

/-- One step of the reader: a digit extends the running value, unless the value would leave the
64-bit range; any other octet refuses. -/
def stepDigit (acc : Option Nat) (b : UInt8) : Option Nat :=
  acc.bind fun n =>
    if isDigit b then
      let m := n * 10 + (b.toNat - 48)
      if m ≤ maxLength then some m else none
    else none

/-- The count a Content-Length value declares, or `none` if it is not a count. -/
def readLength (v : List UInt8) : Option Nat :=
  if v.isEmpty then none else v.foldl stepDigit (some 0)

/-- Drops one space or horizontal tab from the front of a value, if it starts with one. -/
def dropBlank : List UInt8 → List UInt8
  | b :: rest => if b == 32 || b == 9 then rest else b :: rest
  | [] => []

theorem foldl_stepDigit_none (v : List UInt8) : v.foldl stepDigit none = none := by
  induction v with
  | nil => rfl
  | cons b rest ih => simpa [stepDigit] using ih

end Framing

end HttpReactor
