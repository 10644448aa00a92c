/-!
# Binary64 numbers as text

Reading a decimal number into a binary64 value and writing a binary64 value back as text.

Reading accepts an optional sign, digits with at most one decimal point (at least one digit in
all) and an optional exponent `e` or `E` with its own optional sign and at least one digit. The
value is rounded to the nearest binary64 value, ties to the even significand; values beyond the
largest finite one are infinite and values below half the smallest subnormal are zero.

Writing gives the shortest digits that read back as the same value, the closest to it when
several have that length and the larger of two equally close ones, always in positional notation: `4.5`, `1000`, `0.0001`. The arithmetic
is exact, on natural numbers.
-/

namespace HttpReactor

namespace Numeric

/-- A binary64 value. A finite value is `significand * 2 ^ exponent`, with a significand below
`2 ^ 53` and an exponent of at least -1074. -/
inductive Binary64 where
  | finite (negative : Bool) (significand : Nat) (exponent : Int)
  | infinite (negative : Bool)
  | nan
  deriving DecidableEq, Repr

/-- Reads decimal digits onto `v`; gives the value, the number of digits read and the rest. -/
def readDigits : List Char → Nat → Nat → Nat × Nat × List Char
  | c :: rest, v, n => if c.isDigit then readDigits rest (v * 10 + (c.toNat - 48)) (n + 1) else (v, n, c :: rest)
  | [], v, n => (v, n, [])

/-- A decimal number: its sign, its digits read as one number, and the power of ten they are
scaled by. -/
structure Decimal where
  negative : Bool
  digits : Nat
  exponent : Int
  deriving DecidableEq, Repr

/-- Reads a decimal number; the whole text must be one. -/
def Decimal.parse (s : List Char) : Option Decimal :=
  let (negative, s) := match s with
    | '-' :: r => (true, r)
    | '+' :: r => (false, r)
    | _ => (false, s)
  let (whole, wholeCount, s) := readDigits s 0 0
  let (digits, fracCount, s) := match s with
    | '.' :: r => readDigits r whole 0
    | _ => (whole, 0, s)
  if wholeCount + fracCount == 0 then none
  else
    let exp : Option Int := match s with
      | [] => some 0
      | e :: r =>
        if e = 'e' ∨ e = 'E' then
          let (sign, r) : Int × List Char := match r with
            | '-' :: r => (-1, r)
            | '+' :: r => (1, r)
            | _ => (1, r)
          let (v, n, r) := readDigits r 0 0
          if n == 0 || !r.isEmpty then none else some (sign * v)
        else none
    exp.map fun e => ⟨negative, digits, e - fracCount⟩

/-- The number of decimal digits of a positive number. -/
def decimalLength (n : Nat) : Nat := (toString n).length

/-- `2 ^ 53`, one past the largest significand. -/
def significandLimit : Nat := Nat.pow 2 53

/-- Rounds `m * 10 ^ e` to the nearest binary64 value, ties to the even significand. -/
def Binary64.ofDecimal (d : Decimal) : Binary64 :=
  let m := d.digits
  let e := d.exponent
  if m == 0 then .finite d.negative 0 0
  else if (decimalLength m : Int) + e > 310 then .infinite d.negative
  else if (decimalLength m : Int) + e < -330 then .finite d.negative 0 0
  else
    let (num, den) := if e ≥ 0 then (m * Nat.pow 10 e.toNat, 1) else (m, Nat.pow 10 (-e).toNat)
    let scaled := fun (q : Int) => if q ≥ 0 then (num, den * Nat.pow 2 q.toNat) else (num * Nat.pow 2 (-q).toNat, den)
    let q0 : Int := (Nat.log2 num : Int) - (Nat.log2 den : Int) - 53
    let q := if (scaled q0).1 / (scaled q0).2 ≥ significandLimit then q0 + 1 else q0
    let q := max q (-1074)
    let (n, dd) := scaled q
    let s := n / dd
    let r := n % dd
    let s := if 2 * r > dd || (2 * r == dd && s % 2 == 1) then s + 1 else s
    let (s, q) := if s == significandLimit then (significandLimit / 2, q + 1) else (s, q)
    if q > 971 then .infinite d.negative else .finite d.negative s q

/-- Reads a number as the standard library does: a decimal number, or `inf`, `infinity` or `nan`
in any case, after an optional sign. -/
def Binary64.parse (s : List Char) : Option Binary64 :=
  match Decimal.parse s with
  | some d => some (Binary64.ofDecimal d)
  | none =>
    let (negative, r) := match s with
      | '-' :: r => (true, r)
      | '+' :: r => (false, r)
      | _ => (false, s)
    let word := (String.ofList r).toLower
    if word == "inf" || word == "infinity" then some (.infinite negative)
    else if word == "nan" then some .nan
    else none

/-- The value is finite. -/
def Binary64.isFinite : Binary64 → Bool
  | .finite _ _ _ => true
  | _ => false

/-- `10 ^ k` as a fraction. -/
def powerOfTen (k : Int) : Nat × Nat := if k ≥ 0 then (Nat.pow 10 k.toNat, 1) else (1, Nat.pow 10 (-k).toNat)

/-- Moves `d` until `10 ^ d ≤ num / den < 10 ^ (d + 1)`. -/
def settleExponent (num den : Nat) : Nat → Int → Int
  | 0, d => d
  | k + 1, d =>
    let (a, b) := powerOfTen d
    let (a', b') := powerOfTen (d + 1)
    if num * b < a * den then settleExponent num den k (d - 1)
    else if num * b' ≥ a' * den then settleExponent num den k (d + 1)
    else d

/-- The shortest digits `c` with `c * 10 ^ p` in the rounding interval of `s * 2 ^ q`, the
closest to it when two qualify and the larger when both are equally close; a significand of at
least one is assumed. -/
def shortestDigits (s : Nat) (q : Int) : Nat × Int :=
  let t : Nat := (2 - q).toNat
  let den := Nat.pow 2 t
  let vN := s * Nat.pow 2 (q + t).toNat
  let upper := Nat.pow 2 (q - 1 + t).toNat
  let lower := if s == significandLimit / 2 && q > -1074 then Nat.pow 2 (q - 2 + t).toNat else upper
  let highN := vN + upper
  let lowN := vN - lower
  let inclusive := s % 2 == 0
  let estimate : Int := ((Nat.log2 vN : Int) - (t : Int)) * 30103 / 100000
  let d := settleExponent vN den 8 estimate
  let rec search : Nat → Nat → Nat × Int
    | 0, _ => (s, q)
    | fuel + 1, k =>
      let p : Int := d - (k : Int) + 1
      let a := Nat.pow 10 p.toNat
      let b := Nat.pow 10 (-p).toNat
      let low := (vN * b) / (den * a)
      let inside := fun (c : Nat) =>
        if inclusive then lowN * b ≤ c * a * den && c * a * den ≤ highN * b
        else lowN * b < c * a * den && c * a * den < highN * b
      let distance := fun (c : Nat) =>
        if c * a * den ≥ vN * b then c * a * den - vN * b else vN * b - c * a * den
      match inside low, inside (low + 1) with
      | true, true =>
        if distance low < distance (low + 1) then (low, p)
        else if distance (low + 1) < distance low then (low + 1, p)
        else (low + 1, p)
      | true, false => (low, p)
      | false, true => (low + 1, p)
      | false, false => search fuel (k + 1)
  search 17 1

/-- Drops the trailing zeros of `c`, raising the power of ten. -/
def dropZeros : Nat → Nat → Int → Nat × Int
  | 0, c, p => (c, p)
  | k + 1, c, p => if c ≠ 0 && c % 10 == 0 then dropZeros k (c / 10) (p + 1) else (c, p)

/-- `c * 10 ^ p` in positional notation. -/
def positional (c : Nat) (p : Int) : String :=
  let ds := (toString c).toList
  if p ≥ 0 then String.ofList ds ++ "".pushn '0' p.toNat
  else
    let k := (-p).toNat
    if ds.length > k then String.ofList (ds.take (ds.length - k)) ++ "." ++ String.ofList (ds.drop (ds.length - k))
    else "0." ++ "".pushn '0' (k - ds.length) ++ String.ofList ds

/-- The value as text: `NaN`, `inf`, `-inf`, or the shortest digits that read back as it. -/
def Binary64.text : Binary64 → String
  | .nan => "NaN"
  | .infinite negative => if negative then "-inf" else "inf"
  | .finite negative s q =>
    let sign := if negative then "-" else ""
    if s == 0 then sign ++ "0"
    else
      let (c, p) := shortestDigits s q
      let (c, p) := dropZeros 20 c p
      sign ++ positional c p

/-- The text of a finite value always shows a decimal point, adding `.0` when it has none. -/
def Binary64.textWithPoint (x : Binary64) : String :=
  let t := x.text
  if x.isFinite && !t.contains '.' then t ++ ".0" else t

end Numeric

end HttpReactor
