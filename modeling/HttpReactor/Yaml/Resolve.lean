import HttpReactor.Numeric.Binary64
import HttpReactor.Text.Quoted
/-!
# What a scalar stands for

A plain scalar without a tag is read as null (empty, `~`, `null`, `Null`, `NULL`), as a boolean
(`true`, `True`, `TRUE` and the same for `false`), as an integer (decimal, or `0x`, `0o`, `0b`
with an optional sign), as a floating point number (including `.inf` and `.nan`), and otherwise as
a string. Digits with a leading zero, such as `007`, are a string and not a number. The tags
`!!bool`, `!!int`, `!!float` and `!!null` ask for that reading and fail when the text does not
have it; a local tag `!name` on a plain scalar changes nothing, and any other tag, like quotes,
makes the scalar a string.

When a value of one kind is expected and a scalar of another is found, the error describes what
was found in these terms.
-/

namespace HttpReactor

namespace Yaml

open Numeric

/-- The value of a digit in a base up to 36, if it is one. -/
def digitValue (radix : Nat) (c : Char) : Option Nat :=
  let v :=
    if c.isDigit then c.toNat - 48
    else if 'a' ≤ c ∧ c ≤ 'z' then c.toNat - 87
    else if 'A' ≤ c ∧ c ≤ 'Z' then c.toNat - 55
    else radix
  if v < radix then some v else none

/-- Reads digits in a base onto `v`; every character must be a digit. -/
def digitsValue (radix : Nat) : List Char → Nat → Option Nat
  | [], v => some v
  | c :: rest, v => (digitValue radix c).bind fun d => digitsValue radix rest (v * radix + d)

/-- Reads an unsigned integer of `bits` bits as the standard library does: an optional `+`, then
at least one digit, and a value that fits. -/
def readUnsigned (bits radix : Nat) (s : List Char) : Option Nat :=
  let ds := match s with
    | '+' :: r => if r.isEmpty then s else r
    | _ => s
  if ds.isEmpty then none
  else (digitsValue radix ds 0).bind fun v => if v < Nat.pow 2 bits then some v else none

/-- Reads a signed integer of `bits` bits as the standard library does: an optional sign, then at
least one digit, and a value that fits. -/
def readSigned (bits radix : Nat) (s : List Char) : Option Int :=
  match s with
  | [] | ['+'] | ['-'] => none
  | '-' :: r => (digitsValue radix r 0).bind fun v => if v ≤ Nat.pow 2 (bits - 1) then some (-(v : Int)) else none
  | '+' :: r => (digitsValue radix r 0).bind fun v => if v < Nat.pow 2 (bits - 1) then some (v : Int) else none
  | r => (digitsValue radix r 0).bind fun v => if v < Nat.pow 2 (bits - 1) then some (v : Int) else none

/-- Starts with `+` or `-`. -/
def startsWithSign (s : List Char) : Bool := s.head? == some '+' || s.head? == some '-'

/-- Digits with a leading zero, after an optional sign: a string, not a number. -/
def digitsButNotNumber (s : List Char) : Bool :=
  let t := match s with
    | '-' :: r | '+' :: r => r
    | _ => s
  t.length > 1 && t.head? == some '0' && (t.drop 1).all Char.isDigit

/-- Reads a non-negative integer: an optional `+`, then `0x`, `0o` or `0b` and digits in that
base, or decimal digits without a superfluous leading zero. -/
def unsignedInt {α : Type} (read : Nat → List Char → Option α) (s : List Char) : Option α :=
  let u := match s with
    | '+' :: r => r
    | _ => s
  let based := fun (marker : Char) (radix : Nat) (otherwise : Unit → Option α) =>
    if u.take 2 == ['0', marker] then
      let rest := u.drop 2
      if startsWithSign rest then none
      else match read radix rest with
        | some v => some v
        | none => otherwise ()
    else otherwise ()
  based 'x' 16 fun _ => based 'o' 8 fun _ => based 'b' 2 fun _ =>
    if startsWithSign u || digitsButNotNumber s then none else read 10 u

/-- Reads a negative integer: `-0x`, `-0o` or `-0b` and digits in that base, or a signed decimal
without a superfluous leading zero. -/
def negativeInt {α : Type} (read : Nat → List Char → Option α) (s : List Char) : Option α :=
  let based := fun (marker : Char) (radix : Nat) (otherwise : Unit → Option α) =>
    if s.take 3 == ['-', '0', marker] then
      let rest := s.drop 3
      if startsWithSign rest then none
      else match read radix ('-' :: rest) with
        | some v => some v
        | none => otherwise ()
    else otherwise ()
  based 'x' 16 fun _ => based 'o' 8 fun _ => based 'b' 2 fun _ =>
    if digitsButNotNumber s then none else read 10 s

/-- Reads a floating point number: an optional `+`, then `.inf`, `-.inf`, `.nan` in three
spellings each, or a finite decimal number. -/
def parseFloat (s : String) : Option Binary64 :=
  let cs := s.toList
  let unsigned := match cs with
    | '+' :: r => if startsWithSign r then none else some r
    | _ => some cs
  unsigned.bind fun u =>
    let us := String.ofList u
    if us == ".inf" || us == ".Inf" || us == ".INF" then some (.infinite false)
    else if s == "-.inf" || s == "-.Inf" || s == "-.INF" then some (.infinite true)
    else if s == ".nan" || s == ".NaN" || s == ".NAN" then some .nan
    else match Binary64.parse u with
      | some x => if x.isFinite then some x else none
      | none => none

/-- The spellings of null. -/
def isNull (s : String) : Bool := s == "null" || s == "Null" || s == "NULL" || s == "~"

/-- The spellings of the booleans. -/
def parseBool (s : String) : Option Bool :=
  if s == "true" || s == "True" || s == "TRUE" then some true
  else if s == "false" || s == "False" || s == "FALSE" then some false
  else none

/-- What was found where a value of another kind was expected. -/
inductive Unexpected where
  | unit
  | bool (b : Bool)
  | unsigned (n : Nat)
  | signed (n : Int)
  /-- An integer too wide for 64 bits, described in full. -/
  | wide (text : String)
  | float (x : Binary64)
  | str (s : String)
  | sequence
  | map
  deriving DecidableEq, Repr

/-- How the error describes what was found. -/
def Unexpected.text : Unexpected → String
  | .unit => "unit value"
  | .bool b => "boolean `" ++ (if b then "true" else "false") ++ "`"
  | .unsigned n => "integer `" ++ toString n ++ "`"
  | .signed n => "integer `" ++ toString n ++ "`"
  | .wide t => t
  | .float x => "floating point `" ++ x.textWithPoint ++ "`"
  | .str s => "string " ++ Text.quote s
  | .sequence => "sequence"
  | .map => "map"

/-- Reads an integer as the widest reading that holds: unsigned 64-bit, signed 64-bit, unsigned
128-bit, signed 128-bit. -/
def readInteger (s : String) : Option Unexpected :=
  let cs := s.toList
  match unsignedInt (readUnsigned 64) cs with
  | some n => some (.unsigned n)
  | none =>
    match negativeInt (readSigned 64) cs with
    | some n => some (.signed n)
    | none =>
      match unsignedInt (readUnsigned 128) cs with
      | some n => some (.wide ("integer `" ++ toString n ++ "` as u128"))
      | none => (negativeInt (readSigned 128) cs).map fun n => .wide ("integer `" ++ toString n ++ "` as i128")

/-- What an untagged plain scalar stands for. -/
def resolvePlain (s : String) : Unexpected :=
  if s.isEmpty || isNull s then .unit
  else match parseBool s with
    | some b => .bool b
    | none =>
      match readInteger s with
      | some u => u
      | none =>
        match (if digitsButNotNumber s.toList then none else parseFloat s) with
        | some x => .float x
        | none => .str s

/-- The core tag of a kind. -/
def coreTag (kind : String) : String := "tag:yaml.org,2002:" ++ kind

/-- What a scalar stands for, or, when its tag asks for a reading its text does not have, that
text and the kind the tag asked for. -/
def resolveScalar (tag : Option String) (text : String) (plain : Bool) : Except (String × String) Unexpected :=
  match tag with
  | some t =>
    if t == coreTag "bool" then
      match parseBool text with
      | some b => .ok (.bool b)
      | none => .error (text, "a boolean")
    else if t == coreTag "int" then
      match readInteger text with
      | some u => .ok u
      | none => .error (text, "an integer")
    else if t == coreTag "float" then
      match parseFloat text with
      | some x => .ok (.float x)
      | none => .error (text, "a float")
    else if t == coreTag "null" then
      if isNull text then .ok .unit else .error (text, "null")
    else if t.startsWith "!" && plain then .ok (resolvePlain text)
    else .ok (.str text)
  | none => if plain then .ok (resolvePlain text) else .ok (.str text)

end Yaml

end HttpReactor
