/-!
# IPv6 addresses in URLs

An IPv6 address is written between brackets as eight 16-bit pieces in hexadecimal, separated by
colons. One run of zero pieces may be left out as `::`, and the last two pieces may be written as a
dotted IPv4 address. The canonical text writes each piece in small hexadecimal digits without
leading zeros and leaves out the first longest run of two or more zero pieces.
-/

namespace HttpReactor

namespace Endpoint

/-- The value of a hexadecimal digit. -/
def hexValue (c : Char) : Nat :=
  if c.isDigit then c.toNat - 48 else if 'a' ≤ c ∧ c ≤ 'f' then c.toNat - 87 else c.toNat - 55

/-- A hexadecimal digit, in either case. -/
def isHexDigit (c : Char) : Bool := c.isDigit || ('a' ≤ c && c ≤ 'f') || ('A' ≤ c && c ≤ 'F')

/-- Reads at most `n` hexadecimal digits onto `v`: how many were read, the value, and the rest. -/
def readHex : Nat → Nat → List Char → Nat × Nat × List Char
  | n + 1, v, c :: cs =>
    if isHexDigit c then
      let r := readHex n (v * 16 + hexValue c) cs
      (r.1 + 1, r.2)
    else (0, v, c :: cs)
  | _, v, cs => (0, v, cs)

/-- A decimal number from 0 to 255, written without leading zeros. -/
def readOctet (cs : List Char) : Option Nat :=
  if cs.isEmpty || !cs.all Char.isDigit then none
  else if cs.length > 1 && cs.head? == some '0' then none
  else
    let v := cs.foldl (fun n c => n * 10 + (c.toNat - 48)) 0
    if v ≤ 255 then some v else none

/-- The two pieces written as a dotted IPv4 address `a.b.c.d`. -/
def readDotted (cs : List Char) : Option (Nat × Nat) :=
  match (cs.splitOn '.').mapM readOctet with
  | some [a, b, c, d] => some (a * 256 + b, c * 256 + d)
  | _ => none

theorem readHex_length : ∀ (n v : Nat) (cs : List Char), (readHex n v cs).2.2.length ≤ cs.length
  | n + 1, v, c :: cs => by
    simp only [readHex]
    split
    · have := readHex_length n (v * 16 + hexValue c) cs
      simp only [List.length_cons]
      omega
    · simp
  | 0, _, _ => by simp [readHex]
  | _ + 1, _, [] => by simp [readHex]

/-- The pieces after the start: `acc` holds the pieces read, a left-out run counting as one zero
piece, and `gap` the number of pieces before the left-out run, if there is one. -/
def pieces (acc : List Nat) (gap : Option Nat) (cs : List Char) : Option (List Nat × Option Nat) :=
  match cs with
  | [] => some (acc, gap)
  | c :: rest =>
    if acc.length = 8 then none
    else if c = ':' then
      if gap.isSome then none else pieces (acc ++ [0]) (some (acc.length + 1)) rest
    else
      match _h : readHex 4 0 (c :: rest) with
      | (k, v, r) =>
        match r with
        | [] => some (acc ++ [v], gap)
        | d :: r' =>
          if d = '.' then
            if k = 0 || acc.length > 6 then none
            else (readDotted (c :: rest)).map fun p => (acc ++ [p.1, p.2], gap)
          else if d = ':' then
            if r'.isEmpty then none else pieces (acc ++ [v]) gap r'
          else none
termination_by cs.length
decreasing_by
  · simp
  · have := readHex_length 4 0 (c :: rest)
    rw [_h] at this
    simp only [List.length_cons] at this ⊢
    omega

/-- The eight pieces of the address written inside the brackets, if it is one. -/
def parseIpv6 (cs : List Char) : Option (List Nat) :=
  if cs.length < 2 then none
  else
    let start := match cs with
      | ':' :: ':' :: rest => some ([0], some 1, rest)
      | ':' :: _ => none
      | _ => some ([], none, cs)
    match start with
    | none => none
    | some (acc, gap, rest) =>
      match pieces acc gap rest with
      | none => none
      | some (ps, some g) => some (ps.take g ++ List.replicate (8 - ps.length) 0 ++ ps.drop g)
      | some (ps, none) => if ps.length = 8 then some ps else none

/-- The first longest run of zero pieces, as its start and length, if it has two or more pieces. -/
def zeroRun (ps : List Nat) : Option (Nat × Nat) :=
  let step := fun (st : Option (Nat × Nat) × Nat × Nat) (p : Nat) =>
    -- best run so far, start of the current run, length of the current run
    let (best, start, len) := st
    if p = 0 then
      let len' := len + 1
      let best' := match best with
        | some (_, l) => if len' > l then some (start, len') else best
        | none => some (start, len')
      (best', start, len')
    else (best, start + len + 1, 0)
  match (ps.foldl step (none, 0, 0)).1 with
  | some (s, l) => if l ≥ 2 then some (s, l) else none
  | none => none

/-- A piece in small hexadecimal digits. -/
def pieceText (p : Nat) : String := String.ofList (Nat.toDigits 16 p)

/-- The canonical text of the address, without brackets. -/
def render (ps : List Nat) : String :=
  match zeroRun ps with
  | some (s, l) =>
    ":".intercalate ((ps.take s).map pieceText) ++ "::" ++ ":".intercalate ((ps.drop (s + l)).map pieceText)
  | none => ":".intercalate (ps.map pieceText)

example : (parseIpv6 "::ffff:1.2.3.4".toList).map render = some "::ffff:102:304" := by decide +kernel
example : (parseIpv6 "0:0:0:0:0:0:0:1".toList).map render = some "::1" := by decide +kernel

end Endpoint

end HttpReactor
