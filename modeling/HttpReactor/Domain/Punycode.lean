/-!
# Punycode

The encoding that writes a label of Unicode text in the letters, digits and hyphen of ASCII: the
ASCII characters of the label first, then, after a hyphen, each other code point as a variable-
length number in base 36 that says how far it lies from the one before and where it is inserted.
The thresholds that end each number follow a bias that adapts to the sizes seen so far.

Decoding works on 32-bit unsigned words: a number, a weight or a code point that outgrows them
makes the text unreadable, as does a code point that is not a Unicode scalar value. A label that
has no ASCII characters has no hyphen before its numbers, so its first hyphen, if any, belongs to
the numbers and cannot be read. Both directions bound the work a label may ask for: decoding
refuses texts of more than 2000 characters, and encoding labels of more than 1000 code points,
which also keeps the sums of encoding well inside the words.

The loops end because each number read takes at least one character of the text (`readNumber_rest`),
each adaptation divides the delta, and each round of encoding passes one more code point.
-/

namespace HttpReactor

namespace Domain

namespace Punycode

/-- Numbers stay below this bound. -/
def wordLimit : Nat := Nat.pow 2 32

/-- The longest text that is decoded. -/
def maxDecodedLength : Nat := 2000

/-- The threshold of the digit at position `k`, between 1 and 26. -/
def threshold (k bias : Nat) : Nat :=
  if k ≤ bias then 1 else if bias + 26 ≤ k then 26 else k - bias

theorem threshold_pos (k bias : Nat) : 1 ≤ threshold k bias := by
  unfold threshold
  split
  · omega
  · split <;> omega

theorem threshold_le (k bias : Nat) : threshold k bias ≤ 26 := by
  unfold threshold
  split
  · omega
  · split <;> omega

/-- Divides the delta by 35 until it is at most 455, counting 36 for each division. -/
def shrink (delta k : Nat) : Nat × Nat :=
  if 455 < delta then shrink (delta / 35) (k + 36) else (delta, k)
termination_by delta
decreasing_by omega

/-- The bias after a delta, among `points` code points, the first delta of the label or not. -/
def adapt (delta points : Nat) (first : Bool) : Nat :=
  let d := if first then delta / 700 else delta / 2
  let (d, k) := shrink (d + d / points) 0
  k + 36 * d / (d + 38)

/-- The value of a digit: letters of either case from 0 to 25, decimal digits from 26 to 35. -/
def digitValue? (c : Char) : Option Nat :=
  if 'a' ≤ c && c ≤ 'z' then some (c.toNat - 97)
  else if 'A' ≤ c && c ≤ 'Z' then some (c.toNat - 65)
  else if '0' ≤ c && c ≤ '9' then some (c.toNat - 22)
  else none

/-- The digit of a value below 36. -/
def digitChar (d : Nat) : Char := if d < 26 then Char.ofNat (97 + d) else Char.ofNat (22 + d)

/-- Reads one number whose digits start at position `k` with weight `w`, adding it to `i`:
gives the sum and the rest of the text. -/
def readNumber (bias : Nat) : List Char → Nat → Nat → Nat → Option (Nat × List Char)
  | [], _, _, _ => none
  | c :: rest, k, w, i => do
    let d ← digitValue? c
    if wordLimit ≤ d * w || wordLimit ≤ i + d * w then none
    else
      let t := threshold k bias
      if d < t then some (i + d * w, rest)
      else if wordLimit ≤ w * (36 - t) then none
      else readNumber bias rest (k + 36) (w * (36 - t)) (i + d * w)

theorem readNumber_rest (bias : Nat) :
    ∀ (cs : List Char) (k w i : Nat) (r : Nat × List Char),
      readNumber bias cs k w i = some r → r.2.length < cs.length
  | [], _, _, _, _, h => by simp [readNumber] at h
  | c :: rest, k, w, i, r, h => by
    simp only [readNumber, Option.bind_eq_bind] at h
    cases hd : digitValue? c with
    | none => simp [hd] at h
    | some d =>
      simp only [hd, Option.bind_some] at h
      split at h
      · cases h
      · split at h
        · cases h; simp
        · split at h
          · cases h
          · have := readNumber_rest bias rest (k + 36) _ _ r h
            simp only [List.length_cons]
            omega

/-- A number that is a Unicode scalar value. -/
def isScalar (n : Nat) : Bool := n < 0xD800 || (0xDFFF < n && n < 0x110000)

/-- Inserts one code point for each number of the text into `out`; `n` is the last code point
inserted and `i` the position after it. -/
def insertAll (bias n i : Nat) (out : List Char) : List Char → Option (List Char)
  | [] => some out
  | c :: rest =>
    match _h : readNumber bias (c :: rest) 36 1 i with
    | none => none
    | some (i', more) =>
      let points := out.length + 1
      let n' := n + i' / points
      if wordLimit ≤ n' || !isScalar n' then none
      else
        insertAll (adapt (i' - i) points (i == 0)) n' (i' % points + 1)
          (out.insertIdx (i' % points) (Char.ofNat n')) more
termination_by cs => cs.length
decreasing_by
  have := readNumber_rest bias (c :: rest) 36 1 i (i', more) _h
  simpa using this

/-- The ASCII characters before the last hyphen, and the numbers after it; with no hyphen, or
with only the first character one, all the text is numbers. -/
def splitBasic (cs : List Char) : List Char × List Char :=
  match cs.reverse.span (· ≠ '-') with
  | (_, []) => ([], cs)
  | (after, _ :: before) => if before.isEmpty then ([], cs) else (before.reverse, after.reverse)

/-- The label that a Punycode text encodes, if it encodes one. -/
def decode (cs : List Char) : Option (List Char) :=
  if maxDecodedLength < cs.length then none
  else
    let (basic, numbers) := splitBasic cs
    if basic.any fun c => 0x80 ≤ c.toNat then none else insertAll 72 128 0 basic numbers

/-- The digits of `q` from position `k` on. -/
def digitsOf (bias k q : Nat) : List Char :=
  if q < threshold k bias then [digitChar q]
  else
    digitChar (threshold k bias + (q - threshold k bias) % (36 - threshold k bias)) ::
      digitsOf bias (k + 36) ((q - threshold k bias) / (36 - threshold k bias))
termination_by q
decreasing_by
  have := threshold_pos k bias
  have := threshold_le k bias
  have : (q - threshold k bias) / (36 - threshold k bias) ≤ q - threshold k bias :=
    Nat.div_le_self _ _
  omega

/-- Encoding so far: the digits written, the delta, the bias, and how many code points are done. -/
structure Encoder where
  out : List Char
  delta : Nat
  bias : Nat
  done : Nat

/-- Passes one character of the label while code point `m` is being encoded; `basic` is the
number of ASCII characters. -/
def Encoder.pass (basic m : Nat) (e : Encoder) (c : Char) : Encoder :=
  if c.toNat < m then { e with delta := e.delta + 1 }
  else if c.toNat = m then
    ⟨e.out ++ digitsOf e.bias 36 e.delta, 0, adapt e.delta (e.done + 1) (e.done == basic), e.done + 1⟩
  else e

/-- Encodes the code points `ms`, in increasing order, each after the one before (`n` above it). -/
def Encoder.run (label : List Char) (basic : Nat) : List Nat → Nat → Encoder → Encoder
  | [], _, e => e
  | m :: ms, n, e =>
    let e := label.foldl (pass basic m) { e with delta := e.delta + (m - n) * (e.done + 1) }
    run label basic ms (m + 1) { e with delta := e.delta + 1 }

/-- The longest label that is encoded. -/
def maxEncodedLength : Nat := 1000

/-- The Punycode text of a label, without a prefix; none for a label too long to encode. -/
def encode (label : List Char) : Option (List Char) :=
  if maxEncodedLength < label.length then none
  else
    let basic := label.filter fun c => c.toNat < 0x80
    let others := ((label.map Char.toNat).filter (0x80 ≤ ·)).mergeSort (· ≤ ·) |>.eraseDups
    let e := Encoder.run label basic.length others 128 ⟨[], 0, 72, basic.length⟩
    some (basic ++ (if basic.isEmpty then [] else ['-']) ++ e.out)

end Punycode

end Domain

end HttpReactor
