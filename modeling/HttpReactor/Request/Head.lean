import HttpReactor.Octets
import HttpReactor.Request.Basic
/-!
# Request heads

The grammar of an HTTP/1 request head, read from the front of a buffer: optional empty lines, a
request line `METHOD SP target SP HTTP/1.x`, header fields `name: value`, and an empty line. A line
may end in CRLF or in a bare LF. Reading stops after the empty line; what follows is the body.

Each piece is read by a function from octets to a `Scan`: the piece and the octets after it, or a
report that the buffer ends too early, or the reason the octets break the grammar. At most
`maxFields` header fields are taken; a further field is refused once it has been read whole.

Main statement: every piece that is read leaves a shorter rest (`readField_rest`), which bounds the
loop over header fields.
-/

namespace HttpReactor

/-- Why octets are not a request head. -/
inductive SyntaxError where
  /-- The method or the target holds an octet that may not stand there, or is empty. -/
  | token
  /-- A line ends in a carriage return that no line feed follows. -/
  | newLine
  /-- The request line does not end in `HTTP/1.0` or `HTTP/1.1`. -/
  | version
  /-- A header name is empty, holds an octet that may not stand in a name, or lacks its colon. -/
  | headerName
  /-- A header value holds a control octet. -/
  | headerValue
  /-- The head has more header fields than the reader takes. -/
  | tooManyHeaders
  deriving DecidableEq, Repr

namespace SyntaxError

/-- The phrase that reports the error. -/
def message : SyntaxError → String
  | .token => "invalid token"
  | .newLine => "invalid new line"
  | .version => "invalid HTTP version"
  | .headerName => "invalid header name"
  | .headerValue => "invalid header value"
  | .tooManyHeaders => "too many headers"

end SyntaxError

/-- How far reading a piece of the head got. -/
inductive Scan (α : Type) where
  /-- The piece, and the octets after it. -/
  | done (a : α) (rest : List UInt8)
  /-- The octets end before the piece does. -/
  | short
  /-- The octets break the grammar. -/
  | fail (e : SyntaxError)
  deriving Repr

namespace Scan

/-- Applies `f` to a piece that was read. -/
def map {α β : Type} (f : α → β) : Scan α → Scan β
  | .done a r => .done (f a) r
  | .short => .short
  | .fail e => .fail e

/-- Reads on from where a piece ended. -/
def bind {α β : Type} (s : Scan α) (k : α → List UInt8 → Scan β) : Scan β :=
  match s with
  | .done a r => k a r
  | .short => .short
  | .fail e => .fail e

/-- Every rest the scan may leave has at most `n` octets. -/
def RestWithin {α : Type} (s : Scan α) (n : Nat) : Prop := ∀ a r, s = .done a r → r.length ≤ n

theorem restWithin_map {α β : Type} {f : α → β} {s : Scan α} {n : Nat} (h : s.RestWithin n) :
    (s.map f).RestWithin n := by
  intro a r hs
  cases s with
  | done b r' =>
    simp only [map, done.injEq] at hs
    exact hs.2 ▸ h b r' rfl
  | short => cases hs
  | fail e => cases hs

end Scan

/-- An octet of a token: a letter, a digit, or one of ``!#$%&'*+-.^_`|~``. -/
def isTokenOctet (b : UInt8) : Bool :=
  (48 ≤ b && b ≤ 57) || (65 ≤ b && b ≤ 90) || (97 ≤ b && b ≤ 122) ||
    [33, 35, 36, 37, 38, 39, 42, 43, 45, 46, 94, 95, 96, 124, 126].contains b

/-- An octet of a request target: visible ASCII other than space, or any octet from 0x80 up. -/
def isTargetOctet (b : UInt8) : Bool := (33 ≤ b && b ≤ 126) || 128 ≤ b

/-- An octet of a header value: a tab, visible ASCII or space, or any octet from 0x80 up. -/
def isValueOctet (b : UInt8) : Bool := b == 9 || (32 ≤ b && b ≤ 126) || 128 ≤ b

/-- A space or a horizontal tab. -/
def isSpaceOrTab (b : UInt8) : Bool := b == 32 || b == 9

/-- The string of ASCII octets. -/
def asciiString (bs : List UInt8) : String := String.ofList (bs.map fun b => Char.ofNat b.toNat)

/-- A header field as it stands in the head: its name, and its value without the spaces and tabs
around it. -/
structure Field where
  name : String
  value : List UInt8
  deriving DecidableEq, Repr

/-- A request head whose parts have been delimited but not yet interpreted. -/
structure Head where
  /-- The method token. -/
  method : String
  /-- The request target. -/
  target : String
  version : Version
  fields : List Field
  /-- How many octets the head takes, leading empty lines and final empty line included. -/
  size : Nat
  deriving Repr

namespace Head

/-- The most header fields a head may carry. -/
def maxFields : Nat := 64

/-- Skips the empty lines that may precede the request line. -/
def skipEmptyLines : List UInt8 → Scan Unit
  | [] => .short
  | 13 :: rest =>
    match rest with
    | [] => .short
    | 10 :: r => skipEmptyLines r
    | _ :: _ => .fail .newLine
  | 10 :: rest => skipEmptyLines rest
  | b :: rest => .done () (b :: rest)

/-- The rest of a method token, up to the space that ends it. -/
def methodTail : List UInt8 → Scan (List UInt8)
  | [] => .short
  | b :: rest =>
    if b == 32 then .done [] rest
    else if isTokenOctet b then (methodTail rest).map (b :: ·)
    else .fail .token

/-- The method token and the space after it. -/
def readMethod : List UInt8 → Scan String
  | [] => .short
  | b :: rest => if isTokenOctet b then (methodTail rest).map fun t => asciiString (b :: t) else .fail .token

/-- The request target and the space after it; the target is non-empty UTF-8. -/
def readTarget (bs : List UInt8) : Scan String :=
  match bs.dropWhile isTargetOctet with
  | [] => .short
  | b :: rest =>
    let t := bs.takeWhile isTargetOctet
    if b == 32 && !t.isEmpty then
      match Octets.utf8? t with
      | some s => .done s rest
      | none => .fail .token
    else .fail .token

/-- The protocol version at the end of the request line. -/
def readVersion (bs : List UInt8) : Scan Version :=
  match bs with
  | 72 :: 84 :: 84 :: 80 :: 47 :: 49 :: 46 :: d :: rest =>
    if d == 48 then .done .http10 rest else if d == 49 then .done .http11 rest else .fail .version
  | _ => if bs.isPrefixOf (Octets.ofString "HTTP/1.") then .short else .fail .version

/-- The end of a line: CRLF or a bare LF. -/
def readLineEnd : List UInt8 → Scan Unit
  | [] => .short
  | 13 :: rest =>
    match rest with
    | [] => .short
    | 10 :: r => .done () r
    | _ :: _ => .fail .newLine
  | 10 :: rest => .done () rest
  | _ :: _ => .fail .newLine

/-- The rest of a header name, up to its colon. -/
def nameTail : List UInt8 → Scan (List UInt8)
  | [] => .short
  | b :: rest =>
    if b == 58 then .done [] rest
    else if isTokenOctet b then (nameTail rest).map (b :: ·)
    else .fail .headerName

/-- The rest of a header value, up to the end of its line. -/
def valueTail : List UInt8 → Scan (List UInt8)
  | [] => .short
  | b :: rest =>
    if isValueOctet b then (valueTail rest).map (b :: ·)
    else if b == 13 then
      match rest with
      | [] => .short
      | 10 :: r => .done [] r
      | _ :: _ => .fail .headerValue
    else if b == 10 then .done [] rest
    else .fail .headerValue

/-- A header value after the colon: spaces and tabs before it are skipped, and the line may end
with no value at all. -/
def fieldValue : List UInt8 → Scan (List UInt8)
  | [] => .short
  | b :: rest =>
    if isSpaceOrTab b then fieldValue rest
    else if isValueOctet b then (valueTail rest).map (b :: ·)
    else if b == 13 then
      match rest with
      | [] => .short
      | 10 :: r => .done [] r
      | _ :: _ => .fail .headerValue
    else if b == 10 then .done [] rest
    else .fail .headerValue

/-- A header field whose name begins with the token octet `first`. -/
def readField (first : UInt8) (rest : List UInt8) : Scan Field :=
  (nameTail rest).bind fun n r =>
    (fieldValue r).map fun v => ⟨asciiString (first :: n), (v.reverse.dropWhile isSpaceOrTab).reverse⟩

theorem nameTail_rest (bs : List UInt8) : (nameTail bs).RestWithin bs.length := by
  induction bs with
  | nil => intro a r h; cases h
  | cons b rest ih =>
    intro a r h
    simp only [nameTail] at h
    split at h
    · cases h; simp
    · split at h
      · have := Scan.restWithin_map ih a r h; simp; omega
      · cases h

theorem valueTail_rest (bs : List UInt8) : (valueTail bs).RestWithin bs.length := by
  induction bs with
  | nil => intro a r h; cases h
  | cons b rest ih =>
    intro a r h
    simp only [valueTail] at h
    split at h
    · have := Scan.restWithin_map ih a r h; simp; omega
    · split at h
      · split at h
        · cases h
        · cases h; simp; omega
        · cases h
      · split at h
        · cases h; simp
        · cases h

theorem fieldValue_rest (bs : List UInt8) : (fieldValue bs).RestWithin bs.length := by
  induction bs with
  | nil => intro a r h; cases h
  | cons b rest ih =>
    intro a r h
    simp only [fieldValue] at h
    split at h
    · have := ih a r h; simp; omega
    · split at h
      · have := Scan.restWithin_map (valueTail_rest rest) a r h; simp; omega
      · split at h
        · split at h
          · cases h
          · cases h; simp; omega
          · cases h
        · split at h
          · cases h; simp
          · cases h

theorem readField_rest {first : UInt8} {rest r : List UInt8} {f : Field}
    (h : readField first rest = .done f r) : r.length ≤ rest.length := by
  unfold readField Scan.bind at h
  split at h
  · rename_i n r' hn
    have h1 := nameTail_rest rest n r' hn
    have h2 := Scan.restWithin_map (fieldValue_rest r') f r h
    omega
  · cases h
  · cases h

/-- The header fields and the empty line after them; `acc` holds the fields read so far, last
first. A field beyond `limit` is refused after it has been read. -/
def readFields (limit : Nat) (acc : List Field) (bs : List UInt8) : Scan (List Field) :=
  match bs with
  | [] => .short
  | b :: rest =>
    if b == 13 then
      match rest with
      | [] => .short
      | 10 :: r => .done acc.reverse r
      | _ :: _ => .fail .newLine
    else if b == 10 then .done acc.reverse rest
    else if isTokenOctet b then
      match _h : readField b rest with
      | .done f r => if acc.length < limit then readFields limit (f :: acc) r else .fail .tooManyHeaders
      | .short => .short
      | .fail e => .fail e
    else .fail .headerName
termination_by bs.length
decreasing_by
  have := readField_rest _h
  simp only [List.length_cons]
  omega

/-- Reads a request head from the front of `buf`; the rest is what follows the head. -/
def scan (buf : List UInt8) : Scan Head :=
  (skipEmptyLines buf).bind fun _ r1 =>
  (readMethod r1).bind fun m r2 =>
  (readTarget r2).bind fun t r3 =>
  (readVersion r3).bind fun v r4 =>
  (readLineEnd r4).bind fun _ r5 =>
  (readFields maxFields [] r5).bind fun fs r6 =>
  .done ⟨m, t, v, fs, buf.length - r6.length⟩ r6

end Head

end HttpReactor
