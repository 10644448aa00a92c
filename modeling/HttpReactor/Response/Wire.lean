import HttpReactor.Response.Basic
import HttpReactor.Text.Quoted
/-!
# Responses on the wire

A response goes out as the status line `HTTP/1.1 <code> <reason>`, one line `Name: value` per
header in byte order of the names, an empty line and the body; every line ends in CRLF. Before
anything is written every header is checked: a name must be one or more visible ASCII octets other
than the colon, and a value may hold no CR, LF or NUL, so no header can break the framing of the
message. The first failing header in name order is reported and nothing is written.
-/

namespace HttpReactor

/-- Why a response cannot be written. -/
inductive WriteError where
  /-- The named header has a name or a value that cannot go on the wire. -/
  | invalidHeader (name : String)
  deriving DecidableEq, Repr

namespace WriteError

/-- The sentence that reports the error. -/
def message : WriteError → String
  | .invalidHeader n => "invalid response header " ++ Text.quote n

end WriteError

namespace Response

/-- A header name is one or more visible ASCII octets, none of them a colon. -/
def validName (name : String) : Bool :=
  let bs := Octets.ofString name
  !bs.isEmpty && bs.all fun b => 33 ≤ b && b ≤ 126 && b != 58

/-- A header value holds no carriage return, line feed or NUL. -/
def validValue (value : String) : Bool :=
  (Octets.ofString value).all fun b => b != 13 && b != 10 && b != 0

/-- The header can go on the wire as it is. -/
def validHeader (e : String × String) : Bool := validName e.1 && validValue e.2

/-- The octets of one header line. -/
def headerLine (e : String × String) : List UInt8 :=
  Octets.ofString e.1 ++ Octets.ofString ": " ++ Octets.ofString e.2 ++ Octets.crlf

/-- The status line, with its line ending. -/
def statusLine (s : Status) : List UInt8 :=
  Octets.ofString ("HTTP/1.1 " ++ toString s.code ++ " " ++ s.reason) ++ Octets.crlf

/-- The octets of the response, or the first header in name order that cannot be written. -/
def encode (r : Response) : Except WriteError (List UInt8) :=
  let hs := r.headers.sorted
  match hs.find? fun e => !validHeader e with
  | some e => .error (.invalidHeader e.1)
  | none => .ok (statusLine r.status ++ (hs.flatMap headerLine) ++ Octets.crlf ++ r.body)

/-- Appends the response to `out`; on an error `out` stays as it was. -/
def writeOnto (r : Response) (out : List UInt8) : Except WriteError (List UInt8) :=
  (r.encode).map (out ++ ·)

end Response

end HttpReactor
