import HttpReactor.HeaderMap
/-!
# Requests

A decoded request: its method, target path, protocol version, header map and body. The server
serves seven methods and the two versions of HTTP/1; whether the connection stays open after the
response is decided by the `Connection` header, and otherwise by the version.
-/

namespace HttpReactor

/-- The request methods the server serves. -/
inductive Method where
  | get | post | put | delete | head | options | patch
  deriving DecidableEq, Repr

namespace Method

/-- The method named exactly so, capitals and all. -/
def ofName? : String → Option Method
  | "GET" => some .get
  | "POST" => some .post
  | "PUT" => some .put
  | "DELETE" => some .delete
  | "HEAD" => some .head
  | "OPTIONS" => some .options
  | "PATCH" => some .patch
  | _ => none

/-- The method's name on the wire. -/
def name : Method → String
  | .get => "GET"
  | .post => "POST"
  | .put => "PUT"
  | .delete => "DELETE"
  | .head => "HEAD"
  | .options => "OPTIONS"
  | .patch => "PATCH"

theorem ofName?_name (m : Method) : ofName? m.name = some m := by
  cases m <;> rfl

end Method

/-- The protocol versions the server speaks. -/
inductive Version where
  | http10 | http11
  deriving DecidableEq, Repr

namespace Version

/-- The version HTTP/1.n for the minor number n. -/
def ofMinor? : Nat → Option Version
  | 0 => some .http10
  | 1 => some .http11
  | _ => none

/-- The version's name on the wire. -/
def name : Version → String
  | .http10 => "HTTP/1.0"
  | .http11 => "HTTP/1.1"

end Version

/-- A decoded request. -/
structure Request where
  method : Method
  /-- The request target as sent. -/
  path : String
  version : Version
  /-- The header fields, values trimmed of blanks. -/
  headers : HeaderMap
  /-- Every byte after the head. -/
  body : List UInt8
  deriving DecidableEq, Repr

namespace Request

/-- The value of the header `name`, compared without regard to ASCII case. -/
def header? (r : Request) (name : String) : Option String := r.headers.get? name

/-- Whether the client asks to keep the connection: a `Connection` value of `close` or
`keep-alive` (ASCII case ignored) decides, otherwise HTTP/1.1 keeps it and HTTP/1.0 does not. -/
def keepAlive (r : Request) : Bool :=
  match r.header? "Connection" with
  | some v =>
    if HeaderMap.sameName v "close" then false
    else if HeaderMap.sameName v "keep-alive" then true
    else r.version == .http11
  | none => r.version == .http11

end Request

end HttpReactor
