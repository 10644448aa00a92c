import HttpReactor.HeaderMap
/-!
# Responses

A response is a status, a header map and a body. Responses are built from a header map and a
body; building adds a `Content-Length` header with the body's length unless the map already holds
one, in any case. Setting a header afterwards removes every entry of that name, in any case, before
adding the new one.
-/

namespace HttpReactor

/-- The response statuses the server sends. -/
inductive Status where
  /-- 200: the request succeeded. -/
  | ok
  deriving DecidableEq, Repr

namespace Status

/-- The three-digit status code. -/
def code : Status → Nat
  | .ok => 200

/-- The reason phrase sent after the code. -/
def reason : Status → String
  | .ok => "OK"

end Status

/-- A response to one request. -/
structure Response where
  status : Status
  headers : HeaderMap
  body : List UInt8
  deriving DecidableEq, Repr

namespace Response

/-- The name of the header that gives the body's length. -/
def contentLengthName : String := "Content-Length"

/-- A response with the given headers and body, with a `Content-Length` header for the body added
unless the headers already name one in some case. -/
def build (status : Status) (headers : HeaderMap) (body : List UInt8) : Response :=
  if headers.contains contentLengthName then ⟨status, headers, body⟩
  else ⟨status, headers.insert contentLengthName (toString body.length), body⟩

/-- A 200 response carrying `body` and only its length header. -/
def ok (body : List UInt8) : Response := build .ok .empty body

/-- Sets the header `name` to `value`, dropping every entry of that name in any case first. -/
def setHeader (r : Response) (name value : String) : Response :=
  { r with headers := (r.headers.erase name).insert name value }

end Response

end HttpReactor
