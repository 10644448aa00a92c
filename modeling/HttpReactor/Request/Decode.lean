import HttpReactor.Request.Head
import HttpReactor.Text.Blank
import HttpReactor.Text.Quoted
/-!
# Decoding a request

A buffer that holds one framed request is decoded in two steps: the head grammar delimits method,
target, version and header fields, and then each part is interpreted. The method must be one the
server serves, and every header value must be UTF-8; values are stored trimmed of blank characters,
and a field whose name is spelled like an earlier one replaces it. The fields go into a hash map,
which visits them in the order its hasher gives. The body is every octet after the head.
-/

namespace HttpReactor

/-- Why a buffer does not decode to a request. -/
inductive DecodeError where
  /-- The head breaks the grammar. -/
  | invalidSyntax (e : SyntaxError)
  /-- The buffer ends inside the head. -/
  | incomplete
  /-- The method token names no method the server serves. -/
  | unsupportedMethod (token : String)
  /-- The value of the named header is not UTF-8. -/
  | invalidHeaderValue (name : String)
  deriving DecidableEq, Repr

namespace DecodeError

/-- The sentence that reports the error. -/
def message : DecodeError → String
  | .invalidSyntax e => "invalid request syntax: " ++ e.message
  | .incomplete => "request head is incomplete"
  | .unsupportedMethod t => "unsupported method " ++ Text.quote t
  | .invalidHeaderValue n => "header " ++ Text.quote n ++ " is not valid UTF-8"

end DecodeError

namespace Request

/-- Adds a header field to a map: its value must be UTF-8, and is stored without blanks around it. -/
def addField (m : HeaderMap) (f : Field) : Except DecodeError HeaderMap :=
  match Octets.utf8? f.value with
  | some v => .ok (m.insert f.name (Text.trimBlank v))
  | none => .error (.invalidHeaderValue f.name)

/-- The header map of a head's fields, set in order. -/
def fieldMap (fs : List Field) : Except DecodeError HeaderMap := fs.foldlM addField HeaderMap.empty

/-- Decodes the request at the front of `buf`: the head by the grammar, the body all that follows.
The header map is a hash map whose hasher `order` decides the order it visits its entries in. -/
def decode (order : HashOrder) (buf : List UInt8) : Except DecodeError Request :=
  match Head.scan buf with
  | .short => .error .incomplete
  | .fail e => .error (.invalidSyntax e)
  | .done h rest =>
    match Method.ofName? h.method with
    | none => .error (.unsupportedMethod h.method)
    | some m =>
      match fieldMap h.fields with
      | .error e => .error e
      | .ok headers => .ok ⟨m, h.target, h.version, ⟨order.arrange headers.entries⟩, rest⟩

end Request

end HttpReactor
