import HttpReactor.Request.Decode
import HttpReactor.Response.Wire
import HttpReactor.Service
/-!
# Dispatching a framed request

Dispatch turns the octets of one framed request into response octets: decode the request, ask the
service, and write the response after what is already in the output. The connection stays open
only if the server is not shutting down and the request asks to keep it; otherwise the response
says `Connection: close`. A request that does not decode, or a response that cannot be written,
leaves the output as it was.
-/

namespace HttpReactor

/-- Why a framed request produced no response. -/
inductive DispatchError where
  | decode (e : DecodeError)
  | write (e : WriteError)
  deriving DecidableEq, Repr

namespace DispatchError

/-- The sentence that reports the error. -/
def message : DispatchError → String
  | .decode e => e.message
  | .write e => e.message

end DispatchError

/-- Serves one framed request: the output with the response appended, and whether the connection
stays open. `order` is the hasher of the request's header map, and `closing` says the server is
shutting down. -/
def dispatch (service : Service) (order : HashOrder) (framed : List UInt8) (closing : Bool)
    (out : List UInt8) : Except DispatchError (List UInt8 × Bool) :=
  match Request.decode order framed with
  | .error e => .error (.decode e)
  | .ok request =>
    let keepAlive := !closing && request.keepAlive
    let response := service request
    let response := if keepAlive then response else response.setHeader "Connection" "close"
    match response.writeOnto out with
    | .error e => .error (.write e)
    | .ok out' => .ok (out', keepAlive)

end HttpReactor
