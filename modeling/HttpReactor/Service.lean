import HttpReactor.Request.Basic
import HttpReactor.Response.Basic
/-!
# Services

A service answers each request with a response and depends on nothing else. The server comes with
one service, `echo`, which sends the request body back as opaque octets. Two more serve as test
services: `describe` answers with a one-line summary of the request, and `fixed` gives the same
response to every request.

A request's header map visits its entries in the order of its hasher, so a service that reads the
headers may see them in any order. `Service.OrderBlind` says that the order does not change the
response.
-/

namespace HttpReactor

/-- A service: the response to each request. -/
def Service := Request → Response

namespace Service

/-- Sends the request body back, typed as opaque octets. -/
def echo : Service := fun r =>
  Response.build .ok (HeaderMap.empty.insert "Content-Type" "application/octet-stream") r.body

/-- Answers with `<method> <path> <version> <body length>`. -/
def describe : Service := fun r =>
  Response.ok (Octets.ofString
    (r.method.name ++ " " ++ r.path ++ " " ++ r.version.name ++ " " ++ toString r.body.length))

/-- Answers every request with the given headers and body. -/
def fixed (headers : List (String × String)) (body : List UInt8) : Service := fun _ =>
  Response.build .ok (HeaderMap.ofList headers) body

/-- The response does not depend on the order in which the request's header map visits its
entries. -/
def OrderBlind (service : Service) : Prop :=
  ∀ (r : Request) (l : List (String × String)), l.Perm r.headers.entries →
    service { r with headers := ⟨l⟩ } = service r

/-- Echoing reads the body only. -/
theorem echo_orderBlind : echo.OrderBlind := fun _ _ _ => rfl

end Service

end HttpReactor
