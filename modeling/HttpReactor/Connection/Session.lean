import HttpReactor.Connection.Inbox
import HttpReactor.Framing.Scan
/-!
# Connection sessions

A session follows one connection through the life of its requests. It is `empty` while nothing is
buffered, `accumulating` while octets wait for a complete request, `ready` once the buffered octets
frame a complete request, and `closing` once the connection is to be closed; received octets do not
reopen a closing session, but consuming octets does set the state from what is left.
-/

namespace HttpReactor

/-- Where a connection stands between requests. -/
inductive SessionState where
  | empty | accumulating | ready | closing
  deriving DecidableEq, Repr

/-- The state of one connection: its identifier, its unconsumed octets and where it stands. -/
structure Session where
  id : Nat
  inbox : Inbox
  state : SessionState
  deriving DecidableEq, Repr

namespace Session

/-- A fresh session for connection `id`. -/
def start (id : Nat) : Session := ⟨id, .empty, .empty⟩

/-- The octets buffered and not yet consumed. -/
def buffered (s : Session) : List UInt8 := s.inbox.contents

/-- The session is closing. -/
def isClosing (s : Session) : Bool := s.state == .closing

/-- Buffers received octets; non-empty input makes the session accumulate unless it is closing. -/
def receive (s : Session) (input : List UInt8) : Session :=
  { s with
    inbox := s.inbox.append input
    state := if !input.isEmpty && s.state != .closing then .accumulating else s.state }

/-- The framer's verdict on the buffered octets; a complete request makes the session ready. -/
def frame (s : Session) : Frame × Session :=
  let f := Framing.evaluate s.buffered
  (f, if f.isComplete then { s with state := .ready } else s)

/-- Consumes `n` buffered octets; the session is then empty or accumulating by what is left. -/
def consume (s : Session) (n : Nat) : Session :=
  let i := s.inbox.consume n
  { s with inbox := i, state := if i.isEmpty then .empty else .accumulating }

/-- Drops the buffered octets and starts over. -/
def reset (s : Session) : Session := { s with inbox := .empty, state := .empty }

/-- Marks the session as closing. -/
def markClosing (s : Session) : Session := { s with state := .closing }

end Session

end HttpReactor
