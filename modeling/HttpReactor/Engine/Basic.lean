import HttpReactor.Connection.Session
import HttpReactor.Dispatch
/-!
# The engine

The engine serves the connections of one event loop. It keeps a session per open connection and
reacts to four events: a connection opens, octets arrive on it, it closes, or the loop's timer
ticks. Arriving octets are framed and dispatched one request after another, as long as the
connection stays open; the responses of one arrival are sent back together.

Shutdown is cooperative: another thread sets a shutdown flag, once and for good, and the engine
only polls it, in every callback and before every dispatch. Once a poll sees the flag, new
connections are refused, the responses say `Connection: close`, and every close or tick tells the
loop to stop. When the flag is set is a matter of timing, so an engine carries the number of the
first poll that sees it (`signaledFrom`) and counts its polls.

Every request the engine decodes goes into a hash map whose hasher is drawn afresh on the loop's
thread, so which hasher a request gets depends on all the loop did before. An engine carries the
hasher of the map decoded at each poll (`hashers`).
-/

namespace HttpReactor

/-- What the engine asks the event loop to do after an event. -/
inductive Action where
  /-- Go on as before. -/
  | proceed
  /-- Close this connection. -/
  | close
  /-- Stop the server. -/
  | shutdown
  deriving DecidableEq, Repr

/-- The engine's answer to arriving octets: octets to send back, and what to do next. -/
structure Reaction where
  out : List UInt8
  action : Action
  deriving DecidableEq, Repr

/-- The engine of one event loop. -/
structure Engine where
  service : Service
  /-- The first poll of the shutdown flag that sees it set, if one does; every later poll sees it
  set too. -/
  signaledFrom : Option Nat
  /-- The hasher of the header map of the request dispatched at each poll. -/
  hashers : Nat → HashOrder
  /-- How many times the engine has polled the shutdown flag. -/
  polls : Nat
  /-- The session of each open connection, by connection identifier. -/
  sessions : List (Nat × Session)

namespace Engine

/-- The interval between two ticks of the loop's timer, in milliseconds. -/
def tickInterval : Nat := 1000

/-- A new engine with no connections, that has not polled the flag yet. -/
def new (service : Service) (signaledFrom : Option Nat) (hashers : Nat → HashOrder) : Engine :=
  ⟨service, signaledFrom, hashers, 0, []⟩

/-- Whether poll `n` sees the shutdown flag set. -/
def signaledAt (e : Engine) (n : Nat) : Bool :=
  match e.signaledFrom with
  | some k => decide (k ≤ n)
  | none => false

/-- Whether the engine's next poll sees the shutdown flag set. -/
def signaled (e : Engine) : Bool := e.signaledAt e.polls

/-- The engine after one more poll of the flag. -/
def polled (e : Engine) : Engine := { e with polls := e.polls + 1 }

/-- Sets the shutdown flag: the next poll sees it, and so does every later one. -/
def signal (e : Engine) : Engine :=
  { e with signaledFrom := some (match e.signaledFrom with | some k => min k e.polls | none => e.polls) }

/-- The session of connection `id`, if it is open. -/
def session? (e : Engine) (id : Nat) : Option Session := (e.sessions.find? (·.1 == id)).map (·.2)

/-- How many connections have a session. -/
def openConnections (e : Engine) : Nat := e.sessions.length

/-- Sets the session of connection `id`, replacing the one it had. -/
def setSession (e : Engine) (id : Nat) (s : Session) : Engine :=
  { e with
    sessions :=
      if e.sessions.any (·.1 == id) then e.sessions.map fun p => if p.1 == id then (id, s) else p
      else e.sessions ++ [(id, s)] }

/-- Forgets the session of connection `id`. -/
def dropSession (e : Engine) (id : Nat) : Engine :=
  { e with sessions := e.sessions.filter fun p => p.1 != id }

/-- Stop once the next poll sees the shutdown flag, else go on. -/
def stopAction (e : Engine) : Action := if e.signaled then .shutdown else .proceed

/-- The loop starts; the flag is polled. -/
def start (e : Engine) : Action × Engine := (e.stopAction, e.polled)

/-- A connection opens: it gets a fresh session, and is refused once the flag is polled set. -/
def connect (e : Engine) (id : Nat) : Action × Engine :=
  (if e.signaled then .close else .proceed, (e.setSession id (.start id)).polled)

/-- A connection closes: its session is forgotten, and the flag is polled. -/
def disconnect (e : Engine) (id : Nat) : Action × Engine := (e.stopAction, (e.dropSession id).polled)

/-- The timer ticks: the delay to the next tick, what to do, and the engine that polled the flag. -/
def tick (e : Engine) : Nat × Action × Engine := (tickInterval, e.stopAction, e.polled)

/-- The dispatch at the engine's next poll: the flag as that poll sees it, and the hasher of the
request's header map decoded there. -/
def dispatchNext (e : Engine) (framed out : List UInt8) : Except DispatchError (List UInt8 × Bool) :=
  dispatch e.service (e.hashers e.polls) framed e.signaled out

theorem frame_buffered (s : Session) : s.frame.2.buffered = s.buffered := by
  unfold Session.frame
  dsimp only
  split <;> rfl

theorem evaluate_complete_pos {buf : List UInt8} {h n : Nat}
    (hf : Framing.evaluate buf = .complete h n) : 0 < n := by
  unfold Framing.evaluate at hf
  split at hf
  · cases hf
  · dsimp only at hf
    split at hf
    · cases hf
    · split at hf
      · cases hf
      · split at hf
        · cases hf
          have : Framing.terminator.length = 4 := rfl
          omega
        · cases hf
      · split at hf
        · cases hf
        · cases hf
          have : Framing.terminator.length = 4 := rfl
          omega

/-- Frames and dispatches the buffered requests of a session one after another, appending their
responses to `out`, until the buffer is empty or incomplete or the connection is to close. The
flag is polled before every dispatch; the engine that comes back has counted those polls. -/
def serve (e : Engine) (s : Session) (out : List UInt8) : Reaction × Session × Engine :=
  match _hf : s.frame with
  | (.incomplete, s1) => (⟨out, .proceed⟩, s1, e)
  | (.malformed _, s1) => (⟨out, .close⟩, s1.markClosing, e)
  | (.complete _headerEnd n, s1) =>
    match e.dispatchNext (s1.buffered.take n) out with
    | .error _ => (⟨out, .close⟩, s1.markClosing, e.polled)
    | .ok (out', false) => (⟨out', .close⟩, s1.markClosing, e.polled)
    | .ok (out', true) =>
      let s2 := s1.consume n
      if _hs : s2.buffered.isEmpty then (⟨out', .proceed⟩, s2, e.polled) else serve e.polled s2 out'
termination_by s.buffered.length
decreasing_by
  have hb : s1.buffered = s.buffered := by rw [← frame_buffered s, _hf]
  have hc : Framing.evaluate s.buffered = .complete _headerEnd n := by
    have := congrArg Prod.fst _hf
    simp only [Session.frame] at this
    exact this
  have hn := evaluate_complete_pos hc
  simp only [s2, Session.consume, Session.buffered, Inbox.contents_consume] at _hs ⊢
  simp only [Session.buffered] at hb
  rw [hb] at _hs ⊢
  simp only [List.length_drop]
  have : 0 < s.inbox.contents.length := by
    cases h : s.inbox.contents with
    | nil => simp [h] at _hs
    | cons _ _ => simp
  omega

/-- Octets arrive on connection `id`. Nothing arrives: nothing happens. An unknown or closing
connection is closed. Otherwise the octets are buffered and the buffered requests served. -/
def receive (e : Engine) (id : Nat) (input : List UInt8) : Reaction × Engine :=
  if input.isEmpty then (⟨[], .proceed⟩, e)
  else
    match e.session? id with
    | none => (⟨[], .close⟩, e)
    | some s =>
      if s.isClosing then (⟨[], .close⟩, e)
      else
        let r := serve e (s.receive input) []
        (r.1, r.2.2.setSession id r.2.1)

end Engine

end HttpReactor
