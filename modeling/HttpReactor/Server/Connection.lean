import HttpReactor.Engine.Basic
import HttpReactor.Transport.Sink
/-!
# Serving one connection

An event loop serves each accepted connection through the callbacks of a handler: `onOpen` once,
then `onReadable` for every chunk that a read returns, then `onClosed` once. The octets of each
reaction are written to the stream before the next read; a read may also lose the race to the
server's stop signal. The connection ends on the first callback that does not say `proceed`, on a
read that returns nothing or fails, on the stop signal, or on a failed write, and the server is
told to stop if the connection's last action or `onClosed` asks for it.

The handler and the stream act on one state `ω`, so that the effects of both are seen in the
order in which they happen. The outcomes of the connection's reads are a script: once it runs
out, the connection is still waiting on a read.
-/

namespace HttpReactor

/-- The callbacks of an event handler, on a state `ω`, each given the connection's identifier. -/
structure Handler (ω : Type) where
  onOpen : ω → Nat → Action × ω
  onReadable : ω → Nat → List UInt8 → Reaction × ω
  /-- The connection has closed, with the I/O error that closed it, if any. -/
  onClosed : ω → Nat → Option IoError → Action × ω

/-- The outcome of one read on a connection. -/
inductive Read where
  /-- The read returned these octets; none means the peer has closed its side. -/
  | bytes (data : List UInt8)
  | failed (e : IoError)
  /-- The server's stop signal came before any octet. -/
  | stopped
  deriving DecidableEq, Repr

/-- Where the read loop of a connection stands: waiting on a read, or ended with the I/O error
that ended it and the action it ends on. -/
inductive Drive (ω : Type) where
  | reading (state : ω)
  | ended (err : Option IoError) (action : Action) (state : ω)

/-- Where a connection stands: waiting on a read, or closed, with whether it stops the server. -/
inductive Serving (ω : Type) where
  | reading (state : ω)
  | closed (stop : Bool) (state : ω)

namespace Handler

variable {ω : Type}

/-- Writes a reaction's octets to the stream and flushes it; no octets, no write. -/
def writeOut (k : Sink ω) (out : List UInt8) (w : ω) : Except IoError Unit × ω :=
  if out.isEmpty then (.ok (), w) else k.drain w out

/-- One round of the read loop: the handler reacts to the octets read, and the reaction's output is
written. The reaction, the outcome of the write, and the state after both. -/
def react (h : Handler ω) (k : Sink ω) (conn : Nat) (data : List UInt8) (w : ω) :
    Reaction × Except IoError Unit × ω :=
  match h.onReadable w conn data with
  | (r, w1) =>
    match writeOut k r.out w1 with
    | (res, w2) => (r, res, w2)

/-- Feeds the reads of a connection to the handler until the connection ends. A write that fails
ends it with the write's error and `close`, whatever the reaction asked for. -/
def drive (h : Handler ω) (k : Sink ω) (conn : Nat) : List Read → ω → Drive ω
  | [], w => .reading w
  | .stopped :: _, w => .ended none .close w
  | .failed e :: _, w => .ended (some e) .proceed w
  | .bytes [] :: _, w => .ended none .proceed w
  | .bytes (b :: bs) :: reads, w =>
    match h.react k conn (b :: bs) w with
    | (_, .error e, w2) => .ended (some e) .close w2
    | (r, .ok (), w2) =>
      match r.action with
      | .proceed => drive h k conn reads w2
      | a => .ended none a w2

/-- The connection after `onOpen`: its reads are fed to the handler if `onOpen` said `proceed`;
otherwise it ends at once, with no error, on the action `onOpen` gave. -/
def openDrive (h : Handler ω) (k : Sink ω) (conn : Nat) (reads : List Read) (w : ω) : Drive ω :=
  match h.onOpen w conn with
  | (.proceed, w1) => h.drive k conn reads w1
  | (a, w1) => .ended none a w1

/-- Closes a connection whose read loop has ended, telling `onClosed` the error it ended with. The
server is to stop if the action the loop ended on or the answer of `onClosed` asks for it. -/
def finish (h : Handler ω) (conn : Nat) : Drive ω → Serving ω
  | .reading w => .reading w
  | .ended err action w =>
    match h.onClosed w conn err with
    | (closed, w') => .closed (action == .shutdown || closed == .shutdown) w'

/-- Serves one accepted connection. A stream that cannot be registered with the event loop is
dropped with no callback at all. -/
def serveConnection (h : Handler ω) (k : Sink ω) (conn : Nat) (registered : Bool) (reads : List Read)
    (w : ω) : Serving ω :=
  if registered then h.finish conn (h.openDrive k conn reads w) else .closed false w

end Handler

end HttpReactor
