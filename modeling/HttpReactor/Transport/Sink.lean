/-!
# Writing to a stream

A stream takes the octets offered to it a piece at a time: each write takes some octets from the
front of what is offered, or fails. A `ResponseWriter` holds a buffer and how many of its octets the
stream has taken so far; writing it out repeats writes on what is left until nothing is, then
flushes once. A write that takes nothing means the peer has gone, and is reported as an error
rather than retried forever.

Every write either moves the count forward or ends the loop, so the loop terminates by the length
of the buffer.
-/

namespace HttpReactor

/-- A failure of an input or output operation: its kind and its sentence. -/
structure IoError where
  kind : String
  message : String
  deriving DecidableEq, Repr

namespace IoError

/-- The stream took no octets of a write: the peer has stopped reading. -/
def writeZero : IoError := ⟨"WriteZero", "connection closed while writing"⟩

end IoError

/-- The answer of a stream to one write. -/
inductive WriteReply where
  /-- The stream took this many octets from the front of the slice. -/
  | took (n : Nat)
  /-- The write failed. -/
  | failed (e : IoError)
  deriving DecidableEq, Repr

/-- A stream that octets are written to, with its state of type `σ`. -/
structure Sink (σ : Type) where
  /-- Offers a slice; the stream answers and moves to a new state. -/
  write : σ → List UInt8 → WriteReply × σ
  /-- Pushes out what the stream holds; it may fail, and moves to a new state either way. -/
  flush : σ → Except IoError Unit × σ

/-- A buffer on its way to a stream, with how many of its octets the stream has taken. -/
structure ResponseWriter where
  buffer : List UInt8
  written : Nat
  deriving DecidableEq, Repr

namespace ResponseWriter

/-- A writer for `buffer` that has written nothing yet. -/
def new (buffer : List UInt8) : ResponseWriter := ⟨buffer, 0⟩

/-- Offers the stream what is left of the buffer until it has taken all of it, then flushes: the
outcome, the writer as it was left, and the stream's last state. -/
def writeToStream {σ : Type} (k : Sink σ) (w : ResponseWriter) (s : σ) :
    Except IoError Unit × ResponseWriter × σ :=
  if w.written < w.buffer.length then
    match k.write s (w.buffer.drop w.written) with
    | (.failed e, s') => (.error e, w, s')
    | (.took 0, s') => (.error .writeZero, w, s')
    | (.took (n + 1), s') => writeToStream k { w with written := w.written + (n + 1) } s'
  else
    let (r, s') := k.flush s
    (r, w, s')
termination_by w.buffer.length - w.written

end ResponseWriter

namespace Sink

/-- Writes all of `data` to the stream, then flushes it; the outcome and the stream's last state. -/
def drain {σ : Type} (k : Sink σ) (s : σ) (data : List UInt8) : Except IoError Unit × σ :=
  let r := (ResponseWriter.new data).writeToStream k s
  (r.1, r.2.2)

/-- The state of a recording stream: the octets it took, and how many flushes it saw. -/
structure Record where
  taken : Array UInt8
  flushes : Nat
  deriving DecidableEq, Repr

/-- A stream that takes at most `chunk` octets per write and `capacity` octets in all, when these
are given, and records what it took; once full, its writes take nothing. A write takes the front
of the slice up to the smaller of the two limits, or all of it. -/
def bounded (chunk capacity : Option Nat) : Sink Record where
  write r slice :=
    let want := chunk.getD slice.length
    let room := match capacity with
      | some c => c - r.taken.size
      | none => want
    let part := slice.take (min want room)
    (.took part.length, { r with taken := r.taken ++ part.toArray })
  flush r := (.ok (), { r with flushes := r.flushes + 1 })

end Sink

end HttpReactor
