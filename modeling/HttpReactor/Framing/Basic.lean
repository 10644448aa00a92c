/-!
# Framing verdicts

A connection's bytes arrive in pieces; before a request can be decoded the server must know where
it ends. The framer looks at the buffered bytes and answers with a `Frame`: not enough bytes yet, a
complete request spanning a known range, or a buffer that can never be framed and why.
-/

namespace HttpReactor

/-- Why buffered bytes cannot be framed as a request. -/
inductive FrameError where
  /-- Bytes follow the head, but no Content-Length says how many belong to the body. -/
  | bodyWithoutLength
  /-- A Content-Length value is not a decimal count that fits in 64 bits. -/
  | invalidContentLength
  /-- Two Content-Length lines give different counts. -/
  | conflictingContentLength
  /-- The head names a transfer coding, which this server does not read. -/
  | transferEncoding
  deriving DecidableEq, Repr

namespace FrameError

/-- The sentence that reports the error. -/
def message : FrameError → String
  | .bodyWithoutLength => "request carries a body but no Content-Length"
  | .invalidContentLength => "Content-Length value is not a non-negative integer"
  | .conflictingContentLength => "conflicting Content-Length headers"
  | .transferEncoding => "Transfer-Encoding is not supported"

end FrameError

/-- The framer's verdict on a buffer. -/
inductive Frame where
  /-- More bytes are needed before the first request can be delimited. -/
  | incomplete
  /-- The first request's head ends at `headerEnd` and its body at `finish`. -/
  | complete (headerEnd finish : Nat)
  /-- The buffer holds a request that cannot be delimited. -/
  | malformed (e : FrameError)
  deriving DecidableEq, Repr

namespace Frame

/-- The verdict delimits a request. -/
def isComplete : Frame → Bool
  | .complete .. => true
  | _ => false

end Frame

end HttpReactor
