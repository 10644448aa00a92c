import HttpReactor.Proofs.EngineRun

/-!
# The session state machine

A session is driven by five operations: buffering received octets, asking the framer about them, consuming a served
request, starting over, and marking the connection closing. Whatever sequence of them is applied to a fresh session,
its state stays coherent with what it buffers (`Session.Coherent`): an empty session holds nothing, an accumulating one
holds something, and a ready one holds octets that the framer finds complete. Receiving never takes a session out of
closing, and no operation changes the connection's identifier.

The ready clause rests on one fact: only the framer's own complete verdict makes a session ready, and every operation
that changes the octets afterwards also sets the state (receiving non-empty input makes the session accumulate,
consuming sets it from what is left). Receiving nothing changes nothing.

`Session.coherent_apply` is the step lemma, one case per operation; `Session.coherent_applyAll` runs it over a sequence,
and `Session.start_applyAll_coherent` states the whole invariant for every sequence applied to a fresh session.
-/

namespace HttpReactor

namespace Session

/-- An operation on a session. -/
inductive Op where
  /-- Buffer received octets. -/
  | receive (input : List UInt8)
  /-- Ask the framer about the buffered octets. -/
  | frame
  /-- Consume `n` buffered octets after a request was served. -/
  | consume (n : Nat)
  /-- Drop everything buffered and start over. -/
  | reset
  /-- Mark the connection closing. -/
  | markClosing
  deriving DecidableEq, Repr

/-- The session after one operation; the framer's verdict is the caller's and is not kept. -/
def apply (s : Session) : Op → Session
  | .receive input => s.receive input
  | .frame => s.frame.2
  | .consume n => s.consume n
  | .reset => s.reset
  | .markClosing => s.markClosing

/-- The session after a sequence of operations, applied in order. -/
def applyAll (s : Session) (ops : List Op) : Session := ops.foldl apply s

@[simp] theorem applyAll_nil (s : Session) : s.applyAll [] = s := rfl

@[simp] theorem applyAll_cons (s : Session) (op : Op) (ops : List Op) :
    s.applyAll (op :: ops) = (s.apply op).applyAll ops := rfl

@[simp] theorem id_reset (s : Session) : s.reset.id = s.id := rfl

@[simp] theorem id_frame (s : Session) : s.frame.2.id = s.id := by
  rw [Engine.frame_eq]
  split <;> rfl

theorem frame_of_complete {s : Session} (h : (Framing.evaluate s.buffered).isComplete = true) :
    s.frame.2 = { s with state := .ready } := by
  rw [Engine.frame_eq, if_pos h]

theorem frame_of_not_complete {s : Session} (h : (Framing.evaluate s.buffered).isComplete = false) :
    s.frame.2 = s := by
  rw [Engine.frame_eq, if_neg (by simp [h])]

/-- Receiving octets leaves a closing session closing. -/
theorem state_receive_of_closing {s : Session} (h : s.state = .closing) (input : List UInt8) :
    (s.receive input).state = .closing := by
  simp [state_receive, h]

/-- No operation changes the connection a session belongs to. -/
@[simp] theorem id_apply (s : Session) (op : Op) : (s.apply op).id = s.id := by
  cases op <;> simp [apply]

theorem id_applyAll (s : Session) (ops : List Op) : (s.applyAll ops).id = s.id := by
  induction ops generalizing s with
  | nil => rfl
  | cons op ops ih => rw [applyAll_cons, ih, id_apply]

/-! ## The invariant -/

/-- The state of a session agrees with what it buffers. A closing session may hold anything. -/
structure Coherent (s : Session) : Prop where
  /-- An empty session holds nothing. -/
  empty : s.state = .empty → s.buffered = []
  /-- An accumulating session holds part of a request. -/
  accumulating : s.state = .accumulating → s.buffered ≠ []
  /-- A ready session holds octets that the framer finds complete. -/
  ready : s.state = .ready → (Framing.evaluate s.buffered).isComplete = true

theorem coherent_start (id : Nat) : (start id).Coherent where
  empty _ := rfl
  accumulating h := nomatch h
  ready h := nomatch h

/-- A closing session is coherent, whatever it holds. -/
theorem coherent_of_closing {s : Session} (h : s.state = .closing) : s.Coherent where
  empty he := nomatch h.symm.trans he
  accumulating ha := nomatch h.symm.trans ha
  ready hr := nomatch h.symm.trans hr

/-- Received octets keep a session coherent: nothing received changes nothing, octets received by a closing session
leave it closing, and any other session accumulates a non-empty buffer. -/
theorem coherent_receive {s : Session} (hs : s.Coherent) (input : List UInt8) : (s.receive input).Coherent := by
  cases input with
  | nil => simpa using hs
  | cons b bs =>
    by_cases hc : s.state = .closing
    · exact coherent_of_closing (state_receive_of_closing hc _)
    · have hst : (s.receive (b :: bs)).state = .accumulating := by simp [state_receive, hc]
      exact {
        empty := fun he => nomatch hst.symm.trans he
        accumulating := fun _ => by simp
        ready := fun hr => nomatch hst.symm.trans hr }

/-- Asking the framer keeps a session coherent: a complete verdict makes it ready on the very octets the verdict is
about, and any other verdict leaves it as it was. -/
theorem coherent_frame {s : Session} (hs : s.Coherent) : s.frame.2.Coherent := by
  cases hv : (Framing.evaluate s.buffered).isComplete with
  | true =>
    rw [frame_of_complete hv]
    exact {
      empty := fun he => nomatch he
      accumulating := fun ha => nomatch ha
      ready := fun _ => hv }
  | false =>
    rw [frame_of_not_complete hv]
    exact hs

/-- Consuming sets the state from what is left, so it makes any session coherent. -/
theorem coherent_consume (s : Session) (n : Nat) : (s.consume n).Coherent := by
  have hst := state_consume s n
  constructor
  · intro he
    rw [he] at hst
    split at hst
    · rename_i hnil
      rwa [buffered_consume]
    · cases hst
  · intro ha
    rw [ha] at hst
    split at hst
    · cases hst
    · rename_i hne
      rwa [buffered_consume]
  · intro hr
    rw [hr] at hst
    split at hst <;> cases hst

theorem coherent_reset (s : Session) : s.reset.Coherent where
  empty _ := rfl
  accumulating h := nomatch h
  ready h := nomatch h

/-- The step lemma: every operation keeps a session coherent. -/
theorem coherent_apply {s : Session} (hs : s.Coherent) (op : Op) : (s.apply op).Coherent := by
  cases op with
  | receive input => exact coherent_receive hs input
  | frame => exact coherent_frame hs
  | consume n => exact coherent_consume s n
  | reset => exact coherent_reset s
  | markClosing => exact coherent_of_closing rfl

/-- The run lemma: a coherent session stays coherent under any sequence of operations. -/
theorem coherent_applyAll {s : Session} (hs : s.Coherent) (ops : List Op) : (s.applyAll ops).Coherent := by
  induction ops generalizing s with
  | nil => exact hs
  | cons op ops ih => exact ih (coherent_apply hs op)

/-- Whatever sequence of operations is applied to a fresh session, the session it leaves is coherent: empty means
nothing is buffered, accumulating means something is, and ready means the framer finds the buffered octets complete.
Receiving octets in that session does not take it out of closing, and it still belongs to its connection. Every prefix
of a sequence is a sequence, so this holds after every operation of a run. -/
theorem start_applyAll_coherent (id : Nat) (ops : List Op) :
    ((start id).applyAll ops).Coherent ∧ ((start id).applyAll ops).id = id ∧
      ∀ input, ((start id).applyAll ops).state = .closing →
        (((start id).applyAll ops).receive input).state = .closing :=
  ⟨coherent_applyAll (coherent_start id) ops, id_applyAll (start id) ops, fun input h => state_receive_of_closing h input⟩

example : ((start 7).applyAll [.receive [71], .markClosing, .receive [69], .consume 1]).buffered = [69] := by
  decide

end Session

end HttpReactor
