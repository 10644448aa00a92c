import HttpReactor.Engine.Basic
import HttpReactor.Proofs.FramePrefix
import HttpReactor.Proofs.Hashers

/-!
# The engine under an event loop

The engine reacts to one callback at a time. This module states once what each part of a reaction does, so that the
theorems about runs of callbacks never open the definitions again: the session operations (`Session.receive_receive`,
`Session.receive_consume`), the session table (`Engine.session?_setSession_self`, `Engine.setSession_setSession`), the
dispatcher (`dispatch_out`: a response is appended to the output and depends on nothing else) and the pipelining loop
(`Engine.serve_eq`).

The loop's effect on the outside world is more than its reaction: it asks the framer for verdicts and hands framed
requests to the dispatcher, each after a poll of the shutdown flag. `Engine.serveLog` is the same loop with those calls
written down in order, each dispatch with the flag it saw and the octets it sent, and `serveLog_fst` says it reacts
exactly as `Engine.serve` does. The loop reads its surroundings only through the answers of its dispatches, so two
engines that give the same answers to the requests it frames run it alike (`Engine.serveLog_congr`), as an oracle
machine runs alike under two oracles that agree on its queries.

An event loop drives the engine with `Event`s; `Engine.trace` records, for every event, what the engine answered and
which calls it made. No event changes the service, the flag's schedule or the hashers, and the polls only go up
(`Engine.Later`).
-/

namespace HttpReactor

/-! ## Sessions -/

namespace Session

@[simp] theorem buffered_receive (s : Session) (input : List UInt8) :
    (s.receive input).buffered = s.buffered ++ input := rfl

@[simp] theorem id_receive (s : Session) (input : List UInt8) : (s.receive input).id = s.id := rfl

@[simp] theorem buffered_consume (s : Session) (n : Nat) : (s.consume n).buffered = s.buffered.drop n :=
  Inbox.contents_consume s.inbox n

@[simp] theorem id_consume (s : Session) (n : Nat) : (s.consume n).id = s.id := rfl

@[simp] theorem buffered_markClosing (s : Session) : s.markClosing.buffered = s.buffered := rfl

@[simp] theorem state_markClosing (s : Session) : s.markClosing.state = .closing := rfl

@[simp] theorem id_markClosing (s : Session) : s.markClosing.id = s.id := rfl

theorem state_receive (s : Session) (input : List UInt8) :
    (s.receive input).state = if !input.isEmpty && s.state != .closing then .accumulating else s.state := rfl

theorem state_consume (s : Session) (n : Nat) :
    (s.consume n).state = if s.buffered.drop n = [] then .empty else .accumulating := by
  simp only [consume, Inbox.isEmpty, Inbox.contents_consume, List.isEmpty_iff]
  rfl

/-- Two sessions of one connection with the same octets and the same state are the same session. -/
theorem ext_buffered {s t : Session} (hi : s.id = t.id) (hb : s.buffered = t.buffered) (hs : s.state = t.state) :
    s = t := by
  obtain ⟨i, ⟨c⟩, st⟩ := s
  obtain ⟨i', ⟨c'⟩, st'⟩ := t
  simp only [buffered] at hb
  simp only at hi hs
  subst hi hb hs
  rfl

/-- Receiving twice is receiving the octets together. -/
theorem receive_receive (s : Session) (a b : List UInt8) : (s.receive a).receive b = s.receive (a ++ b) := by
  refine ext_buffered rfl (by simp) ?_
  by_cases hs : s.state = .closing
  · cases a <;> cases b <;> simp [hs, state_receive]
  · cases a <;> cases b <;> simp [hs, state_receive]

@[simp] theorem receive_nil (s : Session) : s.receive [] = s :=
  ext_buffered rfl (by simp) (by simp [state_receive])

/-- Consuming a served request commutes with receiving more octets behind it. -/
theorem receive_consume (s : Session) {n : Nat} {input : List UInt8} (hn : n ≤ s.buffered.length)
    (hi : input ≠ []) : (s.receive input).consume n = (s.consume n).receive input := by
  refine ext_buffered rfl (by simp [List.drop_append_of_le_length hn]) ?_
  have hd : (s.receive input).buffered.drop n ≠ [] := by simp [List.drop_append_of_le_length hn, hi]
  have hc : (s.consume n).state ≠ .closing := by
    rw [state_consume]
    split <;> simp
  rw [state_consume, if_neg hd, state_receive]
  cases input with
  | nil => exact absurd rfl hi
  | cons _ _ => simp [hc]

end Session

/-! ## The engine's record -/

namespace Engine

section Fields

variable (e : Engine) (id : Nat) (s : Session)

@[simp] theorem service_setSession : (e.setSession id s).service = e.service := rfl
@[simp] theorem signaledFrom_setSession : (e.setSession id s).signaledFrom = e.signaledFrom := rfl
@[simp] theorem hashers_setSession : (e.setSession id s).hashers = e.hashers := rfl
@[simp] theorem polls_setSession : (e.setSession id s).polls = e.polls := rfl
@[simp] theorem service_dropSession : (e.dropSession id).service = e.service := rfl
@[simp] theorem signaledFrom_dropSession : (e.dropSession id).signaledFrom = e.signaledFrom := rfl
@[simp] theorem hashers_dropSession : (e.dropSession id).hashers = e.hashers := rfl
@[simp] theorem polls_dropSession : (e.dropSession id).polls = e.polls := rfl
@[simp] theorem service_polled : e.polled.service = e.service := rfl
@[simp] theorem signaledFrom_polled : e.polled.signaledFrom = e.signaledFrom := rfl
@[simp] theorem hashers_polled : e.polled.hashers = e.hashers := rfl
@[simp] theorem polls_polled : e.polled.polls = e.polls + 1 := rfl
@[simp] theorem session?_polled : e.polled.session? id = e.session? id := rfl
@[simp] theorem signaled_setSession : (e.setSession id s).signaled = e.signaled := rfl
@[simp] theorem polled_setSession : (e.setSession id s).polled = e.polled.setSession id s := rfl
theorem dispatchNext_setSession (framed out : List UInt8) :
    (e.setSession id s).dispatchNext framed out = e.dispatchNext framed out := rfl

/-- Whether a poll sees the flag depends on the schedule alone. -/
theorem signaledAt_congr {e e' : Engine} (h : e.signaledFrom = e'.signaledFrom) (n : Nat) :
    e.signaledAt n = e'.signaledAt n := by
  unfold signaledAt
  rw [h]

end Fields

/-- Once a poll sees the flag, every later poll sees it: nothing clears it. -/
theorem signaledAt_mono (e : Engine) {m n : Nat} (hmn : m ≤ n) (h : e.signaledAt m = true) : e.signaledAt n = true := by
  unfold signaledAt at h ⊢
  split at h
  · simp only [decide_eq_true_eq] at h ⊢
    omega
  · cases h

/-! ## The session table -/

theorem session?_setSession_self (e : Engine) (id : Nat) (s : Session) : (e.setSession id s).session? id = some s := by
  unfold setSession session?
  dsimp only
  split
  · rename_i hany
    obtain ⟨p, hp⟩ : ∃ p, e.sessions.find? (·.1 == id) = some p :=
      Option.isSome_iff_exists.1 (List.find?_isSome.2 (by simpa using List.any_eq_true.1 hany))
    have hk : p.1 = id := by simpa using List.find?_some hp
    rw [find?_map_replace, hp]
    simp [hk]
  · rename_i hany
    have hnone : e.sessions.find? (·.1 == id) = none := by
      rw [List.find?_eq_none]
      intro p hp hpk
      exact hany (List.any_eq_true.2 ⟨p, hp, hpk⟩)
    simp [List.find?_append, hnone]

theorem session?_setSession_of_ne (e : Engine) {id id' : Nat} (s : Session) (h : id' ≠ id) :
    (e.setSession id s).session? id' = e.session? id' := by
  unfold setSession session?
  dsimp only
  split
  · rw [find?_map_replace]
    cases hp : e.sessions.find? (·.1 == id') with
    | none => rfl
    | some p =>
      have hk : p.1 = id' := by simpa using List.find?_some hp
      simp [hk, h]
  · simp [List.find?_append, Ne.symm h]

/-- Setting a session twice keeps the second. -/
theorem setSession_setSession (e : Engine) (id : Nat) (s s' : Session) :
    (e.setSession id s).setSession id s' = e.setSession id s' := by
  unfold setSession
  congr 1
  dsimp only
  split
  · rename_i hany
    have hany' : (e.sessions.map fun p => if p.1 == id then (id, s) else p).any (·.1 == id) = true := by
      obtain ⟨q, hq, hq'⟩ := List.any_eq_true.1 hany
      exact List.any_eq_true.2 ⟨(id, s), List.mem_map.2 ⟨q, hq, by simp [hq']⟩, by simp⟩
    simp only [hany', if_true, List.map_map]
    congr 1
    funext p
    by_cases hp : p.1 = id <;> simp [hp]
  · rename_i hany
    have hany' : (e.sessions ++ [(id, s)]).any (·.1 == id) = true := by simp
    simp only [hany', if_true, List.map_append, List.map_cons, List.map_nil, BEq.rfl, if_true]
    congr 1
    refine (List.map_congr_left fun p hp => ?_).trans (List.map_id e.sessions)
    have hk : (p.1 == id) = false := by
      rw [Bool.eq_false_iff]
      intro hk
      exact hany (List.any_eq_true.2 ⟨p, hp, hk⟩)
    simp [hk]

theorem session?_dropSession_self (e : Engine) (id : Nat) : (e.dropSession id).session? id = none := by
  simp [dropSession, session?, List.find?_filter]

theorem session?_dropSession_of_ne (e : Engine) {id id' : Nat} (h : id' ≠ id) :
    (e.dropSession id).session? id' = e.session? id' := by
  simp only [dropSession, session?]
  congr 1
  rw [List.find?_filter]
  apply congrArg (List.find? · e.sessions)
  funext p
  by_cases hp : p.1 = id'
  · simp [hp, h]
  · simp [hp]

end Engine

/-! ## The dispatcher and the pipelining loop -/

/-- A response is appended to the output: what dispatch writes does not depend on what the output already holds, and
a failed dispatch leaves it as it was. -/
theorem dispatch_out (service : Service) (order : HashOrder) (framed : List UInt8) (closing : Bool)
    (out : List UInt8) :
    dispatch service order framed closing out =
      (dispatch service order framed closing []).map fun r => (out ++ r.1, r.2) := by
  unfold dispatch
  split
  · rfl
  next request _ =>
    -- the response does not depend on the output; only its encoding is appended
    dsimp only
    generalize (if (!closing && request.keepAlive) = true then service request
      else (service request).setHeader "Connection" "close") = response
    unfold Response.writeOnto
    cases response.encode <;> rfl

namespace Engine

theorem dispatchNext_out (e : Engine) (framed out : List UInt8) :
    e.dispatchNext framed out = (e.dispatchNext framed []).map fun r => (out ++ r.1, r.2) :=
  dispatch_out _ _ _ _ out

theorem frame_eq (s : Session) :
    s.frame = (Framing.evaluate s.buffered,
      if (Framing.evaluate s.buffered).isComplete then { s with state := .ready } else s) := rfl

/-- One turn of the pipelining loop, by the framer's verdict on the buffered octets. -/
theorem serve_eq (e : Engine) (s : Session) (out : List UInt8) :
    serve e s out =
      match Framing.evaluate s.buffered with
      | .incomplete => (⟨out, .proceed⟩, s, e)
      | .malformed _ => (⟨out, .close⟩, s.markClosing, e)
      | .complete _ n =>
        match e.dispatchNext (s.buffered.take n) out with
        | .error _ => (⟨out, .close⟩, s.markClosing, e.polled)
        | .ok (out', false) => (⟨out', .close⟩, s.markClosing, e.polled)
        | .ok (out', true) =>
          if (s.consume n).buffered.isEmpty then (⟨out', .proceed⟩, s.consume n, e.polled)
          else serve e.polled (s.consume n) out' := by
  rw [serve]
  split
  · rename_i s1 heq
    simp only [frame_eq, Prod.mk.injEq] at heq
    obtain ⟨hf, rfl⟩ := heq
    simp [hf, Frame.isComplete]
  · rename_i s1 heq
    simp only [frame_eq, Prod.mk.injEq] at heq
    obtain ⟨hf, rfl⟩ := heq
    simp [hf, Frame.isComplete]
  · rename_i h n s1 heq
    simp only [frame_eq, Prod.mk.injEq] at heq
    obtain ⟨hf, rfl⟩ := heq
    simp only [hf, Frame.isComplete, if_true]
    -- the loop frames a copy of the session marked ready; consuming and closing overwrite that mark
    show (match e.dispatchNext (s.buffered.take n) out with
      | .error _ => _ | .ok (_, false) => _ | .ok (_, true) => _) = _
    rcases e.dispatchNext (s.buffered.take n) out with _ | ⟨out', _ | _⟩ <;> rfl

/-- Serving a complete request leaves fewer octets behind. -/
theorem consume_length_lt {s : Session} {h n : Nat} (hf : Framing.evaluate s.buffered = .complete h n)
    (hs : ¬(s.consume n).buffered.isEmpty) : (s.consume n).buffered.length < s.buffered.length := by
  have ⟨h4, hle, _⟩ := Framing.evaluate_complete_le hf
  have : s.buffered ≠ [] := by
    intro hnil
    simp [hnil] at hs
  simp only [Session.buffered_consume, List.length_drop]
  have := List.length_pos_iff.2 this
  omega

end Engine

/-! ## The loop's calls -/

/-- A call the pipelining loop makes on its way to a reaction. -/
inductive Call where
  /-- The framer gave this verdict on the buffered octets. -/
  | frame (verdict : Frame)
  /-- The dispatcher was handed these framed octets, after a poll that saw the flag as `signaled` says, and appended
  `sent` to the output. -/
  | dispatch (framed : List UInt8) (signaled : Bool) (sent : List UInt8)
  deriving DecidableEq, Repr

/-- The octets a call handed to the dispatcher, if it is a dispatch. -/
def Call.framed? : Call → Option (List UInt8)
  | .dispatch framed _ _ => some framed
  | .frame _ => none

/-- The octets a call appended to the output. -/
def Call.sent : Call → List UInt8
  | .dispatch _ _ sent => sent
  | .frame _ => []

/-- What one run of the pipelining loop gives: the reaction, the session and the engine after it, and the calls made on
the way. -/
structure Served where
  reaction : Reaction
  session : Session
  engine : Engine
  calls : List Call

namespace Engine

/-- The pipelining loop of `serve`, with the calls it makes to the framer and to the dispatcher, in order. -/
def serveLog (e : Engine) (s : Session) (out : List UInt8) : Served :=
  match _hf : Framing.evaluate s.buffered with
  | .incomplete => ⟨⟨out, .proceed⟩, s, e, [.frame .incomplete]⟩
  | .malformed err => ⟨⟨out, .close⟩, s.markClosing, e, [.frame (.malformed err)]⟩
  | .complete h n =>
    match e.dispatchNext (s.buffered.take n) [] with
    | .error _ => ⟨⟨out, .close⟩, s.markClosing, e.polled,
        [.frame (.complete h n), .dispatch (s.buffered.take n) e.signaled []]⟩
    | .ok (o, false) => ⟨⟨out ++ o, .close⟩, s.markClosing, e.polled,
        [.frame (.complete h n), .dispatch (s.buffered.take n) e.signaled o]⟩
    | .ok (o, true) =>
      if _hs : (s.consume n).buffered.isEmpty then
        ⟨⟨out ++ o, .proceed⟩, s.consume n, e.polled, [.frame (.complete h n), .dispatch (s.buffered.take n) e.signaled o]⟩
      else
        let r := serveLog e.polled (s.consume n) (out ++ o)
        ⟨r.reaction, r.session, r.engine, .frame (.complete h n) :: .dispatch (s.buffered.take n) e.signaled o :: r.calls⟩
termination_by s.buffered.length
decreasing_by exact consume_length_lt _hf _hs

/-- One turn of the logged loop, by the framer's verdict on the buffered octets. -/
theorem serveLog_eq (e : Engine) (s : Session) (out : List UInt8) :
    serveLog e s out =
      match Framing.evaluate s.buffered with
      | .incomplete => ⟨⟨out, .proceed⟩, s, e, [.frame .incomplete]⟩
      | .malformed err => ⟨⟨out, .close⟩, s.markClosing, e, [.frame (.malformed err)]⟩
      | .complete h n =>
        match e.dispatchNext (s.buffered.take n) [] with
        | .error _ => ⟨⟨out, .close⟩, s.markClosing, e.polled,
            [.frame (.complete h n), .dispatch (s.buffered.take n) e.signaled []]⟩
        | .ok (o, false) => ⟨⟨out ++ o, .close⟩, s.markClosing, e.polled,
            [.frame (.complete h n), .dispatch (s.buffered.take n) e.signaled o]⟩
        | .ok (o, true) =>
          if (s.consume n).buffered.isEmpty then
            ⟨⟨out ++ o, .proceed⟩, s.consume n, e.polled,
              [.frame (.complete h n), .dispatch (s.buffered.take n) e.signaled o]⟩
          else
            let r := serveLog e.polled (s.consume n) (out ++ o)
            ⟨r.reaction, r.session, r.engine,
              .frame (.complete h n) :: .dispatch (s.buffered.take n) e.signaled o :: r.calls⟩ := by
  rw [serveLog]
  split <;> rename_i hf <;> simp only [hf, dite_eq_ite]

/-- While the buffer holds no whole request the loop waits, with nothing sent. -/
theorem serveLog_incomplete (e : Engine) {s : Session} (hf : Framing.evaluate s.buffered = .incomplete)
    (out : List UInt8) : serveLog e s out = ⟨⟨out, .proceed⟩, s, e, [.frame .incomplete]⟩ := by
  rw [serveLog_eq, hf]

/-- The logged loop reacts as the loop does. The induction follows the logged loop; each case opens one turn of
`serve` on the same verdict and the same answer of the dispatcher. -/
theorem serveLog_fst (e : Engine) (s : Session) (out : List UInt8) :
    ((serveLog e s out).reaction, (serveLog e s out).session, (serveLog e s out).engine) = serve e s out := by
  fun_induction serveLog e s out with
  | case1 e s out hf => rw [serve_eq, hf]
  | case2 e s out err hf => rw [serve_eq, hf]
  | case3 e s out h n hf err hd =>
    rw [serve_eq, hf]
    simp only [dispatchNext_out e _ out, hd]
    rfl
  | case4 e s out h n hf o hd =>
    rw [serve_eq, hf]
    simp only [dispatchNext_out e _ out, hd]
    rfl
  | case5 e s out h n hf o hd hs =>
    rw [serve_eq, hf]
    simp only [dispatchNext_out e _ out, hd, hs]
    rfl
  | case6 e s out h n hf o hd hs r ih =>
    rw [serve_eq, hf]
    simp only [dispatchNext_out e _ out, hd, hs, Except.map, Bool.false_eq_true, if_false]
    exact ih

/-- The loop appends its responses to the output it starts from, and what it does does not depend on that output. -/
theorem serveLog_out (e : Engine) (s : Session) (out : List UInt8) :
    serveLog e s out =
      let r := serveLog e s []
      ⟨⟨out ++ r.reaction.out, r.reaction.action⟩, r.session, r.engine, r.calls⟩ := by
  rw [serveLog_eq e s out, serveLog_eq e s []]
  rcases hf : Framing.evaluate s.buffered with _ | ⟨h, n⟩ | err
  · simp
  · dsimp only
    rcases e.dispatchNext (s.buffered.take n) [] with _ | ⟨o, _ | _⟩
    · simp
    · simp
    · dsimp only
      split
      · simp
      · rename_i hs
        have : s.buffered.length - n < s.buffered.length := by simpa using consume_length_lt hf hs
        rw [serveLog_out e.polled (s.consume n) (out ++ o), serveLog_out e.polled (s.consume n) ([] ++ o)]
        simp
  · simp
termination_by s.buffered.length

/-- What the loop sends is what its dispatches appended, in call order. -/
theorem serveLog_sent (e : Engine) (s : Session) (out : List UInt8) :
    (serveLog e s out).reaction.out = out ++ ((serveLog e s out).calls.map Call.sent).flatten := by
  fun_induction serveLog e s out with
  | case6 e s out h n hf o hd hs r ih =>
    -- the rest of the loop starts from the output with this turn's response appended
    dsimp only [r]
    rw [ih]
    simp [Call.sent]
  | _ => simp [Call.sent]

/-- The loop polls the flag once for every dispatch, and changes nothing else about the engine. -/
theorem serveLog_engine (e : Engine) (s : Session) (out : List UInt8) :
    (serveLog e s out).engine = { e with polls := e.polls + ((serveLog e s out).calls.filterMap Call.framed?).length } := by
  fun_induction serveLog e s out with
  | case6 e s out h n hf o hd hs r ih =>
    -- the rest of the loop starts one poll later
    dsimp only [r]
    rw [ih]
    simp only [polled, Call.framed?, List.filterMap_cons, List.length_cons]
    congr 1
    omega
  | _ => rfl

/-- The loop does not read the session table: it carries it along unchanged. -/
theorem serveLog_setSession (e : Engine) (id : Nat) (s₀ s : Session) (out : List UInt8) :
    serveLog (e.setSession id s₀) s out =
      let r := serveLog e s out
      ⟨r.reaction, r.session, r.engine.setSession id s₀, r.calls⟩ := by
  fun_induction serveLog e s out with
  | case1 e s out hf => rw [serveLog_incomplete _ hf]
  | case2 e s out err hf => rw [serveLog_eq, hf]
  | case3 e s out h n hf err hd =>
    rw [serveLog_eq, hf]
    simp only [dispatchNext_setSession, hd]
    rfl
  | case4 e s out h n hf o hd =>
    rw [serveLog_eq, hf]
    simp only [dispatchNext_setSession, hd]
    rfl
  | case5 e s out h n hf o hd hs =>
    rw [serveLog_eq, hf]
    simp only [dispatchNext_setSession, hd, hs]
    rfl
  | case6 e s out h n hf o hd hs r ih =>
    rw [serveLog_eq, hf]
    simp only [dispatchNext_setSession, hd, hs, polled_setSession, ih]
    rfl

/-- A turn that frames a complete request hands it to the dispatcher. -/
theorem framed_mem_serveLog (e : Engine) {s : Session} {h n : Nat} (hf : Framing.evaluate s.buffered = .complete h n)
    (out : List UInt8) : s.buffered.take n ∈ (serveLog e s out).calls.filterMap Call.framed? := by
  rw [serveLog_eq, hf]
  dsimp only
  rcases e.dispatchNext (s.buffered.take n) [] with _ | ⟨o, _ | _⟩
  · simp [Call.framed?]
  · simp [Call.framed?]
  · dsimp only
    split <;> simp [Call.framed?]

/-! ## Engines that answer alike -/

/-- Two engines answer the framed requests `D` alike from their next polls on: at the `k`-th poll from then, they see
the flag alike and their dispatchers give the same answer to each request of `D`. -/
def AnswerAlike (e e' : Engine) (D : List (List UInt8)) : Prop :=
  ∀ k, e.signaledAt (e.polls + k) = e'.signaledAt (e'.polls + k) ∧
    ∀ F ∈ D, dispatch e.service (e.hashers (e.polls + k)) F (e.signaledAt (e.polls + k)) [] =
      dispatch e'.service (e'.hashers (e'.polls + k)) F (e'.signaledAt (e'.polls + k)) []

namespace AnswerAlike

variable {e e' : Engine} {D : List (List UInt8)}

/-- At their next polls the two engines see the flag alike and dispatch the requests alike. -/
theorem now (h : AnswerAlike e e' D) : e.signaled = e'.signaled ∧ ∀ F ∈ D, e.dispatchNext F [] = e'.dispatchNext F [] :=
  h 0

/-- After one poll each, the engines still answer alike, to the requests they have left. -/
theorem polled (h : AnswerAlike e e' D) {D' : List (List UInt8)} (hD : ∀ F ∈ D', F ∈ D) :
    AnswerAlike e.polled e'.polled D' := by
  intro k
  have hk := h (k + 1)
  simp only [polls_polled, service_polled, hashers_polled, signaledAt_congr (signaledFrom_polled _)]
  rw [Nat.add_right_comm e.polls, Nat.add_right_comm e'.polls, Nat.add_assoc, Nat.add_assoc]
  exact ⟨hk.1, fun F hF => hk.2 F (hD F hF)⟩

end AnswerAlike

/-- Engines with the same service, one that does not read the order of a header map, that see the flag alike answer
alike the requests whose `Connection` entries carry one value, whatever their hashers. -/
theorem answerAlike_of_unambiguous {e e' : Engine} (hsvc : e'.service = e.service) (hblind : e.service.OrderBlind)
    (hsig : ∀ k, e.signaledAt (e.polls + k) = e'.signaledAt (e'.polls + k)) {D : List (List UInt8)}
    (hD : ∀ F ∈ D, Request.ConnectionUnambiguous F) : AnswerAlike e e' D := by
  intro k
  refine ⟨hsig k, fun F hF => ?_⟩
  rw [hsvc, ← hsig k]
  exact dispatch_hasher hblind (hD F hF) _ _ _ _

/-- The loop reads its engine only through the answers of its dispatches: run from an engine that answers alike the
requests it frames, it reacts alike, leaves the session alike and makes the same calls. The induction follows the
loop. -/
theorem serveLog_congr {e e' : Engine} (s : Session) (out : List UInt8)
    (h : AnswerAlike e e' ((serveLog e s out).calls.filterMap Call.framed?)) :
    (serveLog e' s out).reaction = (serveLog e s out).reaction ∧
      (serveLog e' s out).session = (serveLog e s out).session ∧
      (serveLog e' s out).calls = (serveLog e s out).calls := by
  rcases hf : Framing.evaluate s.buffered with _ | ⟨hd, n⟩ | err
  · rw [serveLog_incomplete e hf, serveLog_incomplete e' hf]
    exact ⟨rfl, rfl, rfl⟩
  · obtain ⟨hsig, hdis⟩ := h.now
    have hnext := hdis _ (framed_mem_serveLog e hf out)
    rw [serveLog_eq e s out, hf] at h
    rw [serveLog_eq e' s out, serveLog_eq e s out, hf]
    dsimp only at h ⊢
    rw [← hnext, ← hsig]
    rcases hdn : e.dispatchNext (s.buffered.take n) [] with _ | ⟨o, _ | _⟩
    · exact ⟨rfl, rfl, rfl⟩
    · exact ⟨rfl, rfl, rfl⟩
    · rw [hdn] at h
      dsimp only at h ⊢
      by_cases hs : (s.consume n).buffered.isEmpty
      · rw [if_pos hs, if_pos hs]
        exact ⟨rfl, rfl, rfl⟩
      · simp only [hs, Bool.false_eq_true, if_false] at h ⊢
        have : s.buffered.length - n < s.buffered.length := by simpa using consume_length_lt hf hs
        -- the rest of the loop runs after one poll each, on the requests left
        have h' : AnswerAlike e.polled e'.polled
            ((serveLog e.polled (s.consume n) (out ++ o)).calls.filterMap Call.framed?) := h.polled fun F hF => by
          simp only [List.filterMap_cons, Call.framed?]
          exact List.mem_cons_of_mem _ hF
        obtain ⟨hr, hse, hc⟩ := serveLog_congr (s.consume n) (out ++ o) h'
        exact ⟨hr, hse, by rw [hc]⟩
  · have hm : serveLog e s out = ⟨⟨out, .close⟩, s.markClosing, e, [.frame (.malformed err)]⟩ := by
      rw [serveLog_eq, hf]
    have hm' : serveLog e' s out = ⟨⟨out, .close⟩, s.markClosing, e', [.frame (.malformed err)]⟩ := by
      rw [serveLog_eq, hf]
    rw [hm, hm']
    exact ⟨rfl, rfl, rfl⟩
termination_by s.buffered.length

end Engine

/-! ## Events -/

/-- What the engine does on one event: its answer, the calls its loop makes, and the engine after it. -/
structure Handled where
  reaction : Reaction
  calls : List Call
  engine : Engine

/-- What an event loop asks of the engine. -/
inductive Event where
  | opened (id : Nat)
  | readable (id : Nat) (data : List UInt8)
  | closed (id : Nat)
  | tick
  deriving DecidableEq, Repr

namespace Event

/-- The connection an event is about. -/
def conn? : Event → Option Nat
  | .opened id | .readable id _ | .closed id => some id
  | .tick => none

/-- The octets an event delivers to connection `c`. -/
def dataFor (c : Nat) : Event → List UInt8
  | .readable id data => if id = c then data else []
  | _ => []

end Event

namespace Engine

/-- Octets arrive on connection `id`, handled as `receive` handles them, with the calls the loop makes. -/
def receiveLog (e : Engine) (id : Nat) (input : List UInt8) : Handled :=
  if input.isEmpty then ⟨⟨[], .proceed⟩, [], e⟩
  else
    match e.session? id with
    | none => ⟨⟨[], .close⟩, [], e⟩
    | some s =>
      if s.isClosing then ⟨⟨[], .close⟩, [], e⟩
      else
        let r := serveLog e (s.receive input) []
        ⟨r.reaction, r.calls, r.engine.setSession id r.session⟩

/-- The logged arrival reacts as `receive` does. -/
theorem receiveLog_fst (e : Engine) (id : Nat) (input : List UInt8) :
    ((e.receiveLog id input).reaction, (e.receiveLog id input).engine) = e.receive id input := by
  unfold receiveLog receive
  by_cases hi : input.isEmpty
  · simp [hi]
  · simp only [hi, Bool.false_eq_true, if_false]
    rcases e.session? id with _ | s
    · rfl
    · dsimp only
      split
      · rfl
      · rw [← serveLog_fst]

/-- The engine turns away every arrival on connection `id`: it has no session for it, or the session is closing. -/
def Refuses (e : Engine) (id : Nat) : Prop := ∀ s, e.session? id = some s → s.state = .closing

/-- A connection that is not turned away has a session that is not closing. -/
theorem not_refuses {e : Engine} {id : Nat} (h : ¬e.Refuses id) : ∃ s, e.session? id = some s ∧ s.state ≠ .closing := by
  cases hs : e.session? id with
  | none => exact absurd (fun s' h' => by simp [hs] at h') h
  | some s =>
    refine ⟨s, rfl, fun hc => h fun s' h' => ?_⟩
    rw [hs] at h'
    cases h'
    exact hc

/-- An arrival on a connection that is turned away is answered by closing it, and changes nothing. -/
theorem receiveLog_refused {e : Engine} {id : Nat} (h : e.Refuses id) {input : List UInt8} (hi : input ≠ []) :
    e.receiveLog id input = ⟨⟨[], .close⟩, [], e⟩ := by
  have hie : input.isEmpty = false := by simpa using hi
  unfold receiveLog
  rw [hie]
  dsimp only
  rcases hs : e.session? id with _ | s
  · rfl
  · have hc : s.isClosing = true := by simp [Session.isClosing, h s hs]
    simp [hc]

/-- An arrival on an open connection runs the loop over the session's octets and the new ones. -/
theorem receiveLog_open {e : Engine} {id : Nat} {s : Session} (hs : e.session? id = some s) (hc : s.state ≠ .closing)
    {input : List UInt8} (hi : input ≠ []) :
    e.receiveLog id input =
      let r := serveLog e (s.receive input) []
      ⟨r.reaction, r.calls, r.engine.setSession id r.session⟩ := by
  have hie : input.isEmpty = false := by simpa using hi
  have hcl : s.isClosing = false := by simpa [Session.isClosing] using hc
  unfold receiveLog
  rw [hie, hs]
  simp [hcl]

/-- Octets received by a session that is not closing leave it accumulating. -/
theorem state_receive_ne_closing {s : Session} {input : List UInt8} (hc : s.state ≠ .closing) (hi : input ≠ []) :
    (s.receive input).state ≠ .closing := by
  rw [Session.state_receive]
  cases input with
  | nil => exact absurd rfl hi
  | cons _ _ => simp [hc]

/-- An arrival leaves the engine as it was, or polls the flag some times and sets the session of its own connection,
which it had. -/
theorem receiveLog_engine (e : Engine) (id : Nat) (input : List UInt8) :
    (e.receiveLog id input).engine = e ∨ ∃ k s, (e.session? id).isSome ∧
      (e.receiveLog id input).engine = ({ e with polls := e.polls + k } : Engine).setSession id s := by
  unfold receiveLog
  split
  · exact .inl rfl
  · split
    · exact .inl rfl
    · rename_i s hs
      split
      · exact .inl rfl
      · -- the loop carries the table along and only polls
        let r := serveLog e (s.receive input) []
        refine .inr ⟨(r.calls.filterMap Call.framed?).length, r.session, by simp [hs], ?_⟩
        dsimp only
        rw [serveLog_engine]

/-- The engine's handling of one event. -/
def handle (e : Engine) : Event → Handled
  | .opened id => ⟨⟨[], (e.connect id).1⟩, [], (e.connect id).2⟩
  | .readable id data => e.receiveLog id data
  | .closed id => ⟨⟨[], (e.disconnect id).1⟩, [], (e.disconnect id).2⟩
  | .tick => ⟨⟨[], e.tick.2.1⟩, [], e.tick.2.2⟩

/-- An event about another connection, or about none, leaves the session of connection `c` as it was. -/
theorem handle_other (e : Engine) {c : Nat} {ev : Event} (h : ev.conn? ≠ some c) :
    (e.handle ev).engine.session? c = e.session? c := by
  cases ev with
  | opened id =>
    have hid : c ≠ id := fun hc => h (by rw [hc]; rfl)
    exact session?_setSession_of_ne e _ hid
  | readable id data =>
    have hid : c ≠ id := fun hc => h (by rw [hc]; rfl)
    show (e.receiveLog id data).engine.session? c = e.session? c
    rcases receiveLog_engine e id data with he | ⟨k, s, -, he⟩
    · rw [he]
    · rw [he, session?_setSession_of_ne _ _ hid]
      rfl
  | closed id =>
    have hid : c ≠ id := fun hc => h (by rw [hc]; rfl)
    exact session?_dropSession_of_ne e hid
  | tick => rfl

/-- An arrival changes the session table at most by setting the session of its own connection. -/
theorem sessions_receiveLog (e : Engine) (id : Nat) (input : List UInt8) :
    (e.receiveLog id input).engine.sessions = e.sessions ∨
      ∃ s, (e.receiveLog id input).engine.sessions = (e.setSession id s).sessions := by
  rcases receiveLog_engine e id input with he | ⟨k, s, -, he⟩
  · exact .inl (by rw [he])
  · exact .inr ⟨s, by rw [he]; rfl⟩

/-! ## What events keep -/

/-- `e'` is `e` after some polls and some changes to the session table: the service, the flag's schedule and the
hashers are those of `e`. -/
structure Later (e e' : Engine) : Prop where
  service : e'.service = e.service
  signaledFrom : e'.signaledFrom = e.signaledFrom
  hashers : e'.hashers = e.hashers
  polls : e.polls ≤ e'.polls

namespace Later

theorem refl (e : Engine) : Later e e := ⟨rfl, rfl, rfl, Nat.le_refl _⟩

theorem trans {e e' e'' : Engine} (h : Later e e') (h' : Later e' e'') : Later e e'' :=
  ⟨h'.service.trans h.service, h'.signaledFrom.trans h.signaledFrom, h'.hashers.trans h.hashers,
    Nat.le_trans h.polls h'.polls⟩

/-- A later engine sees the flag at each poll as the earlier one does. -/
theorem signaledAt {e e' : Engine} (h : Later e e') (n : Nat) : e'.signaledAt n = e.signaledAt n :=
  signaledAt_congr h.signaledFrom n

/-- Once the flag is seen, every later engine sees it. -/
theorem signaled {e e' : Engine} (h : Later e e') (hs : e.signaled = true) : e'.signaled = true := by
  unfold Engine.signaled
  rw [h.signaledAt]
  exact signaledAt_mono e h.polls hs

end Later

theorem later_serveLog (e : Engine) (s : Session) (out : List UInt8) : Later e (serveLog e s out).engine := by
  rw [serveLog_engine]
  exact ⟨rfl, rfl, rfl, Nat.le_add_right _ _⟩

theorem later_receiveLog (e : Engine) (id : Nat) (input : List UInt8) : Later e (e.receiveLog id input).engine := by
  rcases receiveLog_engine e id input with he | ⟨k, s, -, he⟩
  · rw [he]
    exact Later.refl e
  · rw [he]
    exact ⟨rfl, rfl, rfl, Nat.le_add_right _ _⟩

/-- No event changes the service, the flag's schedule or the hashers. -/
theorem later_handle (e : Engine) (ev : Event) : Later e (e.handle ev).engine := by
  cases ev with
  | opened id => exact ⟨rfl, rfl, rfl, Nat.le_succ _⟩
  | readable id data => exact later_receiveLog e id data
  | closed id => exact ⟨rfl, rfl, rfl, Nat.le_succ _⟩
  | tick => exact ⟨rfl, rfl, rfl, Nat.le_succ _⟩

/-! ## Runs -/

/-- The engine after a sequence of events. -/
def run (e : Engine) : List Event → Engine
  | [] => e
  | ev :: evs => (e.handle ev).engine.run evs

/-- Each event of a sequence with the engine's handling of it, in order. -/
def trace (e : Engine) : List Event → List (Event × Handled)
  | [] => []
  | ev :: evs => (ev, e.handle ev) :: (e.handle ev).engine.trace evs

/-- The octets handed to the dispatcher for connection `c` over a sequence of events, in call order. -/
def dispatchedTo (c : Nat) (e : Engine) (evs : List Event) : List (List UInt8) :=
  (e.trace evs).flatMap fun p => if p.1.conn? = some c then p.2.calls.filterMap Call.framed? else []

theorem later_run (e : Engine) (evs : List Event) : Later e (e.run evs) := by
  induction evs generalizing e with
  | nil => exact Later.refl e
  | cons ev evs ih => exact (later_handle e ev).trans (ih _)

theorem run_append (e : Engine) (evs evs' : List Event) : e.run (evs ++ evs') = (e.run evs).run evs' := by
  induction evs generalizing e with
  | nil => rfl
  | cons ev evs ih => exact ih _

theorem trace_append (e : Engine) (evs evs' : List Event) :
    e.trace (evs ++ evs') = e.trace evs ++ (e.run evs).trace evs' := by
  induction evs generalizing e with
  | nil => rfl
  | cons ev evs ih => simp [trace, run, ih]

theorem dispatchedTo_append (c : Nat) (e : Engine) (evs evs' : List Event) :
    e.dispatchedTo c (evs ++ evs') = e.dispatchedTo c evs ++ (e.run evs).dispatchedTo c evs' := by
  simp [dispatchedTo, trace_append]

theorem dispatchedTo_cons (c : Nat) (e : Engine) (ev : Event) (evs : List Event) :
    e.dispatchedTo c (ev :: evs) =
      (if ev.conn? = some c then (e.handle ev).calls.filterMap Call.framed? else []) ++
        (e.handle ev).engine.dispatchedTo c evs := by
  simp [dispatchedTo, trace]

end Engine

end HttpReactor
