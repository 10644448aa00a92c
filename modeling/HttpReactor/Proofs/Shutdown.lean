import HttpReactor.Proofs.ConnectionInvariant
import HttpReactor.Proofs.Boundary

/-!
# Cooperative shutdown

Shutdown is cooperative: another thread sets the flag, and the engine only polls it, in every callback and before every
dispatch of its pipelining loop; nothing clears it once it is set. The first poll that sees it may fall anywhere: between
two callbacks, or between two requests of one pipelined batch. From then on new connections are refused, and every
close and every tick tells the loop to stop. A connection that is already open is still served, but once: the first
dispatch for it that sees the flag is its last, answers the first whole request left in its buffer with
`Connection: close`, and closes the connection. A request begun before the flag and completed after it is answered, not
dropped.

`Engine.serveLog_flagged` is the loop's part: a dispatch that saw the flag is the loop's last call, and `FlaggedLast`
says what stands before it and what it sent. `Engine.handle_flagged` lifts it to an arrival, and
`Engine.flagged_le_one` counts such dispatches over a whole history. `Engine.serveLog_signaled` and
`Engine.run_waiting` follow a connection that waits for the rest of a request while the flag is set. An empty arrival is
answered by going on before the session is looked at, as it always is, so a closed connection answers an empty arrival
without closing (`Engine.shutdown_empty_arrival_proceeds`).
-/

namespace HttpReactor

/-! ## The response that closes the connection -/

namespace Response

/-- A response set to a header has exactly one header of that name, in any case: the one just set. -/
theorem filter_sameName_setHeader (r : Response) (name value : String) :
    (r.setHeader name value).headers.entries.filter (fun en => HeaderMap.sameName en.1 name) = [(name, value)] := by
  have hself : HeaderMap.sameName name name = true := Octets.eqIgnoreCase_iff.2 rfl
  -- erasing leaves no entry of the name, in any case, so the new entry goes at the end
  have herase : ∀ en ∈ (r.headers.erase name).entries, HeaderMap.sameName en.1 name = false := by
    intro en hen
    simpa [HeaderMap.erase] using (List.mem_filter.1 hen).2
  have hany : (r.headers.erase name).entries.any (·.1 == name) = false := by
    refine Bool.eq_false_iff.2 fun h => ?_
    obtain ⟨en, hen, heq⟩ := List.any_eq_true.1 h
    have := herase en hen
    rw [beq_iff_eq.1 heq, hself] at this
    cases this
  have hnil : (r.headers.erase name).entries.filter (fun en => HeaderMap.sameName en.1 name) = [] :=
    List.filter_eq_nil_iff.2 fun en hen => by simp [herase en hen]
  simp only [setHeader, HeaderMap.insert, hany, Bool.false_eq_true, if_false, List.filter_append, hnil,
    List.nil_append, List.filter_cons, hself, if_true, List.filter_nil]

theorem writeOnto_ok {r : Response} {out out' : List UInt8} :
    r.writeOnto out = .ok out' ↔ ∃ o, r.encode = .ok o ∧ out' = out ++ o := by
  unfold writeOnto
  cases r.encode with
  | error e => simp [Except.map]
  | ok o =>
    simp only [Except.map, Except.ok.injEq]
    constructor
    · intro h
      exact ⟨o, rfl, h.symm⟩
    · rintro ⟨o', ho, h⟩
      cases ho
      exact h.symm

/-- A response whose headers can all go on the wire is written, whatever order the names sort into. -/
theorem encode_of_valid {r : Response} (h : ∀ en ∈ r.headers.entries, validHeader en = true) :
    r.encode = .ok (statusLine r.status ++ r.headers.sorted.flatMap headerLine ++ Octets.crlf ++ r.body) := by
  have hnone : r.headers.sorted.find? (fun en => !validHeader en) = none := by
    rw [List.find?_eq_none]
    intro en hen
    -- sorting only permutes the entries
    have hmem : en ∈ r.headers.entries := (List.mergeSort_perm _ _).mem_iff.1 hen
    simp [h en hmem]
  unfold encode
  dsimp only
  rewrite [hnone]
  rfl

end Response

/-- While the server shuts down, a dispatch that succeeds answers the request with the service's response set to
`Connection: close`, and never keeps the connection. -/
theorem dispatch_closing_ok {service : Service} {order : HashOrder} {framed out out' : List UInt8} {keep : Bool} :
    dispatch service order framed true out = .ok (out', keep) ↔
      keep = false ∧ ∃ req, Request.decode order framed = .ok req ∧
        ((service req).setHeader "Connection" "close").writeOnto out = .ok out' := by
  unfold dispatch
  cases Request.decode order framed with
  | error e => simp
  | ok req =>
    simp only [Bool.not_true, Bool.false_and, Bool.false_eq_true, if_false]
    rcases hw : ((service req).setHeader "Connection" "close").writeOnto out with e | o
    · simp [hw]
    · simp only [Except.ok.injEq, Prod.mk.injEq]
      constructor
      · rintro ⟨h1, h2⟩
        exact ⟨h2.symm, req, rfl, hw.trans (congrArg _ h1)⟩
      · rintro ⟨h2, _, hr, h1⟩
        cases hr
        exact ⟨Except.ok.inj (hw.symm.trans h1), h2.symm⟩

namespace Session

/-- Received octets do not make a session closing. -/
theorem state_receive_of_ne {s : Session} (hc : s.state ≠ .closing) (input : List UInt8) :
    (s.receive input).state ≠ .closing := by
  rw [state_receive]
  split <;> simp_all

end Session

/-- Whether a call is a dispatch whose poll saw the flag. -/
def Call.sawFlag : Call → Bool
  | .dispatch _ signaled _ => signaled
  | .frame _ => false

theorem Call.eq_of_sawFlag {x : Call} (h : x.sawFlag = true) : ∃ F o, x = .dispatch F true o := by
  cases x with
  | frame v => cases h
  | dispatch F b o =>
    cases h
    exact ⟨F, o, rfl⟩

namespace Engine

/-! ## A dispatch that sees the flag -/

/-- A dispatch whose poll sees the flag does not keep the connection, and what it sends is the service's response to
the decoded request with `Connection: close`. -/
theorem dispatchNext_flagged {e : Engine} (hs : e.signaled = true) {F o : List UInt8} {keep : Bool}
    (h : e.dispatchNext F [] = .ok (o, keep)) :
    keep = false ∧ ∃ req, Request.decode (e.hashers e.polls) F = .ok req ∧
      ((e.service req).setHeader "Connection" "close").encode = .ok o := by
  unfold dispatchNext at h
  rw [hs] at h
  obtain ⟨hkeep, req, hreq, hw⟩ := dispatch_closing_ok.1 h
  obtain ⟨o', ho, rfl⟩ := Response.writeOnto_ok.1 hw
  exact ⟨hkeep, req, hreq, ho⟩

/-- How a dispatch of the framed octets `F` that saw the flag and sent `o` stands in the calls of a loop that started
from engine `e` over the octets `buf`: it is the last call, after calls `pre` that saw no flag; the loop framed it as
the first request of what was left of `buf` once the requests of `pre` were taken off; and it sent nothing, or the
service's response to the request, decoded with the hasher of its poll, with exactly one `Connection` header, whose
value is `close`. -/
structure FlaggedLast (e : Engine) (buf : List UInt8) (calls : List Call) (F o : List UInt8) (pre : List Call)
    (hd : Nat) : Prop where
  calls_eq : calls = pre ++ [.frame (.complete hd F.length), .dispatch F true o]
  before : ∀ x ∈ pre, x.sawFlag = false
  framed : ∃ rest, buf = Call.dispatched pre ++ rest ∧ Framing.evaluate rest = .complete hd F.length ∧
    F = rest.take F.length
  sent : o = [] ∨ ∃ req, Request.decode (e.hashers (e.polls + (pre.filterMap Call.framed?).length)) F = .ok req ∧
    ((e.service req).setHeader "Connection" "close").encode = .ok o ∧
    ((e.service req).setHeader "Connection" "close").headers.entries.filter
      (fun en => HeaderMap.sameName en.1 "Connection") = [("Connection", "close")]

/-- The turn that frames `F` as the first request of `buf` and dispatches it after a poll that sees the flag. -/
theorem flaggedLast_turn {e : Engine} (hs : e.signaled = true) {buf : List UInt8} {hd n : Nat}
    (hf : Framing.evaluate buf = .complete hd n) {o : List UInt8}
    (hsent : o = [] ∨ ∃ req, Request.decode (e.hashers e.polls) (buf.take n) = .ok req ∧
      ((e.service req).setHeader "Connection" "close").encode = .ok o) :
    FlaggedLast e buf [.frame (.complete hd n), .dispatch (buf.take n) e.signaled o] (buf.take n) o [] hd := by
  obtain ⟨-, -, hn⟩ := Framing.evaluate_complete_le hf
  have hlen : (buf.take n).length = n := by
    simp only [List.length_take]
    omega
  refine ⟨by rw [hlen, hs]; rfl, fun _ h => by simp at h, ⟨buf, rfl, by rw [hlen]; exact hf, by rw [hlen]⟩, ?_⟩
  rcases hsent with rfl | ⟨req, hreq, ho⟩
  · exact .inl rfl
  · exact .inr ⟨req, hreq, ho, Response.filter_sameName_setHeader _ _ _⟩

/-- A turn that saw no flag and went on puts its two calls in front of a flagged dispatch of the rest of the loop. -/
theorem FlaggedLast.cons {e : Engine} {buf : List UInt8} {hd n : Nat} {o' : List UInt8} {calls : List Call}
    {F o : List UInt8} {pre : List Call} {hd' : Nat}
    (h : FlaggedLast e.polled (buf.drop n) calls F o pre hd') :
    FlaggedLast e buf (.frame (.complete hd n) :: .dispatch (buf.take n) false o' :: calls) F o
      (.frame (.complete hd n) :: .dispatch (buf.take n) false o' :: pre) hd' := by
  obtain ⟨hcalls, hbefore, ⟨rest, hbuf, hf, hF⟩, hsent⟩ := h
  refine ⟨by rw [hcalls]; rfl, ?_, ⟨rest, ?_, hf, hF⟩, ?_⟩
  · intro x hx
    simp only [List.mem_cons] at hx
    rcases hx with rfl | rfl | hx
    · rfl
    · rfl
    · exact hbefore x hx
  · rw [Call.dispatched_frame, Call.dispatched_dispatch, List.append_assoc, ← hbuf, List.take_append_drop]
  · -- the polls of the rest start one later
    have hk : ((Call.frame (.complete hd n) :: Call.dispatch (buf.take n) false o' :: pre).filterMap Call.framed?).length =
        (pre.filterMap Call.framed?).length + 1 :=
      rfl
    rw [hk, Nat.add_comm _ 1, ← Nat.add_assoc]
    exact hsent

/-- A dispatch that keeps the connection saw no flag. -/
theorem signaled_of_keep {e : Engine} {F o : List UInt8} (h : e.dispatchNext F [] = .ok (o, true)) :
    e.signaled = false := by
  cases hsig : e.signaled
  · rfl
  · exact absurd (dispatchNext_flagged hsig h).1 (by decide)

/-- A dispatch that saw the flag is the loop's last call, and the loop closes the connection after it. The induction
follows the loop: a turn whose dispatch kept the connection saw no flag, so it either ends the loop, and then holds no
flagged call, or goes on, and then the flagged call is in the rest. -/
theorem serveLog_flagged (e : Engine) (s : Session) (out : List UInt8) {F o : List UInt8}
    (h : Call.dispatch F true o ∈ (serveLog e s out).calls) :
    (∃ pre hd, FlaggedLast e s.buffered (serveLog e s out).calls F o pre hd) ∧
      (serveLog e s out).reaction.action = .close ∧ (serveLog e s out).session.state = .closing := by
  fun_induction serveLog e s out with
  | case1 e s out hf => simp at h
  | case2 e s out err hf => simp at h
  | case3 e s out hd n hf err hdn =>
    -- a failed dispatch: it is the flagged one, and sent nothing
    simp only [List.mem_cons, Call.dispatch.injEq, reduceCtorEq, false_or, List.not_mem_nil, or_false] at h
    obtain ⟨rfl, hs, rfl⟩ := h
    exact ⟨⟨[], hd, flaggedLast_turn hs.symm hf (.inl rfl)⟩, by simp, by simp⟩
  | case4 e s out hd n hf o' hdn =>
    -- the connection closes after this dispatch: it is the flagged one
    simp only [List.mem_cons, Call.dispatch.injEq, reduceCtorEq, false_or, List.not_mem_nil, or_false] at h
    obtain ⟨rfl, hs, rfl⟩ := h
    obtain ⟨-, req, hreq, ho⟩ := dispatchNext_flagged hs.symm hdn
    exact ⟨⟨[], hd, flaggedLast_turn hs.symm hf (.inr ⟨req, hreq, ho⟩)⟩, by simp, by simp⟩
  | case5 e s out hd n hf o' hdn hempty => simp [signaled_of_keep hdn] at h
  | case6 e s out hd n hf o' hdn hrest r ih =>
    have hs := signaled_of_keep hdn
    have hmem : Call.dispatch F true o ∈ r.calls := by simpa [hs] using h
    obtain ⟨⟨pre, hd', hlast⟩, hcl, hst⟩ := ih hmem
    rw [Session.buffered_consume] at hlast
    rw [hs]
    exact ⟨⟨_, hd', hlast.cons⟩, hcl, hst⟩

/-! ## The loop with the flag set -/

/-- With the flag set at its next poll the loop makes one turn. It waits, with nothing sent and the session untouched,
while the buffer holds no whole request; otherwise it closes the connection. -/
theorem serveLog_signaled {e : Engine} (hs : e.signaled = true) (s : Session) (out : List UInt8) :
    (Framing.evaluate s.buffered = .incomplete ∧ serveLog e s out = ⟨⟨out, .proceed⟩, s, e, [.frame .incomplete]⟩) ∨
      ((serveLog e s out).reaction.action = .close ∧ (serveLog e s out).session = s.markClosing) := by
  rw [serveLog_eq]
  rcases hf : Framing.evaluate s.buffered with _ | ⟨h, n⟩ | err
  · exact .inl ⟨rfl, rfl⟩
  · dsimp only
    rcases hd : e.dispatchNext (s.buffered.take n) [] with _ | ⟨o, keep⟩
    · exact .inr ⟨rfl, rfl⟩
    · -- a dispatch that sees the flag does not keep the connection
      obtain ⟨rfl, -⟩ := dispatchNext_flagged hs hd
      exact .inr ⟨rfl, rfl⟩
  · exact .inr ⟨rfl, rfl⟩

/-- With the flag set at its next poll, a buffer whose first request decodes and whose response can be written gets
that response, and the connection is closed. -/
theorem serveLog_signaled_answers {e : Engine} (hs : e.signaled = true) {s : Session} {h n : Nat} {req : Request}
    {o : List UInt8} (hf : Framing.evaluate s.buffered = .complete h n)
    (hreq : Request.decode (e.hashers e.polls) (s.buffered.take n) = .ok req)
    (ho : ((e.service req).setHeader "Connection" "close").encode = .ok o) (out : List UInt8) :
    (serveLog e s out).reaction = ⟨out ++ o, .close⟩ := by
  have hd : e.dispatchNext (s.buffered.take n) [] = .ok (o, false) := by
    unfold dispatchNext
    rw [hs]
    exact dispatch_closing_ok.2 ⟨rfl, req, hreq, Response.writeOnto_ok.2 ⟨o, ho, rfl⟩⟩
  rw [serveLog_eq, hf]
  dsimp only
  rw [hd]

/-! ## One arrival -/

/-- An arrival whose loop made a dispatch that saw the flag found the connection with a session that was not closing.
The dispatch stands last in the arrival's calls as `FlaggedLast` says, over what the session held followed by the
arrival's octets; the arrival sends the responses of the dispatches before it, then what the flagged dispatch sent,
closes the connection, and turns it away from then on. -/
theorem handle_flagged {e : Engine} {c : Nat} {d F o : List UInt8}
    (h : Call.dispatch F true o ∈ (e.handle (.readable c d)).calls) :
    ∃ s pre hd, e.session? c = some s ∧ s.state ≠ .closing ∧
      FlaggedLast e (s.buffered ++ d) (e.handle (.readable c d)).calls F o pre hd ∧
      (e.handle (.readable c d)).reaction = ⟨(pre.map Call.sent).flatten ++ o, .close⟩ ∧
      (e.handle (.readable c d)).engine.Refuses c := by
  have hd : d ≠ [] := by
    rintro rfl
    simp [handle, receiveLog] at h
  have hopen : ¬e.Refuses c := fun href => by
    simp [handle, receiveLog_refused href hd] at h
  obtain ⟨s, hs, hc⟩ := not_refuses hopen
  have hstep : e.handle (.readable c d) =
      let r := serveLog e (s.receive d) []
      ⟨r.reaction, r.calls, r.engine.setSession c r.session⟩ := receiveLog_open hs hc hd
  rw [hstep] at h ⊢
  dsimp only at h ⊢
  obtain ⟨⟨pre, hd', hlast⟩, hcl, hst⟩ := serveLog_flagged e (s.receive d) [] h
  rw [Session.buffered_receive] at hlast
  refine ⟨s, pre, hd', hs, hc, hlast, ?_, fun s' h' => ?_⟩
  · -- the loop sends what its dispatches appended, the flagged one last
    have hout := serveLog_sent e (s.receive d) []
    rw [hlast.calls_eq] at hout
    rw [show (serveLog e (s.receive d) []).reaction =
      ⟨(serveLog e (s.receive d) []).reaction.out, (serveLog e (s.receive d) []).reaction.action⟩ from rfl, hout, hcl]
    simp [Call.sent]
  · rw [session?_setSession_self] at h'
    cases h'
    exact hst

/-- With the flag set, one event other than its opening leaves a connection that waits for a whole request waiting,
with the event's octets for it buffered and nothing sent to it, or turns it away from then on. -/
theorem handle_signaled {e : Engine} {c : Nat} {s : Session} (hsig : e.signaled = true) (hs : e.session? c = some s)
    (hc : s.state ≠ .closing) {ev : Event} (hop : ev ≠ .opened c) :
    ((e.handle ev).engine.session? c = some (s.receive (ev.dataFor c)) ∧
        (s.receive (ev.dataFor c)).state ≠ .closing ∧ (ev.conn? = some c → (e.handle ev).reaction.out = [])) ∨
      (e.handle ev).engine.Refuses c := by
  by_cases hcv : ev.conn? = some c
  · cases ev with
    | opened id => cases hcv; exact absurd rfl hop
    | readable id data =>
      cases hcv
      have hdata : Event.dataFor c (.readable c data) = data := if_pos rfl
      rw [hdata]
      by_cases hd : data = []
      · subst hd
        refine .inl ⟨?_, Session.state_receive_of_ne hc [], fun _ => rfl⟩
        simpa [handle, receiveLog] using hs
      · -- the loop runs once, over the session's octets and the new ones
        show ((e.receiveLog c data).engine.session? c = _ ∧ _ ∧ (_ → (e.receiveLog c data).reaction.out = [])) ∨
          (e.receiveLog c data).engine.Refuses c
        rw [receiveLog_open hs hc hd]
        dsimp only
        rcases serveLog_signaled hsig (s.receive data) [] with ⟨_, hwait⟩ | ⟨_, hclose⟩
        · rw [hwait]
          exact .inl ⟨session?_setSession_self _ _ _, Session.state_receive_of_ne hc data, fun _ => rfl⟩
        · refine .inr fun s' h' => ?_
          rw [session?_setSession_self, hclose] at h'
          cases h'
          rfl
    | closed id =>
      cases hcv
      exact .inr fun s' h' => by simp [handle, disconnect, session?_dropSession_self] at h'
    | tick => cases hcv
  · refine .inl ⟨?_, ?_, fun h => absurd h hcv⟩
    · rw [dataFor_of_conn?_ne hcv, Session.receive_nil, handle_other e hcv]
      exact hs
    · rw [dataFor_of_conn?_ne hcv, Session.receive_nil]
      exact hc

/-- With the flag set, an arrival on a waiting connection whose octets, after those it holds, frame a first request
that decodes with the hasher of the next poll and whose response can be written is answered by that response, and the
connection is closed. -/
theorem handle_readable_signaled_answers {e : Engine} {c : Nat} {s : Session} (hsig : e.signaled = true)
    (hs : e.session? c = some s) (hc : s.state ≠ .closing) {d : List UInt8} (hd : d ≠ []) {h n : Nat} {req : Request}
    {o : List UInt8} (hf : Framing.evaluate (s.buffered ++ d) = .complete h n)
    (hreq : Request.decode (e.hashers e.polls) ((s.buffered ++ d).take n) = .ok req)
    (ho : ((e.service req).setHeader "Connection" "close").encode = .ok o) :
    (e.handle (.readable c d)).reaction = ⟨o, .close⟩ := by
  show (e.receiveLog c d).reaction = _
  rw [receiveLog_open hs hc hd]
  rw [← Session.buffered_receive] at hf hreq
  exact serveLog_signaled_answers hsig hf hreq ho []

/-- With the flag set, a connection that waits for a whole request keeps every octet that arrives for it while it
waits: as long as it is not closing, it holds what it held when the flag was seen followed by all that arrived since.
The induction is on the history; the flag stays set, and a step that turns the connection away cannot be followed by a
session that is not closing. -/
theorem run_waiting {e : Engine} {c : Nat} {s₀ : Session} (hsig : e.signaled = true) (hs : e.session? c = some s₀)
    (hc : s₀.state ≠ .closing) {evs : List Event} (hop : .opened c ∉ evs) {s : Session}
    (h : (e.run evs).session? c = some s) (hsc : s.state ≠ .closing) :
    s.buffered = s₀.buffered ++ (evs.map (Event.dataFor c)).flatten := by
  induction evs generalizing e s₀ with
  | nil =>
    have hss : s = s₀ := Option.some.inj (h.symm.trans hs)
    subst hss
    simp
  | cons ev evs ih =>
    have hop' : ev ≠ .opened c := fun hev => hop (hev ▸ List.mem_cons_self)
    have hops : .opened c ∉ evs := fun hm => hop (List.mem_cons_of_mem _ hm)
    have hsig' : (e.handle ev).engine.signaled = true := (later_handle e ev).signaled hsig
    rcases handle_signaled hsig hs hc hop' with ⟨h1, hc1, -⟩ | href
    · rw [ih hsig' h1 hc1 hops h, Session.buffered_receive, List.map_cons, List.flatten_cons, List.append_assoc]
    · exact absurd (refuses_run href hops s h) hsc

/-! ## Counting the dispatches that see the flag -/

/-- The dispatches for connection `c` in a trace whose poll saw the flag, in order. -/
def flaggedFor (c : Nat) (t : List (Event × Handled)) : List Call :=
  t.flatMap fun p => if p.1.conn? = some c then p.2.calls.filter Call.sawFlag else []

theorem flaggedFor_cons (c : Nat) (p : Event × Handled) (t : List (Event × Handled)) :
    flaggedFor c (p :: t) = (if p.1.conn? = some c then p.2.calls.filter Call.sawFlag else []) ++ flaggedFor c t := by
  simp [flaggedFor]

/-- A trace that is quiet for `c` holds no dispatch for it. -/
theorem flaggedFor_eq_nil {c : Nat} {t : List (Event × Handled)} (h : ∀ p ∈ t, Quiet c p.1 p.2) :
    flaggedFor c t = [] := by
  unfold flaggedFor
  rw [List.flatMap_eq_nil_iff]
  intro p hp
  split
  · rw [(h p hp).1 ‹_›]
    rfl
  · rfl

/-- One event's loop makes at most one dispatch that sees the flag: such a dispatch is its last call. -/
theorem length_filter_sawFlag_le (e : Engine) (ev : Event) : ((e.handle ev).calls.filter Call.sawFlag).length ≤ 1 := by
  by_cases hno : ∀ x ∈ (e.handle ev).calls, x.sawFlag = false
  · rw [List.filter_eq_nil_iff.2 fun x hx => by simp [hno x hx]]
    exact Nat.zero_le 1
  · obtain ⟨x, hx, hsaw⟩ : ∃ x ∈ (e.handle ev).calls, x.sawFlag = true := by simpa using hno
    obtain ⟨F, o, rfl⟩ := Call.eq_of_sawFlag hsaw
    -- only an arrival makes calls
    cases ev with
    | readable c d =>
      obtain ⟨s, pre, hd, -, -, hlast, -⟩ := handle_flagged hx
      rw [hlast.calls_eq, List.filter_append, List.filter_eq_nil_iff.2 fun y hy => by simp [hlast.before y hy]]
      simp [List.filter_cons, Call.sawFlag]
    | opened id => cases hx
    | closed id => cases hx
    | tick => cases hx

/-- A connection opened at most once, and not again once it has a session, gets at most one dispatch that sees the
flag over a history. The induction is on the history: after such a dispatch the connection is turned away for good. -/
theorem flagged_le_one {e : Engine} {c : Nat} {evs : List Event} (honce : evs.count (.opened c) ≤ 1)
    (hs : (e.session? c).isSome → .opened c ∉ evs) : (flaggedFor c (e.trace evs)).length ≤ 1 := by
  induction evs generalizing e with
  | nil => simp [flaggedFor, trace]
  | cons ev evs ih =>
    have hcount : evs.count (.opened c) ≤ 1 := Nat.le_trans List.count_le_count_cons honce
    rw [trace, flaggedFor_cons]
    by_cases hfl : ∃ F o, ev.conn? = some c ∧ Call.dispatch F true o ∈ (e.handle ev).calls
    · obtain ⟨F, o, hc, hmem⟩ := hfl
      obtain ⟨d, rfl⟩ : ∃ d, ev = .readable c d := by
        cases ev with
        | readable id d =>
          cases hc
          exact ⟨d, rfl⟩
        | opened id => cases hmem
        | closed id => cases hmem
        | tick => cases hmem
      obtain ⟨s, -, -, hs0, -, -, -, href⟩ := handle_flagged hmem
      -- the connection had a session, so it is not opened again, and the rest of the history is quiet for it
      have hnot : .opened c ∉ evs := fun hm => hs (by simp [hs0]) (List.mem_cons_of_mem _ hm)
      rw [flaggedFor_eq_nil (run_refused href hnot).2, List.append_nil, if_pos hc]
      exact length_filter_sawFlag_le e _
    · have h0 : (if ev.conn? = some c then (e.handle ev).calls.filter Call.sawFlag else []) = [] := by
        split
        · rename_i hc
          refine List.filter_eq_nil_iff.2 fun x hx hsaw => ?_
          obtain ⟨F, o, rfl⟩ := Call.eq_of_sawFlag (by simpa using hsaw)
          exact hfl ⟨F, o, hc, hx⟩
        · rfl
      rw [h0, List.nil_append]
      refine ih hcount fun hsome hm => ?_
      by_cases hev : ev = .opened c
      · -- opened here, so not again
        subst hev
        simp only [List.count_cons_self] at honce
        exact absurd (List.count_pos_iff.2 hm) (by omega)
      · -- a session after the event was there before it
        cases hsess : e.session? c with
        | some s => exact hs (by simp [hsess]) (List.mem_cons_of_mem _ hm)
        | none =>
          have href : e.Refuses c := fun s h => by simp [hsess] at h
          rcases (handle_refused href hev).1 with hsame | rfl
          · simp [hsame, hsess] at hsome
          · simp [handle, disconnect, session?_dropSession_self] at hsome

/-- A connection with a session after a history from a fresh engine was opened in it. -/
theorem opened_mem_of_session {service : Service} {signaledFrom : Option Nat} {hashers : Nat → HashOrder}
    {evs : List Event} {c : Nat} {s : Session}
    (h : ((Engine.new service signaledFrom hashers).run evs).session? c = some s) : .opened c ∈ evs := by
  refine Classical.byContradiction fun hop => ?_
  have hnone : (Engine.new service signaledFrom hashers).session? c = none := rfl
  have hnew : (Engine.new service signaledFrom hashers).Refuses c := fun s h => by simp [hnone] at h
  rcases (run_refused hnew hop).1 with heq | ⟨hn, _⟩
  · rw [heq, hnone] at h
    cases h
  · rw [hn] at h
    cases h

/-- An event that occurs at most once in a history and occurs in a first part of it does not occur in the rest. -/
theorem not_mem_of_count_le_one {a : Event} {l₁ l₂ : List Event} (h : (l₁ ++ l₂).count a ≤ 1) (ha : a ∈ l₁) :
    a ∉ l₂ := fun hb => by
  have h1 := List.count_pos_iff.2 ha
  have h2 := List.count_pos_iff.2 hb
  rw [List.count_append] at h
  omega

/-! ## Shutdown -/

/-- Cooperative shutdown, over any history from a fresh engine whose flag is first seen at poll `p`, in which
connection `c` is opened at most once. Once the engine has passed that point, every opening is refused, and every close
and every tick stops the loop. At most one dispatch for `c` sees the flag. It is the last call of the arrival that
makes it: the arrival's loop framed it as the first request of what `c` held and the arrival brought, once the requests
dispatched before the point were taken off, and sent nothing or the service's response to it with exactly one
`Connection` header, whose value is `close`; the arrival sends the responses before the point and then that one, and
closes the connection; every later arrival on `c` is answered with nothing, by closing, or by going on if it is empty.
A request that `c` began before the point and completes after it, as long as `c` still waits, is answered when it
decodes and its response can be written. -/
theorem shutdown_drains (service : Service) (p : Nat) (hashers : Nat → HashOrder) (evs : List Event) (c : Nat)
    (honce : evs.count (.opened c) ≤ 1) :
    let e := Engine.new service (some p) hashers
    (∀ A B, (e.run A).signaled = true →
      (∀ id, ((e.run (A ++ B)).handle (.opened id)).reaction.action = .close) ∧
      (∀ id, ((e.run (A ++ B)).handle (.closed id)).reaction.action = .shutdown) ∧
      ((e.run (A ++ B)).handle .tick).reaction.action = .shutdown) ∧
    (flaggedFor c (e.trace evs)).length ≤ 1 ∧
    (∀ A d B F o, evs = A ++ .readable c d :: B → Call.dispatch F true o ∈ ((e.run A).handle (.readable c d)).calls →
      ∃ s pre hd, (e.run A).session? c = some s ∧
        FlaggedLast (e.run A) (s.buffered ++ d) ((e.run A).handle (.readable c d)).calls F o pre hd ∧
        ((e.run A).handle (.readable c d)).reaction = ⟨(pre.map Call.sent).flatten ++ o, .close⟩ ∧
        ∀ B₁ d' B₂, B = B₁ ++ .readable c d' :: B₂ →
          ((((e.run A).handle (.readable c d)).engine.run B₁).handle (.readable c d')).reaction =
            ⟨[], if d' = [] then .proceed else .close⟩) ∧
    (∀ A, (e.run A).signaled = true → ∀ s₀, (e.run A).session? c = some s₀ → s₀.state ≠ .closing →
      ∀ A' d s hd n req out, .opened c ∉ A' → (e.run (A ++ A')).session? c = some s → s.state ≠ .closing →
        d ≠ [] → Framing.evaluate (s₀.buffered ++ (A'.map (Event.dataFor c)).flatten ++ d) = .complete hd n →
        Request.decode (hashers (e.run (A ++ A')).polls)
          ((s₀.buffered ++ (A'.map (Event.dataFor c)).flatten ++ d).take n) = .ok req →
        ((service req).setHeader "Connection" "close").encode = .ok out →
        ((e.run (A ++ A')).handle (.readable c d)).reaction = ⟨out, .close⟩) := by
  intro e
  -- the flag stays seen, and no event changes the service or the hashers
  have hlater : ∀ A, Later e (e.run A) := later_run e
  have hsig : ∀ A B, (e.run A).signaled = true → (e.run (A ++ B)).signaled = true := fun A B hA => by
    rw [run_append]
    exact (later_run _ B).signaled hA
  refine ⟨fun A B hA => ?_, flagged_le_one honce fun h => by simp [e, Engine.new, session?] at h,
    fun A d B F o hsplit hmem => ?_, fun A hA s₀ hs₀ hc₀ A' d s hd n req out hop hs hsc hne hf hreq ho => ?_⟩
  · have h := hsig A B hA
    exact ⟨fun id => by simp [handle, connect, h], fun id => by simp [handle, disconnect, stopAction, h],
      by simp [handle, tick, stopAction, h]⟩
  · obtain ⟨s, pre, hd, hs, -, hlast, hreact, href⟩ := handle_flagged hmem
    refine ⟨s, pre, hd, hs, hlast, hreact, fun B₁ d' B₂ hB => ?_⟩
    -- `c` was opened before the arrival, so it is not opened again
    have hopened : .opened c ∈ A := opened_mem_of_session hs
    have hcount : (A ++ .readable c d :: B).count (.opened c) ≤ 1 := hsplit ▸ honce
    have hB₁ : .opened c ∉ B₁ := fun hm => not_mem_of_count_le_one hcount hopened (by rw [hB]; simp [hm])
    rw [handle_readable_refused (refuses_run href hB₁)]
  · -- the session kept everything since the point, so the first request is the one begun before it
    have hrun : (e.run A).run A' = e.run (A ++ A') := (run_append e A A').symm
    have hbuf := run_waiting hA hs₀ hc₀ hop (hrun ▸ hs) hsc
    rw [← hbuf] at hf hreq
    have hh : (e.run (A ++ A')).hashers = hashers := (hlater (A ++ A')).hashers
    have hsv : (e.run (A ++ A')).service = service := (hlater (A ++ A')).service
    rw [← hh] at hreq
    rw [← hsv] at ho
    exact handle_readable_signaled_answers (hsig A A' hA) hs hsc hne hf hreq ho

/-- Two pipelined requests arriving at once, with the flag first seen at the poll before the second dispatch: the point
falls inside the batch, and the connection is opened once. -/
theorem shutdown_drains_pipelined_flip :
    let evs : List Event :=
      [.opened 0, .readable 0 (Octets.ofString "GET / HTTP/1.1\r\n\r\nGET / HTTP/1.1\r\n\r\n")]
    evs.count (.opened 0) ≤ 1 ∧
    let e := Engine.new .echo (some 2) fun _ => .insertion
    (∀ A B, (e.run A).signaled = true →
      (∀ id, ((e.run (A ++ B)).handle (.opened id)).reaction.action = .close) ∧
      (∀ id, ((e.run (A ++ B)).handle (.closed id)).reaction.action = .shutdown) ∧
      ((e.run (A ++ B)).handle .tick).reaction.action = .shutdown) ∧
    (flaggedFor 0 (e.trace evs)).length ≤ 1 ∧
    (∀ A d B F o, evs = A ++ .readable 0 d :: B → Call.dispatch F true o ∈ ((e.run A).handle (.readable 0 d)).calls →
      ∃ s pre hd, (e.run A).session? 0 = some s ∧
        FlaggedLast (e.run A) (s.buffered ++ d) ((e.run A).handle (.readable 0 d)).calls F o pre hd ∧
        ((e.run A).handle (.readable 0 d)).reaction = ⟨(pre.map Call.sent).flatten ++ o, .close⟩ ∧
        ∀ B₁ d' B₂, B = B₁ ++ .readable 0 d' :: B₂ →
          ((((e.run A).handle (.readable 0 d)).engine.run B₁).handle (.readable 0 d')).reaction =
            ⟨[], if d' = [] then .proceed else .close⟩) ∧
    (∀ A, (e.run A).signaled = true → ∀ s₀, (e.run A).session? 0 = some s₀ → s₀.state ≠ .closing →
      ∀ A' d s hd n req out, .opened 0 ∉ A' → (e.run (A ++ A')).session? 0 = some s → s.state ≠ .closing →
        d ≠ [] → Framing.evaluate (s₀.buffered ++ (A'.map (Event.dataFor 0)).flatten ++ d) = .complete hd n →
        Request.decode ((fun _ => .insertion : Nat → HashOrder) (e.run (A ++ A')).polls)
          ((s₀.buffered ++ (A'.map (Event.dataFor 0)).flatten ++ d).take n) = .ok req →
        ((Service.echo req).setHeader "Connection" "close").encode = .ok out →
        ((e.run (A ++ A')).handle (.readable 0 d)).reaction = ⟨out, .close⟩) := by
  intro evs
  have honce : evs.count (.opened 0) ≤ 1 := by decide
  exact ⟨honce, shutdown_drains .echo 2 (fun _ => .insertion) evs 0 honce⟩

/-- An empty arrival is answered by going on, also on a connection that has just been answered and closed while
shutting down: the arrival after the response is not answered by closing. -/
theorem shutdown_empty_arrival_proceeds :
    let e := (Engine.new .echo (some 0) fun _ => .insertion).run [.opened 0]
    let h := e.handle (.readable 0 (Octets.ofString "GET / HTTP/1.1\r\n\r\n"))
    h.reaction.out ≠ [] ∧ h.reaction.action = .close ∧
      (h.engine.handle (.readable 0 [])).reaction = ⟨[], .proceed⟩ := by
  intro e h
  let buf := Octets.ofString "GET / HTTP/1.1\r\n\r\n"
  let req : Request := ⟨.get, "/", .http11, ⟨[]⟩, []⟩
  have hs : e.session? 0 = some (Session.start 0) :=
    session?_setSession_self (Engine.new .echo (some 0) fun _ => .insertion) 0 (.start 0)
  have hsig : e.signaled = true := rfl
  have hf : Framing.evaluate ((Session.start 0).receive buf).buffered = .complete 18 18 := by decide +kernel
  have hreq : Request.decode .insertion (((Session.start 0).receive buf).buffered.take 18) = .ok req := by
    have hopt : (Request.decode .insertion (((Session.start 0).receive buf).buffered.take 18)).toOption = some req := by
      decide +kernel
    revert hopt
    cases Request.decode .insertion (((Session.start 0).receive buf).buffered.take 18) <;> simp [Except.toOption]
  -- the echoed response carries three valid headers, so it is written
  have hvalid : ∀ en ∈ ((Service.echo req).setHeader "Connection" "close").headers.entries,
      Response.validHeader en = true := by
    decide +kernel
  have hanswer := serveLog_signaled_answers hsig hf hreq (Response.encode_of_valid hvalid) []
  have hstep : h.reaction = (serveLog e ((Session.start 0).receive buf) []).reaction := by
    show (e.receiveLog 0 buf).reaction = _
    rw [receiveLog_open hs (by decide) (by decide +kernel)]
  refine ⟨?_, by rw [hstep, hanswer], by simp [handle, receiveLog]⟩
  -- the status line alone is not empty
  rw [hstep, hanswer, List.nil_append]
  simp [Response.statusLine, Octets.crlf]

end Engine

end HttpReactor
