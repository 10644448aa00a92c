import HttpReactor.Proofs.EngineRun

/-!
# What a connection holds between callbacks

Between two callbacks of the event loop, the session of an open connection is in one of three shapes. It holds nothing
and is empty; or it holds the start of a request that the framer finds incomplete, and is accumulating; or it is closing,
and then it stays as it is until the connection is closed: nothing more is buffered or dispatched, and every arrival is
answered by closing (an empty arrival is answered by going on, as every empty arrival is). A complete request is never
left waiting, and no session is ever found ready.

For a session that is not closing the octets are conserved: what was handed to the dispatcher, in call order, followed
by what is buffered, is everything that arrived on the connection since it was opened. Octets that arrive before the
connection is opened find no session and are dropped.

`serveLog_settles` is the loop's part of the argument, by induction on the loop; `handle_settles`, `handle_closing` and
`handle_absent` say what one event does to one connection; `connection_invariant` runs them over a whole history.
-/

namespace HttpReactor

namespace Session

/-- Between callbacks a session that is not closing holds nothing and is empty, or holds the start of a request that the
framer finds incomplete and is accumulating. -/
def Settled (s : Session) : Prop :=
  (s.state = .empty ∧ s.buffered = []) ∨
    (s.state = .accumulating ∧ s.buffered ≠ [] ∧ Framing.evaluate s.buffered = .incomplete)

theorem settled_start (id : Nat) : (start id).Settled := .inl ⟨rfl, rfl⟩

end Session

/-- The octets a list of calls handed to the dispatcher, in call order. -/
def Call.dispatched (calls : List Call) : List UInt8 := (calls.filterMap Call.framed?).flatten

@[simp] theorem Call.dispatched_nil : Call.dispatched [] = [] := rfl

@[simp] theorem Call.dispatched_frame (v : Frame) (calls : List Call) :
    Call.dispatched (.frame v :: calls) = Call.dispatched calls := rfl

@[simp] theorem Call.dispatched_dispatch (framed : List UInt8) (signaled : Bool) (sent : List UInt8) (calls : List Call) :
    Call.dispatched (.dispatch framed signaled sent :: calls) = framed ++ Call.dispatched calls := by
  simp [Call.dispatched, Call.framed?]

@[simp] theorem Call.dispatched_append (a b : List Call) :
    Call.dispatched (a ++ b) = Call.dispatched a ++ Call.dispatched b := by
  simp [Call.dispatched]

namespace Engine

/-- A loop that leaves the connection open dispatched the buffered octets from the front, one request after another,
and keeps the rest, which is nothing or an incomplete request. The induction follows the loop; a turn that closes the
connection is ruled out by the hypothesis. -/
theorem serveLog_settles (e : Engine) (s : Session) (hacc : s.state = .accumulating) (hne : s.buffered ≠ []) (out : List UInt8)
    (hc : (serveLog e s out).session.state ≠ .closing) :
    Call.dispatched (serveLog e s out).calls ++ (serveLog e s out).session.buffered =
        s.buffered ∧ (serveLog e s out).session.Settled := by
  fun_induction serveLog e s out with
  | case1 e s out hf =>
    -- the loop waits: nothing dispatched, everything kept
    exact ⟨rfl, .inr ⟨hacc, hne, hf⟩⟩
  | case5 e s out h n hf o hd hempty =>
    -- the request was the whole buffer
    have hdrop : s.buffered.drop n = [] := by simpa using hempty
    have htake : s.buffered.take n = s.buffered := List.take_of_length_le (List.drop_eq_nil_iff.1 hdrop)
    refine ⟨by simp [htake, hdrop], .inl ⟨?_, by simpa using hempty⟩⟩
    rw [Session.state_consume, if_pos hdrop]
  | case6 e s out h n hf o hd hrest r ih =>
    -- the request is followed by more octets: the loop goes on with them
    have hacc' : (s.consume n).state = .accumulating := by
      rw [Session.state_consume, if_neg (by simpa using hrest)]
    obtain ⟨ih1, ih2⟩ := ih hacc' (by simpa using hrest) hc
    refine ⟨?_, ih2⟩
    simp only [Call.dispatched_frame, Call.dispatched_dispatch, List.append_assoc, r, ih1, Session.buffered_consume,
      List.take_append_drop]
  | _ => exact absurd rfl hc

/-! ## One event, one connection -/

/-- The octets an event handed to the dispatcher for connection `c`. -/
def dispatchedFor (c : Nat) (ev : Event) (h : Handled) : List UInt8 :=
  if ev.conn? = some c then Call.dispatched h.calls else []

theorem flatten_dispatchedTo_cons (c : Nat) (e : Engine) (ev : Event) (evs : List Event) :
    (e.dispatchedTo c (ev :: evs)).flatten =
      dispatchedFor c ev (e.handle ev) ++ ((e.handle ev).engine.dispatchedTo c evs).flatten := by
  rw [dispatchedTo_cons, List.flatten_append, dispatchedFor]
  split <;> simp [Call.dispatched]

/-- What an event does for connection `c` once the connection takes no more requests: it hands nothing to the
dispatcher for `c`, and an arrival on `c` is answered with no octets, by closing, or by going on if it is empty. -/
def Quiet (c : Nat) (ev : Event) (h : Handled) : Prop :=
  (ev.conn? = some c → h.calls = []) ∧
    ∀ data, ev = .readable c data → h.reaction = ⟨[], if data = [] then .proceed else .close⟩

theorem quiet_of_conn?_ne {c : Nat} {ev : Event} (h : ev.conn? ≠ some c) (hd : Handled) : Quiet c ev hd :=
  ⟨fun h' => absurd h' h, fun _ hev => absurd (by rw [hev]; rfl) h⟩

/-- A list of steps that are quiet for `c` hands nothing to the dispatcher for `c`. -/
theorem dispatchedTo_eq_nil {c : Nat} {e : Engine} {evs : List Event} (h : ∀ p ∈ e.trace evs, Quiet c p.1 p.2) :
    e.dispatchedTo c evs = [] := by
  unfold dispatchedTo
  rw [List.flatMap_eq_nil_iff]
  intro p hp
  split
  · rw [(h p hp).1 ‹_›]
    rfl
  · rfl

/-- An arrival on a connection that is turned away changes nothing and is answered with no octets. -/
theorem handle_readable_refused {e : Engine} {c : Nat} (h : e.Refuses c) (data : List UInt8) :
    e.handle (.readable c data) = ⟨⟨[], if data = [] then .proceed else .close⟩, [], e⟩ := by
  by_cases hd : data = []
  · subst hd
    simp [handle, receiveLog]
  · rw [if_neg hd]
    exact receiveLog_refused h hd

/-- On a connection that is turned away, because it has no session or a closing one, an event other than its opening
leaves the session as it was, unless it closes the connection, and is quiet for it. -/
theorem handle_refused {e : Engine} {c : Nat} (h : e.Refuses c) {ev : Event} (hop : ev ≠ .opened c) :
    ((e.handle ev).engine.session? c = e.session? c ∨ ev = .closed c) ∧ Quiet c ev (e.handle ev) := by
  by_cases hc : ev.conn? = some c
  · cases ev with
    | opened id => simp [Event.conn?] at hc; exact absurd (by rw [hc]) hop
    | readable id data =>
      simp only [Event.conn?, Option.some.injEq] at hc
      subst hc
      rw [handle_readable_refused h]
      exact ⟨.inl rfl, fun _ => rfl, fun d hd => by cases hd; rfl⟩
    | closed id =>
      simp only [Event.conn?, Option.some.injEq] at hc
      subst hc
      exact ⟨.inr rfl, fun _ => rfl, fun d hd => by cases hd⟩
    | tick => simp [Event.conn?] at hc
  · exact ⟨.inl (handle_other e hc), quiet_of_conn?_ne hc _⟩

theorem dataFor_of_conn?_ne {c : Nat} {ev : Event} (h : ev.conn? ≠ some c) : ev.dataFor c = [] := by
  cases ev with
  | readable id data =>
    have hid : id ≠ c := fun hc => h (by rw [hc]; rfl)
    simp [Event.dataFor, hid]
  | _ => rfl

/-- An open connection that is not closing either loses its session, by being closed, or keeps one; and when the
session it keeps is not closing, the octets dispatched for it by the event followed by its octets are its octets before
followed by what the event delivered, and it is settled again. -/
theorem handle_settles {e : Engine} {c : Nat} {s : Session} (h : e.session? c = some s) (hs : s.state ≠ .closing)
    (hset : s.Settled) {ev : Event} (hop : ev ≠ .opened c) :
    (e.handle ev).engine.session? c = none ∨
      ∃ s', (e.handle ev).engine.session? c = some s' ∧
        (s'.state ≠ .closing →
          dispatchedFor c ev (e.handle ev) ++ s'.buffered = s.buffered ++ ev.dataFor c ∧ s'.Settled) := by
  by_cases hc : ev.conn? = some c
  · cases ev with
    | opened id => simp [Event.conn?] at hc; exact absurd (by rw [hc]) hop
    | readable id data =>
      simp only [Event.conn?, Option.some.injEq] at hc
      subst hc
      by_cases hd : data = []
      · subst hd
        refine .inr ⟨s, h, fun _ => ⟨?_, hset⟩⟩
        simp [dispatchedFor, handle, receiveLog, Event.dataFor]
      · -- the arrival runs the loop over the session's octets and the new ones
        show _ ∨ ∃ s', (e.receiveLog id data).engine.session? id = some s' ∧
          (_ → dispatchedFor id _ (e.receiveLog id data) ++ _ = _ ∧ _)
        rw [receiveLog_open h hs hd]
        refine .inr ⟨_, session?_setSession_self _ id _, fun hcl => ?_⟩
        have hacc : (s.receive data).state = .accumulating := by
          rw [Session.state_receive]
          cases data with
          | nil => exact absurd rfl hd
          | cons _ _ => simp [hs]
        have hne : (s.receive data).buffered ≠ [] := by simp [hd]
        obtain ⟨hcons, hsettled⟩ := serveLog_settles e (s.receive data) hacc hne [] hcl
        refine ⟨?_, hsettled⟩
        simpa [dispatchedFor, Event.conn?, Event.dataFor] using hcons
    | closed id =>
      simp only [Event.conn?, Option.some.injEq] at hc
      subst hc
      exact .inl (session?_dropSession_self e id)
    | tick => simp [Event.conn?] at hc
  · refine .inr ⟨s, (handle_other e hc).trans h, fun _ => ⟨?_, hset⟩⟩
    simp [dispatchedFor, hc, dataFor_of_conn?_ne hc]

/-! ## Whole histories -/

/-- A connection that is turned away stays so over a history that does not open it: its session is the one it had
until it is closed, and none after, and every step is quiet for it. The induction is on the history. -/
theorem run_refused {e : Engine} {c : Nat} (h : e.Refuses c) {evs : List Event} (hop : .opened c ∉ evs) :
    ((e.run evs).session? c = e.session? c ∨ ((e.run evs).session? c = none ∧ .closed c ∈ evs)) ∧
      ∀ p ∈ e.trace evs, Quiet c p.1 p.2 := by
  induction evs generalizing e with
  | nil => exact ⟨.inl rfl, fun _ hp => by cases hp⟩
  | cons ev evs ih =>
    have hop' : ev ≠ .opened c := fun hev => hop (hev ▸ List.mem_cons_self)
    have hops : .opened c ∉ evs := fun hm => hop (List.mem_cons_of_mem _ hm)
    obtain ⟨hsess, hquiet⟩ := handle_refused h hop'
    rcases hsess with hsame | rfl
    · -- the session is untouched, so the connection is still turned away
      have h1 : (e.handle ev).engine.Refuses c := fun s hs => h s (hsame ▸ hs)
      obtain ⟨hrun, hq⟩ := ih h1 hops
      refine ⟨?_, ?_⟩
      · rcases hrun with heq | ⟨hnone, hmem⟩
        · exact .inl (heq.trans hsame)
        · exact .inr ⟨hnone, List.mem_cons_of_mem _ hmem⟩
      · rintro p (_ | ⟨_, hp⟩)
        · exact hquiet
        · exact hq p hp
    · -- the connection is closed: from here on it has no session
      have hnone : (e.handle (.closed c)).engine.session? c = none := session?_dropSession_self e c
      have h1 : (e.handle (.closed c)).engine.Refuses c := fun s hs => by simp [hnone] at hs
      obtain ⟨hrun, hq⟩ := ih h1 hops
      refine ⟨.inr ⟨?_, List.mem_cons_self⟩, ?_⟩
      · rcases hrun with heq | ⟨hn, _⟩
        · exact heq.trans hnone
        · exact hn
      · rintro p (_ | ⟨_, hp⟩)
        · exact hquiet
        · exact hq p hp

theorem refuses_run {e : Engine} {c : Nat} (h : e.Refuses c) {evs : List Event} (hop : .opened c ∉ evs) :
    (e.run evs).Refuses c := by
  intro s hs
  rcases (run_refused h hop).1 with heq | ⟨hnone, _⟩
  · exact h s (heq ▸ hs)
  · simp [hnone] at hs

/-- Over a history that does not reopen it, a settled connection that is still open and not closing at the end
dispatched, in order, what it held and what arrived, except what it still holds, and is settled again. The induction is
on the history; a step that turns the connection away cannot be followed by a session that is not closing. -/
theorem run_settles {e : Engine} {c : Nat} {s : Session} (h : e.session? c = some s) (hs : s.state ≠ .closing)
    (hset : s.Settled) {evs : List Event} (hop : .opened c ∉ evs) {s' : Session} (h' : (e.run evs).session? c = some s')
    (hs' : s'.state ≠ .closing) :
    (e.dispatchedTo c evs).flatten ++ s'.buffered = s.buffered ++ (evs.map (Event.dataFor c)).flatten ∧ s'.Settled := by
  induction evs generalizing e s with
  | nil =>
    have hss : s' = s := Option.some.inj (h'.symm.trans h)
    subst hss
    exact ⟨by simp [dispatchedTo, trace], hset⟩
  | cons ev evs ih =>
    have hop' : ev ≠ .opened c := fun hev => hop (hev ▸ List.mem_cons_self)
    have hops : .opened c ∉ evs := fun hm => hop (List.mem_cons_of_mem _ hm)
    -- once the connection is turned away, its session at the end is closing or gone
    have hopen : ¬(e.handle ev).engine.Refuses c := fun href => hs' (refuses_run href hops s' h')
    rcases handle_settles h hs hset hop' with hnone | ⟨s1, h1, hstep⟩
    · exact absurd (fun s hs => by simp [hnone] at hs) hopen
    · have hs1 : s1.state ≠ .closing := fun hc => hopen fun s hs => by rw [h1] at hs; cases hs; exact hc
      obtain ⟨hd1, hset1⟩ := hstep hs1
      obtain ⟨hd2, hset2⟩ := ih h1 hs1 hset1 hops h'
      refine ⟨?_, hset2⟩
      calc (e.dispatchedTo c (ev :: evs)).flatten ++ s'.buffered
          = dispatchedFor c ev (e.handle ev) ++
              (((e.handle ev).engine.dispatchedTo c evs).flatten ++ s'.buffered) := by
            rw [flatten_dispatchedTo_cons, List.append_assoc]
        _ = (dispatchedFor c ev (e.handle ev) ++ s1.buffered) ++ (evs.map (Event.dataFor c)).flatten := by
            rw [hd2, List.append_assoc]
        _ = s.buffered ++ ((ev :: evs).map (Event.dataFor c)).flatten := by
            rw [hd1, List.map_cons, List.flatten_cons, List.append_assoc]

/-- The invariant of one connection over any history that opens it once. While its session is not closing, what was
dispatched for it, in order, followed by what it holds, is everything that arrived on it since it was opened, and the
session is settled. Once its session is closing, it keeps that session until it is closed, nothing more is dispatched
for it, and each arrival on it is answered with no octets, by closing unless the arrival is empty. -/
theorem connection_invariant (service : Service) (signaledFrom : Option Nat) (hashers : Nat → HashOrder)
    (pre post : List Event) (c : Nat)
    (hpre : .opened c ∉ pre) (hpost : .opened c ∉ post) (s : Session)
    (hs : ((Engine.new service signaledFrom hashers).run (pre ++ .opened c :: post)).session? c = some s) :
    (s.state ≠ .closing →
      ((Engine.new service signaledFrom hashers).dispatchedTo c (pre ++ .opened c :: post)).flatten ++ s.buffered =
        (post.map (Event.dataFor c)).flatten ∧ s.Settled) ∧
    (s.state = .closing → ∀ more : List Event, .opened c ∉ more → .closed c ∉ more →
      let e := (Engine.new service signaledFrom hashers).run (pre ++ .opened c :: post)
      (e.run more).session? c = some s ∧ e.dispatchedTo c more = [] ∧
        ∀ p ∈ e.trace more, ∀ data, p.1 = .readable c data →
          p.2.reaction = ⟨[], if data = [] then .proceed else .close⟩) := by
  -- before its opening the connection has no session, so that part of the history is quiet for it
  have hnew : (Engine.new service signaledFrom hashers).Refuses c := fun s hs => by simp [Engine.new, session?] at hs
  have hquiet := (run_refused hnew hpre).2
  -- the opening starts a fresh session, and the rest of the history runs from there
  have h1 : (((Engine.new service signaledFrom hashers).run pre).handle (.opened c)).engine.session? c = some (Session.start c) :=
    session?_setSession_self _ c _
  have hrun : (Engine.new service signaledFrom hashers).run (pre ++ .opened c :: post) =
      (((Engine.new service signaledFrom hashers).run pre).handle (.opened c)).engine.run post := by
    rw [run_append]
    rfl
  refine ⟨fun hsc => ?_, fun hsc more hmo hmc => ?_⟩
  · rw [hrun] at hs
    obtain ⟨hcons, hset⟩ := run_settles h1 (by simp [Session.start]) (Session.settled_start c) hpost hs hsc
    refine ⟨?_, hset⟩
    rw [dispatchedTo_append, dispatchedTo_eq_nil hquiet, List.nil_append, flatten_dispatchedTo_cons]
    simpa [dispatchedFor, handle, Session.start, Session.buffered, Inbox.empty] using hcons
  · intro e
    have href : e.Refuses c := fun s' hs' => by
      rw [show e.session? c = some s from hs] at hs'
      cases hs'
      exact hsc
    obtain ⟨hsess, hq⟩ := run_refused href hmo
    refine ⟨?_, dispatchedTo_eq_nil hq, fun p hp data hev => (hq p hp).2 data hev⟩
    rcases hsess with heq | ⟨_, hmem⟩
    · exact heq.trans hs
    · exact absurd hmem hmc

/-- A connection opened and sent the start of a request holds it, accumulating, and has dispatched nothing. -/
theorem connection_invariant_partial_request :
    let e := Engine.new .echo none fun _ => .insertion
    Event.opened 0 ∉ ([] : List Event) ∧ Event.opened 0 ∉ [Event.readable 0 [71, 69, 84]] ∧
      (e.run ([] ++ .opened 0 :: [.readable 0 [71, 69, 84]])).session? 0 = some ⟨0, ⟨[71, 69, 84]⟩, .accumulating⟩ ∧
      (SessionState.accumulating ≠ .closing →
        (e.dispatchedTo 0 ([] ++ .opened 0 :: [.readable 0 [71, 69, 84]])).flatten ++ [71, 69, 84] =
            ([Event.readable 0 [71, 69, 84]].map (Event.dataFor 0)).flatten ∧
          Session.Settled ⟨0, ⟨[71, 69, 84]⟩, .accumulating⟩) := by
  intro e
  have hs : (e.run ([] ++ .opened 0 :: [.readable 0 [71, 69, 84]])).session? 0 =
      some ⟨0, ⟨[71, 69, 84]⟩, .accumulating⟩ := by
    decide +kernel
  exact ⟨by decide, by decide, hs,
    (connection_invariant .echo none (fun _ => .insertion) [] [.readable 0 [71, 69, 84]] 0 (by decide) (by decide) _
      hs).1⟩

/-- A closing connection answers an empty arrival by going on, not by closing: the connection below is closing after
a head followed by an octet it cannot frame. -/
theorem closing_empty_arrival_proceeds :
    let e := (Engine.new .echo none fun _ => .insertion).run [.opened 0, .readable 0 [13, 10, 13, 10, 120]]
    e.session? 0 = some ⟨0, ⟨[13, 10, 13, 10, 120]⟩, .closing⟩ ∧
      (e.handle (.readable 0 [])).reaction = ⟨[], .proceed⟩ := by
  decide +kernel

end Engine

end HttpReactor
