import HttpReactor.Proofs.EngineRun
import Mathlib.Data.Finset.Card

/-!
# Connections do not interfere

All connections of one event loop share one engine: one table of sessions, one service, one shutdown flag, and one
thread on which every header map draws its hasher. What a connection is answered depends nevertheless on its own
callbacks only. An event about another connection leaves its session as it was (`Engine.handle_other`), and the answer
to an event about it reads nothing but its session, the service, the flag and the hashers of the maps it decodes
(`Engine.AgreeOn.handle_own`). The other connections' traffic does move which hasher each of its requests draws, so
the law needs a flag fixed for the whole run, a service that does not read the order of a header map, and requests that
carry one `Connection` value each (`dispatch_hasher`). Each connection is then answered, event by event, as it would be
by an engine of its own (`Engine.reactions_about`).

The session table holds one entry per open connection. An event sets or drops the entry of its own connection only, so
the table's entries have distinct connections (`Engine.nodup_ids_run`), and a connection has one after a history exactly
when it was opened and not closed since: the last of its openings and closings decides (`Engine.isSome_session?_run`).

Main statement: `Engine.connections_isolated`.
-/

namespace HttpReactor

namespace Event

/-- The events about connection `c`, in order. -/
def about (c : Nat) (evs : List Event) : List Event := evs.filter fun ev => ev.conn? = some c

/-- Whether connection `c` is open after event `ev`, given whether it was open before: an opening opens it, a closing
closes it, and every other event leaves it as it was. -/
def keepsOpen (c : Nat) (o : Bool) (ev : Event) : Bool :=
  if ev = .opened c then true else if ev = .closed c then false else o

/-- Connection `c` is open after the events: it was opened, and not closed since. -/
def openAfter (c : Nat) (evs : List Event) : Bool := evs.foldl (keepsOpen c) false

/-- A connection that is open after some events was open before them or is opened by one of them. -/
theorem foldl_keepsOpen {c : Nat} {evs : List Event} {o : Bool} (h : evs.foldl (keepsOpen c) o = true) :
    o = true ∨ .opened c ∈ evs := by
  induction evs generalizing o with
  | nil => exact .inl h
  | cons ev evs ih =>
    rcases ih h with ho | hm
    · unfold keepsOpen at ho
      split at ho
      · exact .inr (by simp [*])
      · split at ho
        · cases ho
        · exact .inl ho
    · exact .inr (List.mem_cons_of_mem ev hm)

theorem opened_mem_of_openAfter {c : Nat} {evs : List Event} (h : openAfter c evs = true) : .opened c ∈ evs := by
  rcases foldl_keepsOpen h with h | h
  · cases h
  · exact h

end Event

namespace Engine

/-! ## Engines that agree on one connection -/

/-- Two engines agree on connection `c`: they have the same service, every poll of either sees the flag as every poll
of the other does, and they have the same session for `c`. -/
structure AgreeOn (c : Nat) (e e' : Engine) : Prop where
  service : e.service = e'.service
  signaled : ∀ m n, e.signaledAt m = e'.signaledAt n
  session : e.session? c = e'.session? c

namespace AgreeOn

variable {c : Nat} {e e' : Engine}

theorem refuses (h : AgreeOn c e e') (hr : e.Refuses c) : e'.Refuses c := fun s hs => hr s (h.session ▸ hs)

/-- The agreement on the surroundings passes to later engines. -/
theorem later (h : AgreeOn c e e') {f f' : Engine} (hf : Later e f) (hf' : Later e' f')
    (hs : f.session? c = f'.session? c) : AgreeOn c f f' :=
  ⟨by rw [hf.service, hf'.service, h.service], fun m n => by rw [hf.signaledAt, hf'.signaledAt, h.signaled], hs⟩

/-- Engines that agree on a connection answer an arrival on it alike, and agree on it afterwards, when the service does
not read the order of a header map and the requests the arrival dispatches carry one `Connection` value each. -/
theorem receiveLog (h : AgreeOn c e e') (hblind : e.service.OrderBlind) (data : List UInt8)
    (hconn : ∀ F ∈ (e.receiveLog c data).calls.filterMap Call.framed?, Request.ConnectionUnambiguous F) :
    (e.receiveLog c data).reaction = (e'.receiveLog c data).reaction ∧
      AgreeOn c (e.receiveLog c data).engine (e'.receiveLog c data).engine := by
  by_cases hd : data = []
  · subst hd
    exact ⟨rfl, h⟩
  by_cases hr : e.Refuses c
  · rw [receiveLog_refused hr hd, receiveLog_refused (h.refuses hr) hd]
    exact ⟨rfl, h⟩
  · -- both run the loop over the same session, and their dispatches answer alike
    obtain ⟨s, hs, hc⟩ := not_refuses hr
    have hs' : e'.session? c = some s := h.session ▸ hs
    have hlater := h.later (later_receiveLog e c data) (later_receiveLog e' c data)
    rw [receiveLog_open hs hc hd] at hconn hlater ⊢
    rw [receiveLog_open hs' hc hd] at hlater ⊢
    dsimp only at hconn hlater ⊢
    obtain ⟨hre, hse, -⟩ := serveLog_congr (s.receive data) []
      (answerAlike_of_unambiguous h.service.symm hblind (fun k => h.signaled _ _) hconn)
    exact ⟨hre.symm, hlater (by rw [session?_setSession_self, session?_setSession_self, hse])⟩

/-- Engines that agree on a connection answer every event about it alike, and agree on it afterwards. -/
theorem handle_own (h : AgreeOn c e e') (hblind : e.service.OrderBlind) {ev : Event} (hc : ev.conn? = some c)
    (hconn : ∀ F ∈ (e.handle ev).calls.filterMap Call.framed?, Request.ConnectionUnambiguous F) :
    (e.handle ev).reaction = (e'.handle ev).reaction ∧ AgreeOn c (e.handle ev).engine (e'.handle ev).engine := by
  have hsig : e.signaled = e'.signaled := h.signaled _ _
  cases ev with
  | opened id =>
    cases hc
    refine ⟨by simp [handle, connect, hsig], h.later (later_handle e _) (later_handle e' _) ?_⟩
    simp only [handle, connect, session?_polled, session?_setSession_self]
  | readable id data =>
    cases hc
    exact h.receiveLog hblind data hconn
  | closed id =>
    cases hc
    refine ⟨by simp [handle, disconnect, stopAction, hsig], h.later (later_handle e _) (later_handle e' _) ?_⟩
    simp only [handle, disconnect, session?_polled, session?_dropSession_self]
  | tick => cases hc

/-- An event about another connection keeps the agreement. -/
theorem handle_other (h : AgreeOn c e e') {ev : Event} (hc : ev.conn? ≠ some c) :
    AgreeOn c (e.handle ev).engine e' :=
  h.later (later_handle e ev) (Later.refl e') ((Engine.handle_other e hc).trans h.session)

end AgreeOn

/-- An engine answers the events about connection `c` as an engine that agrees with it on `c` answers those events
alone, when the service does not read the order of a header map and the requests dispatched for `c` carry one
`Connection` value each. The induction is on the history; the agreement is the invariant. -/
theorem reactions_about {c : Nat} {e e' : Engine} {evs : List Event} (h : AgreeOn c e e')
    (hblind : e.service.OrderBlind) (hconn : ∀ F ∈ e.dispatchedTo c evs, Request.ConnectionUnambiguous F) :
    ((e.trace evs).filter fun p => p.1.conn? = some c).map (·.2.reaction) =
      (e'.trace (Event.about c evs)).map (·.2.reaction) := by
  induction evs generalizing e e' with
  | nil => rfl
  | cons ev evs ih =>
    rw [dispatchedTo_cons] at hconn
    have hblind' : (e.handle ev).engine.service.OrderBlind := by rw [(later_handle e ev).service]; exact hblind
    have hrest : ∀ F ∈ (e.handle ev).engine.dispatchedTo c evs, Request.ConnectionUnambiguous F :=
      fun F hF => hconn F (List.mem_append_right _ hF)
    by_cases hc : ev.conn? = some c
    · have hown : ∀ F ∈ (e.handle ev).calls.filterMap Call.framed?, Request.ConnectionUnambiguous F :=
        fun F hF => hconn F (List.mem_append_left _ (by rw [if_pos hc]; exact hF))
      obtain ⟨hr, hag⟩ := h.handle_own hblind hc hown
      simp only [trace, Event.about, List.filter_cons, hc, decide_true, if_true, List.map_cons, hr]
      exact congrArg _ (ih hag hblind' hrest)
    · simp only [trace, Event.about, List.filter_cons, hc, decide_false, Bool.false_eq_true, if_false]
      exact ih (h.handle_other hc) hblind' hrest

/-! ## The session table -/

/-- The connections that have an entry in the session table, in table order. -/
def ids (e : Engine) : List Nat := e.sessions.map (·.1)

theorem isSome_session?_iff (e : Engine) (c : Nat) : (e.session? c).isSome ↔ c ∈ e.ids := by
  simp only [session?, ids, Option.isSome_map, List.find?_isSome, List.mem_map, beq_iff_eq]

theorem ids_setSession (e : Engine) (id : Nat) (s : Session) :
    (e.setSession id s).ids = if id ∈ e.ids then e.ids else e.ids ++ [id] := by
  unfold setSession ids
  by_cases hm : id ∈ e.sessions.map (·.1)
  · have hany : e.sessions.any (·.1 == id) = true := by
      obtain ⟨p, hp, hpe⟩ := List.mem_map.1 hm
      exact List.any_eq_true.2 ⟨p, hp, by simp [hpe]⟩
    rw [if_pos hany, if_pos hm, List.map_map]
    -- replacing the session of `id` keeps every entry's connection
    congr 1
    funext p
    by_cases hp : p.1 = id <;> simp [hp]
  · have hany : e.sessions.any (·.1 == id) = false := by
      refine Bool.eq_false_iff.2 fun h => hm ?_
      obtain ⟨p, hp, hpe⟩ := List.any_eq_true.1 h
      exact List.mem_map.2 ⟨p, hp, by simpa using hpe⟩
    rw [if_neg (by simp [hany]), if_neg hm, List.map_append]
    rfl

theorem ids_dropSession (e : Engine) (id : Nat) : (e.dropSession id).ids = e.ids.filter (· != id) := by
  simp [dropSession, ids, List.filter_map, Function.comp_def]

/-- No event puts a second entry for a connection in the table. -/
theorem nodup_ids_handle {e : Engine} (h : e.ids.Nodup) (ev : Event) : (e.handle ev).engine.ids.Nodup := by
  have hset : ∀ id s, (e.setSession id s).ids.Nodup := fun id s => by
    rw [ids_setSession]
    split
    · exact h
    · rename_i hm
      exact h.append (List.nodup_singleton id) (by simpa using hm)
  cases ev with
  | opened id => exact hset id _
  | readable id data =>
    show ((e.receiveLog id data).engine.sessions.map (·.1)).Nodup
    rcases sessions_receiveLog e id data with he | ⟨s, he⟩
    · rw [he]
      exact h
    · rw [he]
      exact hset id s
  | closed id =>
    show (e.dropSession id).ids.Nodup
    rw [ids_dropSession]
    exact h.filter _
  | tick => exact h

theorem nodup_ids_run {e : Engine} (h : e.ids.Nodup) (evs : List Event) : (e.run evs).ids.Nodup := by
  induction evs generalizing e with
  | nil => exact h
  | cons ev evs ih => exact ih (nodup_ids_handle h ev)

/-- An event opens, closes or leaves alone the session of a connection as `Event.keepsOpen` says. -/
theorem isSome_session?_handle (e : Engine) (c : Nat) (ev : Event) :
    ((e.handle ev).engine.session? c).isSome = Event.keepsOpen c (e.session? c).isSome ev := by
  by_cases hc : ev.conn? = some c
  · cases ev with
    | opened id =>
      cases hc
      simp [handle, connect, session?_setSession_self, Event.keepsOpen]
    | readable id data =>
      cases hc
      -- an arrival sets a session only where there is one
      show ((e.receiveLog c data).engine.session? c).isSome = _
      simp only [Event.keepsOpen, reduceCtorEq, if_false]
      rcases receiveLog_engine e c data with he | ⟨k, s, hs, he⟩
      · rw [he]
      · rw [he, session?_setSession_self, hs]
        rfl
    | closed id =>
      cases hc
      simp [handle, disconnect, session?_dropSession_self, Event.keepsOpen]
    | tick => cases hc
  · have hop : ev ≠ .opened c := fun he => hc (by rw [he]; rfl)
    have hcl : ev ≠ .closed c := fun he => hc (by rw [he]; rfl)
    simp only [handle_other e hc, Event.keepsOpen, hop, hcl, if_false]

theorem isSome_session?_run (e : Engine) (c : Nat) (evs : List Event) :
    ((e.run evs).session? c).isSome = evs.foldl (Event.keepsOpen c) (e.session? c).isSome := by
  induction evs generalizing e with
  | nil => rfl
  | cons ev evs ih => rw [run, ih, isSome_session?_handle, List.foldl_cons]

/-- The number of open connections is the number of connections opened and not closed since. -/
theorem openConnections_run (service : Service) (signaledFrom : Option Nat) (hashers : Nat → HashOrder)
    (evs : List Event) :
    ((Engine.new service signaledFrom hashers).run evs).openConnections =
      ((evs.filterMap Event.conn?).toFinset.filter fun c => Event.openAfter c evs).card := by
  have hnodup := nodup_ids_run (e := Engine.new service signaledFrom hashers) List.nodup_nil evs
  have hlen : ((Engine.new service signaledFrom hashers).run evs).openConnections =
      ((Engine.new service signaledFrom hashers).run evs).ids.length := by
    simp [openConnections, ids]
  rw [hlen, ← List.toFinset_card_of_nodup hnodup]
  congr 1
  ext c
  have hopen : (((Engine.new service signaledFrom hashers).run evs).session? c).isSome = Event.openAfter c evs := by
    rw [isSome_session?_run]
    rfl
  simp only [List.mem_toFinset, Finset.mem_filter, ← isSome_session?_iff, hopen]
  constructor
  · intro h
    exact ⟨List.mem_filterMap.2 ⟨_, Event.opened_mem_of_openAfter h, rfl⟩, h⟩
  · exact fun h => h.2

/-! ## Connections -/

/-- A flag that is set from the start or never is seen alike by every poll of every engine with that schedule. -/
theorem signaledAt_fixed {signaledFrom : Option Nat} (hfixed : signaledFrom = none ∨ signaledFrom = some 0)
    (service service' : Service) (hashers hashers' : Nat → HashOrder) (m n : Nat) :
    (Engine.new service signaledFrom hashers).signaledAt m = (Engine.new service' signaledFrom hashers').signaledAt n := by
  rcases hfixed with rfl | rfl <;> simp [Engine.new, signaledAt]

/-- Connections do not interfere. Take a service that does not read the order of a header map, and a shutdown flag
that is set from the start or never. Over any history run from a fresh engine, each connection gets, event by event,
the answers it gets when only the events about it run, in the same order, on a fresh engine with the same service and
flag, whatever hashers either engine's header maps draw, as long as the requests dispatched for it carry one
`Connection` value each. And the engine counts as open exactly the connections opened and not closed since. -/
theorem connections_isolated (service : Service) (hblind : service.OrderBlind) (signaledFrom : Option Nat)
    (hfixed : signaledFrom = none ∨ signaledFrom = some 0) (hashers hashers' : Nat → HashOrder) (evs : List Event)
    (c : Nat)
    (hconn : ∀ F ∈ (Engine.new service signaledFrom hashers).dispatchedTo c evs, Request.ConnectionUnambiguous F) :
    (((Engine.new service signaledFrom hashers).trace evs).filter fun p => p.1.conn? = some c).map (·.2.reaction) =
      ((Engine.new service signaledFrom hashers').trace (Event.about c evs)).map (·.2.reaction) ∧
    ((Engine.new service signaledFrom hashers).run evs).openConnections =
      ((evs.filterMap Event.conn?).toFinset.filter fun c => Event.openAfter c evs).card :=
  ⟨reactions_about ⟨rfl, signaledAt_fixed hfixed service service hashers hashers', rfl⟩ hblind hconn,
    openConnections_run service signaledFrom hashers evs⟩

/-- Two connections whose callbacks interleave: each starts a request while the other is open, and one of them is
closed; the engine run alone draws hashers that visit header maps in reverse. -/
theorem connections_isolated_interleaved :
    let evs := [Event.opened 0, .opened 1, .readable 1 [71, 69, 84], .readable 0 [80, 85, 84], .closed 1]
    let hashers : Nat → HashOrder := fun _ => .insertion
    let hashers' : Nat → HashOrder := fun _ => ⟨List.reverse, List.reverse_perm⟩
    Service.echo.OrderBlind ∧ ((none : Option Nat) = none ∨ (none : Option Nat) = some 0) ∧
      (∀ F ∈ (Engine.new .echo none hashers).dispatchedTo 0 evs, Request.ConnectionUnambiguous F) ∧
      ((((Engine.new .echo none hashers).trace evs).filter fun p => p.1.conn? = some 0).map (·.2.reaction) =
        ((Engine.new .echo none hashers').trace (Event.about 0 evs)).map (·.2.reaction) ∧
      ((Engine.new .echo none hashers).run evs).openConnections =
        ((evs.filterMap Event.conn?).toFinset.filter fun c => Event.openAfter c evs).card) := by
  intro evs hashers hashers'
  -- connection 0 only ever holds the start of a request, so nothing is dispatched for it
  have hnone : (Engine.new .echo none hashers).dispatchedTo 0 evs = [] := by decide +kernel
  have hconn : ∀ F ∈ (Engine.new .echo none hashers).dispatchedTo 0 evs, Request.ConnectionUnambiguous F := by
    rw [hnone]
    intro F hF
    cases hF
  exact ⟨Service.echo_orderBlind, .inl rfl, hconn,
    connections_isolated .echo Service.echo_orderBlind none (.inl rfl) hashers hashers' evs 0 hconn⟩

end Engine

end HttpReactor
