import HttpReactor.Proofs.WriteLoop
import HttpReactor.Server.Connection
/-!
# The protocol of a connection

What serving a connection does to its handler and its stream is read off the calls it makes on them.
`Handler.logged` and `Sink.traced` write each call down, with its answer, in one list kept beside the
state, so that the calls on both are seen in the order they are made.

The protocol is an automaton on these calls, `Phase.step`: `onOpen` comes first; `onReadable` only while
every callback so far said `proceed` and every output was written, and with the octets of a read; a
reaction's output is then offered to the stream from where the last write stopped until all of it is
taken, and flushed; a failed write or flush ends the connection with its error and `close`; and
`onClosed` comes once, last, told the error the connection ended with. The server is told to stop when
the action the connection ended on or the answer of `onClosed` is `shutdown`.

`react_protocol` is the step lemma, one round of the read loop; `drive_protocol` is the run lemma, by
induction on the reads; `serveConnection_protocol` puts `onOpen` and `onClosed` around it. Writing the
calls down changes nothing of the run: a handler and a stream that do what others do, seen through a
map of states (`Handler.Follows`, `Sink.Follows`), serve a connection as those do. Along the calls, a
request to stop is never made up: `run_asksStop` traces it back to a call that answered `shutdown`. The
converse fails: a reaction that asks for `shutdown` and whose output cannot be written ends the
connection on `close`, so its request is lost, as `serveConnection_loses_shutdown` shows for one
handler and one stream.
-/

namespace HttpReactor

/-- One call that serving a connection makes on its handler or its stream, with the answer it got. -/
inductive Interaction where
  | opened (action : Action)
  | readable (data : List UInt8) (reaction : Reaction)
  | closed (err : Option IoError) (action : Action)
  | io (call : SinkCall)
  deriving DecidableEq

/-- The octets that a call handed to the handler, if it was `onReadable`. -/
def Interaction.input? : Interaction → Option (List UInt8)
  | .readable data _ => some data
  | _ => none

/-- What a callback answered; a call on the stream answers no action. -/
def Interaction.answer : Interaction → Option Action
  | .opened a => some a
  | .readable _ r => some r.action
  | .closed _ a => some a
  | .io _ => none

/-- The answer a call on a stream got is one an honest stream can give: a write took no more than it
was offered. -/
def SinkCall.Honest : SinkCall → Prop
  | .write slice (.took n) => n ≤ slice.length
  | _ => True

namespace Handler

variable {ω : Type}

/-- The handler `h`, with every callback written down, with its answer, after the calls already there. -/
def logged (h : Handler ω) : Handler (ω × List Interaction) where
  onOpen s conn :=
    let r := h.onOpen s.1 conn
    (r.1, r.2, s.2 ++ [.opened r.1])
  onReadable s conn data :=
    let r := h.onReadable s.1 conn data
    (r.1, r.2, s.2 ++ [.readable data r.1])
  onClosed s conn err :=
    let r := h.onClosed s.1 conn err
    (r.1, r.2, s.2 ++ [.closed err r.1])

end Handler

namespace Sink

variable {σ : Type}

/-- The stream `k`, with every call made on it written down among the calls of its connection. -/
def traced (k : Sink σ) : Sink (σ × List Interaction) where
  write s slice :=
    let r := k.write s.1 slice
    (r.1, r.2, s.2 ++ [.io (.write slice r.1)])
  flush s :=
    let r := k.flush s.1
    (r.1, r.2, s.2 ++ [.io (.flush (failure? r.1))])

/-- The calls of one writer, written down on their own, are the calls of a connection from `log` on. -/
theorem logged_follows_traced (k : Sink σ) (log : List Interaction) :
    k.logged.Follows k.traced (fun st => (st.1, log ++ st.2.map .io)) := by
  constructor
  · intro s slice
    simp [logged, traced]
  · intro s
    simp [logged, traced]

/-- Forgetting the calls written down gives the stream itself. -/
theorem traced_follows (k : Sink σ) : k.traced.Follows k Prod.fst :=
  ⟨fun _ _ => rfl, fun _ => rfl⟩

/-- An honest stream, logged, writes down only answers an honest stream gives. -/
theorem logged_write_honest {k : Sink σ} (hk : k.Honest) (st : σ × List SinkCall) (slice : List UInt8)
    (h : ∀ c ∈ st.2, c.Honest) : ∀ c ∈ (k.logged.write st slice).2.2, c.Honest := by
  intro c hc
  rcases List.mem_append.1 hc with hc | hc
  · exact h c hc
  · rw [List.mem_singleton.1 hc]
    rcases hr : k.write st.1 slice with ⟨_ | e, s'⟩
    · exact hk _ _ _ _ hr
    · trivial

/-- A flush, logged, writes down nothing that an honest stream cannot answer. -/
theorem logged_flush_honest (k : Sink σ) (st : σ × List SinkCall) (h : ∀ c ∈ st.2, c.Honest) :
    ∀ c ∈ (k.logged.flush st).2.2, c.Honest := by
  intro c hc
  rcases List.mem_append.1 hc with hc | hc
  · exact h c hc
  · rw [List.mem_singleton.1 hc]
    trivial

end Sink

/-- Where a connection stands in its protocol, as the calls made so far show it. -/
inductive Phase where
  /-- Nothing has been called yet. -/
  | fresh
  /-- Every callback so far said `proceed` and every output was written: the next read may come. -/
  | ready
  /-- The output `out` of a reaction is being written, its first `pos` octets taken so far; `action`
  is what the reaction asked for. -/
  | writing (out : List UInt8) (pos : Nat) (action : Action)
  /-- The connection is ending with this error and action: only `onClosed` may follow, told the error. -/
  | ending (err : Option IoError) (action : Action)
  /-- `onClosed` has been called; `stop` says whether the server is to stop. -/
  | closed (stop : Bool)
  deriving DecidableEq, Repr

namespace Phase

/-- After a callback that answered `a`: ready for the next read on `proceed`, else ending, with no
error, on `a`. -/
def afterAction : Action → Phase
  | .proceed => .ready
  | a => .ending none a

/-- After a reaction's output was written with outcome `res`: a failure ends the connection with its
error and `close`, whatever the reaction asked for. -/
def afterWrite : Except IoError Unit → Action → Phase
  | .ok (), a => afterAction a
  | .error e, _ => .ending (some e) .close

/-- The calls the protocol allows in each phase, and the phase each leads to. -/
def step : Phase → Interaction → Option Phase
  | .fresh, .opened a => some (afterAction a)
  | .ready, .readable data r =>
    if data.isEmpty then none
    else if r.out.isEmpty then some (afterAction r.action)
    else some (.writing r.out 0 r.action)
  | .ready, .closed _ c => some (.closed (c == .shutdown))
  | .writing out pos a, .io (.write slice reply) =>
    if slice = out.drop pos ∧ pos < out.length then
      match reply with
      | .took (n + 1) =>
        if pos + (n + 1) ≤ out.length then some (.writing out (pos + (n + 1)) a) else none
      | .took 0 => some (.ending (some .writeZero) .close)
      | .failed e => some (.ending (some e) .close)
    else none
  | .writing out pos a, .io (.flush failure) =>
    if pos = out.length then
      match failure with
      | none => some (afterAction a)
      | some e => some (.ending (some e) .close)
    else none
  | .ending err a, .closed err' c =>
    if err' = err then some (.closed (a == .shutdown || c == .shutdown)) else none
  | _, _ => none

/-- The phase that `calls` lead to from `p`, if the protocol allows them. -/
def run (p : Phase) (calls : List Interaction) : Option Phase := calls.foldlM step p

@[simp] theorem run_nil (p : Phase) : p.run [] = some p := rfl

theorem run_cons_of_step {p q : Phase} {c : Interaction} (h : p.step c = some q) (calls : List Interaction) :
    p.run (c :: calls) = q.run calls := by
  simp only [run, List.foldlM_cons, h, Option.bind_eq_bind, Option.bind_some]

theorem run_append_of_run {p q : Phase} {xs : List Interaction} (h : p.run xs = some q) (ys : List Interaction) :
    p.run (xs ++ ys) = q.run ys := by
  rw [run, List.foldlM_append]
  rw [run] at h
  rw [h]
  rfl

theorem run_singleton (p : Phase) (c : Interaction) : p.run [c] = p.step c := by
  simp only [run, List.foldlM_cons, List.foldlM_nil, Option.bind_eq_bind]
  cases p.step c <;> rfl

/-- Writes that each took some of what was left, each offering the octets not yet taken, keep the
connection writing the same output, with the octets taken counted. -/
theorem run_writes {data : List UInt8} {a : Action} (calls : List SinkCall) :
    ∀ pos, OffersFrom data pos calls →
      (∀ c ∈ calls, ∃ slice n, c = .write slice (.took (n + 1)) ∧ n + 1 ≤ slice.length) →
      (writing data pos a).run (calls.map .io) =
        some (.writing data (pos + (calls.flatMap SinkCall.taken).length) a) := by
  induction calls with
  | nil =>
    intro pos _ _
    simp
  | cons c calls ih =>
    intro pos hoff hfw
    obtain ⟨slice, n, rfl, hn⟩ := hfw c List.mem_cons_self
    obtain ⟨hslice, hrest⟩ := hoff
    have htaken : (SinkCall.write slice (.took (n + 1))).taken.length = n + 1 := by
      simp only [SinkCall.taken, List.length_take]
      omega
    have hpos : pos + (n + 1) ≤ data.length := by
      rw [hslice, List.length_drop] at hn
      omega
    have hstep : (writing data pos a).step (.io (.write slice (.took (n + 1)))) =
        some (.writing data (pos + (n + 1)) a) := by
      have hlt : pos < data.length := by omega
      simp [step, hslice, hlt, hpos]
    rw [htaken] at hrest
    rw [List.map_cons, run_cons_of_step hstep,
      ih (pos + (n + 1)) hrest fun c hc => hfw c (List.mem_cons_of_mem _ hc)]
    simp only [List.flatMap_cons, List.length_append, htaken, Nat.add_assoc]

/-- The phase carries a request to stop: the reaction being written or the connection that is ending asked for
`shutdown`, or the connection closed with a stop. -/
def asksStop : Phase → Bool
  | .writing _ _ a => a == .shutdown
  | .ending _ a => a == .shutdown
  | .closed stop => stop
  | _ => false

theorem asksStop_afterAction (a : Action) : (afterAction a).asksStop = (a == .shutdown) := by
  cases a <;> rfl

/-- A step leads to a phase that asks for a stop only from one that did, or by a call that answered `shutdown`. -/
theorem step_asksStop {p q : Phase} {c : Interaction} (h : p.step c = some q) (hq : q.asksStop = true) :
    p.asksStop = true ∨ c.answer = some .shutdown := by
  cases p with
  | fresh =>
    cases c <;> simp only [step, reduceCtorEq] at h
    rename_i a
    cases h
    rw [asksStop_afterAction] at hq
    exact .inr (by simpa [Interaction.answer] using hq)
  | ready =>
    cases c with
    | readable data r =>
      simp only [step] at h
      split at h
      · cases h
      · split at h
        · cases h
          rw [asksStop_afterAction] at hq
          exact .inr (by simpa [Interaction.answer] using hq)
        · cases h
          exact .inr (by simpa [asksStop, Interaction.answer] using hq)
    | closed err a =>
      simp only [step, Option.some.injEq] at h
      subst h
      simp_all [asksStop, Interaction.answer]
    | _ => simp [step] at h
  | writing out pos a =>
    cases c with
    | io call =>
      left
      cases call with
      | write slice reply =>
        simp only [step] at h
        split at h
        · rcases reply with (_ | n) | e
          · cases h; simp [asksStop] at hq
          · simp only at h; split at h
            · cases h; exact hq
            · cases h
          · cases h; simp [asksStop] at hq
        · cases h
      | flush f =>
        simp only [step] at h
        split at h
        · rcases f with _ | e
          · cases h; rw [asksStop_afterAction] at hq; exact hq
          · cases h; simp [asksStop] at hq
        · cases h
    | _ => simp [step] at h
  | ending err a =>
    cases c with
    | closed err' b =>
      simp only [step] at h
      split at h
      · cases h
        simp only [asksStop, Bool.or_eq_true, beq_iff_eq] at hq
        rcases hq with hq | hq
        · exact .inl (by simp [asksStop, hq])
        · exact .inr (by simp [Interaction.answer, hq])
      · cases h
    | _ => simp [step] at h
  | closed stop => simp [step] at h

/-- Along calls that the protocol allows, a request to stop comes from the phase they start in or from a call that
answered `shutdown`; the induction is on the calls, with `step_asksStop` for each. -/
theorem run_asksStop {q : Phase} (calls : List Interaction) :
    ∀ {p : Phase}, p.run calls = some q → q.asksStop = true →
      p.asksStop = true ∨ ∃ c ∈ calls, c.answer = some .shutdown := by
  induction calls with
  | nil =>
    intro p h hq
    cases h
    exact .inl hq
  | cons c calls ih =>
    intro p h hq
    cases hs : p.step c with
    | none => simp [run, List.foldlM_cons, hs] at h
    | some p' =>
      rw [run_cons_of_step hs] at h
      rcases ih h hq with hp' | ⟨c', hc', hans⟩
      · rcases step_asksStop hs hp' with hp | hans
        · exact .inl hp
        · exact .inr ⟨c, List.mem_cons_self, hans⟩
      · exact .inr ⟨c', List.mem_cons_of_mem _ hc', hans⟩

section WriteLoop

variable {σ : Type} {k : Sink σ}

/-- A reaction's output written on an honest stream: from `writing out 0 a`, the calls the writer makes
lead to the phase that its outcome gives. -/
theorem run_writeToStream (hk : k.Honest) (out : List UInt8) (a : Action) (s : σ) :
    (writing out 0 a).run (((ResponseWriter.new out).writeToStream k.logged (s, [])).2.2.2.map .io) =
      some (afterWrite ((ResponseWriter.new out).writeToStream k.logged (s, [])).1 a) := by
  obtain ⟨done, last, hp, hcalls, hend⟩ :=
    writeToStream_run hk (ResponseWriter.new out) (s, []) (progress_new out)
  have hhonest : ∀ c ∈ ((ResponseWriter.new out).writeToStream k.logged (s, [])).2.2.2, c.Honest :=
    ResponseWriter.writeToStream_keeps (I := fun st : σ × List SinkCall => ∀ c ∈ st.2, c.Honest)
      (Sink.logged_write_honest hk) (Sink.logged_flush_honest k) _ _ (by simp)
  generalize (ResponseWriter.new out).writeToStream k.logged (s, []) = r at hp hcalls hend hhonest ⊢
  rw [hcalls] at hhonest ⊢
  -- every call before the last took something, and no more than it was offered
  have hfw : ∀ c ∈ done, ∃ slice n, c = .write slice (.took (n + 1)) ∧ n + 1 ≤ slice.length := by
    intro c hc
    obtain ⟨slice, n, rfl⟩ := hp.forward c hc
    exact ⟨slice, n, rfl, hhonest _ (List.mem_append_left _ hc)⟩
  rw [List.map_append, run_append_of_run (run_writes done 0 hp.offers hfw), Nat.zero_add,
    hp.taken_length, List.map_singleton, run_singleton]
  rcases hend with ⟨hlen, rfl⟩ | ⟨hlt, e, rfl, hres⟩ | ⟨hlt, rfl, hres⟩
  · rw [hlen]
    cases r.1 <;> simp [step, failure?, afterWrite]
  · simp [step, hlt, hres, afterWrite]
  · simp [step, hlt, hres, afterWrite]

end WriteLoop

end Phase

namespace Drive

variable {ω : Type}

/-- The state a read loop leaves. -/
def state : Drive ω → ω
  | .reading w => w
  | .ended _ _ w => w

/-- The same end of a read loop, with its state seen through `f`. -/
def map {ω' : Type} (f : ω → ω') : Drive ω → Drive ω'
  | .reading w => .reading (f w)
  | .ended err a w => .ended err a (f w)

/-- The phases that a read loop can leave its connection in: ready while it is still reading; once it
has ended, ending on its error and action, or still ready when a read ended it, which asks for no stop. -/
def Leaves : Drive ω → Phase → Prop
  | .reading _, p => p = .ready
  | .ended err a _, p => p = .ending err a ∨ (p = .ready ∧ a ≠ .shutdown)

end Drive

namespace Serving

variable {ω : Type}

/-- The state a served connection leaves. -/
def state : Serving ω → ω
  | .reading w => w
  | .closed _ w => w

/-- The phase a served connection is in: ready while it waits on a read, closed once closed. -/
def phase : Serving ω → Phase
  | .reading _ => .ready
  | .closed stop _ => .closed stop

/-- The same outcome of a connection, with its state seen through `f`. -/
def map {ω' : Type} (f : ω → ω') : Serving ω → Serving ω'
  | .reading w => .reading (f w)
  | .closed stop w => .closed stop (f w)

end Serving

namespace Handler

variable {ω : Type} {k : Sink ω}

/-- A reaction's output written on the traced stream: nothing at all for no octets, else the calls of
the writer on their own, after the calls already there. -/
theorem writeOut_traced (out : List UInt8) (w : ω) (log : List Interaction) :
    writeOut k.traced out (w, log) =
      if out.isEmpty then (.ok (), w, log)
      else (((ResponseWriter.new out).writeToStream k.logged (w, [])).1,
        ((ResponseWriter.new out).writeToStream k.logged (w, [])).2.2.1,
        log ++ ((ResponseWriter.new out).writeToStream k.logged (w, [])).2.2.2.map .io) := by
  have hf := ResponseWriter.writeToStream_follows (Sink.logged_follows_traced k log)
    (ResponseWriter.new out) (w, [])
  simp only [List.map_nil, List.append_nil] at hf
  unfold writeOut Sink.drain
  split
  · rfl
  · rw [hf]

theorem logged_onReadable (h : Handler ω) (w : ω) (log : List Interaction) (conn : Nat) (data : List UInt8) :
    h.logged.onReadable (w, log) conn data =
      ((h.onReadable w conn data).1, (h.onReadable w conn data).2, log ++ [.readable data (h.onReadable w conn data).1]) :=
  rfl

theorem react_eq (h : Handler ω) (k : Sink ω) (conn : Nat) (data : List UInt8) (w : ω) :
    h.react k conn data w =
      ((h.onReadable w conn data).1, writeOut k (h.onReadable w conn data).1.out (h.onReadable w conn data).2) :=
  rfl

/-- The step lemma: one round of the read loop, seen in its calls, is `onReadable` with the octets read
and then the calls of writing its output, which take a ready connection to the phase that the outcome
of the write and the reaction's action give. -/
theorem react_protocol (hk : k.Honest) (h : Handler ω) (conn : Nat) {data : List UInt8} (hd : data ≠ [])
    {w : ω} {log : List Interaction} {r : Reaction} {res : Except IoError Unit} {w' : ω} {log' : List Interaction}
    (hr : h.logged.react k.traced conn data (w, log) = (r, res, w', log')) :
    ∃ ios, log' = log ++ .readable data r :: ios ∧ ios.filterMap Interaction.input? = [] ∧
      Phase.ready.run (.readable data r :: ios) = some (Phase.afterWrite res r.action) := by
  have hne : data.isEmpty = false := List.isEmpty_eq_false_iff.2 hd
  rw [react_eq, logged_onReadable] at hr
  dsimp only at hr
  rw [writeOut_traced] at hr
  by_cases hout : (h.onReadable w conn data).1.out.isEmpty = true
  · rw [if_pos hout] at hr
    simp only [Prod.mk.injEq] at hr
    obtain ⟨rfl, rfl, rfl, rfl⟩ := hr
    refine ⟨[], by simp, rfl, ?_⟩
    simp [Phase.run_singleton, Phase.step, hne, hout, Phase.afterWrite]
  · rw [if_neg hout] at hr
    simp only [Prod.mk.injEq] at hr
    obtain ⟨rfl, rfl, rfl, rfl⟩ := hr
    refine ⟨((ResponseWriter.new (h.onReadable w conn data).1.out).writeToStream k.logged
      ((h.onReadable w conn data).2, [])).2.2.2.map .io, by simp, by simp [Interaction.input?], ?_⟩
    have hstep : Phase.ready.step (.readable data (h.onReadable w conn data).1) =
        some (.writing (h.onReadable w conn data).1.out 0 (h.onReadable w conn data).1.action) := by
      simp [Phase.step, hne, hout]
    rw [Phase.run_cons_of_step hstep, Phase.run_writeToStream hk]

section Follows

variable {α β : Type} {h : Handler α} {h' : Handler β} {k₁ : Sink α} {k₂ : Sink β} {f : α → β}

/-- The handler `h'` does on `f s` what `h` does on `s`, seen through `f`. -/
def Follows (h : Handler α) (h' : Handler β) (f : α → β) : Prop :=
  (∀ s conn, h'.onOpen (f s) conn = ((h.onOpen s conn).1, f (h.onOpen s conn).2)) ∧
    (∀ s conn data, h'.onReadable (f s) conn data = ((h.onReadable s conn data).1, f (h.onReadable s conn data).2)) ∧
    ∀ s conn err, h'.onClosed (f s) conn err = ((h.onClosed s conn err).1, f (h.onClosed s conn err).2)

/-- Forgetting the calls written down gives the handler itself. -/
theorem logged_follows (h : Handler ω) : h.logged.Follows h Prod.fst :=
  ⟨fun _ _ => rfl, fun _ _ _ => rfl, fun _ _ _ => rfl⟩

theorem writeOut_follows (hk : k₁.Follows k₂ f) (out : List UInt8) (w : α) :
    writeOut k₂ out (f w) = ((writeOut k₁ out w).1, f (writeOut k₁ out w).2) := by
  unfold writeOut Sink.drain
  split
  · rfl
  · rw [ResponseWriter.writeToStream_follows hk]

theorem react_follows (hh : h.Follows h' f) (hk : k₁.Follows k₂ f) (conn : Nat) (data : List UInt8) (w : α) :
    h'.react k₂ conn data (f w) =
      ((h.react k₁ conn data w).1, (h.react k₁ conn data w).2.1, f (h.react k₁ conn data w).2.2) := by
  rw [react_eq, react_eq, hh.2.1, writeOut_follows hk]

/-- A read loop with a handler and a stream that follow others through `f` ends as theirs does, seen
through `f`; the induction is on the reads. -/
theorem drive_follows (hh : h.Follows h' f) (hk : k₁.Follows k₂ f) (conn : Nat) (reads : List Read) :
    ∀ w, h'.drive k₂ conn reads (f w) = (h.drive k₁ conn reads w).map f := by
  induction reads with
  | nil =>
    intro w
    rfl
  | cons rd reads ih =>
    intro w
    cases rd with
    | stopped => rfl
    | failed e => rfl
    | bytes data =>
      cases data with
      | nil => rfl
      | cons b bs =>
        have hr := react_follows hh hk conn (b :: bs) w
        rcases hreact : h.react k₁ conn (b :: bs) w with ⟨r, res, w2⟩
        rw [hreact] at hr
        rw [drive, drive, hr, hreact]
        cases res with
        | error e => rfl
        | ok u =>
          cases u
          dsimp only
          cases r.action with
          | proceed => exact ih w2
          | close => rfl
          | shutdown => rfl

theorem openDrive_follows (hh : h.Follows h' f) (hk : k₁.Follows k₂ f) (conn : Nat) (reads : List Read) (w : α) :
    h'.openDrive k₂ conn reads (f w) = (h.openDrive k₁ conn reads w).map f := by
  unfold openDrive
  rw [hh.1]
  rcases h.onOpen w conn with ⟨a, w1⟩
  cases a with
  | proceed => exact drive_follows hh hk conn reads w1
  | close => rfl
  | shutdown => rfl

theorem finish_follows (hh : h.Follows h' f) (conn : Nat) (d : Drive α) :
    h'.finish conn (d.map f) = (h.finish conn d).map f := by
  cases d with
  | reading w => rfl
  | ended err a w =>
    rw [Drive.map, finish, finish, hh.2.2]
    rfl

/-- Serving a connection with a handler and a stream that follow others through `f` ends as serving it
with those does, seen through `f`. -/
theorem serveConnection_follows (hh : h.Follows h' f) (hk : k₁.Follows k₂ f) (conn : Nat) (registered : Bool)
    (reads : List Read) (w : α) :
    h'.serveConnection k₂ conn registered reads (f w) = (h.serveConnection k₁ conn registered reads w).map f := by
  cases registered with
  | true =>
    simp only [serveConnection, if_true]
    rw [openDrive_follows hh hk, finish_follows hh]
  | false => rfl

end Follows

/-- A loop that ends before a reaction, on a read, made no call and asks for no stop. -/
theorem leaves_of_read (err : Option IoError) {a : Action} (ha : a ≠ .shutdown) (st : ω × List Interaction) :
    ∃ calls p, (Drive.ended err a st).state.2 = st.2 ++ calls ∧ Phase.ready.run calls = some p ∧
      (Drive.ended err a st).Leaves p ∧ ∀ reads : List Read, (calls.filterMap Interaction.input?).map Read.bytes <+: reads :=
  ⟨[], .ready, by simp [Drive.state], rfl, .inr ⟨rfl, ha⟩, fun _ => List.nil_prefix⟩

/-- One round of the read loop on octets read, against the protocol: the loop reads on exactly when the
round leaves the connection ready, and otherwise ends with the error and action of the phase it leaves. -/
theorem drive_bytes {h : Handler ω} {conn : Nat} {b : UInt8} {bs : List UInt8} (reads : List Read) {w : ω}
    {r : Reaction} {res : Except IoError Unit} {w' : ω} (hr : h.react k conn (b :: bs) w = (r, res, w')) :
    (Phase.afterWrite res r.action = .ready ∧ h.drive k conn (.bytes (b :: bs) :: reads) w = h.drive k conn reads w') ∨
      ∃ err a, Phase.afterWrite res r.action = .ending err a ∧
        h.drive k conn (.bytes (b :: bs) :: reads) w = .ended err a w' := by
  rw [drive, hr]
  cases res with
  | error e => exact .inr ⟨some e, .close, rfl, rfl⟩
  | ok u =>
    cases u
    dsimp only
    cases r.action with
    | proceed => exact .inl ⟨rfl, rfl⟩
    | close => exact .inr ⟨none, .close, rfl, rfl⟩
    | shutdown => exact .inr ⟨none, .shutdown, rfl, rfl⟩

/-- The run lemma of the read loop: from a ready connection, the calls it makes are allowed by the
protocol and leave the connection in a phase that fits how the loop ended, and the octets handed to the
handler are those of the first reads, in order. The induction is on the reads; `react_protocol` is the
round. -/
theorem drive_protocol (hk : k.Honest) (h : Handler ω) (conn : Nat) (reads : List Read) :
    ∀ (w : ω) (log : List Interaction), ∃ calls p,
      (h.logged.drive k.traced conn reads (w, log)).state.2 = log ++ calls ∧
      Phase.ready.run calls = some p ∧ (h.logged.drive k.traced conn reads (w, log)).Leaves p ∧
      (calls.filterMap Interaction.input?).map Read.bytes <+: reads := by
  induction reads with
  | nil =>
    intro w log
    exact ⟨[], .ready, by simp [drive, Drive.state], rfl, rfl, List.nil_prefix⟩
  | cons rd reads ih =>
    intro w log
    cases rd with
    | stopped =>
      obtain ⟨calls, p, hs, hrun, hl, hpre⟩ := leaves_of_read none (a := .close) (by decide) (w, log)
      exact ⟨calls, p, hs, hrun, hl, hpre _⟩
    | failed e =>
      obtain ⟨calls, p, hs, hrun, hl, hpre⟩ := leaves_of_read (some e) (a := .proceed) (by decide) (w, log)
      exact ⟨calls, p, hs, hrun, hl, hpre _⟩
    | bytes data =>
      cases data with
      | nil =>
        obtain ⟨calls, p, hs, hrun, hl, hpre⟩ := leaves_of_read none (a := .proceed) (by decide) (w, log)
        exact ⟨calls, p, hs, hrun, hl, hpre _⟩
      | cons b bs =>
        rcases hr : h.logged.react k.traced conn (b :: bs) (w, log) with ⟨r, res, w2, log2⟩
        obtain ⟨ios, rfl, hin, hround⟩ := react_protocol hk h conn (List.cons_ne_nil b bs) hr
        -- the octets of this read are the only ones the round hands over
        have hinputs : ((Interaction.readable (b :: bs) r :: ios).filterMap Interaction.input?).map Read.bytes =
            [.bytes (b :: bs)] := by
          simp [Interaction.input?, hin]
        rcases drive_bytes reads hr with ⟨hready, hnext⟩ | ⟨err, a, hend, hended⟩
        · -- the round hands the connection back to the loop: the rest of the reads follow
          obtain ⟨calls, p, hs, hrun, hl, hpre⟩ := ih w2 (log ++ .readable (b :: bs) r :: ios)
          refine ⟨.readable (b :: bs) r :: ios ++ calls, p, ?_, ?_, ?_, ?_⟩
          · rw [hnext, hs]
            simp
          · rw [hready] at hround
            rw [Phase.run_append_of_run hround]
            exact hrun
          · rw [hnext]
            exact hl
          · rw [List.filterMap_append, List.map_append, hinputs]
            exact List.cons_prefix_cons.2 ⟨rfl, hpre⟩
        · -- the round ends the loop where the protocol is ending
          refine ⟨_, _, by rw [hended]; simp [Drive.state], hround, by rw [hended, hend]; exact .inl rfl, ?_⟩
          rw [hinputs]
          exact List.cons_prefix_cons.2 ⟨rfl, List.nil_prefix⟩

theorem logged_onOpen (h : Handler ω) (w : ω) (log : List Interaction) (conn : Nat) :
    h.logged.onOpen (w, log) conn = ((h.onOpen w conn).1, (h.onOpen w conn).2, log ++ [.opened (h.onOpen w conn).1]) :=
  rfl

theorem logged_onClosed (h : Handler ω) (w : ω) (log : List Interaction) (conn : Nat) (err : Option IoError) :
    h.logged.onClosed (w, log) conn err =
      ((h.onClosed w conn err).1, (h.onClosed w conn err).2, log ++ [.closed err (h.onClosed w conn err).1]) :=
  rfl

/-- From a fresh connection, `onOpen` and then the read loop if it said `proceed`: the calls are allowed
by the protocol and leave the connection in a phase that fits how the loop ended. -/
theorem openDrive_protocol (hk : k.Honest) (h : Handler ω) (conn : Nat) (reads : List Read) (w : ω) :
    ∃ calls p, (h.logged.openDrive k.traced conn reads (w, [])).state.2 = calls ∧
      Phase.fresh.run calls = some p ∧ (h.logged.openDrive k.traced conn reads (w, [])).Leaves p ∧
      (calls.filterMap Interaction.input?).map Read.bytes <+: reads := by
  unfold openDrive
  rw [logged_onOpen]
  cases ha : (h.onOpen w conn).1 with
  | proceed =>
    obtain ⟨calls, p, hs, hrun, hl, hpre⟩ := drive_protocol hk h conn reads (h.onOpen w conn).2 [.opened .proceed]
    refine ⟨.opened .proceed :: calls, p, hs, ?_, hl, ?_⟩
    · rw [Phase.run_cons_of_step rfl]
      exact hrun
    · rw [List.filterMap_cons_none rfl]
      exact hpre
  | close => exact ⟨[.opened .close], .ending none .close, rfl, rfl, .inl rfl, List.nil_prefix⟩
  | shutdown => exact ⟨[.opened .shutdown], .ending none .shutdown, rfl, rfl, .inl rfl, List.nil_prefix⟩

/-- The calls that serving a connection makes from a fresh start are allowed by the protocol and lead to the phase
its outcome shows, and the octets handed to the handler are those of the first reads, in order. -/
theorem serveConnection_calls (hk : k.Honest) (h : Handler ω) (conn : Nat) (reads : List Read) (w : ω) :
    Phase.fresh.run (h.logged.serveConnection k.traced conn true reads (w, [])).state.2 =
        some (h.logged.serveConnection k.traced conn true reads (w, [])).phase ∧
      ((h.logged.serveConnection k.traced conn true reads (w, [])).state.2.filterMap Interaction.input?).map
        Read.bytes <+: reads := by
  obtain ⟨calls, p, hs, hrun, hl, hpre⟩ := openDrive_protocol hk h conn reads w
  simp only [serveConnection, if_true]
  generalize h.logged.openDrive k.traced conn reads (w, []) = d at hs hl
  cases d with
  | reading st =>
    simp only [Drive.state] at hs
    simp only [Drive.Leaves] at hl
    subst hl
    simp only [finish, Serving.state, Serving.phase, hs]
    exact ⟨hrun, hpre⟩
  | ended err a st =>
    obtain ⟨w1, log1⟩ := st
    simp only [Drive.state] at hs
    subst hs
    rw [finish, logged_onClosed]
    simp only [Serving.state, Serving.phase]
    constructor
    · -- `onClosed` follows the loop with its error, and the stop is as the phase it left says
      rw [Phase.run_append_of_run hrun, Phase.run_singleton]
      rcases hl with rfl | ⟨rfl, ha⟩
      · simp [Phase.step]
      · simp [Phase.step, ha]
    · rw [List.filterMap_append, List.filterMap_cons_none rfl, List.filterMap_nil, List.append_nil]
      exact hpre

/-- The protocol of a connection, for every handler, every honest stream and every script of reads.
Writing the calls down changes nothing of the run. The calls that serving the connection makes, on the
handler and on the stream, are allowed by `Phase.step` from a fresh connection, and lead to the phase
its outcome shows: still reading, or closed with the stop it reports. A connection that stops the server
made a call that answered `shutdown`. The octets handed to the handler are those of the first reads of
the script, in order. -/
theorem serveConnection_protocol (hk : k.Honest) (h : Handler ω) (conn : Nat) (reads : List Read) (w : ω) :
    (h.logged.serveConnection k.traced conn true reads (w, [])).map Prod.fst = h.serveConnection k conn true reads w ∧
      Phase.fresh.run (h.logged.serveConnection k.traced conn true reads (w, [])).state.2 =
        some (h.logged.serveConnection k.traced conn true reads (w, [])).phase ∧
      ((h.logged.serveConnection k.traced conn true reads (w, [])).phase = .closed true →
        ∃ c ∈ (h.logged.serveConnection k.traced conn true reads (w, [])).state.2, c.answer = some .shutdown) ∧
      ((h.logged.serveConnection k.traced conn true reads (w, [])).state.2.filterMap Interaction.input?).map
        Read.bytes <+: reads := by
  obtain ⟨hrun, hpre⟩ := serveConnection_calls hk h conn reads w
  refine ⟨(serveConnection_follows (logged_follows h) (Sink.traced_follows k) conn true reads (w, [])).symm, hrun,
    fun hstop => ?_, hpre⟩
  -- a fresh connection asks for no stop, so the request comes from one of the calls
  rw [hstop] at hrun
  rcases Phase.run_asksStop _ hrun rfl with hfresh | hcall
  · cases hfresh
  · exact hcall

/-- A handler that echoes what it reads and asks for a stop when its connection closes, on a stream that
takes one octet a write, for a connection that sends two octets and then closes its side. -/
theorem serveConnection_protocol_echo :
    (Sink.bounded (some 1) none).Honest ∧
      ((⟨fun s _ => (.proceed, s), fun s _ data => (⟨data, .proceed⟩, s),
          fun s _ _ => (.shutdown, s)⟩ : Handler Sink.Record).logged.serveConnection
            (Sink.bounded (some 1) none).traced 0 true [.bytes [1, 2], .bytes []] (⟨#[], 0⟩, [])).map Prod.fst =
        (⟨fun s _ => (.proceed, s), fun s _ data => (⟨data, .proceed⟩, s),
          fun s _ _ => (.shutdown, s)⟩ : Handler Sink.Record).serveConnection
            (Sink.bounded (some 1) none) 0 true [.bytes [1, 2], .bytes []] ⟨#[], 0⟩ ∧
      Phase.fresh.run (((⟨fun s _ => (.proceed, s), fun s _ data => (⟨data, .proceed⟩, s),
          fun s _ _ => (.shutdown, s)⟩ : Handler Sink.Record).logged.serveConnection
            (Sink.bounded (some 1) none).traced 0 true [.bytes [1, 2], .bytes []] (⟨#[], 0⟩, [])).state.2) =
        some ((⟨fun s _ => (.proceed, s), fun s _ data => (⟨data, .proceed⟩, s),
          fun s _ _ => (.shutdown, s)⟩ : Handler Sink.Record).logged.serveConnection
            (Sink.bounded (some 1) none).traced 0 true [.bytes [1, 2], .bytes []] (⟨#[], 0⟩, [])).phase ∧
      (((⟨fun s _ => (.proceed, s), fun s _ data => (⟨data, .proceed⟩, s),
          fun s _ _ => (.shutdown, s)⟩ : Handler Sink.Record).logged.serveConnection
            (Sink.bounded (some 1) none).traced 0 true [.bytes [1, 2], .bytes []] (⟨#[], 0⟩, [])).phase = .closed true →
        ∃ c ∈ ((⟨fun s _ => (.proceed, s), fun s _ data => (⟨data, .proceed⟩, s),
          fun s _ _ => (.shutdown, s)⟩ : Handler Sink.Record).logged.serveConnection
            (Sink.bounded (some 1) none).traced 0 true [.bytes [1, 2], .bytes []] (⟨#[], 0⟩, [])).state.2,
          c.answer = some .shutdown) ∧
      (((⟨fun s _ => (.proceed, s), fun s _ data => (⟨data, .proceed⟩, s),
          fun s _ _ => (.shutdown, s)⟩ : Handler Sink.Record).logged.serveConnection
            (Sink.bounded (some 1) none).traced 0 true [.bytes [1, 2], .bytes []] (⟨#[], 0⟩, [])).state.2.filterMap
              Interaction.input?).map Read.bytes <+: [.bytes [1, 2], .bytes []] :=
  ⟨Sink.bounded_honest _ _, serveConnection_protocol (Sink.bounded_honest _ _) _ 0 _ _⟩

/-- A reaction that asks for a stop, but whose output the stream does not take, does not stop the
server: the failed write ends the connection on `close`, and only `onClosed` could still ask for it. -/
theorem serveConnection_loses_shutdown :
    (⟨fun _ _ => (.proceed, ()), fun _ _ _ => (⟨[1], .shutdown⟩, ()), fun _ _ _ => (.proceed, ())⟩ :
        Handler Unit).logged.serveConnection (⟨fun _ _ => (.took 0, ()), fun _ => (.ok (), ())⟩ : Sink Unit).traced
        0 true [.bytes [1]] ((), []) =
      .closed false ((), [.opened .proceed, .readable [1] ⟨[1], .shutdown⟩, .io (.write [1] (.took 0)),
        .closed (some .writeZero) .proceed]) := by
  simp [serveConnection, openDrive, logged_onOpen, drive, react_eq, logged_onReadable, writeOut_traced,
    ResponseWriter.writeToStream_eq, ResponseWriter.new, Sink.logged, finish, logged_onClosed]

end Handler

end HttpReactor
