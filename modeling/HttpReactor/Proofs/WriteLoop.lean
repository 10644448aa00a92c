import HttpReactor.Transport.Sink

/-!
# The write loop

A writer offers a stream what is left of its buffer until the stream has taken all of it, then flushes once. The stream
is arbitrary: each write may take any part of the front of what it is offered, or fail. What the writer does to such a
stream is read off the calls it makes, so `Sink.logged` wraps a stream and writes each call down with the answer;
`writeToStream_logged` says the wrapping changes nothing else.

The loop's invariant is `Progress`: the calls so far are writes that each took something, each offered the octets not
yet taken (`OffersFrom`), and together they took the first `written` octets of the buffer. `progress_write` is the step
lemma, and `writeToStream_run` carries it to the end of the loop, which is a flush once everything is taken, or a
write that failed or took nothing. `writeToStream_exact` reads the loop's contract off that end.
-/

namespace HttpReactor

/-- The failure an outcome reports, if any. -/
def failure? : Except IoError Unit → Option IoError
  | .ok () => none
  | .error e => some e

/-- One call a writer makes on a stream, with the stream's answer. -/
inductive SinkCall where
  | write (slice : List UInt8) (reply : WriteReply)
  /-- A flush, with the failure it met, if any. -/
  | flush (failure : Option IoError)
  deriving DecidableEq

namespace SinkCall

/-- The octets the call got the stream to take: the front of the slice, as long as the answer says. -/
def taken : SinkCall → List UInt8
  | .write slice (.took n) => slice.take n
  | _ => []

/-- The call is a write. -/
def isWrite : SinkCall → Bool
  | .write .. => true
  | .flush _ => false

end SinkCall

namespace Sink

variable {σ : Type}

/-- The stream `k`, with every call made on it written down, in order, after the calls already there. -/
def logged (k : Sink σ) : Sink (σ × List SinkCall) where
  write s slice :=
    let r := k.write s.1 slice
    (r.1, r.2, s.2 ++ [.write slice r.1])
  flush s :=
    let r := k.flush s.1
    (r.1, r.2, s.2 ++ [.flush (failure? r.1)])

theorem logged_write (k : Sink σ) (st : σ × List SinkCall) (slice : List UInt8) :
    k.logged.write st slice = ((k.write st.1 slice).1, (k.write st.1 slice).2, st.2 ++ [.write slice (k.write st.1 slice).1]) :=
  rfl

/-- The stream `k'` does on `f s` what `k` does on `s`, seen through `f`. -/
def Follows {τ : Type} (k : Sink σ) (k' : Sink τ) (f : σ → τ) : Prop :=
  (∀ s slice, k'.write (f s) slice = ((k.write s slice).1, f (k.write s slice).2)) ∧
    ∀ s, k'.flush (f s) = ((k.flush s).1, f (k.flush s).2)

/-- Forgetting the calls written down gives the stream itself. -/
theorem logged_follows (k : Sink σ) : k.logged.Follows k Prod.fst :=
  ⟨fun _ _ => rfl, fun _ => rfl⟩

/-- A stream never takes more octets than it is offered. -/
def Honest (k : Sink σ) : Prop := ∀ s slice n s', k.write s slice = (.took n, s') → n ≤ slice.length

/-- A bounded stream takes a front part of each slice. -/
theorem bounded_honest (chunk capacity : Option Nat) : (bounded chunk capacity).Honest := by
  intro s slice n s' h
  simp only [bounded, Prod.mk.injEq, WriteReply.took.injEq] at h
  rw [← h.1]
  exact List.length_take_le' _ _

end Sink

/-- Each write among `calls` offers the octets of `data` from the offset that the writes before it had reached, the
first from `pos`. -/
def OffersFrom (data : List UInt8) : Nat → List SinkCall → Prop
  | _, [] => True
  | pos, .write slice r :: calls =>
    slice = data.drop pos ∧ OffersFrom data (pos + (SinkCall.write slice r).taken.length) calls
  | pos, .flush _ :: calls => OffersFrom data pos calls

theorem offersFrom_append (data : List UInt8) (pos : Nat) (calls : List SinkCall) (c : SinkCall) :
    OffersFrom data pos (calls ++ [c]) ↔
      OffersFrom data pos calls ∧ OffersFrom data (pos + (calls.flatMap SinkCall.taken).length) [c] := by
  induction calls generalizing pos with
  | nil => simp [OffersFrom]
  | cons d calls ih =>
    cases d with
    | write slice r => simp [OffersFrom, ih, Nat.add_assoc, and_assoc]
    | flush r => simp [OffersFrom, ih, SinkCall.taken]

variable {σ : Type} {k : Sink σ}

namespace ResponseWriter

/-- Writing out a buffer, a step at a time: the next write offers what is left. -/
theorem writeToStream_eq (w : ResponseWriter) (s : σ) :
    w.writeToStream k s =
      if w.written < w.buffer.length then
        match k.write s (w.buffer.drop w.written) with
        | (.failed e, s') => (.error e, w, s')
        | (.took 0, s') => (.error .writeZero, w, s')
        | (.took (n + 1), s') => writeToStream k { w with written := w.written + (n + 1) } s'
      else ((k.flush s).1, w, (k.flush s).2) := by
  rewrite [writeToStream]
  rfl

/-- A writer on a stream that follows another through `f` does what it does on the other. -/
theorem writeToStream_follows {τ : Type} {k' : Sink τ} {f : σ → τ} (hf : k.Follows k' f) (w : ResponseWriter)
    (s : σ) :
    w.writeToStream k' (f s) =
      ((w.writeToStream k s).1, (w.writeToStream k s).2.1, f (w.writeToStream k s).2.2) := by
  rw [writeToStream_eq w s, writeToStream_eq w (f s)]
  split
  · rw [hf.1]
    rcases hw : k.write s (w.buffer.drop w.written) with ⟨(_ | n) | e, s'⟩
    · rfl
    · exact writeToStream_follows hf _ s'
    · rfl
  · rw [hf.2]
termination_by w.buffer.length - w.written
decreasing_by omega

/-- What every write and every flush of a stream keeps, a writer keeps. -/
theorem writeToStream_keeps {I : σ → Prop} (hw : ∀ s slice, I s → I (k.write s slice).2)
    (hf : ∀ s, I s → I (k.flush s).2) (w : ResponseWriter) (s : σ) (hs : I s) :
    I (w.writeToStream k s).2.2 := by
  rw [writeToStream_eq w s]
  split
  · have h1 := hw s (w.buffer.drop w.written) hs
    rcases hr : k.write s (w.buffer.drop w.written) with ⟨(_ | n) | e, s'⟩
    · rw [hr] at h1
      exact h1
    · rw [hr] at h1
      exact writeToStream_keeps hw hf _ s' h1
    · rw [hr] at h1
      exact h1
  · exact hf s hs
termination_by w.buffer.length - w.written
decreasing_by omega

/-- Writing down the calls changes neither the outcome, nor the writer, nor the stream. -/
theorem writeToStream_logged (w : ResponseWriter) (s : σ) (log : List SinkCall) :
    ((w.writeToStream k.logged (s, log)).1, (w.writeToStream k.logged (s, log)).2.1,
      (w.writeToStream k.logged (s, log)).2.2.1) = w.writeToStream k s :=
  (writeToStream_follows (Sink.logged_follows k) w (s, log)).symm

end ResponseWriter

/-- What a writer of `data` has done so far, read off the calls it made: every call was a write that took something, and
offered the octets not yet taken; the octets taken are the first `written` of `data`; and each write took at least one
octet, so there were no more writes than octets taken. -/
structure Progress (data : List UInt8) (w : ResponseWriter) (calls : List SinkCall) : Prop where
  buffer : w.buffer = data
  written_le : w.written ≤ data.length
  taken : calls.flatMap SinkCall.taken = data.take w.written
  offers : OffersFrom data 0 calls
  forward : ∀ c ∈ calls, ∃ slice n, c = .write slice (.took (n + 1))
  writes_le : calls.length ≤ w.written

theorem progress_new (data : List UInt8) : Progress data (.new data) [] :=
  ⟨rfl, Nat.zero_le _, by simp [ResponseWriter.new], trivial, by simp, Nat.le_refl _⟩

/-- The octets taken so far are as many as the writer counts. -/
theorem Progress.taken_length {data : List UInt8} {w : ResponseWriter} {calls : List SinkCall}
    (hp : Progress data w calls) : (calls.flatMap SinkCall.taken).length = w.written := by
  rw [hp.taken, List.length_take]
  exact Nat.min_eq_left hp.written_le

/-- One turn of the loop: a write of what is left that takes something keeps the invariant, with the count moved on by
what the stream took. -/
theorem progress_write (hk : k.Honest) {data : List UInt8} {w : ResponseWriter} {calls : List SinkCall}
    (hp : Progress data w calls) {s s' : σ} {n : Nat} (hw : k.write s (data.drop w.written) = (.took (n + 1), s')) :
    Progress data { w with written := w.written + (n + 1) } (calls ++ [.write (data.drop w.written) (.took (n + 1))]) := by
  have hn : n + 1 ≤ data.length - w.written := by simpa using hk s _ _ _ hw
  refine ⟨hp.buffer, by simp only; omega, ?_, ?_, ?_, ?_⟩
  · simp only [List.flatMap_append, hp.taken, List.flatMap_cons, List.flatMap_nil, SinkCall.taken, List.append_nil]
    rw [← List.take_add]
  · refine (offersFrom_append data 0 calls _).2 ⟨hp.offers, ?_⟩
    rw [hp.taken_length]
    exact ⟨by simp, trivial⟩
  · intro c hc
    rcases List.mem_append.1 hc with hc | hc
    · exact hp.forward c hc
    · exact ⟨_, n, List.mem_singleton.1 hc⟩
  · simp only [List.length_append, List.length_singleton]
    have := hp.writes_le
    omega

/-- How the loop ends, from any point at which the invariant holds: after more writes that each took something, with
one last call. That call is a flush once the whole buffer is taken, or a write of what is left that failed or took
nothing, and the outcome is the flush's, the failure's, or `WriteZero`. -/
theorem writeToStream_run (hk : k.Honest) {data : List UInt8} (w : ResponseWriter) (st : σ × List SinkCall)
    (hp : Progress data w st.2) :
    ∃ done last, Progress data (w.writeToStream k.logged st).2.1 done ∧
      (w.writeToStream k.logged st).2.2.2 = done ++ [last] ∧
      (((w.writeToStream k.logged st).2.1.written = data.length ∧ last = .flush (failure? (w.writeToStream k.logged st).1)) ∨
        ((w.writeToStream k.logged st).2.1.written < data.length ∧
          ∃ e, last = .write (data.drop (w.writeToStream k.logged st).2.1.written) (.failed e) ∧
            (w.writeToStream k.logged st).1 = .error e) ∨
        ((w.writeToStream k.logged st).2.1.written < data.length ∧
          last = .write (data.drop (w.writeToStream k.logged st).2.1.written) (.took 0) ∧
          (w.writeToStream k.logged st).1 = .error .writeZero)) := by
  have hb := hp.buffer
  rw [ResponseWriter.writeToStream_eq w st]
  split
  · rename_i hlt
    rw [hb] at hlt
    -- the loop offers what is left; the stream's answer decides whether it goes on
    rcases hw : k.write st.1 (w.buffer.drop w.written) with ⟨(_ | n) | e, s'⟩
    · rw [Sink.logged_write, hw]
      exact ⟨st.2, _, hp, by rw [hb], .inr (.inr ⟨hlt, by rw [hb], rfl⟩)⟩
    · rw [Sink.logged_write, hw]
      have hp' := progress_write hk hp (hb ▸ hw)
      rw [show data.drop w.written = w.buffer.drop w.written by rw [hb]] at hp'
      exact writeToStream_run hk { w with written := w.written + (n + 1) }
        (s', st.2 ++ [.write (w.buffer.drop w.written) (.took (n + 1))]) hp'
    · rw [Sink.logged_write, hw]
      exact ⟨st.2, _, hp, by rw [hb], .inr (.inl ⟨hlt, e, by rw [hb], rfl⟩)⟩
  · rename_i hge
    have hlen : w.written = data.length := by
      have := hp.written_le
      rw [hb] at hge
      omega
    exact ⟨st.2, _, hp, rfl, .inl ⟨hlen, rfl⟩⟩
termination_by w.buffer.length - w.written
decreasing_by
  have := hk _ _ _ _ hw
  simp only [List.length_drop] at this
  omega

/-- The contract of the write loop, for every buffer and every stream that never takes more than it is offered. The
run makes the calls `calls` on the stream and ends as the plain run does. It makes no more writes than the buffer has
octets, and none at all for an empty buffer; each write offers the octets not yet taken. It succeeds only once the
stream has taken exactly the buffer, after which it flushed, once and last. A write that takes nothing ends the run with
`WriteZero` and no flush, the writer counting the octets taken so far, which are the buffer's first ones. -/
theorem writeToStream_exact (hk : k.Honest) (data : List UInt8) (s : σ) {r : Except IoError Unit} {w : ResponseWriter}
    {s' : σ} {calls : List SinkCall} (hrun : (ResponseWriter.new data).writeToStream k.logged (s, []) = (r, w, s', calls)) :
    (ResponseWriter.new data).writeToStream k s = (r, w, s') ∧
      (calls.filter SinkCall.isWrite).length ≤ data.length ∧
      (data = [] → calls.filter SinkCall.isWrite = []) ∧
      OffersFrom data 0 calls ∧
      (r = .ok () →
        calls.flatMap SinkCall.taken = data ∧ ∃ writes, calls = writes ++ [.flush none] ∧ ∀ c ∈ writes, c.isWrite) ∧
      (∀ pre slice post, calls = pre ++ .write slice (.took 0) :: post →
        post = [] ∧ r = .error .writeZero ∧ (∀ c ∈ calls, c.isWrite) ∧
          w.written = (calls.flatMap SinkCall.taken).length ∧ calls.flatMap SinkCall.taken = data.take w.written) := by
  have hplain := ResponseWriter.writeToStream_logged (k := k) (.new data) s []
  obtain ⟨done, last, hp, hcalls, hend⟩ := writeToStream_run hk (.new data) (s, []) (progress_new data)
  rw [hrun] at hplain hp hcalls hend
  simp only at hplain hp hcalls hend
  have hdone : ∀ c ∈ done, c.isWrite := by
    intro c hc
    obtain ⟨slice, n, rfl⟩ := hp.forward c hc
    rfl
  have hfilter : calls.filter SinkCall.isWrite = done ++ [last].filter SinkCall.isWrite := by
    rw [hcalls, List.filter_append, List.filter_eq_self.2 hdone]
  have hwrites := hp.writes_le
  have hwritten := hp.written_le
  have hone : ∀ slice r, ([SinkCall.write slice r].filter SinkCall.isWrite).length = 1 := fun _ _ => rfl
  have hzero : ∀ r, ([SinkCall.flush r].filter SinkCall.isWrite).length = 0 := fun _ => rfl
  refine ⟨hplain.symm, ?_, ?_, ?_, ?_, ?_⟩
  · rw [hfilter, List.length_append]
    rcases hend with ⟨_, rfl⟩ | ⟨hw, e, rfl, _⟩ | ⟨hw, rfl, _⟩
    · rw [hzero]
      omega
    · rw [hone]
      omega
    · rw [hone]
      omega
  · rintro rfl
    have hd : done = [] := List.eq_nil_of_length_eq_zero (by simp at hwritten; omega)
    rcases hend with ⟨_, rfl⟩ | ⟨hw, _⟩ | ⟨hw, _⟩
    · rw [hfilter, hd]
      rfl
    · simp at hw
    · simp at hw
  · rw [hcalls, offersFrom_append]
    refine ⟨hp.offers, ?_⟩
    rw [hp.taken_length]
    rcases hend with ⟨_, rfl⟩ | ⟨_, e, rfl, _⟩ | ⟨_, rfl, _⟩
    · trivial
    · exact ⟨by rw [Nat.zero_add], trivial⟩
    · exact ⟨by rw [Nat.zero_add], trivial⟩
  · rintro rfl
    rcases hend with ⟨hw, rfl⟩ | ⟨_, e, _, he⟩ | ⟨_, _, he⟩
    · refine ⟨?_, done, hcalls, hdone⟩
      rw [hcalls, List.flatMap_append, hp.taken, hw]
      simp [SinkCall.taken]
    · cases he
    · cases he
  · intro pre slice post hsplit
    have hsplit' : done ++ [last] = pre ++ .write slice (.took 0) :: post := hcalls.symm.trans hsplit
    -- every call before the last took something, so the write that took nothing is the last call
    have hlast : post = [] ∧ last = .write slice (.took 0) := by
      rcases List.eq_nil_or_concat post with rfl | ⟨post', x, rfl⟩
      · exact ⟨rfl, List.singleton_inj.1 (List.append_inj' hsplit' rfl).2⟩
      · rw [List.concat_eq_append, ← List.cons_append, ← List.append_assoc] at hsplit'
        have hx : done = pre ++ .write slice (.took 0) :: post' := (List.append_inj' hsplit' rfl).1
        obtain ⟨_, n, hn⟩ := hp.forward (.write slice (.took 0)) (by simp [hx])
        cases hn
    obtain ⟨rfl, rfl⟩ := hlast
    have hall : ∀ c ∈ calls, c.isWrite := by
      intro c hc
      rw [hcalls] at hc
      rcases List.mem_append.1 hc with hc | hc
      · exact hdone c hc
      · rw [List.mem_singleton.1 hc]
        rfl
    have htaken : calls.flatMap SinkCall.taken = done.flatMap SinkCall.taken := by
      rw [hcalls]
      simp [SinkCall.taken]
    rcases hend with ⟨_, hl⟩ | ⟨_, e, hl, _⟩ | ⟨_, _, he⟩
    · cases hl
    · cases hl
    · exact ⟨rfl, he, hall, by rw [htaken, hp.taken_length], by rw [htaken, hp.taken]⟩

/-- A stream that takes two octets a write and five in all, given seven: it takes `1 2`, `3 4` and `5`, then nothing,
and the writer stops with five octets written and no flush. -/
theorem writeToStream_exact_short_stream :
    (Sink.bounded (some 2) (some 5)).Honest ∧
      (ResponseWriter.new [1, 2, 3, 4, 5, 6, 7]).writeToStream (Sink.bounded (some 2) (some 5)).logged (⟨#[], 0⟩, []) =
        (.error .writeZero, ⟨[1, 2, 3, 4, 5, 6, 7], 5⟩, ⟨#[1, 2, 3, 4, 5], 0⟩,
          [.write [1, 2, 3, 4, 5, 6, 7] (.took 2), .write [3, 4, 5, 6, 7] (.took 2), .write [5, 6, 7] (.took 1),
            .write [6, 7] (.took 0)]) ∧
      (ResponseWriter.new [1, 2, 3, 4, 5, 6, 7]).writeToStream (Sink.bounded (some 2) (some 5)) ⟨#[], 0⟩ =
          (.error .writeZero, ⟨[1, 2, 3, 4, 5, 6, 7], 5⟩, ⟨#[1, 2, 3, 4, 5], 0⟩) ∧
        ([SinkCall.write [1, 2, 3, 4, 5, 6, 7] (.took 2), .write [3, 4, 5, 6, 7] (.took 2), .write [5, 6, 7] (.took 1),
            .write [6, 7] (.took 0)].filter SinkCall.isWrite).length ≤ [1, 2, 3, 4, 5, 6, 7].length ∧
        ([1, 2, 3, 4, 5, 6, 7] = ([] : List UInt8) →
          [SinkCall.write [1, 2, 3, 4, 5, 6, 7] (.took 2), .write [3, 4, 5, 6, 7] (.took 2), .write [5, 6, 7] (.took 1),
            .write [6, 7] (.took 0)].filter SinkCall.isWrite = []) ∧
        OffersFrom [1, 2, 3, 4, 5, 6, 7] 0 [.write [1, 2, 3, 4, 5, 6, 7] (.took 2), .write [3, 4, 5, 6, 7] (.took 2),
          .write [5, 6, 7] (.took 1), .write [6, 7] (.took 0)] ∧
        ((.error .writeZero : Except IoError Unit) = .ok () →
          [SinkCall.write [1, 2, 3, 4, 5, 6, 7] (.took 2), .write [3, 4, 5, 6, 7] (.took 2), .write [5, 6, 7] (.took 1),
            .write [6, 7] (.took 0)].flatMap SinkCall.taken = [1, 2, 3, 4, 5, 6, 7] ∧
          ∃ writes, [SinkCall.write [1, 2, 3, 4, 5, 6, 7] (.took 2), .write [3, 4, 5, 6, 7] (.took 2),
            .write [5, 6, 7] (.took 1), .write [6, 7] (.took 0)] = writes ++ [.flush none] ∧ ∀ c ∈ writes, c.isWrite) ∧
        (∀ pre slice post, [SinkCall.write [1, 2, 3, 4, 5, 6, 7] (.took 2), .write [3, 4, 5, 6, 7] (.took 2),
            .write [5, 6, 7] (.took 1), .write [6, 7] (.took 0)] = pre ++ .write slice (.took 0) :: post →
          post = [] ∧ (.error .writeZero : Except IoError Unit) = .error .writeZero ∧
            (∀ c ∈ [SinkCall.write [1, 2, 3, 4, 5, 6, 7] (.took 2), .write [3, 4, 5, 6, 7] (.took 2),
              .write [5, 6, 7] (.took 1), .write [6, 7] (.took 0)], c.isWrite) ∧
            (⟨[1, 2, 3, 4, 5, 6, 7], 5⟩ : ResponseWriter).written =
              ([SinkCall.write [1, 2, 3, 4, 5, 6, 7] (.took 2), .write [3, 4, 5, 6, 7] (.took 2),
                .write [5, 6, 7] (.took 1), .write [6, 7] (.took 0)].flatMap SinkCall.taken).length ∧
            [SinkCall.write [1, 2, 3, 4, 5, 6, 7] (.took 2), .write [3, 4, 5, 6, 7] (.took 2), .write [5, 6, 7] (.took 1),
              .write [6, 7] (.took 0)].flatMap SinkCall.taken =
              [1, 2, 3, 4, 5, 6, 7].take (⟨[1, 2, 3, 4, 5, 6, 7], 5⟩ : ResponseWriter).written) := by
  have hk := Sink.bounded_honest (some 2) (some 5)
  have hrun : (ResponseWriter.new [1, 2, 3, 4, 5, 6, 7]).writeToStream (Sink.bounded (some 2) (some 5)).logged
      (⟨#[], 0⟩, []) =
        (.error .writeZero, ⟨[1, 2, 3, 4, 5, 6, 7], 5⟩, ⟨#[1, 2, 3, 4, 5], 0⟩,
          [.write [1, 2, 3, 4, 5, 6, 7] (.took 2), .write [3, 4, 5, 6, 7] (.took 2), .write [5, 6, 7] (.took 1),
            .write [6, 7] (.took 0)]) := by
    simp [ResponseWriter.writeToStream_eq, Sink.logged_write, Sink.bounded, ResponseWriter.new]
  exact ⟨hk, hrun, writeToStream_exact hk _ _ hrun⟩

end HttpReactor
