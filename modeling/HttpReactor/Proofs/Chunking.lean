import HttpReactor.Proofs.EngineRun

/-!
# Chunking does not change what the engine does

The octets of a connection arrive in chunks whose boundaries the client does not choose. The engine frames whatever it
has buffered after each chunk, serves every complete request, and keeps the rest for the next chunk; this module shows
that the responses and the final state are those of one arrival of all the octets at once.

There is one exception, and it is by design: a head without a Content-Length is complete only when nothing follows it.
Delivered with more octets behind it, it is a body without length and closes the connection; delivered in a chunk that
ends with its head, it is served. The law therefore assumes that the arrival of everything at once does not stop on that
verdict.

The two deliveries are two runs, and each header map the engine decodes draws its own hasher, so the chunked run may
visit the headers of a request in another order than the whole one. That changes nothing for a service that does not
read the order, as long as the requests do not carry two different `Connection` values (`dispatch_hasher`); the law
assumes both.

The argument is a simulation between the two loops. `serveLog_resumes` compares the loop over the buffer `P ++ T` with
the loop over `P` followed by the loop over what it leaves and `T`; it rests on the framer's prefix laws
(`Framing.evaluate_prefix_of_complete` and its siblings), which fix each verdict on `P` from the verdict on `P ++ T`.
`receiveLog_resumes` lifts it to the engine, `chunks_agree` follows by induction on the chunks for one engine, and
`receiveLog_rehash` moves the whole arrival to the other hashers.
-/

namespace HttpReactor

namespace Engine

open Framing

/-- The loop over a whole buffer against the loop over a prefix of it (`first`) followed by the loop over the rest
(`second`): either the first loop closes the connection and the whole one reacts as it does, or the first loop proceeds
and the whole one answers the first loop's output followed by the second loop's, ends where the second ends, and makes
the second's calls last. -/
def Resumes (whole first second : Served) : Prop :=
  (first.reaction.action = .close ∧ first.session.state = .closing ∧ whole.reaction = first.reaction) ∨
  (first.reaction.action = .proceed ∧ first.session.state ≠ .closing ∧
    whole.reaction = ⟨first.reaction.out ++ second.reaction.out, second.reaction.action⟩ ∧
    whole.session = second.session ∧ whole.engine = second.engine ∧ ∃ pre, whole.calls = pre ++ second.calls)

/-- The body-without-length verdict, the one verdict on a longer buffer that a prefix can contradict. -/
def bodyWithoutLength : Call := .frame (.malformed .bodyWithoutLength)

section Resumes

variable {T : List UInt8}

/-- If the loop over the prefix waits for more octets, the whole loop is the loop after the rest arrives. -/
theorem resumes_of_incomplete (e : Engine) {s : Session} (hs : s.state ≠ .closing) (out : List UInt8)
    (hP : evaluate s.buffered = .incomplete) :
    Resumes (serveLog e (s.receive T) out) (serveLog e s out)
      (serveLog (serveLog e s out).engine ((serveLog e s out).session.receive T) []) := by
  rw [serveLog_incomplete e hP, serveLog_out e (s.receive T) out]
  exact .inr ⟨rfl, hs, rfl, rfl, rfl, [], rfl⟩

/-- The loop over `P ++ T` resumes the loop over `P`, unless it stops on a body without length. The induction follows
the loop over `P`; at each turn the verdict on `P ++ T` fixes the verdict on `P`. -/
theorem serveLog_resumes (hT : T ≠ []) (e : Engine) (s : Session) (hs : s.state ≠ .closing) (out : List UInt8)
    (hbwl : bodyWithoutLength ∉ (serveLog e (s.receive T) out).calls) :
    Resumes (serveLog e (s.receive T) out) (serveLog e s out)
      (serveLog (serveLog e s out).engine ((serveLog e s out).session.receive T) []) := by
  have hwhole := serveLog_eq e (s.receive T) out
  rw [Session.buffered_receive] at hwhole
  rcases hv : evaluate (s.buffered ++ T) with _ | ⟨h, n⟩ | err
  · exact resumes_of_incomplete e hs out (evaluate_prefix_of_incomplete hv)
  · by_cases hn : n ≤ s.buffered.length
    · -- the prefix already holds the request: both loops dispatch the same octets at the same poll
      have hP := evaluate_prefix_of_complete hv hn
      have htake : (s.buffered ++ T).take n = s.buffered.take n := List.take_append_of_le_length hn
      simp only [hv, htake] at hwhole
      rw [hwhole] at hbwl ⊢
      rw [serveLog_eq e s out, hP]
      dsimp only at hbwl ⊢
      rcases hd : e.dispatchNext (s.buffered.take n) [] with _ | ⟨o, _ | _⟩
      · exact .inl ⟨rfl, rfl, rfl⟩
      · exact .inl ⟨rfl, rfl, rfl⟩
      · rw [hd] at hbwl
        dsimp only at hbwl ⊢
        have hrc : (s.receive T).consume n = (s.consume n).receive T := Session.receive_consume s hn hT
        have hne : ¬((s.receive T).consume n).buffered.isEmpty := by
          simp [List.drop_append_of_le_length hn, hT]
        rw [if_neg hne] at hbwl ⊢
        rw [hrc] at hbwl ⊢
        have hc : (s.consume n).state ≠ .closing := by
          rw [Session.state_consume]
          split <;> simp
        have hbwl' : bodyWithoutLength ∉ (serveLog e.polled ((s.consume n).receive T) (out ++ o)).calls :=
          fun hmem => hbwl (List.mem_cons_of_mem _ (List.mem_cons_of_mem _ hmem))
        split
        · -- the prefix is used up: the rest of the whole loop is the loop over `T`
          rw [serveLog_out e.polled ((s.consume n).receive T) (out ++ o)]
          exact .inr ⟨rfl, hc, rfl, rfl, rfl, [_, _], rfl⟩
        · rename_i hrest
          have : s.buffered.length - n < s.buffered.length := by simpa using consume_length_lt hP hrest
          rcases serveLog_resumes hT e.polled (s.consume n) hc (out ++ o) hbwl' with
            ⟨ha, hcl, hr⟩ | ⟨ha, hcl, hr, hse, hen, pre, hcalls⟩
          · exact .inl ⟨ha, hcl, hr⟩
          · exact .inr ⟨ha, hcl, hr, hse, hen, _ :: _ :: pre, by dsimp only; rw [hcalls]; rfl⟩
    · exact resumes_of_incomplete e hs out (evaluate_prefix_of_complete_short hv (by omega))
  · by_cases herr : err = .bodyWithoutLength
    · subst herr
      rw [hv] at hwhole
      simp [hwhole, bodyWithoutLength] at hbwl
    · rcases evaluate_prefix_of_malformed hv herr with hP | hP
      · exact resumes_of_incomplete e hs out hP
      · rw [hwhole, hv, serveLog_eq e s out, hP]
        exact .inl ⟨rfl, rfl, rfl⟩
termination_by s.buffered.length

end Resumes

/-! ## Arrivals at the engine -/

/-- The arrival of `a ++ b` against the arrival of `a` and then of `b`: the first closes the connection and the whole
arrival reacts as it does, or the first proceeds and the whole arrival answers what the two answer together and leaves
the engine where the second leaves it. -/
theorem receiveLog_resumes (e : Engine) (id : Nat) {a b : List UInt8} (ha : a ≠ []) (hb : b ≠ [])
    (hbwl : bodyWithoutLength ∉ (e.receiveLog id (a ++ b)).calls) :
    ((e.receiveLog id a).reaction.action = .close ∧ (e.receiveLog id (a ++ b)).reaction = (e.receiveLog id a).reaction ∧
      (e.receiveLog id a).engine.Refuses id) ∨
    ((e.receiveLog id a).reaction.action = .proceed ∧
      (e.receiveLog id (a ++ b)).reaction =
        ⟨(e.receiveLog id a).reaction.out ++ ((e.receiveLog id a).engine.receiveLog id b).reaction.out,
          ((e.receiveLog id a).engine.receiveLog id b).reaction.action⟩ ∧
      (e.receiveLog id (a ++ b)).engine = ((e.receiveLog id a).engine.receiveLog id b).engine ∧
      bodyWithoutLength ∉ ((e.receiveLog id a).engine.receiveLog id b).calls) := by
  have hab : a ++ b ≠ [] := by simp [ha]
  by_cases hr : e.Refuses id
  · rw [receiveLog_refused hr ha, receiveLog_refused hr hab]
    exact .inl ⟨rfl, rfl, hr⟩
  obtain ⟨s, hs, hc⟩ := not_refuses hr
  rw [receiveLog_open hs hc hab, ← Session.receive_receive] at hbwl ⊢
  rw [receiveLog_open hs hc ha]
  dsimp only at hbwl ⊢
  have hsa : (s.receive a).state ≠ .closing := state_receive_ne_closing hc ha
  rcases serveLog_resumes hb e (s.receive a) hsa [] hbwl with
    ⟨hcl, hst, hre⟩ | ⟨hpr, hst, hre, hse, hen, pre, hcalls⟩
  · refine .inl ⟨hcl, hre, fun s' h => ?_⟩
    rw [session?_setSession_self] at h
    cases h
    exact hst
  · -- the second arrival runs the loop from the engine the first left, which it reads only through its dispatches
    rw [receiveLog_open (session?_setSession_self _ id _) hst hb]
    simp only [serveLog_setSession, setSession_setSession]
    refine .inr ⟨hpr, hre, by rw [hse, hen], fun hmem => ?_⟩
    exact hbwl (hcalls ▸ List.mem_append_right pre hmem)

/-! ## Chunks -/

/-- Chunks delivered to connection `id` by one arrival after another: the reactions in order, and the engine after the
last. -/
def receiveAll (e : Engine) (id : Nat) : List (List UInt8) → List Reaction × Engine
  | [] => ([], e)
  | c :: cs =>
    let r := e.receive id c
    let rest := r.2.receiveAll id cs
    (r.1 :: rest.1, rest.2)

/-- Every chunk delivered to a connection that is turned away is answered by closing it. -/
theorem receiveAll_refused {e : Engine} {id : Nat} (h : e.Refuses id) {cs : List (List UInt8)}
    (hne : ∀ c ∈ cs, c ≠ []) : e.receiveAll id cs = (cs.map fun _ => ⟨[], .close⟩, e) := by
  induction cs with
  | nil => rfl
  | cons c cs ih =>
    have hc : e.receive id c = (⟨[], .close⟩, e) := by
      rw [← receiveLog_fst, receiveLog_refused h (hne c List.mem_cons_self)]
    simp only [receiveAll, hc, List.map_cons, ih fun c' hc' => hne c' (List.mem_cons_of_mem c hc')]

/-- Reactions after the first that are all closes with nothing sent: whatever follows a close is such a close. -/
theorem closes_after_refused (r : Reaction) (cs : List (List UInt8)) :
    ∀ pre r' post, r :: cs.map (fun _ => (⟨[], .close⟩ : Reaction)) = pre ++ r' :: post →
      ∀ x ∈ post, x = ⟨[], .close⟩ := by
  intro pre r' post hsplit x hx
  have hmem : x ∈ cs.map fun _ => (⟨[], .close⟩ : Reaction) := by
    cases pre with
    | nil =>
      simp only [List.nil_append, List.cons.injEq] at hsplit
      exact hsplit.2 ▸ hx
    | cons p pre =>
      simp only [List.cons_append, List.cons.injEq] at hsplit
      rw [hsplit.2]
      exact List.mem_append_right _ (List.mem_cons_of_mem r' hx)
  obtain ⟨_, _, rfl⟩ := List.mem_map.1 hmem
  rfl

/-- A reaction after which only closes follow; the law's second part for the tail of a run. -/
theorem closes_after_cons {r : Reaction} {rs : List Reaction} (hr : r.action ≠ .close)
    (h : ∀ pre r' post, rs = pre ++ r' :: post → r'.action = .close → ∀ x ∈ post, x = ⟨[], .close⟩) :
    ∀ pre r' post, r :: rs = pre ++ r' :: post → r'.action = .close → ∀ x ∈ post, x = ⟨[], .close⟩ := by
  intro pre r' post hsplit hcl
  cases pre with
  | nil =>
    simp only [List.nil_append, List.cons.injEq] at hsplit
    obtain ⟨rfl, -⟩ := hsplit
    exact absurd hcl hr
  | cons p pre =>
    simp only [List.cons_append, List.cons.injEq] at hsplit
    exact h pre r' post hsplit.2 hcl

/-- On one engine, delivering the octets of `S` in non-empty chunks, one arrival after another, does what delivering `S`
at once does, as long as that single arrival does not stop on a body without length. -/
theorem chunks_agree (e : Engine) (id : Nat) (cs : List (List UInt8)) (hne : ∀ c ∈ cs, c ≠ [])
    (hbwl : Call.frame (.malformed .bodyWithoutLength) ∉ (e.receiveLog id cs.flatten).calls) :
    ((e.receiveAll id cs).1.map Reaction.out).flatten = (e.receive id cs.flatten).1.out ∧
    ((∃ r ∈ (e.receiveAll id cs).1, r.action = .close) ↔ (e.receive id cs.flatten).1.action = .close) ∧
    (∀ pre r post, (e.receiveAll id cs).1 = pre ++ r :: post → r.action = .close → ∀ r' ∈ post, r' = ⟨[], .close⟩) ∧
    ((∀ r ∈ (e.receiveAll id cs).1, r.action ≠ .close) → (e.receiveAll id cs).2 = (e.receive id cs.flatten).2) := by
  induction cs generalizing e with
  | nil =>
    have h0 : e.receive id [] = (⟨[], .proceed⟩, e) := rfl
    simp [receiveAll, h0]
  | cons c cs ih =>
    have hc : c ≠ [] := hne c List.mem_cons_self
    have hne' : ∀ c' ∈ cs, c' ≠ [] := fun c' hc' => hne c' (List.mem_cons_of_mem c hc')
    have hrecv : ∀ (e' : Engine) (x : List UInt8), e'.receive id x = ((e'.receiveLog id x).reaction,
        (e'.receiveLog id x).engine) := fun e' x => (receiveLog_fst e' id x).symm
    cases hcs : cs.flatten with
    | nil =>
      -- only the first chunk carries octets
      have hcs' : cs = [] := by
        cases cs with
        | nil => rfl
        | cons c' cs' => simp [hne' c' List.mem_cons_self] at hcs
      subst hcs'
      simp only [receiveAll, List.flatten_cons, List.flatten_nil, List.append_nil, List.map_cons, List.map_nil]
      exact ⟨by simp, by simp, fun pre r post hsplit _ => closes_after_refused _ [] pre r post hsplit, by simp⟩
    | cons x T =>
      have hT : x :: T ≠ [] := List.cons_ne_nil x T
      rw [List.flatten_cons, hcs] at hbwl ⊢
      simp only [receiveAll, hrecv]
      rcases receiveLog_resumes e id hc hT hbwl with ⟨hcl, hre, href⟩ | ⟨hpr, hre, hen, hbwl'⟩
      · -- the first chunk closes: the rest are turned away
        rw [receiveAll_refused href hne', hre]
        refine ⟨by simp, ⟨fun _ => hcl, fun _ => ⟨_, List.mem_cons_self, hcl⟩⟩,
          fun pre r post hsplit _ => closes_after_refused _ cs pre r post hsplit, fun hall => ?_⟩
        exact absurd hcl (hall _ List.mem_cons_self)
      · -- the first chunk proceeds: the rest of the chunks is the rest of the arrival
        obtain ⟨ih1, ih2, ih3, ih4⟩ := ih (e.receiveLog id c).engine hne' (hcs ▸ hbwl')
        rw [hcs, hrecv] at ih1 ih2 ih4
        have hr1 : (e.receiveLog id c).reaction.action ≠ .close := by rw [hpr]; decide
        refine ⟨?_, ?_, closes_after_cons hr1 ih3, fun hall => ?_⟩
        · simp only [List.map_cons, List.flatten_cons, hre, ih1]
        · rw [hre]
          simp only [List.mem_cons, exists_eq_or_imp, hr1, false_or]
          exact ih2
        · rw [hen]
          exact ih4 fun r hr => hall r (List.mem_cons_of_mem _ hr)

/-- The arrival of the same octets at an engine that differs only in its hashers: when the service does not read the
order of a header map and the requests the arrival dispatches carry one `Connection` value each, the arrival reacts
alike, makes the same calls and leaves the engine alike, its hashers apart. -/
theorem receiveLog_rehash (e : Engine) (hashers : Nat → HashOrder) (hblind : e.service.OrderBlind) (id : Nat)
    (input : List UInt8)
    (hconn : ∀ F ∈ (e.receiveLog id input).calls.filterMap Call.framed?, Request.ConnectionUnambiguous F) :
    ({ e with hashers := hashers } : Engine).receiveLog id input =
      ⟨(e.receiveLog id input).reaction, (e.receiveLog id input).calls,
        { (e.receiveLog id input).engine with hashers := hashers }⟩ := by
  by_cases hi : input = []
  · subst hi
    rfl
  by_cases hr : e.Refuses id
  · have hr' : ({ e with hashers := hashers } : Engine).Refuses id := hr
    rw [receiveLog_refused hr hi, receiveLog_refused hr' hi]
  · obtain ⟨s, hs, hc⟩ := not_refuses hr
    have hs' : ({ e with hashers := hashers } : Engine).session? id = some s := hs
    rw [receiveLog_open hs hc hi] at hconn ⊢
    rw [receiveLog_open hs' hc hi]
    dsimp only at hconn ⊢
    -- the two loops see the same flag at the same polls, and the hasher does not change a dispatch
    obtain ⟨hre, hse, hca⟩ := serveLog_congr (s.receive input) []
      (@answerAlike_of_unambiguous e { e with hashers := hashers } rfl hblind (fun _ => rfl) _ hconn)
    rw [serveLog_engine { e with hashers := hashers }, serveLog_engine e, hre, hse, hca]
    rfl

/-- Chunking does not change what the engine does. Deliver the octets of `S` to connection `id` in non-empty chunks,
one arrival after another, and compare with the delivery of `S` at once, in another run of the same engine whose header
maps draw other hashers. When the single arrival does not stop on a body without length, the service does not read the
order of a header map, and each request the single arrival dispatches carries one `Connection` value: the responses,
concatenated, are the same; some chunk closes the connection exactly when the single arrival does, and every chunk
after a close is answered by closing with nothing sent; and when no chunk closes, the engine ends in the same state, its
hashers apart. -/
theorem receiveAll_agrees (e : Engine) (hashers : Nat → HashOrder) (hblind : e.service.OrderBlind) (id : Nat)
    (cs : List (List UInt8)) (hne : ∀ c ∈ cs, c ≠ [])
    (hbwl : Call.frame (.malformed .bodyWithoutLength) ∉ (e.receiveLog id cs.flatten).calls)
    (hconn : ∀ F ∈ (e.receiveLog id cs.flatten).calls.filterMap Call.framed?, Request.ConnectionUnambiguous F) :
    let e' : Engine := { e with hashers := hashers }
    ((e'.receiveAll id cs).1.map Reaction.out).flatten = (e.receive id cs.flatten).1.out ∧
    ((∃ r ∈ (e'.receiveAll id cs).1, r.action = .close) ↔ (e.receive id cs.flatten).1.action = .close) ∧
    (∀ pre r post, (e'.receiveAll id cs).1 = pre ++ r :: post → r.action = .close → ∀ r' ∈ post, r' = ⟨[], .close⟩) ∧
    ((∀ r ∈ (e'.receiveAll id cs).1, r.action ≠ .close) →
      (e'.receiveAll id cs).2 = { (e.receive id cs.flatten).2 with hashers := hashers }) := by
  intro e'
  have hwhole := receiveLog_rehash e hashers hblind id cs.flatten hconn
  -- the whole arrival reacts alike in the two runs, so the law on one engine carries over
  have hrecv : e'.receive id cs.flatten =
      ((e.receive id cs.flatten).1, { (e.receive id cs.flatten).2 with hashers := hashers }) := by
    rw [← receiveLog_fst, ← receiveLog_fst, hwhole]
  have hbwl' : Call.frame (.malformed .bodyWithoutLength) ∉ (e'.receiveLog id cs.flatten).calls := by
    rw [hwhole]
    exact hbwl
  obtain ⟨h1, h2, h3, h4⟩ := chunks_agree e' id cs hne hbwl'
  simp only [hrecv] at h1 h2 h4
  exact ⟨h1, h2, h3, h4⟩

/-- A request line delivered in two chunks to a connection just opened, against the whole line delivered to an engine
whose header maps visit their entries in reverse: the law applies, since the single arrival waits for the rest of the
head and dispatches nothing. -/
theorem receiveAll_agrees_split_request_line :
    let e := ((Engine.new .echo none fun _ => .insertion).connect 0).2
    let cs : List (List UInt8) := [[71, 69, 84, 32], [47, 32, 72, 84, 84, 80, 47, 49, 46, 49, 13, 10]]
    let hashers : Nat → HashOrder := fun _ => ⟨List.reverse, List.reverse_perm⟩
    let e' : Engine := { e with hashers := hashers }
    e.service.OrderBlind ∧ (∀ c ∈ cs, c ≠ []) ∧
    Call.frame (.malformed .bodyWithoutLength) ∉ (e.receiveLog 0 cs.flatten).calls ∧
    (∀ F ∈ (e.receiveLog 0 cs.flatten).calls.filterMap Call.framed?, Request.ConnectionUnambiguous F) ∧
    (((e'.receiveAll 0 cs).1.map Reaction.out).flatten = (e.receive 0 cs.flatten).1.out ∧
      ((∃ r ∈ (e'.receiveAll 0 cs).1, r.action = .close) ↔ (e.receive 0 cs.flatten).1.action = .close) ∧
      (∀ pre r post, (e'.receiveAll 0 cs).1 = pre ++ r :: post → r.action = .close →
        ∀ r' ∈ post, r' = ⟨[], .close⟩) ∧
      ((∀ r ∈ (e'.receiveAll 0 cs).1, r.action ≠ .close) →
        (e'.receiveAll 0 cs).2 = { (e.receive 0 cs.flatten).2 with hashers := hashers })) := by
  intro e cs hashers e'
  have hne : ∀ c ∈ cs, c ≠ [] := by decide
  have hs : e.session? 0 = some (Session.start 0) :=
    session?_setSession_self (Engine.new .echo none fun _ => .insertion) 0 (.start 0)
  -- the octets hold no blank line yet, so the single arrival's only call is an incomplete verdict
  have hcalls : (e.receiveLog 0 cs.flatten).calls = [.frame .incomplete] := by
    rw [receiveLog_open hs (by decide) (by decide)]
    dsimp only
    rw [serveLog_incomplete e (Framing.evaluate_of_find?_none (by decide))]
  have hbwl : Call.frame (.malformed .bodyWithoutLength) ∉ (e.receiveLog 0 cs.flatten).calls := by
    rw [hcalls]
    decide
  have hconn : ∀ F ∈ (e.receiveLog 0 cs.flatten).calls.filterMap Call.framed?, Request.ConnectionUnambiguous F := by
    rw [hcalls]
    intro F hF
    simp [Call.framed?] at hF
  exact ⟨Service.echo_orderBlind, hne, hbwl, hconn,
    receiveAll_agrees e hashers Service.echo_orderBlind 0 cs hne hbwl hconn⟩

end Engine

end HttpReactor
