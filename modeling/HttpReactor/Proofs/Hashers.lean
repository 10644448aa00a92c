import HttpReactor.Dispatch

/-!
# What the hasher of a header map decides

A decoded request keeps its header fields in a hash map, and the map visits them in the order its hasher gives; the
hasher is drawn afresh for every map. Decoding under any hasher is decoding in the order the fields came, rearranged
(`Request.decode_arrange`).

A header lookup ignores case and answers with the first entry the map visits, so it depends on the order only through
entries whose names match the same name with different values (`HeaderMap.get?_perm_iff`). When the entries named
`Connection` carry one value, whether the connection stays open does not depend on the order
(`Request.keepAlive_perm`), and a service that does not read the order answers the same: the dispatch of such a request
is the same under every hasher (`dispatch_hasher`).
-/

namespace HttpReactor

namespace HeaderMap

/-- The entries whose names match `name`, ignoring ASCII case, all carry one value. -/
def Unambiguous (m : HeaderMap) (name : String) : Prop :=
  ∀ a ∈ m.entries, ∀ b ∈ m.entries, sameName a.1 name = true → sameName b.1 name = true → a.2 = b.2

section Perm

variable {m : HeaderMap} {name : String} {l : List (String × String)}

/-- In any order of an unambiguous map, a lookup of a name that some entry matches answers with that entry's value. -/
theorem get?_perm_of_mem (hu : m.Unambiguous name) (hl : l.Perm m.entries) {e : String × String} (he : e ∈ m.entries)
    (hne : sameName e.1 name = true) : (⟨l⟩ : HeaderMap).get? name = some e.2 := by
  -- the first match in `l` is an entry of the map that matches too, so it carries the same value
  obtain ⟨x, hx⟩ : ∃ x, l.find? (fun e => sameName e.1 name) = some x :=
    Option.isSome_iff_exists.1 (List.find?_isSome.2 ⟨e, hl.mem_iff.2 he, hne⟩)
  have hxm : x ∈ m.entries := hl.mem_iff.1 (List.mem_of_find?_eq_some hx)
  have hxn : sameName x.1 name = true := by simpa using List.find?_some hx
  simp only [get?, hx, Option.map_some, hu x hxm e he hxn hne]

/-- In any order of a map, a lookup of a name that no entry matches finds nothing. -/
theorem get?_perm_of_not_mem (hl : l.Perm m.entries) (hn : ∀ e ∈ m.entries, sameName e.1 name = false) :
    (⟨l⟩ : HeaderMap).get? name = none := by
  simp only [get?, Option.map_eq_none_iff, List.find?_eq_none]
  intro e he
  simp [hn e (hl.mem_iff.1 he)]

/-- A lookup answers the same in every order of a map's entries exactly when the entries that match the name all carry
one value. An entry put first is the one a lookup finds, so two matching entries with two values give two answers. -/
theorem get?_perm_iff (m : HeaderMap) (name : String) :
    (∀ l, l.Perm m.entries → (⟨l⟩ : HeaderMap).get? name = m.get? name) ↔ m.Unambiguous name := by
  constructor
  · intro h a ha b hb hna hnb
    have hfirst : ∀ e ∈ m.entries, sameName e.1 name = true → m.get? name = some e.2 := by
      intro e he hne
      rw [← h (e :: m.entries.erase e) (List.perm_cons_erase he).symm]
      simp [get?, hne]
    exact Option.some.inj ((hfirst a ha hna).symm.trans (hfirst b hb hnb))
  · intro hu l hl
    by_cases hm : ∃ e ∈ m.entries, sameName e.1 name = true
    · obtain ⟨e, he, hne⟩ := hm
      rw [get?_perm_of_mem hu hl he hne]
      exact (get?_perm_of_mem hu (List.Perm.refl _) he hne).symm
    · have hn : ∀ e ∈ m.entries, sameName e.1 name = false := by
        intro e he
        simpa using fun h => hm ⟨e, he, h⟩
      rw [get?_perm_of_not_mem hl hn]
      exact (get?_perm_of_not_mem (List.Perm.refl _) hn).symm

end Perm

end HeaderMap

namespace Request

/-- Whether the connection stays open depends only on the version and on the lookup of `Connection`. -/
theorem keepAlive_congr {r r' : Request} (hv : r.version = r'.version)
    (hc : r.header? "Connection" = r'.header? "Connection") : r.keepAlive = r'.keepAlive := by
  unfold keepAlive
  rw [hc, hv]

/-- When the entries named `Connection` agree, every order of the map decides the same about the connection. -/
theorem keepAlive_perm {r : Request} (hu : r.headers.Unambiguous "Connection") {l : List (String × String)}
    (hl : l.Perm r.headers.entries) : ({ r with headers := ⟨l⟩ } : Request).keepAlive = r.keepAlive :=
  keepAlive_congr rfl ((HeaderMap.get?_perm_iff r.headers "Connection").2 hu l hl)

/-- The request decoded under a hasher is the request decoded in the order the fields came, with its header map visited
in the hasher's order. -/
theorem decode_arrange (order : HashOrder) (buf : List UInt8) :
    decode order buf = (decode .insertion buf).map fun r => { r with headers := ⟨order.arrange r.headers.entries⟩ } := by
  unfold decode
  split
  · rfl
  · rfl
  · split
    · rfl
    · split <;> rfl

/-- The octets of a framed request decode, under every hasher, to a request whose entries named `Connection` all carry
one value. -/
def ConnectionUnambiguous (framed : List UInt8) : Prop :=
  ∀ order r, decode order framed = .ok r → r.headers.Unambiguous "Connection"

end Request

/-- The dispatch under a hasher is the dispatch in the order the fields came, when the service does not read the order
and the request's `Connection` entries carry one value: the response and the decision to keep the connection are both
taken from a permutation of the same map. -/
theorem dispatch_arrange {service : Service} (hblind : service.OrderBlind) {framed : List UInt8}
    (hu : Request.ConnectionUnambiguous framed) (order : HashOrder) (closing : Bool) (out : List UInt8) :
    dispatch service order framed closing out = dispatch service .insertion framed closing out := by
  unfold dispatch
  rw [Request.decode_arrange order]
  cases hd : Request.decode .insertion framed with
  | error e => rfl
  | ok r =>
    have hr : r.headers.Unambiguous "Connection" := hu .insertion r hd
    dsimp only [Except.map]
    rw [Request.keepAlive_perm hr (order.perm _), hblind r _ (order.perm _)]

/-- The dispatch of a request whose `Connection` entries carry one value, by a service that does not read the order of
the header map, is the same under every hasher. -/
theorem dispatch_hasher {service : Service} (hblind : service.OrderBlind) {framed : List UInt8}
    (hu : Request.ConnectionUnambiguous framed) (order order' : HashOrder) (closing : Bool) (out : List UInt8) :
    dispatch service order framed closing out = dispatch service order' framed closing out :=
  (dispatch_arrange hblind hu order closing out).trans (dispatch_arrange hblind hu order' closing out).symm

end HttpReactor
