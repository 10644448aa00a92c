import HttpReactor.Proofs.WireFormat
import HttpReactor.Proofs.Hashers

/-!
# Header lookups and the order of the header map

A decoded request keeps every header name as the client spelled it, so one head may hold two names that differ only in
ASCII case, such as `Connection` and `connection`. A lookup ignores case and answers with the first entry that matches,
so its answer can depend on the order in which the map's entries are visited, and the map is a hash map, whose order is
not fixed. A reordering of the map is a request whose entries are a permutation of the decoded ones.

`HeaderMap.get?_perm_iff` says exactly when the order does not matter for a name: when all the entries that match it
carry one value. Whether the connection stays open then does not depend on the order either (`Request.keepAlive_perm`),
and neither does the dispatcher's decision. `header_lookup_order` states this for every decoded request;
`connection_lookup_depends_on_order` is a head with both `Connection: close` and `connection: keep-alive`, for which one
order of the map closes the connection and the other keeps it open.
-/

namespace HttpReactor

/-- A dispatch that answers keeps the connection open exactly when the server is not closing and the decoded request
asks to keep it. -/
theorem dispatch_keep {service : Service} {order : HashOrder} {framed : List UInt8} {r : Request}
    (hd : Request.decode order framed = .ok r) {closing : Bool} {out out' : List UInt8} {keep : Bool}
    (h : dispatch service order framed closing out = .ok (out', keep)) : keep = (!closing && r.keepAlive) := by
  unfold dispatch at h
  rw [hd] at h
  dsimp only at h
  split at h
  · cases h
  · cases h
    rfl

/-- Header lookups in a decoded request do not depend on the order of its header map exactly for the names whose
matching entries all carry one value; when the `Connection` entries agree, the request's wish to keep the connection and
the dispatcher's decision do not depend on the order either. -/
theorem header_lookup_order {order : HashOrder} {buf : List UInt8} {r : Request}
    (hdec : Request.decode order buf = .ok r) (k : String) :
    ((∀ l, l.Perm r.headers.entries → ({ r with headers := ⟨l⟩ } : Request).header? k = r.header? k) ↔
        r.headers.Unambiguous k) ∧
      (r.headers.Unambiguous "Connection" → ∀ l, l.Perm r.headers.entries →
        ({ r with headers := ⟨l⟩ } : Request).keepAlive = r.keepAlive ∧
          ∀ service closing out out' keep, dispatch service order buf closing out = .ok (out', keep) →
            keep = (!closing && ({ r with headers := ⟨l⟩ } : Request).keepAlive)) := by
  refine ⟨HeaderMap.get?_perm_iff r.headers k, fun hu l hl => ?_⟩
  have hkeep := Request.keepAlive_perm hu hl
  refine ⟨hkeep, fun service closing out out' keep h => ?_⟩
  rw [hkeep]
  exact dispatch_keep hdec h

/-- The request a head with two spellings of `Connection` decodes to: both entries, in the order they came. -/
theorem decode_two_connections :
    Request.decode .insertion (Octets.ofString "GET / HTTP/1.1\r\nConnection: close\r\nconnection: keep-alive\r\n\r\n") =
      .ok ⟨.get, "/", .http11, ⟨[("Connection", "close"), ("connection", "keep-alive")]⟩, []⟩ := by
  have h : (Request.decode .insertion
      (Octets.ofString "GET / HTTP/1.1\r\nConnection: close\r\nconnection: keep-alive\r\n\r\n")).toOption =
      some ⟨.get, "/", .http11, ⟨[("Connection", "close"), ("connection", "keep-alive")]⟩, []⟩ := by
    decide +kernel
  revert h
  cases Request.decode .insertion
      (Octets.ofString "GET / HTTP/1.1\r\nConnection: close\r\nconnection: keep-alive\r\n\r\n") <;>
    simp [Except.toOption]

theorem header_lookup_order_two_connections :
    Request.decode .insertion (Octets.ofString "GET / HTTP/1.1\r\nConnection: close\r\nconnection: keep-alive\r\n\r\n") =
        .ok ⟨.get, "/", .http11, ⟨[("Connection", "close"), ("connection", "keep-alive")]⟩, []⟩ ∧
      ((∀ l, l.Perm [("Connection", "close"), ("connection", "keep-alive")] →
          ({ method := .get, path := "/", version := .http11, headers := ⟨l⟩, body := [] } : Request).header?
              "Connection" =
            (⟨.get, "/", .http11, ⟨[("Connection", "close"), ("connection", "keep-alive")]⟩, []⟩ : Request).header?
              "Connection") ↔
          HeaderMap.Unambiguous ⟨[("Connection", "close"), ("connection", "keep-alive")]⟩ "Connection") ∧
      (HeaderMap.Unambiguous ⟨[("Connection", "close"), ("connection", "keep-alive")]⟩ "Connection" →
        ∀ l, l.Perm [("Connection", "close"), ("connection", "keep-alive")] →
          ({ method := .get, path := "/", version := .http11, headers := ⟨l⟩, body := [] } : Request).keepAlive =
              (⟨.get, "/", .http11, ⟨[("Connection", "close"), ("connection", "keep-alive")]⟩, []⟩ : Request).keepAlive ∧
            ∀ service closing out out' keep,
              dispatch service .insertion
                  (Octets.ofString "GET / HTTP/1.1\r\nConnection: close\r\nconnection: keep-alive\r\n\r\n")
                  closing out = .ok (out', keep) →
                keep = (!closing &&
                  ({ method := .get, path := "/", version := .http11, headers := ⟨l⟩, body := [] } : Request).keepAlive)) :=
  ⟨decode_two_connections, header_lookup_order decode_two_connections "Connection"⟩

/-- With both `Connection: close` and `connection: keep-alive`, the lookup of `Connection` answers `close` in the order
the head gave them and `keep-alive` in the other, so one order closes the connection and the other keeps it open. -/
theorem connection_lookup_depends_on_order :
    ∃ r : Request,
      Request.decode .insertion (Octets.ofString "GET / HTTP/1.1\r\nConnection: close\r\nconnection: keep-alive\r\n\r\n") =
        .ok r ∧
      ∃ l, l.Perm r.headers.entries ∧
        ({ r with headers := ⟨l⟩ } : Request).header? "Connection" = some "keep-alive" ∧
        r.header? "Connection" = some "close" ∧
        ({ r with headers := ⟨l⟩ } : Request).keepAlive = true ∧ r.keepAlive = false := by
  refine ⟨_, decode_two_connections, [("connection", "keep-alive"), ("Connection", "close")], List.Perm.swap _ _ _,
    ?_, ?_, ?_, ?_⟩ <;>
  simp [Request.keepAlive, Request.header?, HeaderMap.get?, HeaderMap.sameName, Octets.ofString_eq_flatMap] <;>
  decide

end HttpReactor
