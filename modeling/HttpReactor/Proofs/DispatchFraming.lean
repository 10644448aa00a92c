import HttpReactor.Proofs.WireFormat
import HttpReactor.Proofs.FrameExtension

/-!
# Dispatch answers with one self-delimiting response

A service builds its responses with `Response.build`, which adds a Content-Length header stating the body's length
unless one is there. When the service's own headers can go on the wire and name neither Content-Length nor
Transfer-Encoding, in any case, the response is `Response.Delimited`: exactly one header states the body's length and
none names a transfer coding. Setting `Connection: close` keeps it so.

The framer, run on such a response followed by anything, finds the head where the head ends: the first CRLFCRLF is the
head's end (`Response.find?_terminator_head`), the only Content-Length line is the one `build` added, and its value,
the body's length written in decimal, reads back as that length (`Octets.decimalValue_toString`). So it ends the
request where the body ends (`Response.Delimited.evaluate`).

Main statement: `dispatch_self_delimiting`.
-/

namespace HttpReactor

namespace Octets

/-! ## The numeral of a count -/

theorem toNat_of_isDigit {c : Char} (h : c.isDigit = true) : 48 ≤ c.toNat ∧ c.toNat ≤ 57 := by
  simp only [Char.isDigit, Bool.and_eq_true, decide_eq_true_eq] at h
  exact ⟨UInt32.le_iff_toNat_le.1 h.1, UInt32.le_iff_toNat_le.1 h.2⟩

theorem flatMap_utf8EncodeChar_ascii {cs : List Char} (h : ∀ c ∈ cs, c.toNat ≤ 127) :
    cs.flatMap String.utf8EncodeChar = cs.map fun c => UInt8.ofNat c.toNat := by
  induction cs with
  | nil => rfl
  | cons c cs ih =>
    rw [List.flatMap_cons, List.map_cons, utf8EncodeChar_one (h c List.mem_cons_self),
      ih fun c' hc' => h c' (List.mem_cons_of_mem _ hc')]
    rfl

theorem foldl_decimal_map {cs : List Char} (h : ∀ c ∈ cs, c.isDigit = true) (init : Nat) :
    (cs.map fun c => UInt8.ofNat c.toNat).foldl (fun n b => n * 10 + (b.toNat - 48)) init =
      Nat.ofDigitChars 10 cs init := by
  induction cs generalizing init with
  | nil => rfl
  | cons c cs ih =>
    have hc := toNat_of_isDigit (h c List.mem_cons_self)
    rw [List.map_cons, List.foldl_cons, ih (fun c' hc' => h c' (List.mem_cons_of_mem _ hc')), Nat.ofDigitChars_cons]
    congr 1
    rw [toNat_ofNat, Nat.mod_eq_of_lt (by omega), show '0'.toNat = 48 from rfl]
    omega

/-- The octets of a count's numeral are its decimal digits, one ASCII octet each. -/
theorem ofString_toString (n : Nat) : ofString (toString n) = (Nat.toDigits 10 n).map fun c => UInt8.ofNat c.toNat := by
  rw [ofString_eq_flatMap, Nat.toString_eq_ofList_toDigits, String.toList_ofList]
  refine flatMap_utf8EncodeChar_ascii fun c hc => ?_
  have := toNat_of_isDigit (Nat.isDigit_of_mem_toDigits (by decide) (by decide) hc)
  omega

theorem isDigit_toString {n : Nat} : ∀ b ∈ ofString (toString n), isDigit b = true := by
  intro b hb
  rw [ofString_toString] at hb
  obtain ⟨c, hc, rfl⟩ := List.mem_map.1 hb
  have := toNat_of_isDigit (Nat.isDigit_of_mem_toDigits (by decide) (by decide) hc)
  simp only [isDigit, Bool.and_eq_true, decide_eq_true_eq, UInt8.le_iff_toNat_le, toNat_ofNat]
  constructor <;> simp <;> omega

/-- The numeral of a count reads back as the count. -/
theorem decimalValue_toString (n : Nat) : Framing.decimalValue (ofString (toString n)) = n := by
  rw [Framing.decimalValue, ofString_toString,
    foldl_decimal_map fun c hc => Nat.isDigit_of_mem_toDigits (by decide) (by decide) hc]
  exact Nat.ofDigitChars_ten_toDigits

/-! ## Names followed by a colon -/

/-- Folding ASCII case leaves the colon as it is and makes no other octet into one. -/
theorem foldAscii_eq_colon {b : UInt8} : foldAscii b = 58 ↔ b = 58 := by
  unfold foldAscii
  split
  · rename_i h
    simp [UInt8.le_iff_toNat_le] at h
    simp only [← UInt8.toNat_inj, UInt8.toNat_add]
    simp
    omega
  · rfl

theorem eqFold_colon_left {c : UInt8} (hc : c ≠ 58) : eqFold 58 c = false := by
  simp only [eqFold, beq_eq_false_iff_ne, show foldAscii 58 = 58 from rfl]
  exact fun h => hc (foldAscii_eq_colon.1 h.symm)

theorem eqFold_colon_right {b : UInt8} (hb : b ≠ 58) : eqFold b 58 = false := by
  simp only [eqFold, beq_eq_false_iff_ne, show foldAscii 58 = 58 from rfl]
  exact fun h => hb (foldAscii_eq_colon.1 h)

/-- A name then a colon begins with another name and a colon, ignoring ASCII case, exactly when the two names agree up
to ASCII case, as long as neither name holds a colon. -/
theorem startsWithFold_name_colon {n k : List UInt8} (hn : (58 : UInt8) ∉ n) (hk : (58 : UInt8) ∉ k)
    (rest : List UInt8) : startsWithFold (n ++ 58 :: rest) (k ++ [58]) = eqIgnoreCase n k := by
  induction n generalizing k with
  | nil =>
    cases k with
    | nil => simp [startsWithFold, eqIgnoreCase, eqFold]
    | cons c k =>
      have hc : c ≠ 58 := fun h => hk (h ▸ List.mem_cons_self)
      simp [startsWithFold, eqIgnoreCase, eqFold_colon_left hc]
  | cons b n ih =>
    have hb : b ≠ 58 := fun h => hn (h ▸ List.mem_cons_self)
    cases k with
    | nil => simp [startsWithFold, eqIgnoreCase, eqFold_colon_right hb]
    | cons c k =>
      simp only [List.cons_append, startsWithFold, eqIgnoreCase,
        ih (fun h => hn (List.mem_cons_of_mem _ h)) (fun h => hk (List.mem_cons_of_mem _ h))]

/-- Whether a string begins with a pattern, ignoring ASCII case, depends on the pattern only up to ASCII case. -/
theorem startsWithFold_congr {p q : List UInt8} (h : p.map foldAscii = q.map foldAscii) (xs : List UInt8) :
    startsWithFold xs p = startsWithFold xs q := by
  have hlen : p.length = q.length := by simpa using congrArg List.length h
  rw [Bool.eq_iff_iff, startsWithFold_iff, startsWithFold_iff, h, hlen]

end Octets

namespace HeaderMap

theorem sameName_self (a : String) : sameName a a = true := Octets.eqIgnoreCase_iff.2 rfl

theorem sameName_comm (a b : String) : sameName a b = sameName b a := by
  rw [Bool.eq_iff_iff, sameName, sameName, Octets.eqIgnoreCase_iff, Octets.eqIgnoreCase_iff]
  exact eq_comm

end HeaderMap

namespace Framing

open Octets

theorem contentLengthName_fold :
    contentLengthName.map foldAscii = (ofString "Content-Length" ++ [58]).map foldAscii := by
  rw [contentLengthName, ofString_eq_flatMap, ofString_eq_flatMap]
  decide

theorem transferEncodingName_fold :
    transferEncodingName.map foldAscii = (ofString "Transfer-Encoding" ++ [58]).map foldAscii := by
  rw [transferEncodingName, ofString_eq_flatMap, ofString_eq_flatMap]
  decide

/-- Lines with one Content-Length line among them, holding a count, declare that count. -/
theorem declaredLength_one {pre post : List (List UInt8)} {l : List UInt8}
    (hpre : ∀ x ∈ pre, startsWithFold x contentLengthName = false) (hl : startsWithFold l contentLengthName = true)
    (hv : isCount (dropBlank (l.drop contentLengthName.length)) = true)
    (hpost : ∀ x ∈ post, startsWithFold x contentLengthName = false) :
    declaredLength (pre ++ l :: post) none = .ok (some (decimalValue (dropBlank (l.drop contentLengthName.length)))) := by
  induction pre with
  | nil =>
    simp only [List.nil_append, declaredLength, hl, hv, if_true]
    exact declaredLength_of_forall hpost _
  | cons x pre ih =>
    rw [List.cons_append, declaredLength_cons_of_not (hpre x List.mem_cons_self)]
    exact ih fun y hy => hpre y (List.mem_cons_of_mem _ hy)

end Framing

namespace Response

open Octets

/-! ## Header lines the framer looks for -/

theorem colon_not_mem_name {e : String × String} (h : Writable e) : (58 : UInt8) ∉ ofString e.1 :=
  fun h58 => (h.2.1 58 h58).2.2 rfl

/-- A header line begins with a name and a colon, ignoring ASCII case, exactly when the header has that name in some
case. -/
theorem startsWithFold_headerText {e : String × String} (he : Writable e) {k : String} (hk : (58 : UInt8) ∉ ofString k)
    {p : List UInt8} (hp : p.map foldAscii = (ofString k ++ [58]).map foldAscii) :
    startsWithFold (headerText e) p = HeaderMap.sameName e.1 k := by
  rw [startsWithFold_congr hp, headerText, ofString_colon_space, List.append_assoc, List.cons_append,
    startsWithFold_name_colon (colon_not_mem_name he) hk]
  rfl

theorem startsWithFold_contentLength {e : String × String} (he : Writable e) :
    startsWithFold (headerText e) Framing.contentLengthName = HeaderMap.sameName e.1 "Content-Length" :=
  startsWithFold_headerText he (by rw [ofString_eq_flatMap]; decide) Framing.contentLengthName_fold

theorem startsWithFold_transferEncoding {e : String × String} (he : Writable e) :
    startsWithFold (headerText e) Framing.transferEncodingName = HeaderMap.sameName e.1 "Transfer-Encoding" :=
  startsWithFold_headerText he (by rw [ofString_eq_flatMap]; decide) Framing.transferEncodingName_fold

/-- The framer reads the value of a Content-Length header line as the numeral after the colon and the space. -/
theorem contentLength_value (n : Nat) :
    Framing.dropBlank ((headerText ("Content-Length", toString n)).drop Framing.contentLengthName.length) =
      ofString (toString n) := by
  have hlen : Framing.contentLengthName.length = (ofString "Content-Length" ++ [58]).length := by
    simpa using congrArg List.length Framing.contentLengthName_fold
  simp only [headerText, ofString_colon_space, hlen]
  rw [List.append_assoc, show ([58, 32] : List UInt8) ++ ofString (toString n) = [58] ++ 32 :: ofString (toString n) from rfl,
    ← List.append_assoc, List.drop_left]
  rfl

theorem isCount_toString {n : Nat} (hn : n ≤ Framing.maxLength) : Framing.isCount (ofString (toString n)) = true := by
  have hne : ofString (toString n) ≠ [] := by
    rw [ofString_toString, ← List.length_pos_iff, List.length_map]
    exact Nat.length_toDigits_pos
  simp only [Framing.isCount, Bool.and_eq_true, Bool.not_eq_true', List.isEmpty_eq_false_iff, List.all_eq_true,
    decide_eq_true_eq, decimalValue_toString]
  exact ⟨⟨hne, fun b hb => isDigit_toString b hb⟩, hn⟩

/-- The Content-Length header that `build` adds can go on the wire. -/
theorem writable_contentLength (n : Nat) : Writable ("Content-Length", toString n) := by
  -- the name is checked once, octet by octet; the value is digits
  have hname : validName "Content-Length" = true := by
    rw [validName, ofString_eq_flatMap]
    decide
  simp only [validName, Bool.and_eq_true, Bool.not_eq_true', List.isEmpty_eq_false_iff, List.all_eq_true,
    decide_eq_true_eq, bne_iff_ne, ne_eq, and_assoc] at hname
  refine ⟨hname.1, hname.2, fun b hb => ?_⟩
  have hb' := isDigit_toNat (isDigit_toString b hb)
  refine ⟨?_, ?_, ?_⟩ <;> intro h <;> rw [h] at hb' <;> simp at hb'

/-! ## Responses the framer delimits -/

/-- A response the framer delimits by its Content-Length: every header can go on the wire, exactly one is named
Content-Length in any case and states the body's length, none is named Transfer-Encoding, and the body's length is a
count a Content-Length may state. -/
structure Delimited (r : Response) : Prop where
  writable : ∀ e ∈ r.headers.entries, Writable e
  contentLength :
    r.headers.entries.filter (fun e => HeaderMap.sameName e.1 "Content-Length") =
      [("Content-Length", toString r.body.length)]
  noTransferEncoding : ∀ e ∈ r.headers.entries, HeaderMap.sameName e.1 "Transfer-Encoding" = false
  bounded : r.body.length ≤ Framing.maxLength

/-- A header a service may set and still leave the framing to `build`: it can go on the wire, and is named neither
Content-Length nor Transfer-Encoding, in any case. -/
def Plain (e : String × String) : Prop :=
  Writable e ∧ HeaderMap.sameName e.1 "Content-Length" = false ∧ HeaderMap.sameName e.1 "Transfer-Encoding" = false

/-- `Plain`, checked octet by octet. -/
def plain? (e : String × String) : Bool :=
  validHeader e && !HeaderMap.sameName e.1 "Content-Length" && !HeaderMap.sameName e.1 "Transfer-Encoding"

theorem plain_of_plain? {e : String × String} (h : plain? e = true) : Plain e := by
  simp only [plain?, Bool.and_eq_true, Bool.not_eq_true'] at h
  exact ⟨(validHeader_iff e).1 h.1.1, h.1.2, h.2⟩

/-- The header that closes the connection is plain. -/
theorem plain_connectionClose : Plain ("Connection", "close") := by
  refine plain_of_plain? ?_
  simp only [plain?, validHeader, validName, validValue, HeaderMap.sameName, ofString_eq_flatMap]
  decide

/-- A response built by `Response.build` from plain headers, with a body whose length a Content-Length can state. -/
def Framable (r : Response) : Prop :=
  ∃ status headers body, r = build status headers body ∧ body.length ≤ Framing.maxLength ∧ ∀ e ∈ headers.entries, Plain e

/-- Headers without a Content-Length get one, at the end. -/
theorem build_of_forall {headers : HeaderMap} (h : ∀ e ∈ headers.entries, HeaderMap.sameName e.1 "Content-Length" = false)
    (status : Status) (body : List UInt8) :
    build status headers body = ⟨status, ⟨headers.entries ++ [("Content-Length", toString body.length)]⟩, body⟩ := by
  have hcontains : headers.contains contentLengthName = false :=
    List.any_eq_false.2 fun e he => by simp [contentLengthName, h e he]
  have hany : headers.entries.any (·.1 == contentLengthName) = false := by
    refine List.any_eq_false.2 fun e he hx => ?_
    have hname := h e he
    rw [beq_iff_eq.1 hx] at hname
    exact Bool.false_ne_true (hname.symm.trans (HeaderMap.sameName_self _))
  simp only [build, hcontains, Bool.false_eq_true, if_false, HeaderMap.insert, hany]
  rfl

theorem Framable.delimited {r : Response} (h : r.Framable) : r.Delimited := by
  obtain ⟨status, headers, body, rfl, hbody, hh⟩ := h
  rw [build_of_forall fun e he => (hh e he).2.1]
  refine ⟨fun e he => ?_, ?_, fun e he => ?_, hbody⟩
  · rcases List.mem_append.1 he with he | he
    · exact (hh e he).1
    · rw [List.mem_singleton.1 he]
      exact writable_contentLength _
  · rw [List.filter_append, List.filter_eq_nil_iff.2 fun e he => by simp [(hh e he).2.1]]
    simp [HeaderMap.sameName_self]
  · rcases List.mem_append.1 he with he | he
    · exact (hh e he).2.2
    · rw [List.mem_singleton.1 he]
      dsimp only
      rw [HeaderMap.sameName, ofString_eq_flatMap, ofString_eq_flatMap]
      decide

/-- Setting a header drops every entry of its name, in any case, and adds the new one at the end. -/
theorem setHeader_entries (r : Response) (name value : String) :
    (r.setHeader name value).headers.entries =
      r.headers.entries.filter (fun e => !HeaderMap.sameName e.1 name) ++ [(name, value)] := by
  have hany : (r.headers.erase name).entries.any (·.1 == name) = false := by
    refine List.any_eq_false.2 fun e he hx => ?_
    have hkept := (List.mem_filter.1 he).2
    rw [beq_iff_eq.1 hx, HeaderMap.sameName_self] at hkept
    cases hkept
  simp only [setHeader, HeaderMap.insert, hany, Bool.false_eq_true, if_false]
  rfl

/-- Setting a plain header keeps a response delimited. -/
theorem Delimited.setHeader {r : Response} (h : r.Delimited) {name value : String} (hp : Plain (name, value)) :
    (r.setHeader name value).Delimited := by
  obtain ⟨hw, hcl, hte⟩ := hp
  have hentries := setHeader_entries r name value
  refine ⟨?_, ?_, ?_, h.bounded⟩
  · rw [hentries]
    intro e he
    rcases List.mem_append.1 he with he | he
    · exact h.writable e (List.mem_filter.1 he).1
    · rw [List.mem_singleton.1 he]
      exact hw
  · -- the old Content-Length entry is not of the new name, so it is kept
    have hcomm : (r.headers.entries.filter fun e => !HeaderMap.sameName e.1 name).filter
          (fun e => HeaderMap.sameName e.1 "Content-Length") =
        (r.headers.entries.filter fun e => HeaderMap.sameName e.1 "Content-Length").filter
          (fun e => !HeaderMap.sameName e.1 name) := by
      simp only [List.filter_filter, Bool.and_comm]
    rw [hentries, List.filter_append, hcomm, h.contentLength]
    simp [hcl, HeaderMap.sameName_comm "Content-Length" name]
    rfl
  · rw [hentries]
    intro e he
    rcases List.mem_append.1 he with he | he
    · exact h.noTransferEncoding e (List.mem_filter.1 he).1
    · rw [List.mem_singleton.1 he]
      exact hte

/-! ## The framer on a delimited response -/

section Delimited

variable {r : Response}

theorem Delimited.mem_writable (h : r.Delimited) {e : String × String} (he : e ∈ r.headers.sorted) : Writable e :=
  h.writable e ((HeaderMap.sorted_perm r.headers).mem_iff.1 he)

/-- In name order too, exactly one header is named Content-Length. -/
theorem Delimited.sorted_contentLength (h : r.Delimited) :
    r.headers.sorted.filter (fun e => HeaderMap.sameName e.1 "Content-Length") =
      [("Content-Length", toString r.body.length)] :=
  List.perm_singleton.1 (h.contentLength ▸ (HeaderMap.sorted_perm r.headers).filter _)

/-- The lines the framer reads after the status line: the header lines, then the blank line. -/
theorem Delimited.fieldLines (h : r.Delimited) :
    (Framing.splitLines (head r)).drop 1 = r.headers.sorted.map headerText ++ [[], []] := by
  rw [splitLines_head h.writable]
  rfl

theorem Delimited.noTransferEncodingLine (h : r.Delimited) :
    ((Framing.splitLines (head r)).drop 1).any (startsWithFold · Framing.transferEncodingName) = false := by
  rw [h.fieldLines]
  refine List.any_eq_false.2 fun l hl => ?_
  rcases List.mem_append.1 hl with hl | hl
  · obtain ⟨e, he, rfl⟩ := List.mem_map.1 hl
    have hte := h.noTransferEncoding e ((HeaderMap.sorted_perm r.headers).mem_iff.1 he)
    rw [startsWithFold_transferEncoding (h.mem_writable he), hte]
    decide
  · -- the blank line and what follows its CRLF
    have hnil : l = [] := by simpa using hl
    rw [hnil, Framing.startsWithFold_nil Framing.lineName_transferEncoding]
    decide

/-- The framer reads the length of the body from the one Content-Length line. -/
theorem Delimited.declaredLength (h : r.Delimited) :
    Framing.declaredLength ((Framing.splitLines (head r)).drop 1) none = .ok (some r.body.length) := by
  obtain ⟨pre, post, hsplit, hpre, -, hpost⟩ := List.filter_eq_cons_iff.1 h.sorted_contentLength
  have hpost' := List.filter_eq_nil_iff.1 hpost
  -- a header line is a Content-Length line only if the header is named Content-Length
  have hother : ∀ e ∈ r.headers.sorted, ¬HeaderMap.sameName e.1 "Content-Length" = true →
      startsWithFold (headerText e) Framing.contentLengthName = false := fun e he hn => by
    rw [startsWithFold_contentLength (h.mem_writable he)]
    simpa using hn
  have hcl : startsWithFold (headerText ("Content-Length", toString r.body.length)) Framing.contentLengthName = true := by
    rw [startsWithFold_contentLength (writable_contentLength _)]
    exact HeaderMap.sameName_self _
  rw [h.fieldLines, hsplit, List.map_append, List.map_cons, List.append_assoc, List.cons_append,
    Framing.declaredLength_one _ hcl (by rw [contentLength_value]; exact isCount_toString h.bounded) _,
    contentLength_value, decimalValue_toString]
  · intro x hx
    obtain ⟨e, he, rfl⟩ := List.mem_map.1 hx
    exact hother e (by rw [hsplit]; simp [he]) (hpre e he)
  · intro x hx
    rcases List.mem_append.1 hx with hx | hx
    · obtain ⟨e, he, rfl⟩ := List.mem_map.1 hx
      exact hother e (by rw [hsplit]; simp [he]) (hpost' e he)
    · have hnil : x = [] := by simpa using hx
      rw [hnil]
      exact Framing.startsWithFold_nil Framing.lineName_contentLength

theorem length_head_ge (r : Response) : 4 ≤ (head r).length := by
  rw [head_eq_lines]
  simp only [List.flatMap_cons, List.length_append, crlf, List.length_cons, List.length_nil]
  omega

/-- A delimited response is self-delimiting: whatever follows it, the framer ends its head where the head ends and the
request where the body ends. -/
theorem Delimited.evaluate (h : r.Delimited) (t : List UInt8) :
    Framing.evaluate (head r ++ r.body ++ t) = .complete (head r).length (head r ++ r.body).length := by
  have hfind : find? Framing.terminator (head r ++ r.body ++ t) = some ((head r).length - 4) := by
    rw [List.append_assoc]
    exact find?_terminator_head h.writable _
  rw [Framing.evaluate_eq_headVerdict hfind, Nat.sub_add_cancel (length_head_ge r), List.append_assoc,
    List.take_left' rfl]
  unfold Framing.headVerdict
  rw [Framing.findHeaderLine_isSome Framing.lineName_transferEncoding, h.noTransferEncodingLine,
    Framing.contentLength_eq, h.declaredLength]
  simp

end Delimited

end Response

/-! ## Dispatch -/

/-- The response dispatch writes for a request: the service's own, set to `Connection: close` unless the connection
stays open. -/
theorem dispatch_of_decode {service : Service} {order : HashOrder} {framed : List UInt8} {req : Request}
    (hd : Request.decode order framed = .ok req) (closing : Bool) (out : List UInt8) {o : List UInt8}
    (he : (if (!closing && req.keepAlive) = true then service req
      else (service req).setHeader "Connection" "close").encode = .ok o) :
    dispatch service order framed closing out = .ok (out ++ o, !closing && req.keepAlive) := by
  unfold dispatch
  rw [hd]
  dsimp only
  rw [Response.writeOnto_ok.2 ⟨o, he, rfl⟩]

/-- Dispatch fails only when the request does not decode, or else appends exactly one response that the framer
delimits, whatever follows it, for every service whose responses are built from headers that can go on the wire and
leave the framing to the Content-Length that building adds, whatever hasher the request's header map draws. The
response's body is the service's; the connection stays
open exactly when the server is not closing and the request asks to keep it; a response that closes the connection has
exactly one Connection header, `close`, and one that keeps it open is the service's own. -/
theorem dispatch_self_delimiting {service : Service} {order : HashOrder} {framed : List UInt8}
    (hs : ∀ req, Request.decode order framed = .ok req → (service req).Framable) (closing : Bool) (out : List UInt8) :
    (∀ err, dispatch service order framed closing out = .error err →
      ∃ de, Request.decode order framed = .error de ∧ err = .decode de) ∧
    ∀ out' keep, dispatch service order framed closing out = .ok (out', keep) →
      ∃ req resp R, Request.decode order framed = .ok req ∧ keep = (!closing && req.keepAlive) ∧ out' = out ++ R ∧
        R = Response.head resp ++ resp.body ∧ resp.body = (service req).body ∧
        (∀ t, Framing.evaluate (R ++ t) = .complete (R.length - resp.body.length) R.length) ∧
        (keep = false →
          resp.headers.sorted.filter (fun e => HeaderMap.sameName e.1 "Connection") = [("Connection", "close")]) ∧
        (keep = true → resp = service req) := by
  cases hd : Request.decode order framed with
  | error de =>
    have hdisp : dispatch service order framed closing out = .error (.decode de) := by
      unfold dispatch
      rw [hd]
    refine ⟨fun err herr => ⟨de, rfl, ?_⟩, fun out' keep hok => ?_⟩
    · rw [hdisp] at herr
      exact (Except.error.inj herr).symm
    · rw [hdisp] at hok
      cases hok
  | ok req =>
    have hframable := hs req hd
    -- the response written, whichever way the connection goes, is delimited
    have hdel : (if (!closing && req.keepAlive) = true then service req
        else (service req).setHeader "Connection" "close").Delimited := by
      split
      · exact hframable.delimited
      · exact hframable.delimited.setHeader Response.plain_connectionClose
    have hdisp := dispatch_of_decode hd closing out (Response.encode_of_writable hdel.writable)
    refine ⟨fun err herr => ?_, fun out' keep hok => ?_⟩
    · rw [hdisp] at herr
      cases herr
    rw [hdisp] at hok
    obtain ⟨rfl, rfl⟩ := Prod.mk.inj (Except.ok.inj hok)
    refine ⟨req, _, _, rfl, rfl, rfl, rfl, by split <;> rfl, fun t => ?_, fun hk => ?_, fun hk => ?_⟩
    · rw [hdel.evaluate t, List.length_append, Nat.add_sub_cancel]
    · rw [if_neg (by simp [hk])]
      exact List.perm_singleton.1 (Response.filter_sameName_setHeader (service req) "Connection" "close" ▸
        (HeaderMap.sorted_perm _).filter _)
    · rw [if_pos hk]

theorem dispatch_self_delimiting_fixed :
    (∀ req, Request.decode .insertion (Octets.ofString "GET / HTTP/1.1\r\n\r\n") = .ok req →
      (Service.fixed [("Content-Type", "text/plain")] (Octets.ofString "ok") req).Framable) ∧
    (∀ err, dispatch (Service.fixed [("Content-Type", "text/plain")] (Octets.ofString "ok")) .insertion
        (Octets.ofString "GET / HTTP/1.1\r\n\r\n") true [] = .error err →
      ∃ de, Request.decode .insertion (Octets.ofString "GET / HTTP/1.1\r\n\r\n") = .error de ∧ err = .decode de) ∧
    ∀ out' keep, dispatch (Service.fixed [("Content-Type", "text/plain")] (Octets.ofString "ok")) .insertion
        (Octets.ofString "GET / HTTP/1.1\r\n\r\n") true [] = .ok (out', keep) →
      ∃ req resp R, Request.decode .insertion (Octets.ofString "GET / HTTP/1.1\r\n\r\n") = .ok req ∧
        keep = (!true && req.keepAlive) ∧ out' = [] ++ R ∧ R = Response.head resp ++ resp.body ∧
        resp.body = (Service.fixed [("Content-Type", "text/plain")] (Octets.ofString "ok") req).body ∧
        (∀ t, Framing.evaluate (R ++ t) = .complete (R.length - resp.body.length) R.length) ∧
        (keep = false →
          resp.headers.sorted.filter (fun e => HeaderMap.sameName e.1 "Connection") = [("Connection", "close")]) ∧
        (keep = true → resp = Service.fixed [("Content-Type", "text/plain")] (Octets.ofString "ok") req) := by
  have hplain : Response.Plain ("Content-Type", "text/plain") := by
    refine Response.plain_of_plain? ?_
    simp only [Response.plain?, Response.validHeader, Response.validName, Response.validValue, HeaderMap.sameName,
      Octets.ofString_eq_flatMap]
    decide
  have hbody : (Octets.ofString "ok").length ≤ Framing.maxLength := by
    rw [Octets.ofString_eq_flatMap]
    decide
  have hs : ∀ req, Request.decode .insertion (Octets.ofString "GET / HTTP/1.1\r\n\r\n") = .ok req →
      (Service.fixed [("Content-Type", "text/plain")] (Octets.ofString "ok") req).Framable := fun _ _ =>
    ⟨.ok, _, _, rfl, hbody, fun e he => List.mem_singleton.1 he ▸ hplain⟩
  exact ⟨hs, dispatch_self_delimiting hs true []⟩

/-! ## The stock services -/

namespace Service

/-- Echo's response is framable whenever the request body's length is a count a Content-Length may state. -/
theorem echo_framable {req : Request} (h : req.body.length ≤ Framing.maxLength) : (echo req).Framable := by
  have hplain : Response.Plain ("Content-Type", "application/octet-stream") := by
    refine Response.plain_of_plain? ?_
    simp only [Response.plain?, Response.validHeader, Response.validName, Response.validValue, HeaderMap.sameName,
      Octets.ofString_eq_flatMap]
    decide
  exact ⟨.ok, _, req.body, rfl, h, fun e he => List.mem_singleton.1 he ▸ hplain⟩

/-- The summary service's response carries no header of its own, so it is framable whenever the summary's length is a
count a Content-Length may state. -/
theorem describe_framable {req : Request} (h : (describe req).body.length ≤ Framing.maxLength) :
    (describe req).Framable :=
  ⟨.ok, .empty, _, rfl, h, fun _ he => absurd he List.not_mem_nil⟩

end Service

end HttpReactor
