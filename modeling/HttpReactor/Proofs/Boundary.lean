import HttpReactor.Proofs.HeadLines
import HttpReactor.Request.Decode

/-!
# Where a framed request ends, read twice

The framer delimits a request by its blank line and its Content-Length lines; the decoder then reads the delimited
octets again with the request grammar, whose body is everything after the head. `framed_body_of_crlf_head` says the two
readings agree whenever every line feed of the head ends a CRLF: the decoded body is exactly the octets the framer
counted after the head, and every decoded header named Content-Length, in any case, holds the digits of that count.

The hypothesis is needed: the grammar also ends a line at a bare line feed, so a head such as
`GET / HTTP/1.1 LF A: b LF LF xx CRLF CRLF` is one request to the framer, complete with no body, and a request with a
six-octet body to the decoder (`bare_lf_head_body_differs`).

The header values pass through UTF-8 decoding and trimming; for the ASCII digits of a Content-Length line both are the
identity (`utf8?_ascii`, `trimBlank_asciiString_digits`).
-/

namespace HttpReactor

/-! ## ASCII strings -/

namespace Octets

theorem byteArray_toList_loop (bs : ByteArray) (i : Nat) (r : List UInt8) :
    ByteArray.toList.loop bs i r = r.reverse ++ bs.data.toList.drop i := by
  fun_induction ByteArray.toList.loop bs i r with
  | case1 i r hi ih =>
    rw [ih, List.reverse_cons, List.append_assoc, List.singleton_append]
    congr 1
    have hi' : i < bs.data.toList.length := by simpa using hi
    rw [List.drop_eq_getElem_cons hi']
    simp [ByteArray.get!, hi]
  | case2 i r hi =>
    rw [List.drop_eq_nil_of_le (by simpa using hi), List.append_nil]

theorem byteArray_toList (bs : ByteArray) : bs.toList = bs.data.toList := by
  simp [ByteArray.toList, byteArray_toList_loop]

/-- An octet below 128 is the code of the character made of it. -/
theorem toNat_charOfNat {b : UInt8} (hb : b < 128) : (Char.ofNat b.toNat).toNat = b.toNat := by
  have hlt : b.toNat < 128 := hb
  rw [Char.ofNat, dif_pos (Or.inl (by omega))]
  rfl

/-- An octet below 128 is the one-octet UTF-8 encoding of the character with that code. -/
theorem utf8EncodeChar_ascii {b : UInt8} (hb : b < 128) : String.utf8EncodeChar (Char.ofNat b.toNat) = [b] := by
  have hlt : b.toNat < 128 := hb
  have hval : (Char.ofNat b.toNat).val.toNat = b.toNat := toNat_charOfNat hb
  simp [String.utf8EncodeChar, hval, show b.toNat ≤ 127 by omega]

theorem utf8Encode_ascii {bs : List UInt8} (h : ∀ b ∈ bs, b < 128) :
    (bs.map fun b => Char.ofNat b.toNat).utf8Encode = bs.toByteArray := by
  unfold List.utf8Encode
  congr 1
  induction bs with
  | nil => rfl
  | cons b bs ih =>
    rw [List.map_cons, List.flatMap_cons, utf8EncodeChar_ascii (h b List.mem_cons_self),
      ih fun x hx => h x (List.mem_cons_of_mem _ hx)]
    rfl

theorem ofString_asciiString {bs : List UInt8} (h : ∀ b ∈ bs, b < 128) : ofString (asciiString bs) = bs := by
  unfold ofString asciiString
  rw [String.toUTF8_eq_toByteArray, byteArray_toList]
  show ((bs.map fun b => Char.ofNat b.toNat).utf8Encode).data.toList = bs
  rw [utf8Encode_ascii h, List.toList_data_toByteArray]

/-- ASCII octets are valid UTF-8, and decode to the string of their characters. -/
theorem utf8?_ascii {bs : List UInt8} (h : ∀ b ∈ bs, b < 128) : utf8? bs = some (asciiString bs) := by
  have hba : toByteArray bs = (asciiString bs).toByteArray := by
    show toByteArray bs = (bs.map fun b => Char.ofNat b.toNat).utf8Encode
    rw [utf8Encode_ascii h]
    apply ByteArray.ext
    apply Array.ext'
    rw [List.toList_data_toByteArray]
    rfl
  unfold utf8? String.fromUTF8?
  rw [dif_pos (hba ▸ (asciiString bs).isValidUTF8)]
  congr 1
  exact String.toByteArray_inj.1 hba

theorem isDigit_toNat {b : UInt8} (h : isDigit b = true) : 48 ≤ b.toNat ∧ b.toNat ≤ 57 := by
  simp only [isDigit, Bool.and_eq_true, decide_eq_true_eq] at h
  exact h

theorem isDigit_lt {b : UInt8} (h : isDigit b = true) : b < 128 :=
  Nat.lt_of_le_of_lt (isDigit_toNat h).2 (by decide)

theorem isTokenOctet_lt {b : UInt8} (h : isTokenOctet b = true) : b < 128 := by
  simp only [isTokenOctet, Bool.or_eq_true, Bool.and_eq_true, decide_eq_true_eq, List.contains_iff_mem,
    List.mem_cons, List.not_mem_nil, or_false] at h
  rw [UInt8.lt_iff_toNat_lt]
  simp only [UInt8.le_iff_toNat_le, UInt8.toNat_ofNat, ← UInt8.toNat_inj] at h
  simp
  omega

theorem eqIgnoreCase_iff {a b : List UInt8} : eqIgnoreCase a b = true ↔ a.map foldAscii = b.map foldAscii := by
  induction a generalizing b with
  | nil => cases b <;> simp [eqIgnoreCase]
  | cons x a ih =>
    cases b with
    | nil => simp [eqIgnoreCase]
    | cons y b => simp [eqIgnoreCase, eqFold, ih]

end Octets

theorem dropWhile_of_forall_not {α : Type} {p : α → Bool} {l : List α} (h : ∀ x ∈ l, p x = false) : l.dropWhile p = l := by
  cases l with
  | nil => rfl
  | cons x l => exact List.dropWhile_cons_of_neg (by simp [h x List.mem_cons_self])

namespace Text

/-- A string of ASCII digits has no blank to trim. -/
theorem trimBlank_asciiString_digits {ds : List UInt8} (h : ∀ b ∈ ds, Octets.isDigit b = true) :
    trimBlank (asciiString ds) = asciiString ds := by
  have hnb : ∀ c ∈ ds.map (fun b => Char.ofNat b.toNat), isBlank c = false := by
    intro c hc
    obtain ⟨b, hb, rfl⟩ := List.mem_map.1 hc
    obtain ⟨hlo, hhi⟩ := Octets.isDigit_toNat (h b hb)
    simp only [isBlank, Octets.toNat_charOfNat (Octets.isDigit_lt (h b hb))]
    simp only [Bool.or_eq_false_iff, Bool.and_eq_false_iff, decide_eq_false_iff_not, beq_eq_false_iff_ne]
    omega
  unfold trimBlank asciiString
  rw [String.toList_ofList, dropWhile_of_forall_not hnb,
    dropWhile_of_forall_not (fun c hc => hnb c (List.mem_reverse.1 hc)), List.reverse_reverse]

end Text

/-! ## Decoded header maps -/

namespace HeaderMap

theorem mem_insert {m : HeaderMap} {name value : String} {e : String × String} (he : e ∈ (m.insert name value).entries) :
    e ∈ m.entries ∨ e = (name, value) := by
  unfold insert at he
  split at he
  · obtain ⟨e', he', rfl⟩ := List.mem_map.1 he
    split
    · exact .inr rfl
    · exact .inl he'
  · rcases List.mem_append.1 he with he | he
    · exact .inl he
    · exact .inr (List.mem_singleton.1 he)

end HeaderMap

namespace Request

/-- Every entry of a decoded header map is one of the head's fields, its value decoded and trimmed. -/
theorem foldlM_addField_entries {fs : List Field} {m₀ m : HeaderMap} (h : fs.foldlM addField m₀ = .ok m) :
    ∀ e ∈ m.entries, e ∈ m₀.entries ∨ ∃ f ∈ fs, ∃ v, Octets.utf8? f.value = some v ∧ e = (f.name, Text.trimBlank v) := by
  induction fs generalizing m₀ with
  | nil =>
    intro e he
    cases h
    exact .inl he
  | cons f fs ih =>
    intro e he
    rw [List.foldlM_cons] at h
    cases hadd : addField m₀ f with
    | error err => rw [hadd] at h; cases h
    | ok m₁ =>
      rw [hadd] at h
      rcases ih h e he with he₁ | ⟨f', hf', v, hv, rfl⟩
      · -- the entry was set by this field, or was already there
        unfold addField at hadd
        split at hadd
        · rename_i v hv
          cases hadd
          rcases HeaderMap.mem_insert he₁ with he₀ | rfl
          · exact .inl he₀
          · exact .inr ⟨f, List.mem_cons_self, v, hv, rfl⟩
        · cases hadd
      · exact .inr ⟨f', List.mem_cons_of_mem _ hf', v, hv, rfl⟩

theorem fieldMap_entries {fs : List Field} {m : HeaderMap} (h : fieldMap fs = .ok m) :
    ∀ e ∈ m.entries, ∃ f ∈ fs, ∃ v, Octets.utf8? f.value = some v ∧ e = (f.name, Text.trimBlank v) := by
  intro e he
  rcases foldlM_addField_entries h e he with he₀ | hf
  · cases he₀
  · exact hf

/-- A decoded request is a head the grammar read, the rest of the buffer as its body, and the head's fields as its
header map, visited in its hasher's order. -/
theorem decode_ok {order : HashOrder} {buf : List UInt8} {req : Request} (h : decode order buf = .ok req) :
    ∃ H m, Head.scan buf = .done H req.body ∧ fieldMap H.fields = .ok m ∧
      req.headers = ⟨order.arrange m.entries⟩ := by
  unfold decode at h
  split at h
  · cases h
  · cases h
  · rename_i H rest hscan
    split at h
    · cases h
    · split at h
      · cases h
      · rename_i headers hmap
        cases h
        exact ⟨H, headers, hscan, hmap, rfl⟩

end Request

/-! ## The framer's side -/

namespace Framing

open Octets

/-- Content-Length lines that agree: each holds a count, and its value is the length they declare. -/
theorem declaredLength_ok {ls : List (List UInt8)} {declared r : Option Nat} (h : declaredLength ls declared = .ok r) :
    (∀ n, declared = some n → r = some n) ∧
      ∀ l ∈ ls, startsWithFold l contentLengthName = true →
        isCount (dropBlank (l.drop contentLengthName.length)) = true ∧
          r = some (decimalValue (dropBlank (l.drop contentLengthName.length))) := by
  induction ls generalizing declared with
  | nil =>
    cases h
    exact ⟨fun _ h => h, fun _ hl => by cases hl⟩
  | cons l ls ih =>
    by_cases hw : startsWithFold l contentLengthName = true
    · simp only [declaredLength, hw, if_true] at h
      by_cases hc : isCount (dropBlank (l.drop contentLengthName.length)) = true
      · simp only [hc, if_true] at h
        -- after a Content-Length line, what is declared is its value, which agrees with any earlier one
        obtain ⟨hnext, hagree⟩ :
            declaredLength ls (some (decimalValue (dropBlank (l.drop contentLengthName.length)))) = .ok r ∧
              ∀ m, declared = some m → m = decimalValue (dropBlank (l.drop contentLengthName.length)) := by
          cases declared with
          | none => exact ⟨h, fun _ hm => by cases hm⟩
          | some m =>
            dsimp only at h
            by_cases hm : m = decimalValue (dropBlank (l.drop contentLengthName.length))
            · rw [if_pos hm, hm] at h
              exact ⟨h, fun m' hm' => by cases hm'; exact hm⟩
            · rw [if_neg hm] at h
              cases h
        obtain ⟨hfirst, hrest⟩ := ih hnext
        have hr := hfirst _ rfl
        refine ⟨fun n hn => by rw [hr, hagree n hn], fun l' hl' hw' => ?_⟩
        rcases List.mem_cons.1 hl' with rfl | hl'
        · exact ⟨hc, hr⟩
        · exact hrest l' hl' hw'
      · simp [hc] at h
    · have hw' : startsWithFold l contentLengthName = false := by simpa using hw
      rw [declaredLength_cons_of_not hw'] at h
      obtain ⟨hfirst, hrest⟩ := ih h
      refine ⟨hfirst, fun l' hl' hw'' => ?_⟩
      rcases List.mem_cons.1 hl' with rfl | hl'
      · exact absurd hw'' hw
      · exact hrest l' hl' hw''

/-- A complete verdict on a buffer: the head is the buffer up to the end of its first CRLFCRLF, the head's
Content-Length lines declare a length, or none, and the request ends that many octets after the head. -/
theorem evaluate_complete {buf : List UInt8} {h e : Nat} (hframe : evaluate buf = .complete h e) :
    EndsAtTerminator (buf.take h) ∧
      ∃ r, declaredLength ((splitLines (buf.take h)).drop 1) none = .ok r ∧ e = h + r.getD 0 := by
  cases ht : find? terminator buf with
  | none => rw [evaluate_of_find?_none ht] at hframe; cases hframe
  | some t =>
  rw [evaluate_eq_headVerdict ht] at hframe
  obtain ⟨-, r, hcl, hh, he, -⟩ := headVerdict_complete hframe
  have hle : t + 4 ≤ buf.length := find?_add_length_le (by decide) ht
  have hhead : (buf.take (t + 4)).length = t + 4 := by simp; omega
  rw [hhead] at hh he
  subst hh he
  refine ⟨?_, r, by rwa [contentLength_eq] at hcl, rfl⟩
  -- the head's first terminator is the buffer's, which ends the head
  unfold EndsAtTerminator
  rw [hhead]
  refine find?_of_find?_append_le (b := buf.drop (t + 4)) ?_ (by rw [terminator_length, hhead]; omega)
  rw [List.take_append_drop]
  exact ht

/-- A header line whose name is Content-Length, in any case, is one of the framer's Content-Length lines, and its
value starts right after the colon. -/
theorem contentLength_line_of_sameName {n w : List UInt8} (hn : ∀ x ∈ n, x < 128)
    (h : HeaderMap.sameName (asciiString n) "Content-Length" = true) :
    startsWithFold (n ++ 58 :: w) contentLengthName = true ∧ (n ++ 58 :: w).drop contentLengthName.length = w := by
  unfold HeaderMap.sameName at h
  rw [ofString_asciiString hn, eqIgnoreCase_iff] at h
  have hlen : n.length = 14 := by
    have := congrArg List.length h
    rw [List.length_map, List.length_map] at this
    rw [this]
    decide +kernel
  have hnl : contentLengthName.length = 15 := by decide +kernel
  have hname : contentLengthName.map foldAscii = (ofString "Content-Length").map foldAscii ++ [58] := by
    decide +kernel
  refine ⟨?_, by rw [hnl, List.drop_append, List.drop_of_length_le (by omega), hlen]; rfl⟩
  rw [startsWithFold_iff, hnl, List.take_append, List.take_of_length_le (by omega), hlen, List.map_append, h, hname]
  rfl

/-- On a Content-Length line that holds a count, the decoder's value, the rest of the line without the spaces and tabs
around it, is the framer's value, the rest of the line without one leading space or tab. -/
theorem trimmed_eq_dropBlank {w : List UInt8} (h : isCount (dropBlank w) = true) :
    ((w.dropWhile isSpaceOrTab).reverse.dropWhile isSpaceOrTab).reverse = dropBlank w := by
  simp only [isCount, Bool.and_eq_true, Bool.not_eq_true', List.isEmpty_eq_false_iff, List.all_eq_true] at h
  obtain ⟨⟨hne, hdig⟩, -⟩ := h
  have hsp : ∀ x ∈ dropBlank w, isSpaceOrTab x = false := by
    intro x hx
    obtain ⟨h1, h2⟩ := isDigit_toNat (hdig x hx)
    simp only [isSpaceOrTab, Bool.or_eq_false_iff, beq_eq_false_iff_ne, ne_eq, ← UInt8.toNat_inj, UInt8.toNat_ofNat]
    omega
  have hfront : w.dropWhile isSpaceOrTab = dropBlank w := by
    cases w with
    | nil => exact absurd rfl hne
    | cons b w =>
      by_cases hb : isSpaceOrTab b = true
      · have hdb : dropBlank (b :: w) = w := if_pos hb
        rw [hdb] at hsp ⊢
        rw [List.dropWhile_cons_of_pos hb, dropWhile_of_forall_not hsp]
      · have hdb : dropBlank (b :: w) = b :: w := if_neg hb
        rw [hdb] at hsp ⊢
        exact dropWhile_of_forall_not hsp
  rw [hfront, dropWhile_of_forall_not (fun x hx => hsp x (List.mem_reverse.1 hx)), List.reverse_reverse]

end Framing

/-! ## The boundary -/

open Octets Framing in
/-- The framer and the decoder agree on where a request ends whenever every line feed of the head ends a CRLF: the
decoded body is exactly the octets the framer counted after the head, and each decoded header named Content-Length,
in any case, holds the decimal digits of that count, whatever order the header map visits its entries in. -/
theorem framed_body_of_crlf_head (buf : List UInt8) (h e : Nat) (order : HashOrder) (req : Request)
    (hframe : evaluate buf = .complete h e) (hdecode : Request.decode order (buf.take e) = .ok req)
    (hlf : ∀ l ∈ splitLines (buf.take h), (10 : UInt8) ∉ l) :
    req.body = (buf.drop h).take (e - h) ∧
      ∀ entry ∈ req.headers.entries, HeaderMap.sameName entry.1 "Content-Length" = true →
        ∃ ds, entry.2 = asciiString ds ∧ isCount ds = true ∧ decimalValue ds = e - h := by
  -- the framer: the head ends at its first blank line, and its Content-Length lines declare what follows it
  obtain ⟨hend, r, hcl, rfl⟩ := evaluate_complete hframe
  have hdecl := (declaredLength_ok hcl).2
  -- the decoder: a head read by the grammar, with everything after it as the body
  obtain ⟨H, m, hscan, hmap, hheaders⟩ := Request.decode_ok hdecode
  rw [List.take_add] at hscan
  -- the bare blank line declares no length, and is not a request
  have hne : buf.take h ≠ [13, 10, 13, 10] := by
    intro h4
    rw [h4] at hcl hscan
    have hnone : declaredLength ((splitLines [13, 10, 13, 10]).drop 1) none = .ok none := by
      have hsplit : (splitLines [13, 10, 13, 10]).drop 1 = [[], []] := by decide
      have hnot := startsWithFold_nil lineName_contentLength
      rw [hsplit, declaredLength_cons_of_not hnot, declaredLength_cons_of_not hnot]
      rfl
    rw [hnone] at hcl
    cases hcl
    have hshort : Head.scan [13, 10, 13, 10] = .short := rfl
    simp only [Option.getD_none, List.take_zero, List.append_nil, hshort] at hscan
    cases hscan
  obtain ⟨hbody, hfields⟩ := Head.scan_head hend hlf hne hscan
  refine ⟨by rw [hbody, Nat.add_sub_cancel_left], fun entry hentry hname => ?_⟩
  -- a Content-Length header comes from a Content-Length line, whose digits are the declared length
  rw [hheaders] at hentry
  obtain ⟨f, hf, v, hv, rfl⟩ := Request.fieldMap_entries hmap entry ((order.perm _).mem_iff.1 hentry)
  obtain ⟨l, hl, n, w, rfl, -, htok, rfl⟩ := hfields f hf
  obtain ⟨hw, hdrop⟩ := contentLength_line_of_sameName (fun x hx => isTokenOctet_lt (htok x hx)) hname
  obtain ⟨hcount, hr⟩ := hdecl _ hl hw
  rw [hdrop] at hcount hr
  have hdig : ∀ x ∈ dropBlank w, isDigit x = true := by
    simp only [isCount, Bool.and_eq_true, List.all_eq_true] at hcount
    exact hcount.1.2
  rw [trimmed_eq_dropBlank hcount, utf8?_ascii (fun x hx => isDigit_lt (hdig x hx)), Option.some.injEq] at hv
  subst hv
  refine ⟨dropBlank w, Text.trimBlank_asciiString_digits hdig, hcount, ?_⟩
  rw [hr, Option.getD_some, Nat.add_sub_cancel_left]

/-- A request with a two-octet body: both readings end it after the body, and its Content-Length header holds `2`. -/
theorem framed_body_of_crlf_head_two_octets :
    Framing.evaluate (Octets.ofString "GET / HTTP/1.1\r\nContent-Length: 2\r\n\r\nab") = .complete 37 39 ∧
      Request.decode .insertion ((Octets.ofString "GET / HTTP/1.1\r\nContent-Length: 2\r\n\r\nab").take 39) =
        .ok ⟨.get, "/", .http11, ⟨[("Content-Length", "2")]⟩, [97, 98]⟩ ∧
      (∀ l ∈ Framing.splitLines ((Octets.ofString "GET / HTTP/1.1\r\nContent-Length: 2\r\n\r\nab").take 37),
        (10 : UInt8) ∉ l) ∧
      ([97, 98] = ((Octets.ofString "GET / HTTP/1.1\r\nContent-Length: 2\r\n\r\nab").drop 37).take (39 - 37) ∧
        ∀ entry ∈ [("Content-Length", "2")], HeaderMap.sameName entry.1 "Content-Length" = true →
          ∃ ds, entry.2 = asciiString ds ∧ Framing.isCount ds = true ∧ Framing.decimalValue ds = 39 - 37) := by
  have hframe : Framing.evaluate (Octets.ofString "GET / HTTP/1.1\r\nContent-Length: 2\r\n\r\nab") =
      .complete 37 39 := by
    decide +kernel
  have hdecode : Request.decode .insertion
      ((Octets.ofString "GET / HTTP/1.1\r\nContent-Length: 2\r\n\r\nab").take 39) =
      .ok ⟨.get, "/", .http11, ⟨[("Content-Length", "2")]⟩, [97, 98]⟩ := by
    -- the decoder is run to the end, and its answer compared with the expected request
    have hcheck : (match Request.decode .insertion
        ((Octets.ofString "GET / HTTP/1.1\r\nContent-Length: 2\r\n\r\nab").take 39) with
        | .ok r => decide (r = ⟨.get, "/", .http11, ⟨[("Content-Length", "2")]⟩, [97, 98]⟩)
        | .error _ => false) = true := by
      decide +kernel
    split at hcheck
    · rename_i r hr
      rw [hr, of_decide_eq_true hcheck]
    · cases hcheck
  have hlf : ∀ l ∈ Framing.splitLines ((Octets.ofString "GET / HTTP/1.1\r\nContent-Length: 2\r\n\r\nab").take 37),
      (10 : UInt8) ∉ l := by
    decide +kernel
  exact ⟨hframe, hdecode, hlf, framed_body_of_crlf_head _ 37 39 .insertion _ hframe hdecode hlf⟩

/-- With bare line feeds in the head, the two readings part: the framer finds a complete request with no body at the
first CRLFCRLF, while the decoder ends the head at the first empty line and takes the six octets after it as the
body. -/
theorem bare_lf_head_body_differs :
    Framing.evaluate (Octets.ofString "GET / HTTP/1.1\nA: b\n\nxx\r\n\r\n") = .complete 27 27 ∧
      ((Request.decode .insertion ((Octets.ofString "GET / HTTP/1.1\nA: b\n\nxx\r\n\r\n").take 27)).toOption.map
        Request.body) = some (Octets.ofString "xx\r\n\r\n") := by
  decide +kernel

end HttpReactor
