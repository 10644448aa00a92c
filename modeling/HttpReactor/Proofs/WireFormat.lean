import HttpReactor.Proofs.Shutdown

/-!
# Responses on the wire

A response is written only if every header can go on the wire (`Response.Writable`): a name of visible ASCII octets other
than the colon, and a value with no CR, LF or NUL. Otherwise the first header in name order that cannot is reported and
nothing is written; a failed write hands back only the error, so the output the caller holds stays as it was.

Headers go out sorted by name. The names are compared as strings, character by character, and the wire orders them
octet by octet; the two agree because UTF-8 keeps the order of characters (`Octets.ofString_lt_ofString`).

What is written is the head, then the body. The head is CRLF-terminated lines: the status line, one line per header, and
an empty line. Names and values hold no line feed and no line of the head but the last is empty, so the head's first
CRLFCRLF is its end (`Response.find?_terminator_head`), its lines are exactly those (`Response.splitLines_head`), and a
header line read back at its first colon gives the header again (`Response.readHeaderLine_headerText`).

Main statement: `Response.writeOnto_spec`.
-/

namespace HttpReactor

namespace Octets

/-- The octets of a string are the UTF-8 encodings of its characters, one after another. -/
theorem ofString_eq_flatMap (s : String) : ofString s = s.toList.flatMap String.utf8EncodeChar := by
  unfold ofString
  rw [String.toUTF8_eq_toByteArray, byteArray_toList, ← String.utf8Encode_toList]
  exact List.toList_data_toByteArray

/-- The separator between a header's name and its value. -/
theorem ofString_colon_space : ofString ": " = [58, 32] := by
  rw [ofString_eq_flatMap]
  rfl

/-! ## UTF-8 keeps the order of characters -/

theorem toNat_ofNat (n : Nat) : (UInt8.ofNat n).toNat = n % 256 := UInt8.toNat_ofNat'

/-- An octet string that starts with a smaller octet comes first. -/
theorem cons_lt_of_lt {m n : Nat} (h : m % 256 < n % 256) (x y : List UInt8) :
    UInt8.ofNat m :: x < UInt8.ofNat n :: y :=
  List.Lex.rel (UInt8.lt_iff_toNat_lt.2 (by rw [toNat_ofNat, toNat_ofNat]; exact h))

/-- Of two octet strings that start with the same octet, the one whose rest comes first comes first. -/
theorem cons_lt_of_eq {m n : Nat} (h : m % 256 = n % 256) {x y : List UInt8} (hxy : x < y) :
    UInt8.ofNat m :: x < UInt8.ofNat n :: y := by
  rw [UInt8.toNat_inj.1 (by rw [toNat_ofNat, toNat_ofNat]; exact h : (UInt8.ofNat m).toNat = (UInt8.ofNat n).toNat)]
  exact List.Lex.cons hxy

section Encoding

variable {c : Char}

theorem utf8EncodeChar_one (h : c.val.toNat ≤ 127) : String.utf8EncodeChar c = [UInt8.ofNat c.val.toNat] := by
  simp only [String.utf8EncodeChar, h, ↓reduceIte]

theorem utf8EncodeChar_two (h1 : 127 < c.val.toNat) (h2 : c.val.toNat ≤ 2047) :
    String.utf8EncodeChar c = [UInt8.ofNat (c.val.toNat / 64 % 32 + 192), UInt8.ofNat (c.val.toNat % 64 + 128)] := by
  simp only [String.utf8EncodeChar, h2, show ¬c.val.toNat ≤ 127 by omega, ↓reduceIte]

theorem utf8EncodeChar_three (h1 : 2047 < c.val.toNat) (h2 : c.val.toNat ≤ 65535) :
    String.utf8EncodeChar c = [UInt8.ofNat (c.val.toNat / 4096 % 16 + 224), UInt8.ofNat (c.val.toNat / 64 % 64 + 128),
      UInt8.ofNat (c.val.toNat % 64 + 128)] := by
  simp only [String.utf8EncodeChar, h2, show ¬c.val.toNat ≤ 127 by omega, show ¬c.val.toNat ≤ 2047 by omega,
    ↓reduceIte]

theorem utf8EncodeChar_four (h1 : 65535 < c.val.toNat) :
    String.utf8EncodeChar c = [UInt8.ofNat (c.val.toNat / 262144 % 8 + 240),
      UInt8.ofNat (c.val.toNat / 4096 % 64 + 128), UInt8.ofNat (c.val.toNat / 64 % 64 + 128),
      UInt8.ofNat (c.val.toNat % 64 + 128)] := by
  simp only [String.utf8EncodeChar, show ¬c.val.toNat ≤ 127 by omega, show ¬c.val.toNat ≤ 2047 by omega,
    show ¬c.val.toNat ≤ 65535 by omega, ↓reduceIte]

theorem toNat_lt_of_valid (c : Char) : c.val.toNat < 0x110000 := by
  have := c.valid
  simp only [UInt32.isValidChar, Nat.isValidChar] at this
  omega

end Encoding

/-- UTF-8 keeps the order of characters: the encoding of the smaller one comes first, whatever follows each. The first
octet says how long an encoding is, so encodings of different lengths part at their first octet; encodings of one length
part at the first of their base-64 digits that differs. -/
theorem utf8EncodeChar_append_lt {a b : Char} (h : a < b) (u v : List UInt8) :
    String.utf8EncodeChar a ++ u < String.utf8EncodeChar b ++ v := by
  have hab : a.val.toNat < b.val.toNat := UInt32.lt_iff_toNat_lt.1 (Char.lt_def.1 h)
  have hb := toNat_lt_of_valid b
  have hlen : ∀ n : Nat, n ≤ 127 ∨ (127 < n ∧ n ≤ 2047) ∨ (2047 < n ∧ n ≤ 65535) ∨ 65535 < n := by omega
  rcases hlen a.val.toNat with ha | ⟨ha1, ha2⟩ | ⟨ha1, ha2⟩ | ha <;>
    rcases hlen b.val.toNat with hb' | ⟨hb1, hb2⟩ | ⟨hb1, hb2⟩ | hb'
  -- a one-octet character
  · rw [utf8EncodeChar_one ha, utf8EncodeChar_one hb']
    exact cons_lt_of_lt (by omega) _ _
  · rw [utf8EncodeChar_one ha, utf8EncodeChar_two hb1 hb2]
    exact cons_lt_of_lt (by omega) _ _
  · rw [utf8EncodeChar_one ha, utf8EncodeChar_three hb1 hb2]
    exact cons_lt_of_lt (by omega) _ _
  · rw [utf8EncodeChar_one ha, utf8EncodeChar_four hb']
    exact cons_lt_of_lt (by omega) _ _
  -- a two-octet character
  · omega
  · rw [utf8EncodeChar_two ha1 ha2, utf8EncodeChar_two hb1 hb2]
    by_cases h1 : a.val.toNat / 64 = b.val.toNat / 64
    · exact cons_lt_of_eq (by omega)
        (cons_lt_of_lt (by omega) _ _)
    · exact cons_lt_of_lt (by omega) _ _
  · rw [utf8EncodeChar_two ha1 ha2, utf8EncodeChar_three hb1 hb2]
    exact cons_lt_of_lt (by omega) _ _
  · rw [utf8EncodeChar_two ha1 ha2, utf8EncodeChar_four hb']
    exact cons_lt_of_lt (by omega) _ _
  -- a three-octet character
  · omega
  · omega
  · rw [utf8EncodeChar_three ha1 ha2, utf8EncodeChar_three hb1 hb2]
    by_cases h1 : a.val.toNat / 4096 = b.val.toNat / 4096
    · refine cons_lt_of_eq (by omega) ?_
      by_cases h2 : a.val.toNat / 64 = b.val.toNat / 64
      · exact cons_lt_of_eq (by omega)
          (cons_lt_of_lt (by omega) _ _)
      · exact cons_lt_of_lt (by omega) _ _
    · exact cons_lt_of_lt (by omega) _ _
  · rw [utf8EncodeChar_three ha1 ha2, utf8EncodeChar_four hb']
    exact cons_lt_of_lt (by omega) _ _
  -- a four-octet character
  · omega
  · omega
  · omega
  · rw [utf8EncodeChar_four ha, utf8EncodeChar_four hb']
    by_cases h1 : a.val.toNat / 262144 = b.val.toNat / 262144
    · refine cons_lt_of_eq (by omega) ?_
      by_cases h2 : a.val.toNat / 4096 = b.val.toNat / 4096
      · refine cons_lt_of_eq (by omega) ?_
        by_cases h3 : a.val.toNat / 64 = b.val.toNat / 64
        · exact cons_lt_of_eq (by omega)
            (cons_lt_of_lt (by omega) _ _)
        · exact cons_lt_of_lt (by omega) _ _
      · exact cons_lt_of_lt (by omega) _ _
    · exact cons_lt_of_lt (by omega) _ _

theorem utf8EncodeChar_ne_nil (c : Char) : String.utf8EncodeChar c ≠ [] := by
  rw [← List.length_pos_iff, String.length_utf8EncodeChar]
  exact c.utf8Size_pos

/-- Encoding character by character keeps the order of character strings. -/
theorem flatMap_utf8EncodeChar_lt {l₁ l₂ : List Char} (h : l₁ < l₂) :
    l₁.flatMap String.utf8EncodeChar < l₂.flatMap String.utf8EncodeChar := by
  induction h with
  | nil =>
    rename_i b l
    obtain ⟨x, xs, hx⟩ := List.exists_cons_of_ne_nil (utf8EncodeChar_ne_nil b)
    rw [List.flatMap_nil, List.flatMap_cons, hx, List.cons_append]
    exact List.Lex.nil
  | rel hab => exact utf8EncodeChar_append_lt hab _ _
  | cons _ ih => exact List.append_left_lt ih

/-- Strings come in the order of their octets: code point order is byte order. -/
theorem ofString_lt_ofString {s t : String} (h : s < t) : ofString s < ofString t := by
  rw [ofString_eq_flatMap, ofString_eq_flatMap]
  exact flatMap_utf8EncodeChar_lt h

/-! ## Searching CRLF-terminated lines -/

/-- A line without line feeds, then what does not start with one: together they do not start with one either. -/
theorem head?_append_ne_lf {l x : List UInt8} (hl : (10 : UInt8) ∉ l) (hx : x.head? ≠ some 10) :
    (l ++ x).head? ≠ some 10 := by
  cases l with
  | nil => exact hx
  | cons b l =>
    intro h
    simp only [List.cons_append, List.head?_cons, Option.some.injEq] at h
    exact hl (h ▸ List.mem_cons_self)

theorem isPrefixOf_lf_false {c b : UInt8} {ns y : List UInt8} (hy : y.head? ≠ some 10) :
    (c :: 10 :: ns).isPrefixOf (b :: y) = false := by
  cases y with
  | nil => simp [List.isPrefixOf]
  | cons d y =>
    have hd : (10 == d) = false := by
      simp only [List.head?_cons, ne_eq, Option.some.injEq] at hy
      exact beq_false_of_ne (Ne.symm hy)
    simp [List.isPrefixOf_cons_cons, hd]

/-- A needle whose second octet is a line feed starts nowhere inside a string without line feeds, when what follows the
string does not start with a line feed. -/
theorem find?_append_of_lf (needle : List UInt8) {c : UInt8} {ns l x : List UInt8} (hn : needle = c :: 10 :: ns)
    (hl : (10 : UInt8) ∉ l) (hx : x.head? ≠ some 10) :
    find? needle (l ++ x) = (find? needle x).map (· + l.length) := by
  subst hn
  induction l with
  | nil => simp
  | cons b l ih =>
    have hl' : (10 : UInt8) ∉ l := fun h => hl (List.mem_cons_of_mem _ h)
    rw [List.cons_append, Framing.find?_cons_of_isPrefixOf_false (isPrefixOf_lf_false (head?_append_ne_lf hl' hx)),
      ih hl', Option.map_map]
    rfl

theorem find?_crlf_line {l : List UInt8} (hl : (10 : UInt8) ∉ l) (rest : List UInt8) :
    find? crlf (l ++ 13 :: 10 :: rest) = some l.length := by
  rw [find?_append_of_lf crlf rfl hl (by simp)]
  simp [find?, crlf]

/-- Past a line ending, a blank line is not found where a line that is not empty starts. -/
theorem find?_terminator_crlf {l : List UInt8} (hne : l ≠ []) (hl : (10 : UInt8) ∉ l) (z : List UInt8) :
    find? Framing.terminator (13 :: 10 :: (l ++ 13 :: z)) = (find? Framing.terminator (l ++ 13 :: z)).map (· + 2) := by
  obtain ⟨b, l', rfl⟩ := List.exists_cons_of_ne_nil hne
  have hl' : (10 : UInt8) ∉ l' := fun h => hl (List.mem_cons_of_mem _ h)
  have h1 : Framing.terminator.isPrefixOf (13 :: 10 :: (b :: l' ++ 13 :: z)) = false := by
    rw [List.cons_append, Framing.terminator, List.isPrefixOf_cons_cons, List.isPrefixOf_cons_cons,
      isPrefixOf_lf_false (head?_append_ne_lf hl' (show (13 :: z).head? ≠ some 10 by simp))]
    simp
  have h2 : Framing.terminator.isPrefixOf (10 :: (b :: l' ++ 13 :: z)) = false := by
    simp [Framing.terminator, List.isPrefixOf_cons_cons]
  rw [Framing.find?_cons_of_isPrefixOf_false h1, Framing.find?_cons_of_isPrefixOf_false h2, Option.map_map]
  rfl

theorem flatMap_crlf_cons (l : List UInt8) (ls : List (List UInt8)) (z : List UInt8) :
    (l :: ls).flatMap (· ++ crlf) ++ z = l ++ 13 :: 10 :: (ls.flatMap (· ++ crlf) ++ z) := by
  simp [crlf]

/-- The CRLF-separated lines of lines without line feeds, each followed by CRLF, are those lines. -/
theorem splitLines_lines {ls : List (List UInt8)} (hls : ∀ l ∈ ls, (10 : UInt8) ∉ l) (rest : List UInt8) :
    Framing.splitLines (ls.flatMap (· ++ crlf) ++ rest) = ls ++ Framing.splitLines rest := by
  induction ls with
  | nil => simp
  | cons l ls ih =>
    rw [flatMap_crlf_cons, Framing.splitLines_eq, find?_crlf_line (hls l List.mem_cons_self)]
    dsimp only
    rw [List.take_left' rfl, List.drop_length_add_append]
    exact congrArg (l :: ·) (ih fun l' hl' => hls l' (List.mem_cons_of_mem _ hl'))

/-- Lines that are not empty and hold no line feed, each followed by CRLF, then one more CRLF: the first blank line is
the last one, because a line that is not empty keeps each two line endings apart. -/
theorem find?_terminator_lines {ls : List (List UInt8)} (hne : ls ≠ []) (hls : ∀ l ∈ ls, l ≠ [] ∧ (10 : UInt8) ∉ l)
    (rest : List UInt8) :
    find? Framing.terminator (ls.flatMap (· ++ crlf) ++ 13 :: 10 :: rest) =
      some ((ls.flatMap (· ++ crlf)).length - 2) := by
  induction ls with
  | nil => exact absurd rfl hne
  | cons l ls ih =>
    rw [flatMap_crlf_cons, find?_append_of_lf Framing.terminator rfl (hls l List.mem_cons_self).2 (by simp)]
    cases ls with
    | nil => simp [find?, Framing.terminator, crlf]
    | cons l₂ ls =>
      obtain ⟨hne₂, hl₂⟩ := hls l₂ (List.mem_cons_of_mem _ List.mem_cons_self)
      rw [flatMap_crlf_cons, find?_terminator_crlf hne₂ hl₂, ← flatMap_crlf_cons,
        ih (List.cons_ne_nil _ _) fun l' hl' => hls l' (List.mem_cons_of_mem _ hl')]
      simp only [Option.map_some, List.flatMap_cons, List.length_append, crlf, List.length_cons,
        List.length_nil, Option.some.injEq]
      omega

end Octets

/-! ## Header maps in name order -/

namespace HeaderMap

open Octets

theorem sorted_perm (m : HeaderMap) : m.sorted.Perm m.entries := List.mergeSort_perm _ _

/-- The entries go out in byte order of their names. -/
theorem sorted_pairwise (m : HeaderMap) : m.sorted.Pairwise fun a b => ofString a.1 ≤ ofString b.1 := by
  -- the comparison `sorted` uses is a total preorder: by name, then by value
  have htrans : ∀ a b c : String × String, (a.1 < b.1 || (a.1 == b.1 && a.2 ≤ b.2)) = true →
      (b.1 < c.1 || (b.1 == c.1 && b.2 ≤ c.2)) = true → (a.1 < c.1 || (a.1 == c.1 && a.2 ≤ c.2)) = true := by
    intro a b c hab hbc
    simp only [Bool.or_eq_true, decide_eq_true_eq, Bool.and_eq_true, beq_iff_eq] at hab hbc ⊢
    rcases hab with hab | ⟨hab, hab'⟩ <;> rcases hbc with hbc | ⟨hbc, hbc'⟩
    · exact .inl (String.lt_trans hab hbc)
    · exact .inl (hbc ▸ hab)
    · exact .inl (hab ▸ hbc)
    · exact .inr ⟨hab.trans hbc, String.le_trans hab' hbc'⟩
  have htotal : ∀ a b : String × String,
      ((a.1 < b.1 || (a.1 == b.1 && a.2 ≤ b.2)) || (b.1 < a.1 || (b.1 == a.1 && b.2 ≤ a.2))) = true := by
    intro a b
    simp only [Bool.or_eq_true, decide_eq_true_eq, Bool.and_eq_true, beq_iff_eq]
    rcases String.le_total a.1 b.1 with h | h
    · by_cases hab : a.1 < b.1
      · exact .inl (.inl hab)
      · have he := String.le_antisymm h hab
        rcases String.le_total a.2 b.2 with h' | h'
        · exact .inl (.inr ⟨he, h'⟩)
        · exact .inr (.inr ⟨he.symm, h'⟩)
    · by_cases hba : b.1 < a.1
      · exact .inr (.inl hba)
      · have he := String.le_antisymm h hba
        rcases String.le_total a.2 b.2 with h' | h'
        · exact .inl (.inr ⟨he.symm, h'⟩)
        · exact .inr (.inr ⟨he, h'⟩)
  refine (List.pairwise_mergeSort htrans htotal m.entries).imp fun {a b} hab => ?_
  simp only [Bool.or_eq_true, decide_eq_true_eq, Bool.and_eq_true, beq_iff_eq] at hab
  rcases hab with hab | ⟨hab, -⟩
  · exact List.le_of_lt (ofString_lt_ofString hab)
  · rw [hab]
    exact List.le_refl _

end HeaderMap

namespace Response

open Octets

/-! ## Which headers can go on the wire -/

/-- A header that can go on the wire: its name is one or more visible ASCII octets, none of them a colon, and its value
holds no carriage return, line feed or NUL. -/
def Writable (e : String × String) : Prop :=
  ofString e.1 ≠ [] ∧ (∀ b ∈ ofString e.1, 33 ≤ b ∧ b ≤ 126 ∧ b ≠ 58) ∧ ∀ b ∈ ofString e.2, b ≠ 13 ∧ b ≠ 10 ∧ b ≠ 0

theorem validHeader_iff (e : String × String) : validHeader e = true ↔ Writable e := by
  simp only [validHeader, validName, validValue, Writable, Bool.and_eq_true, Bool.not_eq_true', List.isEmpty_eq_false_iff,
    List.all_eq_true, decide_eq_true_eq, bne_iff_ne, ne_eq, and_assoc]

/-- The header that stops the write: the first in name order that cannot go on the wire. -/
theorem encode_error {r : Response} {err : WriteError} :
    r.encode = .error err ↔ ∃ e, r.headers.sorted.find? (fun e => !validHeader e) = some e ∧ err = .invalidHeader e.1 := by
  unfold encode
  dsimp only
  cases hf : r.headers.sorted.find? (fun e => !validHeader e) with
  | none => simp
  | some e =>
    simp only [Except.error.injEq, Option.some.injEq]
    exact ⟨fun h => ⟨e, rfl, h.symm⟩, fun ⟨e', he, h⟩ => he ▸ h.symm⟩

/-- A response is written exactly when all its headers can go on the wire. -/
theorem encode_ok_iff (r : Response) : (∃ o, r.encode = .ok o) ↔ ∀ e ∈ r.headers.entries, Writable e := by
  have hfind : r.headers.sorted.find? (fun e => !validHeader e) = none ↔ ∀ e ∈ r.headers.entries, Writable e := by
    rw [List.find?_eq_none]
    refine ⟨fun h e he => ?_, fun h e he => ?_⟩
    · have := h e ((HeaderMap.sorted_perm r.headers).mem_iff.2 he)
      simpa [validHeader_iff] using this
    · simpa [validHeader_iff] using h e ((HeaderMap.sorted_perm r.headers).mem_iff.1 he)
  rw [← hfind]
  unfold encode
  dsimp only
  cases r.headers.sorted.find? (fun e => !validHeader e) <;> simp

/-! ## The head -/

/-- A header line without its line ending: the name, a colon and a space, and the value. -/
def headerText (e : String × String) : List UInt8 := ofString e.1 ++ ofString ": " ++ ofString e.2

/-- The status line without its line ending. -/
def statusText (s : Status) : List UInt8 := ofString ("HTTP/1.1 " ++ toString s.code ++ " " ++ s.reason)

/-- The head of a response on the wire: the status line, a line per header in name order, and the empty line. -/
def head (r : Response) : List UInt8 := statusLine r.status ++ r.headers.sorted.flatMap headerLine ++ crlf

theorem statusText_eq (s : Status) : statusText s = ofString "HTTP/1.1 200 OK" := by
  cases s
  rfl

/-- The head is its lines, each followed by CRLF, then one more CRLF. -/
theorem head_eq_lines (r : Response) :
    head r = (statusText r.status :: r.headers.sorted.map headerText).flatMap (· ++ crlf) ++ crlf := by
  simp only [head, statusLine, List.flatMap_cons, List.flatMap_map, statusText, headerText]
  rfl

theorem encode_of_writable {r : Response} (h : ∀ e ∈ r.headers.entries, Writable e) :
    r.encode = .ok (head r ++ r.body) :=
  encode_of_valid fun e he => (validHeader_iff e).2 (h e he)

/-- A header line that can go on the wire is not empty and holds no line feed. -/
theorem headerText_line {e : String × String} (h : Writable e) : headerText e ≠ [] ∧ (10 : UInt8) ∉ headerText e := by
  obtain ⟨-, hname, hvalue⟩ := h
  refine ⟨by simp [headerText, ofString_colon_space], fun h10 => ?_⟩
  simp only [headerText, List.mem_append, ofString_colon_space] at h10
  rcases h10 with (h10 | h10) | h10
  · have := (hname 10 h10).1
    exact absurd this (by decide)
  · simp at h10
  · exact (hvalue 10 h10).2.1 rfl

theorem statusText_line (s : Status) : statusText s ≠ [] ∧ (10 : UInt8) ∉ statusText s := by
  rw [statusText_eq, ofString_eq_flatMap]
  decide

/-- The head's lines are not empty and hold no line feed. -/
theorem head_lines {r : Response} (h : ∀ e ∈ r.headers.entries, Writable e) :
    ∀ l ∈ statusText r.status :: r.headers.sorted.map headerText, l ≠ [] ∧ (10 : UInt8) ∉ l := by
  intro l hl
  rcases List.mem_cons.1 hl with rfl | hl
  · exact statusText_line _
  · obtain ⟨e, he, rfl⟩ := List.mem_map.1 hl
    exact headerText_line (h e ((HeaderMap.sorted_perm r.headers).mem_iff.1 he))

/-- The first CRLFCRLF of a written response is the end of its head, whatever the body. -/
theorem find?_terminator_head {r : Response} (h : ∀ e ∈ r.headers.entries, Writable e) (rest : List UInt8) :
    find? Framing.terminator (head r ++ rest) = some ((head r).length - 4) := by
  have hcrlf : ∀ xs : List UInt8, xs ++ crlf ++ rest = xs ++ 13 :: 10 :: rest := fun xs => by simp [crlf]
  rw [head_eq_lines, hcrlf, find?_terminator_lines (List.cons_ne_nil _ _) (head_lines h)]
  simp only [List.length_append, crlf, List.length_cons, List.length_nil, Option.some.injEq]
  omega

/-- The CRLF-separated lines of the head: the status line, one line per header in name order, the empty line, and
nothing after the last CRLF. -/
theorem splitLines_head {r : Response} (h : ∀ e ∈ r.headers.entries, Writable e) :
    Framing.splitLines (head r) = statusText r.status :: r.headers.sorted.map headerText ++ [[], []] := by
  rw [head_eq_lines, splitLines_lines fun l hl => (head_lines h l hl).2]
  rfl

/-- Drops one space from the front of a value, if it starts with one. -/
def dropSpace (v : List UInt8) : List UInt8 := if v.head? = some 32 then v.tail else v

/-- A header line read back: the octets before its first colon, and those after it with one space dropped. -/
def readHeaderLine (line : List UInt8) : List UInt8 × List UInt8 :=
  (line.takeWhile (· != 58), dropSpace ((line.dropWhile (· != 58)).drop 1))

/-- A header line read back at its first colon gives the header's name and value. -/
theorem readHeaderLine_headerText {e : String × String} (h : Writable e) :
    readHeaderLine (headerText e) = (ofString e.1, ofString e.2) := by
  have hcolon : ∀ b ∈ ofString e.1, (b != 58) = true := fun b hb => by simpa using (h.2.1 b hb).2.2
  simp only [readHeaderLine, headerText, ofString_colon_space, List.append_assoc, List.takeWhile_append_of_pos hcolon,
    List.dropWhile_append_of_pos hcolon]
  simp [dropSpace]

/-! ## Writing a response -/

/-- The head in the words of the wire: the status line, `name: value` CRLF for each header in byte order of names, and
the CRLF that ends the head. -/
theorem head_eq_text (r : Response) :
    head r = ofString "HTTP/1.1 200 OK\r\n" ++
      r.headers.sorted.flatMap (fun e => ofString e.1 ++ ofString ": " ++ ofString e.2 ++ ofString "\r\n") ++
      ofString "\r\n" := by
  have hcrlf : ofString "\r\n" = crlf := by
    rw [ofString_eq_flatMap]
    rfl
  have hstatus : ofString "HTTP/1.1 200 OK\r\n" = ofString "HTTP/1.1 200 OK" ++ crlf := by
    rw [ofString_eq_flatMap, ofString_eq_flatMap]
    rfl
  rw [head_eq_lines, statusText_eq, hcrlf, List.flatMap_cons, List.flatMap_map, hstatus]
  rfl

/-- A write that fails names the least name in byte order among the headers that cannot go on the wire. -/
theorem writeOnto_error {r : Response} {out : List UInt8} {err : WriteError} (herr : r.writeOnto out = .error err) :
    ∃ name value, err = .invalidHeader name ∧ (name, value) ∈ r.headers.entries ∧ ¬Writable (name, value) ∧
      ∀ e ∈ r.headers.entries, ¬Writable e → ofString name ≤ ofString e.1 := by
  have hencode : r.encode = .error err := by
    unfold writeOnto at herr
    cases hc : r.encode with
    | error e => rw [hc] at herr; exact herr
    | ok o => rw [hc] at herr; cases herr
  obtain ⟨⟨name, value⟩, hfind, rfl⟩ := encode_error.1 hencode
  obtain ⟨hbad, pre, post, hsplit, hpre⟩ := List.find?_eq_some_iff_append.1 hfind
  have hperm := HeaderMap.sorted_perm r.headers
  refine ⟨name, value, rfl, hperm.mem_iff.1 (by simp [hsplit]), ?_, ?_⟩
  · rw [← validHeader_iff]
    simpa using hbad
  · intro e he hbad'
    -- every header before the reported one can go on the wire, so a header that cannot is the reported one or after it
    have hsorted := HeaderMap.sorted_pairwise r.headers
    rw [hsplit, List.pairwise_append, List.pairwise_cons] at hsorted
    have he' : e ∈ pre ++ (name, value) :: post := hsplit ▸ hperm.mem_iff.2 he
    rcases List.mem_append.1 he' with hpre' | hpost
    · exact absurd ((validHeader_iff e).1 (by simpa using hpre e hpre')) hbad'
    · rcases List.mem_cons.1 hpost with rfl | hpost
      · exact List.le_refl _
      · exact hsorted.2.1.1 e hpost

/-- The contract of the response writer, for every response and every output. It succeeds exactly when every header can
go on the wire. When it fails it names the least name in byte order among the headers that cannot, and hands back no
octets. When it succeeds it appends the head and then the body. The head is `HTTP/1.1 200 OK` CRLF, then `name: value`
CRLF for each header in byte order of names, then CRLF; the first CRLFCRLF of what is appended ends the head; its
CRLF-separated lines are the status line, one line per header and the empty line; and each header line read back at
its first colon, one space dropped, gives back that header. -/
theorem writeOnto_spec (r : Response) (out : List UInt8) :
    ((∃ out', r.writeOnto out = .ok out') ↔ ∀ e ∈ r.headers.entries, Writable e) ∧
      (∀ err, r.writeOnto out = .error err →
        ∃ name value, err = .invalidHeader name ∧ (name, value) ∈ r.headers.entries ∧ ¬Writable (name, value) ∧
          ∀ e ∈ r.headers.entries, ¬Writable e → ofString name ≤ ofString e.1) ∧
      (∀ out', r.writeOnto out = .ok out' →
        out' = out ++ head r ++ r.body ∧
        head r = ofString "HTTP/1.1 200 OK\r\n" ++
          r.headers.sorted.flatMap (fun e => ofString e.1 ++ ofString ": " ++ ofString e.2 ++ ofString "\r\n") ++
          ofString "\r\n" ∧
        r.headers.sorted.Perm r.headers.entries ∧ r.headers.sorted.Pairwise (fun a b => ofString a.1 ≤ ofString b.1) ∧
        find? Framing.terminator (head r ++ r.body) = some ((head r).length - 4) ∧
        Framing.splitLines (head r) = ofString "HTTP/1.1 200 OK" :: r.headers.sorted.map headerText ++ [[], []] ∧
        ∀ e ∈ r.headers.sorted, readHeaderLine (headerText e) = (ofString e.1, ofString e.2)) := by
  refine ⟨?_, fun _ herr => writeOnto_error herr, ?_⟩
  · constructor
    · rintro ⟨out', hw⟩
      obtain ⟨o, ho, -⟩ := writeOnto_ok.1 hw
      exact (encode_ok_iff r).1 ⟨o, ho⟩
    · intro h
      exact ⟨_, writeOnto_ok.2 ⟨_, encode_of_writable h, rfl⟩⟩
  · intro out' hw
    obtain ⟨o, ho, rfl⟩ := writeOnto_ok.1 hw
    have hall : ∀ e ∈ r.headers.entries, Writable e := (encode_ok_iff r).1 ⟨o, ho⟩
    rw [encode_of_writable hall] at ho
    cases ho
    exact ⟨by rw [List.append_assoc], head_eq_text r, HeaderMap.sorted_perm _, HeaderMap.sorted_pairwise _,
      find?_terminator_head hall _, by rw [splitLines_head hall, statusText_eq], fun e he =>
        readHeaderLine_headerText (hall e ((HeaderMap.sorted_perm r.headers).mem_iff.1 he))⟩

end Response

end HttpReactor
