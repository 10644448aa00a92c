import HttpReactor.Proofs.FrameLines
import HttpReactor.Request.Head

/-!
# The head grammar, line by line

The request reader accepts a bare line feed as a line ending; the framer knows only CRLF. On a head in which every line
feed ends a CRLF, the two agree: each reader of the grammar, run on a line followed by CRLF, stops inside the line or
consumes exactly its CRLF (`methodTail_line` to `readField_line`), so the reader goes through the head line by line,
takes one field from each header line (`FieldLine`), and stops at the framer's blank line (`scan_head`).

Where the framer's blank line is, is said by `EndsAtTerminator`: a string ends with its first CRLFCRLF.
`endsAtTerminator_step` walks such a string one line at a time; the lines it passes are not empty, which is what keeps
the field reader from stopping early.
-/

namespace HttpReactor

namespace Scan

theorem map_eq_done {α β : Type} {f : α → β} {s : Scan α} {b : β} {r : List UInt8} (h : s.map f = .done b r) :
    ∃ a, s = .done a r ∧ b = f a := by
  cases s with
  | done a r' =>
    simp only [map, done.injEq] at h
    exact ⟨a, by rw [h.2], h.1.symm⟩
  | short => cases h
  | fail e => cases h

theorem bind_eq_done {α β : Type} {s : Scan α} {k : α → List UInt8 → Scan β} {b : β} {r : List UInt8}
    (h : s.bind k = .done b r) : ∃ a r', s = .done a r' ∧ k a r' = .done b r := by
  cases s with
  | done a r' => exact ⟨a, r', rfl, h⟩
  | short => cases h
  | fail e => cases h

end Scan

/-! ## The end of the head -/

namespace Framing

open Octets

/-- The string ends with its first CRLFCRLF, as a head cut just past the framer's blank line does. -/
def EndsAtTerminator (xs : List UInt8) : Prop := find? terminator xs = some (xs.length - 4)

theorem find?_le_of_isPrefixOf {needle : List UInt8} :
    ∀ {xs : List UInt8} {j : Nat}, needle.isPrefixOf (xs.drop j) = true → ∃ i, find? needle xs = some i ∧ i ≤ j
  | [], j, h => by
    cases needle with
    | nil => exact ⟨0, rfl, Nat.zero_le _⟩
    | cons _ _ => simp at h
  | x :: xs, 0, h => ⟨0, by simp [find?, by simpa using h], Nat.le_refl _⟩
  | x :: xs, j + 1, h => by
    by_cases hp : needle.isPrefixOf (x :: xs) = true
    · exact ⟨0, by simp [find?, hp], Nat.zero_le _⟩
    · obtain ⟨i, hi, hij⟩ := @find?_le_of_isPrefixOf needle xs j (by simpa using h)
      exact ⟨i + 1, by simp [find?, hp, hi], by omega⟩

/-- A string that ends at its first blank line has a first CRLF, and from that CRLF on it still ends at its first blank
line. -/
theorem endsAtTerminator_first {xs : List UInt8} (hend : EndsAtTerminator xs) :
    ∃ i, find? crlf xs = some i ∧ EndsAtTerminator (xs.drop i) := by
  have hlen := find?_add_length_le (by decide) hend
  have hterm := find?_prefix hend
  obtain ⟨ys, hys⟩ : ∃ ys, xs.drop (xs.length - 4) = 13 :: 10 :: 13 :: 10 :: ys := by
    rw [terminator, List.isPrefixOf_iff_prefix] at hterm
    obtain ⟨ys, hys⟩ := hterm
    exact ⟨ys, hys.symm⟩
  have hcrlf : crlf.isPrefixOf (xs.drop (xs.length - 4)) = true := by rw [hys]; rfl
  obtain ⟨i, hi, hle⟩ := find?_le_of_isPrefixOf hcrlf
  refine ⟨i, hi, ?_⟩
  unfold EndsAtTerminator
  rw [find?_drop_of_le hend hle, List.length_drop]
  simp only [terminator_length] at hlen
  congr 1
  omega

/-- Past a CRLF, a string that ends at its first blank line is that blank line's last CRLF, or a line that is not
empty followed by more of the same kind. -/
theorem endsAtTerminator_step {rest : List UInt8} (hend : EndsAtTerminator (13 :: 10 :: rest)) :
    rest = [13, 10] ∨ ∃ i, find? crlf rest = some i ∧ 0 < i ∧ EndsAtTerminator (rest.drop i) := by
  by_cases hp : terminator.isPrefixOf (13 :: 10 :: rest) = true
  · -- the blank line is right here, and it is the end
    left
    have h0 : find? terminator (13 :: 10 :: rest) = some 0 := by simp [find?, hp]
    unfold EndsAtTerminator at hend
    rw [h0, Option.some.injEq, List.length_cons, List.length_cons] at hend
    rw [terminator, List.isPrefixOf_iff_prefix] at hp
    obtain ⟨ys, hys⟩ := hp
    have hrest : rest = 13 :: 10 :: ys := by simpa using hys.symm
    subst hrest
    simp only [List.length_cons] at hend
    have hys0 : ys = [] := List.eq_nil_of_length_eq_zero (by omega)
    rw [hys0]
  · right
    have hp10 : terminator.isPrefixOf (10 :: rest) = false := by simp [terminator, List.isPrefixOf]
    unfold EndsAtTerminator at hend
    rw [find?_cons_of_isPrefixOf_false (Bool.eq_false_iff.2 hp), find?_cons_of_isPrefixOf_false hp10] at hend
    obtain ⟨j', hj', hlast⟩ := Option.map_eq_some_iff.1 hend
    obtain ⟨j, hfind, rfl⟩ := Option.map_eq_some_iff.1 hj'
    have hlen := find?_add_length_le (by decide) hfind
    simp only [List.length_cons, terminator_length] at hlast hlen
    have hrest : EndsAtTerminator rest := by
      unfold EndsAtTerminator
      rw [hfind]
      congr 1
      omega
    obtain ⟨i, hi, hend'⟩ := endsAtTerminator_first hrest
    refine ⟨i, hi, Nat.pos_of_ne_zero fun h0 => hp ?_, hend'⟩
    -- a CRLF at the front of `rest` would make a blank line before the end
    subst h0
    obtain ⟨ys, hys⟩ := crlf_isPrefixOf_iff.1 (by simpa using find?_prefix hi)
    rw [hys]
    rfl

end Framing

namespace Head

open Octets Framing

/-! ## One line

Each reader is run on a line `l` that holds no line feed, followed by CRLF and `more`. -/

section Line

variable {l more r : List UInt8}

theorem not_mem_of_cons {b x : UInt8} {l : List UInt8} (h : x ∉ b :: l) : x ∉ l :=
  fun hm => h (List.mem_cons_of_mem _ hm)

/-- A line's first octet is not a line feed. -/
theorem beq_lf_of_line {b : UInt8} (hl : (10 : UInt8) ∉ b :: l) : (b == 10) = false := by
  rw [beq_eq_false_iff_ne]
  rintro rfl
  exact hl List.mem_cons_self

theorem methodTail_line {t : List UInt8} (hl : (10 : UInt8) ∉ l) (h : methodTail (l ++ 13 :: 10 :: more) = .done t r) :
    ∃ l', (10 : UInt8) ∉ l' ∧ r = l' ++ 13 :: 10 :: more := by
  induction l generalizing t with
  | nil =>
    have h13 : isTokenOctet 13 = false := by decide
    simp [methodTail, h13] at h
  | cons b l ih =>
    simp only [List.cons_append, methodTail] at h
    split at h
    · cases h
      exact ⟨l, not_mem_of_cons hl, rfl⟩
    · split at h
      · obtain ⟨t', ht', _⟩ := Scan.map_eq_done h
        exact ih (not_mem_of_cons hl) ht'
      · cases h

theorem readMethod_line {m : String} (hl : (10 : UInt8) ∉ l) (h : readMethod (l ++ 13 :: 10 :: more) = .done m r) :
    ∃ l', (10 : UInt8) ∉ l' ∧ r = l' ++ 13 :: 10 :: more := by
  cases l with
  | nil =>
    have h13 : isTokenOctet 13 = false := by decide
    simp [readMethod, h13] at h
  | cons b l =>
    simp only [List.cons_append, readMethod] at h
    split at h
    · obtain ⟨t, ht, _⟩ := Scan.map_eq_done h
      exact methodTail_line (not_mem_of_cons hl) ht
    · cases h

theorem readTarget_line {s : String} (hl : (10 : UInt8) ∉ l) (h : readTarget (l ++ 13 :: 10 :: more) = .done s r) :
    ∃ l', (10 : UInt8) ∉ l' ∧ r = l' ++ 13 :: 10 :: more := by
  unfold readTarget at h
  rw [List.dropWhile_append] at h
  cases hd : l.dropWhile isTargetOctet with
  | nil =>
    -- the target would run into the carriage return, which is not the space that must end it
    have h13 : isTargetOctet 13 = false := by decide
    simp [hd, h13] at h
  | cons b l' =>
    have hsub : l' ⊆ l := fun x hx => (List.dropWhile_suffix isTargetOctet).subset (by rw [hd]; exact .tail _ hx)
    refine ⟨l', fun hm => hl (hsub hm), ?_⟩
    simp only [hd, List.isEmpty_cons, Bool.false_eq_true, if_false, List.cons_append] at h
    split at h
    · split at h
      · cases h
        rfl
      · cases h
    · cases h

theorem readVersion_done {bs : List UInt8} {v : Version} (h : readVersion bs = .done v r) :
    ∃ d, bs = [72, 84, 84, 80, 47, 49, 46, d] ++ r ∧ (d = 48 ∨ d = 49) := by
  unfold readVersion at h
  split at h
  · rename_i d rest
    by_cases h48 : d = 48
    · subst h48
      simp only [beq_self_eq_true, if_true] at h
      cases h
      exact ⟨48, rfl, .inl rfl⟩
    · by_cases h49 : d = 49
      · subst h49
        have hne : ((49 : UInt8) == 48) = false := by decide
        simp only [hne, beq_self_eq_true, if_true, Bool.false_eq_true, if_false] at h
        cases h
        exact ⟨49, rfl, .inr rfl⟩
      · simp [h48, h49] at h
  · split at h <;> cases h

theorem readVersion_line {v : Version} (hl : (10 : UInt8) ∉ l) (h : readVersion (l ++ 13 :: 10 :: more) = .done v r) :
    ∃ l', (10 : UInt8) ∉ l' ∧ r = l' ++ 13 :: 10 :: more := by
  obtain ⟨d, hbs, hd⟩ := readVersion_done h
  rcases List.append_eq_append_iff.1 hbs with ⟨as, hP, hrest⟩ | ⟨bs, hl', hr⟩
  · cases as with
    | nil => exact ⟨[], by simp, by simpa using hrest.symm⟩
    | cons x as =>
      -- the version would have to hold the carriage return
      have hx : x = 13 := (List.cons.inj hrest).1.symm
      have hmem : x ∈ [72, 84, 84, 80, 47, 49, 46, d] := by rw [hP]; simp
      subst hx
      rcases hd with rfl | rfl <;> simp at hmem
  · exact ⟨bs, fun hm => hl (by rw [hl']; exact List.mem_append_right _ hm), hr⟩

theorem readLineEnd_line (hl : (10 : UInt8) ∉ l) (h : readLineEnd (l ++ 13 :: 10 :: more) = .done () r) :
    l = [] ∧ r = more := by
  cases l with
  | nil =>
    simp only [List.nil_append, readLineEnd, Scan.done.injEq] at h
    exact ⟨rfl, h.2.symm⟩
  | cons b l =>
    exfalso
    simp only [List.cons_append] at h
    unfold readLineEnd at h
    split at h
    next heq => simp at heq
    next rest heq =>
      -- a carriage return that the line goes on after is not a line end
      obtain ⟨rfl, rfl⟩ := List.cons.inj heq
      cases l with
      | nil => simp at h
      | cons c l =>
        simp only [List.cons_append] at h
        split at h
        next heq' => simp at heq'
        next heq' =>
          obtain ⟨rfl, -⟩ := List.cons.inj heq'
          exact hl (List.mem_cons_of_mem _ List.mem_cons_self)
        next => cases h
    next rest heq =>
      obtain ⟨rfl, -⟩ := List.cons.inj heq
      exact hl List.mem_cons_self
    next => cases h

theorem nameTail_line {n : List UInt8} (hl : (10 : UInt8) ∉ l) (h : nameTail (l ++ 13 :: 10 :: more) = .done n r) :
    ∃ v, l = n ++ 58 :: v ∧ r = v ++ 13 :: 10 :: more ∧ ∀ x ∈ n, isTokenOctet x = true := by
  induction l generalizing n with
  | nil =>
    have h13 : isTokenOctet 13 = false := by decide
    simp [nameTail, h13] at h
  | cons b l ih =>
    simp only [List.cons_append, nameTail] at h
    split at h
    · rename_i hb
      cases h
      have hb58 : b = 58 := by simpa using hb
      exact ⟨l, by rw [hb58]; rfl, rfl, by simp⟩
    · split at h
      · rename_i _ htok
        obtain ⟨n', hn', rfl⟩ := Scan.map_eq_done h
        obtain ⟨v, hv, hr, hn⟩ := ih (not_mem_of_cons hl) hn'
        exact ⟨v, by rw [hv]; rfl, hr, List.forall_mem_cons.2 ⟨htok, hn⟩⟩
      · cases h

/-- A carriage return inside a line, where no line feed follows it, ends no value. -/
theorem cr_in_line_fails {α : Type} {v : α} {e : SyntaxError} {d : List UInt8 → Scan α} (hl : (10 : UInt8) ∉ l)
    (h : (match l ++ 13 :: 10 :: more with
      | [] => Scan.short
      | 10 :: r => d r
      | _ :: _ => Scan.fail e) = Scan.done v r) : False := by
  cases l with
  | nil => simp at h
  | cons c l =>
    simp only [List.cons_append] at h
    split at h
    next heq => simp at heq
    next heq =>
      obtain ⟨rfl, -⟩ := List.cons.inj heq
      exact hl List.mem_cons_self
    next => cases h

theorem valueTail_line {v : List UInt8} (hl : (10 : UInt8) ∉ l) (h : valueTail (l ++ 13 :: 10 :: more) = .done v r) :
    v = l ∧ r = more := by
  induction l generalizing v with
  | nil =>
    have h13 : isValueOctet 13 = false := by decide
    simp only [List.nil_append, valueTail, h13, Bool.false_eq_true, if_false, beq_self_eq_true, if_true,
      Scan.done.injEq] at h
    exact ⟨h.1.symm, h.2.symm⟩
  | cons b l ih =>
    simp only [List.cons_append, valueTail] at h
    split at h
    · obtain ⟨v', hv', rfl⟩ := Scan.map_eq_done h
      obtain ⟨rfl, rfl⟩ := ih (not_mem_of_cons hl) hv'
      exact ⟨rfl, rfl⟩
    · split at h
      · exact (cr_in_line_fails (not_mem_of_cons hl) h).elim
      · split at h
        · rename_i _ _ hb
          simp [beq_lf_of_line hl] at hb
        · cases h

theorem fieldValue_line {v : List UInt8} (hl : (10 : UInt8) ∉ l) (h : fieldValue (l ++ 13 :: 10 :: more) = .done v r) :
    v = l.dropWhile isSpaceOrTab ∧ r = more := by
  induction l generalizing v with
  | nil =>
    have h13 : isValueOctet 13 = false := by decide
    have hsp : isSpaceOrTab 13 = false := by decide
    simp only [List.nil_append, fieldValue, hsp, h13, Bool.false_eq_true, if_false, beq_self_eq_true, if_true,
      Scan.done.injEq] at h
    exact ⟨h.1.symm, h.2.symm⟩
  | cons b l ih =>
    simp only [List.cons_append, fieldValue] at h
    split at h
    · rename_i hsp
      obtain ⟨rfl, rfl⟩ := ih (not_mem_of_cons hl) h
      simp [hsp]
    · rename_i hsp
      split at h
      · obtain ⟨v', hv', rfl⟩ := Scan.map_eq_done h
        obtain ⟨rfl, rfl⟩ := valueTail_line (not_mem_of_cons hl) hv'
        simp [hsp]
      · split at h
        · exact (cr_in_line_fails (not_mem_of_cons hl) h).elim
        · split at h
          · rename_i _ _ hb
            simp [beq_lf_of_line hl] at hb
          · cases h

/-- The field `f` is what the reader takes from the header line `l`: a token name, its colon, and the value with the
spaces and tabs around it dropped. -/
def FieldLine (l : List UInt8) (f : Field) : Prop :=
  ∃ n v, l = n ++ 58 :: v ∧ n ≠ [] ∧ (∀ x ∈ n, isTokenOctet x = true) ∧
    f = ⟨asciiString n, ((v.dropWhile isSpaceOrTab).reverse.dropWhile isSpaceOrTab).reverse⟩

theorem readField_line {b : UInt8} {f : Field} (hb : isTokenOctet b = true) (hl : (10 : UInt8) ∉ b :: l)
    (h : readField b (l ++ 13 :: 10 :: more) = .done f r) : r = more ∧ FieldLine (b :: l) f := by
  unfold readField at h
  obtain ⟨n, r', hn, hv⟩ := Scan.bind_eq_done h
  obtain ⟨v, hlv, rfl, htok⟩ := nameTail_line (not_mem_of_cons hl) hn
  obtain ⟨w, hw, rfl⟩ := Scan.map_eq_done hv
  have hv' : (10 : UInt8) ∉ v := fun hm => hl (List.mem_cons_of_mem _ (by rw [hlv]; simp [hm]))
  obtain ⟨rfl, rfl⟩ := fieldValue_line hv' hw
  exact ⟨rfl, b :: n, v, by rw [hlv]; rfl, by simp, List.forall_mem_cons.2 ⟨hb, htok⟩, rfl⟩

/-- Empty lines before the request line are skipped; a line that is not empty, and holds no line feed, is where the
request line starts. -/
theorem skipEmptyLines_line (hne : l ≠ []) (hl : (10 : UInt8) ∉ l)
    (h : skipEmptyLines (l ++ 13 :: 10 :: more) = .done () r) : r = l ++ 13 :: 10 :: more := by
  obtain ⟨b, l, rfl⟩ := List.exists_cons_of_ne_nil hne
  simp only [List.cons_append] at h ⊢
  unfold skipEmptyLines at h
  split at h
  next heq => simp at heq
  next rest heq =>
    obtain ⟨rfl, rfl⟩ := List.cons.inj heq
    exact (cr_in_line_fails (not_mem_of_cons hl) h).elim
  next rest heq =>
    obtain ⟨rfl, -⟩ := List.cons.inj heq
    exact absurd List.mem_cons_self hl
  next heq =>
    cases h
    exact heq.symm

end Line

/-! ## The head -/

/-- A line start of a string that ends at its first blank line: the line there, the CRLF that ends it, and the rest,
which again ends at its first blank line. -/
theorem line_of_find? {rest : List UInt8} {i : Nat} (hi : find? crlf rest = some i) :
    rest = rest.take i ++ 13 :: 10 :: rest.drop (i + 2) ∧ rest.drop i = 13 :: 10 :: rest.drop (i + 2) := by
  have hcrlf := find?_prefix hi
  obtain ⟨ys, hys⟩ := crlf_isPrefixOf_iff.1 hcrlf
  have hdrop : rest.drop (i + 2) = ys := by rw [← List.drop_drop, hys]; rfl
  rw [hdrop]
  exact ⟨by rw [← hys, List.take_append_drop], hys⟩

theorem take_ne_nil_of_find? {rest : List UInt8} {i : Nat} (hi : find? crlf rest = some i) (hpos : 0 < i) :
    rest.take i ≠ [] := by
  have hle := find?_add_length_le (by decide) hi
  simp only [crlf, List.length_cons, List.length_nil] at hle
  intro h0
  have := congrArg List.length h0
  simp only [List.length_take, List.length_nil] at this
  omega

/-- The field reader, started at a line start of a head that ends at its first blank line, takes one field from each
header line and stops right after that blank line. The induction follows the lines. -/
theorem readFields_lines (limit : Nat) (acc : List Field) (rest body : List UInt8)
    (hend : EndsAtTerminator (13 :: 10 :: rest)) (hlf : ∀ l ∈ splitLines rest, (10 : UInt8) ∉ l)
    {fs : List Field} {r : List UInt8} (h : readFields limit acc (rest ++ body) = .done fs r) :
    r = body ∧ ∀ f ∈ fs, f ∈ acc ∨ ∃ l ∈ splitLines rest, FieldLine l f := by
  rcases endsAtTerminator_step hend with rfl | ⟨i, hi, hpos, hend'⟩
  · -- the blank line ends the head
    rw [readFields.eq_def] at h
    simp only [List.cons_append, List.nil_append, beq_self_eq_true, if_true, Scan.done.injEq] at h
    obtain ⟨rfl, rfl⟩ := h
    exact ⟨rfl, fun f hf => .inl (List.mem_reverse.1 hf)⟩
  · -- a header line, then the lines after it
    obtain ⟨hsplit, hdrop⟩ := line_of_find? hi
    have hlines : splitLines rest = rest.take i :: splitLines (rest.drop (i + 2)) := by rw [splitLines_eq, hi]
    have hline : (10 : UInt8) ∉ rest.take i := hlf _ (by rw [hlines]; exact List.mem_cons_self)
    have hlf' : ∀ l ∈ splitLines (rest.drop (i + 2)), (10 : UInt8) ∉ l :=
      fun l hl => hlf l (by rw [hlines]; exact List.mem_cons_of_mem _ hl)
    have hend'' : EndsAtTerminator (13 :: 10 :: rest.drop (i + 2)) := by rwa [← hdrop]
    have hdec : (rest.drop (i + 2)).length < rest.length := by
      have := congrArg List.length hsplit
      simp only [List.length_append, List.length_cons] at this
      simp only [List.length_drop]
      omega
    obtain ⟨b, l, hbl⟩ := List.exists_cons_of_ne_nil (take_ne_nil_of_find? hi hpos)
    rw [hsplit, hbl] at h
    rw [hbl] at hline
    simp only [List.cons_append, List.append_assoc] at h
    rw [readFields.eq_def] at h
    dsimp only at h
    split at h
    · -- a carriage return at the start of a line is not the blank line
      exact (cr_in_line_fails (not_mem_of_cons hline) h).elim
    · split at h
      · rename_i hb
        simp [beq_lf_of_line hline] at hb
      · split at h
        · rename_i htok
          split at h
          · rename_i f r' hf
            obtain ⟨rfl, hfl⟩ := readField_line htok hline hf
            split at h
            · obtain ⟨hr, hfs⟩ := readFields_lines limit (f :: acc) (rest.drop (i + 2)) body hend'' hlf' h
              refine ⟨hr, fun f' hf' => ?_⟩
              rcases hfs f' hf' with hacc | ⟨l', hl', hfl'⟩
              · rcases List.mem_cons.1 hacc with rfl | hacc
                · exact .inr ⟨b :: l, by rw [hlines, hbl]; exact List.mem_cons_self, hfl⟩
                · exact .inl hacc
              · exact .inr ⟨l', by rw [hlines]; exact List.mem_cons_of_mem _ hl', hfl'⟩
            · cases h
          · cases h
          · cases h
        · cases h
termination_by rest.length

/-- A head that ends at its first blank line, and is more than that blank line, starts with its request line, after at
most one empty line; the lines after the request line are among the framer's header lines. -/
theorem head_lines {head : List UInt8} (hend : EndsAtTerminator head) (hlf : ∀ l ∈ splitLines head, (10 : UInt8) ∉ l)
    (hne : head ≠ [13, 10, 13, 10]) :
    ∃ pre line rest, head = pre ++ line ++ 13 :: 10 :: rest ∧ (pre = [] ∨ pre = [13, 10]) ∧ line ≠ [] ∧
      (10 : UInt8) ∉ line ∧ EndsAtTerminator (13 :: 10 :: rest) ∧ (∀ l ∈ splitLines rest, (10 : UInt8) ∉ l) ∧
      ∀ l ∈ splitLines rest, l ∈ (splitLines head).drop 1 := by
  obtain ⟨i, hi, hend'⟩ := endsAtTerminator_first hend
  obtain ⟨hsplit, hdrop⟩ := line_of_find? hi
  have hlines : splitLines head = head.take i :: splitLines (head.drop (i + 2)) := by rw [splitLines_eq, hi]
  rw [hdrop] at hend'
  by_cases hi0 : i = 0
  · -- an empty line first: the request line is the next one
    subst hi0
    simp only [Nat.zero_add, List.take_zero, List.nil_append] at hsplit hlines hend'
    rcases endsAtTerminator_step hend' with h2 | ⟨j, hj, hpos, hend''⟩
    · exact absurd (by rw [hsplit, h2]) hne
    · obtain ⟨hsplit', hdrop'⟩ := line_of_find? hj
      have hlines' : splitLines (head.drop 2) = (head.drop 2).take j :: splitLines ((head.drop 2).drop (j + 2)) := by
        rw [splitLines_eq, hj]
      have hin : ∀ l ∈ splitLines ((head.drop 2).drop (j + 2)), l ∈ (splitLines head).drop 1 := fun l hl => by
        rw [hlines, List.drop_one, List.tail_cons, hlines']
        exact List.mem_cons_of_mem _ hl
      refine ⟨[13, 10], (head.drop 2).take j, (head.drop 2).drop (j + 2), ?_, .inr rfl,
        take_ne_nil_of_find? hj hpos, ?_, by rwa [← hdrop'], fun l hl => hlf l (List.mem_of_mem_drop (hin l hl)), hin⟩
      · calc head = [13, 10] ++ head.drop 2 := hsplit
          _ = [13, 10] ++ ((head.drop 2).take j ++ 13 :: 10 :: (head.drop 2).drop (j + 2)) := by rw [← hsplit']
          _ = [13, 10] ++ (head.drop 2).take j ++ 13 :: 10 :: (head.drop 2).drop (j + 2) := by
            rw [List.append_assoc]
      · refine hlf _ ?_
        rw [hlines, hlines']
        exact List.mem_cons_of_mem _ List.mem_cons_self
  · have hin : ∀ l ∈ splitLines (head.drop (i + 2)), l ∈ (splitLines head).drop 1 := fun l hl => by
      rw [hlines, List.drop_one, List.tail_cons]
      exact hl
    refine ⟨[], head.take i, head.drop (i + 2), hsplit, .inl rfl, take_ne_nil_of_find? hi (Nat.pos_of_ne_zero hi0),
      hlf _ (by rw [hlines]; exact List.mem_cons_self), hend', fun l hl => hlf l (List.mem_of_mem_drop (hin l hl)), hin⟩

/-- The request reader, on a head that ends at its first blank line and in which every line feed ends a CRLF, stops
right after that blank line, and takes each of its fields from one of the framer's header lines. -/
theorem scan_head {head body : List UInt8} (hend : EndsAtTerminator head)
    (hlf : ∀ l ∈ splitLines head, (10 : UInt8) ∉ l) (hne : head ≠ [13, 10, 13, 10]) {H : Head} {r : List UInt8}
    (h : scan (head ++ body) = .done H r) :
    r = body ∧ ∀ f ∈ H.fields, ∃ l ∈ (splitLines head).drop 1, FieldLine l f := by
  obtain ⟨pre, line, rest, rfl, hpre, hline, hlineLF, hend', hlf', hsub⟩ := head_lines hend hlf hne
  unfold scan at h
  obtain ⟨_, r1, h1, h⟩ := Scan.bind_eq_done h
  obtain ⟨m, r2, h2, h⟩ := Scan.bind_eq_done h
  obtain ⟨t, r3, h3, h⟩ := Scan.bind_eq_done h
  obtain ⟨v, r4, h4, h⟩ := Scan.bind_eq_done h
  obtain ⟨_, r5, h5, h⟩ := Scan.bind_eq_done h
  obtain ⟨fs, r6, h6, h⟩ := Scan.bind_eq_done h
  cases h
  -- the empty line, if there is one, is skipped, and the reading starts at the request line
  have hs : skipEmptyLines (line ++ 13 :: 10 :: (rest ++ body)) = .done () r1 := by
    rcases hpre with rfl | rfl
    · simpa using h1
    · simpa [skipEmptyLines] using h1
  obtain rfl := skipEmptyLines_line hline hlineLF hs
  obtain ⟨l2, hl2, rfl⟩ := readMethod_line hlineLF h2
  obtain ⟨l3, hl3, rfl⟩ := readTarget_line hl2 h3
  obtain ⟨l4, hl4, rfl⟩ := readVersion_line hl3 h4
  obtain ⟨rfl, rfl⟩ := readLineEnd_line hl4 h5
  obtain ⟨hr, hfs⟩ := readFields_lines maxFields [] rest body hend' hlf' h6
  refine ⟨hr, fun f hf => ?_⟩
  rcases hfs f hf with hnil | ⟨l, hl, hfl⟩
  · cases hnil
  · exact ⟨l, hsub l hl, hfl⟩

end Head

end HttpReactor
