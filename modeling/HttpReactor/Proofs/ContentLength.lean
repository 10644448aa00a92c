import HttpReactor.Proofs.FrameSafety
import HttpReactor.Proofs.WireFormat
import Mathlib.Data.List.Chain
import Mathlib.Data.Nat.Digits.Defs

/-!
# Content-Length lines and values

A Content-Length value is read by a checked decimal fold. `readLength_eq_some_iff` says it is an exact decimal parser: a
value gives a count exactly when it is one or more ASCII digits whose decimal value, leading zeros allowed, fits in a
64-bit word, and the count is that value.

The lines that carry the value are found by a scan that never splits the head into lines. Each search resumes at the
line ending that closed the value just read, not at a line start, and the search then skips to the next line start.
`contentLength.goLog` is the scan with the offset of every search it makes written down, and `scanRestLog` is a search's
line loop with the line starts it tests. `contentLength_scan` says what these searches are, on every head that ends
in a line ending (every head the framer passes ends in CRLFCRLF):

* the first search starts from offset zero, and every later one resumes at the line ending of the value read before
  it, where the head has a CRLF and the head before it does not end in one (`ResumesAfter`);
* every value read has a line ending after it;
* each search's loop tests consecutive line starts, at least two octets apart;
* the lines found are the header lines that begin with `content-length:`, each once and in increasing order: all of
  them when the scan succeeds, and otherwise those up to the line whose value stopped it.

The scan's answer on such a head is `contentLength`'s (`goLog_fst`), after at most one search more than the head has
Content-Length lines.
-/

namespace HttpReactor

namespace Framing

open Octets

/-! ## Values -/

/-- The plain decimal fold is the decimal value of the digits, the most significant first. -/
theorem decimalValue_eq_ofDigits (v : List UInt8) :
    decimalValue v = Nat.ofDigits 10 (v.map fun b => b.toNat - 48).reverse := by
  induction v using List.reverseRecOn with
  | nil => rfl
  | append_singleton v b ih =>
    rw [decimalValue, List.foldl_append, ← decimalValue, ih, List.map_append, List.reverse_append]
    simp only [List.foldl_cons, List.foldl_nil, List.map_cons, List.map_nil, List.reverse_cons, List.reverse_nil,
      List.nil_append, List.singleton_append, Nat.ofDigits_cons]
    omega

/-- A Content-Length value reads as a count exactly when it is one or more ASCII digits whose decimal value, leading
zeros allowed, fits in a 64-bit word; the count is that value, and every other value is refused. -/
theorem readLength_eq_some_iff (v : List UInt8) (n : Nat) :
    readLength v = some n ↔
      v ≠ [] ∧ (∀ b ∈ v, isDigit b = true) ∧ Nat.ofDigits 10 (v.map fun b => b.toNat - 48).reverse = n ∧
        n ≤ maxLength := by
  rw [readLength_eq, ← decimalValue_eq_ofDigits]
  have hcount : isCount v = true ↔ v ≠ [] ∧ (∀ b ∈ v, isDigit b = true) ∧ decimalValue v ≤ maxLength := by
    simp [isCount, List.all_eq_true, and_assoc]
  by_cases hc : isCount v = true
  · obtain ⟨hne, hd, hle⟩ := hcount.1 hc
    rw [if_pos hc, Option.some.injEq]
    constructor
    · rintro rfl
      exact ⟨hne, hd, rfl, hle⟩
    · rintro ⟨-, -, h, -⟩
      exact h
  · rw [if_neg hc]
    simp only [reduceCtorEq, false_iff]
    rintro ⟨hne, hd, rfl, hle⟩
    exact hc (hcount.2 ⟨hne, hd, hle⟩)

example : readLength [48, 48, 49, 56, 52, 52, 54, 55, 52, 52, 48, 55, 51, 55, 48, 57, 53, 53, 49, 54, 49, 53] =
    some 18446744073709551615 := by
  decide

example : readLength [49, 56, 52, 52, 54, 55, 52, 52, 48, 55, 51, 55, 48, 57, 53, 53, 49, 54, 49, 54] = none := by
  decide

/-! ## Lines laid end to end -/

/-- The offsets of `lines` laid out from offset `start`, each followed by its two-octet line ending. -/
def lineStarts : List (List UInt8) → Nat → List Nat
  | [], _ => []
  | l :: ls, start => start :: lineStarts ls (start + l.length + 2)

/-- The offsets of those of `lines`, laid out from `start`, that begin with `name`, ignoring ASCII case. -/
def namedStarts (name : List UInt8) (lines : List (List UInt8)) (start : Nat) : List Nat :=
  ((lines.zip (lineStarts lines start)).filter fun e => startsWithFold e.1 name).map (·.2)

/-- The offsets of a head's header lines, the lines after the request line, that begin with `content-length:`,
ignoring ASCII case: the lines whose values `declaredLength` reads. -/
def contentLengthLines (head : List UInt8) : List Nat :=
  match splitLines head with
  | [] => []
  | requestLine :: fields => namedStarts contentLengthName fields (requestLine.length + 2)

@[simp] theorem namedStarts_nil (name : List UInt8) (start : Nat) : namedStarts name [] start = [] := rfl

theorem namedStarts_cons (name l : List UInt8) (ls : List (List UInt8)) (start : Nat) :
    namedStarts name (l :: ls) start =
      (if startsWithFold l name then [start] else []) ++ namedStarts name ls (start + l.length + 2) := by
  unfold namedStarts
  rw [lineStarts, List.zip_cons_cons, List.filter_cons]
  split <;> simp

/-- Consecutive line starts are at least two octets apart: a line is followed by its line ending. -/
theorem lineStarts_isChain (lines : List (List UInt8)) (start : Nat) :
    (lineStarts lines start).IsChain fun a b => a + 2 ≤ b := by
  induction lines generalizing start with
  | nil => exact List.IsChain.nil
  | cons l ls ih =>
    cases ls with
    | nil => exact List.IsChain.singleton _
    | cons l' ls' =>
      rw [lineStarts, lineStarts]
      refine List.IsChain.cons_cons (by omega) ?_
      have := ih (start + l.length + 2)
      rwa [lineStarts] at this

theorem le_of_mem_namedStarts {name : List UInt8} :
    ∀ {lines : List (List UInt8)} {start q : Nat}, q ∈ namedStarts name lines start → start ≤ q
  | [], _, _, h => nomatch h
  | l :: ls, start, q, h => by
    rw [namedStarts_cons] at h
    rcases List.mem_append.1 h with h | h
    · split at h
      · exact Nat.le_of_eq (List.mem_singleton.1 h).symm
      · nomatch h
    · have := le_of_mem_namedStarts h
      omega

/-- The named lines' offsets grow strictly, so no line is named twice. -/
theorem namedStarts_pairwise (name : List UInt8) (lines : List (List UInt8)) (start : Nat) :
    (namedStarts name lines start).Pairwise (· < ·) := by
  induction lines generalizing start with
  | nil => exact List.Pairwise.nil
  | cons l ls ih =>
    rw [namedStarts_cons]
    split
    · refine List.pairwise_cons.2 ⟨fun q hq => ?_, ih _⟩
      have := le_of_mem_namedStarts hq
      omega
    · exact ih _

/-- A string's first CRLF lies within it. -/
theorem crlf_add_two_le {rest : List UInt8} {i : Nat} (h : find? crlf rest = some i) : i + 2 ≤ rest.length :=
  find?_add_length_le (by decide) h

/-- What follows a string's first line is shorter than the string. -/
theorem length_drop_crlf_lt {rest : List UInt8} {i : Nat} (h : find? crlf rest = some i) :
    (rest.drop (i + 2)).length < rest.length := by
  have := crlf_add_two_le h
  rw [List.length_drop]
  omega

/-- The line starts of a string from offset `start`: its first line's, then, past the first CRLF, the rest's. -/
theorem lineStarts_splitLines {rest : List UInt8} {i : Nat} (h : find? crlf rest = some i) (start : Nat) :
    lineStarts (splitLines rest) start = start :: lineStarts (splitLines (rest.drop (i + 2))) (start + i + 2) := by
  have hi := crlf_add_two_le h
  rw [splitLines_eq, h]
  dsimp only
  rw [lineStarts, List.length_take, Nat.min_eq_left (by omega)]

theorem lineStarts_splitLines_none {rest : List UInt8} (h : find? crlf rest = none) (start : Nat) :
    lineStarts (splitLines rest) start = [start] := by
  rw [splitLines_eq, h]
  rfl

/-- The named line starts of a string from offset `start`: its first line's if that line begins with the name, then,
past the first CRLF, the rest's. -/
theorem namedStarts_splitLines {name rest : List UInt8} (hname : LineName name) {i : Nat}
    (h : find? crlf rest = some i) (start : Nat) :
    namedStarts name (splitLines rest) start =
      (if startsWithFold rest name then [start] else []) ++ namedStarts name (splitLines (rest.drop (i + 2))) (start + i + 2) := by
  have hi := crlf_add_two_le h
  rw [splitLines_eq, h]
  dsimp only
  rw [namedStarts_cons, List.length_take, Nat.min_eq_left (by omega), ← startsWithFold_line hname h]

theorem namedStarts_splitLines_none {name rest : List UInt8} (h : find? crlf rest = none) (start : Nat) :
    namedStarts name (splitLines rest) start = if startsWithFold rest name then [start] else [] := by
  rw [splitLines_eq, h]
  dsimp only
  rw [namedStarts_cons, namedStarts_nil, List.append_nil]

/-! ## The line loop of a search -/

/-- The line loop of a search, with the line starts at which it compares the name written down in order, beside the
line start it finds. -/
def scanRestLog (name : List UInt8) (rest : List UInt8) (lineStart : Nat) : Option Nat × List Nat :=
  match rest with
  | [] => (none, [])
  | b :: bs =>
    if startsWithFold (b :: bs) name then (some lineStart, [lineStart])
    else
      match find? crlf (b :: bs) with
      | none => (none, [lineStart])
      | some i =>
        let more := scanRestLog name ((b :: bs).drop (i + 2)) (lineStart + i + 2)
        (more.1, lineStart :: more.2)
termination_by rest.length
decreasing_by simp only [List.length_drop, List.length_cons]; omega

/-- The logged loop finds what the loop finds. -/
theorem scanRestLog_fst (name rest : List UInt8) (lineStart : Nat) :
    (scanRestLog name rest lineStart).1 = scanRest name rest lineStart := by
  cases rest with
  | nil => rw [scanRestLog, scanRest]
  | cons b bs =>
    rw [scanRestLog, scanRest]
    by_cases hw : startsWithFold (b :: bs) name
    · simp only [hw, if_true]
    · simp only [hw, Bool.false_eq_true, if_false]
      cases hf : find? crlf (b :: bs) with
      | none => rfl
      | some i =>
        have hlt := length_drop_crlf_lt hf
        exact scanRestLog_fst name _ _
termination_by rest.length

/-- The loop tests the line starts of the octets it searches, one after the other from the first. -/
theorem scanRestLog_starts (name rest : List UInt8) (lineStart : Nat) :
    (scanRestLog name rest lineStart).2 <+: lineStarts (splitLines rest) lineStart := by
  cases rest with
  | nil => simp [scanRestLog]
  | cons b bs =>
    rw [scanRestLog]
    cases hf : find? crlf (b :: bs) with
    | none =>
      rw [lineStarts_splitLines_none hf]
      split <;> exact List.prefix_refl _
    | some i =>
      have hlt := length_drop_crlf_lt hf
      rw [lineStarts_splitLines hf]
      split
      · exact (List.prefix_cons_inj _).2 List.nil_prefix
      · exact (List.prefix_cons_inj _).2 (scanRestLog_starts name _ _)
termination_by rest.length

/-! ## The scan, search by search -/

/-- A search that finds a Content-Length line leaves less of the head after that line's value than there was after the
offset the search resumed from. -/
theorem valueEnd_progress {head : List UInt8} {after start : Nat}
    (h : findHeaderLine head contentLengthName after = some start) :
    head.length - valueEnd head (start + contentLengthName.length) < head.length - after := by
  obtain ⟨hge, hfit⟩ := Checked.contentLength_line_fits h
  have hv := valueEnd_le hfit
  have hname := Checked.contentLengthName_length
  omega

/-- The Content-Length scan with the offset each of its searches resumes from written down in order, beside the scan's
answer. -/
def contentLength.goLog (head : List UInt8) (after : Nat) (declared : Option Nat) :
    Except FrameError (Option Nat) × List Nat :=
  match _hs : findHeaderLine head contentLengthName after with
  | none => (.ok declared, [after])
  | some start =>
    let valueStart := start + contentLengthName.length
    let lineEnd := valueEnd head valueStart
    match readLength (dropBlank ((head.drop valueStart).take (lineEnd - valueStart))) with
    | none => (.error .invalidContentLength, [after])
    | some n =>
      match declared with
      | some previous =>
        if previous ≠ n then (.error .conflictingContentLength, [after])
        else
          let more := goLog head lineEnd (some n)
          (more.1, after :: more.2)
      | none =>
        let more := goLog head lineEnd (some n)
        (more.1, after :: more.2)
termination_by head.length - after
decreasing_by all_goals exact valueEnd_progress _hs

/-- The offsets the searches of the Content-Length scan of a head resume from, in order. -/
def contentLength.searches (head : List UInt8) : List Nat := (contentLength.goLog head 0 none).2

section Scan

variable {head : List UInt8} {after start : Nat}

/-- The scan at a search that finds a Content-Length line: it reads the line's value and stops on a value that is not a
count or that differs from the one declared, and otherwise goes on from the end of the value. -/
theorem go_of_some (h : findHeaderLine head contentLengthName after = some start) (declared : Option Nat) :
    contentLength.go head after declared =
      match readLength (dropBlank ((head.drop (start + contentLengthName.length)).take
          (valueEnd head (start + contentLengthName.length) - (start + contentLengthName.length)))) with
      | none => .error .invalidContentLength
      | some n =>
        match declared with
        | some previous =>
          if previous ≠ n then .error .conflictingContentLength
          else contentLength.go head (valueEnd head (start + contentLengthName.length)) (some n)
        | none => contentLength.go head (valueEnd head (start + contentLengthName.length)) (some n) := by
  rw [contentLength.go]
  split
  · rename_i heq
    rw [h] at heq
    cases heq
  · rename_i start' heq
    rw [h] at heq
    cases heq
    rfl

/-- The logged scan answers as the scan does. -/
theorem goLog_fst (head : List UInt8) (after : Nat) (declared : Option Nat) :
    (contentLength.goLog head after declared).1 = contentLength.go head after declared := by
  fun_induction contentLength.goLog head after declared with
  | case1 after declared hs => rw [go_of_findHeaderLine_none hs]
  | case2 after declared start hs valueStart lineEnd hread =>
    rw [go_of_some hs]
    simp only [valueStart, lineEnd] at hread
    simp only [hread]
  | case3 after start hs valueStart lineEnd n hread previous hne =>
    rw [go_of_some hs]
    simp only [valueStart, lineEnd] at hread
    simp only [hread, if_pos hne]
  | case4 after start hs valueStart lineEnd n hread previous hne more ih =>
    rw [go_of_some hs]
    simp only [valueStart, lineEnd] at hread ih
    simp only [hread, if_neg hne, more, lineEnd, valueStart, ih]
  | case5 after start hs valueStart lineEnd n hread more ih =>
    rw [go_of_some hs]
    simp only [valueStart, lineEnd] at hread ih
    simp only [hread, more, lineEnd, valueStart, ih]

theorem goLog_of_none (h : findHeaderLine head contentLengthName after = none) (declared : Option Nat) :
    contentLength.goLog head after declared = (.ok declared, [after]) := by
  rw [contentLength.goLog]
  split
  · rfl
  · rename_i heq
    rw [h] at heq
    cases heq

/-- A search that finds a Content-Length line either ends the scan there, with an error, or the scan goes on with a
search from the end of that line's value. -/
theorem goLog_of_some (h : findHeaderLine head contentLengthName after = some start) (declared : Option Nat) :
    (∃ e, contentLength.goLog head after declared = (.error e, [after])) ∨
      ∃ n, contentLength.goLog head after declared =
        ((contentLength.goLog head (valueEnd head (start + contentLengthName.length)) (some n)).1,
          after :: (contentLength.goLog head (valueEnd head (start + contentLengthName.length)) (some n)).2) := by
  rw [contentLength.goLog]
  split
  · rename_i heq
    rw [h] at heq
    cases heq
  · rename_i start' heq
    rw [h] at heq
    cases heq
    dsimp only
    split
    · exact .inl ⟨_, rfl⟩
    · rename_i n _
      split
      · split
        · exact .inl ⟨_, rfl⟩
        · exact .inr ⟨n, rfl⟩
      · exact .inr ⟨n, rfl⟩

/-- The scan's first search resumes where the scan is asked to start. -/
theorem goLog_head (head : List UInt8) (after : Nat) (declared : Option Nat) :
    ∃ more, (contentLength.goLog head after declared).2 = after :: more := by
  cases h : findHeaderLine head contentLengthName after with
  | none => exact ⟨[], by rw [goLog_of_none h]⟩
  | some start =>
    rcases goLog_of_some h declared with ⟨e, he⟩ | ⟨n, hn⟩
    · exact ⟨[], by rw [he]⟩
    · exact ⟨_, by rw [hn]⟩

/-- The search at `f'` resumes at the end of the value of the line that the search at `f` found. -/
def ResumesAfter (head : List UInt8) (f f' : Nat) : Prop :=
  ∃ s, findHeaderLine head contentLengthName f = some s ∧ f' = valueEnd head (s + contentLengthName.length)

/-- Every search of the scan but the first resumes at the end of the value read just before it. The induction follows
the scan. -/
theorem goLog_isChain (head : List UInt8) (after : Nat) (declared : Option Nat) :
    (contentLength.goLog head after declared).2.IsChain (ResumesAfter head) := by
  cases h : findHeaderLine head contentLengthName after with
  | none =>
    rw [goLog_of_none h]
    exact List.IsChain.singleton _
  | some start =>
    rcases goLog_of_some h declared with ⟨e, he⟩ | ⟨n, hn⟩
    · rw [he]
      exact List.IsChain.singleton _
    · have := valueEnd_progress h
      obtain ⟨more, hmore⟩ := goLog_head head (valueEnd head (start + contentLengthName.length)) (some n)
      have ih := goLog_isChain head (valueEnd head (start + contentLengthName.length)) (some n)
      rw [hmore] at ih
      rw [hn, hmore]
      exact List.IsChain.cons_cons ⟨start, h, rfl⟩ ih
termination_by head.length - after

/-- A list in which every element but the last is related to the next one, and related elements are sent to a value,
has at most one element that is sent to none. -/
theorem length_le_filterMap {R : Nat → Nat → Prop} {g : Nat → Option Nat} (hR : ∀ a b, R a b → (g a).isSome) :
    ∀ {l : List Nat}, l.IsChain R → l.length ≤ (l.filterMap g).length + 1
  | [], _ => Nat.zero_le _
  | [_], _ => by simp only [List.length_singleton]; omega
  | a :: b :: l, h => by
    obtain ⟨hab, hrest⟩ := List.isChain_cons_cons.1 h
    obtain ⟨x, hx⟩ := Option.isSome_iff_exists.1 (hR a b hab)
    have ih := length_le_filterMap hR hrest
    rw [List.filterMap_cons_some hx]
    simp only [List.length_cons] at ih ⊢
    omega

/-! ## Where a search resumes -/

/-- A string that ends with `l` within its first `e` octets has `l` at offset `e - l.length`. -/
theorem prefix_drop_of_suffix_take {xs l : List UInt8} {e : Nat} (h : l <:+ xs.take e) (he : e ≤ xs.length) :
    l <+: xs.drop (e - l.length) := by
  obtain ⟨t, ht⟩ := h
  have hlen : t.length + l.length = e := by
    have := congrArg List.length ht
    simp only [List.length_append, List.length_take] at this
    omega
  have hxs : xs = t ++ (l ++ xs.drop e) := by rw [← List.append_assoc, ht, List.take_append_drop]
  refine ⟨xs.drop e, ?_⟩
  calc l ++ xs.drop e = (t ++ (l ++ xs.drop e)).drop t.length := List.drop_left.symm
    _ = xs.drop (e - l.length) := by rw [← hxs, show e - l.length = t.length by omega]

/-- A line at `p` that begins with `content-length:` and has its first CRLF `i` octets on holds the name before that
CRLF, and the value read from it ends there. -/
theorem valueEnd_of_line {p i : Nat} (hw : startsWithFold (head.drop p) contentLengthName = true)
    (hf : find? crlf (head.drop p) = some i) :
    contentLengthName.length ≤ i ∧ valueEnd head (p + contentLengthName.length) = p + i := by
  have hL : contentLengthName.length ≤ i := by
    rw [startsWithFold_line lineName_contentLength hf] at hw
    have := length_le_of_startsWithFold hw
    simp only [List.length_take] at this
    omega
  refine ⟨hL, ?_⟩
  unfold valueEnd
  rw [← List.drop_drop, find?_drop_of_le hf hL]
  dsimp only
  omega

/-- In a head that ends in a line ending, the line that a search finds has a line ending after its name, and the value
read from it ends at that line's first CRLF. -/
theorem lineEnd_of_found (hcrlf : crlf <:+ head) (h : findHeaderLine head contentLengthName after = some start) :
    ∃ j, find? crlf (head.drop start) = some j ∧ contentLengthName.length ≤ j ∧
      valueEnd head (start + contentLengthName.length) = start + j := by
  obtain ⟨-, hw⟩ := findHeaderLine_ge h
  obtain ⟨-, hfit⟩ := Checked.contentLength_line_fits h
  have hname := Checked.contentLengthName_length
  -- the head's last two octets are a CRLF after the line start, so the line's first CRLF is found
  obtain ⟨pre, hpre⟩ := hcrlf
  have hlen : head.length = pre.length + 2 := by
    rw [← hpre, List.length_append]
    rfl
  have hlast : crlf.isPrefixOf ((head.drop start).drop (pre.length - start)) = true := by
    rw [List.drop_drop, show start + (pre.length - start) = pre.length by omega, ← hpre, List.drop_left]
    rfl
  obtain ⟨j, hj, -⟩ := find?_le_of_isPrefixOf hlast
  exact ⟨j, hj, valueEnd_of_line hw hj⟩

/-- In a head that ends in a line ending, the search after a found line resumes at the CRLF that ends its value: the
head has a CRLF there, and the head before it does not end in one, since that would be a CRLF inside the line. -/
theorem resumes_at_lineEnd (hcrlf : crlf <:+ head) (h : findHeaderLine head contentLengthName after = some start) :
    crlf.isPrefixOf (head.drop (valueEnd head (start + contentLengthName.length))) = true ∧
      crlf.isSuffixOf (head.take (valueEnd head (start + contentLengthName.length))) = false := by
  obtain ⟨j, hj, hL, hend⟩ := lineEnd_of_found hcrlf h
  have hname := Checked.contentLengthName_length
  have hjlen := crlf_add_two_le hj
  rw [List.length_drop] at hjlen
  rw [hend]
  refine ⟨by rw [← List.drop_drop]; exact find?_prefix hj, ?_⟩
  cases hs : crlf.isSuffixOf (head.take (start + j)) with
  | false => rfl
  | true =>
    have hat := prefix_drop_of_suffix_take (List.isSuffixOf_iff_suffix.1 hs) (by omega)
    rw [show start + j - crlf.length = start + (j - 2) by simp [crlf]; omega, ← List.drop_drop] at hat
    exact absurd hat ((first_of_find? hj).2 (j - 2) (by omega))

/-- In a head that ends in a line ending, every value read has a line ending after it. -/
theorem valueEnd_found (hcrlf : crlf <:+ head) (h : findHeaderLine head contentLengthName after = some start) :
    (find? crlf (head.drop (start + contentLengthName.length))).isSome := by
  obtain ⟨j, hj, hL, -⟩ := lineEnd_of_found hcrlf h
  rw [← List.drop_drop, find?_drop_of_le hj hL]
  rfl

/-! ## The lines the scan finds -/

/-- The scan, resumed so that its next search starts at the line that begins at offset `p`, finds the lines from there on
that begin with `content-length:`, in order and each once: all of them when it succeeds, and otherwise those up to the
one whose value stopped it. The induction is on the head after `p`, one line at a time, as in `go_eq`. -/
theorem goLog_visits (head : List UInt8) (after p : Nat) (declared : Option Nat)
    (hfind : findHeaderLine head contentLengthName after = scanLines head contentLengthName p) :
    (contentLength.goLog head after declared).2.filterMap (findHeaderLine head contentLengthName) <+:
        namedStarts contentLengthName (splitLines (head.drop p)) p ∧
      ∀ d, (contentLength.goLog head after declared).1 = .ok d →
        (contentLength.goLog head after declared).2.filterMap (findHeaderLine head contentLengthName) =
          namedStarts contentLengthName (splitLines (head.drop p)) p := by
  have hname := lineName_contentLength
  cases hr : head.drop p with
  | nil =>
    have hnone : findHeaderLine head contentLengthName after = none := by rw [hfind, scanLines, hr, scanRest]
    have hlines : namedStarts contentLengthName (splitLines []) p = [] := by
      simp [splitLines, namedStarts_cons, startsWithFold_nil hname]
    rw [goLog_of_none hnone, hlines, List.filterMap_cons_none hnone]
    exact ⟨List.prefix_refl _, fun _ _ => rfl⟩
  | cons b bs =>
    have hlen : head.length = p + (bs.length + 1) := by
      have := congrArg List.length hr
      simp only [List.length_drop, List.length_cons] at this
      omega
    have hdrop : ∀ k, head.drop (p + k) = (b :: bs).drop k := fun k => by rw [← hr, List.drop_drop]
    by_cases hw : startsWithFold (b :: bs) contentLengthName
    · -- a Content-Length line: the search finds it, and the next search resumes at its line ending
      have hstart : findHeaderLine head contentLengthName after = some p := by
        rw [hfind, scanLines, hr, scanRest, if_pos hw]
      have hfm : ∀ more, (after :: more).filterMap (findHeaderLine head contentLengthName) =
          p :: more.filterMap (findHeaderLine head contentLengthName) := fun _ => List.filterMap_cons_some hstart
      cases hf : find? crlf (b :: bs) with
      | none =>
        -- the line runs to the end of the head, so no search after it finds anything
        have hend : valueEnd head (p + contentLengthName.length) = head.length := by
          unfold valueEnd
          rw [hdrop, find?_drop_of_none _ hf]
        have hlast : findHeaderLine head contentLengthName head.length = none :=
          findHeaderLine_of_length_le (Nat.le_refl _)
        rw [namedStarts_splitLines_none hf, if_pos hw]
        rcases goLog_of_some hstart declared with ⟨e, he⟩ | ⟨n, hn⟩
        · rw [he, hfm]
          exact ⟨List.prefix_refl _, fun _ hd => by cases hd⟩
        · rw [hn, hend, goLog_of_none hlast, hfm, List.filterMap_cons_none hlast]
          exact ⟨List.prefix_refl _, fun _ _ => rfl⟩
      | some i =>
        have hi := crlf_add_two_le hf
        rw [List.length_cons] at hi
        have hnextLine : head.drop (p + i + 2) = (b :: bs).drop (i + 2) := by rw [Nat.add_assoc, hdrop]
        obtain ⟨hL, hend⟩ := valueEnd_of_line (p := p) (by rw [hr]; exact hw) (by rw [hr]; exact hf)
        have hnext : findHeaderLine head contentLengthName (p + i) = scanLines head contentLengthName (p + i + 2) := by
          have hpos : 0 < contentLengthName.length := List.length_pos_iff.2 hname.1
          refine findHeaderLine_crlf hname (by omega) ?_
          rw [hdrop]
          exact find?_prefix hf
        rw [namedStarts_splitLines hname hf, if_pos hw, List.singleton_append]
        rcases goLog_of_some hstart declared with ⟨e, he⟩ | ⟨n, hn⟩
        · rw [he, hfm]
          exact ⟨(List.prefix_cons_inj p).2 List.nil_prefix, fun _ hd => by cases hd⟩
        · have hdec : head.length - (p + i + 2) < head.length - p := by omega
          have ih := goLog_visits head (p + i) (p + i + 2) (some n) hnext
          rw [hnextLine] at ih
          rw [hn, hend, hfm]
          exact ⟨(List.prefix_cons_inj p).2 ih.1, fun d hd => by rw [ih.2 d hd]⟩
    · -- any other line: the search passes over it
      cases hf : find? crlf (b :: bs) with
      | none =>
        have hnone : findHeaderLine head contentLengthName after = none := by
          rw [hfind, scanLines, hr, scanRest, if_neg hw, hf]
        rw [goLog_of_none hnone, namedStarts_splitLines_none hf, if_neg hw, List.filterMap_cons_none hnone]
        exact ⟨List.prefix_refl _, fun _ _ => rfl⟩
      | some i =>
        have hi := crlf_add_two_le hf
        rw [List.length_cons] at hi
        have hnextLine : head.drop (p + i + 2) = (b :: bs).drop (i + 2) := by rw [Nat.add_assoc, hdrop]
        have hnext : findHeaderLine head contentLengthName after = scanLines head contentLengthName (p + i + 2) := by
          rw [hfind, scanLines, hr, scanRest, if_neg hw, hf]
          dsimp only
          rw [scanLines, hnextLine]
        have hdec : head.length - (p + i + 2) < head.length - p := by omega
        have ih := goLog_visits head after (p + i + 2) declared hnext
        rw [hnextLine] at ih
        rw [namedStarts_splitLines hname hf, if_neg hw, List.nil_append]
        exact ih
termination_by head.length - p

/-- The scan of a whole head finds its header lines that begin with `content-length:`, in order, from the first on, and
all of them when it succeeds. -/
theorem searches_visits (head : List UInt8) :
    (contentLength.searches head).filterMap (findHeaderLine head contentLengthName) <+: contentLengthLines head ∧
      ∀ d, contentLength head = .ok d →
        (contentLength.searches head).filterMap (findHeaderLine head contentLengthName) = contentLengthLines head := by
  have hok : contentLength head = (contentLength.goLog head 0 none).1 := (goLog_fst head 0 none).symm
  rw [hok]
  unfold contentLength.searches contentLengthLines
  rw [splitLines_eq]
  cases hf : find? crlf head with
  | none =>
    have hnone : findHeaderLine head contentLengthName 0 = none := by simp [findHeaderLine, resumeAt, hf]
    rw [goLog_of_none hnone, List.filterMap_cons_none hnone]
    exact ⟨List.prefix_refl _, fun _ _ => rfl⟩
  | some i =>
    have hi := crlf_add_two_le hf
    dsimp only
    rw [List.length_take, Nat.min_eq_left (by omega)]
    exact goLog_visits head 0 (i + 2) none (by simp [findHeaderLine, resumeAt, hf])

theorem contentLengthLines_pairwise (head : List UInt8) : (contentLengthLines head).Pairwise (· < ·) := by
  unfold contentLengthLines
  split
  · exact List.Pairwise.nil
  · exact namedStarts_pairwise _ _ _

end Scan

/-! ## The scan -/

/-- The search at `f'` resumes at the line ending that closed the value read by the search at `f`: the head has a CRLF
there, and the head up to there does not end in one, so the search never takes `f'` for a line start. -/
def ResumesAtLineEnd (head : List UInt8) (f f' : Nat) : Prop :=
  ResumesAfter head f f' ∧ crlf.isPrefixOf (head.drop f') = true ∧ crlf.isSuffixOf (head.take f') = false

/-- What the Content-Length scan over a head does, search by search. -/
structure ScanBehaviour (head : List UInt8) : Prop where
  /-- The logged scan answers as the scan does. -/
  answer : (contentLength.goLog head 0 none).1 = contentLength head
  /-- The first search starts from offset zero, which makes it skip the request line. -/
  first : (contentLength.searches head).head? = some 0
  /-- Every later search resumes at the line ending that closed the value read before it. -/
  resumes : (contentLength.searches head).IsChain (ResumesAtLineEnd head)
  /-- A line ending follows every value read, so no value is taken to run to the end of the head. -/
  valueEnds : ∀ f ∈ contentLength.searches head, ∀ s, findHeaderLine head contentLengthName f = some s →
    (find? crlf (head.drop (s + contentLengthName.length))).isSome
  /-- Every search is a loop over line starts from where it resumes: it tests them one after the other, each at least
  two octets past the one before. -/
  advances : ∀ f ∈ contentLength.searches head, ∀ p, resumeAt head f = some p →
    findHeaderLine head contentLengthName f = (scanRestLog contentLengthName (head.drop p) p).1 ∧
      (scanRestLog contentLengthName (head.drop p) p).2 <+: lineStarts (splitLines (head.drop p)) p ∧
      (scanRestLog contentLengthName (head.drop p) p).2.IsChain fun a b => a + 2 ≤ b
  /-- The lines found are the header lines that begin with `content-length:`, in order from the first on. -/
  visits : (contentLength.searches head).filterMap (findHeaderLine head contentLengthName) <+: contentLengthLines head
  /-- A scan that succeeds finds all of them. -/
  visitsAll : ∀ d, contentLength head = .ok d →
    (contentLength.searches head).filterMap (findHeaderLine head contentLengthName) = contentLengthLines head
  /-- Those lines lie at increasing offsets, so each is found once. -/
  increasing : (contentLengthLines head).Pairwise (· < ·)
  /-- The scan makes at most one search more than the head has Content-Length lines. -/
  bounded : (contentLength.searches head).length ≤ (contentLengthLines head).length + 1

/-- The Content-Length scan over a head that ends in a line ending, as every head the framer passes does (it ends in
CRLFCRLF): it starts from offset zero and resumes every later search at the CRLF that closed the value just read, never
at an offset that a CRLF precedes; a line ending follows every value; every search tests consecutive line starts; and it
finds each header line that begins with `content-length:` once, in increasing order of offset, until a value stops it,
so all of them when it succeeds, after at most one search more than there are such lines. -/
theorem contentLength_scan (head : List UInt8) (hcrlf : crlf <:+ head) : ScanBehaviour head where
  answer := goLog_fst head 0 none
  first := by
    obtain ⟨more, h⟩ := goLog_head head 0 none
    simp [contentLength.searches, h]
  resumes := by
    refine (goLog_isChain head 0 none).imp ?_
    rintro f f' ⟨s, hs, rfl⟩
    exact ⟨⟨s, hs, rfl⟩, resumes_at_lineEnd hcrlf hs⟩
  valueEnds := fun _ _ _ hs => valueEnd_found hcrlf hs
  advances := by
    intro f _ p hp
    have hprefix := scanRestLog_starts contentLengthName (head.drop p) p
    refine ⟨?_, hprefix, List.IsChain.prefix (lineStarts_isChain _ _) hprefix⟩
    rw [findHeaderLine, hp, Option.bind_some, scanLines, scanRestLog_fst]
  visits := (searches_visits head).1
  visitsAll := (searches_visits head).2
  increasing := contentLengthLines_pairwise head
  bounded := by
    have hlen := length_le_filterMap (g := findHeaderLine head contentLengthName)
      (by rintro _ _ ⟨_, hs, _⟩; simp [hs]) (goLog_isChain head 0 none)
    have hvisits := (searches_visits head).1.length_le
    unfold contentLength.searches at hvisits ⊢
    omega

theorem contentLength_scan_two_lines :
    crlf <:+ ofString "POST / HTTP/1.1\r\nContent-Length: 2\r\nHost: x\r\ncontent-length: 02\r\n\r\n" ∧
      ScanBehaviour (ofString "POST / HTTP/1.1\r\nContent-Length: 2\r\nHost: x\r\ncontent-length: 02\r\n\r\n") := by
  have h : crlf <:+ ofString "POST / HTTP/1.1\r\nContent-Length: 2\r\nHost: x\r\ncontent-length: 02\r\n\r\n" := by
    rw [ofString_eq_flatMap]
    decide
  exact ⟨h, contentLength_scan _ h⟩

end Framing

end HttpReactor
