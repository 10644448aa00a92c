import HttpReactor.Proofs.FramePrefix

/-!
# The framer, read line by line

`Framing.evaluate` never splits the head into lines: it walks offsets, skipping the request line, testing each line start
against a header name, and resuming every Content-Length search at the line ending of the value just read. The reading
a maintainer has in mind is simpler: split the head at each CRLF, drop the request line, and look at the lines that
remain. `lineVerdict` is that reading, and `evaluate_eq_lineVerdict` says the framer gives the same verdict on every
buffer.

The offsets and the lines meet in `splitLines_eq`: the first line of a string ends where `find? crlf` says, and the lines
after it are the lines of what follows that CRLF. A header name holds no octet that folds to a carriage return, so the
rest of the head from a line start begins with a name exactly when that line does (`startsWithFold_line`); this is why
the scan may compare a name against octets past the end of a short line. `scanRest_isSome` and `go_eq` then run the scan
and the reference side by side, one line at a time.
-/

namespace HttpReactor

namespace Framing

open Octets

/-! ## Lines -/

/-- Puts an octet in front of the first line. -/
def pushFront (b : UInt8) : List (List UInt8) → List (List UInt8)
  | [] => [[b]]
  | l :: ls => (b :: l) :: ls

/-- The CRLF-separated lines of an octet string, in order: a string without CRLF is one line, and a string that ends
in CRLF ends with an empty line. -/
def splitLines : List UInt8 → List (List UInt8)
  | [] => [[]]
  | [b] => [[b]]
  | b :: c :: rest => if b = 13 ∧ c = 10 then [] :: splitLines rest else pushFront b (splitLines (c :: rest))

theorem crlf_isPrefixOf_iff {xs : List UInt8} : crlf.isPrefixOf xs = true ↔ ∃ ys, xs = 13 :: 10 :: ys := by
  rcases xs with _ | ⟨a, _ | ⟨b, ys⟩⟩
  · simp [crlf]
  · simp [crlf]
  · simp only [crlf, List.isPrefixOf_cons_cons, List.isPrefixOf_nil_left, Bool.and_true, Bool.and_eq_true,
      beq_iff_eq, List.cons.injEq]
    constructor
    · rintro ⟨rfl, rfl⟩
      exact ⟨ys, rfl, rfl, rfl⟩
    · rintro ⟨_, rfl, rfl, _⟩
      exact ⟨rfl, rfl⟩

theorem find?_cons_of_isPrefixOf_false {needle : List UInt8} {x : UInt8} {xs : List UInt8}
    (h : needle.isPrefixOf (x :: xs) = false) : find? needle (x :: xs) = (find? needle xs).map (· + 1) := by
  simp [find?, h]

/-- The lines of a string are its text up to the first CRLF, then the lines of what follows that CRLF. -/
theorem splitLines_eq (rest : List UInt8) :
    splitLines rest =
      match find? crlf rest with
      | none => [rest]
      | some i => rest.take i :: splitLines (rest.drop (i + 2)) := by
  induction rest using splitLines.induct with
  | case1 => rfl
  | case2 b => simp [splitLines, find?, crlf, List.isPrefixOf]
  | case3 b c rest hcrlf =>
    obtain ⟨rfl, rfl⟩ := hcrlf
    simp [splitLines, find?, crlf, List.isPrefixOf]
  | case4 b c rest hcrlf ih =>
    have hnot : crlf.isPrefixOf (b :: c :: rest) = false := by
      cases h : crlf.isPrefixOf (b :: c :: rest) with
      | false => rfl
      | true =>
        obtain ⟨ys, hys⟩ := crlf_isPrefixOf_iff.1 h
        simp only [List.cons.injEq] at hys
        exact absurd ⟨hys.1, hys.2.1⟩ hcrlf
    rw [splitLines, if_neg hcrlf, ih, find?_cons_of_isPrefixOf_false hnot]
    cases find? crlf (c :: rest) with
    | none => rfl
    | some j => rfl

example : splitLines [65, 13, 10, 66, 13, 10, 13, 10] = [[65], [66], [], []] := by decide

/-! ## Searching after a prefix is dropped -/

theorem find?_drop_of_le {needle : List UInt8} :
    ∀ {xs : List UInt8} {i k : Nat}, find? needle xs = some i → k ≤ i → find? needle (xs.drop k) = some (i - k)
  | xs, i, 0, h, _ => by simpa using h
  | [], i, k + 1, h, hk => by
    simp only [find?] at h
    split at h <;> cases h
    omega
  | x :: xs, i, k + 1, h, hk => by
    rw [find?] at h
    split at h
    · cases h
      omega
    · obtain ⟨j, hj, rfl⟩ := Option.map_eq_some_iff.1 h
      simpa using find?_drop_of_le hj (by omega)

theorem find?_drop_of_none {needle : List UInt8} :
    ∀ {xs : List UInt8} (k : Nat), find? needle xs = none → find? needle (xs.drop k) = none
  | xs, 0, h => h
  | [], k + 1, h => h
  | x :: xs, k + 1, h => by
    rw [find?] at h
    split at h
    · cases h
    · exact find?_drop_of_none k (Option.map_eq_none_iff.1 h)

/-! ## Names that stay within a line -/

/-- A header name the scan can look for: not empty, and with no octet that folds to a carriage return, so that it
never matches across a line ending. -/
def LineName (name : List UInt8) : Prop := name ≠ [] ∧ ∀ p ∈ name, foldAscii p ≠ 13

theorem lineName_contentLength : LineName contentLengthName := ⟨by decide +kernel, by decide +kernel⟩

theorem lineName_transferEncoding : LineName transferEncodingName := ⟨by decide +kernel, by decide +kernel⟩

theorem startsWithFold_nil {name : List UInt8} (hname : LineName name) : startsWithFold [] name = false := by
  obtain ⟨p, ps, rfl⟩ := List.exists_cons_of_ne_nil hname.1
  rfl

/-- A name without carriage returns matches a string that runs on past a carriage return exactly when it matches the
part before it. -/
theorem startsWithFold_append_cr {name : List UInt8} (hname : ∀ p ∈ name, foldAscii p ≠ 13) (l xs : List UInt8) :
    startsWithFold (l ++ 13 :: xs) name = startsWithFold l name := by
  induction name generalizing l with
  | nil => cases l <;> rfl
  | cons p ps ih =>
    have hp : foldAscii p ≠ 13 := hname p List.mem_cons_self
    cases l with
    | nil =>
      have h13 : eqFold 13 p = false := by
        simp only [eqFold, beq_eq_false_iff_ne]
        exact fun h => hp (by rw [← h]; rfl)
      simp [startsWithFold, h13]
    | cons x l => simp [startsWithFold, ih (fun q hq => hname q (List.mem_cons_of_mem _ hq)) l]

/-- The rest of the head from a line start begins with a name exactly when the line does. -/
theorem startsWithFold_line {name rest : List UInt8} (hname : LineName name) {i : Nat}
    (h : find? crlf rest = some i) : startsWithFold rest name = startsWithFold (rest.take i) name := by
  have hcrlf := find?_prefix h
  obtain ⟨ys, hys⟩ := crlf_isPrefixOf_iff.1 hcrlf
  calc startsWithFold rest name = startsWithFold (rest.take i ++ 13 :: 10 :: ys) name := by
        rw [← hys, List.take_append_drop]
    _ = startsWithFold (rest.take i) name := startsWithFold_append_cr hname.2 _ _

/-! ## Scanning the lines -/

/-- The scan from a line start finds a line that begins with the name exactly when one of the lines from there on
does. The induction follows the scan, one line at a time. -/
theorem scanRest_isSome {name : List UInt8} (hname : LineName name) (rest : List UInt8) (s : Nat) :
    (scanRest name rest s).isSome = (splitLines rest).any (startsWithFold · name) := by
  cases rest with
  | nil => simp [scanRest, splitLines, startsWithFold_nil hname]
  | cons b bs =>
    rw [scanRest, splitLines_eq]
    by_cases hw : startsWithFold (b :: bs) name
    · rw [if_pos hw]
      cases hf : find? crlf (b :: bs) with
      | none => simp [hw]
      | some i => simp [← startsWithFold_line hname hf, hw]
    · rw [if_neg hw]
      cases hf : find? crlf (b :: bs) with
      | none => simp [hw]
      | some i =>
        have hlt : ((b :: bs).drop (i + 2)).length < (b :: bs).length := by
          simp only [List.length_drop, List.length_cons]
          omega
        dsimp only
        rw [scanRest_isSome hname _ _]
        simp [← startsWithFold_line hname hf, hw]
termination_by rest.length

/-- A search that resumes at a line ending goes on at the line after it. -/
theorem findHeaderLine_crlf {head name : List UInt8} (hname : LineName name) {q : Nat} (hq : q ≠ 0)
    (hcrlf : crlf.isPrefixOf (head.drop q) = true) :
    findHeaderLine head name q = scanLines head name (q + 2) := by
  obtain ⟨ys, hys⟩ := crlf_isPrefixOf_iff.1 hcrlf
  have hfind : find? crlf (head.drop q) = some 0 := by rw [hys]; rfl
  have hskip : scanLines head name q = scanLines head name (q + 2) := by
    obtain ⟨p, ps, hps⟩ := List.exists_cons_of_ne_nil hname.1
    have hnot : startsWithFold (13 :: 10 :: ys) name = false := by
      rw [← List.nil_append (13 :: 10 :: ys), startsWithFold_append_cr hname.2, startsWithFold_nil hname]
    unfold scanLines
    rw [hys, scanRest, if_neg (by simp [hnot]), ← hys, hfind]
    simp [List.drop_drop]
  unfold findHeaderLine resumeAt
  rw [if_neg hq]
  split
  · exact hskip
  · rw [hfind]
    rfl

theorem findHeaderLine_of_length_le {head name : List UInt8} {q : Nat} (hq : head.length ≤ q) :
    findHeaderLine head name q = none := by
  have hdrop : head.drop q = [] := List.drop_eq_nil_of_le hq
  unfold findHeaderLine resumeAt
  split
  · rename_i h0
    subst h0
    rw [List.length_eq_zero_iff.1 (Nat.le_zero.1 hq)]
    rfl
  · split
    · simp [scanLines, hdrop, scanRest]
    · rw [hdrop]
      rfl

/-! ## Content-Length lines -/

/-- A Content-Length value as the reference reads it: one or more ASCII digits whose decimal value fits in 64 bits. -/
def isCount (v : List UInt8) : Bool := !v.isEmpty && v.all isDigit && decide (decimalValue v ≤ maxLength)

/-- What the Content-Length lines among `lines` declare, read in order, given what the lines before declared: the
first value that is not a count, or the first that differs from the first value, decides an error. -/
def declaredLength : List (List UInt8) → Option Nat → Except FrameError (Option Nat)
  | [], declared => .ok declared
  | l :: ls, declared =>
    if startsWithFold l contentLengthName then
      let v := dropBlank (l.drop contentLengthName.length)
      if isCount v then
        match declared with
        | none => declaredLength ls (some (decimalValue v))
        | some n => if n = decimalValue v then declaredLength ls declared else .error .conflictingContentLength
      else .error .invalidContentLength
    else declaredLength ls declared

theorem le_foldl_decimal (v : List UInt8) (n : Nat) : n ≤ v.foldl (fun n b => n * 10 + (b.toNat - 48)) n := by
  induction v generalizing n with
  | nil => exact Nat.le_refl n
  | cons b v ih => exact Nat.le_trans (by omega) (ih (n * 10 + (b.toNat - 48)))

/-- The checked fold gives the plain decimal fold whenever every octet is a digit and the result is in range. Since the
running value only grows, a step out of range means the result is out of range. -/
theorem foldl_stepDigit_some (v : List UInt8) (n : Nat) (hn : n ≤ maxLength) :
    v.foldl stepDigit (some n) =
      if v.all isDigit ∧ v.foldl (fun n b => n * 10 + (b.toNat - 48)) n ≤ maxLength then
        some (v.foldl (fun n b => n * 10 + (b.toNat - 48)) n)
      else none := by
  induction v generalizing n with
  | nil => simp [hn]
  | cons b v ih =>
    simp only [List.foldl_cons, List.all_cons, Bool.and_eq_true]
    by_cases hb : isDigit b
    · by_cases hm : n * 10 + (b.toNat - 48) ≤ maxLength
      · have hstep : stepDigit (some n) b = some (n * 10 + (b.toNat - 48)) := by simp [stepDigit, hb, hm]
        rw [hstep, ih _ hm]
        simp [hb]
      · have hstep : stepDigit (some n) b = none := by simp [stepDigit, hb, hm]
        have hgrow := le_foldl_decimal v (n * 10 + (b.toNat - 48))
        rw [hstep, foldl_stepDigit_none, if_neg]
        rintro ⟨_, hle⟩
        omega
    · have hstep : stepDigit (some n) b = none := by simp [stepDigit, hb]
      rw [hstep, foldl_stepDigit_none, if_neg]
      simp [hb]

theorem readLength_eq (v : List UInt8) : readLength v = if isCount v then some (decimalValue v) else none := by
  cases v with
  | nil => rfl
  | cons b v =>
    unfold readLength isCount decimalValue
    rw [foldl_stepDigit_some _ 0 (Nat.zero_le _)]
    simp

theorem declaredLength_cons_of_not {l : List UInt8} (hl : startsWithFold l contentLengthName = false)
    (ls : List (List UInt8)) (declared : Option Nat) : declaredLength (l :: ls) declared = declaredLength ls declared := by
  simp [declaredLength, hl]

/-- The scan's treatment of one Content-Length line, with `next` going on after it, is the reference's. -/
theorem declaredLength_cons_of_name {l : List UInt8} (hl : startsWithFold l contentLengthName = true)
    (ls : List (List UInt8)) (declared : Option Nat) (next : Nat → Except FrameError (Option Nat))
    (hnext : ∀ n, next n = declaredLength ls (some n)) :
    (match readLength (dropBlank (l.drop contentLengthName.length)) with
      | none => .error .invalidContentLength
      | some n =>
        match declared with
        | some previous => if previous ≠ n then .error .conflictingContentLength else next n
        | none => next n) = declaredLength (l :: ls) declared := by
  rw [readLength_eq, declaredLength, if_pos hl]
  by_cases hc : isCount (dropBlank (l.drop contentLengthName.length))
  · simp only [hc, if_true]
    cases declared with
    | none => exact hnext _
    | some m =>
      by_cases hm : m = decimalValue (dropBlank (l.drop contentLengthName.length))
      · simp [hm, hnext]
      · simp [hm]
  · simp [hc]

theorem go_of_findHeaderLine_none {head : List UInt8} {after : Nat} (h : findHeaderLine head contentLengthName after = none)
    (declared : Option Nat) : contentLength.go head after declared = .ok declared := by
  rw [contentLength.go]
  split
  · rfl
  · rename_i heq
    rw [h] at heq
    cases heq

/-- The Content-Length scan, resumed so that its next search starts at the line that begins at offset `p`, reads the
lines from there on as the reference does. The induction is on the head after `p`: each step passes one line, a
Content-Length line through its value and its line ending, any other line through its line ending. -/
theorem go_eq (head : List UInt8) (after p : Nat) (declared : Option Nat)
    (hfind : findHeaderLine head contentLengthName after = scanLines head contentLengthName p) :
    contentLength.go head after declared = declaredLength (splitLines (head.drop p)) declared := by
  have hname := lineName_contentLength
  cases hr : head.drop p with
  | nil =>
    have hnone : findHeaderLine head contentLengthName after = none := by
      rw [hfind, scanLines, hr, scanRest]
    rw [go_of_findHeaderLine_none hnone, splitLines, declaredLength_cons_of_not (startsWithFold_nil hname)]
    rfl
  | cons b bs =>
    have hlen : head.length = p + (bs.length + 1) := by
      have := congrArg List.length hr
      simp only [List.length_drop, List.length_cons] at this
      omega
    have hdrop : ∀ k, head.drop (p + k) = (b :: bs).drop k := fun k => by rw [← hr, List.drop_drop]
    by_cases hw : startsWithFold (b :: bs) contentLengthName
    · -- a Content-Length line: its value runs to its line ending, and the scan resumes there
      have hstart : findHeaderLine head contentLengthName after = some p := by
        rw [hfind, scanLines, hr, scanRest, if_pos hw]
      rw [contentLength.go]
      split
      · rename_i heq
        rw [hstart] at heq
        cases heq
      · rename_i start heq
        rw [hstart] at heq
        cases heq
        rw [splitLines_eq]
        cases hf : find? crlf (b :: bs) with
        | none =>
          -- the line runs to the end of the head
          have hend : valueEnd head (p + contentLengthName.length) = head.length := by
            unfold valueEnd
            rw [hdrop, find?_drop_of_none _ hf]
          have htext : (head.drop (p + contentLengthName.length)).take
              (head.length - (p + contentLengthName.length)) = (b :: bs).drop contentLengthName.length := by
            rw [hdrop]
            apply List.take_of_length_le
            simp only [List.length_drop, List.length_cons]
            omega
          dsimp only
          rw [hend, htext]
          refine declaredLength_cons_of_name hw [] declared (fun n => contentLength.go head head.length (some n)) ?_
          intro n
          rw [go_of_findHeaderLine_none (findHeaderLine_of_length_le (Nat.le_refl _))]
          rfl
        | some i =>
          have hline : startsWithFold ((b :: bs).take i) contentLengthName = true := by
            rw [← startsWithFold_line hname hf]
            exact hw
          have hL : contentLengthName.length ≤ i := by
            have := length_le_of_startsWithFold hline
            simp only [List.length_take, List.length_cons] at this
            omega
          have hLpos : 0 < contentLengthName.length := List.length_pos_iff.2 hname.1
          have hend : valueEnd head (p + contentLengthName.length) = p + i := by
            unfold valueEnd
            rw [hdrop, find?_drop_of_le hf hL]
            dsimp only
            omega
          have htext : (head.drop (p + contentLengthName.length)).take (p + i - (p + contentLengthName.length)) =
              ((b :: bs).take i).drop contentLengthName.length := by
            rw [hdrop, List.drop_take]
            congr 1
            omega
          have hnext : findHeaderLine head contentLengthName (p + i) = scanLines head contentLengthName (p + i + 2) := by
            refine findHeaderLine_crlf hname (by omega) ?_
            rw [hdrop]
            exact find?_prefix hf
          have hdec : head.length - (p + i + 2) < head.length - p := by
            have := find?_add_length_le (by decide) hf
            simp only [crlf, List.length_cons, List.length_nil] at this
            omega
          dsimp only
          rw [hend, htext]
          refine declaredLength_cons_of_name hline _ declared (fun n => contentLength.go head (p + i) (some n)) ?_
          intro n
          rw [go_eq head (p + i) (p + i + 2) (some n) hnext, Nat.add_assoc, hdrop]
    · -- any other line: the search passes over it
      have hw' : startsWithFold (b :: bs) contentLengthName = false := by simpa using hw
      cases hf : find? crlf (b :: bs) with
      | none =>
        have hnone : findHeaderLine head contentLengthName after = none := by
          rw [hfind, scanLines, hr, scanRest, if_neg hw, hf]
        rw [go_of_findHeaderLine_none hnone, splitLines_eq, hf]
        dsimp only
        rw [declaredLength_cons_of_not hw']
        rfl
      | some i =>
        have hnext : findHeaderLine head contentLengthName after = scanLines head contentLengthName (p + i + 2) := by
          rw [hfind, scanLines, hr, scanRest, if_neg hw, hf]
          dsimp only
          rw [scanLines, Nat.add_assoc, hdrop]
        have hdec : head.length - (p + i + 2) < head.length - p := by
          have := find?_add_length_le (by decide) hf
          simp only [crlf, List.length_cons, List.length_nil] at this
          omega
        rw [go_eq head after (p + i + 2) declared hnext, Nat.add_assoc, hdrop, splitLines_eq (b :: bs), hf]
        dsimp only
        rw [declaredLength_cons_of_not (by rw [← startsWithFold_line hname hf]; exact hw')]
termination_by head.length - p

/-! ## The head, line by line -/

/-- The framer's Transfer-Encoding test looks for a line after the request line that begins with the name. -/
theorem findHeaderLine_isSome {name : List UInt8} (hname : LineName name) (head : List UInt8) :
    (findHeaderLine head name 0).isSome = ((splitLines head).drop 1).any (startsWithFold · name) := by
  rw [splitLines_eq]
  cases hf : find? crlf head with
  | none => simp [findHeaderLine, resumeAt, hf]
  | some i =>
    simp only [findHeaderLine, resumeAt, if_pos, hf, Option.map_some, Option.bind_some, scanLines, List.drop_succ_cons,
      List.drop_zero]
    exact scanRest_isSome hname _ _

/-- The framer's Content-Length scan reads the lines after the request line as the reference does. -/
theorem contentLength_eq (head : List UInt8) :
    contentLength head = declaredLength ((splitLines head).drop 1) none := by
  unfold contentLength
  rw [splitLines_eq]
  cases hf : find? crlf head with
  | none =>
    rw [go_of_findHeaderLine_none (by simp [findHeaderLine, resumeAt, hf])]
    rfl
  | some i => exact go_eq head 0 (i + 2) none (by simp [findHeaderLine, resumeAt, hf])

/-- The verdict on a buffer read line by line. The head ends just past the first CRLFCRLF; its lines after the request
line are the header lines. A line that begins with `transfer-encoding:`, ignoring ASCII case, is refused; otherwise
the lines that begin with `content-length:` declare the body's length, and with no such line nothing may follow the
head. -/
def lineVerdict (buf : List UInt8) : Frame :=
  match find? terminator buf with
  | none => .incomplete
  | some t =>
    let h := t + 4
    let fields := (splitLines (buf.take h)).drop 1
    if fields.any (startsWithFold · transferEncodingName) then .malformed .transferEncoding
    else
      match declaredLength fields none with
      | .error e => .malformed e
      | .ok none => if h = buf.length then .complete h h else .malformed .bodyWithoutLength
      | .ok (some n) => if buf.length - h < n then .incomplete else .complete h (h + n)

/-- The framer's verdict is the line-by-line verdict, on every buffer. -/
theorem evaluate_eq_lineVerdict (buf : List UInt8) : evaluate buf = lineVerdict buf := by
  unfold evaluate lineVerdict
  cases find? terminator buf with
  | none => rfl
  | some t =>
    dsimp only
    rewrite [terminator_length, findHeaderLine_isSome lineName_transferEncoding, contentLength_eq]
    -- the two sides differ at most in the names of their match functions, which `rfl` unfolds
    rfl

example : lineVerdict (ofString "GET / HTTP/1.1\r\nContent-Length: 2\r\n\r\nab") = .complete 37 39 := by
  decide +kernel

end Framing

end HttpReactor
