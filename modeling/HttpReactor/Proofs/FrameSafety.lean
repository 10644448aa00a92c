import HttpReactor.Proofs.ConnectionInvariant
import HttpReactor.Proofs.Boundary
import Mathlib.Algebra.Order.BigOperators.Group.List
import Mathlib.Algebra.Order.Group.Nat
/-!
# The framer on machine words

The framer computes with offsets into the buffer. On a machine each offset is a 64-bit word, each `+` and `-` on
words can leave the range of a word, and each slice `xs[lo..hi]` is checked against the bounds of `xs`. The
`Checked` functions here are the framer written that way, operation for operation: every slice checks its bounds,
every sum and difference of offsets and counts checks that it is a word, and a failed check is a `Fault` that stops the
run.

On every buffer whose length is a word the checked framer never faults and gives the framer's verdict
(`Checked.evaluate_eq`). The checks hold for reasons spread over the functions: a header line is only found where its
name fits in the head, so the value that follows starts inside it; the head ends in CRLFCRLF, so the value's line
ending is found; a resumed search starts at the end of a value, inside the head; and the sum of the head's end and the
declared length is only taken once the buffer is known to hold that many octets after the head.

Main statement: `framer_safe`, which adds the offsets of a complete request and the pipelining loop's progress.
-/

namespace HttpReactor

namespace Framing

open Octets

/-! ## Words and slices -/

/-- Why a run on machine words stops. -/
inductive Fault where
  /-- A slice bound lies outside the octets sliced. -/
  | sliceOutOfRange
  /-- A sum is larger than the largest word. -/
  | overflow
  /-- A difference is below zero. -/
  | underflow
  deriving DecidableEq, Repr

namespace Checked

/-- `a + b` on words. -/
def add (a b : Nat) : Except Fault Nat :=
  if a + b ≤ maxLength then .ok (a + b) else .error .overflow

/-- `a - b` on words. -/
def sub (a b : Nat) : Except Fault Nat :=
  if b ≤ a then .ok (a - b) else .error .underflow

/-- `xs[lo..]`. -/
def sliceFrom (xs : List UInt8) (lo : Nat) : Except Fault (List UInt8) :=
  if lo ≤ xs.length then .ok (xs.drop lo) else .error .sliceOutOfRange

/-- `xs[..hi]`. -/
def sliceTo (xs : List UInt8) (hi : Nat) : Except Fault (List UInt8) :=
  if hi ≤ xs.length then .ok (xs.take hi) else .error .sliceOutOfRange

/-- `xs[lo..hi]`. -/
def slice (xs : List UInt8) (lo hi : Nat) : Except Fault (List UInt8) :=
  if lo ≤ hi ∧ hi ≤ xs.length then .ok ((xs.drop lo).take (hi - lo)) else .error .sliceOutOfRange

section Monad

variable {α β : Type} {x : Except Fault α} {f : α → Except Fault β} {g : α → β} {b : β}

@[simp] theorem pure_eq_ok (a : α) : (pure a : Except Fault α) = .ok a := rfl

@[simp] theorem ok_bind (a : α) : (Except.ok a >>= f) = f a := rfl

@[simp] theorem ok_map (a : α) : (g <$> (Except.ok a : Except Fault α)) = .ok (g a) := rfl

/-- A run that gets past a step got a value from it. -/
theorem bind_eq_ok : x >>= f = .ok b ↔ ∃ a, x = .ok a ∧ f a = .ok b := by
  cases x <;> simp [bind, Except.bind]

theorem map_eq_ok : g <$> x = .ok b ↔ ∃ a, x = .ok a ∧ g a = b := by
  cases x <;> simp [Functor.map, Except.map]

end Monad

theorem add_eq_ok {a b c : Nat} : add a b = .ok c ↔ a + b ≤ maxLength ∧ c = a + b := by
  by_cases h : a + b ≤ maxLength
  · simp [add, h, eq_comm]
  · simp [add, h]

theorem add_of_le {a b : Nat} (h : a + b ≤ maxLength) : add a b = .ok (a + b) := if_pos h

theorem sub_of_le {a b : Nat} (h : b ≤ a) : sub a b = .ok (a - b) := if_pos h

theorem sliceFrom_of_le {xs : List UInt8} {lo : Nat} (h : lo ≤ xs.length) : sliceFrom xs lo = .ok (xs.drop lo) :=
  if_pos h

theorem sliceTo_of_le {xs : List UInt8} {hi : Nat} (h : hi ≤ xs.length) : sliceTo xs hi = .ok (xs.take hi) :=
  if_pos h

theorem slice_of_le {xs : List UInt8} {lo hi : Nat} (h : lo ≤ hi) (h' : hi ≤ xs.length) :
    slice xs lo hi = .ok ((xs.drop lo).take (hi - lo)) :=
  if_pos ⟨h, h'⟩

/-! ## The header search -/

/-- Whether `rest` begins with `name`, ignoring ASCII case: its length is compared first, so the prefix sliced for the
comparison is inside `rest`. -/
def startsWithName (rest name : List UInt8) : Except Fault Bool :=
  if name.length ≤ rest.length then (eqIgnoreCase · name) <$> sliceTo rest name.length else .ok false

/-- The start of the line after the line at `lineStart`, whose octets from its start on are `rest`: past the first
line ending in `rest`, or `none` if `rest` has none. -/
def nextLine (lineStart : Nat) (rest : List UInt8) : Except Fault (Option Nat) :=
  match find? crlf rest with
  | none => .ok none
  | some i => do
    let step ← add i crlf.length
    some <$> add lineStart step

theorem lt_of_nextLine {lineStart n : Nat} {rest : List UInt8} (h : nextLine lineStart rest = .ok (some n)) :
    lineStart < n := by
  unfold nextLine at h
  split at h
  · cases h
  · rename_i i _
    obtain ⟨step, hstep, h⟩ := bind_eq_ok.1 h
    obtain ⟨next, hnext, hn⟩ := map_eq_ok.1 h
    cases hn
    rw [(add_eq_ok.1 hnext).2, (add_eq_ok.1 hstep).2]
    simp [crlf]

/-- The line loop of the header search: from the line at `lineStart` on, the start of the first line of `head` that
begins with `name`. -/
def scan (head name : List UInt8) (lineStart : Nat) : Except Fault (Option Nat) :=
  if lineStart < head.length then do
    let rest ← sliceFrom head lineStart
    if ← startsWithName rest name then return some lineStart
    match _hnext : nextLine lineStart rest with
    | .error f => .error f
    | .ok none => return none
    | .ok (some next) => scan head name next
  else .ok none
termination_by head.length - lineStart
decreasing_by
  have := lt_of_nextLine _hnext
  omega

/-- The name test never faults: the length comparison guards the slice. It is the framer's prefix test. -/
theorem startsWithName_eq (rest name : List UInt8) : startsWithName rest name = .ok (startsWithFold rest name) := by
  unfold startsWithName
  by_cases hl : name.length ≤ rest.length
  · rw [if_pos hl, sliceTo_of_le hl, ok_map]
    congr 1
    exact Bool.eq_iff_iff.2 (eqIgnoreCase_iff.trans (startsWithFold_iff rest name).symm)
  · rw [if_neg hl]
    congr 1
    exact (Bool.eq_false_iff.2 fun hw => hl (length_le_of_startsWithFold hw)).symm

/-- Jumping past a line ending never overflows when the line lies inside a word-sized head. -/
theorem nextLine_eq {lineStart : Nat} {rest : List UInt8} (h : lineStart + rest.length ≤ maxLength) :
    nextLine lineStart rest = .ok ((find? crlf rest).map fun i => lineStart + i + 2) := by
  unfold nextLine
  split
  · rename_i hf
    rw [hf]
    rfl
  · rename_i i hf
    have hi : i + crlf.length ≤ rest.length := find?_add_length_le (by decide) hf
    rw [hf, add_of_le (by omega), ok_bind, add_of_le (by omega)]
    rfl

/-- The checked line loop never faults on a word-sized head and finds the line the framer finds. The recursion is the
loop's own: each turn starts one line further on. -/
theorem scan_eq {head : List UInt8} (hhead : head.length ≤ maxLength) (name : List UInt8) (s : Nat) :
    scan head name s = .ok (scanLines head name s) := by
  rw [scan]
  by_cases hlt : s < head.length
  · obtain ⟨b, bs, hbs⟩ : ∃ b bs, head.drop s = b :: bs := List.exists_cons_of_ne_nil (by simp; omega)
    have hrest : s + (b :: bs).length ≤ maxLength := by
      rw [← hbs, List.length_drop]
      omega
    rw [if_pos hlt, sliceFrom_of_le (Nat.le_of_lt hlt), ok_bind, hbs, startsWithName_eq, ok_bind, scanLines, hbs,
      scanRest]
    by_cases hw : startsWithFold (b :: bs) name
    · simp [hw]
    · simp only [hw, Bool.false_eq_true, if_false]
      split
      · rename_i f hf
        rw [nextLine_eq hrest] at hf
        cases hf
      · rename_i hf
        rw [nextLine_eq hrest] at hf
        cases hi : find? crlf (b :: bs) with
        | none => rfl
        | some i => simp [hi] at hf
      · rename_i next hf
        rw [nextLine_eq hrest] at hf
        cases hi : find? crlf (b :: bs) with
        | none => simp [hi] at hf
        | some i =>
          simp only [hi, Option.map_some, Except.ok.injEq, Option.some.injEq] at hf
          subst hf
          dsimp only
          rw [scan_eq hhead name (s + i + 2), scanLines, ← hbs, List.drop_drop, Nat.add_assoc]
  · rw [if_neg hlt, scanLines, List.drop_eq_nil_of_le (by omega), scanRest]
termination_by head.length - s
decreasing_by omega

theorem le_of_scan {head name : List UInt8} {s r : Nat} (h : scan head name s = .ok (some r)) : s ≤ r := by
  rw [scan] at h
  split at h
  · obtain ⟨rest, -, h⟩ := bind_eq_ok.1 h
    obtain ⟨c, -, h⟩ := bind_eq_ok.1 h
    split at h
    · cases h
      exact Nat.le_refl s
    · split at h
      · cases h
      · cases h
      · rename_i next hnext
        have hlt := lt_of_nextLine hnext
        exact Nat.le_trans (Nat.le_of_lt hlt) (le_of_scan h)
  · cases h
termination_by head.length - s
decreasing_by omega

/-- Where the header search starts: past the request line when `after` is zero, at `after` when a line ends just before
it, and otherwise past the first line ending from `after` on. -/
def resume (head : List UInt8) (after : Nat) : Except Fault (Option Nat) :=
  if after = 0 then
    match find? crlf head with
    | none => .ok none
    | some i => some <$> add i crlf.length
  else do
    let before ← sliceTo head after
    if crlf.isSuffixOf before then return some after
    let rest ← sliceFrom head after
    match find? crlf rest with
    | none => return none
    | some i => do
      let j ← add after i
      some <$> add j crlf.length

/-- The start of the first header line at or after `after` that begins with `name`. -/
def findHeaderLine (head name : List UInt8) (after : Nat) : Except Fault (Option Nat) := do
  match ← resume head after with
  | none => return none
  | some lineStart => scan head name lineStart

theorem le_of_resume {head : List UInt8} {after s : Nat} (h : resume head after = .ok (some s)) : after ≤ s := by
  unfold resume at h
  split at h
  · omega
  · obtain ⟨before, -, h⟩ := bind_eq_ok.1 h
    split at h
    · cases h
      exact Nat.le_refl after
    · obtain ⟨rest, -, h⟩ := bind_eq_ok.1 h
      split at h
      · cases h
      · obtain ⟨j, hj, h⟩ := bind_eq_ok.1 h
        obtain ⟨k, hk, hs⟩ := map_eq_ok.1 h
        cases hs
        rw [(add_eq_ok.1 hk).2, (add_eq_ok.1 hj).2]
        omega

theorem le_of_findHeaderLine {head name : List UInt8} {after r : Nat}
    (h : findHeaderLine head name after = .ok (some r)) : after ≤ r := by
  obtain ⟨s?, hs, h⟩ := bind_eq_ok.1 h
  cases s? with
  | none => cases h
  | some s => exact Nat.le_trans (le_of_resume hs) (le_of_scan h)

/-- The start of the search never faults when it resumes inside a word-sized head, and it is the framer's. -/
theorem resume_eq {head : List UInt8} (hhead : head.length ≤ maxLength) {after : Nat} (hafter : after ≤ head.length) :
    resume head after = .ok (resumeAt head after) := by
  unfold resume resumeAt
  by_cases h0 : after = 0
  · rw [if_pos h0, if_pos h0]
    cases hf : find? crlf head with
    | none => rfl
    | some i =>
      have hi : i + crlf.length ≤ head.length := find?_add_length_le (by decide) hf
      dsimp only
      rw [add_of_le (by omega)]
      rfl
  · rw [if_neg h0, if_neg h0, sliceTo_of_le hafter, ok_bind]
    by_cases hend : crlf.isSuffixOf (head.take after) = true
    · simp [hend]
    · simp only [hend, Bool.false_eq_true, if_false, sliceFrom_of_le hafter, ok_bind]
      cases hf : find? crlf (head.drop after) with
      | none => rfl
      | some i =>
        have hi : i + crlf.length ≤ (head.drop after).length := find?_add_length_le (by decide) hf
        simp only [List.length_drop] at hi
        dsimp only
        rw [add_of_le (by omega), ok_bind, add_of_le (by omega)]
        rfl

/-- The header search never faults when it resumes inside a word-sized head, and it finds the framer's line. -/
theorem findHeaderLine_eq {head : List UInt8} (hhead : head.length ≤ maxLength) (name : List UInt8) {after : Nat}
    (hafter : after ≤ head.length) :
    findHeaderLine head name after = .ok (Framing.findHeaderLine head name after) := by
  unfold findHeaderLine Framing.findHeaderLine
  rw [resume_eq hhead hafter, ok_bind]
  cases resumeAt head after with
  | none => rfl
  | some s => exact scan_eq hhead name s

/-! ## The Content-Length value -/

theorem contentLengthName_length : contentLengthName.length = 15 := by decide +kernel

/-- One octet of a Content-Length value, on words. The running value is multiplied and then added to with overflow
checks, and is refused (`none`) when either overflows; the digit's value is an octet difference, taken once the octet is
known to be a digit and the product a word. A refused value stays refused. -/
def digit (acc : Option Nat) (b : UInt8) : Except Fault (Option Nat) :=
  match acc with
  | none => .ok none
  | some n =>
    if isDigit b then
      if n * 10 ≤ maxLength then do
        let d ← sub b.toNat 48
        return if n * 10 + d ≤ maxLength then some (n * 10 + d) else none
      else .ok none
    else .ok none

/-- The count a Content-Length value gives, on words, or `none` if it gives none. -/
def parseLength (v : List UInt8) : Except Fault (Option Nat) :=
  if v.isEmpty then .ok none else v.foldlM digit (some 0)

theorem digit_eq (acc : Option Nat) (b : UInt8) : digit acc b = .ok (stepDigit acc b) := by
  cases acc with
  | none => rfl
  | some n =>
    unfold digit stepDigit
    by_cases hd : isDigit b = true
    · -- the test keeps the octet difference from going below zero, and a product past the word is a sum past it
      have h48 := (isDigit_toNat hd).1
      simp only [hd, if_true, Option.bind_some]
      by_cases hmul : n * 10 ≤ maxLength
      · rw [if_pos hmul, sub_of_le h48, ok_bind]
        rfl
      · rw [if_neg hmul, if_neg (by omega)]
    · simp [hd]

/-- Reading a Content-Length value never faults, and gives the framer's count. -/
theorem parseLength_eq (v : List UInt8) : parseLength v = .ok (readLength v) := by
  have hfold : ∀ (v : List UInt8) (acc : Option Nat), v.foldlM digit acc = .ok (v.foldl stepDigit acc) := by
    intro v
    induction v with
    | nil => intro acc; rfl
    | cons b v ih =>
      intro acc
      rw [List.foldlM_cons, digit_eq, ok_bind, ih]
      rfl
  unfold parseLength readLength
  split
  · rfl
  · exact hfold v (some 0)

/-- The offset of the line ending after the value that starts at `valueStart`, or the end of the head if none
follows. -/
def valueEnd (head : List UInt8) (valueStart : Nat) : Except Fault Nat := do
  let rest ← sliceFrom head valueStart
  match find? crlf rest with
  | none => return head.length
  | some i => add valueStart i

/-- The value of the Content-Length line that starts at `start`: the offset of the line ending after it, or the end of
the head if none follows, and the count the value gives, `none` if it gives none. -/
def readValue (head : List UInt8) (start : Nat) : Except Fault (Nat × Option Nat) := do
  let valueStart ← add start contentLengthName.length
  let lineEnd ← valueEnd head valueStart
  let value ← slice head valueStart lineEnd
  let n ← parseLength (dropBlank value)
  return (lineEnd, n)

theorem le_of_valueEnd {head : List UInt8} {valueStart lineEnd : Nat} (h : valueEnd head valueStart = .ok lineEnd) :
    valueStart ≤ lineEnd ∧ valueStart ≤ head.length := by
  obtain ⟨rest, hrest, h⟩ := bind_eq_ok.1 h
  have hin : valueStart ≤ head.length := by
    unfold sliceFrom at hrest
    split at hrest
    · assumption
    · cases hrest
  split at h
  · cases h
    exact ⟨hin, hin⟩
  · rw [(add_eq_ok.1 h).2]
    exact ⟨Nat.le_add_right _ _, hin⟩

/-- A value is read only from a line that starts inside the head, and it ends after the line's start. -/
theorem lt_of_readValue {head : List UInt8} {start lineEnd : Nat} {n : Option Nat}
    (h : readValue head start = .ok (lineEnd, n)) : start < lineEnd ∧ start < head.length := by
  obtain ⟨valueStart, hvs, h⟩ := bind_eq_ok.1 h
  obtain ⟨e, he, h⟩ := bind_eq_ok.1 h
  obtain ⟨value, -, h⟩ := bind_eq_ok.1 h
  obtain ⟨m, -, h⟩ := bind_eq_ok.1 h
  cases h
  have hvs' := (add_eq_ok.1 hvs).2
  have := le_of_valueEnd he
  rw [contentLengthName_length] at hvs'
  omega

/-- Finding the end of a value that starts inside a word-sized head never faults, and it is the framer's. -/
theorem valueEnd_eq {head : List UInt8} (hhead : head.length ≤ maxLength) {valueStart : Nat}
    (hv : valueStart ≤ head.length) : valueEnd head valueStart = .ok (Framing.valueEnd head valueStart) := by
  unfold valueEnd Framing.valueEnd
  rw [sliceFrom_of_le hv, ok_bind]
  cases hf : find? crlf (head.drop valueStart) with
  | none => rfl
  | some i =>
    have hi : i + crlf.length ≤ (head.drop valueStart).length := find?_add_length_le (by decide) hf
    simp only [List.length_drop] at hi
    exact add_of_le (by omega)

/-- Reading the value of a Content-Length line whose name fits in a word-sized head never faults: the value starts
inside the head, and the line ending found after it bounds it. -/
theorem readValue_eq {head : List UInt8} (hhead : head.length ≤ maxLength) {start : Nat}
    (hstart : start + contentLengthName.length ≤ head.length) :
    readValue head start =
      .ok (Framing.valueEnd head (start + contentLengthName.length),
        readLength (dropBlank ((head.drop (start + contentLengthName.length)).take
          (Framing.valueEnd head (start + contentLengthName.length) - (start + contentLengthName.length))))) := by
  have hend := valueEnd_le hstart
  unfold readValue
  rw [add_of_le (by omega), ok_bind, valueEnd_eq hhead hstart, ok_bind, slice_of_le hend.1 hend.2, ok_bind,
    parseLength_eq, ok_bind]
  rfl

/-! ## The declared length and the verdict -/

/-- The declared body length of a head, on words: the count of its Content-Length lines, which must all agree, or
`none` if it has none. A fault stops the run; a refused value or a conflict is the framer's own error. -/
def contentLength (head : List UInt8) : Except Fault (Except FrameError (Option Nat)) :=
  go 0 none
where
  /-- Reads the Content-Length lines after offset `after`, given the count declared so far. -/
  go (after : Nat) (declared : Option Nat) : Except Fault (Except FrameError (Option Nat)) :=
    match _hs : findHeaderLine head contentLengthName after with
    | .error f => .error f
    | .ok none => .ok (.ok declared)
    | .ok (some start) =>
      match _hv : readValue head start with
      | .error f => .error f
      | .ok (_, none) => .ok (.error .invalidContentLength)
      | .ok (lineEnd, some n) =>
        match declared with
        | some previous => if previous ≠ n then .ok (.error .conflictingContentLength) else go lineEnd (some n)
        | none => go lineEnd (some n)
  termination_by head.length - after
  decreasing_by
    all_goals
      have := le_of_findHeaderLine _hs
      have := lt_of_readValue _hv
      omega

/-- The framer's verdict on a buffer, on words. -/
def evaluate (buf : List UInt8) : Except Fault Frame :=
  match find? terminator buf with
  | none => .ok .incomplete
  | some t => do
    let headerEnd ← add t terminator.length
    let head ← sliceTo buf headerEnd
    if (← findHeaderLine head transferEncodingName 0).isSome then return .malformed .transferEncoding
    match ← contentLength head with
    | .error e => return .malformed e
    | .ok none =>
      return if headerEnd = buf.length then .complete headerEnd headerEnd else .malformed .bodyWithoutLength
    | .ok (some n) =>
      if 0 < n ∧ buf.length ≤ headerEnd then return .incomplete
      let avail ← sub buf.length headerEnd
      if avail < n then return .incomplete
      let finish ← add headerEnd n
      return .complete headerEnd finish

/-- A Content-Length line that the search finds has room for its name in the head, so its value starts inside it. -/
theorem contentLength_line_fits {head : List UInt8} {after start : Nat}
    (h : Framing.findHeaderLine head contentLengthName after = some start) :
    after ≤ start ∧ start + contentLengthName.length ≤ head.length := by
  obtain ⟨hge, hw⟩ := findHeaderLine_ge h
  have hroom := length_le_of_startsWithFold hw
  simp only [List.length_drop] at hroom
  have hname := contentLengthName_length
  omega

/-- The Content-Length loop never faults on a word-sized head, from any resume point inside it, and it declares what
the framer declares. The induction follows the loop: each turn resumes at the end of the value it read, which lies
inside the head, so the next turn's searches are in range too. -/
theorem go_eq {head : List UInt8} (hhead : head.length ≤ maxLength) {after : Nat} (hafter : after ≤ head.length)
    (declared : Option Nat) :
    contentLength.go head after declared = .ok (Framing.contentLength.go head after declared) := by
  have hfind := findHeaderLine_eq hhead contentLengthName hafter
  rw [Framing.contentLength.go]
  split
  · -- no Content-Length line left: both loops stop with what was declared
    rename_i hnone
    rw [contentLength.go]
    split
    · rename_i f hf
      rw [hfind, hnone] at hf
      cases hf
    · rfl
    · rename_i start hf
      rw [hfind, hnone] at hf
      cases hf
  · rename_i start hstart
    obtain ⟨hge, hfit⟩ := contentLength_line_fits hstart
    have hname := contentLengthName_length
    have hend := valueEnd_le hfit
    rw [contentLength.go]
    split
    · rename_i f hf
      rw [hfind, hstart] at hf
      cases hf
    · rename_i hf
      rw [hfind, hstart] at hf
      cases hf
    · rename_i start' hf
      rw [hfind, hstart] at hf
      cases hf
      split
      · rename_i f hv
        rw [readValue_eq hhead hfit] at hv
        cases hv
      · rename_i lineEnd hv
        rw [readValue_eq hhead hfit, Except.ok.injEq, Prod.mk.injEq] at hv
        dsimp only
        rw [hv.2]
      · rename_i lineEnd n hv
        rw [readValue_eq hhead hfit, Except.ok.injEq, Prod.mk.injEq] at hv
        obtain ⟨rfl, hn⟩ := hv
        dsimp only
        rw [hn]
        -- the next turn resumes past this line's start, so less of the head is left
        have hdec : head.length - Framing.valueEnd head (start + contentLengthName.length) < head.length - after := by
          omega
        cases declared with
        | none => exact go_eq hhead hend.2 (some n)
        | some previous =>
          dsimp only
          split
          · rfl
          · exact go_eq hhead hend.2 (some n)
termination_by head.length - after
decreasing_by all_goals assumption

/-- The declared length of a word-sized head is read without fault, and it is the framer's. -/
theorem contentLength_eq {head : List UInt8} (hhead : head.length ≤ maxLength) :
    contentLength head = .ok (Framing.contentLength head) :=
  go_eq hhead (Nat.zero_le _) none

/-- On a buffer whose length is a word, the framer on words never faults and gives the framer's verdict. The head is cut
inside the buffer, both header searches start at its request line, and the end of a complete request is only summed once
the buffer is known to hold it, so the sum is at most the buffer's length. -/
theorem evaluate_eq {buf : List UInt8} (hbuf : buf.length ≤ maxLength) :
    evaluate buf = .ok (Framing.evaluate buf) := by
  unfold evaluate Framing.evaluate
  cases ht : find? terminator buf with
  | none => rfl
  | some t =>
    have hle : t + terminator.length ≤ buf.length := find?_add_length_le (by decide) ht
    have hhead : (buf.take (t + terminator.length)).length ≤ maxLength := by
      simp only [List.length_take]
      omega
    dsimp only
    rw [add_of_le (by omega), ok_bind, sliceTo_of_le hle, ok_bind, findHeaderLine_eq hhead _ (Nat.zero_le _), ok_bind]
    by_cases hte : (Framing.findHeaderLine (buf.take (t + terminator.length)) transferEncodingName 0).isSome
    · simp [hte]
    · simp only [hte, Bool.false_eq_true, if_false, contentLength_eq hhead, ok_bind]
      rcases Framing.contentLength (buf.take (t + terminator.length)) with e | _ | n
      · rfl
      · rfl
      · dsimp only
        by_cases hempty : 0 < n ∧ buf.length ≤ t + terminator.length
        · -- nothing follows the head, but a body is declared
          rw [if_pos hempty, if_pos (by omega)]
          rfl
        · rw [if_neg hempty, sub_of_le hle, ok_bind]
          by_cases hshort : buf.length - (t + terminator.length) < n
          · rw [if_pos hshort, if_pos hshort]
            rfl
          · -- the whole body is in the buffer, so its end is at most the buffer's length
            rw [if_neg hshort, if_neg hshort, add_of_le (by omega)]
            rfl

end Checked

/-! ## Where a complete request lies -/

/-- `find?` gives the first occurrence of its needle. -/
theorem first_of_find? {needle hay : List UInt8} {i : Nat} (h : find? needle hay = some i) :
    needle <+: hay.drop i ∧ ∀ j < i, ¬needle <+: hay.drop j := by
  have hfirst := find?_prefix h
  refine ⟨List.isPrefixOf_iff_prefix.1 hfirst, fun j hj hp => ?_⟩
  obtain ⟨i', hi', hle⟩ := find?_le_of_isPrefixOf (List.isPrefixOf_iff_prefix.2 hp)
  rw [h] at hi'
  cases hi'
  omega

/-- A complete request's head ends with the buffer's first CRLFCRLF. -/
theorem find?_terminator_of_complete {buf : List UInt8} {h e : Nat} (hv : evaluate buf = .complete h e) :
    find? terminator buf = some (h - 4) := by
  cases hf : find? terminator buf with
  | none =>
    rw [evaluate_of_find?_none hf] at hv
    cases hv
  | some t =>
    have hle : t + 4 ≤ buf.length := find?_add_length_le (by decide) hf
    rw [evaluate_eq_headVerdict hf] at hv
    have hh := (headVerdict_complete_offsets hv).1
    simp only [List.length_take] at hh
    congr 1
    omega

end Framing

/-! ## The pipelining loop -/

namespace Engine

/-- The calls of a turn that frames a complete request: the verdict, then the request, cut from the front of the buffer
and at least four octets long. -/
theorem turn_dispatches {buf : List UInt8} {h n : Nat} (hf : Framing.evaluate buf = .complete h n) (sig : Bool)
    (o : List UInt8) :
    let calls := [Call.frame (.complete h n), .dispatch (buf.take n) sig o]
    Call.dispatched calls <+: buf ∧ (∀ f ∈ calls.filterMap Call.framed?, 4 ≤ f.length) ∧
      calls.length ≤ 2 * (calls.filterMap Call.framed?).length + 1 := by
  intro calls
  obtain ⟨h4, hhn, hn⟩ := Framing.evaluate_complete_le hf
  refine ⟨by simpa [calls] using List.take_prefix n buf, fun f hf' => ?_,
    by simp [calls, List.filterMap_cons, Call.framed?]⟩
  simp only [calls, List.filterMap_cons, Call.framed?, List.filterMap_nil, List.mem_singleton] at hf'
  subst hf'
  simp only [List.length_take]
  omega

/-- The pipelining loop hands the dispatcher whole requests cut one after another from the front of the buffer, each
at least four octets long, and makes one call to the framer a turn and one to the dispatcher in every turn but the
last. The induction follows the loop. -/
theorem serveLog_dispatches (e : Engine) (s : Session) (out : List UInt8) :
    Call.dispatched (serveLog e s out).calls <+: s.buffered ∧
      (∀ f ∈ (serveLog e s out).calls.filterMap Call.framed?, 4 ≤ f.length) ∧
      (serveLog e s out).calls.length ≤ 2 * ((serveLog e s out).calls.filterMap Call.framed?).length + 1 := by
  fun_induction serveLog e s out with
  | case1 => simp [Call.framed?]
  | case2 => simp [Call.framed?]
  | case3 e s out h n hf err hd => exact turn_dispatches hf _ _
  | case4 e s out h n hf o hd => exact turn_dispatches hf _ _
  | case5 e s out h n hf o hd hempty => exact turn_dispatches hf _ _
  | case6 e s out h n hf o hd hrest r ih =>
    dsimp only [r]
    obtain ⟨ih1, ih2, ih3⟩ := ih
    rw [Session.buffered_consume] at ih1
    obtain ⟨-, hfour, -⟩ := turn_dispatches hf e.signaled o
    refine ⟨?_, fun f hf' => ?_, ?_⟩
    · -- the rest is dispatched from what is left after the request
      have hsplit := (List.prefix_append_right_inj (s.buffered.take n)).2 ih1
      simpa using hsplit
    · simp only [List.filterMap_cons, Call.framed?, List.mem_cons] at hf'
      rcases hf' with rfl | hf'
      · exact hfour _ (by simp [Call.framed?])
      · exact ih2 f hf'
    · simp only [List.filterMap_cons, Call.framed?, List.length_cons]
      omega

/-- The loop makes at most one turn for every four buffered octets, and one more: a turn that goes on has removed a
request of at least four octets. -/
theorem serveLog_calls_length (e : Engine) (s : Session) (out : List UInt8) :
    (serveLog e s out).calls.length ≤ 2 * (s.buffered.length / 4) + 1 := by
  obtain ⟨hpre, hfour, hcalls⟩ := serveLog_dispatches e s out
  have hsum : ((serveLog e s out).calls.filterMap Call.framed?).length * 4 ≤
      (Call.dispatched (serveLog e s out).calls).length := by
    rw [Call.dispatched, List.length_flatten]
    have := List.card_nsmul_le_sum (((serveLog e s out).calls.filterMap Call.framed?).map List.length) 4
      fun k hk => by
        obtain ⟨f, hf, rfl⟩ := List.mem_map.1 hk
        exact hfour f hf
    simpa using this
  have hle := hpre.length_le
  omega

end Engine

namespace Framing

open Octets

/-- The framer is safe on machine words. On every buffer whose length is a word, the framer run with bounds-checked
slices and overflow-checked word arithmetic never faults, and it gives the framer's verdict. A complete request lies in
the buffer: its head ends, at least four octets in, with the buffer's first CRLFCRLF, and its body ends inside the
buffer. The pipelining loop, on a session holding the buffer, hands the dispatcher requests cut one after another from
the front of the buffer, each at least four octets long, so it stops after at most one turn for every four octets and
one more. -/
theorem framer_safe (buf : List UInt8) (hbuf : buf.length ≤ maxLength) :
    Checked.evaluate buf = .ok (evaluate buf) ∧
      (∀ h e, evaluate buf = .complete h e →
        4 ≤ h ∧ h ≤ e ∧ e ≤ buf.length ∧ terminator <+: buf.drop (h - 4) ∧ ∀ j < h - 4, ¬terminator <+: buf.drop j) ∧
      ∀ (eng : Engine) (s : Session) (out : List UInt8), s.buffered = buf →
        Call.dispatched (eng.serveLog s out).calls <+: buf ∧
          (∀ f ∈ (eng.serveLog s out).calls.filterMap Call.framed?, 4 ≤ f.length) ∧
          (eng.serveLog s out).calls.length ≤ 2 * (buf.length / 4) + 1 := by
  refine ⟨Checked.evaluate_eq hbuf, fun h e hv => ?_, fun eng s out hs => ?_⟩
  · obtain ⟨h4, hhe, he⟩ := evaluate_complete_le hv
    exact ⟨h4, hhe, he, first_of_find? (find?_terminator_of_complete hv)⟩
  · subst hs
    obtain ⟨hpre, hfour, -⟩ := Engine.serveLog_dispatches eng s out
    exact ⟨hpre, hfour, Engine.serveLog_calls_length eng s out⟩

/-- A request with a body, followed by a pipelined one: the framer on words frames the first without a fault. -/
theorem framer_safe_body_then_pipelined :
    (ofString "POST / HTTP/1.1\r\nContent-Length: 2\r\n\r\nhiGET / HTTP/1.1\r\n\r\n").length ≤ maxLength ∧
      Checked.evaluate (ofString "POST / HTTP/1.1\r\nContent-Length: 2\r\n\r\nhiGET / HTTP/1.1\r\n\r\n") =
        .ok (.complete 38 40) := by
  have hbuf : (ofString "POST / HTTP/1.1\r\nContent-Length: 2\r\n\r\nhiGET / HTTP/1.1\r\n\r\n").length ≤
      maxLength := by decide +kernel
  refine ⟨hbuf, ?_⟩
  rw [(framer_safe _ hbuf).1]
  congr 1
  decide +kernel

end Framing

end HttpReactor
