import HttpReactor.Framing.Basic
import HttpReactor.Framing.Length
/-!
# The framer

`Framing.evaluate` finds the end of the first request in a buffer. The head ends at the first blank
line; the head's own lines then say how long the body is. A transfer coding is refused outright; a
Content-Length line gives the body's length, and every further Content-Length line must agree with
the first.

The scan walks the head by offsets: `findHeaderLine` jumps from one line start to the next, and
`contentLength` resumes each search at the end of the value it just read. Both searches only move
forward (`scanLines_ge`, `findHeaderLine_ge`), which is what makes the scan terminate.
-/

namespace HttpReactor

namespace Framing

open Octets

/-- The blank line that ends a request head. -/
def terminator : List UInt8 := [13, 10, 13, 10]

/-- The name that opens a Content-Length line, colon included, in small letters. -/
def contentLengthName : List UInt8 := ofString "content-length:"

/-- The name that opens a Transfer-Encoding line, colon included, in small letters. -/
def transferEncodingName : List UInt8 := ofString "transfer-encoding:"

/-- The first line start at or after `lineStart` whose line begins with `name`, ignoring ASCII
case, where `rest` is the head from `lineStart` on; a line is left for the next one by jumping
past its line ending. -/
def scanRest (name : List UInt8) (rest : List UInt8) (lineStart : Nat) : Option Nat :=
  match rest with
  | [] => none
  | b :: bs =>
    if startsWithFold (b :: bs) name then some lineStart
    else
      match find? crlf (b :: bs) with
      | none => none
      | some i => scanRest name ((b :: bs).drop (i + 2)) (lineStart + i + 2)
termination_by rest.length
decreasing_by simp only [List.length_drop, List.length_cons]; omega

/-- The first line start at or after `lineStart` whose line begins with `name`, ignoring ASCII
case. -/
def scanLines (head name : List UInt8) (lineStart : Nat) : Option Nat :=
  scanRest name (head.drop lineStart) lineStart

/-- Where the search for a header line resumes: after the request line when `after` is zero,
otherwise at the start of the line that follows offset `after`. -/
def resumeAt (head : List UInt8) (after : Nat) : Option Nat :=
  if after = 0 then (find? crlf head).map (· + 2)
  else if crlf.isSuffixOf (head.take after) then some after
  else (find? crlf (head.drop after)).map (after + · + 2)

/-- The start of the first header line at or after `after` that begins with `name`; the request
line is never a candidate. -/
def findHeaderLine (head name : List UInt8) (after : Nat) : Option Nat :=
  (resumeAt head after).bind (scanLines head name)

/-- The offset of the line ending that closes the value starting at `valueStart`, or the end of
the head if no line ending follows. -/
def valueEnd (head : List UInt8) (valueStart : Nat) : Nat :=
  match find? crlf (head.drop valueStart) with
  | none => head.length
  | some i => valueStart + i

theorem scanRest_ge {name : List UInt8} :
    ∀ {rest : List UInt8} {s r : Nat}, scanRest name rest s = some r →
      s ≤ r ∧ startsWithFold (rest.drop (r - s)) name = true
  | [], s, r, h => by simp [scanRest] at h
  | b :: bs, s, r, h => by
    rw [scanRest] at h
    split at h
    · rename_i hw
      cases h
      simpa using hw
    · split at h
      · cases h
      · rename_i i _
        have ih := scanRest_ge h
        refine ⟨by omega, ?_⟩
        have e : r - s = (i + 2) + (r - (s + i + 2)) := by omega
        rw [e, ← List.drop_drop]
        exact ih.2
termination_by rest => rest.length
decreasing_by simp only [List.length_drop, List.length_cons]; omega

theorem scanLines_ge {head name : List UInt8} {s r : Nat} (h : scanLines head name s = some r) :
    s ≤ r ∧ startsWithFold (head.drop r) name = true := by
  have := scanRest_ge h
  refine ⟨this.1, ?_⟩
  have e := this.2
  rwa [List.drop_drop, Nat.add_sub_cancel' this.1] at e

theorem resumeAt_ge {head : List UInt8} {after s : Nat} (h : resumeAt head after = some s) :
    after ≤ s := by
  unfold resumeAt at h
  split at h
  · omega
  · split at h
    · cases h; exact Nat.le_refl _
    · obtain ⟨i, _, rfl⟩ := Option.map_eq_some_iff.1 h
      omega

theorem findHeaderLine_ge {head name : List UInt8} {after r : Nat}
    (h : findHeaderLine head name after = some r) :
    after ≤ r ∧ startsWithFold (head.drop r) name = true := by
  obtain ⟨s, hs, hr⟩ := Option.bind_eq_some_iff.1 h
  have h1 := resumeAt_ge hs
  have h2 := scanLines_ge hr
  exact ⟨by omega, h2.2⟩

theorem length_le_of_startsWithFold {xs p : List UInt8} (h : startsWithFold xs p = true) :
    p.length ≤ xs.length := by
  induction p generalizing xs with
  | nil => simp
  | cons q ps ih =>
    cases xs with
    | nil => simp [startsWithFold] at h
    | cons x xs =>
      simp only [startsWithFold, Bool.and_eq_true] at h
      simpa using ih h.2

theorem find?_add_length_le {needle hay : List UInt8} {i : Nat} (hn : needle ≠ [])
    (h : find? needle hay = some i) : i + needle.length ≤ hay.length := by
  have hp := find?_prefix h
  have hl := (List.isPrefixOf_iff_prefix.1 hp).length_le
  have : i < hay.length := by
    rcases Nat.lt_or_ge i hay.length with hi | hi
    · exact hi
    · rw [List.drop_eq_nil_of_le hi] at hl
      cases needle with
      | nil => exact absurd rfl hn
      | cons _ _ => simp at hl
  simp only [List.length_drop] at hl
  omega

theorem valueEnd_le {head : List UInt8} {v : Nat} (hv : v ≤ head.length) :
    v ≤ valueEnd head v ∧ valueEnd head v ≤ head.length := by
  unfold valueEnd
  split
  · exact ⟨hv, Nat.le_refl _⟩
  · rename_i i hi
    have := find?_add_length_le (by simp [crlf]) hi
    simp only [List.length_drop, crlf, List.length_cons, List.length_nil] at this
    omega

/-- The declared body length of a head: the value of its Content-Length lines, which must all
agree, or `none` if it has none. Each search resumes at the end of the value just read. -/
def contentLength (head : List UInt8) : Except FrameError (Option Nat) :=
  go 0 none
where
  /-- Reads the Content-Length lines after offset `after`, given the count declared so far. -/
  go (after : Nat) (declared : Option Nat) : Except FrameError (Option Nat) :=
    match _hs : findHeaderLine head contentLengthName after with
    | none => .ok declared
    | some start =>
      let valueStart := start + contentLengthName.length
      let lineEnd := valueEnd head valueStart
      match readLength (dropBlank ((head.drop valueStart).take (lineEnd - valueStart))) with
      | none => .error .invalidContentLength
      | some n =>
        match declared with
        | some previous => if previous ≠ n then .error .conflictingContentLength else go lineEnd (some n)
        | none => go lineEnd (some n)
  termination_by head.length - after
  decreasing_by
    all_goals
      obtain ⟨hge, hw⟩ := findHeaderLine_ge _hs
      have hl := length_le_of_startsWithFold hw
      have hname : contentLengthName.length = 15 := by decide +kernel
      simp only [List.length_drop] at hl
      have hv := @valueEnd_le head (start + contentLengthName.length) (by omega)
      omega

/-- The framer's verdict on a buffer: where its first request ends, or why that cannot be known. -/
def evaluate (buf : List UInt8) : Frame :=
  match find? terminator buf with
  | none => .incomplete
  | some t =>
    let headerEnd := t + terminator.length
    let head := buf.take headerEnd
    if (findHeaderLine head transferEncodingName 0).isSome then .malformed .transferEncoding
    else
      match contentLength head with
      | .error e => .malformed e
      | .ok none =>
        if headerEnd = buf.length then .complete headerEnd headerEnd else .malformed .bodyWithoutLength
      | .ok (some n) =>
        if buf.length - headerEnd < n then .incomplete else .complete headerEnd (headerEnd + n)

end Framing

end HttpReactor
