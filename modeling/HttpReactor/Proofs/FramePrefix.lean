import HttpReactor.Framing.Scan

/-!
# The framer along the prefix order

A connection's buffer only grows between two verdicts, so what the framer says about a buffer has to be read against what
it says about the buffer's prefixes. Everything the framer decides is decided by the head, the octets up to the first
blank line, and by how many octets follow it: `evaluate_eq_headVerdict` factors `Framing.evaluate` through
`Framing.headVerdict`. The head of a longer buffer is the head of the shorter one as soon as the shorter one holds it,
because the first occurrence of the blank line does not move (`find?_append_of_eq_some`).

Main statements: a verdict on a buffer fixes the verdict on each prefix of it. An incomplete buffer has incomplete
prefixes (`evaluate_prefix_of_incomplete`); a complete request is complete in every prefix that holds it and incomplete
in every shorter one (`evaluate_prefix_of_complete`, `evaluate_prefix_of_complete_short`); a malformed buffer other than
a body without length has prefixes that are incomplete or malformed for the same reason (`evaluate_prefix_of_malformed`).
-/

namespace HttpReactor

namespace Octets

/-! ## The first occurrence of a needle in a longer haystack -/

theorem find?_nil_needle (hay : List UInt8) : find? [] hay = some 0 := by
  cases hay <;> rfl

theorem find?_eq_none_of_length_lt {needle hay : List UInt8} (h : hay.length < needle.length) :
    find? needle hay = none := by
  induction hay with
  | nil =>
    cases needle with
    | nil => simp at h
    | cons _ _ => rfl
  | cons x rest ih =>
    have hp : needle.isPrefixOf (x :: rest) = false := by
      rw [Bool.eq_false_iff]
      intro hp
      have := (List.isPrefixOf_iff_prefix.1 hp).length_le
      omega
    simp only [find?, hp, Bool.false_eq_true, if_false, ih (by simp at h; omega), Option.map_none]

/-- A needle that is a prefix of a longer haystack and no longer than a prefix of it is a prefix of that prefix. -/
theorem isPrefixOf_of_append {needle a b : List UInt8} (hl : needle.length ≤ a.length)
    (h : needle.isPrefixOf (a ++ b) = true) : needle.isPrefixOf a = true := by
  rw [List.isPrefixOf_iff_prefix] at h ⊢
  exact List.prefix_of_prefix_length_le h (List.prefix_append a b) hl

theorem isPrefixOf_append {needle a : List UInt8} (b : List UInt8) (h : needle.isPrefixOf a = true) :
    needle.isPrefixOf (a ++ b) = true := by
  rw [List.isPrefixOf_iff_prefix] at h ⊢
  exact h.trans (List.prefix_append a b)

/-- An occurrence found in a prefix is still the first one once more octets follow. -/
theorem find?_append_of_eq_some {needle a : List UInt8} {i : Nat} (b : List UInt8) (h : find? needle a = some i) :
    find? needle (a ++ b) = some i := by
  induction a generalizing i with
  | nil =>
    have hn : needle = [] := by
      cases needle with
      | nil => rfl
      | cons _ _ => simp [find?] at h
    subst hn
    simp only [find?, List.isEmpty_nil, if_true, Option.some.injEq] at h
    rw [← h, List.nil_append, find?_nil_needle]
  | cons x a ih =>
    simp only [find?] at h
    split at h
    · rename_i hp
      cases h
      exact if_pos (isPrefixOf_append b hp)
    · rename_i hp
      obtain ⟨j, hj, rfl⟩ := Option.map_eq_some_iff.1 h
      have hn : needle ≠ [] := by
        rintro rfl
        simp at hp
      have hlen := Framing.find?_add_length_le hn hj
      have hq : needle.isPrefixOf (x :: (a ++ b)) = false := by
        rw [Bool.eq_false_iff]
        intro hq
        exact hp (isPrefixOf_of_append (b := b) (by simp; omega) hq)
      simp [find?, hq, ih hj]

/-- The first occurrence in a longer haystack that ends within a prefix is the first occurrence in the prefix. -/
theorem find?_of_find?_append_le {needle a b : List UInt8} {i : Nat} (h : find? needle (a ++ b) = some i)
    (hi : i + needle.length ≤ a.length) : find? needle a = some i := by
  induction a generalizing i with
  | nil =>
    simp only [List.length_nil, Nat.le_zero, Nat.add_eq_zero_iff, List.length_eq_zero_iff] at hi
    obtain ⟨rfl, rfl⟩ := hi
    exact find?_nil_needle []
  | cons x a ih =>
    simp only [List.cons_append, find?] at h
    split at h
    · rename_i hp
      cases h
      simp [find?, isPrefixOf_of_append (a := x :: a) (by simpa using hi) hp]
    · rename_i hp
      obtain ⟨j, hj, rfl⟩ := Option.map_eq_some_iff.1 h
      have hq : needle.isPrefixOf (x :: a) = false := by
        rw [Bool.eq_false_iff]
        intro hq
        exact hp (isPrefixOf_append b hq)
      simp [find?, hq, ih hj (by simp at hi; omega)]

/-- A prefix that ends before the first occurrence in a longer haystack is over holds no occurrence. -/
theorem find?_of_find?_append_lt {needle a b : List UInt8} {i : Nat} (h : find? needle (a ++ b) = some i)
    (hi : a.length < i + needle.length) : find? needle a = none := by
  induction a generalizing i with
  | nil =>
    cases needle with
    | nil =>
      rw [List.nil_append, find?_nil_needle] at h
      cases h
      simp at hi
    | cons _ _ => rfl
  | cons x a ih =>
    simp only [List.cons_append, find?] at h
    split at h
    · cases h
      exact find?_eq_none_of_length_lt (by simpa using hi)
    · rename_i hp
      obtain ⟨j, hj, rfl⟩ := Option.map_eq_some_iff.1 h
      have hq : needle.isPrefixOf (x :: a) = false := by
        rw [Bool.eq_false_iff]
        intro hq
        exact hp (isPrefixOf_append b hq)
      simp [find?, hq, ih hj (by simp at hi; omega)]

/-- A haystack with no occurrence has prefixes with none. -/
theorem find?_of_find?_append_none {needle a b : List UInt8} (h : find? needle (a ++ b) = none) :
    find? needle a = none := by
  cases ha : find? needle a with
  | none => rfl
  | some i => simp [find?_append_of_eq_some b ha] at h

end Octets

namespace Framing

open Octets

/-! ## The verdict as a function of the head -/

/-- The verdict on a buffer whose head is `head` and that holds `avail` more octets after it. -/
def headVerdict (head : List UInt8) (avail : Nat) : Frame :=
  if (findHeaderLine head transferEncodingName 0).isSome then .malformed .transferEncoding
  else
    match contentLength head with
    | .error e => .malformed e
    | .ok none => if avail = 0 then .complete head.length head.length else .malformed .bodyWithoutLength
    | .ok (some n) => if avail < n then .incomplete else .complete head.length (head.length + n)

theorem terminator_length : terminator.length = 4 := rfl

theorem evaluate_of_find?_none {buf : List UInt8} (h : find? terminator buf = none) : evaluate buf = .incomplete := by
  simp [evaluate, h]

/-- Once the blank line is found, the verdict depends on the head and on how many octets follow it. -/
theorem evaluate_eq_headVerdict {buf : List UInt8} {t : Nat} (h : find? terminator buf = some t) :
    evaluate buf = headVerdict (buf.take (t + 4)) (buf.length - (t + 4)) := by
  have hle : t + 4 ≤ buf.length := find?_add_length_le (by decide) h
  have hlen : (buf.take (t + 4)).length = t + 4 := by simp; omega
  simp only [evaluate, h, terminator_length, headVerdict, hlen]
  by_cases hte : (findHeaderLine (buf.take (t + 4)) transferEncodingName 0).isSome
  · simp only [hte, if_true]
  · simp only [hte, Bool.false_eq_true, if_false]
    rcases contentLength (buf.take (t + 4)) with e | _ | n
    · rfl
    · simp only [Nat.sub_eq_zero_iff_le]
      by_cases hb : t + 4 = buf.length
      · simp [hb]
      · simp [hb, show ¬buf.length ≤ t + 4 by omega]
    · rfl

/-- More octets after the head only move a verdict from incomplete towards complete, or to a body without length. -/
theorem headVerdict_of_incomplete {head : List UInt8} {a a' : Nat} (h : headVerdict head a' = .incomplete)
    (ha : a ≤ a') : headVerdict head a = .incomplete := by
  unfold headVerdict at h ⊢
  by_cases hte : (findHeaderLine head transferEncodingName 0).isSome
  · simp [hte] at h
  · simp only [hte, Bool.false_eq_true, if_false] at h ⊢
    rcases hc : contentLength head with e | _ | n <;> simp only [hc] at h ⊢
    · cases h
    · split at h <;> cases h
    · split at h
      · rw [if_pos (by omega)]
      · cases h

/-- A malformed head stays malformed for the same reason however many octets follow, unless the reason is a body
without length. -/
theorem headVerdict_of_malformed {head : List UInt8} {a a' : Nat} {err : FrameError}
    (h : headVerdict head a' = .malformed err) (herr : err ≠ .bodyWithoutLength) : headVerdict head a = .malformed err := by
  unfold headVerdict at h ⊢
  by_cases hte : (findHeaderLine head transferEncodingName 0).isSome
  · simpa [hte] using h
  · simp only [hte, Bool.false_eq_true, if_false] at h ⊢
    rcases hc : contentLength head with e | _ | n <;> simp only [hc] at h ⊢
    · exact h
    · split at h
      · cases h
      · cases h
        exact absurd rfl herr
    · split at h <;> cases h

/-- A complete verdict on a head: it has no Transfer-Encoding line, and its Content-Length lines declared a length
that the octets after it cover, or none and nothing follows it; the request ends that many octets after the head. -/
theorem headVerdict_complete {head : List UInt8} {avail h e : Nat} (hv : headVerdict head avail = .complete h e) :
    (findHeaderLine head transferEncodingName 0).isSome = false ∧
      ∃ r, contentLength head = .ok r ∧ h = head.length ∧ e = head.length + r.getD 0 ∧
        (r = none → avail = 0) ∧ r.getD 0 ≤ avail := by
  unfold headVerdict at hv
  by_cases hte : (findHeaderLine head transferEncodingName 0).isSome
  · simp [hte] at hv
  · simp only [hte, Bool.false_eq_true, if_false] at hv
    refine ⟨by simpa using hte, ?_⟩
    rcases hc : contentLength head with e | _ | n <;> simp only [hc] at hv
    · cases hv
    · split at hv
      · rename_i h0
        cases hv
        exact ⟨none, rfl, rfl, rfl, fun _ => h0, Nat.zero_le _⟩
      · cases hv
    · split at hv
      · cases hv
      · rename_i hlt
        cases hv
        exact ⟨some n, rfl, rfl, rfl, nofun, Nat.le_of_not_lt hlt⟩

/-- A complete request stays complete, at the same offsets, in every buffer that holds it. -/
theorem headVerdict_of_complete {head : List UInt8} {a a' h e : Nat} (hv : headVerdict head a' = .complete h e)
    (ha : a ≤ a') (hea : e - h ≤ a) : headVerdict head a = .complete h e := by
  obtain ⟨hte, r, hc, rfl, rfl, hnone, -⟩ := headVerdict_complete hv
  cases r with
  | none =>
    have h0 : a = 0 := by have := hnone rfl; omega
    simp [headVerdict, hte, hc, h0]
  | some n =>
    simp only [Option.getD_some, Nat.add_sub_cancel_left] at hea
    simp [headVerdict, hte, hc, Nat.not_lt.2 hea]

/-- A buffer shorter than a complete request it is the prefix of is still incomplete. -/
theorem headVerdict_of_complete_short {head : List UInt8} {a a' h e : Nat} (hv : headVerdict head a' = .complete h e)
    (hea : a < e - h) : headVerdict head a = .incomplete := by
  obtain ⟨hte, r, hc, rfl, rfl, -, -⟩ := headVerdict_complete hv
  cases r with
  | none => simp at hea
  | some n =>
    simp only [Option.getD_some, Nat.add_sub_cancel_left] at hea
    simp [headVerdict, hte, hc, hea]

theorem headVerdict_complete_offsets {head : List UInt8} {a h e : Nat} (hv : headVerdict head a = .complete h e) :
    h = head.length ∧ h ≤ e ∧ e - h ≤ a := by
  obtain ⟨-, r, -, hh, he, -, hr⟩ := headVerdict_complete hv
  omega

/-- A complete request ends after its head and within the buffer. -/
theorem evaluate_complete_le {buf : List UInt8} {h e : Nat} (hv : evaluate buf = .complete h e) :
    4 ≤ h ∧ h ≤ e ∧ e ≤ buf.length := by
  cases hf : find? terminator buf with
  | none => rw [evaluate_of_find?_none hf] at hv; cases hv
  | some t =>
    have hle : t + 4 ≤ buf.length := find?_add_length_le (by decide) hf
    rw [evaluate_eq_headVerdict hf] at hv
    obtain ⟨h1, h2, h3⟩ := headVerdict_complete_offsets hv
    simp only [List.length_take] at h1
    omega

/-! ## Prefixes of a buffer -/

section Prefix

variable {P T : List UInt8}

theorem evaluate_prefix_of_incomplete (hv : evaluate (P ++ T) = .incomplete) : evaluate P = .incomplete := by
  cases hf : find? terminator (P ++ T) with
  | none => exact evaluate_of_find?_none (find?_of_find?_append_none hf)
  | some t =>
    by_cases ht : t + 4 ≤ P.length
    · have hP := find?_of_find?_append_le hf (by rw [terminator_length]; exact ht)
      rw [evaluate_eq_headVerdict hf, List.take_append_of_le_length ht] at hv
      rw [evaluate_eq_headVerdict hP]
      exact headVerdict_of_incomplete hv (by simp; omega)
    · exact evaluate_of_find?_none (find?_of_find?_append_lt hf (by rw [terminator_length]; omega))

theorem evaluate_prefix_of_malformed {err : FrameError} (hv : evaluate (P ++ T) = .malformed err)
    (herr : err ≠ .bodyWithoutLength) : evaluate P = .incomplete ∨ evaluate P = .malformed err := by
  cases hf : find? terminator (P ++ T) with
  | none => rw [evaluate_of_find?_none hf] at hv; cases hv
  | some t =>
    by_cases ht : t + 4 ≤ P.length
    · have hP := find?_of_find?_append_le hf (by rw [terminator_length]; exact ht)
      rw [evaluate_eq_headVerdict hf, List.take_append_of_le_length ht] at hv
      rw [evaluate_eq_headVerdict hP]
      exact .inr (headVerdict_of_malformed hv herr)
    · exact .inl (evaluate_of_find?_none (find?_of_find?_append_lt hf (by rw [terminator_length]; omega)))

theorem evaluate_prefix_of_complete {h e : Nat} (hv : evaluate (P ++ T) = .complete h e) (he : e ≤ P.length) :
    evaluate P = .complete h e := by
  cases hf : find? terminator (P ++ T) with
  | none => rw [evaluate_of_find?_none hf] at hv; cases hv
  | some t =>
    have hle : t + 4 ≤ (P ++ T).length := find?_add_length_le (by decide) hf
    rw [evaluate_eq_headVerdict hf] at hv
    obtain ⟨h1, h2, h3⟩ := headVerdict_complete_offsets hv
    simp only [List.length_take, List.length_append] at h1 hle
    have ht : t + 4 ≤ P.length := by omega
    have hP := find?_of_find?_append_le hf (by rw [terminator_length]; exact ht)
    rw [List.take_append_of_le_length ht] at hv
    rw [evaluate_eq_headVerdict hP]
    exact headVerdict_of_complete hv (by simp; omega) (by omega)

theorem evaluate_prefix_of_complete_short {h e : Nat} (hv : evaluate (P ++ T) = .complete h e) (he : P.length < e) :
    evaluate P = .incomplete := by
  cases hf : find? terminator (P ++ T) with
  | none => rw [evaluate_of_find?_none hf] at hv; cases hv
  | some t =>
    by_cases ht : t + 4 ≤ P.length
    · have hP := find?_of_find?_append_le hf (by rw [terminator_length]; exact ht)
      rw [evaluate_eq_headVerdict hf, List.take_append_of_le_length ht] at hv
      rw [evaluate_eq_headVerdict hP]
      obtain ⟨h1, _, _⟩ := headVerdict_complete_offsets hv
      simp only [List.length_take] at h1
      exact headVerdict_of_complete_short hv (by omega)
    · exact evaluate_of_find?_none (find?_of_find?_append_lt hf (by rw [terminator_length]; omega))

end Prefix

end Framing

end HttpReactor
