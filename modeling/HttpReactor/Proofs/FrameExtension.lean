import HttpReactor.Proofs.FrameLines

/-!
# The framer on longer buffers

The prefix laws of `Proofs.FramePrefix` read a verdict on a buffer back onto its prefixes. This module reads it forward,
onto the buffer with more octets behind it. The head of a buffer that holds its blank line is the head of every longer
buffer (`evaluate_append_of_find?`), so a longer buffer differs only in how many octets follow the head, and only one
verdict depends on that count in a way that can flip: a head that declares no length is complete when nothing follows
it and a body without length as soon as something does.

Whether a head declares a length is said line by line: no header line begins with `content-length:`
(`contentLength_eq_ok_none`).

Main statement: `evaluate_prefix_order`, the framer's verdict as a function along the prefix order of buffers.
-/

namespace HttpReactor

namespace Framing

open Octets

/-! ## Heads that declare no length -/

/-- Lines without a Content-Length line leave what was declared before them as it was. -/
theorem declaredLength_of_forall {ls : List (List UInt8)}
    (h : ∀ l ∈ ls, startsWithFold l contentLengthName = false) (declared : Option Nat) :
    declaredLength ls declared = .ok declared := by
  induction ls with
  | nil => rfl
  | cons l ls ih =>
    rw [declaredLength_cons_of_not (h l List.mem_cons_self)]
    exact ih fun l' hl' => h l' (List.mem_cons_of_mem l hl')

/-- Once a length is declared, reading more lines keeps one declared or fails. -/
theorem declaredLength_some_ne (ls : List (List UInt8)) (n : Nat) : declaredLength ls (some n) ≠ .ok none := by
  induction ls generalizing n with
  | nil => simp [declaredLength]
  | cons l ls ih =>
    unfold declaredLength
    split
    · dsimp only
      split
      · split
        · exact ih _
        · simp
      · simp
    · exact ih n

/-- The lines declare no length exactly when none of them is a Content-Length line. -/
theorem declaredLength_eq_ok_none {ls : List (List UInt8)} :
    declaredLength ls none = .ok none ↔ ∀ l ∈ ls, startsWithFold l contentLengthName = false := by
  refine ⟨fun h => ?_, fun h => declaredLength_of_forall h none⟩
  induction ls with
  | nil => simp
  | cons l ls ih =>
    by_cases hl : startsWithFold l contentLengthName = true
    · -- a Content-Length line either fails or declares a length
      exfalso
      revert h
      unfold declaredLength
      rw [if_pos hl]
      dsimp only
      split
      · exact declaredLength_some_ne ls _
      · simp
    · have hl' : startsWithFold l contentLengthName = false := by simpa using hl
      rw [declaredLength_cons_of_not hl'] at h
      intro l' hl''
      rcases List.mem_cons.1 hl'' with rfl | hm
      · exact hl'
      · exact ih h l' hm

/-- A head declares no length exactly when none of its header lines begins with `content-length:`. -/
theorem contentLength_eq_ok_none (head : List UInt8) :
    contentLength head = .ok none ↔ ∀ l ∈ (splitLines head).drop 1, startsWithFold l contentLengthName = false := by
  rw [contentLength_eq]
  exact declaredLength_eq_ok_none

/-! ## More octets after the head -/

/-- A malformed head stays malformed for the same reason when more octets follow it. -/
theorem headVerdict_extend_malformed {head : List UInt8} {a a' : Nat} {err : FrameError}
    (hv : headVerdict head a = .malformed err) (ha : a ≤ a') : headVerdict head a' = .malformed err := by
  by_cases herr : err = .bodyWithoutLength
  · subst herr
    -- the one verdict that counts the octets after the head: it needs at least one
    unfold headVerdict at hv ⊢
    by_cases hte : (findHeaderLine head transferEncodingName 0).isSome
    · simp [hte] at hv
    · simp only [hte, Bool.false_eq_true, if_false] at hv ⊢
      rcases hc : contentLength head with e | _ | n <;> simp only [hc] at hv ⊢
      · exact hv
      · split at hv
        · cases hv
        · rw [if_neg (by omega)]
      · split at hv <;> cases hv
  · exact headVerdict_of_malformed hv herr

/-- A complete request stays complete when more octets follow it, unless its head declares no length and something
does follow: then the octets after the head are a body without length. -/
theorem headVerdict_extend_complete {head : List UInt8} {a h e : Nat} (hv : headVerdict head a = .complete h e)
    (k : Nat) :
    headVerdict head (a + k) =
      if k ≠ 0 ∧ ∀ l ∈ (splitLines head).drop 1, startsWithFold l contentLengthName = false
      then .malformed .bodyWithoutLength else .complete h e := by
  obtain ⟨hte, r, hc, rfl, rfl, hnone, hle⟩ := headVerdict_complete hv
  have hte' : (findHeaderLine head transferEncodingName 0).isSome = false := hte
  cases r with
  | none =>
    have ha : a = 0 := hnone rfl
    subst ha
    have hlines := (contentLength_eq_ok_none head).1 hc
    by_cases hk : k = 0
    · rw [if_neg fun h => h.1 hk]
      simp [headVerdict, hte', hc, hk]
    · rw [if_pos ⟨hk, hlines⟩]
      simp [headVerdict, hte', hc, hk]
  | some n =>
    have hn : ¬a + k < n := by simp only [Option.getD_some] at hle; omega
    -- a declared length means some header line is a Content-Length line
    have hlines : ¬∀ l ∈ (splitLines head).drop 1, startsWithFold l contentLengthName = false := by
      rw [← contentLength_eq_ok_none, hc]
      simp
    rw [if_neg fun h => hlines h.2]
    simp [headVerdict, hte', hc, hn]

/-- Once a buffer holds its blank line, every longer buffer has the same head, followed by more octets. -/
theorem evaluate_append_of_find? {b : List UInt8} {t : Nat} (h : find? terminator b = some t) (c : List UInt8) :
    evaluate (b ++ c) = headVerdict (b.take (t + 4)) (b.length - (t + 4) + c.length) := by
  have hle : t + 4 ≤ b.length := find?_add_length_le (by decide) h
  rw [evaluate_eq_headVerdict (find?_append_of_eq_some c h), List.take_append_of_le_length hle,
    List.length_append]
  congr 1
  omega

/-! ## The prefix order -/

/-- The framer's verdict along the prefix order of buffers. A buffer with no whole head has no prefix with one. A
malformed buffer stays malformed, for the same reason, whatever follows it. A complete request is complete in the
buffer cut at its end and incomplete in every shorter cut, and it stays complete whatever follows it, except that a head
with no Content-Length line followed by more octets is a body without length. -/
theorem evaluate_prefix_order (b c : List UInt8) :
    (evaluate b = .incomplete → ∀ p, p <+: b → evaluate p = .incomplete) ∧
    (∀ err, evaluate b = .malformed err → evaluate (b ++ c) = .malformed err) ∧
    (∀ h e, evaluate b = .complete h e →
      evaluate (b.take e) = .complete h e ∧ (∀ k < e, evaluate (b.take k) = .incomplete) ∧
      evaluate (b ++ c) =
        if c ≠ [] ∧ ∀ l ∈ (splitLines (b.take h)).drop 1, startsWithFold l contentLengthName = false
        then .malformed .bodyWithoutLength else .complete h e) := by
  refine ⟨fun hv p hp => ?_, fun err hv => ?_, fun h e hv => ⟨?_, fun k hk => ?_, ?_⟩⟩
  · obtain ⟨T, rfl⟩ := hp
    exact evaluate_prefix_of_incomplete hv
  · cases hf : find? terminator b with
    | none => rw [evaluate_of_find?_none hf] at hv; cases hv
    | some t =>
      rw [evaluate_eq_headVerdict hf] at hv
      rw [evaluate_append_of_find? hf c]
      exact headVerdict_extend_malformed hv (Nat.le_add_right _ _)
  · have he : e ≤ b.length := (evaluate_complete_le hv).2.2
    rw [← List.take_append_drop e b] at hv
    exact evaluate_prefix_of_complete hv (by simp [he])
  · rw [← List.take_append_drop k b] at hv
    exact evaluate_prefix_of_complete_short hv (by simp; omega)
  · cases hf : find? terminator b with
    | none => rw [evaluate_of_find?_none hf] at hv; cases hv
    | some t =>
      rw [evaluate_eq_headVerdict hf] at hv
      have hh : h = t + 4 := by
        have := (headVerdict_complete_offsets hv).1
        have hle : t + 4 ≤ b.length := find?_add_length_le (by decide) hf
        simp only [List.length_take] at this
        omega
      subst hh
      rw [evaluate_append_of_find? hf c, headVerdict_extend_complete hv]
      simp only [ne_eq, List.length_eq_zero_iff]

end Framing

end HttpReactor
