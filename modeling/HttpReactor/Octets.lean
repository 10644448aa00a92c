/-!
# Octet strings

Byte strings are `List UInt8` throughout the library: every message, buffer and body is one. This
module holds the few operations on them that HTTP framing needs: the ASCII case fold used to compare
header names, the search for a delimiter, and the two-byte line ending.

Main statements: `find?` gives the first offset where the needle occurs (`find?_prefix`), and a
case-blind prefix test agrees with folding both sides first (`startsWithFold_iff`).
-/

namespace HttpReactor

namespace Octets

/-- Carriage return followed by line feed, the end of a line on the wire. -/
def crlf : List UInt8 := [13, 10]

/-- The UTF-8 encoding of a string, as octets. -/
def ofString (s : String) : List UInt8 := s.toUTF8.toList

/-- The octets as a byte array, for the outer layer. -/
def toByteArray (xs : List UInt8) : ByteArray := ⟨xs.toArray⟩

/-- The string these octets encode, if they are valid UTF-8. -/
def utf8? (xs : List UInt8) : Option String := String.fromUTF8? (toByteArray xs)

/-- An ASCII digit `0`–`9`. -/
def isDigit (b : UInt8) : Bool := 48 ≤ b && b ≤ 57

/-- An ASCII capital letter is mapped to its small letter; every other octet is kept. -/
def foldAscii (b : UInt8) : UInt8 := if 65 ≤ b && b ≤ 90 then b + 32 else b

/-- Two octets are equal once ASCII capitals are folded to small letters. -/
def eqFold (a b : UInt8) : Bool := foldAscii a == foldAscii b

/-- Two octet strings of one length are equal byte by byte up to ASCII case. -/
def eqIgnoreCase : List UInt8 → List UInt8 → Bool
  | [], [] => true
  | a :: as, b :: bs => eqFold a b && eqIgnoreCase as bs
  | _, _ => false

/-- `xs` begins with `p`, comparing ASCII letters without regard to case. -/
def startsWithFold : List UInt8 → List UInt8 → Bool
  | _, [] => true
  | [], _ :: _ => false
  | x :: xs, p :: ps => eqFold x p && startsWithFold xs ps

/-- The offset of the first occurrence of `needle` in `hay`; the empty needle occurs at offset 0. -/
def find? (needle : List UInt8) : List UInt8 → Option Nat
  | [] => if needle.isEmpty then some 0 else none
  | hay@(_ :: rest) =>
    if needle.isPrefixOf hay then some 0 else (find? needle rest).map (· + 1)

theorem startsWithFold_iff (xs p : List UInt8) :
    startsWithFold xs p = true ↔ (xs.take p.length).map foldAscii = p.map foldAscii := by
  induction p generalizing xs with
  | nil => simp [startsWithFold]
  | cons q ps ih =>
    cases xs with
    | nil => simp [startsWithFold]
    | cons x xs => simp [startsWithFold, eqFold, ih]

theorem find?_prefix {needle hay : List UInt8} {i : Nat} (h : find? needle hay = some i) :
    needle.isPrefixOf (hay.drop i) = true := by
  induction hay generalizing i with
  | nil =>
    simp only [find?] at h
    split at h
    · cases h
      cases needle <;> simp_all
    · cases h
  | cons b rest ih =>
    simp only [find?] at h
    split at h
    · cases h
      assumption
    · obtain ⟨j, hj, rfl⟩ := Option.map_eq_some_iff.1 h
      simpa using ih hj

end Octets

end HttpReactor
