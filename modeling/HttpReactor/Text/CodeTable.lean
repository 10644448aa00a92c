/-!
# Tables over code points

A property of characters that Unicode publishes as data is kept as a table that lists where the
value changes: each entry holds from its own start up to the start of the next entry, and the last
one up to the end of the code space. A code point before the first entry takes a default.

The tables are written as text: one entry per word, `start=value`, the start in small hexadecimal
digits, the words in increasing order of their starts and divided by single spaces. The text is read
once into an array, where a lookup is a binary search for the last entry that starts at or before
the code point (`CodeTable.search`). Each step halves the range still searched, which is what ends
the search.
-/

namespace HttpReactor

namespace Text

/-- The value of a small hexadecimal digit. -/
def smallHexDigit? (c : Char) : Option Nat :=
  if '0' ≤ c && c ≤ '9' then some (c.toNat - 48)
  else if 'a' ≤ c && c ≤ 'f' then some (c.toNat - 87)
  else none

/-- The number written in small hexadecimal digits; none when the text is empty or holds anything
else. -/
def readSmallHex (s : String) : Option Nat :=
  if s.isEmpty then none
  else s.toList.foldl (fun acc c => do
    let v ← acc
    let d ← smallHexDigit? c
    pure (v * 16 + d)) (some 0)

/-- Code points in increasing order, each with the value that holds from it on. -/
structure CodeTable (α : Type) where
  entries : Array (Nat × α)

namespace CodeTable

variable {α : Type}

/-- Reads a table from its text; a word that `value` cannot read is left out. -/
def read (value : String → Option α) (text : String) : CodeTable α :=
  ⟨((text.splitOn " ").filterMap fun word =>
    match word.splitOn "=" with
    | [start, v] => do
      let n ← readSmallHex start
      let a ← value v
      pure (n, a)
    | _ => none).toArray⟩

/-- The start of entry `i`, or zero past the end. -/
def startAt (t : CodeTable α) (i : Nat) : Nat := (t.entries[i]?.map (·.1)).getD 0

/-- The index of the last entry from `lo` below `hi` whose start is at most `n`, assuming the entry
at `lo` starts at most at `n`. -/
def search (t : CodeTable α) (n lo hi : Nat) : Nat :=
  if lo + 1 < hi then
    if t.startAt ((lo + hi) / 2) ≤ n then t.search n ((lo + hi) / 2) hi
    else t.search n lo ((lo + hi) / 2)
  else lo
termination_by hi - lo
decreasing_by all_goals omega

/-- The value at code point `n`: that of the last entry starting at or before it. -/
def get (t : CodeTable α) (default : α) (n : Nat) : α :=
  let i := t.search n 0 t.entries.size
  match t.entries[i]? with
  | some (start, a) => if start ≤ n then a else default
  | none => default

/-- The entry whose start is exactly `n`, in a table whose starts are distinct keys. -/
def find? (t : CodeTable α) (n : Nat) : Option α :=
  let i := t.search n 0 t.entries.size
  match t.entries[i]? with
  | some (start, a) => if start = n then some a else none
  | none => none

end CodeTable

end Text

end HttpReactor
