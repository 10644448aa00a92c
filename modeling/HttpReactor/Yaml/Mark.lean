/-!
# Positions in a YAML text

A mark is a position in the text: how many octets of its UTF-8 form come before it, and its line
and column, both counted from zero in characters. A malformed text is reported by what is wrong and where, optionally
followed by what was being read and where that began. Reports give lines and columns counted
from one, and leave out a position that is the very start of the text.

A cursor is the unread rest of the text together with the mark of its first character.
-/

namespace HttpReactor

namespace Yaml

/-- A position in the text. -/
structure Mark where
  index : Nat
  line : Nat
  column : Nat
  deriving DecidableEq, Repr, Inhabited

namespace Mark

/-- The start of the text. -/
def start : Mark := ⟨0, 0, 0⟩

/-- The position after one more character of `width` octets on the same line. -/
def next (m : Mark) (width : Nat) : Mark := ⟨m.index + width, m.line, m.column + 1⟩

/-- The position at the start of the next line, after a line break of `width` octets. -/
def newline (m : Mark) (width : Nat) : Mark := ⟨m.index + width, m.line + 1, 0⟩

/-- The position as reported, counted from one. -/
def text (m : Mark) : String := "line " ++ toString (m.line + 1) ++ " column " ++ toString (m.column + 1)

/-- The position is the very start of a line and of the text's first line. -/
def isOrigin (m : Mark) : Bool := m.line == 0 && m.column == 0

end Mark

/-- A text that is not well-formed YAML, with what is wrong and where. -/
structure Malformed where
  problem : String
  mark : Mark
  /-- For a character the reader refuses: its offset in octets. -/
  offset : Nat
  /-- What was being read, and where it began. -/
  context : Option (String × Mark)
  deriving DecidableEq, Repr

namespace Malformed

/-- A problem found at `mark`. -/
def at_ (problem : String) (mark : Mark) : Malformed := ⟨problem, mark, 0, none⟩

/-- A problem found at `mark` while reading something that began at `contextMark`. -/
def within (context : String) (contextMark : Mark) (problem : String) (mark : Mark) : Malformed :=
  ⟨problem, mark, 0, some (context, contextMark)⟩

/-- The report: the problem and its position, then the context and its position when it differs. -/
def message (e : Malformed) : String :=
  let place :=
    if !e.mark.isOrigin then " at " ++ e.mark.text
    else if e.offset != 0 then " at position " ++ toString e.offset
    else ""
  let ctx := match e.context with
    | none => ""
    | some (c, m) =>
      ", " ++ c ++ (if !m.isOrigin && (m.line != e.mark.line || m.column != e.mark.column) then
        " at " ++ m.text else "")
  e.problem ++ place ++ ctx

end Malformed

/-- A line break: line feed, carriage return, next line, line or paragraph separator. -/
def isBreak (c : Char) : Bool :=
  c = '\n' || c = '\r' || c = '\x85' || c = '\u2028' || c = '\u2029'

/-- A space or a tab. -/
def isBlank (c : Char) : Bool := c = ' ' || c = '\t'

/-- The character ends a word: a blank, a line break, or the end of the text. -/
def endsWord : Option Char → Bool
  | some c => isBlank c || isBreak c
  | none => true

/-- The character ends a line: a line break or the end of the text. -/
def endsLine : Option Char → Bool
  | some c => isBreak c
  | none => true

/-- A character of an anchor name or a tag handle: letters, digits, `_` and `-`. -/
def isWordChar (c : Char) : Bool := c.isAlphanum || c = '_' || c = '-'

/-- The unread rest of the text and the position of its first character. -/
structure Cursor where
  rest : List Char
  mark : Mark
  /-- The length of the whole text: a bound on the characters left, fixed when the text is
  opened, which bounds every loop over the rest. -/
  budget : Nat
  deriving Repr, Inhabited

namespace Cursor

/-- The character `k` places ahead, if any. -/
def peek (c : Cursor) (k : Nat) : Option Char := c.rest[k]?

/-- The next character is `ch`. -/
def isAt (c : Cursor) (ch : Char) (k : Nat) : Bool := c.peek k == some ch

/-- Passes over one character that is not a line break. -/
def skip (c : Cursor) : Cursor :=
  ⟨c.rest.drop 1, c.mark.next ((c.rest.head?.map Char.utf8Size).getD 0), c.budget⟩

/-- Passes over `n` characters that are not line breaks. -/
def skipN (c : Cursor) : Nat → Cursor
  | 0 => c
  | n + 1 => (c.skip).skipN n

/-- Passes over a line break; CR LF counts as one. -/
def skipLine (c : Cursor) : Cursor :=
  match c.rest with
  | '\r' :: '\n' :: r => ⟨r, c.mark.newline 2, c.budget⟩
  | ch :: r => if isBreak ch then ⟨r, c.mark.newline ch.utf8Size, c.budget⟩ else c
  | [] => c

/-- Passes over a line break and gives it as read: CR LF, CR and next line become a line feed,
and the line and paragraph separators stay as they are. -/
def readLine (c : Cursor) : Cursor × Char :=
  match c.rest with
  | '\r' :: '\n' :: r => (⟨r, c.mark.newline 2, c.budget⟩, '\n')
  | ch :: r =>
    if ch = '\r' || ch = '\n' || ch = '\x85' then (⟨r, c.mark.newline ch.utf8Size, c.budget⟩, '\n')
    else if ch = '\u2028' || ch = '\u2029' then (⟨r, c.mark.newline ch.utf8Size, c.budget⟩, ch)
    else (c, ch)
  | [] => (c, '\n')

/-- The next four characters are `---` or `...` followed by a blank or break, at column zero. -/
def atDocumentIndicator (c : Cursor) : Bool :=
  c.mark.column == 0 &&
    ((c.isAt '-' 0 && c.isAt '-' 1 && c.isAt '-' 2) || (c.isAt '.' 0 && c.isAt '.' 1 && c.isAt '.' 2)) &&
    endsWord (c.peek 3)

end Cursor

end Yaml

end HttpReactor
