import HttpReactor.Yaml.Token.Scalar
import HttpReactor.Yaml.Token.Property
/-!
# The token stream

The scanner turns the text into tokens on demand. Two things make this more than reading one
token after another.

* A key written without `?` is only recognised when the `:` after it is found. The scanner
  remembers, for each level of brackets, where such a key could have begun (a key site) and the
  number of the token that would follow it; on `:` it inserts the key token there. A site lapses
  when the scanner leaves its line or moves more than 1024 octets past it; a site that had to
  become a key (it started a line of a block mapping) is then an error.
* Block collections have no brackets: their start tokens are inserted where their first key or
  entry began, when the indentation grows, and their end tokens are added when it shrinks.

A token is handed out only when no pending key site could still put a key token in front of it.
Before anything is read, the text is checked for characters YAML does not allow.
-/

namespace HttpReactor

namespace Yaml

/-- A place where a key written without `?` may have begun. -/
structure KeySite where
  /-- The key must be completed: it starts a line of a block mapping at its indentation. -/
  required : Bool
  /-- The number of the token the key would precede. -/
  tokenNumber : Nat
  mark : Mark
  deriving Repr, Inhabited

/-- Whether the reader accepts a character: tab, line feed, carriage return, printable ASCII,
next line, and the rest of Unicode apart from the C1 controls, the surrogates, U+FFFE and
U+FFFF. -/
def isReadable (c : Char) : Bool :=
  let v := c.toNat
  v == 0x09 || v == 0x0A || v == 0x0D || (0x20 ≤ v && v ≤ 0x7E) || v == 0x85 ||
    (0xA0 ≤ v && v ≤ 0xD7FF) || (0xE000 ≤ v && v ≤ 0xFFFD) || (0x10000 ≤ v && v ≤ 0x10FFFF)

/-- The octet offset of the first character the reader refuses, counting from `offset`. -/
def firstUnreadable : List Char → Nat → Option Nat
  | [], _ => none
  | c :: rest, offset => if isReadable c then firstUnreadable rest (offset + c.utf8Size) else some offset

/-- The scanner: the unread text, the tokens scanned but not yet taken, and what is needed to
place the tokens that depend on later text. -/
structure Scanner where
  cur : Cursor
  /-- The stream start token has been produced. -/
  started : Bool
  /-- Every token scanned so far, in order; those from position `taken` on are not yet taken. -/
  queue : Array Token
  /-- How many tokens have been taken. -/
  taken : Nat
  /-- The first queued token is safe to hand out. -/
  available : Bool
  /-- The indentation of the innermost block collection; -1 outside any. -/
  indent : Int
  /-- The indentations of the enclosing block collections, innermost first. -/
  indents : List Int
  /-- A key without `?` may begin at the current position. -/
  keyAllowed : Bool
  /-- One optional key site per level of brackets, innermost last. -/
  keys : Array (Option KeySite)
  /-- How many brackets are open. -/
  flowLevel : Nat
  /-- The reader's objection to the text, raised when the first token is asked for. -/
  refused : Option Malformed
  deriving Inhabited

namespace Scanner

/-- A scanner at the start of a text. A leading byte order mark is dropped; it still counts in
the octet offsets of the reader's objections. -/
def ofString (s : String) : Scanner :=
  let (cs, base) := match s.toList with
    | '\uFEFF' :: rest => (rest, 3)
    | cs => (cs, 0)
  let refused := (firstUnreadable cs base).map fun off =>
    (⟨"control characters are not allowed", Mark.start, off, none⟩ : Malformed)
  ⟨⟨cs, Mark.start, cs.length⟩, false, #[], 0, false, -1, [], false, #[], 0, refused⟩

/-- Adds a token at the end of the queue. -/
def enqueue (s : Scanner) (t : Token) : Scanner := { s with queue := s.queue.push t }

/-- Inserts a token before the one numbered `n` (at the end if there is none). -/
def insertToken (s : Scanner) (n : Nat) (t : Token) : Scanner :=
  { s with queue := if n ≤ s.queue.size then s.queue.insertIdxIfInBounds n t else s.queue.push t }

/-- The key site of the innermost level. -/
def topKey (s : Scanner) : Option KeySite := s.keys.back?.join

/-- Replaces the key site of the innermost level. -/
def setTopKey (s : Scanner) (k : Option KeySite) : Scanner :=
  { s with keys := s.keys.setIfInBounds (s.keys.size - 1) k }

/-- The error for a required key site that was never completed. -/
def keyError (k : KeySite) (m : Mark) : Malformed :=
  .within "while scanning a simple key" k.mark "could not find expected ':'" m

/-- Forgets the innermost key site; it is an error to forget a required one. -/
def removeKey (s : Scanner) : Except Malformed Scanner :=
  match s.topKey with
  | some k => if k.required then .error (keyError k s.cur.mark) else .ok (s.setTopKey none)
  | none => .ok s

/-- Records the current position as the innermost key site, when a key may begin here. -/
def saveKey (s : Scanner) : Except Malformed Scanner := do
  if !s.keyAllowed then return s
  let required := s.flowLevel == 0 && s.indent == (s.cur.mark.column : Int)
  let site : KeySite := ⟨required, s.queue.size, s.cur.mark⟩
  let s ← s.removeKey
  return s.setTopKey (some site)

/-- A key site lapses once the scanner is on a later line or more than 1024 octets on. -/
def staleKey (m : Mark) : Option KeySite → Except Malformed (Option KeySite)
  | some k =>
    if k.mark.line < m.line || k.mark.index + 1024 < m.index then
      if k.required then .error (keyError k m) else .ok none
    else .ok (some k)
  | none => .ok none

/-- Lets lapsed key sites go, the outermost level first: levels `i` and up are still to see. -/
def staleFrom (m : Mark) (keys : Array (Option KeySite)) (i : Nat) :
    Except Malformed (Array (Option KeySite)) :=
  if h : i < keys.size then do
    match keys[i] with
    | none => staleFrom m keys (i + 1)
    | some k =>
      match ← staleKey m (some k) with
      | some _ => staleFrom m keys (i + 1)
      | none => staleFrom m (keys.set i none (by simpa using h)) (i + 1)
  else .ok keys
termination_by keys.size - i
decreasing_by all_goals (try simp only [Array.size_set]); omega

/-- Lets lapsed key sites go, the outermost level first. -/
def staleAll (m : Mark) (keys : Array (Option KeySite)) : Except Malformed (Array (Option KeySite)) :=
  staleFrom m keys 0

/-- Closes the block collections indented more than `column`, one end token each. -/
def unrollTo (column : Int) (m : Mark) : Int → List Int → List Token → Int × List Int × List Token
  | indent, i :: rest, out =>
    if indent > column then unrollTo column m i rest (out ++ [⟨.blockEnd, m, m⟩])
    else (indent, i :: rest, out)
  | indent, [], out => (indent, [], out)

/-- Closes the block collections indented more than `column`; nothing inside brackets. -/
def unroll (s : Scanner) (column : Int) : Scanner :=
  if s.flowLevel > 0 then s
  else
    let (indent, indents, out) := unrollTo column s.cur.mark s.indent s.indents []
    { s with indent := indent, indents := indents, queue := s.queue ++ out.toArray }

/-- Opens a block collection at `column` if it is deeper than the current one: its start token
goes at the end of the queue, or before token `number` when that is given. -/
def roll (s : Scanner) (column : Int) (number : Option Nat) (kind : TokenKind) (m : Mark) : Scanner :=
  if s.flowLevel > 0 || !(s.indent < column) then s
  else
    let s := { s with indents := s.indent :: s.indents, indent := column }
    let t : Token := ⟨kind, m, m⟩
    match number with
    | none => s.enqueue t
    | some n => s.insertToken n t

/-- Passes over spaces, and tabs when `tabs` holds. -/
def skipSpaces (tabs : Bool) : Nat → Cursor → Cursor
  | 0, c => c
  | k + 1, c => if c.isAt ' ' 0 || (tabs && c.isAt '\t' 0) then skipSpaces tabs k c.skip else c

/-- Passes over the rest of a line. -/
def skipToBreak : Nat → Cursor → Cursor
  | 0, c => c
  | k + 1, c => if endsLine (c.peek 0) then c else skipToBreak k c.skip

/-- Passes over blanks, comments and line breaks up to the next token. Tabs are passed over
inside brackets and where no key may begin; a line break in a block allows a key again. -/
def skipToToken : Nat → Scanner → Scanner
  | 0, s => s
  | k + 1, s =>
    let c := s.cur
    let c := if c.mark.column == 0 && c.isAt '\uFEFF' 0 then c.skip else c
    let c := skipSpaces (s.flowLevel > 0 || !s.keyAllowed) (c.budget + 1) c
    let c := if c.isAt '#' 0 then skipToBreak (c.budget + 1) c else c
    if (c.peek 0).any isBreak then
      skipToToken k { s with cur := c.skipLine, keyAllowed := s.flowLevel == 0 || s.keyAllowed }
    else { s with cur := c }

/-- Reads `n` characters as a token of kind `kind`. -/
def single (s : Scanner) (kind : TokenKind) (n : Nat) : Scanner :=
  let c := s.cur.skipN n
  { s.enqueue ⟨kind, s.cur.mark, c.mark⟩ with cur := c }

/-- The stream start: the first token, after the reader has checked the text. -/
def streamStart (s : Scanner) : Except Malformed Scanner := do
  if let some e := s.refused then throw e
  let s := { s with indent := -1, keys := #[none], keyAllowed := true, started := true }
  return s.enqueue ⟨.streamStart, s.cur.mark, s.cur.mark⟩

/-- The stream end: it stands at the start of a line, after every block collection is closed. -/
def streamEnd (s : Scanner) : Except Malformed Scanner := do
  let c := s.cur
  let s := if c.mark.column != 0 then
      { s with cur := { c with mark := { c.mark with line := c.mark.line + 1, column := 0 } } }
    else s
  let s := s.unroll (-1)
  let s ← s.removeKey
  let s := { s with keyAllowed := false }
  return s.enqueue ⟨.streamEnd, s.cur.mark, s.cur.mark⟩

/-- A directive line. -/
def directive (s : Scanner) : Except Malformed Scanner := do
  let s := s.unroll (-1)
  let s ← s.removeKey
  let s := { s with keyAllowed := false }
  let (t, c) ← scanDirective s.cur
  return { s.enqueue t with cur := c }

/-- A document marker, `---` or `...`. -/
def documentMarker (s : Scanner) (kind : TokenKind) : Except Malformed Scanner := do
  let s := s.unroll (-1)
  let s ← s.removeKey
  return { s with keyAllowed := false }.single kind 3

/-- An opening bracket. -/
def flowStart (s : Scanner) (kind : TokenKind) : Except Malformed Scanner := do
  let s ← s.saveKey
  let s := { s with keys := s.keys.push none, flowLevel := s.flowLevel + 1, keyAllowed := true }
  return s.single kind 1

/-- A closing bracket. -/
def flowEnd (s : Scanner) (kind : TokenKind) : Except Malformed Scanner := do
  let s ← s.removeKey
  let s := if s.flowLevel > 0 then { s with flowLevel := s.flowLevel - 1, keys := s.keys.pop } else s
  return { s with keyAllowed := false }.single kind 1

/-- A comma between entries in brackets. -/
def flowEntry (s : Scanner) : Except Malformed Scanner := do
  let s ← s.removeKey
  return { s with keyAllowed := true }.single .flowEntry 1

/-- A `-` entry indicator; in a block it may open a sequence. -/
def blockEntry (s : Scanner) : Except Malformed Scanner := do
  let s ← if s.flowLevel == 0 then do
      if !s.keyAllowed then
        throw (.at_ "block sequence entries are not allowed in this context" s.cur.mark)
      pure (s.roll s.cur.mark.column none .blockSequenceStart s.cur.mark)
    else pure s
  let s ← s.removeKey
  return { s with keyAllowed := true }.single .blockEntry 1

/-- A `?` key indicator; in a block it may open a mapping. -/
def key (s : Scanner) : Except Malformed Scanner := do
  let s ← if s.flowLevel == 0 then do
      if !s.keyAllowed then
        throw (.at_ "mapping keys are not allowed in this context" s.cur.mark)
      pure (s.roll s.cur.mark.column none .blockMappingStart s.cur.mark)
    else pure s
  let s ← s.removeKey
  return { s with keyAllowed := s.flowLevel == 0 }.single .key 1

/-- A `:` value indicator. After a pending key site it inserts the key token there, and in a
block possibly the start of a mapping before it. -/
def value (s : Scanner) : Except Malformed Scanner := do
  let s ← match s.topKey with
    | some k =>
      let s := s.insertToken k.tokenNumber ⟨.key, k.mark, k.mark⟩
      let s := s.roll k.mark.column (some k.tokenNumber) .blockMappingStart k.mark
      pure { s.setTopKey none with keyAllowed := false }
    | none => do
      let s ← if s.flowLevel == 0 then do
          if !s.keyAllowed then
            throw (.at_ "mapping values are not allowed in this context" s.cur.mark)
          pure (s.roll s.cur.mark.column none .blockMappingStart s.cur.mark)
        else pure s
      pure { s with keyAllowed := s.flowLevel == 0 }
  return s.single .value 1

/-- A token that may be a key: anchors, aliases, tags and flow scalars. -/
def keyLike (s : Scanner) (read : Cursor → Except Malformed (Token × Cursor)) : Except Malformed Scanner := do
  let s ← s.saveKey
  let s := { s with keyAllowed := false }
  let (t, c) ← read s.cur
  return { s.enqueue t with cur := c }

/-- A literal or folded block scalar. -/
def blockScalar (s : Scanner) (literal : Bool) : Except Malformed Scanner := do
  let s ← s.removeKey
  let s := { s with keyAllowed := true }
  let (t, c) ← scanBlock s.cur literal s.indent
  return { s.enqueue t with cur := c }

/-- A plain scalar; a key may follow it when it ran over a line break. -/
def plain (s : Scanner) : Except Malformed Scanner := do
  let s ← s.saveKey
  let (t, c, broken) ← scanPlain s.cur s.indent (s.flowLevel > 0)
  return { s.enqueue t with cur := c, keyAllowed := broken }

/-- The characters that cannot begin a plain scalar, unless followed by a non-blank. -/
def indicators : List Char := ['-', '?', ':', ',', '[', ']', '{', '}', '#', '&', '*', '!', '|', '>',
  '\'', '"', '%', '@', '`']

/-- Scans the next token or tokens into the queue. -/
def fetchNext (s : Scanner) : Except Malformed Scanner := do
  if !s.started then return ← s.streamStart
  let s := skipToToken (s.cur.budget + 1) s
  let keys ← staleAll s.cur.mark s.keys
  let s := { s with keys := keys }
  let s := s.unroll s.cur.mark.column
  let c := s.cur
  let flow := s.flowLevel > 0
  match c.peek 0 with
  | none => s.streamEnd
  | some ch =>
    let next := c.peek 1
    let endsNext := endsWord next
    let atMarker := fun (m : Char) => c.mark.column == 0 && c.isAt m 0 && c.isAt m 1 && c.isAt m 2 &&
      endsWord (c.peek 3)
    if c.mark.column == 0 && ch == '%' then s.directive
    else if atMarker '-' then s.documentMarker .documentStart
    else if atMarker '.' then s.documentMarker .documentEnd
    else if ch == '[' then s.flowStart .flowSequenceStart
    else if ch == '{' then s.flowStart .flowMappingStart
    else if ch == ']' then s.flowEnd .flowSequenceEnd
    else if ch == '}' then s.flowEnd .flowMappingEnd
    else if ch == ',' then s.flowEntry
    else if ch == '-' && endsNext then s.blockEntry
    else if ch == '?' && (flow || endsNext) then s.key
    else if ch == ':' && (flow || endsNext) then s.value
    else if ch == '*' then s.keyLike fun c => scanAnchor c true
    else if ch == '&' then s.keyLike fun c => scanAnchor c false
    else if ch == '!' then s.keyLike fun c => scanTag c flow
    else if ch == '|' && !flow then s.blockScalar true
    else if ch == '>' && !flow then s.blockScalar false
    else if ch == '\'' then s.keyLike fun c => scanQuoted c true
    else if ch == '"' then s.keyLike fun c => scanQuoted c false
    else if !(isBlank ch || isBreak ch || indicators.contains ch) || (ch == '-' && !(next.any isBlank)) ||
        (!flow && (ch == '?' || ch == ':') && !endsNext) then s.plain
    else throw (.within "while scanning for the next token" c.mark "found character that cannot start any token" c.mark)

/-- More tokens are needed when the queue is empty or a pending key site could still put a key
token in front of its first token. -/
def needsMore (s : Scanner) : Except Malformed (Bool × Scanner) :=
  if s.queue.size ≤ s.taken then .ok (true, s)
  else do
    let keys ← staleAll s.cur.mark s.keys
    let s := { s with keys := keys }
    return (s.keys.any (fun k => k.any (·.tokenNumber == s.taken)), s)

/-- Scans until the first queued token is safe to hand out. Every scan but the two at the end
of the stream reads a character, so the length of the rest plus a few steps is enough. -/
def fetchMore : Nat → Scanner → Except Malformed Scanner
  | 0, s => .ok { s with available := true }
  | k + 1, s => do
    let (more, s) ← s.needsMore
    if more then fetchMore k (← s.fetchNext) else return { s with available := true }

/-- The next token, without taking it. -/
def peekToken (s : Scanner) : Except Malformed (Token × Scanner) := do
  let s ← if s.available then pure s else fetchMore (s.cur.budget + 8) s
  match s.queue[s.taken]? with
  | some t => return (t, s)
  | none => return (⟨.streamEnd, s.cur.mark, s.cur.mark⟩, s)

/-- Takes the next token. -/
def skipToken (s : Scanner) : Scanner :=
  { s with available := false, taken := s.taken + 1 }

end Scanner

end Yaml

end HttpReactor
