import HttpReactor.Yaml.Token
/-!
# Reading scalars

A scalar is written plain, between single or double quotes, or as a literal or folded block.
Inside plain and quoted scalars line breaks fold: a single break between two words becomes a
space, and each further empty line keeps one line feed. A plain scalar ends before `: `, before a
comment, at a document marker, or where a line is indented less than the block it belongs to; in a
collection written in brackets it also ends at `,`, `[`, `]`, `{` and `}`. Double quotes read
backslash escapes. A block scalar keeps the lines indented under its indicator, its last line
breaks kept, dropped or clipped as the indicator says.

Each reader takes a budget of steps, one per character it may read, so that it is total; callers
give the length of the rest of the text plus one, which is never used up.
-/

namespace HttpReactor

namespace Yaml

/-- What a scalar reader carries from line to line. -/
structure Folding where
  cur : Cursor
  /-- The text read so far. -/
  text : String
  /-- The first line break of the current run of breaks, if the run has begun. -/
  leadingBreak : String
  /-- The line breaks after the first one. -/
  trailingBreaks : String
  /-- The blanks since the last word, before any line break. -/
  spaces : String
  /-- A line break has been read since the last word. -/
  broken : Bool
  /-- Where the text read so far ends. -/
  stop : Mark
  deriving Inhabited

namespace Folding

/-- Starts reading at a cursor. -/
def begin (c : Cursor) : Folding := ⟨c, "", "", "", "", false, c.mark⟩

/-- Joins the blanks or breaks since the last word before the next word: one break folds into a
space, further breaks stay line feeds, and blanks are kept when there was no break. -/
def join (f : Folding) : Folding :=
  if f.broken then
    if f.leadingBreak == "\n" then
      if f.trailingBreaks.isEmpty then { f with text := f.text.push ' ', leadingBreak := "", broken := false }
      else { f with text := f.text ++ f.trailingBreaks, trailingBreaks := "", leadingBreak := "", broken := false }
    else
      { f with text := f.text ++ f.leadingBreak ++ f.trailingBreaks, leadingBreak := "", trailingBreaks := "",
               broken := false }
  else { f with text := f.text ++ f.spaces, spaces := "" }

/-- Reads a blank or a line break between words. -/
def blankOrBreak (f : Folding) : Folding :=
  match f.cur.peek 0 with
  | some ch =>
    if isBlank ch then
      if f.broken then { f with cur := f.cur.skip }
      else { f with cur := f.cur.skip, spaces := f.spaces.push ch }
    else
      let (c', b) := f.cur.readLine
      if f.broken then { f with cur := c', trailingBreaks := f.trailingBreaks.push b }
      else { f with cur := c', spaces := "", leadingBreak := String.singleton b, broken := true }
  | none => f

end Folding

/-- The characters that end a plain scalar inside brackets. -/
def isFlowIndicator (c : Char) : Bool := c = ',' || c = '[' || c = ']' || c = '{' || c = '}'

/-- The words of a plain scalar on one line. -/
def plainWords (flow : Bool) (start : Mark) : Nat → Folding → Except Malformed Folding
  | 0, f => .ok f
  | fuel + 1, f =>
    let c := f.cur
    if endsWord (c.peek 0) then .ok f
    else if flow && c.isAt ':' 0 && (match c.peek 1 with
        | some d => d = ',' || d = '?' || d = '[' || d = ']' || d = '{' || d = '}'
        | none => false) then
      .error (.within "while scanning a plain scalar" start "found unexpected ':'" c.mark)
    else if (c.isAt ':' 0 && endsWord (c.peek 1)) || (flow && (c.peek 0).any isFlowIndicator) then .ok f
    else
      let f := if f.broken || !f.spaces.isEmpty then f.join else f
      match c.peek 0 with
      | some ch =>
        let c' := c.skip
        plainWords flow start fuel { f with cur := c', text := f.text.push ch, stop := c'.mark }
      | none => .ok f

/-- The blanks and line breaks after the words of a line of a plain scalar. -/
def plainBlanks (indent : Int) (start : Mark) : Nat → Folding → Except Malformed Folding
  | 0, f => .ok f
  | fuel + 1, f =>
    match f.cur.peek 0 with
    | some ch =>
      if isBlank ch then
        if f.broken && (f.cur.mark.column : Int) < indent && ch = '\t' then
          .error (.within "while scanning a plain scalar" start
            "found a tab character that violates indentation" f.cur.mark)
        else plainBlanks indent start fuel f.blankOrBreak
      else if isBreak ch then plainBlanks indent start fuel f.blankOrBreak
      else .ok f
    | none => .ok f

/-- The lines of a plain scalar. -/
def plainLines (flow : Bool) (indent : Int) (start : Mark) : Nat → Folding → Except Malformed Folding
  | 0, f => .ok f
  | fuel + 1, f =>
    if f.cur.atDocumentIndicator || f.cur.isAt '#' 0 then .ok f
    else do
      let f ← plainWords flow start (f.cur.budget + 1) f
      match f.cur.peek 0 with
      | some ch =>
        if !(isBlank ch || isBreak ch) then return f
        let f ← plainBlanks indent start (f.cur.budget + 1) f
        if !flow && (f.cur.mark.column : Int) < indent then return f
        plainLines flow indent start fuel f
      | none => return f

/-- Reads a plain scalar; also says whether it ran over a line break, after which a simple key
may follow. `indent` is the indentation of the enclosing block. -/
def scanPlain (c : Cursor) (indent : Int) (flow : Bool) : Except Malformed (Token × Cursor × Bool) := do
  let f ← plainLines flow (indent + 1) c.mark (c.budget + 1) (Folding.begin c)
  return (⟨.scalar f.text .plain, c.mark, f.stop⟩, f.cur, f.broken)

/-- The value of a hexadecimal digit. -/
def hexDigitValue (c : Char) : Nat :=
  if c.isDigit then c.toNat - 48 else if 'a' ≤ c ∧ c ≤ 'f' then c.toNat - 87 else c.toNat - 55

/-- A hexadecimal digit. -/
def isHexChar (c : Char) : Bool := c.isDigit || ('a' ≤ c && c ≤ 'f') || ('A' ≤ c && c ≤ 'F')

/-- The character a one-letter escape stands for, or the number of hexadecimal digits that
follow it. -/
def escapeOf (e : Char) : Option (Sum Char Nat) :=
  match e with
  | '0' => some (.inl '\x00')
  | 'a' => some (.inl '\x07')
  | 'b' => some (.inl '\x08')
  | 't' => some (.inl '\t')
  | '\t' => some (.inl '\t')
  | 'n' => some (.inl '\n')
  | 'v' => some (.inl '\x0b')
  | 'f' => some (.inl '\x0c')
  | 'r' => some (.inl '\r')
  | 'e' => some (.inl '\x1b')
  | ' ' => some (.inl ' ')
  | '"' => some (.inl '"')
  | '/' => some (.inl '/')
  | '\\' => some (.inl '\\')
  | 'N' => some (.inl '\x85')
  | '_' => some (.inl '\xa0')
  | 'L' => some (.inl '\u2028')
  | 'P' => some (.inl '\u2029')
  | 'x' => some (.inr 2)
  | 'u' => some (.inr 4)
  | 'U' => some (.inr 8)
  | _ => none

/-- Reads `n` hexadecimal digits. -/
def hexCode (c : Cursor) (n : Nat) : Option Nat :=
  let ds := c.rest.take n
  if ds.length = n && ds.all isHexChar then some (ds.foldl (fun v d => v * 16 + hexDigitValue d) 0)
  else none

/-- The words of a quoted scalar on one line, with its escapes. -/
def quotedWords (single : Bool) (start : Mark) : Nat → Folding → Except Malformed Folding
  | 0, f => .ok f
  | fuel + 1, f =>
    let c := f.cur
    let quote := if single then '\'' else '"'
    if endsWord (c.peek 0) then .ok f
    else if single && c.isAt '\'' 0 && c.isAt '\'' 1 then
      quotedWords single start fuel { f with cur := c.skipN 2, text := f.text.push '\'' }
    else if c.isAt quote 0 then .ok f
    else if !single && c.isAt '\\' 0 && (c.peek 1).any isBreak then
      .ok { f with cur := c.skip.skipLine, broken := true }
    else if !single && c.isAt '\\' 0 then
      match (c.peek 1).bind escapeOf with
      | none => .error (.within "while parsing a quoted scalar" start "found unknown escape character" c.mark)
      | some (.inl ch) => quotedWords single start fuel { f with cur := c.skipN 2, text := f.text.push ch }
      | some (.inr n) =>
        let c2 := c.skipN 2
        match hexCode c2 n with
        | none => .error (.within "while parsing a quoted scalar" start
            "did not find expected hexadecimal number" c2.mark)
        | some v =>
          if (0xD800 ≤ v && v ≤ 0xDFFF) || v > 0x10FFFF then
            .error (.within "while parsing a quoted scalar" start
              "found invalid Unicode character escape code" c2.mark)
          else quotedWords single start fuel { f with cur := c2.skipN n, text := f.text.push (Char.ofNat v) }
    else
      match c.peek 0 with
      | some ch => quotedWords single start fuel { f with cur := c.skip, text := f.text.push ch }
      | none => .ok f

/-- The blanks and line breaks inside a quoted scalar. -/
def quotedBlanks : Nat → Folding → Folding
  | 0, f => f
  | fuel + 1, f =>
    match f.cur.peek 0 with
    | some ch => if isBlank ch || isBreak ch then quotedBlanks fuel f.blankOrBreak else f
    | none => f

/-- The lines of a quoted scalar, up to its closing quote. -/
def quotedLines (single : Bool) (start : Mark) : Nat → Folding → Except Malformed Folding
  | 0, f => .ok f
  | fuel + 1, f => do
    if f.cur.atDocumentIndicator then
      throw (.within "while scanning a quoted scalar" start "found unexpected document indicator" f.cur.mark)
    if f.cur.peek 0 == none then
      throw (.within "while scanning a quoted scalar" start "found unexpected end of stream" f.cur.mark)
    let f ← quotedWords single start (f.cur.budget + 1) { f with broken := false }
    if f.cur.isAt (if single then '\'' else '"') 0 then return f
    let f := quotedBlanks (f.cur.budget + 1) f
    quotedLines single start fuel f.join

/-- Reads a scalar between single or double quotes. -/
def scanQuoted (c : Cursor) (single : Bool) : Except Malformed (Token × Cursor) := do
  let f ← quotedLines single c.mark (c.budget + 1) (Folding.begin c.skip)
  let c' := f.cur.skip
  return (⟨.scalar f.text (if single then .singleQuoted else .doubleQuoted), c.mark, c'.mark⟩, c')

/-- The state of a block scalar reader. -/
structure Block where
  cur : Cursor
  text : String
  leadingBreak : String
  trailingBreaks : String
  leadingBlank : Bool
  indent : Nat
  stop : Mark
  deriving Inhabited

/-- Passes over the indentation of the next lines and the empty lines among them; fixes the
indentation from the first non-empty line if no indicator gave it. -/
def blockBreaks (outer : Int) (start : Mark) : Nat → Nat → Block → Except Malformed Block
  | 0, _, b => .ok b
  | fuel + 1, maxIndent, b =>
    let b := { b with stop := b.cur.mark }
    let skipSpaces := fun (b : Block) =>
      let rec go : Nat → Cursor → Cursor
        | 0, c => c
        | k + 1, c => if (b.indent == 0 || c.mark.column < b.indent) && c.isAt ' ' 0 then go k c.skip else c
      { b with cur := go (b.cur.budget + 1) b.cur }
    let b := skipSpaces b
    let maxIndent := max maxIndent b.cur.mark.column
    if (b.indent == 0 || b.cur.mark.column < b.indent) && b.cur.isAt '\t' 0 then
      .error (.within "while scanning a block scalar" start
        "found a tab character where an indentation space is expected" b.cur.mark)
    else if (b.cur.peek 0).any isBreak then
      let (c', br) := b.cur.readLine
      blockBreaks outer start fuel maxIndent
        { b with cur := c', trailingBreaks := b.trailingBreaks.push br, stop := c'.mark }
    else if b.indent == 0 then
      let i : Int := max (max (maxIndent : Int) (outer + 1)) 1
      .ok { b with indent := i.toNat }
    else .ok b

/-- The text of one line of a block scalar, up to its line break. -/
def blockLineText : Nat → Cursor → String → Cursor × String
  | 0, c, s => (c, s)
  | fuel + 1, c, s =>
    match c.peek 0 with
    | some ch => if isBreak ch then (c, s) else blockLineText fuel c.skip (s.push ch)
    | none => (c, s)

/-- The lines of a block scalar at its indentation. -/
def blockLines (literal : Bool) (outer : Int) (start : Mark) : Nat → Block → Except Malformed Block
  | 0, b => .ok b
  | fuel + 1, b =>
    if b.cur.mark.column != b.indent || b.cur.peek 0 == none then .ok b
    else do
      let trailingBlank := (b.cur.peek 0).any isBlank
      let b :=
        if !literal && b.leadingBreak == "\n" && !b.leadingBlank && !trailingBlank then
          { b with text := if b.trailingBreaks.isEmpty then b.text.push ' ' else b.text, leadingBreak := "" }
        else { b with text := b.text ++ b.leadingBreak, leadingBreak := "" }
      let b := { b with text := b.text ++ b.trailingBreaks, trailingBreaks := "" }
      let b := { b with leadingBlank := (b.cur.peek 0).any isBlank }
      let (c', t) := blockLineText (b.cur.budget + 1) b.cur b.text
      let (c'', br) :=
        if (c'.peek 0).any isBreak then
          let r := c'.readLine
          (r.1, String.singleton r.2)
        else (c', "")
      let b := { b with cur := c'', text := t, leadingBreak := br }
      let b ← blockBreaks outer start (b.cur.budget + 1) 0 b
      blockLines literal outer start fuel b

/-- Reads a literal (`|`) or folded (`>`) block scalar; `outer` is the indentation of the
enclosing block. -/
def scanBlock (c0 : Cursor) (literal : Bool) (outer : Int) : Except Malformed (Token × Cursor) := do
  let start := c0.mark
  let c := c0.skip
  let zeroIndent := Malformed.within "while scanning a block scalar" start "found an indentation indicator equal to 0"
  -- chomping: +1 keep, -1 strip, 0 clip; then the indentation indicator, in either order
  let (chomp, increment, c) ←
    match c.peek 0 with
    | some '+' | some '-' =>
      let chomp : Int := if c.isAt '+' 0 then 1 else -1
      let c := c.skip
      match c.peek 0 with
      | some d =>
        if d.isDigit then
          if d = '0' then throw (zeroIndent c.mark) else pure (chomp, d.toNat - 48, c.skip)
        else pure (chomp, 0, c)
      | none => pure (chomp, 0, c)
    | some d =>
      if d.isDigit then
        if d = '0' then throw (zeroIndent c.mark)
        else
          let c := c.skip
          if c.isAt '+' 0 then pure (1, d.toNat - 48, c.skip)
          else if c.isAt '-' 0 then pure (-1, d.toNat - 48, c.skip)
          else pure (0, d.toNat - 48, c)
      else pure (0, 0, c)
    | none => pure (0, 0, c)
  -- blanks and a comment up to the end of the line
  let rec skipTo : Nat → Cursor → Cursor
    | 0, c => c
    | k + 1, c => if (c.peek 0).any isBlank then skipTo k c.skip else c
  let c := skipTo (c.budget + 1) c
  let rec skipComment : Nat → Cursor → Cursor
    | 0, c => c
    | k + 1, c => if endsLine (c.peek 0) then c else skipComment k c.skip
  let c := if c.isAt '#' 0 then skipComment (c.budget + 1) c else c
  if !endsLine (c.peek 0) then
    throw (.within "while scanning a block scalar" start "did not find expected comment or line break" c.mark)
  let c := if (c.peek 0).any isBreak then c.skipLine else c
  let indent : Nat := if increment > 0 then (if outer ≥ 0 then (outer + increment).toNat else increment) else 0
  let b : Block := ⟨c, "", "", "", false, indent, c.mark⟩
  let b ← blockBreaks outer start (c.budget + 1) 0 b
  let b ← blockLines literal outer start (c.budget + 1) b
  let text := if chomp != -1 then b.text ++ b.leadingBreak else b.text
  let text := if chomp == 1 then text ++ b.trailingBreaks else text
  return (⟨.scalar text (if literal then .literal else .folded), start, b.stop⟩, b.cur)

end Yaml

end HttpReactor
