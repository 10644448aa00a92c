import HttpReactor.Yaml.Token
/-!
# Reading anchors, tags and directives

An anchor `&name` or alias `*name` is a run of word characters followed by a blank, a line break
or an indicator. A tag is `!<uri>`, `!handle!suffix` or `!suffix`; its characters are those of a
URI, and `%XX` escapes in it spell UTF-8 octets. The escapes of one character are checked only
for their shape: a leading octet that says how many follow, and that many continuation octets.
Octets of that shape that still spell no character (an overlong form, a surrogate, a number past
the last code point) stand in the tag as the replacement character, so the tag is not empty and
matches none of the tags that mean something to a reader. A directive is `%YAML major.minor` or
`%TAG handle expansion`, alone on its line apart from a comment.
-/

namespace HttpReactor

namespace Yaml

/-- Passes over the characters that satisfy `p`, collecting them. -/
def takeWhileC (p : Char → Bool) : Nat → Cursor → String → Cursor × String
  | 0, c, s => (c, s)
  | fuel + 1, c, s =>
    match c.peek 0 with
    | some ch => if p ch then takeWhileC p fuel c.skip (s.push ch) else (c, s)
    | none => (c, s)

/-- Passes over blanks. -/
def skipBlanks (c : Cursor) : Cursor := (takeWhileC isBlank (c.budget + 1) c "").1

/-- Reads an anchor (`&`) or an alias (`*`). -/
def scanAnchor (c0 : Cursor) (isAlias : Bool) : Except Malformed (Token × Cursor) := do
  let (c, name) := takeWhileC isWordChar (c0.budget + 1) c0.skip ""
  let ok := match c.peek 0 with
    | some ch => isBlank ch || isBreak ch || ch = '?' || ch = ':' || ch = ',' || ch = ']' ||
        ch = '}' || ch = '%' || ch = '@' || ch = '`'
    | none => true
  if name.isEmpty || !ok then
    throw (.within (if isAlias then "while scanning an alias" else "while scanning an anchor") c0.mark
      "did not find expected alphabetic or numeric character" c.mark)
  return (⟨if isAlias then .alias name else .anchor name, c0.mark, c.mark⟩, c)

/-- A character that may stand in a tag; inside `!<…>` also `,`, `[` and `]`. -/
def isUriChar (verbatim : Bool) (ch : Char) : Bool :=
  isWordChar ch || ";/?:@&=+$.%!~*'()".contains ch || (verbatim && (ch = ',' || ch = '[' || ch = ']'))

/-- Reads `%XX` escapes that spell one UTF-8 character. -/
def uriEscapes (context : String) (start : Mark) : Nat → Nat → Cursor → List UInt8 →
    Except Malformed (Cursor × List UInt8)
  | 0, _, c, acc => .ok (c, acc)
  | fuel + 1, width, c, acc =>
    let hex := fun (k : Nat) => (c.peek k).any fun d => d.isDigit || ('a' ≤ d && d ≤ 'f') || ('A' ≤ d && d ≤ 'F')
    if !(c.isAt '%' 0 && hex 1 && hex 2) then
      .error (.within context start "did not find URI escaped octet" c.mark)
    else
      let v : Nat → Nat := fun k => match c.peek k with
        | some d => if d.isDigit then d.toNat - 48 else if 'a' ≤ d ∧ d ≤ 'f' then d.toNat - 87 else d.toNat - 55
        | none => 0
      let octet : Nat := v 1 * 16 + v 2
      let width :=
        if width != 0 then width
        else if octet < 0x80 then 1 else if octet / 32 == 6 then 2 else if octet / 16 == 14 then 3
        else if octet / 8 == 30 then 4 else 0
      if width == 0 then .error (.within context start "found an incorrect leading UTF-8 octet" c.mark)
      else if acc.length > 0 && octet / 64 != 2 then
        .error (.within context start "found an incorrect trailing UTF-8 octet" c.mark)
      else
        let acc := acc ++ [octet.toUInt8]
        if acc.length == width then .ok (c.skipN 3, acc)
        else uriEscapes context start fuel width (c.skipN 3) acc

/-- Reads the characters of a tag after `head`, of which the leading `!` is dropped. -/
def tagUri (verbatim directive : Bool) (head : String) (start : Mark) : Nat → Cursor → String →
    Except Malformed (Cursor × String)
  | 0, c, s => .ok (c, s)
  | fuel + 1, c, s =>
    match c.peek 0 with
    | some ch =>
      if isUriChar verbatim ch then
        if ch = '%' then do
          let (c', octets) ← uriEscapes (if directive then "while parsing a %TAG directive" else "while parsing a tag")
            start (c.budget + 1) 0 c []
          let text := (String.fromUTF8? ⟨octets.toArray⟩).getD (String.singleton '\uFFFD')
          tagUri verbatim directive head start fuel c' (s ++ text)
        else tagUri verbatim directive head start fuel c.skip (s.push ch)
      else .ok (c, s)
    | none => .ok (c, s)

/-- Reads the characters of a tag or of a `%TAG` expansion, which must not be empty. -/
def scanTagUri (c : Cursor) (verbatim directive : Bool) (head : String) (start : Mark) :
    Except Malformed (Cursor × String) := do
  let (c', s) ← tagUri verbatim directive head start (c.budget + 1) c ""
  if head.length + s.length == 0 then
    throw (.within (if directive then "while parsing a %TAG directive" else "while parsing a tag") start
      "did not find expected tag URI" c'.mark)
  return (c', (head.drop 1).toString ++ s)

/-- Reads a tag handle: `!`, `!!` or `!word!`; in a tag, a handle without its closing `!` is the
start of the suffix. -/
def scanTagHandle (c : Cursor) (directive : Bool) (start : Mark) : Except Malformed (Cursor × String) := do
  if !c.isAt '!' 0 then
    throw (.within (if directive then "while scanning a tag directive" else "while scanning a tag") start
      "did not find expected '!'" c.mark)
  let (c, s) := takeWhileC isWordChar (c.budget + 1) c.skip "!"
  if c.isAt '!' 0 then return (c.skip, s.push '!')
  if directive && s != "!" then
    throw (.within "while parsing a tag directive" start "did not find expected '!'" c.mark)
  return (c, s)

/-- Reads a tag. -/
def scanTag (c0 : Cursor) (flow : Bool) : Except Malformed (Token × Cursor) := do
  let start := c0.mark
  let (c, handle, suffix) ←
    if c0.isAt '<' 1 then do
      let (c, suffix) ← scanTagUri (c0.skipN 2) true false "" start
      if !c.isAt '>' 0 then
        throw (.within "while scanning a tag" start "did not find the expected '>'" c.mark)
      pure (c.skip, "", suffix)
    else do
      let (c, handle) ← scanTagHandle c0 false start
      if handle.length > 1 && handle.startsWith "!" && handle.endsWith "!" then
        let (c, suffix) ← scanTagUri c false false "" start
        pure (c, handle, suffix)
      else
        let (c, suffix) ← scanTagUri c false false handle start
        if suffix.isEmpty then pure (c, "", "!") else pure (c, "!", suffix)
  if !(endsWord (c.peek 0) || (flow && c.isAt ',' 0)) then
    throw (.within "while scanning a tag" start "did not find expected whitespace or line break" c.mark)
  return (⟨.tag handle suffix, start, c.mark⟩, c)

/-- Reads the number of a `%YAML` directive. -/
def versionNumber (c : Cursor) (start : Mark) : Except Malformed (Cursor × Nat) := do
  let (c', ds) := takeWhileC Char.isDigit (c.budget + 1) c ""
  if ds.length > 9 then
    throw (.within "while scanning a %YAML directive" start "found extremely long version number"
      (c.skipN 9).mark)
  if ds.isEmpty then
    throw (.within "while scanning a %YAML directive" start "did not find expected version number" c'.mark)
  return (c', ds.foldl (fun n d => n * 10 + (d.toNat - 48)) 0)

/-- Reads a directive line. -/
def scanDirective (c0 : Cursor) : Except Malformed (Token × Cursor) := do
  let start := c0.mark
  let (c, name) := takeWhileC isWordChar (c0.budget + 1) c0.skip ""
  if name.isEmpty then
    throw (.within "while scanning a directive" start "could not find expected directive name" c.mark)
  if !endsWord (c.peek 0) then
    throw (.within "while scanning a directive" start "found unexpected non-alphabetical character" c.mark)
  let (kind, c) ←
    if name == "YAML" then do
      let (c, major) ← versionNumber (skipBlanks c) start
      if !c.isAt '.' 0 then
        throw (.within "while scanning a %YAML directive" start "did not find expected digit or '.' character" c.mark)
      let (c, minor) ← versionNumber c.skip start
      pure (TokenKind.versionDirective major minor, c)
    else if name == "TAG" then do
      let (c, handle) ← scanTagHandle (skipBlanks c) true start
      if !(c.peek 0).any isBlank then
        throw (.within "while scanning a %TAG directive" start "did not find expected whitespace" c.mark)
      let (c, expansion) ← scanTagUri (skipBlanks c) true true "" start
      if !endsWord (c.peek 0) then
        throw (.within "while scanning a %TAG directive" start "did not find expected whitespace or line break" c.mark)
      pure (TokenKind.tagDirective handle expansion, c)
    else throw (.within "while scanning a directive" start "found unknown directive name" c.mark)
  let stop := c.mark
  let c := skipBlanks c
  let c := if c.isAt '#' 0 then (takeWhileC (fun ch => !isBreak ch) (c.budget + 1) c "").1 else c
  if !endsLine (c.peek 0) then
    throw (.within "while scanning a directive" start "did not find expected comment or line break" c.mark)
  let c := if (c.peek 0).any isBreak then c.skipLine else c
  return (⟨kind, start, stop⟩, c)

end Yaml

end HttpReactor
