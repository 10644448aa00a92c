import HttpReactor.Yaml.Token.Stream
/-!
# Events

The parser reads the token stream as a grammar and reports what it finds as events: the stream
and each document begin and end, and each node is a scalar, an alias, or the start of a sequence
or mapping whose entries follow up to its end. A node may carry an anchor and a tag; tags are
written with a handle, which the `%TAG` directives of the document (and the defaults `!` and
`!!`) expand. A key or value that is left out is reported as an empty plain scalar.

The parser is a state machine: each state says what may come next, and a stack holds the states
to return to after a nested node. Each event carries the position where it starts.
-/

namespace HttpReactor

namespace Yaml

/-- What the parser reports. -/
inductive Event where
  | streamStart
  | streamEnd
  | documentStart
  | documentEnd
  | alias (name : String)
  | scalar (anchor tag : Option String) (text : String) (style : ScalarStyle)
  | sequenceStart (anchor tag : Option String)
  | sequenceEnd
  | mappingStart (anchor tag : Option String)
  | mappingEnd
  deriving DecidableEq, Repr

/-- What the parser expects next. -/
inductive Phase where
  | streamStart
  | implicitDocumentStart
  | documentStart
  | documentContent
  | documentEnd
  | blockNode
  | flowNode
  | blockSequenceFirstEntry
  | blockSequenceEntry
  | indentlessSequenceEntry
  | blockMappingFirstKey
  | blockMappingKey
  | blockMappingValue
  | flowSequenceFirstEntry
  | flowSequenceEntry
  | flowSequenceEntryMappingKey
  | flowSequenceEntryMappingValue
  | flowSequenceEntryMappingEnd
  | flowMappingFirstKey
  | flowMappingKey
  | flowMappingValue
  | flowMappingEmptyValue
  | finished
  deriving DecidableEq, Repr, Inhabited

/-- The parser: the token stream, the current state, the states to return to, the start
positions of the open collections, and the tag handles of the current document. -/
structure Parser where
  scanner : Scanner
  phase : Phase
  phases : List Phase
  marks : List Mark
  handles : List (String × String)
  deriving Inhabited

/-- An event and where it starts, with the parser after it. -/
abbrev Step := Except Malformed ((Event × Mark) × Parser)

/-- The tag handles every document knows. -/
def defaultHandles : List (String × String) := [("!", "!"), ("!!", "tag:yaml.org,2002:")]

/-- A token that is a directive. -/
def TokenKind.isDirective : TokenKind → Bool
  | .versionDirective _ _ | .tagDirective _ _ => true
  | _ => false

namespace Parser

/-- A parser at the start of a text. -/
def ofString (s : String) : Parser := ⟨Scanner.ofString s, .streamStart, [], [], []⟩

/-- The next token. -/
def peek (p : Parser) : Except Malformed (Token × Parser) := do
  let (t, s) ← p.scanner.peekToken
  return (t, { p with scanner := s })

/-- Takes the next token. -/
def skip (p : Parser) : Parser := { p with scanner := p.scanner.skipToken }

/-- Returns to the state on top of the stack. -/
def pop (p : Parser) : Parser :=
  match p.phases with
  | q :: rest => { p with phase := q, phases := rest }
  | [] => { p with phase := .finished }

/-- Saves a state to return to. -/
def push (p : Parser) (q : Phase) : Parser := { p with phases := q :: p.phases }

/-- Forgets the start of the innermost collection. -/
def dropMark (p : Parser) : Parser := { p with marks := p.marks.drop 1 }

/-- The start of the innermost collection. -/
def topMark (p : Parser) : Mark := p.marks.headD Mark.start

/-- Takes the next token and remembers where it starts, as the start of a collection. -/
def open_ (p : Parser) : Except Malformed Parser := do
  let (t, p) ← p.peek
  return { p.skip with marks := t.start :: p.marks }

end Parser

/-- A left-out node: an empty plain scalar. -/
def emptyScalar (m : Mark) : Event × Mark := (.scalar none none "" .plain, m)

namespace Parser

/-- Reads the directives before a document, then adds the default handles it did not redefine. -/
def directives : Nat → Parser → Bool → Except Malformed Parser
  | 0, p, _ => .ok p
  | k + 1, p, versionSeen => do
    let (t, p) ← p.peek
    match t.kind with
    | .versionDirective major minor =>
      if versionSeen then throw (.at_ "found duplicate %YAML directive" t.start)
      if major != 1 || (minor != 1 && minor != 2) then throw (.at_ "found incompatible YAML document" t.start)
      directives k p.skip true
    | .tagDirective handle expansion =>
      if p.handles.any (·.1 == handle) then throw (.at_ "found duplicate %TAG directive" t.start)
      directives k { p.skip with handles := p.handles ++ [(handle, expansion)] } versionSeen
    | _ =>
      let handles := defaultHandles.foldl
        (fun acc d => if acc.any (·.1 == d.1) then acc else acc ++ [d]) p.handles
      return { p with handles := handles }

/-- Passes over `...` markers between documents. -/
def skipDocumentEnds : Nat → Parser → Token → Except Malformed (Token × Parser)
  | 0, p, t => .ok (t, p)
  | k + 1, p, t =>
    if t.kind == .documentEnd then do
      let (t, p) ← p.skip.peek
      skipDocumentEnds k p t
    else .ok (t, p)

/-- The start of the stream. -/
def streamStart (p : Parser) : Step := do
  let (t, p) ← p.peek
  if t.kind != .streamStart then throw (.at_ "did not find expected <stream-start>" t.start)
  return ((.streamStart, t.start), { p.skip with phase := .implicitDocumentStart })

/-- The start of a document, or the end of the stream. The first document may begin without
`---`; later ones need it. -/
def documentStart (p : Parser) (implicit : Bool) : Step := do
  let (t, p) ← p.peek
  let (t, p) ← if implicit then pure (t, p) else skipDocumentEnds (p.scanner.cur.budget + 8) p t
  let budget := p.scanner.cur.budget + 8
  if implicit && !(t.kind.isDirective || t.kind == .documentStart || t.kind == .streamEnd) then
    let p ← directives budget p false
    return ((.documentStart, t.start), { p.push .documentEnd with phase := .blockNode })
  else if t.kind != .streamEnd then
    let start := t.start
    let p ← directives budget p false
    let (t, p) ← p.peek
    if t.kind != .documentStart then throw (.at_ "did not find expected <document start>" t.start)
    return ((.documentStart, start), { (p.push .documentEnd).skip with phase := .documentContent })
  else
    return ((.streamEnd, t.start), { p.skip with phase := .finished })

/-- The end of a document, with or without `...`; the document's handles are forgotten. -/
def documentEnd (p : Parser) : Step := do
  let (t, p) ← p.peek
  let p := if t.kind == .documentEnd then p.skip else p
  return ((.documentEnd, t.start), { p with handles := [], phase := .documentStart })

/-- The properties of a node: its anchor, its tag as written and where the tag starts, and the
token after them. -/
def properties (p : Parser) (t : Token) :
    Except Malformed (Option String × Option (String × String) × Mark × Token × Parser) := do
  match t.kind with
  | .anchor a =>
    let (t2, p2) ← p.skip.peek
    match t2.kind with
    | .tag h s =>
      let (t3, p3) ← p2.skip.peek
      return (some a, some (h, s), t2.start, t3, p3)
    | _ => return (some a, none, t.start, t2, p2)
  | .tag h s =>
    let (t2, p2) ← p.skip.peek
    match t2.kind with
    | .anchor a =>
      let (t3, p3) ← p2.skip.peek
      return (some a, some (h, s), t.start, t3, p3)
    | _ => return (none, some (h, s), t.start, t2, p2)
  | _ => return (none, none, t.start, t, p)

/-- A node. In a block, block collections may start here; where `indentless` holds, a sequence
may also start with `-` at the indentation of the enclosing mapping. -/
def node (p : Parser) (block indentless : Bool) : Step := do
  let (t, p) ← p.peek
  if let .alias name := t.kind then
    return ((.alias name, t.start), p.skip.pop)
  let start := t.start
  let (anchor, written, tagMark, t, p) ← p.properties t
  let tag ← match written with
    | none => pure none
    | some (h, s) =>
      if h.isEmpty then pure (some s)
      else match p.handles.find? (·.1 == h) with
        | some (_, e) => pure (some (e ++ s))
        | none => throw (.within "while parsing a node" start "found undefined tag handle" tagMark)
  if indentless && t.kind == .blockEntry then
    return ((.sequenceStart anchor tag, start), { p with phase := .indentlessSequenceEntry })
  match t.kind with
  | .scalar text style => return ((.scalar anchor tag text style, start), p.skip.pop)
  | .flowSequenceStart => return ((.sequenceStart anchor tag, start), { p with phase := .flowSequenceFirstEntry })
  | .flowMappingStart => return ((.mappingStart anchor tag, start), { p with phase := .flowMappingFirstKey })
  | .blockSequenceStart =>
    if block then return ((.sequenceStart anchor tag, start), { p with phase := .blockSequenceFirstEntry })
  | .blockMappingStart =>
    if block then return ((.mappingStart anchor tag, start), { p with phase := .blockMappingFirstKey })
  | _ => pure ()
  if anchor.isSome || tag.isSome then
    return ((.scalar anchor tag "" .plain, start), p.pop)
  throw (.within (if block then "while parsing a block node" else "while parsing a flow node") start
    "did not find expected node content" t.start)

/-- The content of a document that began with `---`; it may be empty. -/
def documentContent (p : Parser) : Step := do
  let (t, p) ← p.peek
  if t.kind.isDirective || t.kind == .documentStart || t.kind == .documentEnd || t.kind == .streamEnd then
    return (emptyScalar t.start, p.pop)
  p.node true false

/-- An entry of a block sequence, or its end. -/
def blockSequenceEntry (p : Parser) (first : Bool) : Step := do
  let p ← if first then p.open_ else pure p
  let (t, p) ← p.peek
  match t.kind with
  | .blockEntry =>
    let (t2, p2) ← p.skip.peek
    if t2.kind != .blockEntry && t2.kind != .blockEnd then
      (p2.push .blockSequenceEntry).node true false
    else return (emptyScalar t.stop, { p2 with phase := .blockSequenceEntry })
  | .blockEnd => return ((.sequenceEnd, t.start), p.skip.pop.dropMark)
  | _ => throw (.within "while parsing a block collection" p.topMark "did not find expected '-' indicator" t.start)

/-- An entry of a sequence written at the indentation of its mapping, or its end. -/
def indentlessSequenceEntry (p : Parser) : Step := do
  let (t, p) ← p.peek
  if t.kind == .blockEntry then
    let (t2, p2) ← p.skip.peek
    if t2.kind != .blockEntry && t2.kind != .key && t2.kind != .value && t2.kind != .blockEnd then
      (p2.push .indentlessSequenceEntry).node true false
    else return (emptyScalar t.stop, { p2 with phase := .indentlessSequenceEntry })
  else return ((.sequenceEnd, t.start), p.pop)

/-- A key of a block mapping, or its end. -/
def blockMappingKey (p : Parser) (first : Bool) : Step := do
  let p ← if first then p.open_ else pure p
  let (t, p) ← p.peek
  match t.kind with
  | .key =>
    let (t2, p2) ← p.skip.peek
    if t2.kind != .key && t2.kind != .value && t2.kind != .blockEnd then
      (p2.push .blockMappingValue).node true true
    else return (emptyScalar t.stop, { p2 with phase := .blockMappingValue })
  | .blockEnd => return ((.mappingEnd, t.start), p.skip.pop.dropMark)
  | _ => throw (.within "while parsing a block mapping" p.topMark "did not find expected key" t.start)

/-- A value of a block mapping; it may be left out. -/
def blockMappingValue (p : Parser) : Step := do
  let (t, p) ← p.peek
  if t.kind == .value then
    let (t2, p2) ← p.skip.peek
    if t2.kind != .key && t2.kind != .value && t2.kind != .blockEnd then
      (p2.push .blockMappingKey).node true true
    else return (emptyScalar t.stop, { p2 with phase := .blockMappingKey })
  else return (emptyScalar t.start, { p with phase := .blockMappingKey })

/-- An entry of a sequence in brackets, or its end. An entry `k: v` is a mapping of one pair. -/
def flowSequenceEntry (p : Parser) (first : Bool) : Step := do
  let p ← if first then p.open_ else pure p
  let (t, p) ← p.peek
  if t.kind != .flowSequenceEnd then
    let (t, p) ←
      if first then pure (t, p)
      else if t.kind == .flowEntry then p.skip.peek
      else throw (.within "while parsing a flow sequence" p.topMark "did not find expected ',' or ']'" t.start)
    if t.kind == .key then
      return ((.mappingStart none none, t.start), { p.skip with phase := .flowSequenceEntryMappingKey })
    if t.kind != .flowSequenceEnd then
      return ← (p.push .flowSequenceEntry).node false false
    return ((.sequenceEnd, t.start), p.skip.pop.dropMark)
  return ((.sequenceEnd, t.start), p.skip.pop.dropMark)

/-- The key of a one-pair mapping in a sequence. -/
def flowSequenceEntryMappingKey (p : Parser) : Step := do
  let (t, p) ← p.peek
  if t.kind != .value && t.kind != .flowEntry && t.kind != .flowSequenceEnd then
    (p.push .flowSequenceEntryMappingValue).node false false
  else return (emptyScalar t.stop, { p.skip with phase := .flowSequenceEntryMappingValue })

/-- The value of a one-pair mapping in a sequence. -/
def flowSequenceEntryMappingValue (p : Parser) : Step := do
  let (t, p) ← p.peek
  if t.kind == .value then
    let (t2, p2) ← p.skip.peek
    if t2.kind != .flowEntry && t2.kind != .flowSequenceEnd then
      return ← (p2.push .flowSequenceEntryMappingEnd).node false false
    return (emptyScalar t2.start, { p2 with phase := .flowSequenceEntryMappingEnd })
  return (emptyScalar t.start, { p with phase := .flowSequenceEntryMappingEnd })

/-- The end of a one-pair mapping in a sequence. -/
def flowSequenceEntryMappingEnd (p : Parser) : Step := do
  let (t, p) ← p.peek
  return ((.mappingEnd, t.start), { p with phase := .flowSequenceEntry })

/-- A key of a mapping in braces, or its end. -/
def flowMappingKey (p : Parser) (first : Bool) : Step := do
  let p ← if first then p.open_ else pure p
  let (t, p) ← p.peek
  if t.kind != .flowMappingEnd then
    let (t, p) ←
      if first then pure (t, p)
      else if t.kind == .flowEntry then p.skip.peek
      else throw (.within "while parsing a flow mapping" p.topMark "did not find expected ',' or '\x7d'" t.start)
    if t.kind == .key then
      let (t2, p2) ← p.skip.peek
      if t2.kind != .value && t2.kind != .flowEntry && t2.kind != .flowMappingEnd then
        return ← (p2.push .flowMappingValue).node false false
      return (emptyScalar t2.start, { p2 with phase := .flowMappingValue })
    if t.kind != .flowMappingEnd then
      return ← (p.push .flowMappingEmptyValue).node false false
    return ((.mappingEnd, t.start), p.skip.pop.dropMark)
  return ((.mappingEnd, t.start), p.skip.pop.dropMark)

/-- A value of a mapping in braces; it may be left out, and is always left out after a key
written without `:`. -/
def flowMappingValue (p : Parser) (empty : Bool) : Step := do
  let (t, p) ← p.peek
  if empty then return (emptyScalar t.start, { p with phase := .flowMappingKey })
  if t.kind == .value then
    let (t2, p2) ← p.skip.peek
    if t2.kind != .flowEntry && t2.kind != .flowMappingEnd then
      return ← (p2.push .flowMappingKey).node false false
    return (emptyScalar t2.start, { p2 with phase := .flowMappingKey })
  return (emptyScalar t.start, { p with phase := .flowMappingKey })

/-- The next event, or none once the stream has ended. -/
def next (p : Parser) : Except Malformed (Option (Event × Mark) × Parser) :=
  let emit := fun (r : Step) => r.map fun (e, p) => (some e, p)
  match p.phase with
  | .streamStart => emit p.streamStart
  | .implicitDocumentStart => emit (p.documentStart true)
  | .documentStart => emit (p.documentStart false)
  | .documentContent => emit p.documentContent
  | .documentEnd => emit p.documentEnd
  | .blockNode => emit (p.node true false)
  | .flowNode => emit (p.node false false)
  | .blockSequenceFirstEntry => emit (p.blockSequenceEntry true)
  | .blockSequenceEntry => emit (p.blockSequenceEntry false)
  | .indentlessSequenceEntry => emit p.indentlessSequenceEntry
  | .blockMappingFirstKey => emit (p.blockMappingKey true)
  | .blockMappingKey => emit (p.blockMappingKey false)
  | .blockMappingValue => emit p.blockMappingValue
  | .flowSequenceFirstEntry => emit (p.flowSequenceEntry true)
  | .flowSequenceEntry => emit (p.flowSequenceEntry false)
  | .flowSequenceEntryMappingKey => emit p.flowSequenceEntryMappingKey
  | .flowSequenceEntryMappingValue => emit p.flowSequenceEntryMappingValue
  | .flowSequenceEntryMappingEnd => emit p.flowSequenceEntryMappingEnd
  | .flowMappingFirstKey => emit (p.flowMappingKey true)
  | .flowMappingKey => emit (p.flowMappingKey false)
  | .flowMappingValue => emit (p.flowMappingValue false)
  | .flowMappingEmptyValue => emit (p.flowMappingValue true)
  | .finished => .ok (none, p)

end Parser

end Yaml

end HttpReactor
