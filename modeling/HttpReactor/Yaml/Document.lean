import Std.Data.HashMap
import HttpReactor.Yaml.Event
/-!
# Loading a document

Only the first document of a text is loaded: its events are collected up to its end, with the
anchors resolved, so that an alias names the position of the event it repeats. Each anchor
definition is numbered by how many distinct anchor names were defined before it. An alias takes
the number its name has when the alias is met, and once the document is loaded it repeats the
last event given that number. A name defined again thus takes a new number, which may be the
number that a later name is given too; the alias then repeats that later event, even one that
comes after the alias. If the parser fails part-way, the events before the failure are kept
together with the error; a reader of the document meets the error only if it reads past them. A
text with no document at all loads as a single empty value.

After the first document, the only thing that may follow is the end of the stream.
-/

namespace HttpReactor

namespace Yaml

/-- An event of a loaded document. -/
inductive Item where
  | scalar (tag : Option String) (text : String) (style : ScalarStyle)
  /-- A repetition of the node whose first event is at `target`; while a document is collected,
  the number of the anchor instead. -/
  | alias (target : Nat)
  | sequenceStart
  | sequenceEnd
  | mappingStart
  | mappingEnd
  /-- The value of a text with no document. -/
  | void
  deriving DecidableEq, Repr, Inhabited

/-- Why a document could not be loaded in full. -/
inductive LoadError where
  | malformed (e : Malformed)
  /-- An alias names no anchor defined before it. -/
  | unknownAnchor (m : Mark)
  deriving DecidableEq, Repr

/-- The report of a load error. -/
def LoadError.message : LoadError → String
  | .malformed e => e.message
  | .unknownAnchor m => "unknown anchor" ++ (if m.isOrigin then "" else " at " ++ m.text)

/-- The events of a document, each with where it starts, and the error that cut it short. -/
structure Document where
  items : Array (Item × Mark)
  error : Option LoadError
  deriving Inhabited

/-- How collecting a document ended. -/
inductive Ending where
  /-- At the end of the stream, which starts at the mark. -/
  | streamEnded (m : Mark)
  /-- At the end of a document; the parser goes on after it. -/
  | documentEnded (p : Parser)
  | failed

/-- The anchors defined so far: each name with its latest number, and each number with the
latest position it was given. -/
structure Anchors where
  numbers : Std.HashMap String Nat
  targets : Std.HashMap Nat Nat

namespace Anchors

/-- No anchor defined. -/
def empty : Anchors := ⟨{}, {}⟩

/-- Defines `name` at position `pos`, numbered by how many names are defined already. -/
def define (a : Anchors) (name : String) (pos : Nat) : Anchors :=
  let n := a.numbers.size
  ⟨a.numbers.insert name n, a.targets.insert n pos⟩

/-- The number an alias of `name` stands for, if the name is defined. -/
def number? (a : Anchors) (name : String) : Option Nat := a.numbers[name]?

/-- The document of the events collected, each alias turned from the number it was given into
the position that number holds now. Every number an alias was given is held by a position, since
a number is given to a name and a position together, so the default is never taken. -/
def finish (a : Anchors) (items : Array (Item × Mark)) (error : Option LoadError) : Document :=
  ⟨items.map fun (item, m) => match item with
    | .alias n => (.alias (a.targets.getD n 0), m)
    | other => (other, m), error⟩

end Anchors

/-- Collects events up to the end of a document or of the stream, defining anchors as they
come; an alias is collected with the number of its name, and `Anchors.finish` turns it into a
position at the end. -/
def collect : Nat → Parser → Anchors → Array (Item × Mark) → Document × Ending
  | 0, p, anchors, items => (anchors.finish items none, .documentEnded p)
  | k + 1, p, anchors, items =>
    match p.next with
    | .error e => (anchors.finish items (some (.malformed e)), .failed)
    | .ok (none, p) => (anchors.finish items none, .streamEnded p.scanner.cur.mark)
    | .ok (some (ev, m), p) =>
      let named := fun (a : Option String) => match a with
        | some n => anchors.define n items.size
        | none => anchors
      match ev with
      | .streamStart | .documentStart => collect k p anchors items
      | .streamEnd => (anchors.finish items none, .streamEnded m)
      | .documentEnd => (anchors.finish items none, .documentEnded p)
      | .alias name =>
        match anchors.number? name with
        | some n => collect k p anchors (items.push (.alias n, m))
        | none => (anchors.finish items (some (.unknownAnchor m)), .failed)
      | .scalar a tag text style => collect k p (named a) (items.push (.scalar tag text style, m))
      | .sequenceStart a _ => collect k p (named a) (items.push (.sequenceStart, m))
      | .sequenceEnd => collect k p anchors (items.push (.sequenceEnd, m))
      | .mappingStart a _ => collect k p (named a) (items.push (.mappingStart, m))
      | .mappingEnd => collect k p anchors (items.push (.mappingEnd, m))

/-- Loads the first document of a text. Each event takes a token or stands for a left-out node
beside one, and a character gives at most a few tokens, so the budget is never used up. -/
def loadFirst (text : String) : Document × Ending :=
  let (doc, ending) := collect (16 * (text.length + 4)) (Parser.ofString text) .empty #[]
  match ending with
  | .streamEnded m => if doc.items.isEmpty then ({ doc with items := #[(.void, m)] }, ending) else (doc, ending)
  | _ => (doc, ending)

/-- Whether anything but the end of the stream follows the first document. -/
def Ending.hasMore : Ending → Bool
  | .documentEnded p =>
    match p.next with
    | .ok (some (.streamEnd, _), _) => false
    | _ => true
  | _ => false

end Yaml

end HttpReactor
