import HttpReactor.Yaml.Document
import HttpReactor.Yaml.Resolve
/-!
# Reading typed values from a document

A loaded document is read as a value of an expected shape: a string, a count (an unsigned 64-bit
integer), or a record with named fields. Reading walks the document's events from a position
and gives back the position after the value; an alias is read by reading the node it repeats.

Errors name the path of keys that leads to the value (`server.loops`) and the position of the
event where the problem was found. A record accepts only its own fields, each at most once; a
missing field keeps its default, and an empty value stands for a record with every field at its
default. A count must be a plain scalar written as an unsigned integer; a string may be any
scalar.
-/

namespace HttpReactor

namespace Yaml

/-- The keys leading to a value. -/
inductive Path where
  | root
  | key (parent : Path) (name : String)
  /-- A value whose key is not a scalar. -/
  | unknown (parent : Path)
  /-- A value reached through an alias. -/
  | alias (parent : Path)
  deriving DecidableEq, Repr

/-- The path as reported: keys joined by dots, `.` for the root, `?` for a key that is not a
scalar. -/
def Path.text : Path → String
  | .root => "."
  | .key .root name => name
  | .key parent name => parent.text ++ "." ++ name
  | .unknown .root => "?"
  | .unknown parent => parent.text ++ ".?"
  | .alias parent => parent.text

/-- Why a document could not be read as the expected value. -/
inductive ReadError where
  /-- A value of the wrong kind or content, with where it was found once that is known. -/
  | custom (text : String) (place : Option (Mark × Path))
  | load (e : LoadError)
  /-- The document ended before the value did. -/
  | endOfStream
  | moreThanOneDocument
  deriving DecidableEq, Repr

namespace ReadError

/-- The report: the path unless it is the root, the problem, and the position unless it is the
very start. -/
def message : ReadError → String
  | .custom t none => t
  | .custom t (some (m, path)) =>
    let p := path.text
    (if p == "." then "" else p ++ ": ") ++ t ++ (if m.isOrigin then "" else " at " ++ m.text)
  | .load e => e.message
  | .endOfStream => "EOF while parsing a value"
  | .moreThanOneDocument => "deserializing from YAML containing more than one document is not supported"

/-- Records where a problem was found, unless that is already known. -/
def place (e : ReadError) (m : Mark) (path : Path) : ReadError :=
  match e with
  | .custom t none => .custom t (some (m, path))
  | e => e

/-- A value of the wrong kind. -/
def invalidType (found : Unexpected) (expected : String) : ReadError :=
  .custom ("invalid type: " ++ found.text ++ ", expected " ++ expected) none

/-- A value of the right kind with the wrong content. -/
def invalidValue (found : Unexpected) (expected : String) : ReadError :=
  .custom ("invalid value: " ++ found.text ++ ", expected " ++ expected) none

end ReadError

/-- The error for an item where a value described as `expected` was wanted. -/
def mismatch (item : Item) (expected : String) : ReadError :=
  match item with
  | .scalar tag text style =>
    match resolveScalar tag text (style == .plain) with
    | .ok found => .invalidType found expected
    | .error (t, kind) => .invalidValue (.str t) kind
  | .sequenceStart => .invalidType .sequence expected
  | .mappingStart => .invalidType .map expected
  | _ => .endOfStream

/-- The names a record accepts, as an error lists them. -/
def oneOf : List String → String
  | [a] => "`" ++ a ++ "`"
  | [a, b] => "`" ++ a ++ "` or `" ++ b ++ "`"
  | names => "one of " ++ ", ".intercalate (names.map fun n => "`" ++ n ++ "`")

/-- The error for a key that is not a field of the record. -/
def unknownField (name : String) (fields : List String) : ReadError :=
  if fields.isEmpty then .custom ("unknown field `" ++ name ++ "`, there are no fields") none
  else .custom ("unknown field `" ++ name ++ "`, expected " ++ oneOf fields) none

/-- The item at a position, or the error that cut the document short before it. -/
def Document.item (d : Document) (pos : Nat) : Except ReadError (Item × Mark) :=
  match d.items[pos]? with
  | some im => .ok im
  | none => .error (match d.error with
    | some e => .load e
    | none => .endOfStream)

/-- The budget for reading a value: each level of a value and each alias followed takes one step,
an alias leads to an event that is not an alias, and the values read here nest only a few
levels deep. -/
def Document.budget (d : Document) : Nat := d.items.size + 1

/-- Reads a string: any scalar, as written. -/
def readText (d : Document) : Nat → Nat → Path → Except ReadError (String × Nat)
  | 0, _, _ => .error .endOfStream
  | fuel + 1, pos, path => do
    let (item, m) ← d.item pos
    let result : Except ReadError (String × Nat) := match item with
      | .scalar _ text _ => .ok (text, pos + 1)
      | .alias target => (readText d fuel target (.alias path)).map fun (t, _) => (t, pos + 1)
      | other => .error (mismatch other "a string")
    result.mapError (·.place m path)

/-- A scalar that may be read as a number of the kind `tag` names: a plain one, whatever its tag,
or a literal block tagged with that kind. -/
def readsAsNumber (kind : String) : Item → Bool
  | .scalar _ _ .plain => true
  | .scalar (some tag) _ .literal => tag == coreTag kind
  | _ => false

/-- Reads a count: a scalar that may be read as an integer, written as an unsigned 64-bit
integer. -/
def readCount (d : Document) : Nat → Nat → Path → Except ReadError (Nat × Nat)
  | 0, _, _ => .error .endOfStream
  | fuel + 1, pos, path => do
    let (item, m) ← d.item pos
    let result : Except ReadError (Nat × Nat) := match item with
      | .scalar _ text _ =>
        match (if readsAsNumber "int" item then unsignedInt (readUnsigned 64) text.toList else none) with
        | some n => .ok (n, pos + 1)
        | none => .error (mismatch item "usize")
      | .alias target => (readCount d fuel target (.alias path)).map fun (n, _) => (n, pos + 1)
      | other => .error (mismatch other "usize")
    result.mapError (·.place m path)

/-- Reads a key of a record, which must name one of its fields. -/
def readKey (d : Document) (fields : List String) : Nat → Nat → Path → Except ReadError (String × Nat)
  | 0, _, _ => .error .endOfStream
  | fuel + 1, pos, path => do
    let (item, m) ← d.item pos
    let result : Except ReadError (String × Nat) := match item with
      | .scalar _ text _ => if fields.contains text then .ok (text, pos + 1) else .error (unknownField text fields)
      | .alias target => (readKey d fields fuel target (.alias path)).map fun (t, _) => (t, pos + 1)
      | other => .error (mismatch other "field identifier")
    result.mapError (·.place m path)

/-- Reads the entries of a mapping up to its end, handing each value to `field` with the name
of its field; a field may appear only once. -/
def readEntries {σ : Type} (d : Document) (fields : List String)
    (field : σ → String → Nat → Path → Except ReadError (σ × Nat)) (path : Path) :
    Nat → Nat → List String → σ → Except ReadError (σ × Nat)
  | 0, pos, _, acc => .ok (acc, pos)
  | fuel + 1, pos, seen, acc => do
    let (item, _) ← d.item pos
    match item with
    | .mappingEnd | .void => return (acc, pos)
    | _ =>
      let written := match item with
        | .scalar _ text _ => some text
        | _ => none
      let (name, pos) ← readKey d fields d.budget pos path
      if seen.contains name then throw (.custom ("duplicate field `" ++ name ++ "`") none)
      let valuePath := match written with
        | some k => Path.key path k
        | none => .unknown path
      let (acc, pos) ← field acc name pos valuePath
      readEntries d fields field path fuel pos (name :: seen) acc

/-- Reads a record named `name`: a mapping of its fields, or an empty value for a record with
every field at its default. -/
def readRecord {σ : Type} (d : Document) (name : String) (fields : List String)
    (field : σ → String → Nat → Path → Except ReadError (σ × Nat)) (init : σ) :
    Nat → Nat → Path → Except ReadError (σ × Nat)
  | 0, _, _ => .error .endOfStream
  | fuel + 1, pos, path => do
    let (item, m) ← d.item pos
    let result : Except ReadError (σ × Nat) := match item with
      | .alias target => (readRecord d name fields field init fuel target (.alias path)).map fun (v, _) => (v, pos + 1)
      | .mappingStart => do
        let (acc, p) ← readEntries d fields field path (d.items.size + 1) (pos + 1) [] init
        let _ ← d.item p
        return (acc, p + 1)
      | .scalar _ text .plain => if text.isEmpty then .ok (init, pos + 1) else .error (mismatch item ("struct " ++ name))
      | .void => .ok (init, pos + 1)
      | other => .error (mismatch other ("struct " ++ name))
    result.mapError (·.place m path)

end Yaml

end HttpReactor
