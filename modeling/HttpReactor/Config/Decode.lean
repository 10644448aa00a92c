import HttpReactor.Config.Basic
import HttpReactor.Yaml.Decode
/-!
# Reading the configuration from YAML

The configuration text holds one document: a mapping with the single field `server`, itself a
mapping with the fields `listen` (a string), `loops` and `read_buffer_size` (counts). Fields left
out keep their defaults, other fields are refused, and so is a second document. A configuration
read from YAML is validated before it is used.
-/

namespace HttpReactor

namespace Config

open Yaml

/-- The fields of the server section, as the errors list them. -/
def serverFields : List String := ["listen", "loops", "read_buffer_size"]

/-- Reads one field of the server section into `c`. -/
def readServerField (d : Document) (c : ServerConfig) (name : String) (pos : Nat) (path : Path) :
    Except ReadError (ServerConfig × Nat) :=
  if name == "listen" then do
    let (t, p) ← readText d d.budget pos path
    return ({ c with listen := t }, p)
  else if name == "loops" then do
    let (n, p) ← Yaml.readCount d d.budget pos path
    return ({ c with loops := n }, p)
  else do
    let (n, p) ← Yaml.readCount d d.budget pos path
    return ({ c with readBufferSize := n }, p)

/-- Reads the configuration from a loaded document, starting from the defaults. -/
def ofDocument (processors : Nat) (d : Document) : Except ReadError Config := do
  let readServer := fun (c : Config) (_ : String) (pos : Nat) (path : Path) => do
    let (s, p) ← readRecord d "ServerConfig" serverFields (readServerField d) (ServerConfig.default processors)
      d.budget pos path
    return ({ c with server := s }, p)
  let (c, _) ← readRecord d "Config" ["server"] readServer (Config.default processors) d.budget 0 .root
  return c

/-- Reads the configuration from a text. The first document is read; then the error that cut it
short, if any, is reported, and then anything after it. -/
def parseYaml (processors : Nat) (text : String) : Except ReadError Config := do
  let (d, ending) := loadFirst text
  let c ← ofDocument processors d
  if let some e := d.error then throw (.load e)
  if ending.hasMore then throw .moreThanOneDocument
  return c

/-- Reads and validates the configuration from a text. -/
def ofYaml (processors : Nat) (text : String) : Except ConfigError Config := do
  let c ← (parseYaml processors text).mapError fun e => ConfigError.yaml e.message
  c.validate
  return c

end Config

end HttpReactor
