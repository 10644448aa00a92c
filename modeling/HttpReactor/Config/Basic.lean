import HttpReactor.Endpoint.Url
import HttpReactor.Config.Count
import HttpReactor.Text.Quoted
/-!
# Server configuration

The server is configured by the address it listens on, the number of event loops and the size of
its read buffer. A configuration is valid when there is at least one loop, the read buffer holds
at least one octet, and the listen address names a host and a port of the `tcp` scheme; a listen
address without a scheme is read as a `tcp` one.

Errors carry their context: each names what was being done, followed by its cause.
-/

namespace HttpReactor

/-- How the server listens and serves. -/
structure ServerConfig where
  listen : String
  loops : Nat
  readBufferSize : Nat
  deriving DecidableEq, Repr

/-- The whole configuration. -/
structure Config where
  server : ServerConfig
  deriving DecidableEq, Repr

/-- Why a configuration cannot be used. -/
inductive ConfigError where
  /-- The configuration asks for no event loop. -/
  | noLoops
  /-- The configuration asks for an empty read buffer. -/
  | noReadBuffer
  /-- The listen address is not a URL. -/
  | invalidListen (listen : String) (e : Endpoint.UrlError)
  /-- The listen address has a scheme other than `tcp`. -/
  | unsupportedScheme (scheme : String)
  /-- The listen address names no host. -/
  | noHost (listen : String)
  /-- The listen address names no port. -/
  | noPort (listen : String)
  /-- The number of loops from the environment is not a count. -/
  | loopsNotCount (raw : String) (e : Config.CountError)
  /-- The configuration text is not a valid document; the YAML reader's account follows. -/
  | yaml (account : String)
  /-- A configuration file could not be read; the operating system's account follows. -/
  | unreadable (path : String) (account : String)
  /-- A configuration file was read but is not valid. -/
  | invalidFile (path : String) (e : ConfigError)
  deriving DecidableEq, Repr

namespace ConfigError

/-- The error and its causes, outermost first. -/
def chain : ConfigError → List String
  | .noLoops => ["server.loops must be at least 1"]
  | .noReadBuffer => ["server.read_buffer_size must be at least 1"]
  | .invalidListen l e => ["invalid listen address " ++ Text.quote l, e.message]
  | .unsupportedScheme s => ["unsupported listen scheme " ++ Text.quote s]
  | .noHost l => ["listen address " ++ Text.quote l ++ " has no host"]
  | .noPort l => ["listen address " ++ Text.quote l ++ " has no port"]
  | .loopsNotCount raw e => ["LOOPS must be a positive integer, got " ++ Text.quote raw, e.message]
  | .yaml account => ["failed to parse YAML config", account]
  | .unreadable p account => ["failed to read config file " ++ p, account]
  | .invalidFile p e => ("invalid config file " ++ p) :: e.chain

/-- The error with all its causes on one line. -/
def text (e : ConfigError) : String := ": ".intercalate e.chain

end ConfigError

namespace ServerConfig

/-- Listen on the loopback address, port 8080, with one loop per processor and 4096-octet reads. -/
def default (processors : Nat) : ServerConfig := ⟨"127.0.0.1:8080", processors, 4096⟩

/-- The address to bind, `host:port`, from the listen address. -/
def listenAddr (c : ServerConfig) : Except ConfigError String := do
  let raw := if (c.listen.splitOn "://").length > 1 then c.listen else "tcp://" ++ c.listen
  let url ← match Endpoint.Url.parse raw with
    | .ok u => pure u
    | .error e => throw (.invalidListen c.listen e)
  if url.scheme ≠ "tcp" then throw (.unsupportedScheme url.scheme)
  let some host := url.host | throw (.noHost c.listen)
  let some port := url.port | throw (.noPort c.listen)
  return host ++ ":" ++ toString port

end ServerConfig

namespace Config

/-- The configuration used when none is given. -/
def default (processors : Nat) : Config := ⟨ServerConfig.default processors⟩

/-- Checks the loops, then the read buffer, then the listen address. -/
def validate (c : Config) : Except ConfigError Unit := do
  if c.server.loops = 0 then throw .noLoops
  if c.server.readBufferSize = 0 then throw .noReadBuffer
  let _ ← c.server.listenAddr
  return ()

/-- Applies the environment: `LISTEN` replaces the listen address, and `LOOPS`, trimmed of
blanks, replaces the number of loops. -/
def applyOverrides (c : Config) (lookup : String → Option String) : Except ConfigError Config := do
  let c := match lookup "LISTEN" with
    | some l => { c with server := { c.server with listen := l } }
    | none => c
  match lookup "LOOPS" with
  | some raw =>
    match readCount (Text.trimBlank raw) with
    | .ok n => return { c with server := { c.server with loops := n } }
    | .error e => throw (.loopsNotCount raw e)
  | none => return c

end Config

end HttpReactor
