import HttpReactor.Config.Decode
import HttpReactor.Host
/-!
# Loading the configuration

The configuration comes from the file named by `SPINDLE_CONFIG`, or else from `spindle.yaml` in
the working directory when it exists, or else from the defaults. The environment's `LISTEN` and
`LOOPS` then override what the file says, and the result is validated.
-/

namespace HttpReactor

namespace Config

/-- The environment variable that names the configuration file. -/
def pathVariable : String := "SPINDLE_CONFIG"

/-- The configuration file used when none is named. -/
def defaultPath : String := "spindle.yaml"

/-- Reads and validates the configuration file at `path`. -/
def fromFile (m : Machine) (processors : Nat) (path : String) : Except ConfigError Config := do
  let text ← (m.readText path).mapError (ConfigError.unreadable path)
  (ofYaml processors text).mapError (ConfigError.invalidFile path)

/-- Loads the configuration: from the named file, the default file or the defaults, then with
the environment's overrides, then validated. -/
def load (m : Machine) (processors : Nat) : Except ConfigError Config := do
  let c ← match m.var pathVariable with
    | some path => fromFile m processors path
    | none => if m.present defaultPath then fromFile m processors defaultPath else pure (Config.default processors)
  let c ← c.applyOverrides m.var
  c.validate
  return c

end Config

end HttpReactor
