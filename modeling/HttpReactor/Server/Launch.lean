import HttpReactor.Config.Load
/-!
# Starting the server

The server binds its listening socket at the configured address; at least one loop and a read
buffer of at least one octet are used whatever the configuration says. The program loads the
configuration, binds, and then serves until it is asked to stop. When it cannot start, it
prints the error and its causes and exits with status 1.
-/

namespace HttpReactor

/-- Why the server could not start listening. -/
inductive BindError where
  /-- The listen address is not usable. -/
  | address (e : ConfigError)
  /-- The operating system refused the address; its account follows. -/
  | refused (addr : String) (account : String)
  deriving DecidableEq, Repr

namespace BindError

/-- The error and its causes, outermost first. -/
def chain : BindError → List String
  | .address e => e.chain
  | .refused addr account => ["failed to bind " ++ addr, account]

end BindError

/-- A server bound to its address, with the loops and read buffer it will use. -/
structure Bound where
  addr : String
  loops : Nat
  readBufferSize : Nat
  deriving DecidableEq, Repr

/-- Binds the listening socket for a server configuration. -/
def ServerConfig.bind (h : Host) (c : ServerConfig) : Except BindError Bound := do
  let addr ← c.listenAddr.mapError BindError.address
  (h.bind addr).mapError (BindError.refused addr)
  return ⟨addr, max c.loops 1, max c.readBufferSize 1⟩

/-- Runs a bound server for a list of clients. With the stop already requested no client
connects; otherwise each client connects first, and the host's refusal ends the run. -/
def Bound.serve {α : Type} (_b : Bound) (h : Host) (stopped : Bool) (clients : List α) : Except String Unit :=
  if stopped then .ok ()
  else match clients with
    | [] => .ok ()
    | _ :: _ => (h.connect).mapError ("connect failed: " ++ ·)

/-- Indents a cause: the first line after `lead`, the others after `rest`. -/
def indentLines (lead rest : String) (text : String) : String :=
  match text.splitOn "\n" with
  | [] => lead
  | first :: others => lead ++ first ++ String.join (others.map fun l => "\n" ++ rest ++ l)

/-- Right-aligns a number in five columns. -/
def padNumber (n : Nat) : String :=
  let s := toString n
  "".pushn ' ' (5 - s.length) ++ s

/-- The report printed for an error and its causes: the error, then the causes, numbered when
there are several. -/
def report : List String → String
  | [] => "Error: \n"
  | [top] => "Error: " ++ top ++ "\n"
  | [top, cause] => "Error: " ++ top ++ "\n\nCaused by:\n" ++ indentLines "    " "    " cause ++ "\n"
  | top :: causes =>
    "Error: " ++ top ++ "\n\nCaused by:" ++
      String.join ((List.range causes.length).zip causes |>.map fun (i, c) =>
        "\n" ++ indentLines (padNumber i ++ ": ") "       " c) ++ "\n"

/-- How starting the program ends: with a report and status 1, or serving at an address. -/
inductive Launch where
  | failed (report : String)
  | serving (server : Bound)
  deriving DecidableEq, Repr

/-- Starts the program: loads the configuration, then binds. -/
def launch (h : Host) (processors : Nat) : Launch :=
  match Config.load h.machine processors with
  | .error e => .failed (report e.chain)
  | .ok c =>
    match c.server.bind h with
    | .error e => .failed (report e.chain)
    | .ok b => .serving b

end HttpReactor
