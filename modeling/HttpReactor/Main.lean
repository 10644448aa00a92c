import HttpReactor.Server.Launch
import HttpReactor.Engine.Basic
import HttpReactor.Endpoint.Ipv6
import Std.Async.TCP
import Std.Async.Signal
/-!
# The command line

Loads the configuration from the working directory and the environment, binds the listening
socket, and serves every connection with the echo service until interrupted. When it cannot
start, it prints the error with its causes and exits with status 1.
-/

open Std.Async
open Std.Net

namespace HttpReactor

namespace Cli

/-- The error number of an input/output error, if it carries one. -/
def errorCode : IO.Error → Option Nat
  | .alreadyExists _ c _ | .otherError c _ | .resourceBusy c _ | .resourceVanished c _
  | .unsupportedOperation c _ | .hardwareFault c _ | .unsatisfiedConstraints c _
  | .illegalOperation c _ | .protocolError c _ | .timeExpired c _ | .interrupted _ c _
  | .noFileOrDirectory _ c _ | .invalidArgument _ c _ | .permissionDenied _ c _
  | .resourceExhausted _ c _ | .inappropriateType _ c _ | .noSuchThing _ c _ => some c.toNat
  | _ => none

/-- The account of an input/output error. -/
def account (e : IO.Error) : String :=
  match errorCode e with
  | some c => osErrorText c
  | none => toString e

/-- Looks at a path: whether it names something, and its text or why it cannot be read. -/
def probe (path : String) : IO (Bool × Except String String) := do
  try
    let data ← IO.FS.readBinFile path
    return (true, textOf data.toList)
  catch e =>
    let present := match errorCode e with
      | some 2 | some 20 => false
      | _ => true
    return (present, .error (account e))

/-- The machine as the configuration sees it: the variables it reads and the files it may read,
looked at once. -/
def machine : IO Machine := do
  let names := [Config.pathVariable, "LISTEN", "LOOPS"]
  let vars ← names.filterMapM fun n => do return (← IO.getEnv n).map (n, ·)
  let paths := (vars.lookup Config.pathVariable).toList ++ [Config.defaultPath]
  let probes ← paths.mapM fun p => do return (p, ← probe p)
  return {
    var := fun n => vars.lookup n
    present := fun p => ((probes.lookup p).map (·.1)).getD false
    readText := fun p => ((probes.lookup p).map (·.2)).getD (.error (osErrorText 2)) }

/-- The socket address of `host:port` for a loopback name or an address literal. -/
def socketAddress (addr : String) : Option SocketAddress :=
  let (host, port) := splitHostPort addr
  let host := if host == "localhost" then "127.0.0.1" else host
  match readIpv4 host with
  | some [a, b, c, d] => some (.v4 ⟨IPv4Addr.ofParts a.toUInt8 b.toUInt8 c.toUInt8 d.toUInt8, port.toUInt16⟩)
  | _ =>
    if host.startsWith "[" && host.endsWith "]" then
      match Endpoint.parseIpv6 ((host.toList.drop 1).dropLast) with
      | some [a, b, c, d, e, f, g, h] =>
        some (.v6 ⟨IPv6Addr.ofParts a.toUInt16 b.toUInt16 c.toUInt16 d.toUInt16 e.toUInt16 f.toUInt16
          g.toUInt16 h.toUInt16, port.toUInt16⟩)
      | _ => none
    else none

/-- Serves one connection: each chunk read goes to the engine, its answer is written back, and
the connection ends when the client closes it or the engine asks. -/
partial def serveClient (engine : IO.Ref Engine) (stop : IO.Promise Unit) (id : Nat)
    (client : TCP.Socket.Client) (size : Nat) : Async Unit := do
  let chunk ← try client.recv? size.toUInt64 catch _ => pure none
  match chunk with
  | none =>
    let action ← engine.modifyGet fun e => e.disconnect id
    if action == .shutdown then stop.resolve ()
  | some data =>
    let r ← engine.modifyGet fun e => e.receive id data.toList
    if !r.out.isEmpty then
      try client.send (Octets.toByteArray r.out) catch _ => pure ()
    match r.action with
    | .proceed => serveClient engine stop id client size
    | .close | .shutdown =>
      try client.shutdown catch _ => pure ()
      let action ← engine.modifyGet fun e => e.disconnect id
      if r.action == .shutdown || action == .shutdown then stop.resolve ()

/-- Accepts connections, numbering them from `next`, each served in the background. -/
partial def acceptClients (server : TCP.Socket.Server) (engine : IO.Ref Engine) (stop : IO.Promise Unit)
    (next : Nat) (size : Nat) : Async Unit := do
  let client ← server.accept
  let action ← engine.modifyGet fun e => e.connect next
  if action == .proceed then background (serveClient engine stop next client size)
  else
    try client.shutdown catch _ => pure ()
    let _ ← engine.modifyGet fun e => e.disconnect next
    if action == .shutdown then stop.resolve ()
  acceptClients server engine stop (next + 1) size

/-- Serves a bound address until interrupted or until the engine asks to stop. -/
def serve (b : Bound) (server : TCP.Socket.Server) : Async Unit := do
  let engine ← IO.mkRef (Engine.new Service.echo none fun _ => .insertion)
  let stop ← IO.Promise.new
  let interrupt ← Signal.Waiter.mk .sigint false
  let waited ← interrupt.wait
  background (do let _ ← await waited; stop.resolve ())
  IO.println ("INFO spindle started loops=" ++ toString b.loops ++ " addr=" ++ b.addr)
  Async.race (acceptClients server engine stop 0 b.readBufferSize) (await stop)

/-- Starts the server, or reports why it cannot start; gives the exit status. -/
def run : IO UInt32 := do
  let m ← machine
  let fail := fun (chain : List String) => do
    IO.eprint (report chain)
    return (1 : UInt32)
  match Config.load m 1 with
  | .error e => fail e.chain
  | .ok c =>
    match c.server.listenAddr with
    | .error e => fail e.chain
    | .ok addr =>
      let b : Bound := ⟨addr, max c.server.loops 1, max c.server.readBufferSize 1⟩
      match socketAddress addr with
      | none => fail ["failed to bind " ++ addr,
          "failed to lookup address information: Name or service not known"]
      | some sa =>
        let server ← TCP.Socket.Server.mk
        try
          server.bind sa
          server.listen 128
        catch e => return ← fail ["failed to bind " ++ addr, account e]
        (serve b server).block
        return 0

end Cli

end HttpReactor

/-- Starts the server, or reports why it cannot start. -/
def main : IO UInt32 := HttpReactor.Cli.run
