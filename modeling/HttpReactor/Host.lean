import HttpReactor.Octets
import HttpReactor.Endpoint.Ipv6
/-!
# The host

What the program asks of the machine it runs on, as data: the files of its working directory,
its environment, and its network. A path is walked component by component, as the operating system
does: empty and `.` components stay where the walk is, `..` goes up one level, and every other
component must name an entry of the directory reached so far, and a directory unless it is the
last. Paths and names have the system's length limits. A file that lies inside a directory makes that directory exist. Above the working directory
nothing is known, so every name there is missing.

The network of this host has no interface up and no route. It resolves `localhost` and IPv4
addresses in any of the resolver's numeric forms (`127.1`, `0177.0.0.1`, `0x7f000001`) and no
other name, refuses ports below 1024, and lets no client connect. With no route at all, the
system counts every IPv4 address as one a socket may bind, while on the IPv6 side no address is
assigned, so only the wildcard and IPv4 addresses written in IPv6 can be bound there.
-/

namespace HttpReactor

/-- An entry of the working directory: a file with its contents, or a directory. -/
inductive Entry where
  | file (contents : List UInt8)
  | directory
  deriving DecidableEq, Repr

/-- The working directory's entries by relative path, and the environment's variables. -/
structure Host where
  files : List (String × Entry)
  env : List (String × String)
  deriving Repr

/-- The operating system's account of an error number, with the number. -/
def osErrorText (code : Nat) : String :=
  let text := match code with
    | 1 => "Operation not permitted"
    | 2 => "No such file or directory"
    | 5 => "Input/output error"
    | 13 => "Permission denied"
    | 20 => "Not a directory"
    | 21 => "Is a directory"
    | 22 => "Invalid argument"
    | 36 => "File name too long"
    | 40 => "Too many levels of symbolic links"
    | 98 => "Address already in use"
    | 99 => "Cannot assign requested address"
    | 101 => "Network is unreachable"
    | 111 => "Connection refused"
    | _ => "Unknown error " ++ toString code
  text ++ " (os error " ++ toString code ++ ")"

/-- The contents of a file as text, which must be valid UTF-8. -/
def textOf (contents : List UInt8) : Except String String :=
  match Octets.utf8? contents with
  | some s => .ok s
  | none => .error "stream did not contain valid UTF-8"

/-- What reading the configuration asks of the machine: environment variables, whether a path
names something, and the text of a file or the account of why it cannot be read. -/
structure Machine where
  var : String → Option String
  present : String → Bool
  readText : String → Except String String

/-- What a path names. -/
inductive Found where
  | file (contents : List UInt8)
  | directory
  | missing
  /-- A component other than the last is a file. -/
  | notDirectory
  /-- The path or one of the names it looks up is longer than the system allows. -/
  | nameTooLong
  deriving DecidableEq, Repr

/-- The longest name of a directory entry, in octets. -/
def maxNameLength : Nat := 255

/-- The longest path, in octets. -/
def maxPathLength : Nat := 4095

/-- The components of a path after dropping empty and `.` ones and resolving `..`; none when the
path leaves the directory it starts in. -/
def normalParts (path : String) : Option (List String) :=
  ((path.splitOn "/").foldl (fun acc part =>
    acc.bind fun stack =>
      if part == "" || part == "." then some stack
      else if part == ".." then (if stack.isEmpty then none else some stack.dropLast)
      else some (stack ++ [part])) (some []))

namespace Host

/-- The value of an environment variable. -/
def var (h : Host) (name : String) : Option String := h.env.lookup name

/-- The entry at a path of components inside the working directory: as listed, or a directory
when a listed entry lies inside it. -/
def entryAt (h : Host) (parts : List String) : Option Entry :=
  let entries : List (List String × Entry) :=
    h.files.filterMap fun (p, e) => (normalParts p).map fun ps => (ps, e)
  match entries.find? (·.1 == parts) with
  | some (_, e) => some e
  | none => if entries.any (fun (ps, _) => parts.isPrefixOf ps) then some .directory else none

/-- Where a walk along a path stands: at a directory of the working directory, given by its
components, or above the working directory. -/
inductive Place where
  | within (parts : List String)
  | above
  deriving DecidableEq, Repr

/-- Walks the remaining components of a path from a directory. -/
def walk (h : Host) (place : Place) : List String → Found
  | [] => .directory
  | part :: rest =>
    if part == "" || part == "." then h.walk place rest
    else if part == ".." then
      match place with
      | .within [] => h.walk .above rest
      | .within ps => h.walk (.within ps.dropLast) rest
      | .above => h.walk .above rest
    else if part.utf8ByteSize > maxNameLength then .nameTooLong
    else
      match place with
      | .above => .missing
      | .within ps =>
        match h.entryAt (ps ++ [part]) with
        | none => .missing
        | some .directory => h.walk (.within (ps ++ [part])) rest
        | some (.file contents) => if rest.isEmpty then .file contents else .notDirectory

/-- What a path names: a relative path is walked from the working directory, an absolute one from
the root, and the empty path names nothing. A path of more than 4095 octets is refused before the
walk, and a name of more than 255 octets when the walk reaches it. -/
def find (h : Host) (path : String) : Found :=
  if path.isEmpty then .missing
  else if path.utf8ByteSize > maxPathLength then .nameTooLong
  else if path.startsWith "/" then h.walk .above (path.splitOn "/")
  else h.walk (.within []) (path.splitOn "/")

/-- Whether a path names a file or a directory. -/
def exists_ (h : Host) (path : String) : Bool :=
  match h.find path with
  | .file _ | .directory => true
  | _ => false

/-- Reads a file as text, or gives the operating system's account of why it cannot. -/
def readText (h : Host) (path : String) : Except String String :=
  match h.find path with
  | .file contents => textOf contents
  | .directory => .error (osErrorText 21)
  | .missing => .error (osErrorText 2)
  | .notDirectory => .error (osErrorText 20)
  | .nameTooLong => .error (osErrorText 36)

/-- The machine this host is. -/
def machine (h : Host) : Machine := ⟨h.var, h.exists_, h.readText⟩

end Host

/-- The value of a number written in `base`, when every character is one of its digits. -/
def digitsValue (base : Nat) (cs : List Char) : Option Nat :=
  cs.foldl (fun acc c => do
    let v ← acc
    let d ← if c.isDigit then some (c.toNat - 48)
      else if 'a' ≤ c && c ≤ 'f' then some (c.toNat - 87)
      else if 'A' ≤ c && c ≤ 'F' then some (c.toNat - 55)
      else none
    if d < base then some (v * base + d) else none) (some 0)

/-- A number of an IPv4 address as the resolver reads it: hexadecimal after `0x`, octal after a
leading `0`, decimal otherwise. -/
def inetNumber (cs : List Char) : Option Nat :=
  match cs with
  | [] => none
  | ['0'] => some 0
  | '0' :: x :: rest =>
    if x = 'x' || x = 'X' then (if rest.isEmpty then none else digitsValue 16 rest)
    else digitsValue 8 (x :: rest)
  | _ => digitsValue 10 cs

/-- Reads an IPv4 address as the system's resolver does, giving its four octets: one to four
numbers separated by dots, where every number but the last names one octet and the last fills
the octets that are left. -/
def readIpv4 (s : String) : Option (List Nat) := do
  let ns ← (s.splitOn ".").mapM fun p => inetNumber p.toList
  if ns.length > 4 then none
  let front := ns.dropLast
  let last := ns.getLast?.getD 0
  if front.any (· > 255) || last ≥ Nat.pow 256 (5 - ns.length) then none
  let value := (front.zipIdx.foldl (fun v (n, i) => v + n * Nat.pow 256 (3 - i)) 0) + last
  return [value / Nat.pow 2 24 % 256, value / Nat.pow 2 16 % 256, value / Nat.pow 2 8 % 256, value % 256]

/-- The error number of binding a listening socket to an IPv6 address, given as its eight pieces,
once its port is allowed: the wildcard and an IPv4 address written in IPv6 (`::ffff:a.b.c.d`) are
bound, a link-local address (`fe80::/10`) needs an interface to bind on, and no other address is
assigned here. -/
def ipv6BindError (ps : List Nat) : Option Nat :=
  match ps with
  | [0, 0, 0, 0, 0, 0, 0, 0] => none
  | [0, 0, 0, 0, 0, 0xFFFF, _, _] => none
  | p :: _ => if p / 64 == 0x3FA then some 22 else some 99
  | [] => some 99

/-- An IPv6 address of a multicast group (`ff00::/8`), which a stream socket cannot bind. -/
def isIpv6Multicast (ps : List Nat) : Bool := 0xFF00 ≤ ps.headD 0

/-- Splits `host:port` at its last colon. -/
def splitHostPort (addr : String) : String × Nat :=
  let cs := addr.toList.reverse
  let portText := (cs.takeWhile (· != ':')).reverse
  let host := String.ofList ((cs.dropWhile (· != ':')).drop 1).reverse
  (host, portText.foldl (fun n c => n * 10 + (c.toNat - 48)) 0)

/-- What binding `host:port` does on this host: the operating system's account of a failure.
Names other than `localhost` and numeric addresses do not resolve, and ports below 1024 need a
privilege the server does not have. An IPv4 address is then bound. An IPv6 address is checked
first for being a multicast group, then for its port, and then for being one this host can bind
(`ipv6BindError`). -/
def Host.bind (_h : Host) (addr : String) : Except String Unit :=
  let (host, port) := splitHostPort addr
  let privileged := 0 < port && port < 1024
  let unresolved := "failed to lookup address information: Temporary failure in name resolution"
  if host == "localhost" || (readIpv4 host).isSome then
    if privileged then .error (osErrorText 13) else .ok ()
  else if host.startsWith "[" && host.endsWith "]" then
    match Endpoint.parseIpv6 ((host.toList.drop 1).dropLast) with
    | none => .error unresolved
    | some ps =>
      if isIpv6Multicast ps then .error (osErrorText 22)
      else if privileged then .error (osErrorText 13)
      else match ipv6BindError ps with
        | some code => .error (osErrorText code)
        | none => .ok ()
  else .error unresolved

/-- Connecting a client to a server on this host: the network is unreachable. -/
def Host.connect (_h : Host) : Except String Unit := .error (osErrorText 101)

end HttpReactor
