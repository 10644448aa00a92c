import HttpReactor.Endpoint.Ipv6
import HttpReactor.Octets
import HttpReactor.Domain.Ascii
/-!
# The authority of a URL

Listen addresses are URLs whose scheme names no web protocol, so their host is opaque: kept as
written, with its controls and non-ASCII characters percent-encoded, unless it is an IPv6 address
in brackets. Reading follows the URL standard as far as scheme, user information, host and port go;
what follows them (path, query, fragment) may be anything.

The standard reads the web's own schemes (`ftp`, `http`, `https`, `ws`, `wss` and `file`) in a
stricter way: a backslash counts as a slash, the host must not be empty, and it is a domain name,
brought to its ASCII form (`Domain.toAscii`), or an IPv4 address rather than opaque text. Such a URL
is never a listen address, but whether it reads at all decides which error a listen address gets.

Before reading, blanks and controls at both ends are dropped, and tabs and line breaks anywhere.
-/

namespace HttpReactor

namespace Endpoint

/-- Why a text is not a URL. -/
inductive UrlError where
  | emptyHost
  | invalidPort
  | invalidIpv4Address
  | invalidIpv6Address
  | invalidDomainCharacter
  | invalidDomainName
  | relativeWithoutBase
  deriving DecidableEq, Repr

namespace UrlError

/-- The phrase that reports the error. -/
def message : UrlError → String
  | .emptyHost => "empty host"
  | .invalidPort => "invalid port number"
  | .invalidIpv4Address => "invalid IPv4 address"
  | .invalidIpv6Address => "invalid IPv6 address"
  | .invalidDomainCharacter => "invalid domain character"
  | .invalidDomainName => "invalid international domain name"
  | .relativeWithoutBase => "relative URL without a base"

end UrlError

/-- What a listen address needs of a URL: its scheme in small letters, its host as text, and its
port, when they are there. -/
structure Url where
  scheme : String
  host : Option String
  port : Option Nat
  deriving DecidableEq, Repr

/-- A blank or a control from the ASCII range, trimmed from both ends of the input. -/
def isBlankOrControl (c : Char) : Bool := c.toNat ≤ 32

/-- Tab, line feed or carriage return: dropped wherever they stand. -/
def isTabOrNewline (c : Char) : Bool := c = '\t' || c = '\n' || c = '\r'

/-- The characters the reader sees. -/
def prepare (s : String) : List Char :=
  let cs := (s.toList.dropWhile isBlankOrControl).reverse.dropWhile isBlankOrControl
  cs.reverse.filter fun c => !isTabOrNewline c

/-- A character that may not stand in an opaque host. -/
def isForbiddenInHost (c : Char) : Bool :=
  [ '\x00', '\t', '\n', '\r', ' ', '#', '/', ':', '<', '>', '?', '@', '[', '\\', ']', '^', '|' ].contains c

/-- The upper-case hexadecimal digit of a number below 16. -/
def upperHex (n : Nat) : Char := if n < 10 then Char.ofNat (48 + n) else Char.ofNat (55 + n)

/-- A character as written in an opaque host: controls, DEL and non-ASCII as `%XX` per UTF-8 octet. -/
def encodeHostChar (c : Char) : List Char :=
  if c.toNat < 32 || c.toNat ≥ 127 then
    (String.singleton c).toUTF8.toList.flatMap fun b => ['%', upperHex (b.toNat / 16), upperHex (b.toNat % 16)]
  else [c]

/-- The text of a host: an IPv6 address in brackets, or an opaque host. -/
def parseHost (cs : List Char) : Except UrlError String :=
  if cs.head? = some '[' then
    if cs.getLast? ≠ some ']' then .error .invalidIpv6Address
    else
      match parseIpv6 ((cs.drop 1).dropLast) with
      | some ps => .ok ("[" ++ render ps ++ "]")
      | none => .error .invalidIpv6Address
  else if cs.any isForbiddenInHost then .error .invalidDomainCharacter
  else .ok (String.ofList (cs.flatMap encodeHostChar))

/-- How the URL standard reads what follows a scheme. -/
inductive SchemeKind where
  /-- `file`: a host and no port. -/
  | file
  /-- `ftp`, `http`, `https`, `ws` and `wss`: a domain or an address, and a port. -/
  | web
  /-- Any other scheme: an opaque host and a port. -/
  | other
  deriving DecidableEq, Repr

/-- The kind of a scheme given in small letters. -/
def SchemeKind.of (scheme : String) : SchemeKind :=
  if scheme = "file" then .file
  else if ["ftp", "http", "https", "ws", "wss"].contains scheme then .web
  else .other

/-- The character ends the authority: `/`, `?` and `#`, and for the special schemes also `\`. -/
def endsAuthority (special : Bool) (c : Char) : Bool :=
  c = '/' || c = '?' || c = '#' || (special && c = '\\')

/-- The host's characters and what follows them: the host ends at a colon outside brackets, or
where the authority ends. -/
def splitHost (special inside : Bool) : List Char → List Char × List Char
  | [] => ([], [])
  | c :: cs =>
    if (c = ':' && !inside) || endsAuthority special c then ([], c :: cs)
    else
      let inside' := if c = '[' then true else if c = ']' then false else inside
      let r := splitHost special inside' cs
      (c :: r.1, r.2)

/-- The port: decimal digits, at most 65535, up to the end or to one of `/ \ ? #`, whatever the
scheme; none if there are no digits. -/
def parsePort (acc : Option Nat) : List Char → Except UrlError (Option Nat)
  | [] => .ok acc
  | c :: cs =>
    if c.isDigit then
      let v := acc.getD 0 * 10 + (c.toNat - 48)
      if v > 65535 then .error .invalidPort else parsePort (some v) cs
    else if endsAuthority true c then .ok acc
    else .error .invalidPort

/-- The user information before the last `@` of the authority, and what follows it. -/
def splitUserinfo (special : Bool) (cs : List Char) : Option (List Char × List Char) :=
  let authority := cs.takeWhile fun c => !endsAuthority special c
  match authority.reverse.findIdx? (· = '@') with
  | none => none
  | some i =>
    let at_ := authority.length - 1 - i
    some (cs.take at_, cs.drop (at_ + 1))

/-- The user information names a user or a password, so the URL must have a host. -/
def hasCredentials (info : List Char) : Bool :=
  match info.span (· ≠ ':') with
  | (user, []) => !user.isEmpty
  | (user, _ :: password) => !user.isEmpty || !password.isEmpty

/-- Reads the authority after `//` of a URL whose host is opaque: user information, host and
port. -/
def parseAuthority (cs : List Char) : Except UrlError (Option String × Option Nat) := do
  let (credentials, rest) ← match splitUserinfo false cs with
    | none => pure (false, cs)
    | some ([], after) =>
      match after with
      | c :: _ => if endsAuthority false c then throw .emptyHost else pure (false, after)
      | [] => pure (false, after)
    | some (info, after) => pure (hasCredentials info, after)
  let (hostChars, afterHost) := splitHost false false rest
  let host ← parseHost hostChars
  if host.isEmpty && afterHost.head? = some ':' then throw .emptyHost
  let port ← match afterHost with
    | ':' :: portChars => parsePort none portChars
    | _ => pure none
  if host.isEmpty && credentials then throw .emptyHost
  return (if host.isEmpty then none else some host, port)

/-- The value of a hexadecimal digit. -/
def hexDigitValue? (c : Char) : Option Nat :=
  if c.isDigit then some (c.toNat - 48)
  else if 'a' ≤ c && c ≤ 'f' then some (c.toNat - 87)
  else if 'A' ≤ c && c ≤ 'F' then some (c.toNat - 55)
  else none

/-- The octets with each `%` that two hexadecimal digits follow replaced by the octet they
name. -/
def percentDecode (bs : List UInt8) : List UInt8 :=
  match bs with
  | b :: h :: l :: more =>
    if b = 37 then
      match hexDigitValue? (Char.ofNat h.toNat), hexDigitValue? (Char.ofNat l.toNat) with
      | some x, some y => (x * 16 + y).toUInt8 :: percentDecode more
      | _, _ => b :: percentDecode (h :: l :: more)
    else b :: percentDecode (h :: l :: more)
  | short => short
termination_by bs.length

/-- Reads one part of an IPv4 address: hexadecimal after `0x`, octal after a leading `0`, decimal
otherwise; none when it is not a number in its base. The value may be of any size. -/
def ipv4Number? (cs : List Char) : Option Nat :=
  let digitsIn (base : Nat) (ds : List Char) : Option Nat :=
    ds.foldl (fun acc d => do
      let v ← acc
      let x ← hexDigitValue? d
      if x < base then some (v * base + x) else none) (some 0)
  match cs with
  | [] => none
  | '0' :: x :: rest => if x = 'x' || x = 'X' then digitsIn 16 rest else digitsIn 8 (x :: rest)
  | _ => digitsIn 10 cs

/-- The parts of a domain between its dots, without the empty part after a final dot. -/
def domainParts (labels : List String) : List String :=
  if labels.length > 1 && labels.getLast? = some "" then labels.dropLast else labels

/-- The domain ends in a number, so it must be an IPv4 address. -/
def endsInNumber (labels : List String) : Bool :=
  match (domainParts labels).getLast? with
  | none => false
  | some last => (!last.isEmpty && last.all Char.isDigit) || (ipv4Number? last.toList).isSome

/-- An IPv4 address of one to four numbers: each but the last names one octet, and the last
fills the octets that are left. -/
def isIpv4 (labels : List String) : Bool :=
  let parts := domainParts labels
  if parts.length > 4 then false
  else
    match parts.mapM fun p => ipv4Number? p.toList with
    | none => false
    | some ns =>
      ns.all (· < Nat.pow 2 32) && ns.getLast?.getD 0 < Nat.pow 256 (5 - ns.length) &&
        ns.dropLast.all (· ≤ 255)

/-- Reads the host of a special scheme: an IPv6 address in brackets, or a domain, percent-decoded
and brought to its ASCII form, that is read as an IPv4 address when it ends in a number. Octets
that are not UTF-8 stand for the replacement character, which no domain may hold. -/
def parseDomainHost (cs : List Char) : Except UrlError String :=
  if cs.head? = some '[' then parseHost cs
  else
    match Octets.utf8? (percentDecode (Octets.ofString (String.ofList cs))) with
    | none => .error .invalidDomainName
    | some text =>
      match Domain.toAscii text with
      | .error _ => .error .invalidDomainName
      | .ok ascii =>
        if ascii.isEmpty then .error .emptyHost
        else
          let labels := ascii.splitOn "."
          if endsInNumber labels && !isIpv4 labels then .error .invalidIpv4Address
          else .ok ascii

/-- Reads what follows the scheme of a web URL: slashes and backslashes, user information, a host
that must not be empty, and a port. -/
def parseWebAuthority (cs : List Char) : Except UrlError (String × Option Nat) := do
  let cs := cs.dropWhile fun c => c = '/' || c = '\\'
  let rest := match splitUserinfo true cs with
    | none => cs
    | some (_, after) => after
  let (hostChars, afterHost) := splitHost true false rest
  if hostChars.isEmpty then throw .emptyHost
  let host ← parseDomainHost hostChars
  let port ← match afterHost with
    | ':' :: portChars => parsePort none portChars
    | _ => pure none
  return (host, port)

/-- The two characters name a drive: a letter, then a colon or a bar. -/
def isDriveLetter : List Char → Bool
  | [l, c] => l.isAlpha && (c = ':' || c = '|')
  | _ => false

/-- Reads what follows `file:`: after two slashes, a host up to the path, unless it is empty or
names a drive. -/
def parseFileHost (cs : List Char) : Except UrlError (Option String) :=
  match cs with
  | a :: b :: after =>
    if (a = '/' || a = '\\') && (b = '/' || b = '\\') then
      let hostChars := after.takeWhile fun c => !endsAuthority true c
      if hostChars.isEmpty || isDriveLetter hostChars then .ok none
      else (parseDomainHost hostChars).map fun h => if h = "localhost" then none else some h
    else .ok none
  | _ => .ok none

/-- The scheme: a letter, then letters, digits, `+`, `-` and `.`, ended by a colon. -/
def splitScheme (cs : List Char) : Option (String × List Char) :=
  match cs with
  | c :: _ =>
    if !c.isAlpha then none
    else
      let (s, rest) := cs.span fun d => d.isAlphanum || d = '+' || d = '-' || d = '.'
      match rest with
      | ':' :: after => some (String.ofList (s.map Char.toLower), after)
      | _ => none
  | [] => none

/-- Reads a URL far enough to give its scheme, host and port. -/
def Url.parse (s : String) : Except UrlError Url := do
  let some (scheme, rest) := splitScheme (prepare s) | throw .relativeWithoutBase
  match SchemeKind.of scheme with
  | .file => return ⟨scheme, ← parseFileHost rest, none⟩
  | .web =>
    let (host, port) ← parseWebAuthority rest
    return ⟨scheme, some host, port⟩
  | .other =>
    match rest with
    | '/' :: '/' :: authority =>
      let (host, port) ← parseAuthority authority
      return ⟨scheme, host, port⟩
    | _ => return ⟨scheme, none, none⟩

end Endpoint

end HttpReactor
