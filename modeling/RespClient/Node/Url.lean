import RespClient.Node.Address
import RespClient.Node.Domain

/-!
# URLs of nodes

A URL is a scheme, `://` and an authority: user information up to the last `@`, a
host, and a port number after a colon. What follows the authority does not matter
here. Only the scheme `redis` names a node, and 6379 is its port when the URL
names none. URLs of the web and of files have rules of their own, which only tell
whether they are URLs at all.
-/

namespace RespClient.Url

/-- The port of a node whose URL names none. -/
def defaultPort : UInt16 := 6379

/-- A character of a scheme after its first. -/
def isSchemeChar (c : Char) : Bool :=
  Ascii.isLetter c || Ascii.isDigit c || c == '+' || c == '-' || c == '.'

/-- Ends the authority. -/
def isAuthorityEnd (c : Char) : Bool :=
  c == '/' || c == '?' || c == '#'

/-- Control characters and blanks around a URL, and tabs and line ends anywhere in
it, do not count. -/
def clean (cs : List Char) : List Char :=
  let outer := fun c : Char => c.toNat ≤ 32
  let trimmed := ((cs.dropWhile outer).reverse.dropWhile outer).reverse
  trimmed.filter fun c => c != '\t' && c != '\n' && c != '\r'

/-- Splits off the scheme, in lower case, and its colon. -/
def splitScheme? (cs : List Char) : Option (String × List Char) :=
  match cs with
  | [] => none
  | c :: _ =>
    if !Ascii.isLetter c then none
    else
      match cs.span isSchemeChar with
      | (scheme, ':' :: rest) => some (String.ofList (scheme.map Ascii.lower), rest)
      | _ => none

/-- Splits the authority into user information, if there is any, and the rest. -/
def splitUser (authority : List Char) : Option (List Char) × List Char :=
  match authority.reverse.span (· != '@') with
  | (_, []) => (none, authority)
  | (rest, _ :: user) => (some user.reverse, rest.reverse)

/-- Splits at the first colon outside brackets. -/
def splitHost (inBrackets : Bool) : List Char → List Char × Option (List Char)
  | [] => ([], none)
  | c :: rest =>
    if c = ':' ∧ !inBrackets then ([], some rest)
    else
      let inside := if c = '[' then true else if c = ']' then false else inBrackets
      let (host, port) := splitHost inside rest
      (c :: host, port)

/-- A character that no host may hold. -/
def isForbidden (c : Char) : Bool :=
  ['\x00', '\t', '\n', '\r', ' ', '#', '/', ':', '<', '>', '?', '@', '[', '\\', ']', '^',
    '|'].contains c

/-- A byte after a percent sign. -/
def percent (b : UInt8) : List Char :=
  let digit := fun n : Nat => if n < 10 then Char.ofNat (48 + n) else Char.ofNat (55 + n)
  ['%', digit (b.toNat / 16), digit (b.toNat % 16)]

/-- A character of a host: printable ASCII stays, the rest is written in percent
signs. -/
def hostChar (c : Char) : List Char :=
  if 32 ≤ c.toNat ∧ c.toNat < 127 then [c] else (String.utf8EncodeChar c).flatMap percent

/-- Reads a host: an IPv6 literal in brackets, or a name. -/
def readHost? (cs : List Char) : Option (List Char) :=
  match cs with
  | '[' :: rest =>
    if rest.getLast? = some ']' then (Ipv6.read? rest.dropLast).map Ipv6.text else none
  | cs => if cs.any isForbidden then none else some (cs.flatMap hostChar)

/-- Reads a port number: digits, or nothing for the default. A backslash ends it. -/
def readPort? (cs : List Char) : Option (Option UInt16) :=
  let ds := cs.takeWhile (· != '\\')
  if ds.isEmpty then some none
  else if ds.head? = some '+' then none
  else (Numeral.readUInt16? (String.ofList ds)).map some

/-- A URL as far as it matters here: of web and file URLs that is the scheme alone. An
empty host counts as none. -/
structure Parts where
  scheme : String
  host : Option (List Char) := none
  port : Option UInt16 := none

/-- Reads the authority of a URL. User information needs a host behind it, and so
does a port number. -/
def readAuthority? (scheme : String) (rest : List Char) : Option Parts :=
  let (authority, tail) := rest.span fun c => !isAuthorityEnd c
  let (user, hostPort) := splitUser authority
  let (hostText, portText) := splitHost false hostPort
  let named := fun u : List Char => u != [] && u != [':']
  if hostText.isEmpty &&
      (portText.isSome || user.any named || (user == some [] && !tail.isEmpty)) then none
  else do
    let host ← readHost? hostText
    let port ←
      match portText with
      | none => some none
      | some digits => readPort? digits
    pure ⟨scheme, if host.isEmpty then none else some host, port⟩

/-! ## Web and file URLs -/

/-- Schemes of the web. -/
def webSchemes : List String :=
  ["http", "https", "ws", "wss", "ftp"]

/-- A slash of either kind, as web and file URLs have them. -/
def isSlash (c : Char) : Bool :=
  c == '/' || c == '\\'

/-- Ends the host of a web or file URL, with all that belongs to it. -/
def isWebEnd (c : Char) : Bool :=
  isSlash c || c == '?' || c == '#'

/-- May what follows the slashes of a web URL stand there? It needs a host. -/
def isWebAuthority (rest : List Char) : Bool :=
  let authority := rest.takeWhile fun c => !isWebEnd c
  let (hostText, portText) := splitHost false (splitUser authority).2
  Domain.isHost hostText && portText.all fun digits => (readPort? digits).isSome

/-- Is the text the letter of a drive? -/
def isDrive : List Char → Bool
  | [c, mark] => Ascii.isLetter c && (mark == ':' || mark == '|')
  | _ => false

/-- May what follows the colon of a file URL stand there? There may be a host behind
two slashes; a drive stands in its place but is none. -/
def isFileRest (rest : List Char) : Bool :=
  match rest with
  | a :: b :: rest =>
    let host := rest.takeWhile fun c => !isWebEnd c
    !(isSlash a && isSlash b) || host.isEmpty || isDrive host || Domain.isHost host
  | _ => true

/-! ## Whole URLs -/

/-- Reads a URL. One without `//` after its scheme has no host, except on the web: there
the authority begins behind all slashes that there are. -/
def read? (text : String) : Option Parts := do
  let (scheme, rest) ← splitScheme? (clean text.toList)
  if webSchemes.contains scheme then
    if isWebAuthority (rest.dropWhile isSlash) then pure { scheme } else none
  else if scheme = "file" then
    if isFileRest rest then pure { scheme } else none
  else
    match rest with
    | '/' :: '/' :: rest => readAuthority? scheme rest
    | _ => pure { scheme }

/-- Is there, anywhere in the text, what stands between a scheme and an authority? -/
def hasScheme : List Char → Bool
  | [] => false
  | c :: rest => "://".toList.isPrefixOf (c :: rest) || hasScheme rest

/-- Reads the URL of a node. -/
def parseNode (text : String) : Except Failure Node :=
  match read? text with
  | none => .error (.invalidArgument "invalid address format")
  | some url =>
    if url.scheme ≠ "redis" then .error (.invalidArgument "invalid scheme, expected redis://")
    else
      match url.host with
      | none => .error (.invalidArgument "missing host in address")
      | some host => .ok { host := String.ofList host, port := url.port.getD defaultPort }

end RespClient.Url
