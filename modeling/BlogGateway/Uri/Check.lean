/-
Links.

A link is checked by the rules that browsers follow.  They forgive much: blanks around the
link, line breaks inside it, missing or turned slashes.  What they refuse is a text without
a scheme, and a host or a port that cannot be one.
-/
import BlogGateway.Uri.Domain

namespace BlogGateway.Uri

/-- Why a text is no link. -/
inductive Error
  /-- There is no scheme, and nothing that the text could be relative to. -/
  | relative
  | emptyHost
  | invalidDomain
  | invalidPort
  | invalidIpv4
  | invalidIpv6
  | invalidHostCharacter
  deriving DecidableEq, Repr

/-- The text of an error. -/
def Error.message : Error → String
  | .relative => "relative URL without a base"
  | .emptyHost => "empty host"
  | .invalidDomain => "invalid international domain name"
  | .invalidPort => "invalid port number"
  | .invalidIpv4 => "invalid IPv4 address"
  | .invalidIpv6 => "invalid IPv6 address"
  | .invalidHostCharacter => "invalid domain character"

/-- What the rules of a scheme are. -/
inductive Scheme
  | file
  /-- The schemes of the web, which need a host. -/
  | web
  | other
  deriving DecidableEq, Repr

/-- The rules of the scheme with the given name. -/
def Scheme.ofName (name : List Char) : Scheme :=
  let name := String.ofList (name.map Text.lowerAscii)
  if name = "file" then .file
  else if ["http", "https", "ws", "wss", "ftp"].contains name then .web
  else .other

/-- Whether a character may be part of a scheme's name. -/
def isSchemeChar (c : Char) : Bool :=
  Text.isLetter c || Text.isDigit c || c = '+' || c = '-' || c = '.'

/-- The scheme and what follows its colon. -/
def scheme? (s : List Char) : Option (Scheme × List Char) :=
  match s with
  | [] => none
  | c :: _ =>
    if Text.isLetter c then
      match s.dropWhile isSchemeChar with
      | ':' :: rest => some (.ofName (s.takeWhile isSchemeChar), rest)
      | _ => none
    else none

/-- The characters that end the host part. -/
def endsAuthority (scheme : Scheme) (c : Char) : Bool :=
  c = '/' || c = '?' || c = '#' || (c = '\\' && scheme != .other)

/-- Checks a host in square brackets. -/
def checkBracketed (host : List Char) : Except Error Unit :=
  match host.getLast? with
  | some ']' =>
    if (Net.Ipv6.ofChars? (host.drop 1).dropLast).isSome then .ok () else .error .invalidIpv6
  | _ => .error .invalidIpv6

/-- Checks a host of the schemes of the web. -/
def checkHost (host : List Char) : Except Error Unit :=
  if host.head? = some '[' then checkBracketed host
  else match domain? host with
    | none => .error .invalidDomain
    | some [] => .error .emptyHost
    | some domain =>
      if endsInNumber domain && !isHostAddress domain then .error .invalidIpv4 else .ok ()

/-- Checks a host of any other scheme, which is not looked into. -/
def checkOpaqueHost (host : List Char) : Except Error Unit :=
  if host.head? = some '[' then checkBracketed host
  else if host.any fun c => "\x00\t\n\r #/:<>?@[\\]^|".toList.contains c then
    .error .invalidHostCharacter
  else .ok ()

/-- Splits a host from what follows: it ends at a colon outside brackets. -/
def splitHost (inside : Bool) : List Char → List Char × List Char
  | [] => ([], [])
  | c :: s =>
    if c = ':' && !inside then ([], c :: s)
    else
      let inside := if c = '[' then true else if c = ']' then false else inside
      let (host, rest) := splitHost inside s
      (c :: host, rest)

/-- Checks the port, which ends where the host part ends. -/
def checkPort (s : List Char) : Except Error Unit :=
  let digits := s.takeWhile fun c => !(c = '/' || c = '\\' || c = '?' || c = '#')
  match Text.number? 10 digits with
  | some n => if n ≤ 65535 then .ok () else .error .invalidPort
  | none => .error .invalidPort

/-- Whether names before the host leave anything to write: a lone colon does not. -/
def hasNames (names : List Char) : Bool := !(names = [] || names = [':'])

/-- The part before the last at sign, if there is one, and the part after it. -/
def splitNames (authority : List Char) : Option (List Char) × List Char :=
  let host := (authority.reverse.takeWhile (· ≠ '@')).reverse
  if host.length = authority.length then (none, authority)
  else (some (authority.take (authority.length - host.length - 1)), host)

/-- Checks what follows the two slashes: names, host and port. -/
def checkAuthority (scheme : Scheme) (s : List Char) : Except Error Unit := do
  let authority := s.takeWhile fun c => !endsAuthority scheme c
  let rest := s.dropWhile fun c => !endsAuthority scheme c
  let (names, hostAndPort) := splitNames authority
  if names = some [] && hostAndPort.isEmpty && !rest.isEmpty then throw .emptyHost
  let (host, after) := splitHost false hostAndPort
  if scheme = .web && host.isEmpty then throw .emptyHost
  if scheme = .web then checkHost host else checkOpaqueHost host
  match after with
  | ':' :: port =>
    if host.isEmpty then throw .emptyHost
    checkPort (port ++ rest)
  | _ => pure ()
  if host.isEmpty && names.any hasNames then throw .emptyHost

/-- Whether a host is the letter of a drive. -/
def isDrive (host : List Char) : Bool :=
  match host with
  | [letter, mark] => Text.isLetter letter && (mark = ':' || mark = '|')
  | _ => false

/-- Checks a link to a file, which has a host only after two slashes. -/
def checkFile (s : List Char) : Except Error Unit :=
  match s with
  | a :: b :: rest =>
    if (a = '/' || a = '\\') && (b = '/' || b = '\\') then
      let host := rest.takeWhile fun c => !endsAuthority .file c
      if host.isEmpty || isDrive host then .ok () else checkHost host
    else .ok ()
  | _ => .ok ()

/-- Checks a link. -/
def check (text : String) : Except Error Unit :=
  let isEdge (c : Char) : Bool := c ≤ ' '
  let trimmed := ((text.toList.dropWhile isEdge).reverse.dropWhile isEdge).reverse
  let s := trimmed.filter fun c => !(c = '\t' || c = '\n' || c = '\r')
  match scheme? s with
  | none => .error .relative
  | some (.file, rest) => checkFile rest
  | some (.web, rest) => checkAuthority .web (rest.dropWhile fun c => c = '/' || c = '\\')
  | some (.other, rest) =>
    match rest with
    | '/' :: '/' :: rest => checkAuthority .other rest
    | _ => .ok ()

end BlogGateway.Uri
