import ResourceClient.Url.Address
import ResourceClient.Url.Domain

/-! # URLs

    An absolute URL is split into its parts and each part is brought into
    its normal form: scheme and host in lower case, the default port
    dropped, dot segments resolved, characters that may not stand for
    themselves percent-encoded, and never an empty path in a web address.
    Blanks around the text, and tabulators and line ends inside it, do not
    count. -/

namespace ResourceClient

/-- The path of a URL. -/
inductive UrlPath where
  /-- Segments, each after a solidus. -/
  | segments (parts : List String)
  /-- A text without structure, as in `mailto:`. -/
  | opaqueText (text : String)
  deriving DecidableEq, Repr

/-- An absolute URL in its normal form. -/
structure Url where
  /-- The scheme in lower case. -/
  scheme : String
  /-- The user name. -/
  username : String := ""
  /-- The password. -/
  password : String := ""
  /-- The host; it may be there and empty. -/
  host : Option String := none
  /-- The port, unless it is the default one. -/
  port : Option Nat := none
  /-- The path. -/
  path : UrlPath
  /-- The query after the question mark. -/
  query : Option String := none
  /-- The fragment after the number sign. -/
  fragment : Option String := none
  deriving DecidableEq, Repr

namespace Url

/-! ## Why a text is no URL -/

/-- Why a text is no absolute URL. -/
inductive Fault where
  /-- There is no scheme. -/
  | relative
  /-- A host is missing. -/
  | emptyHost
  /-- The port is no number of 16 bits. -/
  | invalidPort
  /-- The host in brackets is no IPv6 address. -/
  | invalidIpv6
  /-- The host ends in a number but is no IPv4 address. -/
  | invalidIpv4
  /-- The host is no domain name. -/
  | invalidDomain
  /-- The host of a scheme without domain names holds a delimiter. -/
  | invalidHostCharacter
  deriving DecidableEq, Repr

/-- The wording of a fault. -/
def Fault.message : Fault → String
  | relative => "relative URL without a base"
  | emptyHost => "empty host"
  | invalidPort => "invalid port number"
  | invalidIpv6 => "invalid IPv6 address"
  | invalidIpv4 => "invalid IPv4 address"
  | invalidDomain => "invalid international domain name"
  | invalidHostCharacter => "invalid domain character"

/-! ## Schemes -/

/-- The default ports of the schemes of web addresses. -/
def defaultPorts : List (String × Nat) :=
  [("http", 80), ("https", 443), ("ws", 80), ("wss", 443), ("ftp", 21)]

/-- Whether URLs of a scheme are web addresses, or files, which share their syntax. -/
def isSpecial (scheme : String) : Bool :=
  scheme == "file" || (defaultPorts.lookup scheme).isSome

/-- Whether a character may stand in a scheme after its first letter. -/
def isSchemeChar (c : Char) : Bool := c.isAlphanum || c == '+' || c == '-' || c == '.'

/-- The scheme in lower case and what follows its colon. -/
def splitScheme? (cs : List Char) : Option (String × List Char) :=
  match cs with
  | [] => none
  | first :: _ =>
    if first.isAlpha then
      match cs.dropWhile isSchemeChar with
      | ':' :: rest => some ((String.ofList (cs.takeWhile isSchemeChar)).toLower, rest)
      | _ => none
    else none

/-! ## Hosts -/

/-- Whether a character delimits the parts of any URL. -/
def isHostDelimiter (c : Char) : Bool :=
  "\x00\t\n\r #/:<>?@[\\]^|".toList.contains c

/-- The host of a URL that is no web address. -/
def parseOpaqueHost (cs : List Char) : Except Fault String :=
  match cs with
  | '[' :: rest =>
    if rest.getLast? = some ']' then
      match ipv6? rest.dropLast with
      | some pieces => .ok ("[" ++ ipv6Text pieces ++ "]")
      | none => .error .invalidIpv6
    else .error .invalidIpv6
  | cs =>
    if cs.any isHostDelimiter then .error .invalidHostCharacter
    else .ok (.ofList (percentEncode isControl cs))

/-- The host of a web address. -/
def parseDomainHost (cs : List Char) : Except Fault String :=
  match cs with
  | '[' :: _ => parseOpaqueHost cs
  | cs =>
    match domainToAscii? (percentDecode cs) with
    | none => .error .invalidDomain
    | some [] => .error .emptyHost
    | some domain =>
      if endsInNumber domain then
        match ipv4? domain with
        | some n => .ok (ipv4Text n)
        | none => .error .invalidIpv4
      else .ok (.ofList domain)

/-- The characters of a host, which a colon ends outside brackets, and what follows them. -/
def splitHost (inside : Bool) : List Char → List Char × List Char
  | [] => ([], [])
  | c :: rest =>
    if c = ':' ∧ ¬inside then ([], c :: rest)
    else
      let inside := if c = '[' then true else if c = ']' then false else inside
      let (host, after) := splitHost inside rest
      (c :: host, after)

/-- A port, if it is not the default one of the scheme. -/
def parsePort (scheme : String) (cs : List Char) : Except Fault (Option Nat) :=
  if cs.all Char.isDigit then
    let port := cs.foldl (fun n c => n * 10 + (c.toNat - '0'.toNat)) 0
    if 65535 < port then .error .invalidPort
    else if cs.isEmpty ∨ defaultPorts.lookup scheme = some port then .ok none
    else .ok (some port)
  else .error .invalidPort

/-- The user name and the password before the last at sign, and what follows it. -/
def splitUserinfo (cs : List Char) : Option (List Char) × List Char :=
  if cs.contains '@' then
    let after := (cs.reverse.takeWhile (· != '@')).reverse
    (some (cs.take (cs.length - after.length - 1)), after)
  else (none, cs)

/-- Who and where: the parts between the solidi and the path. -/
structure Authority where
  /-- The user name. -/
  username : String
  /-- The password. -/
  password : String
  /-- The host. -/
  host : String
  /-- The port. -/
  port : Option Nat

/-- The parts between the solidi and the path. -/
def parseAuthority (scheme : String) (cs : List Char) : Except Fault Authority := do
  let (userinfo, hostAndPort) := splitUserinfo cs
  let userinfo := userinfo.getD []
  let username := userinfo.takeWhile (· != ':')
  let password := userinfo.drop (username.length + 1)
  let (host, afterHost) := splitHost false hostAndPort
  if host.isEmpty ∧ (isSpecial scheme ∨ !userinfo.isEmpty ∨ !afterHost.isEmpty) then
    .error .emptyHost
  else
    let host ← if isSpecial scheme then parseDomainHost host else parseOpaqueHost host
    let port ← parsePort scheme (afterHost.drop 1)
    return {
      username := .ofList (percentEncode userinfoSet username)
      password := .ofList (percentEncode userinfoSet password)
      host
      port }

/-! ## Paths -/

/-- Whether a segment stands for the place it is in. -/
def isSingleDot (segment : String) : Bool := [".", "%2e"].contains segment.toLower

/-- Whether a segment stands for the place above. -/
def isDoubleDot (segment : String) : Bool :=
  ["..", ".%2e", "%2e.", "%2e%2e"].contains segment.toLower

/-- Whether two characters are the letter of a drive. -/
def isDriveLetter (segment : List Char) : Bool :=
  match segment with
  | [letter, mark] => letter.isAlpha && (mark == ':' || mark == '|')
  | _ => false

/-- Removes the last segment; the drive that a path of a file begins with stays. -/
def shorten (scheme : String) (parts : List String) : List String :=
  match parts with
  | [drive] => if scheme == "file" && isDriveLetter drive.toList then [drive] else []
  | parts => parts.dropLast

/-- Adds a segment that was read, and says whether another follows it. -/
def addSegment (scheme : String) (parts : List String) (segment : List Char) (more : Bool) :
    List String :=
  let text := String.ofList (percentEncode pathSet segment)
  if isDoubleDot text then
    let kept := shorten scheme parts
    if more then kept else kept ++ [""]
  else if isSingleDot text then
    if more then parts else parts ++ [""]
  else if scheme == "file" && parts.isEmpty && isDriveLetter segment then
    [.ofList (segment.take 1 ++ [':'])]
  else parts ++ [text]

/-- The segments of a path after its first solidus. -/
def parseSegments (scheme : String) (isSlash : Char → Bool) (segment : List Char) :
    (cs : List Char) → List String → List String
  | [], parts => addSegment scheme parts segment.reverse false
  | c :: rest, parts =>
    if isSlash c then
      parseSegments scheme isSlash [] rest (addSegment scheme parts segment.reverse true)
    else parseSegments scheme isSlash (c :: segment) rest parts

/-- Whether a character separates the segments of a path. -/
def isSlash (scheme : String) (c : Char) : Bool := c == '/' || (isSpecial scheme && c == '\\')

/-- The path after the authority. -/
def parsePath (scheme : String) (cs : List Char) : UrlPath :=
  match cs with
  | [] => .segments (if isSpecial scheme then [""] else [])
  | c :: rest =>
    .segments <| parseSegments scheme (isSlash scheme) []
      (if isSlash scheme c then rest else c :: rest) []

/-! ## Whole URLs -/

/-- What stands before the query and the fragment, the query, and the fragment. -/
def splitTail (cs : List Char) : List Char × Option (List Char) × Option (List Char) :=
  let beforeFragment := cs.takeWhile (· != '#')
  let fragment := (cs.drop beforeFragment.length).tail?
  let front := beforeFragment.takeWhile (· != '?')
  let query := (beforeFragment.drop front.length).tail?
  (front, query, fragment)

/-- The host of a file: a drive is no host, and `localhost` is the same as none. -/
def parseFileHost (cs : List Char) : Except Fault (String × UrlPath) := do
  let host := cs.takeWhile fun c => !isSlash "file" c
  let rest := cs.drop host.length
  if isDriveLetter host then return ("", parsePath "file" ('/' :: cs))
  else if host.isEmpty then return ("", parsePath "file" rest)
  else
    let host ← parseDomainHost host
    return (if host == "localhost" then "" else host, parsePath "file" rest)

/-- A URL before its query and its fragment, after its scheme. -/
def parseFront (scheme : String) (cs : List Char) : Except Fault Url :=
  if scheme == "file" then do
    match cs with
    | a :: b :: rest =>
      if isSlash scheme a && isSlash scheme b then
        let (host, path) ← parseFileHost rest
        return { scheme, host := some host, path }
      else return { scheme, host := some "", path := parsePath scheme cs }
    | cs => return { scheme, host := some "", path := parsePath scheme cs }
  else
    let authority? : Option (List Char) :=
      if isSpecial scheme then some (cs.dropWhile (isSlash scheme))
      else match cs with
        | '/' :: '/' :: rest => some rest
        | _ => none
    match authority? with
    | some cs => do
      let authority := cs.takeWhile fun c => !isSlash scheme c
      let a ← parseAuthority scheme authority
      return {
        scheme
        username := a.username
        password := a.password
        host := some a.host
        port := a.port
        path := parsePath scheme (cs.drop authority.length) }
    | none =>
      match cs with
      | '/' :: _ => .ok { scheme, path := parsePath scheme cs }
      | cs => .ok { scheme, path := .opaqueText (.ofList (percentEncode isControl cs)) }

/-- Whether a character is a control character or a blank. -/
def isEdge (c : Char) : Bool := c.toNat ≤ 0x20

/-- The characters of a text that count. -/
def significant (s : String) : List Char :=
  let cs := ((s.toList.dropWhile isEdge).reverse.dropWhile isEdge).reverse
  cs.filter fun c => c != '\t' && c != '\n' && c != '\r'

/-- The URL that a text stands for. -/
def parse (s : String) : Except Fault Url :=
  match splitScheme? (significant s) with
  | none => .error .relative
  | some (scheme, rest) => do
    let (front, query, fragment) := splitTail rest
    let url ← parseFront scheme front
    let querySet := if isSpecial scheme then specialQuerySet else querySet
    return { url with
      query := query.map fun cs => .ofList (percentEncode querySet cs)
      fragment := fragment.map fun cs => .ofList (percentEncode fragmentSet cs) }

/-! ## Text -/

/-- The text of a path.  A solidus pair in front of a path without a host would
    name a host, so it is set off by a dot. -/
def pathText (hasHost : Bool) : UrlPath → String
  | .opaqueText s => s
  | .segments parts =>
    let text := String.join (parts.map ("/" ++ ·))
    match parts with
    | "" :: _ :: _ => if hasHost then text else "/." ++ text
    | _ => text

/-- The user name and the password as text. -/
def userinfoText (u : Url) : String :=
  if u.username == "" && u.password == "" then ""
  else u.username ++ (if u.password == "" then "" else ":" ++ u.password) ++ "@"

/-- The text of a URL. -/
def text (u : Url) : String :=
  u.scheme ++ ":"
    ++ (match u.host with
      | some host => "//" ++ u.userinfoText ++ host
          ++ (match u.port with
            | some port => ":" ++ toString port
            | none => "")
      | none => "")
    ++ pathText u.host.isSome u.path
    ++ (match u.query with
      | some query => "?" ++ query
      | none => "")
    ++ (match u.fragment with
      | some fragment => "#" ++ fragment
      | none => "")

/-- Whether the URL names a host. -/
def hasHost (u : Url) : Bool :=
  match u.host with
  | some host => host != ""
  | none => false

/-- Whether a request can be sent to the URL. -/
def isWeb (u : Url) : Bool := u.scheme == "http" || u.scheme == "https"

/-- The URL with parameters added to its query. -/
def withQuery (u : Url) (pairs : List (String × String)) : Url :=
  if pairs.isEmpty then u
  else
    let added := formQuery pairs
    { u with query := some <| match u.query with
        | none | some "" => added
        | some query => query ++ "&" ++ added }

/-- What a request asks the host for: the path and the query. -/
def target (u : Url) : String :=
  pathText true u.path
    ++ (match u.query with
      | some query => "?" ++ query
      | none => "")

end Url

end ResourceClient
