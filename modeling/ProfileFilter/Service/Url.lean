import ProfileFilter.Host.Label
import ProfileFilter.Service.Address
import ProfileFilter.Text.Percent

/-!
# URLs

Reading a URL into its parts and bringing each part into its normal form: the scheme in
small letters, the host in its ASCII form, no default port, dot segments resolved, and every
code point escaped that may not stand in its part. A relative reference can be resolved
against a base by appending its path.
-/

namespace ProfileFilter

/-- A URL in normal form. -/
structure Url where
  /-- the scheme, empty if there is none -/
  scheme : Text
  /-- what stands before the last `@` of the authority -/
  userinfo : Text
  /-- the host -/
  host : Text
  /-- the port, unless it is the default -/
  port : Option Int
  /-- the path -/
  path : Text
  /-- what stands after the question mark -/
  query : Option Text
  /-- what stands after the number sign -/
  fragment : Option Text
deriving DecidableEq, Repr

/-- Why a text is no URL. -/
inductive UrlError where
  /-- a part violates its rules -/
  | malformed
  /-- a lone surrogate would have to be escaped -/
  | unencodable
  /-- a label of the host stands for none that is admissible -/
  | label (why : Host.Refusal)
deriving DecidableEq, Repr

namespace Url

/-! ## Escaping -/

/-- Does a code point stand for itself in the parts whose escapes are given? -/
def isLiteral (escaped : Text) (c : CodePoint) : Bool :=
  0x20 < c.val && c.val < 0x7F && !escaped.contains c

/-- Escapes a part, keeping what is already escaped. -/
def escapePart (literal : CodePoint → Bool) : Text → Text
  | [] => []
  | p :: a :: b :: rest =>
    if p == '%' && a.hexValue?.isSome && b.hexValue?.isSome then
      p :: a :: b :: escapePart literal rest
    else escapeOne p ++ escapePart literal (a :: b :: rest)
  | p :: rest => escapeOne p ++ escapePart literal rest
where
  /-- One code point, escaped unless it may stand for itself. -/
  escapeOne (c : CodePoint) : Text :=
    if literal c then [c] else (Utf8.encodeCodePoint c).flatMap Percent.escapeByte

/-- What is escaped in a fragment. -/
def fragmentEscapes : Text := "\"<>\x60"

/-- What is escaped in a query. -/
def queryEscapes : Text := "\"#<>"

/-- What is escaped in a path. -/
def pathEscapes : Text := queryEscapes ++ "?\x60\x7b\x7d"

/-- What is escaped before the `@` of an authority. -/
def userinfoEscapes : Text := pathEscapes ++ "/;=@[\\]^|"

/-- The marks that stand for themselves in a host. -/
def hostMarks : Text := "-._~!$&'()*+,;=\"\x60\x7b\x7d%|\\"

/-- Does a code point stand for itself in a host? -/
def isHostLiteral (c : CodePoint) : Bool :=
  c.isAsciiLetter || c.isAsciiDigit || hostMarks.contains c

/-! ## Parts -/

/-- Is this a control character, which no URL may hold? -/
def isControl (c : CodePoint) : Bool := c.val < 0x20 || c.val == 0x7F

/-- May a code point stand in a scheme after its first letter? -/
def isSchemeRest (c : CodePoint) : Bool :=
  c.isAsciiLetter || c.isAsciiDigit || c == '+' || c == '.' || c == '-'

/-- Splits the scheme off, if there is one. -/
def cutScheme (t : Text) : Text × Text :=
  match Text.cut ':' t with
  | (scheme, some rest) =>
    if scheme.all isSchemeRest && (scheme.isEmpty || scheme.head?.any CodePoint.isAsciiLetter) then
      (scheme, rest)
    else ([], t)
  | (_, none) => ([], t)

/-- Splits the authority off, which two slashes open. -/
def cutAuthority (t : Text) : Text × Text :=
  match Text.afterHead? "//" t with
  | some rest =>
    let ends (c : CodePoint) : Bool := c == '/' || c == '?' || c == '#'
    (rest.takeWhile fun c => !ends c, rest.dropWhile fun c => !ends c)
  | none => ([], t)

/-- Splits the host from the port; brackets hide the colons between them. -/
def cutHost (t : Text) : Text × Text :=
  let plain : Text × Text :=
    (t.takeWhile fun (c : CodePoint) => c != ':' && c != '@',
      t.dropWhile fun (c : CodePoint) => c != ':' && c != '@')
  let (host, rest) :=
    if t.head? == some '[' then
      match Text.cutLast ']' t with
      | (some inside, rest) => (inside ++ "]", rest)
      | (none, _) => plain
    else plain
  match rest with
  | c :: after => if c == ':' then (host, after) else (host, rest)
  | [] => (host, [])

/-- The normal form of a host. -/
def normalHost? (host : Text) : Option Text :=
  if host.isEmpty then some []
  else if Address.looksNumeric 3 host then
    if Address.isFourBytes host then some host else none
  else if host.head? == some '[' && host.getLast? == some ']' && host.length ≥ 2 then
    let inside := (host.drop 1).dropLast
    if Address.isGrouped inside then some inside else none
  else if host.all CodePoint.isAscii then some (escapePart isHostLiteral host.lower)
  else Host.ascii? host

/-- The ports that schemes use by default. -/
def defaultPorts : List (Text × Int) :=
  [("ftp", 21), ("http", 80), ("https", 443), ("ws", 80), ("wss", 443)]

/-- The number that decimal digits spell, within the digit limit. -/
def readPositive? (digits : Text) : Option Nat :=
  if digits.isEmpty || digits.length > maxIntegerDigits then none else readDigits 0 digits

/-- The port a text spells, without the default of the scheme as it was written; an outer
nothing when it spells none. -/
def normalPort? (scheme port : Text) : Option (Option Int) :=
  if port.isEmpty then some none
  else
    let (negative, body) := splitSign port.trim
    match (dropUnderscores? body).bind readPositive? with
    | some n =>
      let port := signedInt negative n
      some (if defaultPorts.lookup scheme == some port then none else some port)
    | none => none

/-- Drops the segments that mean the same place, and with each that means the place above the
segment before it; `done` holds the segments kept, last first. -/
def resolveSegments (done : List Text) : List Text → List Text
  | [] => done.reverse
  | segment :: rest =>
    if segment == "." then resolveSegments done rest
    else if segment == ".." then
      resolveSegments (if done == [[]] then done else done.drop 1) rest
    else resolveSegments (segment :: done) rest

/-- A path without dot segments. -/
def resolveDots (path : Text) : Text := Text.join "/" (resolveSegments [] (path.splitOn '/'))

/-- Is the path one that may follow the scheme and authority there are? -/
def isPathInPlace (hasScheme hasAuthority : Bool) (path : Text) : Bool :=
  if hasAuthority then path.isEmpty || path.head? == some '/'
  else hasScheme || !(Text.startsWith "//" path || Text.startsWith ":" path)

/-- The longest text that is read as a URL. -/
def maxLength : Nat := 65536

/-- The parts of a URL as they are written. -/
structure Written where
  /-- the scheme -/
  scheme : Text
  /-- the authority -/
  authority : Text
  /-- the path -/
  path : Text
  /-- the query -/
  query : Option Text
  /-- the fragment -/
  fragment : Option Text

/-- Splits a text into its parts. -/
def split (t : Text) : Written :=
  let (scheme, rest) := cutScheme t
  let (authority, rest) := cutAuthority rest
  let (rest, fragment) := Text.cut '#' rest
  let (path, query) := Text.cut '?' rest
  { scheme, authority, path, query, fragment }

/-- Brings the parts into normal form. -/
def normalize (w : Written) : Except UrlError Url :=
  let (userinfo, hostport) :=
    match Text.cutLast '@' w.authority with
    | (some userinfo, rest) => (userinfo, rest)
    | (none, rest) => ([], rest)
  let (host, port) := cutHost hostport
  if !userinfo.isEncodable then .error .unencodable
  else
    match normalHost? host, normalPort? w.scheme port with
    | some host, some port =>
      let hasScheme := !w.scheme.isEmpty
      let hasAuthority := !userinfo.isEmpty || !host.isEmpty || port.isSome
      if !isPathInPlace hasScheme hasAuthority w.path then .error .malformed
      else if !(w.path.isEncodable && (w.query.all Text.isEncodable) &&
          w.fragment.all Text.isEncodable) then .error .unencodable
      else
        let path := if hasScheme || hasAuthority then resolveDots w.path else w.path
        .ok {
          scheme := w.scheme.lower
          userinfo := escapePart (isLiteral userinfoEscapes) userinfo
          host
          port
          path := escapePart (isLiteral pathEscapes) path
          query := w.query.map (escapePart (isLiteral queryEscapes))
          fragment := w.fragment.map (escapePart (isLiteral fragmentEscapes)) }
    | _, _ => .error .malformed

/-- Reads a URL. -/
def parse (t : Text) : Except UrlError Url :=
  if t.length > maxLength || t.any isControl then .error .malformed else normalize (split t)

/-! ## Writing -/

/-- The authority as it is written. -/
def authority (url : Url) : Text :=
  let userinfo : Text := if url.userinfo.isEmpty then [] else url.userinfo ++ "@"
  let host : Text := if url.host.contains ':' then "[" ++ url.host ++ "]" else url.host
  let port : Text := match url.port with
    | some n => ":" ++ Text.ofInt n
    | none => []
  userinfo ++ host ++ port

/-- What stands behind a mark, if there is anything. -/
def marked (mark : Text) : Option Text → Text
  | some t => mark ++ t
  | none => []

/-- The URL as text. -/
def shown (url : Url) : Text :=
  let scheme : Text := if url.scheme.isEmpty then [] else url.scheme ++ ":"
  let authority : Text := if url.authority.isEmpty then [] else "//" ++ url.authority
  scheme ++ authority ++ url.path ++ marked "?" url.query ++ marked "#" url.fragment

/-- Path and query; an empty path is a slash. -/
def target (url : Url) : Text :=
  (if url.path.isEmpty then ("/" : Text) else url.path) ++ marked "?" url.query

/-- Does the URL name a scheme and a host? -/
def isAbsolute (url : Url) : Bool := !url.scheme.isEmpty && !url.host.isEmpty

/-- Is this the URL of a host reached by HTTP? The labels of its host are looked at only then. -/
def isHttp (url : Url) : Except UrlError Bool :=
  if url.scheme == "http" || url.scheme == "https" then
    match Host.nameRefusal? url.host with
    | some why => .error (.label why)
    | none => .ok (!url.host.isEmpty)
  else .ok false

/-- The URL with another path and query. -/
def withTarget (url : Url) (target : Text) : Except UrlError Url :=
  let (path, query) := Text.cut '?' target
  normalize
    { scheme := url.scheme, authority := url.authority, path, query, fragment := url.fragment }

/-- A base whose path and query end with a slash. -/
def asBase (url : Url) : Except UrlError Url :=
  if Text.endsWith "/" url.target then .ok url else url.withTarget (url.target ++ "/")

/-- A reference resolved against a base: an absolute one stands for itself, any other is
appended to the path of the base. -/
def resolve (base reference : Url) : Except UrlError Url :=
  if reference.isAbsolute then .ok reference
  else base.withTarget (base.target ++ reference.target.dropWhile fun (c : CodePoint) => c == '/')

/-! ## Query parameters -/

/-- The marks that stand for themselves in a parameter. -/
def formMarks : Text := "_.-~"

/-- A code point of a parameter: a space becomes a plus sign. -/
def formCodePoint (c : CodePoint) : Text :=
  if c.isAsciiLetter || c.isAsciiDigit || formMarks.contains c then [c]
  else if c == ' ' then "+"
  else (Utf8.encodeCodePoint c).flatMap Percent.escapeByte

/-- A text as part of a parameter. -/
def form (t : Text) : Text := t.flatMap formCodePoint

/-- The query that parameters make. -/
def formQuery (parameters : List (Text × Text)) : Text :=
  Text.join "&" (parameters.map fun p => form p.1 ++ "=" ++ form p.2)

end Url

end ProfileFilter
