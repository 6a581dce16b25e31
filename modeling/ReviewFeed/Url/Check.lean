import ReviewFeed.Url.Host

/-!
# Absolute URLs

A text is an absolute URL when it begins with a scheme and a colon and when the
host and the port behind its double slash are in order.  Nothing after these can
be wrong.  Web addresses need a host; files have one that may be empty, and other
addresses need none at all.
-/

namespace ReviewFeed.Url

/-- The text without control characters and spaces at its ends, and without tabs
and line breaks anywhere. -/
def cleaned (chars : List Char) : List Char :=
  let isEdge (c : Char) : Bool := c.toNat ≤ 0x20
  let trimmed := ((chars.dropWhile isEdge).reverse.dropWhile isEdge).reverse
  trimmed.filter (fun c => !(c == '\t' || c == '\n' || c == '\r'))

/-- The characters of a scheme after its first letter. -/
def isSchemeChar (c : Char) : Bool :=
  c.isAlphanum || c == '+' || c == '-' || c == '.'

/-- The scheme in lower case, and the text behind its colon. -/
def scheme? (chars : List Char) : Option (String × List Char) :=
  if chars.head?.any Char.isAlpha then
    match chars.dropWhile isSchemeChar with
    | ':' :: rest => some (String.ofList ((chars.takeWhile isSchemeChar).map Char.toLower), rest)
    | _ => none
  else none

/-- What the scheme says about the rest. -/
inductive SchemeKind
  | web
  | file
  | other
  deriving DecidableEq, Repr

def SchemeKind.ofScheme (scheme : String) : SchemeKind :=
  if scheme = "file" then .file
  else if ["http", "https", "ws", "wss", "ftp"].contains scheme then .web
  else .other

/-- Whether a character is a slash for this kind of scheme. -/
def SchemeKind.isSlash (kind : SchemeKind) (c : Char) : Bool :=
  c == '/' || (kind != .other && c == '\\')

def SchemeKind.endsAuthority (kind : SchemeKind) (c : Char) : Bool :=
  kind.isSlash c || c == '?' || c == '#'

/-- The text before the last at sign, if there is one, and the text behind it. -/
def splitUser (authority : List Char) : Option (List Char) × List Char :=
  let host := (authority.reverse.takeWhile (· != '@')).reverse
  if host.length = authority.length then (none, authority)
  else (some (authority.take (authority.length - host.length - 1)), host)

/-- Whether a user part names a user or a password. -/
def hasCredentials (user : List Char) : Bool :=
  user != [] && user != [':']

/-- The host, and the text from the colon of the port on.  A colon inside of
brackets belongs to the host. -/
def splitHost : Bool → List Char → List Char × List Char
  | _, [] => ([], [])
  | inside, c :: rest =>
      if c == ':' && !inside then ([], c :: rest)
      else
        let inside := if c == '[' then true else if c == ']' then false else inside
        let (host, port) := splitHost inside rest
        (c :: host, port)

/-- Checks the digits of a port.  A backslash ends them for every scheme. -/
def checkPort (chars : List Char) : Except UrlFault Unit :=
  let digits := chars.takeWhile Char.isDigit
  let rest := chars.dropWhile Char.isDigit
  if 65535 < Text.digitsValue digits then .error .port
  else if rest.head?.any (· != '\\') then .error .port
  else .ok ()

/-- Checks user, host and port; `rest` is what follows them. -/
def checkAuthority (kind : SchemeKind) (authority rest : List Char) : Except UrlFault Unit := do
  let (user, place) := splitUser authority
  if user = some [] && place.isEmpty && !rest.isEmpty then throw .emptyHost
  let (host, port) := splitHost false place
  if kind = .web then
    if host.isEmpty then throw .emptyHost
    checkDomain host
  else
    checkOpaque host
    if host.isEmpty && !port.isEmpty then throw .emptyHost
  checkPort (port.drop 1)
  if host.isEmpty && user.any hasCredentials then throw .emptyHost

/-- Checks what stands behind a double slash. -/
def checkBehindSlashes (kind : SchemeKind) (chars : List Char) : Except UrlFault Unit :=
  checkAuthority kind (chars.takeWhile (fun c => !kind.endsAuthority c))
    (chars.dropWhile (fun c => !kind.endsAuthority c))

/-- Whether a text is a drive letter, which is no host. -/
def isDriveLetter (chars : List Char) : Bool :=
  match chars with
  | [letter, mark] => letter.isAlpha && (mark == ':' || mark == '|')
  | _ => false

def checkFile (chars : List Char) : Except UrlFault Unit :=
  match chars with
  | a :: b :: rest =>
      if SchemeKind.file.isSlash a && SchemeKind.file.isSlash b then
        let host := rest.takeWhile (fun c => !SchemeKind.file.endsAuthority c)
        if host.isEmpty || isDriveLetter host then .ok () else checkDomain host
      else .ok ()
  | _ => .ok ()

/-- Checks that a text is an absolute URL. -/
def check (text : String) : Except UrlFault Unit :=
  match scheme? (cleaned text.toList) with
  | none => .error .relative
  | some (scheme, rest) =>
      match SchemeKind.ofScheme scheme with
      | .file => checkFile rest
      | .web =>
          checkBehindSlashes .web (rest.dropWhile SchemeKind.web.isSlash)
      | .other =>
          match rest with
          | '/' :: '/' :: rest => checkBehindSlashes .other rest
          | _ => .ok ()

end ReviewFeed.Url
