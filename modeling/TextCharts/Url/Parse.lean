import TextCharts.Url.Basic

namespace TextCharts.Url

def isEdge (c : Char) : Bool :=
  c.toNat ≤ 0x20

def isSkipped (c : Char) : Bool :=
  c == '\t' || c == '\n' || c == '\r'

def tidy (text : List Char) : List Char :=
  ((((text.dropWhile isEdge).reverse.dropWhile isEdge).reverse).filter (!isSkipped ·))

def isSchemeChar (c : Char) : Bool :=
  c.isAlphanum || c == '+' || c == '-' || c == '.'

-- The scheme in small letters, and what follows its colon.
def scheme? (text : List Char) : Option (String × List Char) :=
  match text with
  | c :: _ =>
    if c.isAlpha then
      match text.dropWhile isSchemeChar with
      | ':' :: rest => some (.ofList ((text.takeWhile isSchemeChar).map Char.toLower), rest)
      | _ => none
    else none
  | [] => none

def isSlash (kind : Kind) (c : Char) : Bool :=
  c == '/' || (c == '\\' && kind != .other)

def isEither (c : Char) : Bool :=
  c == '/' || c == '\\'

-- Whether a path ends before a character.
def endsPath (c : Char) : Bool :=
  c == '?' || c == '#'

def endsAuthority (kind : Kind) (c : Char) : Bool :=
  isSlash kind c || endsPath c

-- The query and the fragment.
def tail (kind : Kind) (text : List Char) : Option String × Option String :=
  let fragment (text : List Char) := some (String.ofList (encode inFragmentSet text))
  match text with
  | '?' :: rest =>
    let set := if kind = .other then inQuerySet else inSpecialQuerySet
    let query := some (String.ofList (encode set (rest.takeWhile (· != '#'))))
    match rest.dropWhile (· != '#') with
    | _ :: rest => (query, fragment rest)
    | [] => (query, none)
  | '#' :: rest => (none, fragment rest)
  | _ => (none, none)

-- A URL with the query and the fragment that a text holds.
def withTail (u : Url) (text : List Char) : Url :=
  let (query, fragment) := tail (kind u.scheme) text
  { u with query, fragment }

namespace Segment

-- A dot, which may be encoded.
def dropDot : List Char → Option (List Char)
  | '.' :: rest => some rest
  | '%' :: '2' :: 'e' :: rest => some rest
  | '%' :: '2' :: 'E' :: rest => some rest
  | _ => none

def isDot (text : List Char) : Bool :=
  dropDot text == some []

def isDots (text : List Char) : Bool :=
  (dropDot text).bind dropDot == some []

-- All segments of a path, after its first slash.
def split (kind : Kind) (text : List Char) : List (List Char) :=
  Text.splitBy (isSlash kind) text

end Segment

-- Leaves the last segment out, but no drive at the front of a file's path.
def shorten (kind : Kind) (segments : List String) : List String :=
  match kind, segments with
  | .file, [segment] => if isSettledDrive segment then [segment] else []
  | _, segments => segments.dropLast

-- A bar in a drive becomes a colon.
def settleDrive : List Char → List Char
  | [c, _] => [c, ':']
  | text => text

-- Appends segments one by one. A dot stays where it is, two dots go back, and either leaves an
-- empty segment if it comes last.
def walk (kind : Kind) (done : List String) : List (List Char) → List String
  | [] => done
  | text :: rest =>
    let close (done : List String) := if rest.isEmpty then done ++ [""] else done
    if Segment.isDots text then walk kind (close (shorten kind done)) rest
    else if Segment.isDot text then walk kind (close done) rest
    else
      let text := if kind = .file && done.isEmpty && isDrive text then settleDrive text else text
      walk kind (done ++ [.ofList (encode inPathSet text)]) rest

-- The path of a file does not begin with an empty segment, unless that is all.
def dropEmpty : List String → List String
  | "" :: segment :: rest => dropEmpty (segment :: rest)
  | segments => segments

def finish (kind : Kind) (segments : List String) : Path :=
  .segments (if kind = .file then dropEmpty segments else segments)

-- Reads a path, after its first slash, and all that follows it; it begins in a directory.
def withPath (u : Url) (directory : List String) (text : List Char) : Url :=
  let kind := kind u.scheme
  let path := text.takeWhile (!endsPath ·)
  withTail { u with path := finish kind (walk kind directory (Segment.split kind path)) }
    (text.dropWhile (!endsPath ·))

-- Reads the path after an authority.
def withRootedPath (u : Url) (text : List Char) : Url :=
  match text with
  | [] => if kind u.scheme = .other then u else u.withPath [] []
  | c :: rest =>
    if isSlash (kind u.scheme) c then u.withPath [] rest
    else if kind u.scheme = .other then u.withTail text
    else u.withPath [] text

-- A path that is kept as it is.
def withOpaquePath (u : Url) (text : List Char) : Url :=
  let path := text.takeWhile (!endsPath ·)
  withTail { u with path := .opaqueText (.ofList (encode isControl path)) }
    (text.dropWhile (!endsPath ·))

-- The text before the last sign of a user, if there is one, and the text after it.
def splitUser (text : List Char) : Option (List Char) × List Char :=
  match text.reverse.dropWhile (· != '@') with
  | [] => (none, text)
  | _ :: user => (some user.reverse, (text.reverse.takeWhile (· != '@')).reverse)

-- A user and a password; an empty password loses its colon.
def userShown (text : List Char) : String :=
  let name := encode inUserSet (text.takeWhile (· != ':'))
  let password := encode inUserSet ((text.dropWhile (· != ':')).drop 1)
  let both := if password.isEmpty then name else name ++ ':' :: password
  .ofList (if both.isEmpty then [] else both ++ ['@'])

-- Cuts at the first colon outside brackets.
def splitPort : Bool → List Char → List Char × Option (List Char)
  | _, [] => ([], none)
  | inside, c :: rest =>
    if c = ':' && !inside then ([], some rest)
    else
      let inside := if c = '[' then true else if c = ']' then false else inside
      let (host, port) := splitPort inside rest
      (c :: host, port)

-- At most five digits count, or zeros before them; no digits mean no port.
def port? (digits : List Char) : Except ParseError (Option Nat) :=
  if digits.isEmpty then .ok none
  else if digits.all Char.isDigit then
    match Text.naturalIn? 10 digits with
    | some n => if n < Nat.pow 2 16 then .ok (some n) else .error .badPort
    | none => .error .badPort
  else .error .badPort

-- Reads the host and the port of an authority.
def hostAndPort (scheme : String) (text : List Char) : Except ParseError (Host × Option Nat) := do
  let (hostText, portText) := splitPort false text
  if kind scheme = .special && hostText.isEmpty then throw .emptyHost
  let host ← if kind scheme = .other then Host.parseOpaque hostText else Host.parse hostText
  if host = .none && portText.isSome then throw .emptyHost
  let port ← port? (portText.getD [])
  return (host, if port = defaultPort? scheme then none else port)

-- Reads all that follows two slashes.
def afterSlashes (scheme : String) (text : List Char) : Except ParseError Url := do
  let kind := kind scheme
  let authority := text.takeWhile (!endsAuthority kind ·)
  let rest := text.dropWhile (!endsAuthority kind ·)
  let (user, hostText) := splitUser authority
  if user = some [] && hostText.isEmpty && !rest.isEmpty then throw .emptyHost
  let shown := userShown (user.getD [])
  let (host, port) ← hostAndPort scheme hostText
  if host = .none && !shown.isEmpty then throw .emptyHost
  let url : Url := { scheme, authority := some { user := shown, host, port }, path := .segments [] }
  return url.withRootedPath rest

-- Whether a text begins with a drive.
def startsWithDrive (text : List Char) : Bool :=
  isDrive (text.take 2) && match text.drop 2 with
    | [] => true
    | c :: _ => isEither c || endsPath c

-- An empty URL of a file.
def fileUrl (host : Host) : Url where
  scheme := "file"
  authority := some { host }
  path := .segments []

-- The host of a file; a drive is no host, and the local host is none.
def fileHost (text : List Char) : Except ParseError (Host × List Char) :=
  let hostText := text.takeWhile (!endsAuthority .file ·)
  if hostText.isEmpty then .ok (.none, text)
  else if isDrive hostText then .ok (.none, '/' :: text)
  else do
    let host ← Host.parse hostText
    return (if host = .name "localhost" then .none else host,
      text.dropWhile (!endsAuthority .file ·))

-- A drive in the path takes the host away.
def dropHost (u : Url) : Url :=
  match u.path with
  | .segments (first :: _) =>
    if isSettledDrive first then { u with authority := some {} } else u
  | _ => u

-- Reads the URL of a file after its scheme, perhaps against that of another file.
def parseFile (base : Option Url) (text : List Char) : Except ParseError Url :=
  match text with
  | c :: rest =>
    if isEither c then
      match rest with
      | d :: after =>
        if isEither d then do
          let (host, path) ← fileHost after
          return dropHost ((fileUrl host).withRootedPath path)
        else .ok (rooted rest)
      | [] => .ok (rooted rest)
    else .ok ((fileUrl .none).withPath [] text)
  | [] => .ok ((fileUrl .none).withPath [] text)
where
  -- After one slash; the base lends its drive or its host.
  rooted (rest : List Char) : Url :=
    let lent : Url × List String := match base with
      | none => (fileUrl .none, [])
      | some b =>
        if startsWithDrive rest then (fileUrl .none, [])
        else match b.path with
          | .segments (first :: _) =>
            if isSettledDrive first then (fileUrl .none, [first])
            else (fileUrl ((b.authority.map (·.host)).getD .none), [])
          | _ => (fileUrl ((b.authority.map (·.host)).getD .none), [])
    lent.1.withPath lent.2 rest

-- Reads a URL that stands on its own.
def parse (text : String) : Except ParseError Url :=
  match scheme? (tidy text.toList) with
  | none => .error .noBase
  | some (scheme, rest) =>
    match kind scheme with
    | .file => parseFile none rest
    | .special => afterSlashes scheme (rest.dropWhile isEither)
    | .other =>
      match rest with
      | '/' :: '/' :: rest => afterSlashes scheme rest
      | '/' :: rest => .ok (withPath { scheme, path := .segments [] } [] rest)
      | _ => .ok (withOpaquePath { scheme, path := .segments [] } rest)

-- Reads what has no scheme, in the directory of a base.
def joinDirectory (base : Url) (segments : List String) (text : List Char) : Url :=
  if kind base.scheme = .file && startsWithDrive text then (fileUrl .none).withPath [] text
  else base.withPath (shorten (kind base.scheme) segments) text

-- After two slashes or more; the first two may be written either way.
def joinAuthority (base : Url) (text : List Char) : Except ParseError Url :=
  match text with
  | '/' :: '/' :: rest => afterSlashes base.scheme rest
  | _ => afterSlashes base.scheme (text.dropWhile isEither)

-- Reads a text without a scheme against a base.
def join (base : Url) (text : String) : Except ParseError Url :=
  match tidy text.toList, base.path with
  | '#' :: rest, _ => .ok { base with fragment := (tail (kind base.scheme) ('#' :: rest)).2 }
  | _, .opaqueText _ => .error .opaqueBase
  | [], _ => .ok { base with fragment := none }
  | '?' :: rest, _ => .ok (base.withTail ('?' :: rest))
  | c :: rest, .segments segments =>
    if isEither c then
      if kind base.scheme = .file then parseFile (some base) (c :: rest)
      else match rest with
        | d :: _ =>
          if isEither d then joinAuthority base (c :: rest)
          else .ok (base.withPath [] rest)
        | [] => .ok (base.withPath [] rest)
    else .ok (joinDirectory base segments (c :: rest))

end TextCharts.Url
