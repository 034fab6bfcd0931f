import TextCharts.Url.Host

namespace TextCharts

-- A user, a host and a port; the user is written with the sign after it.
structure Url.Authority where
  user : String := ""
  host : Url.Host := .none
  port : Option Nat := none
  deriving DecidableEq, Repr

inductive Url.Path
  -- A path that nothing can be relative to.
  | opaqueText (text : String)
  -- Each segment comes after a slash.
  | segments (segments : List String)
  deriving DecidableEq, Repr

structure Url where
  scheme : String
  authority : Option Url.Authority := none
  path : Url.Path
  query : Option String := none
  fragment : Option String := none
  deriving DecidableEq, Repr

namespace Url

-- The schemes whose paths are never empty, with their ports.
def defaultPort? : String → Option Nat
  | "http" => some 80
  | "ws" => some 80
  | "https" => some 443
  | "wss" => some 443
  | "ftp" => some 21
  | _ => none

inductive Kind
  | file
  | special
  | other
  deriving DecidableEq, Repr

def kind (scheme : String) : Kind :=
  if scheme = "file" then .file
  else if (defaultPort? scheme).isSome then .special
  else .other

def Authority.shown (a : Authority) : String :=
  let port := match a.port with
    | some n => s!":{n}"
    | none => ""
  a.user ++ a.host.shown ++ port

def Path.shown : Path → String
  | opaqueText text => text
  | segments list => String.join (list.map ("/" ++ ·))

def optional (mark : String) : Option String → String
  | none => ""
  | some text => mark ++ text

-- Keeps a path that begins with two slashes from being taken for a host.
def pathShown (u : Url) : String :=
  match u.authority, u.path with
  | none, .segments ("" :: _ :: _) => "/." ++ u.path.shown
  | _, path => path.shown

def shown (u : Url) : String :=
  let authority := match u.authority with
    | some a => "//" ++ a.shown
    | none => ""
  u.scheme ++ ":" ++ authority ++ u.pathShown ++ optional "?" u.query ++ optional "#" u.fragment

-- A letter and a colon, or a bar instead of the colon.
def isDrive : List Char → Bool
  | [c, d] => c.isAlpha && (d == ':' || d == '|')
  | _ => false

def isSettledDrive (segment : String) : Bool :=
  match segment.toList with
  | [c, ':'] => c.isAlpha
  | _ => false

-- The name of the file; a drive needs a slash after it.
def fileName? (u : Url) : Option String :=
  match u.path with
  | .opaqueText _ => none
  | .segments list =>
    let isLocal := match u.authority with
      | none => true
      | some a => a.host == Host.none || a.host == Host.name "localhost"
    if isLocal then
      let name := list.flatMap fun (segment : String) => '/' :: decodeText segment.toList
      let endsInDrive := match name.reverse with
        | d :: c :: _ :: _ => isDrive [c, d]
        | _ => false
      some (.ofList (if endsInDrive then name ++ ['/'] else name))
    else none

-- The URL of a directory, from its absolute name.
def ofDirectory (names : List String) : Url where
  scheme := "file"
  authority := some {}
  path := .segments (names.map (fun name => .ofList (encode inSegmentSet name.toList)) ++ [""])

end Url
end TextCharts
