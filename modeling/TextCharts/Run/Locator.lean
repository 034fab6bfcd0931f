import TextCharts.Run.Error
import TextCharts.Url.Parse

namespace TextCharts

inductive Place
  | remote (url : Url)
  | file (name : String)
  deriving DecidableEq, Repr

namespace Place

-- A scheme of one letter is a drive, which makes the locator a file name.
def ofUrl (locator : String) (url : Url) : Except FetchError Place :=
  if url.scheme = "http" || url.scheme = "https" then .ok (.remote url)
  else if url.scheme = "file" then
    match url.fileName? with
    | some name => .ok (.file name)
    | none => .error (.unsupportedScheme url.shown)
  else if url.scheme.length = 1 then .ok (.file locator)
  else .error (.unsupportedScheme url.scheme)

-- A locator without a scheme is read against the base, or as the name of a file.
def resolve (base : Option Url) (locator : String) : Except FetchError Place :=
  match Url.parse locator, base with
  | .ok url, _ => ofUrl locator url
  | .error .noBase, none => .ok (.file locator)
  | .error .noBase, some base =>
    match base.join locator with
    | .ok url => ofUrl locator url
    | .error reason => .error (.badLocator locator reason)
  | .error reason, _ => .error (.badLocator locator reason)

end Place
end TextCharts
