import TextCharts.Files.Error
import TextCharts.Render.Error
import TextCharts.Url.Error

namespace TextCharts

inductive FetchError
  | badLocator (locator : String) (reason : Url.ParseError)
  | unsupportedScheme (scheme : String)
  | unreachable (url : String)
  | status (url : String) (code : Nat)
  | unreadable (path : String) (reason : FileError)
  | timedOut (milliseconds : Nat)
  | notFound (locator : String)
  deriving DecidableEq, Repr

-- Milliseconds below a second, and seconds with as many places as needed from there on.
def showDuration (milliseconds : Nat) : String :=
  let whole := milliseconds / 1000
  let part := Nat.toDigits 10 (1000 + milliseconds % 1000) |>.drop 1
  let places := (part.reverse.dropWhile (· == '0')).reverse
  if milliseconds = 0 then "0ns"
  else if whole = 0 then s!"{milliseconds}ms"
  else if places.isEmpty then s!"{whole}s"
  else s!"{whole}." ++ .ofList places ++ "s"

def FetchError.message : FetchError → String
  | badLocator locator reason =>
    "invalid source locator `" ++ locator ++ "`: " ++ reason.message
  | unsupportedScheme scheme => "unsupported source scheme `" ++ scheme ++ "`"
  | unreachable url => "transport error: error sending request for url (" ++ url ++ ")"
  | status url code => url ++ s!" answered with status {code}"
  | unreadable path reason => "cannot read " ++ path ++ ": " ++ reason.message
  | timedOut milliseconds => "fetch timed out after " ++ showDuration milliseconds
  | notFound locator => "no such source `" ++ locator ++ "`"

inductive NodeError
  | fetch (e : FetchError)
  | noRenderer (name : String)
  | draw (e : DrawError)
  | cancelled
  | panicked (message : String)

def NodeError.message : NodeError → String
  | fetch e => "fetch failed: " ++ e.message
  | noRenderer name => "renderer `" ++ name ++ "` not found"
  | draw e => "draw failed: " ++ e.message
  | cancelled => "cancelled"
  | panicked message => "renderer panicked: " ++ message

end TextCharts
