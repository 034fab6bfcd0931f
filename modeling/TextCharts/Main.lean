import TextCharts.CommandLine.Program

/-!
The program. Files are read before the command runs, first those that the words name and then those
that a document asks for, so that all that follows is a function of what has been read.
-/

namespace TextCharts.CommandLine

-- The reason with a code of the system, which may come as its negative.
def ofCode (details : String) (code : UInt32) : FileError :=
  match min code.toNat (Nat.pow 2 32 - code.toNat) with
  | 2 => .notFound
  | 20 => .notDirectory
  | 21 => .isDirectory
  | 36 => .nameTooLong
  | n => .other (details ++ s!" (os error {n})")

-- The reason for which the system refuses a file.
def fileError : IO.Error → FileError
  | .noFileOrDirectory _ _ _ => .notFound
  | .permissionDenied _ code details => ofCode details code
  | .resourceExhausted _ code details => ofCode details code
  | .inappropriateType _ code details => ofCode details code
  | .invalidArgument _ code details => ofCode details code
  | .otherError code details => ofCode details code
  | e => .other (toString e)

def readFile (name : String) : IO (Except FileError TextFile) := do
  try
    let bytes ← IO.FS.readBinFile name
    let place ← IO.FS.realPath name
    let parts := (place.toString.splitOn "/").filter (!·.isEmpty)
    return (textOf bytes).map fun text => { directory := parts.dropLast, text }
  catch e => return .error (fileError e)

def readFiles (names : List String) : IO (List (String × Except FileError TextFile)) :=
  names.mapM fun name => return (name, ← readFile name)

-- Reads all that a command needs.
def surroundings (command : Command) : IO Surroundings := do
  let named ← readFiles command.fileNames
  let further ← readFiles (command.furtherNames (Files.ofAnswers named))
  let input ← if command.needsInput then (← IO.getStdin).readBinToEnd else pure .empty
  return {
    files := Files.ofAnswers (named ++ further)
    input
    onTerminal := ← (← IO.getStdout).isTty }

def perform (words : List String) : IO Ending := do
  match Arguments.ofWords words with
  | .error e => return .ofArgumentError e
  | .ok a => return .ofPrinted (a.run (← surroundings a.command))

end TextCharts.CommandLine

def main (words : List String) : IO UInt32 := do
  let ending ← TextCharts.CommandLine.perform words
  (← IO.getStdout).putStr ending.output
  (← IO.getStderr).putStr ending.errors
  return (ending.status.getD 0).toUInt32
