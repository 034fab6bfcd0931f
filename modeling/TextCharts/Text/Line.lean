namespace TextCharts.Text

def blanks (n : Nat) : String :=
  .ofList (.replicate n ' ')

def rule (n : Nat) : String :=
  .ofList (.replicate n '─')

-- A text at the left end of a field, which it may exceed.
def alignLeft (width : Nat) (text : String) : String :=
  text ++ blanks (width - text.length)

-- A text at the right end of a field, which it may exceed.
def alignRight (width : Nat) (text : String) : String :=
  blanks (width - text.length) ++ text

-- Ends every line with a line feed.
def unlines (lines : List String) : String :=
  String.join (lines.map (· ++ "\n"))

end TextCharts.Text
