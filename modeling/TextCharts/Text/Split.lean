namespace TextCharts.Text

-- The parts between the characters that are cut out; there is at least one.
def splitBy (cut : Char → Bool) : List Char → List (List Char)
  | [] => [[]]
  | c :: rest =>
    if cut c then [] :: splitBy cut rest
    else match splitBy cut rest with
      | [] => [[c]]
      | part :: parts => (c :: part) :: parts

def splitOn (separator : Char) (text : List Char) : List (List Char) :=
  splitBy (· == separator) text

end TextCharts.Text
