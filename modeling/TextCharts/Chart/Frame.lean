import TextCharts.Chart.Settings
import TextCharts.Text.Line

namespace TextCharts.Chart

open Text (alignRight blanks rule unlines)

-- A text in the middle of a rule, two blanks before it and one after; a text that is empty or does
-- not fit is left out.
def centered (color : Option Color) (width : Nat) (text : String) : String :=
  let room := width - 3
  let n := text.length
  if n = 0 || room < n then rule width
  else
    let left := (room - n) / 2
    rule left ++ "  " ++ Color.paint color text ++ " " ++ rule (room - n - left)

def labelWidth (c : Chart) : Nat :=
  c.range.labelWidth labelPlaces

def innerWidth (c : Chart) : Nat :=
  c.width + c.labelWidth + gutterWidth

-- The greatest value labels the first row and the least value the last.
def label (c : Chart) (rows index : Nat) : String :=
  if index = 0 then Decimal.fixed labelPlaces c.range.high
  else if index = rows - 1 then Decimal.fixed labelPlaces c.range.low
  else ""

def graphLine (c : Chart) (rows : Nat) (row : String) (index : Nat) : String :=
  "│" ++ alignRight c.labelWidth (c.label rows index) ++ blanks gutterWidth ++
    Color.paint c.color row ++ "│"

def frameLines (c : Chart) (rows : List String) : List String :=
  let blank := "│" ++ blanks c.innerWidth ++ "│"
  let bottom := match c.subtitle with
    | some text => centered c.color c.innerWidth text
    | none => rule c.innerWidth
  ("┌" ++ centered c.color c.innerWidth c.title ++ "┐") :: blank ::
    (rows.zipIdx.map fun (row, index) => c.graphLine rows.length row index) ++
    [blank, "└" ++ bottom ++ "┘"]

def frame (c : Chart) (rows : List String) : String :=
  unlines (c.frameLines rows)

end TextCharts.Chart
