import TextCharts.Chart.Extent
import TextCharts.Render.Error

namespace TextCharts

structure Chart where
  title : String
  subtitle : Option String
  range : Extent
  width : Nat
  height : Nat
  color : Option Color

namespace Chart

def minWidth : Nat := 14
def minHeight : Nat := 7
def maxWidth : Nat := 1024
def maxHeight : Nat := 256
def defaultHeight : Nat := 12

-- The places after the point in labels.
def labelPlaces : Nat := 1

-- The two borders.
def borderWidth : Nat := 2

-- The blank between the labels and the graph.
def gutterWidth : Nat := 1

-- Half-columns in a character.
def dotsAcross : Nat := 2

-- Rows of dots in a character.
def dotsDown : Nat := 4

-- The width of a graph of so many samples, one a half-column where the terminal has room.
def widthFor (terminal samples label : Nat) : Nat :=
  max (min ((samples + 1) / dotsAcross) (terminal - (borderWidth + gutterWidth + label + 1)))
    minWidth

inductive Setting
  | title (text : String)
  | subtitle (text : String)
  | range (low high : Float)
  | color (c : Color)
  | noColor

structure Draft where
  width : Nat
  height : Nat
  title : String := ""
  subtitle : Option String := none
  range : Extent := ⟨0, 1⟩
  color : Option Color := some Color.orange

namespace Draft

def set (d : Draft) : Setting → Draft
  | .title text => { d with title := text }
  | .subtitle text => { d with subtitle := some text }
  | .range low high => { d with range := ⟨low, high⟩ }
  | .color c => { d with color := some c }
  | .noColor => { d with color := none }

def checkSize (width height : Nat) : Except DrawError Unit :=
  if width < minWidth || height < minHeight then .error (.tooSmall minWidth minHeight width height)
  else if maxWidth < width || maxHeight < height then
    .error (.tooLarge maxWidth maxHeight width height)
  else .ok ()

def checkRange (range : Extent) : Except DrawError Unit :=
  if range.low < range.high then .ok () else .error (.invalidRange range.low range.high)

def build (d : Draft) : Except DrawError Chart := do
  checkSize d.width d.height
  checkRange d.range
  return {
    title := d.title
    subtitle := d.subtitle
    range := d.range
    width := d.width
    height := d.height
    color := d.color }

end Draft
end Chart
end TextCharts
