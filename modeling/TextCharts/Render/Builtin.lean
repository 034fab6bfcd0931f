import TextCharts.Chart.Draw
import TextCharts.Grid
import TextCharts.Render.Registry

namespace TextCharts.Registry

-- Charts are drawn for a terminal of some width.
def builtins (terminal : Nat) (style : Style) : List (String × Renderer) :=
  [("braille.LineChart",
      fun table options => .ofResult (Chart.draw .line style table options terminal)),
   ("braille.AreaChart",
      fun table options => .ofResult (Chart.draw .area style table options terminal)),
   ("text.Table", fun table options => .ofResult (Grid.draw style table options))]

def registerBuiltins (r : Registry) (terminal : Nat) (style : Style) : Registry :=
  (builtins terminal style).foldl (fun r (name, renderer) => r.register name fun _ => .ok renderer)
    r

def builtin (terminal : Nat) (style : Style) : Registry :=
  registerBuiltins {} terminal style

end TextCharts.Registry
