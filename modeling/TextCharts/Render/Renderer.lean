import TextCharts.Page.Target
import TextCharts.Render.Options
import TextCharts.Table.Basic

namespace TextCharts

inductive Drawing.Ending
  | done
  | failed (e : DrawError)
  | panicked (message : String)

-- What a renderer does: it paints a surface any number of times, every time from the start, and then
-- it ends well, or with a fault, or by breaking down.
structure Drawing where
  paints : List String := []
  ending : Drawing.Ending := .done

namespace Drawing

-- What a surface shows afterwards.
def on (surface : String) (d : Drawing) : String :=
  d.paints.getLast?.getD surface

-- One painting, or none and a fault.
def ofResult : Except DrawError String → Drawing
  | .ok text => { paints := [text] }
  | .error e => { ending := .failed e }

end Drawing

abbrev Renderer :=
  Table → Options → Drawing

-- Makes a renderer for a mount, or breaks down with a message. What is painted meanwhile counts as
-- painted first when the renderer draws.
abbrev Factory :=
  Mount → Except String Renderer

end TextCharts
