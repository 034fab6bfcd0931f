import TextCharts.Html.Page
import TextCharts.Page.Target

namespace TextCharts

def propsAttribute : String :=
  "data-csv-props"

-- An element that asks for a drawing: its place among all such, its identifier and its options.
structure Candidate where
  mount : Mount
  props : String
  deriving DecidableEq, Repr

-- The identifier and the options of an element that has options.
def Html.Element.props? (e : Html.Element) : Option (Option String × String) :=
  (e.attributes.lookup propsAttribute).map (e.attributes.lookup "id", ·)

def candidates (elements : List Html.Element) : List Candidate :=
  (elements.filterMap Html.Element.props?).zipIdx.map fun ((id, props), index) =>
    { mount := { index, id }, props }

def Candidate.target? (c : Candidate) : Option Target :=
  match Target.Config.ofText c.props with
  | .ok config => some { mount := c.mount, config }
  | .error _ => none

def discoverIn (elements : List Html.Element) : List Target :=
  (candidates elements).filterMap Candidate.target?

def discover (page : String) : List Target :=
  discoverIn (Html.elements page)

end TextCharts
