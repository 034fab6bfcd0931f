import TextCharts.Render.Renderer
import TextCharts.Run.Error
import TextCharts.Text.Quoted

namespace TextCharts

structure Registry where
  entries : List (String × Factory) := []

-- What comes before the last dot of a name.
def packageOf? (name : String) : Option String :=
  match name.toList.reverse.dropWhile (· != '.') with
  | [] => none
  | _ :: package => some (.ofList package.reverse)

namespace Registry

-- Puts an entry in its place, instead of one of the same name.
def insert (name : String) (factory : Factory) :
    List (String × Factory) → List (String × Factory)
  | [] => [(name, factory)]
  | entry :: rest =>
    if name < entry.1 then (name, factory) :: entry :: rest
    else if name = entry.1 then (name, factory) :: rest
    else entry :: insert name factory rest

def register (r : Registry) (name : String) (factory : Factory) : Registry where
  entries := insert name factory r.entries

def names (r : Registry) : List String :=
  r.entries.map (·.1)

def contains (r : Registry) (name : String) : Bool :=
  r.names.contains name

def find? (r : Registry) (name : String) : Option Factory :=
  (r.entries.find? (·.1 == name)).map (·.2)

-- The renderer that the factory of a name makes for a mount, or its breakdown.
def resolve (r : Registry) (name : String) (mount : Mount) :
    Except NodeError (Except String Renderer) :=
  match r.find? name with
  | some factory => .ok (factory mount)
  | none => .error (.noRenderer name)

def hasPackage (r : Registry) (package : String) : Bool :=
  r.names.any fun name => packageOf? name == some package

-- The names as a listing.
def shown (r : Registry) : String :=
  Text.quotedList r.names

end Registry
end TextCharts
