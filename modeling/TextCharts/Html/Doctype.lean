import TextCharts.Html.Token

namespace TextCharts.Html.Doctype

-- How the titles of old types begin.
def oldTitles : List String :=
  ["html 2.0", "html 2.1e", "html 3.0", "html 3.2", "html 3", "html level", "html strict", "html//",
   "html extended", "html 4.0 frameset", "html 4.0 transitional", "html experimental",
   "strict html", "w3 html", "mozilla html"]

-- The titles that are old only without a second identifier.
def fadingTitles : List String :=
  ["html 4.01 frameset", "html 4.01 transitional"]

-- What follows the word before the title.
def title? : List Char → Option (List Char)
  | 'd' :: 't' :: 'd' :: ' ' :: rest => some rest
  | _ :: rest => title? rest
  | [] => none

def startsWithAny (titles : List String) (text : List Char) : Bool :=
  titles.any fun title => title.toList.isPrefixOf text

def isOld (d : Doctype) : Bool :=
  d.broken || d.name != some "html" ||
    match d.publicId with
    | none => false
    | some id =>
      let id := id.toList.map Char.toLower
      id == "html".toList || match title? id with
        | none => false
        | some title =>
          startsWithAny oldTitles title ||
            (startsWithAny fadingTitles title && d.systemId.isNone)

end TextCharts.Html.Doctype
