import TextCharts.Color
import TextCharts.Decimal.Layout

namespace TextCharts

-- What an option has to be.
inductive OptionKind
  | number
  | natural
  deriving DecidableEq, Repr

def OptionKind.article : OptionKind → String
  | number => "a number"
  | natural => "a non-negative integer"

inductive DrawError
  | noNumericColumn
  | unknownSeries (name : String)
  | emptyData
  | invalidRange (low high : Float)
  | badOption (key : String) (kind : OptionKind)
  | tooSmall (minWidth minHeight width height : Nat)
  | tooLarge (maxWidth maxHeight width height : Nat)
  | color (e : ColorError)
  | other (text : String)

def DrawError.message : DrawError → String
  | noNumericColumn => "table has no number column to plot"
  | unknownSeries name => "series `" ++ name ++ "` is not a number column"
  | emptyData => "data set is empty"
  | invalidRange low high =>
    "y range " ++ Decimal.plain low ++ ".." ++ Decimal.plain high ++ " is empty"
  | badOption key kind => "option `" ++ key ++ "` must be " ++ kind.article
  | tooSmall minWidth minHeight width height =>
    s!"graph too small: need ≥{minWidth}×{minHeight}, got {width}×{height}"
  | tooLarge maxWidth maxHeight width height =>
    s!"graph too large: at most {maxWidth}×{maxHeight}, got {width}×{height}"
  | color e => e.message
  | other text => text

end TextCharts
