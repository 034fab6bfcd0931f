import TextCharts.Chart.Extent

namespace TextCharts.Chart

-- The first sample of bin `b`, if there are more samples than bins.
def binStart (samples bins b : Nat) : Nat :=
  b * samples / bins

-- The sample after the last one of bin `b`.
def binEnd (samples bins b : Nat) : Nat :=
  max (binStart samples bins (b + 1)) (binStart samples bins b + 1)

def slice {α : Type} (items : List α) (start stop : Nat) : List α :=
  (items.drop start).take (stop - start)

-- One extent a bin, or one a sample if there are bins enough.
def bin (values : List Float) (bins : Nat) : List (Option Extent) :=
  let n := values.length
  if bins = 0 then []
  else if n ≤ bins then values.map fun x => Extent.ofValues? [x]
  else (List.range bins).map fun b =>
    Extent.ofValues? (slice values (binStart n bins b) (binEnd n bins b))

end TextCharts.Chart
