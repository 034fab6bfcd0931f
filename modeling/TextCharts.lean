import TextCharts.Files.Tree
import TextCharts.Main
import TextCharts.Proofs.Run.Fate
import TextCharts.Proofs.Run.Invariant
import TextCharts.Proofs.Run.Reports
import TextCharts.Proofs.Run.Isolation
import TextCharts.Proofs.Delimited.Rest
import TextCharts.Proofs.Delimited.TwoPass
import TextCharts.Proofs.Delimited.Writing
import TextCharts.Proofs.Steps
import TextCharts.Proofs.Chart.Extent
import TextCharts.Proofs.Chart.Buckets
import TextCharts.Proofs.Chart.Dots
import TextCharts.Proofs.Chart.Samples
import TextCharts.Proofs.Run.Race
import TextCharts.Proofs.Render.Packages
import TextCharts.Proofs.Run.Barrier
import TextCharts.Proofs.Page.Options
import TextCharts.Proofs.Page.Config
import TextCharts.Proofs.Page.Discovery
import TextCharts.Proofs.Chart.Raster
import TextCharts.Proofs.Color.Escapes
import TextCharts.Proofs.Render.Decoration
import TextCharts.Proofs.Config.Routes
import TextCharts.Proofs.CommandLine.Rendering
import TextCharts.Proofs.Chart.Bins
import TextCharts.Proofs.Chart.Line
import TextCharts.Proofs.Double.Rounding
import TextCharts.Proofs.Double.Value
import TextCharts.Proofs.Double.Shift
import TextCharts.Proofs.Double.Arithmetic
import TextCharts.Proofs.Double.Whole
import TextCharts.Proofs.Double.Order
import TextCharts.Proofs.Chart.Height
import TextCharts.Proofs.Double.Half
import TextCharts.Proofs.Chart.Bounds
import TextCharts.Proofs.Chart.Drawable
import TextCharts.Proofs.Chart.Frame
import TextCharts.Proofs.Table.Grid
import TextCharts.Proofs.Delimited.Flags
import TextCharts.Proofs.Delimited.Trailing
import TextCharts.Proofs.Table.Typed
import TextCharts.Proofs.Run.Stages
import TextCharts.Proofs.Double.Parts
import TextCharts.Proofs.Double.Scientific
import TextCharts.Proofs.Double.Nearest
import TextCharts.Proofs.Text.Digit
import TextCharts.Proofs.Table.Radix
import TextCharts.Proofs.Color.Grammar
import TextCharts.Proofs.Run.Locator
import TextCharts.Proofs.Decimal.Positional
import TextCharts.Proofs.Table.Shown
import TextCharts.Proofs.Text.Bytes
import TextCharts.Proofs.CommandLine.Unescaping
import TextCharts.Proofs.Page.Citations
import TextCharts.Proofs.Render.History
import TextCharts.Proofs.Text.Breaks
import TextCharts.Proofs.Run.Marker
