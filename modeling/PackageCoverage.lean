import PackageCoverage.Main
import PackageCoverage.Operation
import PackageCoverage.Proofs.Package.History
import PackageCoverage.Proofs.Profile.WholeText
import PackageCoverage.Proofs.Report.Facts
import PackageCoverage.Proofs.Binary64.Arithmetic
import PackageCoverage.Proofs.Binary64.Nearest
import PackageCoverage.Proofs.Tally.Percentage
import PackageCoverage.Proofs.Binary64.Order
import PackageCoverage.Proofs.Package.Root
import PackageCoverage.Proofs.Report.Rows
import PackageCoverage.Proofs.Report.Improvement
import PackageCoverage.Proofs.Package.Merging
import PackageCoverage.Profile.Writing
import PackageCoverage.Proofs.Profile.RoundTrip
import PackageCoverage.Proofs.CommandLine.AllOrNothing
import PackageCoverage.Proofs.Package.Uncovered
import PackageCoverage.Report.Reading
import PackageCoverage.Proofs.Report.ReadingBack
import PackageCoverage.Proofs.Config.Layers
import PackageCoverage.Proofs.Profile.Grammar
import PackageCoverage.Package.Search
import PackageCoverage.Proofs.Package.Keys
import PackageCoverage.Proofs.Report.Totals
import PackageCoverage.Proofs.Text.ByteOrder
import PackageCoverage.Proofs.Report.Listing
import PackageCoverage.Proofs.Binary64.Exact
import PackageCoverage.Proofs.Tally.Rounding
import PackageCoverage.Proofs.Report.Boundary
import PackageCoverage.Proofs.Binary64.RelativeError
import PackageCoverage.Proofs.Binary64.OneDecimal
import PackageCoverage.Proofs.Tally.Range
import PackageCoverage.Proofs.Tally.Quarters
import PackageCoverage.Proofs.Tally.Accuracy
import PackageCoverage.Proofs.Report.Classification
import PackageCoverage.Proofs.Report.Fractions
import PackageCoverage.Proofs.Report.Printed
import PackageCoverage.Proofs.Tally.Mediant
import PackageCoverage.Proofs.Report.Overall
import PackageCoverage.Proofs.Package.OneMore
import PackageCoverage.Proofs.Profile.Items
import PackageCoverage.Proofs.Profile.LineEnds
import PackageCoverage.Proofs.Package.DrillDown
import PackageCoverage.Proofs.Report.Accounting
import PackageCoverage.Proofs.Report.Alignment
import PackageCoverage.Proofs.Report.Characters
import PackageCoverage.Proofs.Report.Painting
import PackageCoverage.Proofs.Report.Colour
