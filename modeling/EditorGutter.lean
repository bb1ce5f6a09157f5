import EditorGutter.Main
import EditorGutter.Value.Json
import EditorGutter.Proofs.Number.Rounding
import EditorGutter.Proofs.View.Geometry
import EditorGutter.Proofs.Buffer.LineStarts
import EditorGutter.Proofs.Gutter.Binding
import EditorGutter.Proofs.Gutter.LineNumbers
import EditorGutter.Proofs.Gutter.Scrolling
import EditorGutter.Proofs.Breakpoint.InFlight
import EditorGutter.Proofs.Gutter.Alignment
import EditorGutter.Proofs.Gutter.Failures
import EditorGutter.Proofs.Gutter.Composition
import EditorGutter.Proofs.Gutter.Marks
import EditorGutter.Proofs.Document.History
import EditorGutter.Proofs.View.WholeLines
import EditorGutter.Proofs.Breakpoint.Names
import EditorGutter.Proofs.Breakpoint.Messages
import EditorGutter.Proofs.Breakpoint.RoundTrip
import EditorGutter.Proofs.Gutter.Noninterference
import EditorGutter.Proofs.Buffer.LineSpans
import EditorGutter.Proofs.Diagnostic.Placement
import EditorGutter.Proofs.Diagnostic.Published
import EditorGutter.Proofs.Selection.Primary
import EditorGutter.Proofs.Config.Resolution
import EditorGutter.Proofs.Buffer.OffsetLines
import EditorGutter.Proofs.Selection.Cursor
import EditorGutter.Proofs.Text.Fitting
import EditorGutter.Proofs.Text.Clusters
import EditorGutter.Proofs.Text.FittedWidth
import EditorGutter.Proofs.Breakpoint.Toggling
import EditorGutter.Proofs.Number.DecimalDigits
import EditorGutter.Proofs.Style.Patching
import EditorGutter.Proofs.Value.Enumeration
import EditorGutter.Proofs.Config.Blame
import EditorGutter.Proofs.Gutter.ShownNumbers
import EditorGutter.Proofs.Style.Disjoint
import EditorGutter.Proofs.Buffer.Partition
import EditorGutter.Proofs.Text.LineBreaks
import EditorGutter.Proofs.Paint.Appearance
import EditorGutter.Proofs.Buffer.ByteOffsets
import EditorGutter.Proofs.Gutter.SelectedRows
import EditorGutter.Proofs.Theme.Construction
import EditorGutter.Proofs.View.LeastScroll
import EditorGutter.Proofs.Color.Parsing
