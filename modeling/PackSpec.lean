import PackSpec.Build
import PackSpec.ClassRef
import PackSpec.Command.Arguments
import PackSpec.Command.Config
import PackSpec.Command.Lint
import PackSpec.Command.Rows
import PackSpec.Command.Run
import PackSpec.Decimal.Binary64
import PackSpec.Decimal.Layout
import PackSpec.Decimal.Reading
import PackSpec.Decimal.Shortest
import PackSpec.Diagnostic
import PackSpec.Document
import PackSpec.Document.Decode
import PackSpec.Document.Encode
import PackSpec.Entries
import PackSpec.Kind
import PackSpec.LineIndex
import PackSpec.Main
import PackSpec.Naming
import PackSpec.Node
import PackSpec.Node.Build
import PackSpec.Node.Derived
import PackSpec.Param.Access
import PackSpec.Param.Catalog
import PackSpec.Param.Coerce
import PackSpec.Param.Overlay
import PackSpec.Param.Reader
import PackSpec.Param.Table
import PackSpec.Param.Value
import PackSpec.Problem
import PackSpec.Proofs.Build.Composed
import PackSpec.Proofs.Build.Confined
import PackSpec.Proofs.Build.Gathered
import PackSpec.Proofs.Build.Gives
import PackSpec.Proofs.Build.Invariant
import PackSpec.Proofs.Build.Modes
import PackSpec.Proofs.Build.Paired
import PackSpec.Proofs.Build.Recorded
import PackSpec.Proofs.Build.Silent
import PackSpec.Proofs.Build.Strict
import PackSpec.Proofs.Build.Tallied
import PackSpec.Proofs.Decimal.Texts
import PackSpec.Proofs.Diagnostic.Calls
import PackSpec.Proofs.Document.Aborts
import PackSpec.Proofs.Document.Accounted
import PackSpec.Proofs.Document.Canonical
import PackSpec.Proofs.Document.Composed
import PackSpec.Proofs.Document.Fates
import PackSpec.Proofs.Document.Given
import PackSpec.Proofs.Document.Inherited
import PackSpec.Proofs.Document.Laid
import PackSpec.Proofs.Document.Lined
import PackSpec.Proofs.Document.Modes
import PackSpec.Proofs.Document.Needed
import PackSpec.Proofs.Document.Parallel
import PackSpec.Proofs.Document.Refilled
import PackSpec.Proofs.Document.Reordered
import PackSpec.Proofs.Document.Reread
import PackSpec.Proofs.Document.Restored
import PackSpec.Proofs.Document.RoundTrip
import PackSpec.Proofs.Document.Shuffled
import PackSpec.Proofs.Document.Steps
import PackSpec.Proofs.Document.Typed
import PackSpec.Proofs.Document.Unordered
import PackSpec.Proofs.Document.Without
import PackSpec.Proofs.Document.Written
import PackSpec.Proofs.LineIndex.Borrowed
import PackSpec.Proofs.LineIndex.Lines
import PackSpec.Proofs.LineIndex.Located
import PackSpec.Proofs.LineIndex.Outline
import PackSpec.Proofs.LineIndex.Paths
import PackSpec.Proofs.LineIndex.Scans
import PackSpec.Proofs.Node.Apart
import PackSpec.Proofs.Node.Building
import PackSpec.Proofs.Node.Built
import PackSpec.Proofs.Node.Checked
import PackSpec.Proofs.Node.Keyed
import PackSpec.Proofs.Node.Reading
import PackSpec.Proofs.Node.Rebuilt
import PackSpec.Proofs.Node.Reordered
import PackSpec.Proofs.Node.Trimmed
import PackSpec.Proofs.Node.Typed
import PackSpec.Proofs.Node.Whole
import PackSpec.Proofs.Param.Consistent
import PackSpec.Proofs.Param.Declared
import PackSpec.Proofs.Param.Every
import PackSpec.Proofs.Param.Fits
import PackSpec.Proofs.Param.Getter
import PackSpec.Proofs.Param.Keyed
import PackSpec.Proofs.Param.LeftOver
import PackSpec.Proofs.Param.Overlaid
import PackSpec.Proofs.Param.Reading
import PackSpec.Proofs.Param.Reordered
import PackSpec.Proofs.Param.Retyping
import PackSpec.Proofs.Param.Same
import PackSpec.Proofs.Param.Trimmed
import PackSpec.Proofs.Relationship.Accepted
import PackSpec.Proofs.Relationship.CompactForm
import PackSpec.Proofs.Relationship.Figure
import PackSpec.Proofs.Relationship.Line
import PackSpec.Proofs.Relationship.Redrawn
import PackSpec.Proofs.Relationship.Rereading
import PackSpec.Proofs.Relationship.Resolved
import PackSpec.Proofs.Shorthand
import PackSpec.Proofs.Specification.Added
import PackSpec.Proofs.Specification.Answers
import PackSpec.Proofs.Specification.Deriving
import PackSpec.Proofs.Specification.Framed
import PackSpec.Proofs.Specification.Hosting
import PackSpec.Proofs.Specification.Lineage
import PackSpec.Proofs.Specification.Linking
import PackSpec.Proofs.Specification.Listed
import PackSpec.Proofs.Specification.Overriding
import PackSpec.Proofs.Specification.Placing
import PackSpec.Proofs.Specification.Rebuilt
import PackSpec.Proofs.Specification.Relinked
import PackSpec.Proofs.Specification.Reordered
import PackSpec.Proofs.Specification.Respelled
import PackSpec.Proofs.Specification.Spelling
import PackSpec.Proofs.Specification.TakenAlike
import PackSpec.Proofs.Specification.Trimmed
import PackSpec.Proofs.Specification.Undeclared
import PackSpec.Proofs.Specification.Walks
import PackSpec.Proofs.Specification.Warned
import PackSpec.Proofs.Text.Bytes
import PackSpec.Proofs.Text.Spans
import PackSpec.Proofs.Yaml.Keyed
import PackSpec.Proofs.Yaml.Read
import PackSpec.Proofs.Yaml.Same
import PackSpec.Relationship.Compact
import PackSpec.Relationship.Declaration
import PackSpec.Relationship.Diagram
import PackSpec.Relationship.Multiplicity
import PackSpec.Relationship.Reading
import PackSpec.Severity
import PackSpec.Shorthand
import PackSpec.Specification
import PackSpec.Specification.Lineage
import PackSpec.Specification.Links
import PackSpec.Text.Basic
import PackSpec.Text.Case
import PackSpec.Text.CaseTable
import PackSpec.Text.Json
import PackSpec.Text.Quoted
import PackSpec.Yaml.Cursor
import PackSpec.Yaml.Document
import PackSpec.Yaml.Node
import PackSpec.Yaml.Plain
import PackSpec.Yaml.Scalar
import PackSpec.Yaml.Text
import PackSpec.Yaml.Token
import PackSpec.Yaml.Value
