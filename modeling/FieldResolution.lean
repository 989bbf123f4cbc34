import FieldResolution.Command.Invocation
import FieldResolution.Command.Load
import FieldResolution.Command.Run
import FieldResolution.Command.Usage
import FieldResolution.Command.Words
import FieldResolution.Directive.Basic
import FieldResolution.Directive.IntegerText
import FieldResolution.Directive.OfDocument
import FieldResolution.Directive.Record
import FieldResolution.Directive.ToDocument
import FieldResolution.Directive.Value
import FieldResolution.Directive.Violation
import FieldResolution.Document.Basic
import FieldResolution.Document.Literal
import FieldResolution.Document.Reader
import FieldResolution.Document.Writer
import FieldResolution.Field.Diagnostic
import FieldResolution.Field.Error
import FieldResolution.Field.Flag
import FieldResolution.Field.Occurrence
import FieldResolution.Field.Policy
import FieldResolution.Field.Resolved
import FieldResolution.Field.Roster
import FieldResolution.Field.Slot
import FieldResolution.Field.Type
import FieldResolution.Main
import FieldResolution.Model.Basic
import FieldResolution.Model.Declaration
import FieldResolution.Model.Error
import FieldResolution.Model.OfDocument
import FieldResolution.Model.Signature
import FieldResolution.Model.Spelling
import FieldResolution.Model.Type
import FieldResolution.Number.Binary64
import FieldResolution.Number.Shortest
import FieldResolution.Proofs.Command.Agreement
import FieldResolution.Proofs.Directive.Checked
import FieldResolution.Proofs.Directive.Rereading
import FieldResolution.Proofs.Field.Arrangement
import FieldResolution.Proofs.Field.Assignment
import FieldResolution.Proofs.Field.Column
import FieldResolution.Proofs.Field.Contribution
import FieldResolution.Proofs.Field.Flag
import FieldResolution.Proofs.Field.Grouping
import FieldResolution.Proofs.Field.Retracing
import FieldResolution.Proofs.Field.Roster
import FieldResolution.Proofs.Field.Walk
import FieldResolution.Proofs.Model.Acceptance
import FieldResolution.Proofs.Model.Composition
import FieldResolution.Proofs.Model.Extension
import FieldResolution.Proofs.Model.Loaded
import FieldResolution.Proofs.Model.Lookup
import FieldResolution.Proofs.Model.Members
import FieldResolution.Proofs.Model.Misspelling
import FieldResolution.Proofs.Model.Passage
import FieldResolution.Proofs.Model.Reading
import FieldResolution.Proofs.Model.Renaming
import FieldResolution.Proofs.Model.Respelling
import FieldResolution.Proofs.Model.Scoping
import FieldResolution.Proofs.Model.ShapeOrder
import FieldResolution.Proofs.Model.Spelling
import FieldResolution.Proofs.Model.Structures
import FieldResolution.Proofs.Model.Unfolding
import FieldResolution.Proofs.Resolution.Acceptance
import FieldResolution.Proofs.Resolution.Alignment
import FieldResolution.Proofs.Resolution.Answer
import FieldResolution.Proofs.Resolution.Closure
import FieldResolution.Proofs.Resolution.DefaultSlots
import FieldResolution.Proofs.Resolution.Divergence
import FieldResolution.Proofs.Resolution.Fault
import FieldResolution.Proofs.Resolution.Fields
import FieldResolution.Proofs.Resolution.FlagConflict
import FieldResolution.Proofs.Resolution.Flags
import FieldResolution.Proofs.Resolution.Flattening
import FieldResolution.Proofs.Resolution.Frame
import FieldResolution.Proofs.Resolution.Growth
import FieldResolution.Proofs.Resolution.Independence
import FieldResolution.Proofs.Resolution.JoinedRecords
import FieldResolution.Proofs.Resolution.Listing
import FieldResolution.Proofs.Resolution.OperationOrder
import FieldResolution.Proofs.Resolution.Overridden
import FieldResolution.Proofs.Resolution.OverrideOrder
import FieldResolution.Proofs.Resolution.Policies
import FieldResolution.Proofs.Resolution.Renaming
import FieldResolution.Proofs.Resolution.Report
import FieldResolution.Proofs.Resolution.Run
import FieldResolution.Proofs.Resolution.Settle
import FieldResolution.Proofs.Resolution.SilentOverride
import FieldResolution.Proofs.Resolution.Source
import FieldResolution.Proofs.Resolution.SourcePath
import FieldResolution.Proofs.Resolution.Unpacking
import FieldResolution.Proofs.Resolution.WithoutPolicies
import FieldResolution.Proofs.Sorting
import FieldResolution.Report
import FieldResolution.Resolution.Run
import FieldResolution.Resolution.Settle
import FieldResolution.Resolution.Trace
import FieldResolution.Text.CharClass
import FieldResolution.Text.Lowercase
import FieldResolution.Text.Segments
