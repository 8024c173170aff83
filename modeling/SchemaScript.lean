import SchemaScript.Main
import SchemaScript.Dialect.Codec
import SchemaScript.Proofs.Document.RoundTrip
import SchemaScript.Proofs.Constraint.Numbering
import SchemaScript.Proofs.Domain.TypeChange
import SchemaScript.Proofs.Domain.Tracking
import SchemaScript.Proofs.Table.ConstraintNames
import SchemaScript.Proofs.User.Unchanged
import SchemaScript.Proofs.Document.Rendering
import SchemaScript.Proofs.Table.Balanced
import SchemaScript.Proofs.Table.Faults
import SchemaScript.Proofs.ObjectKind.NewName
import SchemaScript.Proofs.CommandLine.Settings
import SchemaScript.Proofs.CommandLine.Outcome
import SchemaScript.Proofs.CommandLine.Agreement
import SchemaScript.Proofs.Constraint.NormalForm
import SchemaScript.Proofs.Constraint.Leader
import SchemaScript.Proofs.Table.NormalForm
import SchemaScript.Proofs.Table.OwnKey
import SchemaScript.Proofs.Table.Elements
import SchemaScript.Proofs.Table.BlankOptions
import SchemaScript.Proofs.Table.Triggers
import SchemaScript.Proofs.GeneratedName.Counter
import SchemaScript.Proofs.Request.Version
import SchemaScript.Proofs.Dialect.Token
import SchemaScript.Proofs.Dialect.Value
import SchemaScript.Proofs.Dialect.NameList
import SchemaScript.Proofs.Comment
import SchemaScript.Proofs.User.Masked
import SchemaScript.Proofs.Table.FaultPlace
import SchemaScript.Proofs.Routine.Rows
import SchemaScript.Proofs.Column.VariableComments
import SchemaScript.Proofs.Column.Resubmission
import SchemaScript.Proofs.User.TagEdits
import SchemaScript.Proofs.Domain.CommentTarget
import SchemaScript.Proofs.Domain.Sparse
import SchemaScript.Proofs.View.Terminators
import SchemaScript.Proofs.AlterStatement.Additions
import SchemaScript.Proofs.CommandLine.Delivery
