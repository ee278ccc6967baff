import Tabular.Arrow.Array
import Tabular.Arrow.Artifact
import Tabular.Arrow.Encoding
import Tabular.Calendar.Date
import Tabular.Calendar.Timestamp
import Tabular.Column.Basic
import Tabular.Column.Dict
import Tabular.Column.Display
import Tabular.Column.Inference
import Tabular.Column.Kind
import Tabular.Fault
import Tabular.Files.Disk
import Tabular.Files.Path
import Tabular.Files.Tree
import Tabular.Files.Walk
import Tabular.Format.Error
import Tabular.Format.Grouping
import Tabular.Format.Layout
import Tabular.Format.NumberFormat
import Tabular.Format.Render
import Tabular.Format.Spec
import Tabular.Format.Template
import Tabular.Json.Basic
import Tabular.Json.Numeral
import Tabular.Json.Printer
import Tabular.Json.Reader
import Tabular.Logging.Event
import Tabular.Logging.Filter
import Tabular.Logging.Logger
import Tabular.Logging.Pattern
import Tabular.Logging.RollingFile
import Tabular.Message.Basic
import Tabular.Message.Catalog
import Tabular.Numeric.Decimal
import Tabular.Numeric.Floating
import Tabular.Numeric.Number
import Tabular.Numeric.Ratio
import Tabular.Prompt
import Tabular.Report.Coercion
import Tabular.Report.QuickFix
import Tabular.Result.Basic
import Tabular.Result.Coercion
import Tabular.Result.Log
import Tabular.Result.Storage
import Tabular.Settings
import Tabular.Tab
import Tabular.Table.Basic
import Tabular.Table.Categorical
import Tabular.Table.Dtype
import Tabular.Table.Edit
import Tabular.Table.Series
import Tabular.Table.Storage
import Tabular.Table.StorageFault
import Tabular.Text.Alphanumeric
import Tabular.Text.Blank
import Tabular.Text.Extending
import Tabular.Text.FloatText
import Tabular.Text.Quoted
import Tabular.Text.Unprintable
import Tabular.Value.Basic
import Tabular.Value.Display
import Tabular.Value.Json
import Tabular.Wire.Artifact
import Tabular.Wire.Column
import Tabular.Wire.Diagnostic
import Tabular.Wire.Reading
import Tabular.Wire.Render
import Tabular.Proofs.Column.Description
import Tabular.Proofs.Table.Storability
import Tabular.Proofs.Files.Directory
import Tabular.Proofs.Files.Folder
import Tabular.Proofs.Files.Rename
import Tabular.Proofs.Arrow.Encoding
import Tabular.Proofs.Arrow.Publication
import Tabular.Proofs.Result.RoundTrip
import Tabular.Proofs.Report.Coercion
import Tabular.Proofs.Result.Dispatch
import Tabular.Proofs.Result.Reachability
import Tabular.Proofs.Format.Template
import Tabular.Proofs.Format.Grammar
import Tabular.Proofs.Numeric.Value
import Tabular.Proofs.Format.Whole
import Tabular.Proofs.Format.Writing
import Tabular.Proofs.Result.Update
import Tabular.Proofs.Result.Entries
import Tabular.Proofs.Guarded.Basic
import Tabular.Proofs.Guarded.Template
import Tabular.Proofs.Guarded.Spec
import Tabular.Proofs.Format.Grouping
import Tabular.Proofs.Format.Reading
import Tabular.Proofs.Guarded.Grouping
import Tabular.Proofs.Guarded.Layout
import Tabular.Proofs.Guarded.Render
import Tabular.Proofs.Guarded.Format
import Tabular.Proofs.Table.Contents
import Tabular.Proofs.Column.Display
import Tabular.Proofs.Result.Canonical
import Tabular.Proofs.Files.Siblings
import Tabular.Proofs.Files.Staging
import Tabular.Proofs.Arrow.Atomicity
import Tabular.Proofs.Arrow.Batches
import Tabular.Proofs.Arrow.Reading
import Tabular.Proofs.Wire.Fields
import Tabular.Proofs.Wire.RoundTrip
import Tabular.Proofs.Arrow.Consistency
import Tabular.Proofs.Result.Agreement
import Tabular.Proofs.Logging.NumberedFiles
import Tabular.Proofs.Logging.Rotation
import Tabular.Proofs.Result.Reinference
import Tabular.Proofs.Table.Compaction
import Tabular.Proofs.Result.Truncation
import Tabular.Proofs.Format.Groups
import Tabular.Proofs.Format.Width
import Tabular.Proofs.Numeric.Rounding
import Tabular.Proofs.Numeric.Shortest
import Tabular.Proofs.Text.Numeral
import Tabular.Proofs.Text.Digits
import Tabular.Proofs.Format.Notation
import Tabular.Proofs.Format.General
import Tabular.Proofs.Format.Padding
import Tabular.Proofs.Format.Integer
import Tabular.Proofs.Format.ReadBack
import Tabular.Proofs.Format.Words
import Tabular.Proofs.Table.Plain
import Tabular.Proofs.Guarded.Compaction
import Tabular.Proofs.Table.Encoding
import Tabular.Proofs.Numeric.Absolute
import Tabular.Proofs.Format.NegativeZero
import Tabular.Proofs.Text.Insertion
import Tabular.Proofs.Json.Members
import Tabular.Proofs.Value.Json
import Tabular.Proofs.Table.Refusal
import Tabular.Proofs.Report.Lists
import Tabular.Proofs.Report.Spellings
import Tabular.Proofs.Message.Substitution
import Tabular.Proofs.Message.Wording
import Tabular.Proofs.Column.StoredForms
import Tabular.Proofs.Calendar.Date
import Tabular.Proofs.Calendar.Timestamp
import Tabular.Proofs.Json.Sameness
import Tabular.Proofs.Result.Sameness
import Tabular.Proofs.Files.Lookup
import Tabular.Proofs.Logging.Outage
import Tabular.Proofs.Logging.Backups
