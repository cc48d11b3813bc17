import ModelStore.Coercion.Decimal
import ModelStore.Coercion.Document
import ModelStore.Coercion.Reference
import ModelStore.Command
import ModelStore.Connection
import ModelStore.Connector.Basic
import ModelStore.Connector.Call
import ModelStore.Connector.Read
import ModelStore.Connector.Write
import ModelStore.Datasource.Basic
import ModelStore.Datasource.Event
import ModelStore.Datasource.Session
import ModelStore.Failure
import ModelStore.Filter.Compile
import ModelStore.Filter.Geometry
import ModelStore.Filter.IgnoredFlags
import ModelStore.Filter.InPlace
import ModelStore.Filter.Operator
import ModelStore.Filter.Pattern
import ModelStore.Inclusion
import ModelStore.Notice
import ModelStore.Number.Binary64
import ModelStore.Number.Decimal
import ModelStore.Number.Decimal128
import ModelStore.Number.Nearest
import ModelStore.Number.Rounding
import ModelStore.Number.Shortest
import ModelStore.ObjectId
import ModelStore.Observer.Basic
import ModelStore.Observer.Context
import ModelStore.Observer.Notification
import ModelStore.Projection
import ModelStore.Proofs.Coercion.Document
import ModelStore.Proofs.Coercion.Element
import ModelStore.Proofs.Coercion.ExactDecimal
import ModelStore.Proofs.Coercion.FixedPoint
import ModelStore.Proofs.Coercion.Identifier
import ModelStore.Proofs.Coercion.Kept
import ModelStore.Proofs.Coercion.Leaves
import ModelStore.Proofs.Coercion.LeftText
import ModelStore.Proofs.Coercion.Point
import ModelStore.Proofs.Coercion.Recognition
import ModelStore.Proofs.Coercion.StoredType
import ModelStore.Proofs.Coercion.Value
import ModelStore.Proofs.Command.Calls
import ModelStore.Proofs.Command.EnsuredClient
import ModelStore.Proofs.Command.FailedCall
import ModelStore.Proofs.Command.InOrder
import ModelStore.Proofs.Command.Issued
import ModelStore.Proofs.Command.Unobserved
import ModelStore.Proofs.Connection
import ModelStore.Proofs.Connection.ClientOptions
import ModelStore.Proofs.Connection.Lifecycle
import ModelStore.Proofs.Connection.OpenClient
import ModelStore.Proofs.Connector.ComesTo
import ModelStore.Proofs.Connector.Compilation
import ModelStore.Proofs.Connector.EmptyUpdate
import ModelStore.Proofs.Connector.Insertion
import ModelStore.Proofs.Connector.Issued
import ModelStore.Proofs.Connector.MadeDocument
import ModelStore.Proofs.Connector.OneIdentity
import ModelStore.Proofs.Connector.ReadBack
import ModelStore.Proofs.Connector.Readable
import ModelStore.Proofs.Connector.RequestedFields
import ModelStore.Proofs.Connector.SameAddress
import ModelStore.Proofs.Connector.Sends
import ModelStore.Proofs.Connector.SessionOfCall
import ModelStore.Proofs.Connector.StoredValue
import ModelStore.Proofs.Connector.WholeCollection
import ModelStore.Proofs.Datasource.Added
import ModelStore.Proofs.Datasource.Continued
import ModelStore.Proofs.Datasource.Kept
import ModelStore.Proofs.Datasource.Shown
import ModelStore.Proofs.Datasource.Within
import ModelStore.Proofs.Filter.Conditions
import ModelStore.Proofs.Filter.Conjunction
import ModelStore.Proofs.Filter.Erasure
import ModelStore.Proofs.Filter.Leaf
import ModelStore.Proofs.Filter.NativeForm
import ModelStore.Proofs.Filter.RawOperand
import ModelStore.Proofs.Filter.Recompiled
import ModelStore.Proofs.Filter.ServerCode
import ModelStore.Proofs.Filter.Stable
import ModelStore.Proofs.Filter.StoredPoint
import ModelStore.Proofs.Filter.WrittenPattern
import ModelStore.Proofs.Number.Exact
import ModelStore.Proofs.Number.Literal
import ModelStore.Proofs.Observer.Around
import ModelStore.Proofs.Observer.LateRuling
import ModelStore.Proofs.Observer.Notification
import ModelStore.Proofs.Observer.Sharing
import ModelStore.Proofs.Observer.Snapshot
import ModelStore.Proofs.Projection.Requests
import ModelStore.Proofs.Projection.ShownId
import ModelStore.Proofs.Result
import ModelStore.Proofs.Schema.Agreement
import ModelStore.Proofs.Schema.Brackets
import ModelStore.Proofs.Schema.Columns
import ModelStore.Proofs.Schema.Model
import ModelStore.Proofs.Settings.Login
import ModelStore.Proofs.Sort.Forms
import ModelStore.Proofs.Sort.Resorted
import ModelStore.Proofs.Sort.Words
import ModelStore.Proofs.Storage
import ModelStore.Proofs.Storage.Addressed
import ModelStore.Proofs.Storage.FieldName
import ModelStore.Proofs.Storage.IdPath
import ModelStore.Proofs.Storage.LoadedId
import ModelStore.Proofs.Storage.Loading
import ModelStore.Proofs.Storage.Readable
import ModelStore.Proofs.Storage.WrittenBack
import ModelStore.Proofs.Table
import ModelStore.Proofs.Text.Path
import ModelStore.Proofs.Text.Percent
import ModelStore.Proofs.Transaction.Beginning
import ModelStore.Proofs.Transaction.Block
import ModelStore.Proofs.Transaction.Closing
import ModelStore.Proofs.Transaction.CommitSafety
import ModelStore.Proofs.Transaction.Leaving
import ModelStore.Proofs.Transaction.OpenTransaction
import ModelStore.Proofs.Transaction.Ownership
import ModelStore.Proofs.Transaction.RollbackNotice
import ModelStore.Proofs.Transaction.SessionClient
import ModelStore.Proofs.Transaction.SessionRelease
import ModelStore.Proofs.Update.Element
import ModelStore.Proofs.Update.EmptyOperand
import ModelStore.Proofs.Update.IdAddress
import ModelStore.Proofs.Update.NestedWrite
import ModelStore.Proofs.Update.Operand
import ModelStore.Proofs.Update.PulledCondition
import ModelStore.Proofs.Value.Parts
import ModelStore.Proofs.Value.Path
import ModelStore.Schema.Declaration
import ModelStore.Schema.Model
import ModelStore.Schema.Property
import ModelStore.Settings.Basic
import ModelStore.Settings.Field
import ModelStore.Settings.IntegerText
import ModelStore.Sort
import ModelStore.Storage
import ModelStore.Table
import ModelStore.Text.Blank
import ModelStore.Text.Digit
import ModelStore.Text.Integer
import ModelStore.Text.Lowercase
import ModelStore.Text.Path
import ModelStore.Text.Percent
import ModelStore.Text.Printable
import ModelStore.Text.Quoted
import ModelStore.Text.Span
import ModelStore.Transaction
import ModelStore.Update
import ModelStore.Value.Access
import ModelStore.Value.Basic
import ModelStore.Value.Written
