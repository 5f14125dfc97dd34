import RemoteSql.Client.Basic
import RemoteSql.Connection.Content
import RemoteSql.Cursor.Value
import RemoteSql.Envelope.Detail
import RemoteSql.Url.Form
import RemoteSql.Proofs.Payload.Scanner
import RemoteSql.Proofs.Payload.Token
import RemoteSql.Proofs.SortedMap
import RemoteSql.Proofs.Payload.Locality
import RemoteSql.Proofs.Payload.Truncation
import RemoteSql.Proofs.Cursor.Move
import RemoteSql.Proofs.Cursor.Opening
import RemoteSql.Proofs.Cursor.Course
import RemoteSql.Proofs.Cursor.Navigation
import RemoteSql.Proofs.Json.Number
import RemoteSql.Proofs.Json.Text
import RemoteSql.Proofs.Payload.Balance
import RemoteSql.Proofs.Json.Written
import RemoteSql.Proofs.Payload.Agreement
import RemoteSql.Proofs.Trace
import RemoteSql.Proofs.Session.Fallback
import RemoteSql.Proofs.Session.History
import RemoteSql.Proofs.Session.Ending
import RemoteSql.Proofs.Connection.Operation
import RemoteSql.Proofs.Session.Issue
import RemoteSql.Proofs.Session.Sharing
import RemoteSql.Proofs.Connection.Lifecycle
import RemoteSql.Proofs.Http.Answer
import RemoteSql.Proofs.Session.Blame
import RemoteSql.Proofs.Connection.Blame
import RemoteSql.Proofs.Connection.Classification
import RemoteSql.Proofs.Json.Spelling
import RemoteSql.Proofs.Json.Numeral
import RemoteSql.Proofs.Json.Printing
import RemoteSql.Proofs.Cursor.Table
import RemoteSql.Proofs.Envelope.Document
import RemoteSql.Proofs.Cursor.Verdict
import RemoteSql.Proofs.Cursor.Delivery
import RemoteSql.Proofs.Blob.Transfer
import RemoteSql.Proofs.Statement.Form
import RemoteSql.Proofs.Connection.Update
import RemoteSql.Proofs.Url.Parsed
import RemoteSql.Proofs.Url.Segments
import RemoteSql.Proofs.Url.Parts
import RemoteSql.Proofs.Session.Address
import RemoteSql.Proofs.Blob.Outcome
import RemoteSql.Proofs.Session.Resumption
import RemoteSql.Proofs.Stream.Copying
import RemoteSql.Proofs.Blob.Interruption
import RemoteSql.Proofs.Cursor.Signed
import RemoteSql.Proofs.Cursor.NullNote
import RemoteSql.Proofs.Cursor.Naming
import RemoteSql.Proofs.Cursor.Instant
import RemoteSql.Proofs.Payload.Extent
import RemoteSql.Proofs.Envelope.Verdict
import RemoteSql.Proofs.Envelope.ErrorType
import RemoteSql.Proofs.Stream.Account
import RemoteSql.Proofs.Session.Cache
