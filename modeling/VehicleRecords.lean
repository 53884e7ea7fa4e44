import VehicleRecords.Http.Handler
import VehicleRecords.Main
import VehicleRecords.Postgres.Scripted
import VehicleRecords.Registry
import VehicleRecords.Store.Memory
import VehicleRecords.Store.Scripted
import VehicleRecords.Proofs.Sql.Reading
import VehicleRecords.Proofs.Sql.Numbering
import VehicleRecords.Proofs.Sql.Shape
import VehicleRecords.Proofs.Sql.Recovery
import VehicleRecords.Proofs.Sql.Listing
import VehicleRecords.Proofs.Sql.Insertion
import VehicleRecords.Proofs.Sql.Batches
import VehicleRecords.Proofs.Sql.Text
import VehicleRecords.Proofs.Sql.TableName
import VehicleRecords.Proofs.Store.Like
import VehicleRecords.Proofs.Store.Query
import VehicleRecords.Proofs.Store.Batch
import VehicleRecords.Proofs.Store.Exec
import VehicleRecords.Proofs.Store.Pieces
import VehicleRecords.Proofs.Store.Edit
import VehicleRecords.Proofs.Store.Disjoint
import VehicleRecords.Proofs.Store.Ids
import VehicleRecords.Proofs.Store.Order
import VehicleRecords.Proofs.Store.Overflow
import VehicleRecords.Proofs.Store.Outcome
import VehicleRecords.Proofs.Store.IllTyped
import VehicleRecords.Proofs.Store.Listing
import VehicleRecords.Proofs.Sql.Update
import VehicleRecords.Proofs.Validator.Accepted
import VehicleRecords.Proofs.Validator.Refused
import VehicleRecords.Proofs.Service.Run
import VehicleRecords.Proofs.Service.Addition
import VehicleRecords.Proofs.Service.Refusal
import VehicleRecords.Proofs.Service.Edit
import VehicleRecords.Proofs.Service.Disjoint
import VehicleRecords.Proofs.Service.History
import VehicleRecords.Proofs.Service.Clients
import VehicleRecords.Proofs.Service.Interleaving
import VehicleRecords.Proofs.Postgres.Statement
import VehicleRecords.Proofs.Postgres.Bind
import VehicleRecords.Proofs.Postgres.Meaning
import VehicleRecords.Proofs.Postgres.Row
import VehicleRecords.Proofs.Postgres.Storage
import VehicleRecords.Proofs.Postgres.Parameter
import VehicleRecords.Proofs.Postgres.Turn
import VehicleRecords.Proofs.Postgres.Transaction
import VehicleRecords.Proofs.Postgres.Kept
import VehicleRecords.Proofs.Postgres.Session
import VehicleRecords.Proofs.Postgres.Run
import VehicleRecords.Proofs.Postgres.Answer
import VehicleRecords.Proofs.Url.Escape
import VehicleRecords.Proofs.Url.Host
import VehicleRecords.Proofs.Url.Parts
import VehicleRecords.Proofs.Url.Plain
import VehicleRecords.Proofs.Postgres.Login
import VehicleRecords.Proofs.Registry.Request
import VehicleRecords.Proofs.Http.Failure
import VehicleRecords.Proofs.Service.Missing
import VehicleRecords.Proofs.Service.Pairing
import VehicleRecords.Proofs.Filter.Token
import VehicleRecords.Proofs.FirstFailure
import VehicleRecords.Proofs.Error.Context
import VehicleRecords.Proofs.Filter.Policy
import VehicleRecords.Proofs.Http.Policy
import VehicleRecords.Proofs.Text.Utf8
import VehicleRecords.Proofs.Text.Trim
import VehicleRecords.Proofs.Text.Form
import VehicleRecords.Proofs.Text.Written
import VehicleRecords.Proofs.Http.Listing
import VehicleRecords.Proofs.Http.Status
import VehicleRecords.Proofs.Json.Number
import VehicleRecords.Proofs.Json.Token
import VehicleRecords.Proofs.Json.Tree
import VehicleRecords.Proofs.Json.Order
import VehicleRecords.Proofs.Json.Cars
import VehicleRecords.Proofs.Http.Document
import VehicleRecords.Proofs.Store.YearText
import VehicleRecords.Proofs.Service.Pages
import VehicleRecords.Proofs.Service.Pattern
import VehicleRecords.Proofs.Text.Length
import VehicleRecords.Proofs.Http.Parameters
import VehicleRecords.Proofs.Toml.Quoted
import VehicleRecords.Proofs.Toml.Scalar
import VehicleRecords.Proofs.Toml.Line
import VehicleRecords.Proofs.Toml.Document
import VehicleRecords.Proofs.Config.Settings
import VehicleRecords.Proofs.Config.Sources
import VehicleRecords.Proofs.Start
