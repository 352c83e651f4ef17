import TypedSql.Inspect
import TypedSql.Recorder
import TypedSql.Session.Transaction
import TypedSql.SqlServer.Scripted
import TypedSql.Json.Reader
import TypedSql.Proofs.Placeholder.Token
import TypedSql.Proofs.Placeholder.Boundary
import TypedSql.Proofs.Placeholder.Lexing
import TypedSql.Proofs.Connection.Discipline
import TypedSql.Proofs.Connection.Calls
import TypedSql.Proofs.Connection.InTurn
import TypedSql.Proofs.Session.Use
import TypedSql.Proofs.Session.Dispatch
import TypedSql.Proofs.Session.Bracket
import TypedSql.Proofs.Session.Account
import TypedSql.Proofs.Session.Release
import TypedSql.Proofs.Session.Routing
import TypedSql.Proofs.Binding
import TypedSql.Proofs.Placeholder.Spelled
import TypedSql.Proofs.Statement.Bound
import TypedSql.Proofs.SqlServer.Requests
import TypedSql.Proofs.SqlServer.Substitution
import TypedSql.Proofs.Placeholder.Recut
import TypedSql.Proofs.Placeholder.Junction
import TypedSql.Proofs.Placeholder.Marker
import TypedSql.Proofs.Placeholder.Checked
import TypedSql.Proofs.SqlServer.Hygiene
import TypedSql.Proofs.SqlServer.Fragments
import TypedSql.Proofs.Statement.Handover
import TypedSql.Proofs.Statement.Called
import TypedSql.Proofs.Statement.HandedBack
import TypedSql.Proofs.SqlServer.BatchNames
import TypedSql.Proofs.SqlServer.ReadBack
import TypedSql.Proofs.SqlServer.RowSets
import TypedSql.Proofs.SqlServer.Arguments
import TypedSql.Proofs.SqlServer.Stranded
import TypedSql.Proofs.Statement.Wording
import TypedSql.Proofs.Statement.Rendering
import TypedSql.Proofs.Statement.Mode
import TypedSql.Proofs.Statement.Refusal
import TypedSql.Proofs.Placeholder.Listed
import TypedSql.Proofs.SqlServer.Columns
import TypedSql.Proofs.Statement.Values
import TypedSql.Proofs.Session.Asked
import TypedSql.Proofs.Session.Made
import TypedSql.Proofs.Session.Reported
import TypedSql.Proofs.Session.Traced
import TypedSql.Proofs.Session.TwoRuns
import TypedSql.Proofs.SqlServer.TwoRuns
import TypedSql.Proofs.Binding.Documents
import TypedSql.Proofs.Binding.OrderedMap
import TypedSql.Proofs.Statement.Conflict
import TypedSql.Proofs.Row.Event
import TypedSql.Proofs.ResultSet
import TypedSql.Proofs.Session.Taken
import TypedSql.Proofs.Session.Undisturbed
import TypedSql.Proofs.Row.Order
import TypedSql.Proofs.SqlServer.ConnectionText
import TypedSql.Proofs.Session.Limits
import TypedSql.Proofs.Statement.Hints
