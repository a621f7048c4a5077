import ScriptedSql.Isolation
import ScriptedSql.Session.Run
import ScriptedSql.Timestamp
import ScriptedSql.Value.Tagged
import ScriptedSql.Proofs.Queue.Resolution
import ScriptedSql.Proofs.Queue.Ledger
import ScriptedSql.Proofs.Queue.Sequence
import ScriptedSql.Proofs.Queue.Reordering
import ScriptedSql.Proofs.Queue.Report
import ScriptedSql.Proofs.Mock.Closing
import ScriptedSql.Proofs.Session.Closing
import ScriptedSql.Proofs.Session.Fulfilment
import ScriptedSql.Proofs.Session.Verification
import ScriptedSql.Proofs.Session.Closed
import ScriptedSql.Proofs.Mock.Ending
import ScriptedSql.Proofs.Mock.Unmonitored
import ScriptedSql.Proofs.Session.Registration
import ScriptedSql.Proofs.Session.LeftOpen
import ScriptedSql.Proofs.Session.Living
import ScriptedSql.Proofs.World.Consistency
import ScriptedSql.Proofs.Queue.Pings
import ScriptedSql.Proofs.Mock.Pings
import ScriptedSql.Proofs.Session.Freed
import ScriptedSql.Proofs.Session.Transaction
import ScriptedSql.Proofs.Session.Lockstep
import ScriptedSql.Proofs.Session.Separation
import ScriptedSql.Proofs.Json.Written
import ScriptedSql.Proofs.Json.Nesting
import ScriptedSql.Proofs.Json.Content
import ScriptedSql.Proofs.Value.Tagged
import ScriptedSql.Proofs.Expectation.Arguments
import ScriptedSql.Proofs.Queue.Rejection
import ScriptedSql.Proofs.ResultSet.Building
import ScriptedSql.Proofs.ResultSet.Reading
import ScriptedSql.Proofs.Json.Equality
import ScriptedSql.Proofs.Value.Correspondence
import ScriptedSql.Proofs.Date.Calendar
import ScriptedSql.Proofs.Timestamp.Rendering
import ScriptedSql.Proofs.Timestamp.Instant
import ScriptedSql.Proofs.World.GeneratedDsn
import ScriptedSql.Proofs.Session.Generation
import ScriptedSql.Proofs.Mock.Batch
import ScriptedSql.Proofs.Session.Obtained
import ScriptedSql.Proofs.Session.FollowUp
import ScriptedSql.Proofs.Session.Operations
import ScriptedSql.Proofs.Expectation.Building
import ScriptedSql.Proofs.World.Revision
import ScriptedSql.Proofs.Session.Declaration
import ScriptedSql.Proofs.Session.Building
import ScriptedSql.Proofs.Expectation.Disagreement
import ScriptedSql.Proofs.Value.Reading
import ScriptedSql.Proofs.ResultSet.ByName
import ScriptedSql.Proofs.Value.NormalForm
import ScriptedSql.Proofs.Value.ColumnType
