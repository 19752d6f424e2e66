import SqlWeave.Entity.Call
import SqlWeave.Failure.Callable
import SqlWeave.Logging.Logger
import SqlWeave.Proofs.Condition.Alternatives
import SqlWeave.Proofs.Condition.Conversion
import SqlWeave.Proofs.Condition.Ids
import SqlWeave.Proofs.Reference.Naming
import SqlWeave.Proofs.Reference.Percent
import SqlWeave.Proofs.Retry.Schedule
import SqlWeave.Proofs.Session.AutoSave
import SqlWeave.Proofs.Session.BlockOutcome
import SqlWeave.Proofs.Session.BlockTransaction
import SqlWeave.Proofs.Session.Connecting
import SqlWeave.Proofs.Session.Delivery
import SqlWeave.Proofs.Session.FirstFailure
import SqlWeave.Proofs.Session.Forgetting
import SqlWeave.Proofs.Session.GivingBack
import SqlWeave.Proofs.Session.InsertShape
import SqlWeave.Proofs.Session.LastId
import SqlWeave.Proofs.Session.Lifecycle
import SqlWeave.Proofs.Session.Loading
import SqlWeave.Proofs.Session.LoweringFirst
import SqlWeave.Proofs.Session.QueryFailure
import SqlWeave.Proofs.Session.ReadOnly
import SqlWeave.Proofs.Session.RunnerInvariant
import SqlWeave.Proofs.Session.SavedImage
import SqlWeave.Proofs.Session.TwinRun
import SqlWeave.Proofs.Statement.Assignments
import SqlWeave.Proofs.Statement.Bench
import SqlWeave.Proofs.Statement.BindingOrder
import SqlWeave.Proofs.Statement.CommentBinding
import SqlWeave.Proofs.Statement.InsertTarget
import SqlWeave.Proofs.Statement.Repetition
import SqlWeave.Proofs.Statement.Residue
import SqlWeave.Proofs.Statement.Resolution
import SqlWeave.Proofs.Statement.RowCount
import SqlWeave.Proofs.Statement.Window
import SqlWeave.Retry.Policy
import SqlWeave.Session.Script
import SqlWeave.Settings.Request
import SqlWeave.Storage.Call
import SqlWeave.Vocabulary
