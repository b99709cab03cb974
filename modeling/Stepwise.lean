import Stepwise.Decimal.Shortest
import Stepwise.Dict
import Stepwise.Digest.Sha256
import Stepwise.Engine.Branching
import Stepwise.Engine.Dispatch
import Stepwise.Engine.Input
import Stepwise.Engine.Interpreter
import Stepwise.Engine.Offload
import Stepwise.Engine.Output
import Stepwise.Engine.Suspension
import Stepwise.Engine.Transition
import Stepwise.Execution.Branch
import Stepwise.Execution.Codec
import Stepwise.Execution.Continuation
import Stepwise.Execution.Error
import Stepwise.Execution.Handler
import Stepwise.Execution.Result
import Stepwise.Execution.Settings
import Stepwise.Execution.State
import Stepwise.Expression.Condition
import Stepwise.Expression.Path
import Stepwise.Expression.Pointer
import Stepwise.Expression.QueryText
import Stepwise.Expression.RealText
import Stepwise.Expression.Resolve
import Stepwise.Expression.Resolved
import Stepwise.Expression.Template
import Stepwise.Flow.Codec
import Stepwise.Flow.Step
import Stepwise.Flow.Validity
import Stepwise.Handler.FreshId
import Stepwise.Handler.HttpCall
import Stepwise.Handler.Input
import Stepwise.Handler.MapData
import Stepwise.Handler.SchemaCheck
import Stepwise.Handler.Standard
import Stepwise.Host.Basic
import Stepwise.Json.Basic
import Stepwise.Json.Number
import Stepwise.Json.Parser
import Stepwise.Json.Record
import Stepwise.Json.Text
import Stepwise.Pattern.Basic
import Stepwise.Pattern.Parser
import Stepwise.Program.Basic
import Stepwise.Program.Request
import Stepwise.Proofs.Interpreter.Call
import Stepwise.Proofs.Continuation.Concurrent
import Stepwise.Proofs.Continuation.CorrelationKey
import Stepwise.Proofs.Continuation.Eviction
import Stepwise.Proofs.Continuation.Resuming
import Stepwise.Proofs.Continuation.Lifetime
import Stepwise.Proofs.Continuation.Ownership
import Stepwise.Proofs.Continuation.Expiry
import Stepwise.Proofs.Flow.Validity
import Stepwise.Proofs.Interpreter.Failure
import Stepwise.Proofs.Interpreter.Lifecycle
import Stepwise.Proofs.Objects.Offloading
import Stepwise.Proofs.Program.Reach
import Stepwise.Proofs.Program.Requests
import Stepwise.Query.Eval
import Stepwise.Query.Expr
import Stepwise.Query.Function
import Stepwise.Query.Parser
import Stepwise.Query.Token
import Stepwise.Query.Value
import Stepwise.Schema.Basic
import Stepwise.Schema.Format
import Stepwise.Schema.Reader
import Stepwise.Schema.Violation
import Stepwise.Service.Answer
import Stepwise.Service.Assembly
import Stepwise.Service.Config
import Stepwise.Service.Definitions
import Stepwise.Service.Failure
import Stepwise.Service.Routes
import Stepwise.Storage.Catalog
import Stepwise.Storage.ContinuationMap
import Stepwise.Storage.FileStore
import Stepwise.Storage.FileTree
import Stepwise.Storage.Location
import Stepwise.Storage.ObjectMap
import Stepwise.Storage.WebStore
import Stepwise.Text.Base64
import Stepwise.Text.CharClass
import Stepwise.Text.CharRanges
import Stepwise.Text.Hex
import Stepwise.Text.Quoted
import Stepwise.Text.Split
import Stepwise.Text.UpperCase
import Stepwise.Time.Calendar
import Stepwise.Time.Instant
import Stepwise.Web.Address
import Stepwise.Web.MediaType
import Stepwise.Web.Token
import Stepwise.Proofs.Interpreter.Budget
import Stepwise.Proofs.Condition.Grammar
import Stepwise.Proofs.Objects.Reading
import Stepwise.Proofs.Output.Placing
import Stepwise.Proofs.Output.Writing
import Stepwise.Proofs.Query.PlainPath
import Stepwise.Proofs.Interpreter.Requests
import Stepwise.Proofs.Program.Exchanges
import Stepwise.Proofs.Interpreter.FlowStarts
import Stepwise.Proofs.Continuation.History
import Stepwise.Proofs.Continuation.Retention
import Stepwise.Proofs.Json.Reread
import Stepwise.Proofs.Flow.Codec
import Stepwise.Proofs.Time.Text
import Stepwise.Proofs.Output.Footprint
import Stepwise.Proofs.Interpreter.Frame
import Stepwise.Proofs.Interpreter.FanIn
import Stepwise.Proofs.Program.Repetition
import Stepwise.Proofs.Interpreter.Repetition
import Stepwise.Proofs.Json.Order
import Stepwise.Proofs.Query.Order
import Stepwise.Proofs.Query.Literals
import Stepwise.Proofs.Program.Ensures
import Stepwise.Proofs.Program.Confined
import Stepwise.Proofs.Flow.Order
import Stepwise.Proofs.Execution.Codec
import Stepwise.Proofs.Expression.Order
import Stepwise.Proofs.Interpreter.Documents
import Stepwise.Proofs.Interpreter.Persistence
import Stepwise.Proofs.Interpreter.BranchTree
import Stepwise.Proofs.Input.Rendering
import Stepwise.Proofs.Output.Overlap
import Stepwise.Proofs.Json.NumberText
import Stepwise.Proofs.Json.Written
import Stepwise.Proofs.Json.Honest
import Stepwise.Proofs.Provenance.Vocabulary
import Stepwise.Proofs.Provenance.Expressions
import Stepwise.Proofs.Provenance.Documents
import Stepwise.Proofs.Provenance.Calls
import Stepwise.Proofs.Provenance.Runs
import Stepwise.Proofs.Provenance.Reads
import Stepwise.Proofs.Query.Total
import Stepwise.Proofs.Query.Filter
import Stepwise.Proofs.Expression.Failure
import Stepwise.Proofs.Json.Rounding
import Stepwise.Proofs.Interpreter.Tolerance
import Stepwise.Proofs.Expression.Interpolation
import Stepwise.Proofs.Storage.FilePath
import Stepwise.Proofs.Storage.WebAddress
import Stepwise.Proofs.Objects.Keys
import Stepwise.Proofs.Service.Loading
