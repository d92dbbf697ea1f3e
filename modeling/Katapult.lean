import Katapult.Transfer.Cancellation
import Katapult.Transfer.Destination
import Katapult.Agent.Heartbeats
import Katapult.Transfer.Rows
import Katapult.Transfer.BestEffort
import Katapult.Transfer.Frames
import Katapult.Http.Server
import Katapult.Store.Inventory
import Katapult.Http.FinalFrame
import Katapult.Transfer.BytesMoved
import Katapult.Testutil.Refinement
import Katapult.Http.FrontEnds
import Katapult.Web.Filters
import Katapult.Web.Reconnect
import Katapult.Transfer.RetryFold
import Katapult.Transfer.Admission
import Katapult.Transfer.Backoff
import Katapult.Observability.Eta
import Katapult.Grpc.Registration
import Katapult.Http.CancelVerdicts
import Katapult.Agent.Discovery
import Katapult.Registry.Health
import Katapult.Controller.Projection
import Katapult.Store.Records
import Katapult.Transfer.Reasons
import Katapult.Registry.Versions
import Katapult.Transfer.Isolation
import Katapult.Transfer.Chronicle
import Katapult.Transfer.Replay
import Katapult.Cmd.ControlPlane
import Katapult.Cmd.Idle
import Katapult.Store.SerialHeartbeats
import Katapult.Store.Deadlock
import Katapult.Registry.Detector
import Katapult.Web.Requests
