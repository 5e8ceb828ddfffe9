import PrismRosAdapter.Failure
import PrismRosAdapter.Program.Exceptional
import PrismRosAdapter.Program.Runs
import PrismRosAdapter.Program.Loops
import PrismRosAdapter.Program.Metered
import PrismRosAdapter.Program.Groups
import PrismRosAdapter.Program.StableOrder
import PrismRosAdapter.Program.Bytes
import PrismRosAdapter.Program.ByteStrings
import PrismRosAdapter.Program.Obligations
import PrismRosAdapter.Program.Switching
import PrismRosAdapter.Program.Neighbours
import PrismRosAdapter.Program.Drawing
import PrismRosAdapter.Program.Emissions
import PrismRosAdapter.Lidar.LidarPoint
import PrismRosAdapter.Lidar.FrameAccumulator
import PrismRosAdapter.Lidar.FrameWindow
import PrismRosAdapter.Lidar.FrameTimes
import PrismRosAdapter.Lidar.FrameSession
import PrismRosAdapter.Lidar.FrameGroups
import PrismRosAdapter.Lidar.Conversion
import PrismRosAdapter.Lidar.ConvertedBatches
import PrismRosAdapter.Cloud.PointCloud
import PrismRosAdapter.Dispatch.DispatchQueue
import PrismRosAdapter.Dispatch.QueueRuns
import PrismRosAdapter.Dispatch.RawDispatch
import PrismRosAdapter.Dispatch.PublicationAck
import PrismRosAdapter.Dispatch.RawPolls
import PrismRosAdapter.Dispatch.RawHealth
import PrismRosAdapter.Health.SensorDataHealth
import PrismRosAdapter.Health.Operations
import PrismRosAdapter.Health.Reports
import PrismRosAdapter.Health.SourceNumbers
import PrismRosAdapter.Health.Polls
import PrismRosAdapter.Health.Silence
import PrismRosAdapter.Health.Baseline
import PrismRosAdapter.Navigation.ReceiverModel
import PrismRosAdapter.Navigation.GnssEpoch
import PrismRosAdapter.Navigation.Fixes
import PrismRosAdapter.Health.Checks
import PrismRosAdapter.Timing.DeviceTimeResolver
import PrismRosAdapter.Timing.ReferenceHistory
import PrismRosAdapter.Driver.ControlQueue
import PrismRosAdapter.Driver.Sdk
import PrismRosAdapter.Driver.State
import PrismRosAdapter.Driver.Receive
import PrismRosAdapter.Driver.Streams
import PrismRosAdapter.Driver.LidarNetwork
import PrismRosAdapter.Driver.Ipv4
import PrismRosAdapter.Driver.Commands
import PrismRosAdapter.Driver.Run
import PrismRosAdapter.Driver.Handlers
import PrismRosAdapter.Driver.DeviceTime
import PrismRosAdapter.Driver.Feeds
import PrismRosAdapter.Driver.Quiet
import PrismRosAdapter.Driver.Traversal
import PrismRosAdapter.Driver.Pause
import PrismRosAdapter.Driver.Resume
import PrismRosAdapter.Driver.Onward
import PrismRosAdapter.Driver.Outcome
import PrismRosAdapter.Driver.ControlRuns
import PrismRosAdapter.Driver.StreamFlags
import PrismRosAdapter.Driver.Monitoring
import PrismRosAdapter.Driver.StreamObjects
import PrismRosAdapter.Driver.StreamSelection
import PrismRosAdapter.Driver.DeviceIdentity
import PrismRosAdapter.Driver.CameraCredits
import PrismRosAdapter.Driver.StopRequest
import PrismRosAdapter.Driver.IdleOperation
import PrismRosAdapter.Driver.ControlBatch
import PrismRosAdapter.Driver.Baselines
import PrismRosAdapter.Driver.SampleDrops
import PrismRosAdapter.Driver.UnsynchronizedDrops
import PrismRosAdapter.Driver.StartedStreams
import PrismRosAdapter.Driver.MainLoop
import PrismRosAdapter.Driver.StreamSessions
import PrismRosAdapter.Driver.Shutdown
import PrismRosAdapter.Driver.Connection
import PrismRosAdapter.Driver.LidarPower
import PrismRosAdapter.Driver.LidarIdle
import PrismRosAdapter.Driver.HealthOperations
import PrismRosAdapter.Driver.LossReports
import PrismRosAdapter.Driver.RtkRestarts
import PrismRosAdapter.Driver.FixStreams
import PrismRosAdapter.Driver.LidarPath
import PrismRosAdapter.Driver.SampleFlow
import PrismRosAdapter.Node.Publications
