import Fossilize.Vulkan
import Fossilize.Allocator
import Fossilize.Recorder
import Fossilize.Session
import Fossilize.Register
import Fossilize.Replayer
import Fossilize.Replayer.Interface
import Fossilize.Replayer.Outcomes
import Fossilize.Replayer.Elements
import Fossilize.Replayer.Protocol
import Fossilize.Hashing.Feed
import Fossilize.Hashing.Rename
import Fossilize.Hashing.Masking
import Fossilize.Hashing.Decode
import Fossilize.Hashing.RenderPass
import Fossilize.Hashing.Layouts
import Fossilize.Hashing.Sessions
import Fossilize.Supervisor.Text
import Fossilize.Supervisor.Process
import Fossilize.Supervisor.Master
import Fossilize.Supervisor.Steps
import Fossilize.Supervisor.Owners
import Fossilize.Supervisor.Delivery
import Fossilize.Supervisor.Respawn
import Fossilize.Supervisor.Partition
import Fossilize.Supervisor.Report
import Fossilize.Supervisor.Runs
import Fossilize.Supervisor.Progress
import Fossilize.Supervisor.Timers
import Fossilize.Supervisor.Overflow
import Fossilize.Supervisor.Failure
