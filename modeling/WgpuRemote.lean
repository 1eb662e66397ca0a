import WgpuRemote.Protocol.Ids
import WgpuRemote.Lib.Transition
import WgpuRemote.Lib.Reader
import WgpuRemote.Protocol.Descriptors
import WgpuRemote.Protocol.Actions
import WgpuRemote.Protocol.Codec
import WgpuRemote.Protocol.Leftover
import WgpuRemote.Transport.Stream
import WgpuRemote.Transport.Receive
import WgpuRemote.Lib.Store
import WgpuRemote.Server.Prog
import WgpuRemote.Server.Engine
import WgpuRemote.Lib.Footprint
import WgpuRemote.Lib.Interleaving
import WgpuRemote.Server.Contract
import WgpuRemote.Server.Lifetime
import WgpuRemote.Server.Risks
import WgpuRemote.Client.Handles
import WgpuRemote.Client.Translate
import WgpuRemote.System.Descriptors
import WgpuRemote.Client.Encoder
import WgpuRemote.Client.Recorders
import WgpuRemote.System.Recording
import WgpuRemote.Client.Facade
import WgpuRemote.System.Session
import WgpuRemote.System.Integrity
import WgpuRemote.Server.Isolation
import WgpuRemote.System.Devices
import WgpuRemote.Client.Mentions
import WgpuRemote.Client.Turns
import WgpuRemote.System.Submissions
import WgpuRemote.Client.Mux
import WgpuRemote.Client.Disconnect
import WgpuRemote.System.Responses
import WgpuRemote.System.Issuance
import WgpuRemote.Server.Sites
import WgpuRemote.Server.Failure
import WgpuRemote.Server.Poison
import WgpuRemote.Server.Handler
import WgpuRemote.Server.Handshake
import WgpuRemote.System.Builds
import WgpuRemote.Server.Sections
import WgpuRemote.Server.Concurrent
import WgpuRemote.Server.Independence
import WgpuRemote.Client.Submit
import WgpuRemote.Client.Mapping
import WgpuRemote.Lib.Overlay
import WgpuRemote.System.Readback
import WgpuRemote.System.Ranges
import WgpuRemote.Client.Remap
import WgpuRemote.Lib.Loans
import WgpuRemote.Client.Staging
import WgpuRemote.Client.Program
import WgpuRemote.System.Local
import WgpuRemote.System.Transparency
import WgpuRemote.Lib.Checks
import WgpuRemote.Server.Diagnosis
import WgpuRemote.Lib.Mutex
import WgpuRemote.Server.Guards
import WgpuRemote.Server.Tasks
import WgpuRemote.Client.Passes
import WgpuRemote.System.Passes
import WgpuRemote.Server.Blind
import WgpuRemote.Server.Atomicity
import WgpuRemote.Lib.Rewrite
import WgpuRemote.Protocol.Rewrite
import WgpuRemote.Lib.Pipe
import WgpuRemote.Transport.Pieces
import WgpuRemote.System.Bytes
