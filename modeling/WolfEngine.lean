import WolfEngine.Library.Accumulators
import WolfEngine.Library.Copies
import WolfEngine.Library.EventLoop
import WolfEngine.Library.Faulting
import WolfEngine.Library.FirstFit
import WolfEngine.Library.Handles
import WolfEngine.Library.Kahn
import WolfEngine.Library.Ledger
import WolfEngine.Library.LittleEndian
import WolfEngine.Library.MachineInt
import WolfEngine.Library.Overlay
import WolfEngine.Library.RemoteCalls
import WolfEngine.Library.Transitions
import WolfEngine.Library.Views
import WolfEngine.Library.WhileLoop
import WolfEngine.Media.Context
import WolfEngine.Media.Conversion
import WolfEngine.Media.Ffmpeg
import WolfEngine.Stream.Common.Buffer
import WolfEngine.Stream.Common.Callback
import WolfEngine.Stream.Common.Timeouts
import WolfEngine.Stream.Common.Tls
import WolfEngine.Stream.Common.Utf8
import WolfEngine.Stream.Rist
import WolfEngine.Stream.RistSession
import WolfEngine.Stream.Tcp.Client
import WolfEngine.Stream.Tcp.Native
import WolfEngine.Stream.Tcp.Server
import WolfEngine.Stream.Tcp.ServerFiber
import WolfEngine.Stream.Tcp.ServerMainLoop
import WolfEngine.Stream.Udp
import WolfEngine.System.Algorithm.Raft.Converter
import WolfEngine.System.Algorithm.Raft.Router
import WolfEngine.System.Algorithm.Raft.Srv
import WolfEngine.System.Chrono.GameTime
import WolfEngine.System.Compression.Lz4
import WolfEngine.System.Compression.Lzma
import WolfEngine.System.Os.Gamepads
import WolfEngine.System.Os.Vigem
import WolfEngine.System.Os.VigemClient
import WolfEngine.Verified.AcceptClose
import WolfEngine.Verified.BusConnect
import WolfEngine.Verified.CatchUp
import WolfEngine.Verified.Conversation
import WolfEngine.Verified.Decompress
import WolfEngine.Verified.FfmpegCalls
import WolfEngine.Verified.FfmpegCustody
import WolfEngine.Verified.FfmpegOutput
import WolfEngine.Verified.FfmpegPictures
import WolfEngine.Verified.FfmpegRelease
import WolfEngine.Verified.FfmpegReport
import WolfEngine.Verified.FfmpegSession
import WolfEngine.Verified.FrameRate
import WolfEngine.Verified.GameClock
import WolfEngine.Verified.GamePace
import WolfEngine.Verified.GamepadRelease
import WolfEngine.Verified.GamepadReports
import WolfEngine.Verified.Gamepads
import WolfEngine.Verified.Lz4RoundTrip
import WolfEngine.Verified.LzmaBounds
import WolfEngine.Verified.LzmaLoop
import WolfEngine.Verified.LzmaReports
import WolfEngine.Verified.LzmaRoundTrip
import WolfEngine.Verified.LzmaStored
import WolfEngine.Verified.NativeReplies
import WolfEngine.Verified.NativeSession
import WolfEngine.Verified.PeerClose
import WolfEngine.Verified.RaftAnswers
import WolfEngine.Verified.RaftCluster
import WolfEngine.Verified.RaftPorts
import WolfEngine.Verified.RaftTransparency
import WolfEngine.Verified.RistOwners
import WolfEngine.Verified.RistRelease
import WolfEngine.Verified.SerialNumbers.Calls
import WolfEngine.Verified.SerialNumbers.Least
import WolfEngine.Verified.SerialNumbers.Runs
import WolfEngine.Verified.Shutdown
import WolfEngine.Verified.ShutdownOrder
import WolfEngine.Verified.StreamReplies
import WolfEngine.Verified.StreamStalls
import WolfEngine.Verified.TlsAcceptor
import WolfEngine.Verified.UdpIsolation
import WolfEngine.Verified.UdpNetwork
import WolfEngine.Verified.UdpReplies
import WolfEngine.Verified.WsBuffer
import WolfEngine.Verified.WsSession
