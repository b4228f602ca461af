import BeeSync.HandshakeAgreement
import BeeSync.ChunkGeometry
import BeeSync.ChunkMessage
import BeeSync.FrameTransport
import BeeSync.FrameLimit
import BeeSync.Client.ExitCode
import BeeSync.Server.MetadataCodec
import BeeSync.Server.DerivedNames
import BeeSync.Server.PortPermits
import BeeSync.Server.PortLifecycle
import BeeSync.Server.FinalStatus
import BeeSync.Server.CrashRecovery
import BeeSync.Server.ReplyDiscipline
import BeeSync.Server.SessionShape
import BeeSync.Server.LateWrites
import BeeSync.Server.PartsAgree
import BeeSync.Encoding.Checked
import BeeSync.Interaction.Sequential
import BeeSync.Server.Bounds
import BeeSync.Server.HandshakeGrammar
import BeeSync.Server.ResumeBounds
import BeeSync.Server.ChunkBounds
import BeeSync.Server.SizeArithmetic
import BeeSync.Server.AssemblyResults
import BeeSync.Server.ArrivalOrder
import BeeSync.Server.ChunkRecording
import BeeSync.Client.Distribution
import BeeSync.Server.SharedRecord
import BeeSync.Client.ResumeReply
import BeeSync.Server.NameLengths
import BeeSync.Client.Arguments
import BeeSync.Server.PortSearch
import BeeSync.Client.WholeChunk
import BeeSync.Server.ReceiverInvariant
import BeeSync.Client.Delivery
import BeeSync.EndToEnd.Delivery
