import P2pUsb.Library.Ledger
import P2pUsb.Usb.SharedAccess
import P2pUsb.Usb.Waiters
import P2pUsb.Policy.Engine
import P2pUsb.Network.Connection
import P2pUsb.Network.Server
import P2pUsb.Network.Steps
import P2pUsb.Network.Authority
import P2pUsb.Network.Handles
import P2pUsb.Network.Conversations
import P2pUsb.Network.Isolation
import P2pUsb.Network.ExclusiveSessions
import P2pUsb.Network.TransferOrder
import P2pUsb.Network.Disconnect
import P2pUsb.Network.Bridge
import P2pUsb.Usb.AccessQueue
import P2pUsb.Library.AsciiCase
import P2pUsb.Policy.Selection
import P2pUsb.Policy.Decision
import P2pUsb.Library.ClockFace
import P2pUsb.Policy.TimeWindows
import P2pUsb.Policy.SessionRuns
import P2pUsb.Network.Allowlist
import P2pUsb.Network.ExpiryTimer
import P2pUsb.Network.Sessions
import P2pUsb.Network.SessionEnds
import P2pUsb.Network.Invalidation
import P2pUsb.Library.ByteStream
import P2pUsb.VirtualUsb.UsbIp
import P2pUsb.VirtualUsb.MessageReader
import P2pUsb.VirtualUsb.ReadLoop
import P2pUsb.Usb.Transfers
import P2pUsb.VirtualUsb.Conversion
import P2pUsb.VirtualUsb.Translation
import P2pUsb.VirtualUsb.BridgeSteps
import P2pUsb.VirtualUsb.Completion
import P2pUsb.VirtualUsb.Unlinking
import P2pUsb.VirtualUsb.UnlinkStatus
import P2pUsb.Library.FifoLock
import P2pUsb.VirtualUsb.EndpointOrder
import P2pUsb.Network.DeviceProxy
import P2pUsb.Network.Executions
import P2pUsb.VirtualUsb.Attempts
import P2pUsb.Network.ServerConnection
import P2pUsb.Protocol.Codec
import P2pUsb.Network.ConnectionPool
import P2pUsb.Network.Withdrawal
import P2pUsb.Network.SingleConnection
import P2pUsb.Library.Bitmap
import P2pUsb.VirtualUsb.Ports
import P2pUsb.VirtualUsb.LinuxManager
import P2pUsb.VirtualUsb.PortHistory
import P2pUsb.VirtualUsb.PortExclusion
import P2pUsb.VirtualUsb.Bookkeeping
import P2pUsb.Library.Metering
import P2pUsb.Network.RateLimiter
import P2pUsb.Network.Bandwidth
import P2pUsb.Network.BandwidthAccounts
import P2pUsb.Network.AutoReattach
import P2pUsb.Network.Reconnection
import P2pUsb.Protocol.FrameReaders
import P2pUsb.VirtualUsb.ReceiveBuffer
import P2pUsb.VirtualUsb.Reception
import P2pUsb.VirtualUsb.LastContiguous
import P2pUsb.VirtualUsb.InterruptAcks
import P2pUsb.VirtualUsb.ReportDelivery
import P2pUsb.Usb.QueueGrants
import P2pUsb.Usb.ExpiryPass
import P2pUsb.Usb.Leases
import P2pUsb.Usb.QueuePositions
import P2pUsb.Usb.ZeroTimeout
import P2pUsb.Library.Coalescing
import P2pUsb.Network.NotificationAggregator
import P2pUsb.Network.AutoAttach
import P2pUsb.Library.BoundedQueue
import P2pUsb.VirtualUsb.DropOldest
import P2pUsb.VirtualUsb.MissingNumbers
import P2pUsb.VirtualUsb.StorageReports
import P2pUsb.VirtualUsb.IntegrityRates
import P2pUsb.VirtualUsb.JitterBuffer
import P2pUsb.VirtualUsb.JitterBounds
import P2pUsb.VirtualUsb.FlowControl
import P2pUsb.Usb.InterruptBuffer
import P2pUsb.Usb.InterruptPoller
import P2pUsb.Usb.DeviceFilters
import P2pUsb.Network.ConfiguredSharing
import P2pUsb.Policy.WindowArithmetic
import P2pUsb.Network.BandwidthText
import P2pUsb.Network.TryAcquire
import P2pUsb.Policy.DurationText
import P2pUsb.Network.RateWaits
import P2pUsb.Library.BinaryHeap
import P2pUsb.Qos.Departures
import P2pUsb.Qos.Aging
import P2pUsb.Library.RoundRobin
import P2pUsb.Qos.FairScheduler
import P2pUsb.Usb.Debounce
import P2pUsb.Usb.Replug
import P2pUsb.VirtualUsb.StructureRoundTrip
import P2pUsb.Network.AggregatorContents
import P2pUsb.Network.HealthMonitor
import P2pUsb.Network.HealthReset
import P2pUsb.Audit.Rotation
import P2pUsb.Audit.Timestamp
import P2pUsb.VirtualUsb.Checksums
import P2pUsb.VirtualUsb.IsoAccounting
import P2pUsb.Library.ListCursor
import P2pUsb.Tui.ClientApp
import P2pUsb.Tui.ServerApp
import P2pUsb.Audit.Trail
import P2pUsb.Network.AuditAccounts
import P2pUsb.Network.RecordedServer
import P2pUsb.Network.ClientView
import P2pUsb.Network.TransferOutcomes
import P2pUsb.VirtualUsb.WholePath
