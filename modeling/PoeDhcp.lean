import PoeDhcp.Foundation.Machine
import PoeDhcp.Foundation.Words
import PoeDhcp.Foundation.Tlv
import PoeDhcp.Foundation.LeaseService
import PoeDhcp.Model.Message
import PoeDhcp.Model.Options
import PoeDhcp.Model.Server
import PoeDhcp.Model.Reply
import PoeDhcp.Model.Run
import PoeDhcp.Model.Host
import PoeDhcp.Model.Api
import PoeDhcp.OptionArea
import PoeDhcp.Inspection
import PoeDhcp.HostName
import PoeDhcp.Dispatch
import PoeDhcp.ReceivedBytes
import PoeDhcp.RequestedAddress
import PoeDhcp.StaleBytes
import PoeDhcp.ServerSelection
import PoeDhcp.Lifecycle
import PoeDhcp.LeaseTable
import PoeDhcp.Discovery
import PoeDhcp.Restart
import PoeDhcp.ApiProtocol
import PoeDhcp.OneLease
import PoeDhcp.Availability
import PoeDhcp.PoolOrder
import PoeDhcp.PoolRuns
import PoeDhcp.LeaseRuns
import PoeDhcp.LeaseGuarantees
import PoeDhcp.Handshake
import PoeDhcp.Foundation.Candidates
import PoeDhcp.Foundation.CyclicSearch
import PoeDhcp.DottedQuad
import PoeDhcp.ReplyBytes
import PoeDhcp.PoeAddresses
import PoeDhcp.PoolRanges
import PoeDhcp.AdapterAddress
import PoeDhcp.OwnHost
import PoeDhcp.FreeAddress
import PoeDhcp.NakContent
import PoeDhcp.Destination
import PoeDhcp.RefusedOffer
import PoeDhcp.LeaseEffect
import PoeDhcp.StartResult
import PoeDhcp.Foundation.Ledger
import PoeDhcp.Model.NetConfig
import PoeDhcp.ComResources
import PoeDhcp.OptionScan
import PoeDhcp.Foundation.Simulation
import PoeDhcp.Foundation.Progress
import PoeDhcp.Model.Threads
import PoeDhcp.Interleaving
import PoeDhcp.ThreadSafety
import PoeDhcp.Foundation.Family
import PoeDhcp.Model.System
import PoeDhcp.PoolHosts
import PoeDhcp.SystemLeases
import PoeDhcp.Model.Service
import PoeDhcp.ServiceRuns
import PoeDhcp.Retry
import PoeDhcp.LeaseLimits
import PoeDhcp.ReadBuffer
import PoeDhcp.Retransmission
import PoeDhcp.WmiRequests
import PoeDhcp.IdentifierBlocks
import PoeDhcp.Model.Adapters
import PoeDhcp.AdapterBuffers
import PoeDhcp.SystemThreads
import PoeDhcp.InterfaceRequests
import PoeDhcp.ServiceLeases
