import Ztunnel.Lib.HashMap
import Ztunnel.Lib.KeyedList
import Ztunnel.Identity.Identity
import Ztunnel.Tls.Certificate
import Ztunnel.Tls.WorkloadCertificate
import Ztunnel.State.Workload
import Ztunnel.State.WorkloadIndex
import Ztunnel.State.Service
import Ztunnel.State.ServiceIndex
import Ztunnel.Rbac.Authorization
import Ztunnel.Rbac.MatchesSpec
import Ztunnel.State.Policy
import Ztunnel.State.AssertRbac
import Ztunnel.Lib.Except
import Ztunnel.Xds.Types
import Ztunnel.Xds.Convert
import Ztunnel.State.ProxyState
import Ztunnel.State.Endpoints
import Ztunnel.State.Reconcile
import Ztunnel.Lib.WeightedChoice
import Ztunnel.State.LoadBalance
import Ztunnel.Lib.KeyedPriorityQueue
import Ztunnel.Identity.Manager
import Ztunnel.Identity.ManagerInv
import Ztunnel.Identity.PendingQueue
import Ztunnel.Inpod.StateManager
import Ztunnel.Inpod.StateManagerInv
import Ztunnel.Inpod.Protocol
import Ztunnel.Xds.Client
import Ztunnel.Xds.ClientInv
import Ztunnel.Xds.Handler
import Ztunnel.Copy.CopyBuf
import Ztunnel.Copy.CopyBufInv
import Ztunnel.Dns.Name
import Ztunnel.Dns.Server
import Ztunnel.Proxy.Baggage
import Ztunnel.Lib.Radix
import Ztunnel.Proxy.TraceParent
import Ztunnel.Proxy.H2Stream
import Ztunnel.Lib.ByteStream
import Ztunnel.Proxy.Socks5
import Ztunnel.Proxy.ConnectionManager
import Ztunnel.Proxy.ConnectionManagerInv
import Ztunnel.Lib.Iter
import Ztunnel.Proxy.Inbound
import Ztunnel.Proxy.Outbound
import Ztunnel.Proxy.Pool
import Ztunnel.Proxy.PoolInv
import Ztunnel.Inpod.WorkloadManager
import Ztunnel.Lib.Str
import Ztunnel.Proxy.Forwarded
