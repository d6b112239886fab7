import EsbCore.Util.HexUtil
import EsbCore.Util.UnicodeEscape
import EsbCore.Core.Membership
import EsbCore.Consumer.ConsumerFactoryBean
import EsbCore.Server.SerialportListener
import EsbCore.Lib.Ledger
import EsbCore.Rpc.RpcOutcome
import EsbCore.Rpc.CallCount
import EsbCore.Rpc.RpcBeanProxy
import EsbCore.Protocol.ProtocolFactory
import EsbCore.Util.HexNormal
import EsbCore.Util.HexStr
import EsbCore.Util.HexTable
import EsbCore.Util.HexBits
import EsbCore.Util.HexGrammar
import EsbCore.Lib.Lifecycle
import EsbCore.Server.ServerActor
import EsbCore.Server.Timers
import EsbCore.Server.SerialportServer
import EsbCore.Akka.AkkaEsbSystem
import EsbCore.Lib.Mail
import EsbCore.Server.SocketTcp
import EsbCore.Server.SocketIsolation
import EsbCore.Server.SocketClient
import EsbCore.Server.SocketLossless
import EsbCore.Protocol.ProtocolUrl
import EsbCore.Protocol.Provided
import EsbCore.Server.SerialLoop
import EsbCore.Provider.ProviderFactoryBean
import EsbCore.Lib.Reference
import EsbCore.Core.Snapshot
import EsbCore.Lib.Monitor
import EsbCore.Akka.MemberUp
import EsbCore.Util.CheckCode
import EsbCore.Util.UnicodeCode
import EsbCore.Protocol.Registry
import EsbCore.Akka.Roles
import EsbCore.Lib.Collect
import EsbCore.Consumer.PackageScan
import EsbCore.Lib.LastWith
import EsbCore.Http.DispatcherServlet
import EsbCore.Java.Url
import EsbCore.Util.UrlUtil
import EsbCore.Server.SocketReady
import EsbCore.Lib.Exchange
import EsbCore.Rpc.RpcExchange
import EsbCore.Rpc.PoolCount
import EsbCore.Monitor.MonitorCoreActor
import EsbCore.Monitor.MonitorBus
import EsbCore.Server.SocketOrder
import EsbCore.Monitor.CallAccounts
import EsbCore.Server.ServerFactoryBean
import EsbCore.Monitor.MembershipView
