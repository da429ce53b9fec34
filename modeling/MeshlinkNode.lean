import MeshlinkNode.Notify
import MeshlinkNode.Authz
import MeshlinkNode.Service
import MeshlinkNode.Attested
import MeshlinkNode.Consent
import MeshlinkNode.Freshness
import MeshlinkNode.Isolation
import MeshlinkNode.Spacing
import MeshlinkNode.Batman
import MeshlinkNode.Relay
import MeshlinkNode.Outbound
import MeshlinkNode.Refusals
import MeshlinkNode.ControlFrames
import MeshlinkNode.Flooding
import MeshlinkNode.GattServer
import MeshlinkNode.RoutingViews
import MeshlinkNode.Gossip
import MeshlinkNode.DirectorySync
import MeshlinkNode.Traffic
import MeshlinkNode.PhoneFacing
import MeshlinkNode.WifiSends
import MeshlinkNode.WifiStop
import MeshlinkNode.PhoneReports
import MeshlinkNode.PingThreads
import MeshlinkNode.ProxyPool
import MeshlinkNode.ProxyRequests
import MeshlinkNode.Presentations
import MeshlinkNode.RateLimit
import MeshlinkNode.CorruptStream
import MeshlinkNode.ProxyReplies
import MeshlinkNode.ProxyPaths
import MeshlinkNode.Announcements
import MeshlinkNode.Hostapd
import MeshlinkNode.Backlog
import MeshlinkNode.Assembly
import MeshlinkNode.Hops
import MeshlinkNode.ConfGrammar
import MeshlinkNode.OrganiserKey
import MeshlinkNode.Heartbeat
import MeshlinkNode.ZoneRouting
import MeshlinkNode.NodeStreams
import MeshlinkNode.InternetSharing
import MeshlinkNode.JsonReread
import MeshlinkNode.Codecs
import MeshlinkNode.Provision
