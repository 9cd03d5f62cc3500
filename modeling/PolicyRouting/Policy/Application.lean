import PolicyRouting.Fault
import PolicyRouting.Frame.Basic
import PolicyRouting.Text.Blank

/-!
# Applications

The catalogue of the applications whose traffic a policy can steer.  Each has
a well-known port, a transport protocol and a traffic class.
-/

namespace PolicyRouting

inductive Protocol where
  | tcpV4 | udpV4 | tcpV6 | udpV6 | mpls | icmpV4
  deriving DecidableEq, Repr, Inhabited

namespace Protocol

def all : List Protocol := [tcpV4, udpV4, tcpV6, udpV6, mpls, icmpV4]

def number : Protocol → UInt8
  | tcpV4 | tcpV6 => IpProtocol.tcp
  | udpV4 | udpV6 => IpProtocol.udp
  | mpls => 137
  | icmpV4 => IpProtocol.icmp

def name : Protocol → String
  | tcpV4 => "TCPv4"
  | udpV4 => "UDPv4"
  | tcpV6 => "TCPv6"
  | udpV6 => "UDPv6"
  | mpls => "MPLS"
  | icmpV4 => "ICMPv4"

end Protocol

inductive TrafficClass where
  | bestEffort | realTime
  deriving DecidableEq, Repr, Inhabited

namespace TrafficClass

def all : List TrafficClass := [bestEffort, realTime]

def name : TrafficClass → String
  | bestEffort => "BEST_EFFORT"
  | realTime => "REAL_TIME"

end TrafficClass

inductive Application where
  | web | ftp | voip | tftp | ping | videoStreaming
  deriving DecidableEq, Repr, Inhabited

namespace Text

/-- The form in which names are compared: trimmed, underscores for hyphens, upper case. -/
def folded (s : String) : List Char :=
  (trim s.toList).map fun c => if c = '-' then '_' else c.toUpper

end Text

namespace Application

def all : List Application := [web, ftp, voip, tftp, ping, videoStreaming]

def name : Application → String
  | web => "WEB"
  | ftp => "FTP"
  | voip => "VOIP"
  | tftp => "TFTP"
  | ping => "PING"
  | videoStreaming => "VIDEO_STREAMING"

def port : Application → UInt16
  | web => 80
  | ftp => 20
  | voip => 3784
  | tftp => 69
  | ping => 0
  | videoStreaming => 8080

def protocol : Application → Protocol
  | web | ftp | tftp | videoStreaming => .tcpV4
  | voip => .udpV4
  | ping => .icmpV4

def trafficClass : Application → TrafficClass
  | voip | videoStreaming => .realTime
  | web | ftp | tftp | ping => .bestEffort

def ofName? (cs : List Char) : Option Application := all.find? fun app => app.name.toList = cs

def ofText (s : String) : Except Fault Application :=
  match ofName? (Text.folded s) with
  | some app => .ok app
  | none => .error (.unknownApplication s)

end Application

end PolicyRouting
