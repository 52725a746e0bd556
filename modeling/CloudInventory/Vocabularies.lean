import CloudInventory.Token

/-!
# Vocabularies

The enumerated fields of the service's records, with the tokens that it uses for
them. Every type has a last value for tokens that are not known.
-/

namespace CloudInventory

/-- The state of a drive. -/
inductive DriveStatus where
  | mounted
  | unmounted
  | creating
  | resizing
  | copying
  | unavailable
  | unrecognized
  deriving DecidableEq, Repr, Inhabited

instance : Vocabulary DriveStatus where
  known := [(.mounted, "mounted"), (.unmounted, "unmounted"), (.creating, "creating"),
    (.resizing, "resizing"), (.copying, "copying"), (.unavailable, "unavailable")]
  unrecognized := .unrecognized

/-- What a drive appears as. -/
inductive MediaType where
  | disk
  | cdrom
  | unrecognized
  deriving DecidableEq, Repr, Inhabited

instance : Vocabulary MediaType where
  known := [(.disk, "disk"), (.cdrom, "cdrom")]
  unrecognized := .unrecognized

/-- The state of a server. -/
inductive ServerStatus where
  | running
  | starting
  | stopped
  | stopping
  | paused
  | unavailable
  | unrecognized
  deriving DecidableEq, Repr, Inhabited

instance : Vocabulary ServerStatus where
  known := [(.running, "running"), (.starting, "starting"), (.stopped, "stopped"),
    (.stopping, "stopping"), (.paused, "paused"), (.unavailable, "unavailable")]
  unrecognized := .unrecognized

/-- The bus on which a drive is attached. -/
inductive DeviceEmulationType where
  | ide
  | virtio
  | unrecognized
  deriving DecidableEq, Repr, Inhabited

instance : Vocabulary DeviceEmulationType where
  known := [(.ide, "ide"), (.virtio, "virtio")]
  unrecognized := .unrecognized

/-- The card that a network interface emulates. -/
inductive NicModel where
  | virtio
  | e1000
  | rtl8139
  | unrecognized
  deriving DecidableEq, Repr, Inhabited

instance : Vocabulary NicModel where
  known := [(.virtio, "virtio"), (.e1000, "e1000"), (.rtl8139, "rtl8139")]
  unrecognized := .unrecognized

/-- How an interface gets its address. -/
inductive IpConfigurationType where
  | dhcp
  | fixed
  | manual
  | unrecognized
  deriving DecidableEq, Repr, Inhabited

instance : Vocabulary IpConfigurationType where
  known := [(.dhcp, "dhcp"), (.fixed, "static"), (.manual, "manual")]
  unrecognized := .unrecognized

/-- The network that an interface is connected to. -/
inductive InterfaceType where
  | publicNetwork
  | privateNetwork
  | unrecognized
  deriving DecidableEq, Repr, Inhabited

instance : Vocabulary InterfaceType where
  known := [(.publicNetwork, "public"), (.privateNetwork, "private")]
  unrecognized := .unrecognized

/-- What becomes of matching traffic. -/
inductive FirewallAction where
  | accept
  | drop
  | unrecognized
  deriving DecidableEq, Repr, Inhabited

instance : Vocabulary FirewallAction where
  known := [(.accept, "accept"), (.drop, "drop")]
  unrecognized := .unrecognized

/-- The traffic that a rule applies to. -/
inductive FirewallDirection where
  | inbound
  | outbound
  | both
  | unrecognized
  deriving DecidableEq, Repr, Inhabited

instance : Vocabulary FirewallDirection where
  known := [(.inbound, "in"), (.outbound, "out"), (.both, "both")]
  unrecognized := .unrecognized

/-- The transport protocol that a rule applies to. -/
inductive FirewallIpProtocol where
  | tcp
  | udp
  | unrecognized
  deriving DecidableEq, Repr, Inhabited

instance : Vocabulary FirewallIpProtocol where
  known := [(.tcp, "tcp"), (.udp, "udp")]
  unrecognized := .unrecognized

/-- The kind of a tagged resource. -/
inductive TagResourceType where
  | servers
  | drives
  | ips
  | vlans
  | unrecognized
  deriving DecidableEq, Repr, Inhabited

instance : Vocabulary TagResourceType where
  known := [(.servers, "servers"), (.drives, "drives"), (.ips, "ips"), (.vlans, "vlans")]
  unrecognized := .unrecognized

/-- The state of a subscription. -/
inductive SubscriptionStatus where
  | active
  | inactive
  | unrecognized
  deriving DecidableEq, Repr, Inhabited

instance : Vocabulary SubscriptionStatus where
  known := [(.active, "active"), (.inactive, "inactive")]
  unrecognized := .unrecognized

/-- What a subscription pays for. -/
inductive SubscriptionResource where
  | cpu
  | mem
  | tx
  | ip
  | vlan
  | dssd
  | ssd
  | msftLwa00135
  | msftP7304837
  | msftTfa00009
  | msftTfa00523
  | windowsWebServer2008
  | sqlServerStandard2008
  | unrecognized
  deriving DecidableEq, Repr, Inhabited

instance : Vocabulary SubscriptionResource where
  known := [(.cpu, "cpu"), (.mem, "mem"), (.tx, "tx"), (.ip, "ip"), (.vlan, "vlan"),
    (.dssd, "dssd"), (.ssd, "ssd"), (.msftLwa00135, "msft_lwa_00135"),
    (.msftP7304837, "msft_p73_04837"), (.msftTfa00009, "msft_tfa_00009"),
    (.msftTfa00523, "msft_tfa_00523"), (.windowsWebServer2008, "windows_web_server_2008"),
    (.sqlServerStandard2008, "sql_server_standard_2008")]
  unrecognized := .unrecognized

/-- What an image of the drive library is for. -/
inductive ImageType where
  | install
  | preinst
  | unrecognized
  deriving DecidableEq, Repr, Inhabited

instance : Vocabulary ImageType where
  known := [(.install, "install"), (.preinst, "preinst")]
  unrecognized := .unrecognized

namespace ServerStatus

/-- Whether the server uses its resources. -/
def isActive : ServerStatus → Bool
  | .running => true
  | .starting => true
  | _ => false

end ServerStatus

namespace SubscriptionResource

/-- Whether the resource is a software license. -/
def isLicense : SubscriptionResource → Bool
  | .msftLwa00135 => true
  | .msftP7304837 => true
  | .msftTfa00009 => true
  | .msftTfa00523 => true
  | .windowsWebServer2008 => true
  | .sqlServerStandard2008 => true
  | _ => false

end SubscriptionResource

end CloudInventory
