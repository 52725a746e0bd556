/-!
# The schema of the service's records

Every record kind as a table: its fields in the order in which an array of values
fills them, and for each field what its value must look like. All fields are
optional. A field may inline another record or refer to it; reading a record by
this table is one function for all kinds (`Shape.read`).
-/

namespace CloudInventory

/-- The kinds of records. -/
inductive RecordKind where
  | owner
  | drive
  | license
  | driveLicense
  | server
  | serverDrive
  | serverRuntime
  | nic
  | nicStats
  | ioStats
  | ipConfiguration
  | firewallPolicy
  | firewallRule
  | vlan
  | ip
  | tag
  | tagResource
  | subscription
  | pricing
  | balance
  | discount
  | transaction
  | usage
  | usageRecord
  | profile
  deriving DecidableEq, Repr

/-- What the value of a field must look like. -/
inductive Shape where
  /-- A string. -/
  | text
  /-- A truth value. -/
  | flag
  /-- A number, or text in the place of one. -/
  | scalar
  /-- An object with any members. -/
  | freeform
  /-- A list of values of one shape. -/
  | list (item : Shape)
  /-- An object whose members are all records of one kind. -/
  | table (kind : RecordKind)
  /-- An inline record. -/
  | record (kind : RecordKind)
  /-- A record, or a bare identifier in the place of one. -/
  | reference (kind : RecordKind)
  deriving DecidableEq, Repr

namespace RecordKind

/-- The name of the kind in messages. -/
def typeName : RecordKind → String
  | owner => "WireOwner"
  | drive => "WireDrive"
  | license => "WireLicense"
  | driveLicense => "WireDriveLicense"
  | server => "WireServer"
  | serverDrive => "WireServerDrive"
  | serverRuntime => "WireServerRuntime"
  | nic => "WireNic"
  | nicStats => "WireNicStats"
  | ioStats => "WireIoStats"
  | ipConfiguration => "WireIpConfiguration"
  | firewallPolicy => "WireFirewallPolicy"
  | firewallRule => "WireFirewallRule"
  | vlan => "WireVlan"
  | ip => "WireIp"
  | tag => "WireTag"
  | tagResource => "WireTagResource"
  | subscription => "WireSubscription"
  | pricing => "WirePricing"
  | balance => "WireBalance"
  | discount => "WireDiscount"
  | transaction => "WireTransaction"
  | usage => "WireUsage"
  | usageRecord => "WireUsageRecord"
  | profile => "WireProfile"

/-- The field that a bare identifier stands for. -/
def identity : RecordKind → String
  | subscription => "id"
  | _ => "uuid"

/-- The fields of a kind in the order of an array of values. -/
def fields : RecordKind → List (String × Shape)
  | owner => [("uuid", .text), ("resource_uri", .text), ("email", .text)]
  | drive => [
      ("uuid", .text), ("resource_uri", .text), ("owner", .record owner), ("status", .text),
      ("name", .text), ("size", .scalar), ("media", .text), ("allow_multimount", .flag),
      ("affinities", .list .text), ("licenses", .list (.record driveLicense)),
      ("meta", .freeform), ("mounted_on", .list (.reference server)),
      ("tags", .list (.reference tag)), ("storage_type", .text), ("arch", .text),
      ("category", .list .text), ("description", .text), ("favorite", .flag),
      ("image_type", .text), ("install_notes", .text), ("os", .text), ("paid", .flag),
      ("url", .text)]
  | license => [
      ("burstable", .flag), ("long_name", .text), ("name", .text), ("resource_uri", .text),
      ("type", .text), ("user_metric", .text)]
  | driveLicense => [
      ("amount", .scalar), ("license", .record license), ("user", .record owner)]
  | server => [
      ("uuid", .text), ("resource_uri", .text), ("owner", .record owner), ("name", .text),
      ("status", .text), ("runtime", .record serverRuntime), ("cpu", .scalar),
      ("cpus_instead_of_cores", .flag), ("drives", .list (.record serverDrive)),
      ("enable_numa", .flag), ("hv_relaxed", .flag), ("hv_tsc", .flag), ("mem", .scalar),
      ("meta", .freeform), ("nics", .list (.record nic)), ("requirements", .list .text),
      ("tags", .list (.reference tag)), ("vnc_password", .text), ("smp", .scalar),
      ("context", .flag)]
  | serverDrive => [
      ("boot_order", .scalar), ("dev_channel", .text), ("device", .text),
      ("drive", .reference drive)]
  | serverRuntime => [
      ("active_since", .text), ("nics", .list (.record nicStats)), ("status", .text)]
  | nic => [
      ("boot_order", .scalar), ("firewall_policy", .reference firewallPolicy),
      ("ip_v4_conf", .record ipConfiguration), ("ip_v6_conf", .record ipConfiguration),
      ("mac", .text), ("model", .text), ("runtime", .record nicStats),
      ("vlan", .reference vlan)]
  | nicStats => [
      ("interface_type", .text), ("io", .record ioStats), ("ip_v4", .reference ip),
      ("ip_v6", .reference ip), ("mac", .text)]
  | ioStats => [
      ("bytes_recv", .scalar), ("bytes_sent", .scalar), ("packets_recv", .scalar),
      ("packets_sent", .scalar)]
  | ipConfiguration => [("conf", .text), ("ip", .reference ip)]
  | firewallPolicy => [
      ("uuid", .text), ("resource_uri", .text), ("owner", .record owner), ("name", .text),
      ("meta", .freeform), ("rules", .list (.record firewallRule)),
      ("servers", .list (.reference server)), ("tags", .list (.reference tag))]
  | firewallRule => [
      ("action", .text), ("comment", .text), ("direction", .text), ("dst_ip", .text),
      ("dst_port", .scalar), ("ip_proto", .text), ("src_ip", .text), ("src_port", .scalar)]
  | vlan => [
      ("uuid", .text), ("resource_uri", .text), ("owner", .record owner), ("meta", .freeform),
      ("servers", .list (.reference server)), ("subscription", .reference subscription),
      ("tags", .list (.reference tag))]
  | ip => [
      ("uuid", .text), ("resource_uri", .text), ("owner", .record owner),
      ("server", .reference server), ("meta", .freeform),
      ("subscription", .reference subscription), ("tags", .list (.reference tag)),
      ("nameservers", .list .text), ("netmask", .scalar), ("gateway", .text)]
  | tag => [
      ("uuid", .text), ("resource_uri", .text), ("owner", .record owner), ("name", .text),
      ("meta", .freeform), ("resources", .list (.reference tagResource))]
  | tagResource => [
      ("uuid", .text), ("resource_uri", .text), ("owner", .record owner), ("res_type", .text)]
  | subscription => [
      ("id", .scalar), ("uuid", .text), ("resource_uri", .text), ("amount", .scalar),
      ("auto_renew", .flag), ("descendants", .list (.reference subscription)),
      ("discount_amount", .scalar), ("discount_percent", .scalar), ("start_time", .text),
      ("end_time", .text), ("last_notification", .text), ("period", .text), ("price", .scalar),
      ("remaining", .scalar), ("resource", .text), ("status", .text),
      ("subscribed_object", .text)]
  | pricing => [
      ("id", .scalar), ("currency", .text), ("level", .scalar), ("multiplier", .scalar),
      ("price", .scalar), ("resource", .text), ("unit", .text)]
  | balance => [("balance", .scalar), ("currency", .text)]
  | discount => [("period", .text), ("value", .scalar)]
  | transaction => [
      ("id", .scalar), ("amount", .scalar), ("billing_cycle", .scalar), ("initial", .scalar),
      ("reason", .text), ("start", .text), ("end", .text), ("time", .text)]
  | usage => [("balance", .record balance), ("usage", .table usageRecord)]
  | usageRecord => [("burst", .scalar), ("subscribed", .scalar), ("using", .scalar)]
  | profile => [
      ("uuid", .text), ("resource_uri", .text), ("email", .text), ("first_name", .text),
      ("last_name", .text), ("nickname", .text), ("title", .text), ("company", .text),
      ("address", .text), ("town", .text), ("postcode", .text), ("state", .text),
      ("country", .text), ("phone", .text), ("vat", .text), ("bank_reference", .text),
      ("currency", .text), ("language", .text), ("reseller", .text), ("my_notes", .text),
      ("api_https_only", .flag), ("key_auth", .flag), ("mailing_list", .flag),
      ("autotopup_amount", .scalar), ("autotopup_threshold", .scalar), ("signup_time", .text),
      ("meta", .freeform)]

/-- The shape of a field; `none` for a name that is no field of the kind. -/
def field? (kind : RecordKind) (name : String) : Option Shape :=
  kind.fields.lookup name

end RecordKind

end CloudInventory
