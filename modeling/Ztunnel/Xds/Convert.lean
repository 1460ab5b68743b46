/-
  Ztunnel.Xds.Convert

  The conversions from xDS resources to the proxy's own records
  (src/state/workload.rs, src/state/service.rs, src/rbac.rs), with their
  error paths: `TryFrom<XdsWorkload> for (Workload, HashMap<String,
  PortList>)`, `TryFrom<&XdsService> for Service` and
  `TryFrom<XdsRbac> for Authorization`, and the pieces they are built from.

  A prost enum is decoded from its `int32` by `Enum::try_from`, which fails
  with `UnknownEnumValue` on a value the enum does not name; `?` turns that
  into `WorkloadError::EnumError`.  `enumTryFrom` is that decoding over the
  enum's table of values, composed with the crate's `From` impl into its own
  enum where there is one.
-/

import Ztunnel.State.Service
import Ztunnel.Rbac.Authorization
import Ztunnel.Xds.Types
import Ztunnel.Lib.Except

namespace Ztunnel

/-- `state::workload::WorkloadError`, the variants the conversions raise. -/
inductive WorkloadError where
  /-- "failed to parse namespaced hostname: {0}" -/
  | NamespacedHostnameParse (s : String)
  /-- "failed to parse address, had {0} bytes" -/
  | ByteAddressParse (n : Nat)
  /-- "invalid cidr: {0}", from `ipnet::PrefixLenError` -/
  | PrefixParse
  /-- "unknown enum: {0}" -/
  | EnumParse (s : String)
  /-- "nonempty gateway address is missing address" -/
  | MissingGatewayAddress
  /-- "decode error: {0}", from `prost::UnknownEnumValue` -/
  | EnumError (v : Int32)
  deriving DecidableEq, Repr

/-- A prost enum's `try_from(i32)` over its table of values. -/
def enumTryFrom {α : Type} (table : List (Int32 × α)) (v : Int32) : Except WorkloadError α :=
  match table.lookup v with
  | some a => .ok a
  | none => .error (.EnumError v)

/-- The network-order bits of a byte string. -/
def bytesToBits (w : Nat) (bs : List UInt8) : BitVec w :=
  bs.foldl (fun acc b => (acc <<< 8) ||| b.toBitVec.setWidth w) 0

def byte_to_ip (b : List UInt8) : Except WorkloadError IpAddr :=
  match b.length with
  | 4 => .ok (.V4 (bytesToBits 32 b))
  | 16 => .ok (.V6 (bytesToBits 128 b))
  | n => .error (.ByteAddressParse n)

/-- `NamespacedHostname::from_str`: the text before the first `/` is the
    namespace. -/
def NamespacedHostname.from_str (value : String) : Except WorkloadError NamespacedHostname :=
  match splitOnce value '/' with
  | some (ns, hostname) => .ok { «namespace» := ns, hostname := hostname }
  | none => .error (.NamespacedHostnameParse value)

/-- `From<&PortList> for HashMap<u16, u16>`: a later port of the same
    service port wins. -/
def portListInto (value : List Xds.Port) : HashMap UInt16 UInt16 :=
  value.foldl (fun m p => m.insert p.service_port.toUInt16 p.target_port.toUInt16) ∅

def GatewayAddress.try_from (value : Xds.GatewayAddress) : Except WorkloadError GatewayAddress :=
  match value.destination with
  | some (.Address addr) => do
    let ip ← byte_to_ip addr.address
    pure { destination := .Address (network_addr addr.network ip),
           hbone_mtls_port := value.hbone_mtls_port.toUInt16 }
  | some (.Hostname hn) =>
    pure { destination := .Hostname { «namespace» := hn.namespace, hostname := hn.hostname },
           hbone_mtls_port := value.hbone_mtls_port.toUInt16 }
  | none => .error .MissingGatewayAddress

def ApplicationTunnel.try_from (value : Xds.ApplicationTunnel) :
    Except WorkloadError ApplicationTunnel := do
  let protocol ← enumTryFrom [(0, .NONE), (1, .PROXY)] value.protocol
  pure { protocol := protocol, port := if value.port = 0 then none else some value.port.toUInt16 }

/-- `resource.workload_type().as_str_name().to_lowercase()`: prost's getter
    reads an unknown value as the default, `DEPLOYMENT`. -/
def workloadTypeName (v : Int32) : String :=
  if v = 1 then "cronjob" else if v = 2 then "pod" else if v = 3 then "job" else "deployment"

/-- A services key `namespace/hostname` of a workload. -/
def parseServiceKey (namespaced_host : String) : Except WorkloadError NamespacedHostname :=
  match splitOnce namespaced_host '/' with
  | some (ns, hostname) => .ok { «namespace» := ns, hostname := hostname }
  | none => .error (.NamespacedHostnameParse namespaced_host)

/-- `TryFrom<XdsWorkload> for (Workload, HashMap<String, PortList>)`: the
    workload, and the services map handed back unconverted. -/
def Workload.try_from (resource : Xds.Workload) :
    Except WorkloadError (Workload × HashMap String Xds.PortList) := do
  let wp ← resource.waypoint.mapM GatewayAddress.try_from
  let network_gw ← resource.network_gateway.mapM GatewayAddress.try_from
  let application_tunnel ← resource.application_tunnel.mapM ApplicationTunnel.try_from
  let addresses ← resource.addresses.mapM byte_to_ip
  let workload_type := workloadTypeName resource.workload_type
  let services ← resource.services.keys.mapM parseServiceKey
  let protocol ← enumTryFrom [(0, .TCP), (1, .HBONE)] resource.tunnel_protocol
  let network_mode ← enumTryFrom [(0, .Standard), (1, .HostNetwork)] resource.network_mode
  let status ← enumTryFrom [(0, .Healthy), (1, .Unhealthy)] resource.status
  let wl : Workload :=
    { workload_ips := addresses
      waypoint := wp
      network_gateway := network_gw
      protocol := protocol
      network_mode := network_mode
      uid := resource.uid
      name := resource.name
      «namespace» := resource.namespace
      trust_domain := if resource.trust_domain.isEmpty then "cluster.local" else resource.trust_domain
      service_account :=
        if resource.service_account.isEmpty then "default" else resource.service_account
      node := resource.node
      hostname := resource.hostname
      network := resource.network
      workload_name := resource.workload_name
      workload_type := workload_type
      canonical_name := resource.canonical_name
      canonical_revision := resource.canonical_revision
      status := status
      native_tunnel := resource.native_tunnel
      application_tunnel := application_tunnel
      authorization_policies := resource.authorization_policies
      locality := (resource.locality.map fun l =>
        { region := l.region, zone := l.zone, subzone := l.subzone }).getD ⟨"", "", ""⟩
      cluster_id := if resource.cluster_id.isEmpty then "Kubernetes" else resource.cluster_id
      capacity := resource.capacity.getD 1
      services := services }
  pure (wl, resource.services)

/-- prost's `load_balancing::Scope::try_from`, then
    `LoadBalancerScopes::try_from`, which rejects the unspecified scope. -/
def LoadBalancerScopes.try_from (r : Int32) : Except WorkloadError LoadBalancerScopes := do
  let r ← enumTryFrom [(0, none), (1, some .Region), (2, some .Zone), (3, some .Subzone),
    (4, some .Node), (5, some .Cluster), (6, some .Network)] r
  match r with
  | some scope => pure scope
  | none => throw (.EnumParse "invalid target")

def Service.try_from (s : Xds.Service) : Except WorkloadError Service := do
  let nw_addrs ← s.addresses.mapM fun addr => do
    let ip ← byte_to_ip addr.address
    pure (network_addr addr.network ip)
  let waypoint ← s.waypoint.mapM GatewayAddress.try_from
  let lb ← s.load_balancing.mapM fun lb => do
    let routing_preferences ← lb.routing_preference.mapM LoadBalancerScopes.try_from
    let mode ← enumTryFrom [(0, .Standard), (1, .Strict), (2, .Failover)] lb.mode
    let health_policy ← enumTryFrom [(0, .OnlyHealthy), (1, .AllowAll)] lb.health_policy
    pure { routing_preferences := routing_preferences, mode := mode,
           health_policy := health_policy }
  let ip_families ← enumTryFrom [(0, none), (1, some .IPv4), (2, some .IPv6), (3, some .Dual)]
    s.ip_families
  pure { name := s.name
         «namespace» := s.namespace
         hostname := s.hostname
         vips := nw_addrs
         ports := portListInto s.ports
         -- populated once inserted into the store
         endpoints := EndpointSet.empty
         subject_alt_names := s.subject_alt_names
         waypoint := waypoint
         load_balancer := lb
         ip_families := ip_families }

/-- A converted service has the resource's name and no endpoints yet. -/
theorem Service.try_from_spec {s : Xds.Service} {svc : Service}
    (h : Service.try_from s = .ok svc) :
    svc.namespaced_hostname = { «namespace» := s.namespace, hostname := s.hostname } ∧
      svc.endpoints = EndpointSet.empty := by
  unfold Service.try_from at h
  obtain ⟨_, -, h⟩ := except_bind_eq_ok.mp h
  obtain ⟨_, -, h⟩ := except_bind_eq_ok.mp h
  obtain ⟨_, -, h⟩ := except_bind_eq_ok.mp h
  obtain ⟨_, -, h⟩ := except_bind_eq_ok.mp h
  cases h
  exact ⟨rfl, rfl⟩

-- ============================================================================
-- Authorization policies
-- ============================================================================

/-- `From<&XdsStringMatch> for Option<StringMatch>`: a match without a type
    is dropped. -/
def StringMatch.from_xds (resource : Xds.StringMatch) : Option StringMatch :=
  resource.match_type.map fun
    | .Exact s => .Exact s
    | .Prefix s => .Prefix s
    | .Suffix s => .Suffix s
    | .Presence => .Presence

def ServiceAccountMatch.from_xds (resource : Xds.ServiceAccountMatch) : ServiceAccountMatch :=
  { «namespace» := resource.namespace, service_account := resource.service_account }

/-- `IpNet::new`, which rejects a prefix longer than the address. -/
def IpNet.new (ip : IpAddr) (prefix_len : UInt8) : Except WorkloadError IpNet :=
  if h : prefix_len.toNat ≤ ip.max_prefix_len then .ok ⟨ip, prefix_len.toNat, h⟩
  else .error .PrefixParse

def IpNet.try_from (resource : Xds.SecurityAddress) : Except WorkloadError IpNet := do
  let ip ← byte_to_ip resource.address
  IpNet.new ip resource.length.toUInt8

/-- `TryFrom<&Match> for RbacMatch`: it never fails; an address that does
    not convert is dropped. -/
def RbacMatch.try_from (resource : Xds.Match) : Except WorkloadError RbacMatch :=
  .ok { namespaces := resource.namespaces.filterMap StringMatch.from_xds
        not_namespaces := resource.not_namespaces.filterMap StringMatch.from_xds
        service_accounts := resource.service_accounts.map ServiceAccountMatch.from_xds
        not_service_accounts := resource.not_service_accounts.map ServiceAccountMatch.from_xds
        principals := resource.principals.filterMap StringMatch.from_xds
        not_principals := resource.not_principals.filterMap StringMatch.from_xds
        source_ips := resource.source_ips.filterMap fun a => (IpNet.try_from a).toOption
        not_source_ips := resource.not_source_ips.filterMap fun a => (IpNet.try_from a).toOption
        destination_ips := resource.destination_ips.filterMap fun a => (IpNet.try_from a).toOption
        not_destination_ips :=
          resource.not_destination_ips.filterMap fun a => (IpNet.try_from a).toOption
        destination_ports := resource.destination_ports.map (·.toUInt16)
        not_destination_ports := resource.not_destination_ports.map (·.toUInt16) }

def Authorization.try_from (resource : Xds.Authorization) : Except WorkloadError Authorization := do
  let rules ← resource.rules.mapM fun r =>
    r.clauses.mapM fun c => c.matches.mapM RbacMatch.try_from
  let scope ← enumTryFrom [(0, .Global), (1, .Namespace), (2, .WorkloadSelector)] resource.scope
  let action ← enumTryFrom [(0, .Allow), (1, .Deny)] resource.action
  pure { name := resource.name, «namespace» := resource.namespace, scope := scope,
         action := action, rules := rules }

-- ============================================================================
-- The services keys
-- ============================================================================

theorem parseServiceKey_eq_ok {k : String} {nh : NamespacedHostname} :
    parseServiceKey k = .ok nh ↔ splitOnce k '/' = some (nh.namespace, nh.hostname) := by
  unfold parseServiceKey
  obtain ⟨ns, hostname⟩ := nh
  split
  · rename_i ns' hostname' heq
    rw [heq]
    simp
  · rename_i heq
    simp [heq]

/-- A key that parses to a name is that name's display form. -/
theorem parseServiceKey_eq_ok_to_string {k : String} {nh : NamespacedHostname}
    (h : parseServiceKey k = .ok nh) : k = nh.to_string := by
  apply String.toList_inj.mp
  rw [splitOnce_eq_some (parseServiceKey_eq_ok.mp h), NamespacedHostname.to_string,
    String.toList_append, String.toList_append]
  simp

/-- A converted workload keeps the resource's UID, lists the names the keys
    of its services map parse to, and hands the map back as it was. -/
theorem Workload.try_from_spec {resource : Xds.Workload} {wl : Workload}
    {services : HashMap String Xds.PortList} (h : Workload.try_from resource = .ok (wl, services)) :
    services = resource.services ∧ wl.uid = resource.uid ∧
      resource.services.keys.mapM parseServiceKey = .ok wl.services := by
  unfold Workload.try_from at h
  -- peel the binds up to the services keys, then read the result
  obtain ⟨_, -, h⟩ := except_bind_eq_ok.mp h
  obtain ⟨_, -, h⟩ := except_bind_eq_ok.mp h
  obtain ⟨_, -, h⟩ := except_bind_eq_ok.mp h
  obtain ⟨_, -, h⟩ := except_bind_eq_ok.mp h
  obtain ⟨keys, hkeys, h⟩ := except_bind_eq_ok.mp h
  obtain ⟨_, -, h⟩ := except_bind_eq_ok.mp h
  obtain ⟨_, -, h⟩ := except_bind_eq_ok.mp h
  obtain ⟨_, -, h⟩ := except_bind_eq_ok.mp h
  cases h
  exact ⟨rfl, rfl, hkeys⟩

/-- A converted workload's services map is the resource's, and each of its
    keys has a `/`. -/
theorem Workload.try_from_services {resource : Xds.Workload} {wl : Workload}
    {services : HashMap String Xds.PortList} (h : Workload.try_from resource = .ok (wl, services)) :
    services = resource.services ∧ ∀ k ∈ services.keys, (splitOnce k '/').isSome := by
  obtain ⟨rfl, -, hkeys⟩ := Workload.try_from_spec h
  refine ⟨rfl, fun k hk => ?_⟩
  obtain ⟨nh, hnh⟩ := except_mapM_ok hkeys k hk
  simp [parseServiceKey_eq_ok.mp hnh]

/-- The services a converted workload lists are the names of its map's keys. -/
theorem Workload.mem_services_of_try_from {resource : Xds.Workload} {wl : Workload}
    {services : HashMap String Xds.PortList} (h : Workload.try_from resource = .ok (wl, services))
    (nh : NamespacedHostname) :
    nh ∈ wl.services ↔ ∃ k ∈ services.keys, parseServiceKey k = .ok nh := by
  obtain ⟨rfl, -, hkeys⟩ := Workload.try_from_spec h
  exact except_mapM_ok_mem hkeys nh

end Ztunnel
