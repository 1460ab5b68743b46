/-
  Ztunnel.Xds.Types

  The xDS resources the proxy receives (src/proto/workload.proto and
  src/proto/authorization.proto), as prost decodes them: scalars keep their
  protobuf types, `bytes` are byte lists, a message field is an `Option`,
  a `oneof` is an `Option` of a sum, a `map` is a `HashMap`, and an enum
  field is its raw `int32`, which may hold a value the enum does not name.
  Only the fields the conversions read are kept.
-/

import Ztunnel.Lib.HashMap

namespace Ztunnel

namespace Xds

-- ============================================================================
-- istio.workload
-- ============================================================================

structure NetworkAddress where
  network : String
  address : List UInt8
  deriving DecidableEq, Repr

structure NamespacedHostname where
  «namespace» : String
  hostname : String
  deriving DecidableEq, Repr

/-- The `destination` oneof of a gateway address. -/
inductive GatewayDestination where
  | Hostname (hn : NamespacedHostname)
  | Address (addr : NetworkAddress)
  deriving DecidableEq, Repr

structure GatewayAddress where
  destination : Option GatewayDestination
  hbone_mtls_port : UInt32
  deriving DecidableEq, Repr

structure ApplicationTunnel where
  protocol : Int32
  port : UInt32
  deriving DecidableEq, Repr

structure Port where
  service_port : UInt32
  target_port : UInt32
  deriving DecidableEq, Repr

structure PortList where
  ports : List Port
  deriving DecidableEq, Repr

structure Locality where
  region : String
  zone : String
  subzone : String
  deriving DecidableEq, Repr

structure Workload where
  uid : String
  name : String
  «namespace» : String
  addresses : List (List UInt8)
  hostname : String
  network : String
  tunnel_protocol : Int32
  trust_domain : String
  service_account : String
  waypoint : Option GatewayAddress
  network_gateway : Option GatewayAddress
  node : String
  canonical_name : String
  canonical_revision : String
  workload_type : Int32
  workload_name : String
  native_tunnel : Bool
  application_tunnel : Option ApplicationTunnel
  services : HashMap String PortList
  authorization_policies : List String
  status : Int32
  cluster_id : String
  locality : Option Locality
  network_mode : Int32
  capacity : Option UInt32

structure LoadBalancing where
  routing_preference : List Int32
  mode : Int32
  health_policy : Int32
  deriving DecidableEq, Repr

structure Service where
  name : String
  «namespace» : String
  hostname : String
  addresses : List NetworkAddress
  ports : List Port
  subject_alt_names : List String
  waypoint : Option GatewayAddress
  load_balancing : Option LoadBalancing
  ip_families : Int32
  deriving DecidableEq, Repr

/-- The `type` oneof of an `Address` resource. -/
inductive AddressType where
  | Workload (w : Workload)
  | Service (s : Service)

structure Address where
  type : Option AddressType

-- ============================================================================
-- istio.security
-- ============================================================================

/-- The `match_type` oneof of a string match. -/
inductive MatchType where
  | Exact (s : String)
  | Prefix (s : String)
  | Suffix (s : String)
  | Presence
  deriving DecidableEq, Repr

structure StringMatch where
  match_type : Option MatchType
  deriving DecidableEq, Repr

structure ServiceAccountMatch where
  «namespace» : String
  service_account : String
  deriving DecidableEq, Repr

structure SecurityAddress where
  address : List UInt8
  length : UInt32
  deriving DecidableEq, Repr

structure Match where
  namespaces : List StringMatch
  not_namespaces : List StringMatch
  service_accounts : List ServiceAccountMatch
  not_service_accounts : List ServiceAccountMatch
  principals : List StringMatch
  not_principals : List StringMatch
  source_ips : List SecurityAddress
  not_source_ips : List SecurityAddress
  destination_ips : List SecurityAddress
  not_destination_ips : List SecurityAddress
  destination_ports : List UInt32
  not_destination_ports : List UInt32
  deriving DecidableEq, Repr

structure Clause where
  «matches» : List Match
  deriving DecidableEq, Repr

structure Rule where
  clauses : List Clause
  deriving DecidableEq, Repr

structure Authorization where
  name : String
  «namespace» : String
  scope : Int32
  action : Int32
  rules : List Rule
  deriving DecidableEq, Repr

end Xds

end Ztunnel
