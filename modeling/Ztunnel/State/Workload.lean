/-
  Ztunnel.State.Workload

  The workload half of the proxy's state (src/state/workload.rs): the
  `Workload` record, the per-address slot `WorkloadByAddr`, and the
  `WorkloadStore` with its three indices

    * `by_uid`  — the primary map, UID to workload;
    * `by_addr` — network address to the workloads listening on it;
    * `node_local_by_identity` — (namespace, service account) to the UIDs of
      the workloads of that identity on the local node.

  The store is a value and each method returns the new value; `remove`
  also returns the removed workload, as the Rust method does.  The watch
  channel that `insert` notifies carries no data and is left out.
-/

import Ztunnel.Lib.HashMap
import Ztunnel.Identity.Identity

namespace Ztunnel

-- ============================================================================
-- Addresses and the workload record
-- ============================================================================

inductive Protocol where
  | TCP
  | HBONE
  deriving DecidableEq, Repr

inductive NetworkMode where
  | Standard
  | HostNetwork
  deriving DecidableEq, Repr

inductive HealthStatus where
  | Healthy
  | Unhealthy
  deriving DecidableEq, Repr

structure Locality where
  region : String
  zone : String
  subzone : String
  deriving DecidableEq, Repr

/-- Rust's `std::net::IpAddr`, by the address bits in network order. -/
inductive IpAddr where
  | V4 (bits : BitVec 32)
  | V6 (bits : BitVec 128)
  deriving DecidableEq, Repr

def IpAddr.is_ipv4 : IpAddr → Bool
  | V4 _ => true
  | V6 _ => false

def IpAddr.is_ipv6 : IpAddr → Bool
  | V4 _ => false
  | V6 _ => true

structure NetworkAddress where
  network : String
  address : IpAddr
  deriving DecidableEq, Repr

def network_addr (network : String) (vip : IpAddr) : NetworkAddress :=
  { network := network, address := vip }

structure NamespacedHostname where
  «namespace» : String
  hostname : String
  deriving DecidableEq, Repr

/-- `Display for NamespacedHostname`: `{namespace}/{hostname}`, the form that
    keys a workload resource's services map. -/
def NamespacedHostname.to_string (nh : NamespacedHostname) : String :=
  nh.namespace ++ "/" ++ nh.hostname

/-- `gatewayaddress::Destination`. -/
inductive Destination where
  | Address (a : NetworkAddress)
  | Hostname (h : NamespacedHostname)
  deriving DecidableEq, Repr

structure GatewayAddress where
  destination : Destination
  hbone_mtls_port : UInt16
  deriving DecidableEq, Repr

/-- `application_tunnel::Protocol`. -/
inductive TunnelProtocol where
  | NONE
  | PROXY
  deriving DecidableEq, Repr

structure ApplicationTunnel where
  protocol : TunnelProtocol
  port : Option UInt16
  deriving DecidableEq, Repr

structure Workload where
  workload_ips : List IpAddr
  waypoint : Option GatewayAddress
  network_gateway : Option GatewayAddress
  protocol : Protocol
  network_mode : NetworkMode
  uid : String
  name : String
  «namespace» : String
  trust_domain : String
  service_account : String
  network : String
  workload_name : String
  workload_type : String
  canonical_name : String
  canonical_revision : String
  hostname : String
  node : String
  native_tunnel : Bool
  application_tunnel : Option ApplicationTunnel
  authorization_policies : List String
  status : HealthStatus
  cluster_id : String
  locality : Locality
  services : List NamespacedHostname
  capacity : UInt32
  deriving DecidableEq, Repr

def Workload.identity (w : Workload) : Identity :=
  .Spiffe w.trust_domain w.namespace w.service_account

/-- The identity without its trust domain, the key of the node-local index. -/
structure WorkloadIdentity where
  «namespace» : String
  service_account : String
  deriving DecidableEq, Repr

/-- `From<&Identity> for WorkloadIdentity`. -/
def WorkloadIdentity.ofIdentity : Identity → WorkloadIdentity
  | .Spiffe _ ns sa => { «namespace» := ns, service_account := sa }

-- ============================================================================
-- WorkloadByAddr
-- ============================================================================

/-- One or several workloads sharing a network address.  The code keeps
    `Many` for two or more; `WF` below says so. -/
inductive WorkloadByAddr where
  | Single (w : Workload)
  | Many (ws : List Workload)
  deriving DecidableEq, Repr

namespace WorkloadByAddr

/-- The workloads in the slot, in order. -/
def workloads : WorkloadByAddr → List Workload
  | Single w => [w]
  | Many ws => ws

def insert (self : WorkloadByAddr) (w : Workload) : WorkloadByAddr :=
  match self with
  | Single workload => Many [workload, w]
  | Many v => Many (v ++ [w])

/-- `remove_uid`: the flag says nothing is left; the slot is the mutated one. -/
def remove_uid (self : WorkloadByAddr) (uid : String) : Bool × WorkloadByAddr :=
  match self with
  | Single wl => (wl.uid == uid, self)
  | Many ws =>
    match ws.filter (fun w => w.uid != uid) with
    | [] => (true, Many [])
    | [wl] => (false, Single wl)
    | rest => (false, Many rest)

/-- Ranking used on an address conflict: pods first, then HBONE. -/
def rank (w : Workload) : Nat :=
  match containsStr w.uid "//Pod/", w.protocol == .HBONE with
  | true, true => 3
  | true, false => 2
  | false, true => 1
  | false, false => 0

/-- Rust's `Iterator::max_by_key`: the last of the maximal elements. -/
def maxByKey {α : Type} (f : α → Nat) : List α → Option α
  | [] => none
  | x :: xs =>
    some (xs.foldl (fun best y => if f best ≤ f y then y else best) x)

/-- `get`; `none` is the panic of its `expect("must have at least one
    workload")`. -/
def get : WorkloadByAddr → Option Workload
  | Single workload => some workload
  | Many workloads => maxByKey rank workloads

/-- The shape the code keeps: `Many` holds at least two workloads. -/
def WF : WorkloadByAddr → Prop
  | Single _ => True
  | Many ws => 2 ≤ ws.length

end WorkloadByAddr

-- ============================================================================
-- WorkloadStore
-- ============================================================================

structure WorkloadStore where
  local_node : Option String
  by_addr : HashMap NetworkAddress WorkloadByAddr
  by_uid : HashMap String Workload
  node_local_by_identity : HashMap WorkloadIdentity (HashSet String)

namespace WorkloadStore

def new (local_node : Option String) : WorkloadStore :=
  { local_node := local_node, by_addr := ∅, by_uid := ∅, node_local_by_identity := ∅ }

/-- The node test shared by `insert` and `was_last_identity_on_node`. -/
def isLocal (s : WorkloadStore) (node : String) : Bool :=
  s.local_node.isNone || s.local_node == some node

/-- One iteration of the address loop of `insert`. -/
def addAddr (w : Workload) (m : HashMap NetworkAddress WorkloadByAddr) (ip : IpAddr) :
    HashMap NetworkAddress WorkloadByAddr :=
  m.upsert (network_addr w.network ip) fun
    | some ws => ws.insert w
    | none => .Single w

/-- One iteration of the address loop of `remove`. -/
def removeAddr (prev : Workload) (m : HashMap NetworkAddress WorkloadByAddr) (wip : IpAddr) :
    HashMap NetworkAddress WorkloadByAddr :=
  let k := network_addr prev.network wip
  match m.lookup k with
  | none => m
  | some o =>
    match o.remove_uid prev.uid with
    | (true, _) => m.erase k
    | (false, o') => m.insert k o'

def remove (s : WorkloadStore) (uid : String) : WorkloadStore × Option Workload :=
  match s.by_uid.lookup uid with
  | none => (s, none)
  | some prev =>
    let by_addr :=
      if prev.network_mode != .HostNetwork then prev.workload_ips.foldl (removeAddr prev) s.by_addr
      else s.by_addr
    let id := WorkloadIdentity.ofIdentity prev.identity
    let node_local_by_identity :=
      match s.node_local_by_identity.lookup id with
      | none => s.node_local_by_identity
      | some set =>
        let set := set.erase prev.uid
        if set = ∅ then s.node_local_by_identity.erase id
        else s.node_local_by_identity.insert id set
    ({ s with by_uid := s.by_uid.erase uid, by_addr := by_addr,
              node_local_by_identity := node_local_by_identity }, some prev)

def insert (s : WorkloadStore) (w : Workload) : WorkloadStore :=
  -- first remove the entry entirely, so that no stale index entry survives
  let s := (s.remove w.uid).1
  let by_addr :=
    if w.network_mode != .HostNetwork then w.workload_ips.foldl (addAddr w) s.by_addr
    else s.by_addr
  let node_local_by_identity :=
    if s.isLocal w.node then
      s.node_local_by_identity.upsert (WorkloadIdentity.ofIdentity w.identity)
        fun set => Insert.insert w.uid (set.getD ∅)
    else s.node_local_by_identity
  { s with by_addr := by_addr, by_uid := s.by_uid.insert w.uid w,
           node_local_by_identity := node_local_by_identity }

def find_address (s : WorkloadStore) (addr : NetworkAddress) : Option Workload :=
  (s.by_addr.lookup addr).bind WorkloadByAddr.get

def find_uid (s : WorkloadStore) (uid : String) : Option Workload :=
  s.by_uid.lookup uid

/-- Called when a workload is removed, with its node and identity: whether
    no workload of that identity is left on the node. -/
def was_last_identity_on_node (s : WorkloadStore) (node_name : String) (identity : Identity) :
    Bool :=
  if s.isLocal node_name then
    !(s.node_local_by_identity.lookup (WorkloadIdentity.ofIdentity identity)).isSome
  else false

/-- The two operations the store is driven by. -/
inductive Op where
  | insert (w : Workload)
  | remove (uid : String)

def apply (s : WorkloadStore) : Op → WorkloadStore
  | .insert w => s.insert w
  | .remove uid => (s.remove uid).1

/-- The state after a sequence of operations. -/
def run (s : WorkloadStore) (ops : List Op) : WorkloadStore :=
  ops.foldl apply s

end WorkloadStore

end Ztunnel
