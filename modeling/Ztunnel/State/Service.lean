/-
  Ztunnel.State.Service

  The service half of the proxy's state (src/state/service.rs): the
  `Service` record with its endpoint set, and the `ServiceStore` with

    * `by_host` — hostname to the services of that hostname, at most one
      per namespace (`ServiceEntry` may reuse a hostname across namespaces);
    * `by_vip` — virtual IP to the service holding it;
    * `staged_services` — endpoints of services not received yet, keyed by
      the namespaced hostname the workload named.

  `Arc<Service>` is modelled by the service value: the code never compares
  pointers, so two copies are told apart only by their contents.  Rust's
  `HashSet` of services to update in `remove_endpoint` is the deduplicated
  list of the workload's services; updates of distinct services commute.
-/

import Ztunnel.State.Workload
import Mathlib.Data.List.Dedup

namespace Ztunnel

-- ============================================================================
-- Services and endpoints
-- ============================================================================

inductive LoadBalancerMode where
  | Standard
  | Strict
  | Failover
  deriving DecidableEq, Repr

inductive LoadBalancerHealthPolicy where
  | OnlyHealthy
  | AllowAll
  deriving DecidableEq, Repr

inductive LoadBalancerScopes where
  | Region
  | Zone
  | Subzone
  | Node
  | Cluster
  | Network
  deriving DecidableEq, Repr

structure LoadBalancer where
  routing_preferences : List LoadBalancerScopes
  mode : LoadBalancerMode
  health_policy : LoadBalancerHealthPolicy
  deriving DecidableEq, Repr

inductive IpFamily where
  | Dual
  | IPv4
  | IPv6
  deriving DecidableEq, Repr

/-- Whether the family admits the address. -/
def IpFamily.accepts_ip : IpFamily → IpAddr → Bool
  | Dual, _ => true
  | IPv4, ip => ip.is_ipv4
  | IPv6, ip => ip.is_ipv6

structure Endpoint where
  workload_uid : String
  port : HashMap UInt16 UInt16
  status : HealthStatus
  deriving DecidableEq

/-- Endpoints of a service by workload UID. -/
structure EndpointSet where
  inner : HashMap String Endpoint
  deriving DecidableEq

namespace EndpointSet

def empty : EndpointSet := ⟨∅⟩

def insert (self : EndpointSet) (k : String) (v : Endpoint) : EndpointSet :=
  ⟨self.inner.insert k v⟩

def contains (self : EndpointSet) (key : String) : Bool :=
  (self.inner.lookup key).isSome

def get (self : EndpointSet) (key : String) : Option Endpoint :=
  self.inner.lookup key

def remove (self : EndpointSet) (key : String) : EndpointSet :=
  ⟨self.inner.erase key⟩

/-- The endpoints, in iteration order. -/
def iter (self : EndpointSet) : List Endpoint :=
  self.inner.entries.map Sigma.snd

end EndpointSet

structure Service where
  name : String
  «namespace» : String
  hostname : String
  vips : List NetworkAddress
  ports : HashMap UInt16 UInt16
  endpoints : EndpointSet
  subject_alt_names : List String
  waypoint : Option GatewayAddress
  load_balancer : Option LoadBalancer
  ip_families : Option IpFamily
  deriving DecidableEq

namespace Service

def namespaced_hostname (self : Service) : NamespacedHostname :=
  { «namespace» := self.namespace, hostname := self.hostname }

def contains_endpoint (self : Service) (wl : Workload) : Bool :=
  self.endpoints.contains wl.uid

def should_include_endpoint (self : Service) (ep_health : HealthStatus) : Bool :=
  ep_health == .Healthy ||
    (self.load_balancer.map fun lb => lb.health_policy == .AllowAll).getD false

end Service

-- ============================================================================
-- ServiceStore
-- ============================================================================

structure ServiceStore where
  staged_services : HashMap NamespacedHostname (HashMap String Endpoint)
  by_vip : HashMap NetworkAddress Service
  by_host : HashMap String (List Service)

namespace ServiceStore

def default : ServiceStore :=
  { staged_services := ∅, by_vip := ∅, by_host := ∅ }

def get_by_vip (self : ServiceStore) (vip : NetworkAddress) : Option Service :=
  self.by_vip.lookup vip

def get_by_host (self : ServiceStore) (hostname : String) : Option (List Service) :=
  self.by_host.lookup hostname

/-- The service of the requested namespace among those of the hostname. -/
def get_by_namespaced_host (self : ServiceStore) (host : NamespacedHostname) :
    Option Service :=
  match self.by_host.lookup host.hostname with
  | none => none
  | some services => services.find? fun service => service.namespace == host.namespace

def get_by_workload (self : ServiceStore) (workload : Workload) : List Service :=
  workload.services.filterMap self.get_by_namespaced_host

/-- Removes the service of the namespaced host; the flag says whether one
    was found. -/
def remove (self : ServiceStore) (namespaced_host : NamespacedHostname) :
    ServiceStore × Bool :=
  match self.by_host.lookup namespaced_host.hostname with
  | none => (self, false)
  | some services =>
    let isTarget := fun (s : Service) => s.namespace == namespaced_host.namespace
    match services.find? isTarget with
    | none => (self, false)
    | some prev =>
      let services := services.eraseP isTarget
      let by_host :=
        if services.isEmpty then self.by_host.erase namespaced_host.hostname
        else self.by_host.insert namespaced_host.hostname services
      ({ by_host := by_host,
         by_vip := prev.vips.foldl (fun m addr => m.erase addr) self.by_vip,
         staged_services := self.staged_services.erase namespaced_host }, true)

/-- The staged endpoints a newly received service accepts. -/
def addStaged (service : Service) (endpoints : HashMap String Endpoint) : Service :=
  endpoints.entries.foldl
    (fun svc e =>
      if svc.should_include_endpoint e.2.status then
        { svc with endpoints := svc.endpoints.insert e.1 e.2 }
      else svc)
    service

/-- The `by_host` slot of a hostname with `service` put in its namespace's
    place, or appended. -/
def placeService (services : List Service) (service : Service) : List Service :=
  match services.findIdx? fun s => s.namespace == service.namespace with
  | some cur => services.set cur service
  | none => services ++ [service]

/-- The tail of `insert_internal`: map the VIPs and the hostname to the
    service. -/
def mapService (self : ServiceStore) (service : Service) : ServiceStore :=
  let hostname := service.hostname
  let by_vip := service.vips.foldl (fun m vip => m.insert vip service) self.by_vip
  let by_host :=
    match self.by_host.lookup hostname with
    | none => self.by_host.insert hostname [service]
    | some services => self.by_host.insert hostname (placeService services service)
  { self with by_vip := by_vip, by_host := by_host }

def insert_internal (self : ServiceStore) (service : Service) (endpoint_update_only : Bool) :
    ServiceStore :=
  let namespaced_hostname := service.namespaced_hostname
  -- a full insert takes the staged endpoints and drops the previous version
  let (self, service) :=
    if !endpoint_update_only then
      match self.staged_services.lookup namespaced_hostname with
      | some endpoints =>
        (({ self with staged_services := self.staged_services.erase namespaced_hostname }.remove
            namespaced_hostname).1, addStaged service endpoints)
      | none => ((self.remove namespaced_hostname).1, service)
    else (self, service)
  self.mapService service

def insert (self : ServiceStore) (service : Service) : ServiceStore :=
  self.insert_internal service false

def insert_endpoint_update (self : ServiceStore) (service : Service) : ServiceStore :=
  self.insert_internal service true

def insert_endpoint (self : ServiceStore) (service_name : NamespacedHostname) (ep : Endpoint) :
    ServiceStore :=
  let ep_uid := ep.workload_uid
  match self.get_by_namespaced_host service_name with
  | some svc =>
    -- the service may or may not accept the endpoint, by its health
    if !svc.should_include_endpoint ep.status then self
    else self.insert_endpoint_update { svc with endpoints := svc.endpoints.insert ep_uid ep }
  | none =>
    -- the workload arrived before its service: stage the endpoint
    { self with
      staged_services := self.staged_services.upsert service_name fun eps =>
        (eps.getD ∅).insert ep_uid ep }

/-- One step of the staged-cleanup loop of `remove_endpoint`. -/
def unstage (workload_uid : String)
    (staged : HashMap NamespacedHostname (HashMap String Endpoint)) (svc : NamespacedHostname) :
    HashMap NamespacedHostname (HashMap String Endpoint) :=
  let eps := ((staged.lookup svc).getD ∅).erase workload_uid
  if eps.entries.isEmpty then staged.erase svc else staged.insert svc eps

/-- One step of the service-update loop of `remove_endpoint`. -/
def dropEndpoint (workload_uid : String) (self : ServiceStore) (svc : NamespacedHostname) :
    ServiceStore :=
  match self.get_by_namespaced_host svc with
  | some s => self.insert_endpoint_update { s with endpoints := s.endpoints.remove workload_uid }
  | none => self

def remove_endpoint (self : ServiceStore) (prev_workload : Workload) : ServiceStore :=
  let workload_uid := prev_workload.uid
  let staged := prev_workload.services.foldl (unstage workload_uid) self.staged_services
  let services_to_update := prev_workload.services.dedup
  services_to_update.foldl (dropEndpoint workload_uid) { self with staged_services := staged }

end ServiceStore

end Ztunnel
