/-
  Ztunnel.State.Demand

  The lookups that route a connection (src/state.rs).  On one state,
  `ProxyState::find_address` (a workload at the address, else a service
  with it as a VIP), `find_hostname` (a service, else the first workload
  of that hostname and namespace), `find_destination`,
  `find_service_by_hostname` and `find_upstream` (a service VIP first,
  load balanced, then a workload at the address).  Over it, the
  `DemandProxyState` methods that pick the IP to connect to
  (`pick_workload_destination_or_resolve`, with DNS for a workload known
  by hostname only), make an `Upstream` of what was found
  (`finalize_upstream`) and resolve a waypoint (`fetch_waypoint`, by
  address or by hostname).

  On-demand xDS is not modelled: the `DemandProxyState` has no demander,
  so each `fetch_*` method reads the state once and a miss stays a miss,
  and every read within one call sees the same state.  The DNS resolver
  is a function from a hostname to the addresses of its answer, `none`
  when the lookup fails.  The random choices (the endpoint of a service,
  the resolved address) are a `WeightedChoice` each; `choose` on an
  iterator is the choice with weight one.  Metrics and logs are left out.
-/

import Ztunnel.Dns.Server
import Ztunnel.State.LoadBalance

namespace Ztunnel

namespace Proxy

/-- The text of `Error::UnknownWaypoint`: `"waypoint {hostname} not found"`
    for a waypoint hostname that names nothing, and
    `"waypoint {gw_address:?} not found"` for a waypoint without an
    upstream, kept as the address its `Debug` prints. -/
inductive WaypointNotFound where
  | hostname (hostname : String)
  | gateway (gw_address : GatewayAddress)
  deriving DecidableEq, Repr

/-- The variants of `proxy::Error` that routing a connection returns. -/
inductive Error where
  /-- "unknown waypoint: {0}" -/
  | UnknownWaypoint (msg : WaypointNotFound)
  /-- "no service or workload for hostname: {0}" -/
  | NoHostname (hostname : String)
  /-- "no valid routing destination for workload: {0}" -/
  | NoValidDestination (wl : Workload)
  /-- "no healthy upstream: {0}" -/
  | NoHealthyUpstream (addr : SocketAddr)
  /-- "no ip addresses were resolved for workload: {0}" -/
  | NoResolvedAddresses (uid : String)
  /-- "requested service {0}:{1} found, but cannot resolve port" -/
  | NoPortForServices (hostname : String) (port : UInt16)
  /-- "requested service {0} found, but has no IP addresses" -/
  | NoIPForService (hostname : String)
  /-- "ip addresses were resolved for workload {0}, but valid dns response
      had no A/AAAA records" -/
  | EmptyResolvedAddresses (uid : String)
  /-- "attempted recursive call to ourselves" -/
  | SelfCall
  /-- "ip mismatch: {0} != {1}" -/
  | IPMismatch (dst hbone : IpAddr)
  deriving DecidableEq

end Proxy

open Dns (Address)

structure ServiceDescription where
  hostname : String
  name : String
  «namespace» : String
  deriving DecidableEq, Repr

/-- `From<&Service> for ServiceDescription`. -/
def ServiceDescription.ofService (value : Service) : ServiceDescription :=
  { hostname := value.hostname, name := value.name, «namespace» := value.namespace }

/-- A workload to connect to, with the address chosen for it. -/
structure Upstream where
  workload : Workload
  selected_workload_ip : IpAddr
  port : UInt16
  /-- the SANs of the service, when the workload was found through one -/
  service_sans : List String
  destination_service : Option ServiceDescription
  deriving DecidableEq

namespace Upstream

def workload_socket_addr (self : Upstream) : SocketAddr :=
  ⟨self.selected_workload_ip, self.port⟩

/-- The identities the upstream may present: the service SANs that parse,
    then the workload's own. -/
def workload_and_services_san (self : Upstream) : List Identity :=
  self.service_sans.filterMap (fun san =>
    match Identity.from_str san with
    | .ok id => some id
    | .error _ => none) ++ [self.workload.identity]

theorem identity_mem_workload_and_services_san (self : Upstream) :
    self.workload.identity ∈ self.workload_and_services_san := by
  simp [workload_and_services_san]

end Upstream

namespace ProxyState

/-- Either a workload or a service by address: a workload first. -/
def find_address (self : ProxyState) (network_addr : NetworkAddress) : Option Address :=
  match self.workloads.find_address network_addr with
  | none =>
    match self.services.get_by_vip network_addr with
    | some svc => some (.Service svc)
    | none => none
  | some wl => some (.Workload wl)

/-- Either a workload or a service by hostname: a service first, then the
    first workload by UID of that hostname and namespace (the slow path). -/
def find_hostname (self : ProxyState) (name : NamespacedHostname) : Option Address :=
  match self.services.get_by_namespaced_host name with
  | some svc => some (.Service svc)
  | none =>
    ((self.workloads.by_uid.entries.map Sigma.snd).find? fun w =>
      w.hostname == name.hostname && w.namespace == name.namespace).map .Workload

def find_destination (self : ProxyState) : Destination → Option Address
  | .Address addr => self.find_address addr
  | .Hostname hostname => self.find_hostname hostname

def find_service_by_hostname (self : ProxyState) (hostname : String) :
    Except Proxy.Error (List Service) :=
  ok_or (self.services.get_by_host hostname) (.NoHostname hostname)

/-- The workload to send to, with its port and the service it was found
    through: a service VIP takes precedence over a workload address. -/
def find_upstream (rng : WeightedChoice (Endpoint × Workload)) (self : ProxyState)
    (network : String) (source_workload : Workload) (addr : SocketAddr)
    (resolution_mode : ServiceResolutionMode) : Option (Workload × UInt16 × Option Service) :=
  match self.services.get_by_vip (network_addr network addr.ip) with
  | some svc =>
    self.find_upstream_from_service rng source_workload addr.port resolution_mode svc
  | none =>
    match self.workloads.find_address (network_addr network addr.ip) with
    | some wl => some (wl, addr.port, none)
    | none => none

end ProxyState

/-- The proxy state as the proxies read it, with what the reads of one
    call share: the DNS resolver and the random choices. -/
structure DemandProxyState where
  state : ProxyState
  /-- the addresses of the answer to a lookup of the hostname; `none` when
      the lookup fails -/
  dns_resolver : String → Option (List IpAddr)
  /-- the endpoint choice of `load_balance` -/
  lb_rng : WeightedChoice (Endpoint × Workload)
  /-- the uniform choice among resolved addresses -/
  dns_rng : WeightedChoice IpAddr

namespace DemandProxyState

/-- The state's lookup; with no demander a miss is final. -/
def fetch_address (self : DemandProxyState) (network_addr : NetworkAddress) : Option Address :=
  self.state.find_address network_addr

def fetch_destination (self : DemandProxyState) (dest : Destination) : Option Address :=
  self.state.find_destination dest

def fetch_workload_by_uid (self : DemandProxyState) (uid : String) : Option Workload :=
  self.state.workloads.find_uid uid

/-- A random resolved address, of the family of the original target if
    the answer has one. -/
def resolve_on_demand_dns (self : DemandProxyState) (workload : Workload)
    (original_target_address : SocketAddr) : Except Proxy.Error IpAddr :=
  match self.dns_resolver workload.hostname with
  | none => .error (.NoResolvedAddresses workload.uid)
  | some resp =>
    let (matching, unmatching) :=
      resp.partition fun record => record.is_ipv6 == original_target_address.ip.is_ipv6
    match (self.dns_rng.choose_weighted matching fun _ => 1).or
        (self.dns_rng.choose_weighted unmatching fun _ => 1) with
    | some ip => .ok ip
    | none => .error (.EmptyResolvedAddresses workload.uid)

/-- The metrics around `resolve_on_demand_dns` are not modelled. -/
def resolve_workload_address (self : DemandProxyState) (workload _src_workload : Workload)
    (original_target_address : SocketAddr) : Except Proxy.Error IpAddr :=
  self.resolve_on_demand_dns workload original_target_address

/-- Whether the service's IP families admit the address; no restriction
    admits every address. -/
def familyAccepts (ip_family_restriction : Option IpFamily) (ip : IpAddr) : Bool :=
  (ip_family_restriction.map fun f => f.accepts_ip ip).getD true

/-- The IP to connect to the workload on: the target's IP if the workload
    has it, else one of its IPs that the families admit, of the target's
    family if there is one, else a resolved address of its hostname. -/
def pick_workload_destination_or_resolve (self : DemandProxyState)
    (dst_workload src_workload : Workload) (original_target_address : SocketAddr)
    (ip_family_restriction : Option IpFamily) : Except Proxy.Error IpAddr :=
  if dst_workload.workload_ips.contains original_target_address.ip then
    .ok original_target_address.ip
  else
    match Dns.find_or_first (dst_workload.workload_ips.filter (familyAccepts ip_family_restriction))
        (fun ip => ip.is_ipv6 == original_target_address.ip.is_ipv6) with
    | some ip => .ok ip
    | none =>
      if dst_workload.hostname.isEmpty then .error (.NoValidDestination dst_workload)
      else self.resolve_workload_address dst_workload src_workload original_target_address

/-- The `Upstream` of a found workload: its address picked, and the SANs
    and description of the service it was found through. -/
def finalize_upstream (self : DemandProxyState) (source_workload : Workload)
    (original_target_address : SocketAddr)
    (upstream : Option (Workload × UInt16 × Option Service)) :
    Except Proxy.Error (Option Upstream) :=
  match upstream with
  | none => .ok none
  | some (wl, port, svc) => do
    let selected_workload_ip ← self.pick_workload_destination_or_resolve wl source_workload
      original_target_address (svc.bind (·.ip_families))
    pure (some
      { workload := wl
        selected_workload_ip := selected_workload_ip
        port := port
        service_sans := (svc.map (·.subject_alt_names)).getD []
        destination_service := svc.map ServiceDescription.ofService })

def fetch_upstream (self : DemandProxyState) (network : String) (source_workload : Workload)
    (addr : SocketAddr) (resolution_mode : ServiceResolutionMode) :
    Except Proxy.Error (Option Upstream) :=
  self.finalize_upstream source_workload addr
    (self.state.find_upstream self.lb_rng network source_workload addr resolution_mode)

/-- The match of `fetch_waypoint` on the waypoint's destination: what was
    found for it, with the address to finalize it against.  A waypoint
    named by IP is reached on that IP; one named by hostname keeps the
    original destination, so that the caller's IP family is kept. -/
def waypointTarget (self : DemandProxyState) (gw_address : GatewayAddress)
    (source_workload : Workload) (original_destination_address : SocketAddr) :
    Except Proxy.Error (Option (Workload × UInt16 × Option Service) × SocketAddr) :=
  match gw_address.destination with
  | .Address ip =>
    let addr : SocketAddr := ⟨ip.address, gw_address.hbone_mtls_port⟩
    .ok (self.state.find_upstream self.lb_rng ip.network source_workload addr .Waypoint, addr)
  | .Hostname host =>
    match self.state.find_hostname host with
    | some (.Service s) =>
      .ok (self.state.find_upstream_from_service self.lb_rng source_workload
        gw_address.hbone_mtls_port .Waypoint s, original_destination_address)
    | some (.Workload w) => .ok (some (w, gw_address.hbone_mtls_port, none), original_destination_address)
    | none => .error (.UnknownWaypoint (.hostname host.hostname))

def fetch_waypoint (self : DemandProxyState) (gw_address : GatewayAddress)
    (source_workload : Workload) (original_destination_address : SocketAddr) :
    Except Proxy.Error Upstream := do
  let (res, target_address) ←
    self.waypointTarget gw_address source_workload original_destination_address
  ok_or (← self.finalize_upstream source_workload target_address res)
    (.UnknownWaypoint (.gateway gw_address))

/-- `fetch_service_waypoint` and `fetch_workload_waypoint`: the waypoint of
    a service or a workload, if it has one. -/
def fetchOptionalWaypoint (self : DemandProxyState) (waypoint : Option GatewayAddress)
    (source_workload : Workload) (original_destination_address : SocketAddr) :
    Except Proxy.Error (Option Upstream) :=
  match waypoint with
  | none => .ok none
  | some gw_address =>
    (self.fetch_waypoint gw_address source_workload original_destination_address).map some

def fetch_service_waypoint (self : DemandProxyState) (service : Service)
    (source_workload : Workload) (original_destination_address : SocketAddr) :
    Except Proxy.Error (Option Upstream) :=
  self.fetchOptionalWaypoint service.waypoint source_workload original_destination_address

def fetch_workload_waypoint (self : DemandProxyState) (wl : Workload)
    (source_workload : Workload) (original_destination_address : SocketAddr) :
    Except Proxy.Error (Option Upstream) :=
  self.fetchOptionalWaypoint wl.waypoint source_workload original_destination_address

def get_services_by_workload (self : DemandProxyState) (wl : Workload) : List Service :=
  self.state.services.get_by_workload wl

end DemandProxyState

/-! ## itertools' `find_or_first` -/

namespace Dns

variable {α : Type} {l : List α} {p : α → Bool}

theorem find_or_first_eq_none : find_or_first l p = none ↔ l = [] := by
  unfold find_or_first
  split
  · rename_i a hfind
    simp only [reduceCtorEq, false_iff]
    rintro rfl
    cases hfind
  · simp

/-- The first element is taken only when no element satisfies `p`. -/
theorem find_or_first_prefers {a : α} (h : find_or_first l p = some a)
    (hex : ∃ x ∈ l, p x = true) : p a = true := by
  unfold find_or_first at h
  split at h
  · rename_i hfind
    cases h
    exact List.find?_some hfind
  · rename_i hfind
    obtain ⟨x, hx, hpx⟩ := hex
    have := List.find?_eq_none.mp hfind x hx
    simp [hpx] at this

end Dns

/-! ## What the lookups return -/

namespace DemandProxyState

variable (self : DemandProxyState)

/-- A choice with weight one among no element is no choice. -/
theorem choose_weighted_one_eq_none {α : Type} (rng : WeightedChoice α) {l : List α} :
    rng.choose_weighted l (fun _ => 1) = none ↔ l = [] := by
  rw [rng.choose_weighted_eq_none_iff, List.eq_nil_iff_forall_not_mem]
  exact ⟨fun h x hx => one_ne_zero (h x hx), fun h x hx => absurd hx (h x)⟩

/-- A resolved address is one of the answer's, and of the target's family
    when the answer has one of that family. -/
theorem resolve_on_demand_dns_eq_ok {workload : Workload} {target : SocketAddr} {ip : IpAddr}
    (h : self.resolve_on_demand_dns workload target = .ok ip) :
    ∃ resp, self.dns_resolver workload.hostname = some resp ∧ ip ∈ resp ∧
      ((∃ ip' ∈ resp, ip'.is_ipv6 = target.ip.is_ipv6) → ip.is_ipv6 = target.ip.is_ipv6) := by
  unfold resolve_on_demand_dns at h
  cases hr : self.dns_resolver workload.hostname with
  | none => rw [hr] at h; cases h
  | some resp =>
    simp only [hr, List.partition_eq_filter_filter] at h
    refine ⟨resp, rfl, ?_⟩
    -- the addresses of the target's family are chosen from first
    cases hm : self.dns_rng.choose_weighted
        (resp.filter fun r => r.is_ipv6 == target.ip.is_ipv6) (fun _ => 1) with
    | some x =>
      rw [hm, Option.some_or] at h
      cases h
      have hx := List.mem_filter.mp (self.dns_rng.mem_of_choose _ _ _ hm).1
      exact ⟨hx.1, fun _ => by simpa using hx.2⟩
    | none =>
      have hnone := (choose_weighted_one_eq_none self.dns_rng).mp hm
      rw [hm, Option.none_or] at h
      split at h
      · rename_i y hy
        cases h
        refine ⟨List.mem_of_mem_filter (self.dns_rng.mem_of_choose _ _ _ hy).1, ?_⟩
        rintro ⟨ip', hmem, hfam⟩
        have : ip' ∈ resp.filter fun r => r.is_ipv6 == target.ip.is_ipv6 :=
          List.mem_filter.mpr ⟨hmem, by simpa using hfam⟩
        rw [hnone] at this
        cases this
      · cases h

/-- Resolution fails when the lookup fails or its answer has no address. -/
theorem resolve_on_demand_dns_eq_error {workload : Workload} {target : SocketAddr}
    {e : Proxy.Error} :
    self.resolve_on_demand_dns workload target = .error e ↔
      (self.dns_resolver workload.hostname = none ∧ e = .NoResolvedAddresses workload.uid) ∨
      (self.dns_resolver workload.hostname = some [] ∧ e = .EmptyResolvedAddresses workload.uid) := by
  unfold resolve_on_demand_dns
  cases hr : self.dns_resolver workload.hostname with
  | none => simp [eq_comm]
  | some resp =>
    simp only [List.partition_eq_filter_filter, reduceCtorEq, false_and, Option.some.injEq,
      false_or]
    split
    · rename_i x hx
      simp only [reduceCtorEq, false_iff, not_and]
      rintro rfl
      have hnil := (choose_weighted_one_eq_none self.dns_rng (l := [])).mpr rfl
      simp [hnil] at hx
    · rename_i hx
      -- neither family has an address: the answer is empty
      rw [Option.or_eq_none_iff, choose_weighted_one_eq_none, choose_weighted_one_eq_none,
        List.filter_eq_nil_iff, List.filter_eq_nil_iff] at hx
      have hresp : resp = [] := List.eq_nil_iff_forall_not_mem.mpr fun a ha => by
        have h1 := hx.1 a ha
        have h2 := hx.2 a ha
        simp_all
      simp [hresp, eq_comm]

/-- The address picked for a workload belongs to it: the target's own IP
    when the workload has it; else one of its IPs that the service's
    families admit, of the target's family when one of those is; else, for
    a workload with a hostname and no IP admitted, an address its hostname
    resolves to. -/
theorem pick_workload_destination_or_resolve_eq_ok {dst src : Workload} {target : SocketAddr}
    {r : Option IpFamily} {ip : IpAddr}
    (h : self.pick_workload_destination_or_resolve dst src target r = .ok ip) :
    (target.ip ∈ dst.workload_ips ∧ ip = target.ip) ∨
    (target.ip ∉ dst.workload_ips ∧ ip ∈ dst.workload_ips ∧ familyAccepts r ip = true ∧
      ((∃ ip' ∈ dst.workload_ips, familyAccepts r ip' = true ∧
          ip'.is_ipv6 = target.ip.is_ipv6) → ip.is_ipv6 = target.ip.is_ipv6)) ∨
    (target.ip ∉ dst.workload_ips ∧ (∀ ip' ∈ dst.workload_ips, familyAccepts r ip' = false) ∧
      dst.hostname ≠ "" ∧ ∃ resp, self.dns_resolver dst.hostname = some resp ∧ ip ∈ resp ∧
        ((∃ ip' ∈ resp, ip'.is_ipv6 = target.ip.is_ipv6) → ip.is_ipv6 = target.ip.is_ipv6)) := by
  unfold pick_workload_destination_or_resolve at h
  by_cases hmem : target.ip ∈ dst.workload_ips
  · rw [if_pos (List.contains_iff_mem.mpr hmem)] at h
    cases h
    exact .inl ⟨hmem, rfl⟩
  · rw [if_neg (mt List.contains_iff_mem.mp hmem)] at h
    split at h
    · rename_i a hfirst
      cases h
      have ha := List.mem_filter.mp (Dns.Store.find_or_first_mem hfirst)
      refine .inr (.inl ⟨hmem, ha.1, ha.2, fun ⟨ip', hip', hacc, hfam⟩ => ?_⟩)
      have hpref := Dns.find_or_first_prefers hfirst
        ⟨ip', List.mem_filter.mpr ⟨hip', hacc⟩, by simpa using hfam⟩
      simpa using hpref
    · rename_i hnone
      -- no IP is admitted: the workload is reached through its hostname
      have hall := List.filter_eq_nil_iff.mp (Dns.find_or_first_eq_none.mp hnone)
      split at h
      · cases h
      · rename_i hhost
        obtain ⟨resp, hresp, hip, hfam⟩ := self.resolve_on_demand_dns_eq_ok h
        exact .inr (.inr ⟨hmem, fun ip' hip' => by simpa using hall ip' hip',
          by simpa using hhost, resp, hresp, hip, hfam⟩)

/-- A dual-stack workload, at 10.0.0.3 and ::1. -/
def dualStackWl : Workload :=
  { ProxyState.lbWorkload "dual" ⟨"", "", ""⟩ 1 with workload_ips := [.V4 0x0a000003, .V6 1] }

/-- A state without DNS. -/
def noDns : DemandProxyState := ⟨ProxyState.lbState [], fun _ => none, .first, .first⟩

/-- An IPv6 target the workload does not have gets its IPv6 address. -/
theorem pick_workload_destination_or_resolve_eq_ok_dualStack :
    noDns.pick_workload_destination_or_resolve dualStackWl ProxyState.lbClient ⟨.V6 2, 80⟩ none =
        .ok (.V6 1) ∧
      ((IpAddr.V6 2 ∈ dualStackWl.workload_ips ∧ IpAddr.V6 1 = .V6 2) ∨
        (IpAddr.V6 2 ∉ dualStackWl.workload_ips ∧ IpAddr.V6 1 ∈ dualStackWl.workload_ips ∧
          familyAccepts none (.V6 1) = true ∧
          ((∃ ip' ∈ dualStackWl.workload_ips, familyAccepts none ip' = true ∧
              ip'.is_ipv6 = (IpAddr.V6 2).is_ipv6) → (IpAddr.V6 1).is_ipv6 = (IpAddr.V6 2).is_ipv6)) ∨
        (IpAddr.V6 2 ∉ dualStackWl.workload_ips ∧
          (∀ ip' ∈ dualStackWl.workload_ips, familyAccepts none ip' = false) ∧
          dualStackWl.hostname ≠ "" ∧ ∃ resp, noDns.dns_resolver dualStackWl.hostname = some resp ∧
            IpAddr.V6 1 ∈ resp ∧ ((∃ ip' ∈ resp, ip'.is_ipv6 = (IpAddr.V6 2).is_ipv6) →
              (IpAddr.V6 1).is_ipv6 = (IpAddr.V6 2).is_ipv6))) :=
  have h : noDns.pick_workload_destination_or_resolve dualStackWl ProxyState.lbClient
      ⟨.V6 2, 80⟩ none = .ok (.V6 1) := rfl
  ⟨h, noDns.pick_workload_destination_or_resolve_eq_ok h⟩

/-- `NoValidDestination` is returned exactly for a workload without a
    hostname that neither has the target's IP nor one the families
    admit. -/
theorem pick_workload_destination_or_resolve_eq_NoValidDestination {dst src : Workload}
    {target : SocketAddr} {r : Option IpFamily} {w : Workload} :
    self.pick_workload_destination_or_resolve dst src target r = .error (.NoValidDestination w) ↔
      w = dst ∧ target.ip ∉ dst.workload_ips ∧
        (∀ ip' ∈ dst.workload_ips, familyAccepts r ip' = false) ∧ dst.hostname = "" := by
  unfold pick_workload_destination_or_resolve
  by_cases hmem : target.ip ∈ dst.workload_ips
  · simp [hmem]
  · rw [if_neg (mt List.contains_iff_mem.mp hmem)]
    split
    · rename_i a hfirst
      have ha := (List.mem_filter.mp (Dns.Store.find_or_first_mem hfirst)).2
      simp only [reduceCtorEq, false_iff, not_and]
      intro _ _ hall _
      have := hall a (List.mem_filter.mp (Dns.Store.find_or_first_mem hfirst)).1
      simp_all
    · rename_i hnone
      have hall := List.filter_eq_nil_iff.mp (Dns.find_or_first_eq_none.mp hnone)
      have hall' : ∀ ip' ∈ dst.workload_ips, familyAccepts r ip' = false :=
        fun ip' hip' => by simpa using hall ip' hip'
      split
      · rename_i hhost
        simp only [Except.error.injEq, Proxy.Error.NoValidDestination.injEq]
        exact ⟨fun he => ⟨he.symm, hmem, hall', String.isEmpty_iff.mp hhost⟩, fun he => he.1.symm⟩
      · rename_i hhost
        -- resolution fails only with its own errors
        have hne : dst.hostname ≠ "" := fun he => hhost (String.isEmpty_iff.mpr he)
        simp only [hne, and_false, iff_false]
        intro hres
        rcases (self.resolve_on_demand_dns_eq_error).mp hres with ⟨-, he⟩ | ⟨-, he⟩ <;> cases he

/-- A finalized upstream is what was found, with its address picked and
    the SANs and description of the service it was found through. -/
theorem finalize_upstream_eq_ok_some {src : Workload} {target : SocketAddr}
    {up : Option (Workload × UInt16 × Option Service)} {us : Upstream}
    (h : self.finalize_upstream src target up = .ok (some us)) :
    ∃ svc, up = some (us.workload, us.port, svc) ∧
      self.pick_workload_destination_or_resolve us.workload src target (svc.bind (·.ip_families)) =
        .ok us.selected_workload_ip ∧
      us.service_sans = (svc.map (·.subject_alt_names)).getD [] ∧
      us.destination_service = svc.map ServiceDescription.ofService := by
  unfold finalize_upstream at h
  rcases up with _ | ⟨wl, port, svc⟩
  · cases h
  · obtain ⟨ip, hip, hret⟩ := except_bind_eq_ok.mp h
    simp only [except_pure_eq_ok, Option.some.injEq] at hret
    subst hret
    exact ⟨svc, rfl, hip, rfl, rfl⟩

theorem finalize_upstream_eq_ok_none {src : Workload} {target : SocketAddr}
    {up : Option (Workload × UInt16 × Option Service)} :
    self.finalize_upstream src target up = .ok none ↔ up = none := by
  unfold finalize_upstream
  rcases up with _ | ⟨wl, port, svc⟩
  · simp
  · simp only [reduceCtorEq, iff_false]
    intro h
    obtain ⟨ip, -, hret⟩ := except_bind_eq_ok.mp h
    cases except_pure_eq_ok.mp hret

/-- A waypoint's upstream is what its destination resolves to, finalized. -/
theorem fetch_waypoint_eq_ok {gw : GatewayAddress} {src : Workload} {orig : SocketAddr}
    {wp : Upstream} (h : self.fetch_waypoint gw src orig = .ok wp) :
    ∃ res target_address, self.waypointTarget gw src orig = .ok (res, target_address) ∧
      self.finalize_upstream src target_address res = .ok (some wp) := by
  unfold fetch_waypoint at h
  obtain ⟨⟨res, target_address⟩, htarget, h⟩ := except_bind_eq_ok.mp h
  obtain ⟨us, hus, h⟩ := except_bind_eq_ok.mp h
  rw [ok_or_eq_ok] at h
  subst h
  exact ⟨res, target_address, htarget, hus⟩

theorem fetchOptionalWaypoint_eq_ok_some {w : Option GatewayAddress} {src : Workload}
    {orig : SocketAddr} {wp : Upstream} :
    self.fetchOptionalWaypoint w src orig = .ok (some wp) ↔
      ∃ gw, w = some gw ∧ self.fetch_waypoint gw src orig = .ok wp := by
  unfold fetchOptionalWaypoint
  rcases w with _ | gw
  · simp
  · simp [except_map_eq_ok]

theorem fetchOptionalWaypoint_eq_ok_none {w : Option GatewayAddress} {src : Workload}
    {orig : SocketAddr} : self.fetchOptionalWaypoint w src orig = .ok none ↔ w = none := by
  unfold fetchOptionalWaypoint
  rcases w with _ | gw
  · simp
  · simp [except_map_eq_ok]

end DemandProxyState

end Ztunnel
