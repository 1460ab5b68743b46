/-
  Ztunnel.Proxy.Inbound

  How the inbound proxy checks and routes an HBONE request
  (src/proxy/inbound.rs), for the local workload the connection reached.
  `validate_destination` admits the request's inner address: a service
  hostname, the connection's own destination IP, anything when the
  workload runs its own tunnel, and otherwise only an address whose
  waypoint is this workload (the waypoint "sandwich"); the error names
  both IPs.  `find_inbound_upstream` then picks where to forward: always
  the connection's destination IP, on the port the inner address names
  (through the service's port mapping for a hostname), refused when that
  port is one of the proxy's own, and moved to the application tunnel's
  port with the address to send in its PROXY header.
  `guess_inbound_service` (src/proxy.rs) names the service to report.

  The proxy's illegal ports are a set of ports.  The on-demand retry of
  the waypoint lookup is not modelled, as in State.Demand.  The `expect`
  on a hostname request's service cannot fail (its list is the one
  service found), and is modelled by that service's own error.
-/

import Ztunnel.State.Demand
import Ztunnel.Lib.Iter

namespace Ztunnel

namespace Proxy

open Dns (Address)

/-- The inner address of an HBONE request. -/
inductive HboneAddress where
  | SocketAddr (addr : SocketAddr)
  | SvcHostname (hostname : String) (port : UInt16)
  deriving DecidableEq, Repr

/-- What the proxy sends an application tunnel: the address for the PROXY
    header, and the tunnel's protocol. -/
structure TunnelRequest where
  tunnel_target : SocketAddr
  protocol : TunnelProtocol
  deriving DecidableEq, Repr

/-- The waypoint a service or workload names. -/
def addressWaypoint : Address → Option GatewayAddress
  | .Service svc => svc.waypoint
  | .Workload wl => wl.waypoint

/-- The closure of `validate_destination`: whether the HBONE target names
    the local workload as its waypoint; `none` when the target is not
    found. -/
def lookup_is_destination_this_waypoint (state : DemandProxyState) (conn : Connection)
    (local_workload : Workload) (hbone_dst : NetworkAddress) : Option Bool := do
  let hbone_target ← state.state.find_address hbone_dst
  match addressWaypoint hbone_target with
  -- the target has no waypoint
  | none => some false
  | some target_waypoint =>
    match state.state.find_destination target_waypoint.destination with
    | none => some false
    | some (.Service svc) => some (svc.contains_endpoint local_workload)
    | some (.Workload wl) => some (wl.workload_ips.contains conn.dst.ip)

/-- Whether the request's inner address is allowed. -/
def validate_destination (state : DemandProxyState) (conn : Connection) (local_workload : Workload)
    (hbone_addr : HboneAddress) : Except Error Unit :=
  match hbone_addr with
  -- a hostname is resolved later, and may fail then
  | .SvcHostname _ _ => .ok ()
  | .SocketAddr hbone_addr =>
    if conn.dst.ip == hbone_addr.ip then .ok ()
    -- an application tunnel receives the inner address and decides itself
    else if local_workload.application_tunnel.isSome then .ok ()
    else
      let hbone_dst : NetworkAddress := ⟨conn.dst_network, hbone_addr.ip⟩
      let res := lookup_is_destination_this_waypoint state conn local_workload hbone_dst
      if res.isNone || res == some false then .error (.IPMismatch conn.dst.ip hbone_addr.ip)
      else .ok ()

/-- The service of a hostname, of the local workload's namespace if it has
    one there. -/
def find_service_by_hostname (state : DemandProxyState) (local_workload : Workload)
    (hbone_host : String) : Except Error Service := do
  let services ← state.state.find_service_by_hostname hbone_host
  ok_or (max_by_key services fun s => if s.namespace == local_workload.namespace then 1 else 0)
    (.NoHostname hbone_host)

/-- The VIP of a service to put in a PROXY header: one on the connection's
    network, IPv4 first. -/
def tunnelVipKey (conn : Connection) (a : NetworkAddress) : Nat :=
  if a.network == conn.dst_network then (if a.address.is_ipv4 then 2 else 1) else 0

/-- The address the application tunnel is told: the inner address, or for
    a hostname a VIP of its service, since PROXY cannot carry a hostname. -/
def tunnelTarget (conn : Connection) (hbone_addr : HboneAddress) (services : List Service) :
    Except Error SocketAddr :=
  match hbone_addr with
  | .SvcHostname h port =>
    match services.head? with
    | none => .error (.NoIPForService h)
    | some svc => do
      let vip ← ok_or (max_by_key svc.vips (tunnelVipKey conn)) (.NoIPForService h)
      pure ⟨vip.address, port⟩
  | .SocketAddr s => .ok s

/-- The port a hostname request goes to: the endpoint's mapping of the
    service port, else the service's if it is a number. -/
def servicePort (svc : Service) (local_workload : Workload) (hostname : String)
    (service_port : UInt16) : Except Error UInt16 :=
  match (svc.endpoints.get local_workload.uid).bind fun ep => ep.port.lookup service_port with
  | some ep_port => .ok ep_port
  | none =>
    let service_target_port := (svc.ports.lookup service_port).getD 0
    if service_target_port == 0 then .error (.NoPortForServices hostname service_port)
    else .ok service_target_port

/-- The match of `find_inbound_upstream` on the inner address: the
    destination, always the local workload's IP with only the port to
    find, and the services the request may be for. -/
def inboundDest (state : DemandProxyState) (conn : Connection) (local_workload : Workload)
    (hbone_addr : HboneAddress) : Except Error (SocketAddr × List Service) :=
  let target_ip := conn.dst.ip
  match hbone_addr with
  | .SvcHostname hostname service_port => do
    let svc ← find_service_by_hostname state local_workload hostname
    let port ← servicePort svc local_workload hostname service_port
    pure (⟨target_ip, port⟩, [svc])
  | .SocketAddr hbone_addr =>
    pure (⟨target_ip, hbone_addr.port⟩, state.get_services_by_workload local_workload)

/-- The next hop of an inbound request: the address to forward to, the
    request to the application tunnel, and the services it may be for. -/
def find_inbound_upstream (illegal_ports : Finset UInt16) (state : DemandProxyState)
    (conn : Connection) (local_workload : Workload) (hbone_addr : HboneAddress) :
    Except Error (SocketAddr × Option TunnelRequest × List Service) := do
  let (dest, services) ← inboundDest state conn local_workload hbone_addr
  -- checked on the resolved port, before a tunnel moves it
  if dest.port ∈ illegal_ports then throw .SelfCall
  else
    match local_workload.application_tunnel with
    | some ⟨protocol, port⟩ => do
      let tunnel_target ← tunnelTarget conn hbone_addr services
      pure (⟨dest.ip, port.getD dest.port⟩, some ⟨tunnel_target, protocol⟩, services)
    | none => pure (dest, none, services)

/-- The service to report: the one the client named in `Forwarded`, else
    one whose target port, or the endpoint's mapping of one of its ports,
    is the destination port. -/
def guess_inbound_service (conn : Connection) (for_host_header : Option String)
    (upstream_service : List Service) (dest : Workload) : Option ServiceDescription :=
  match (upstream_service.find? fun s => for_host_header == some s.hostname).map
      ServiceDescription.ofService with
  | some found => some found
  | none =>
    let dport := conn.dst.port
    (upstream_service.find? fun s =>
      s.ports.entries.any fun p =>
        p.2 == dport ||
          ((s.endpoints.get dest.uid).bind fun e => e.port.lookup p.1) == some dport).map
      ServiceDescription.ofService

/-! ## Which inner addresses are admitted -/

/-- The local workload is the waypoint of what the inner address names:
    that service or workload has a waypoint, which resolves to a service
    with the local workload as an endpoint, or to a workload with the
    connection's destination IP. -/
def IsWaypointOf (state : DemandProxyState) (conn : Connection) (local_workload : Workload)
    (hbone_dst : NetworkAddress) : Prop :=
  ∃ target gw, state.state.find_address hbone_dst = some target ∧ addressWaypoint target = some gw ∧
    ((∃ svc, state.state.find_destination gw.destination = some (.Service svc) ∧
        svc.contains_endpoint local_workload = true) ∨
      ∃ wl, state.state.find_destination gw.destination = some (.Workload wl) ∧
        conn.dst.ip ∈ wl.workload_ips)

/-- The inner addresses the inbound proxy admits: a hostname; the
    connection's own destination IP; any, for a workload with an
    application tunnel; and an address whose waypoint is the local
    workload. -/
def Admits (state : DemandProxyState) (conn : Connection) (local_workload : Workload) :
    HboneAddress → Prop
  | .SvcHostname _ _ => True
  | .SocketAddr a =>
    conn.dst.ip = a.ip ∨ local_workload.application_tunnel.isSome ∨
      IsWaypointOf state conn local_workload ⟨conn.dst_network, a.ip⟩

section Validate

variable {state : DemandProxyState} {conn : Connection} {local_workload : Workload}

theorem lookup_is_destination_this_waypoint_eq_some_true {hbone_dst : NetworkAddress} :
    lookup_is_destination_this_waypoint state conn local_workload hbone_dst = some true ↔
      IsWaypointOf state conn local_workload hbone_dst := by
  unfold lookup_is_destination_this_waypoint IsWaypointOf
  cases htarget : state.state.find_address hbone_dst with
  | none => simp
  | some target =>
    simp only [Option.bind_eq_bind, Option.bind_some, Option.some.injEq, exists_and_left,
      exists_eq_left']
    cases hgw : addressWaypoint target with
    | none => simp
    | some gw =>
      simp only [Option.some.injEq, exists_eq_left']
      cases hdest : state.state.find_destination gw.destination with
      | none => simp
      | some wp =>
        cases wp with
        | Service svc => simp
        | Workload wl => simp

end Validate

/-! ## Which service a hostname names -/

/-- The service of a hostname is one of the hostname's, of the local
    workload's namespace whenever the hostname has a service there. -/
theorem find_service_by_hostname_eq_ok {state : DemandProxyState} {local_workload : Workload}
    {hbone_host : String} {svc : Service}
    (h : find_service_by_hostname state local_workload hbone_host = .ok svc) :
    ∃ services, state.state.services.get_by_host hbone_host = some services ∧ svc ∈ services ∧
      ((∃ s ∈ services, s.namespace = local_workload.namespace) →
        svc.namespace = local_workload.namespace) := by
  unfold find_service_by_hostname at h
  obtain ⟨services, hservices, h⟩ := except_bind_eq_ok.mp h
  rw [ok_or_eq_ok] at h
  refine ⟨services, ok_or_eq_ok.mp hservices, max_by_key_mem h, fun ⟨s, hs, hns⟩ => ?_⟩
  -- the key is 1 in the local namespace and 0 elsewhere
  have hle := max_by_key_max h s hs
  by_contra hne
  simp [hns, hne] at hle

/-- A workload of the default namespace at 10.0.0.5, with a PROXY
    tunnel on port 15088. -/
def localWl : Workload :=
  { ProxyState.lbWorkload "local" ⟨"", "", ""⟩ 1 with
    workload_ips := [.V4 0x0a000005], application_tunnel := some ⟨.PROXY, some 15088⟩ }

/-- A service of the default namespace at 10.0.0.1, port 80 to 8080. -/
def svcDefault : Service :=
  { ProxyState.lbService [(80, 8080)] [] none with vips := [⟨"network", .V4 0x0a000001⟩] }

/-- The same hostname in another namespace. -/
def svcOther : Service := { svcDefault with «namespace» := "other" }

/-- The hostname with its two services, the other namespace's first. -/
def inboundState : DemandProxyState where
  state :=
    { workloads := WorkloadStore.new none
      services := { ServiceStore.default with
        by_host := (∅ : HashMap String (List Service)).insert svcDefault.hostname
          [svcOther, svcDefault] }
      policies := PolicyStore.default }
  dns_resolver _ := none
  lb_rng := .first
  dns_rng := .first

theorem find_service_by_hostname_eq_ok_twoNamespaces :
    find_service_by_hostname inboundState localWl svcDefault.hostname = .ok svcDefault ∧
      ∃ services, inboundState.state.services.get_by_host svcDefault.hostname = some services ∧
        svcDefault ∈ services ∧
        ((∃ s ∈ services, s.namespace = localWl.namespace) →
          svcDefault.namespace = localWl.namespace) :=
  have h : find_service_by_hostname inboundState localWl svcDefault.hostname = .ok svcDefault :=
    rfl
  ⟨h, find_service_by_hostname_eq_ok h⟩

/-! ## Where an inbound request goes -/

section Upstream

variable {illegal_ports : Finset UInt16} {state : DemandProxyState} {conn : Connection}
  {local_workload : Workload}

/-- Before the port check: the connection's destination IP, on the inner
    address's port or the port of the hostname's one service. -/
theorem find_inbound_upstream_eq_ok {hbone_addr : HboneAddress} {target : SocketAddr}
    {tunnel : Option TunnelRequest} {services : List Service}
    (h : find_inbound_upstream illegal_ports state conn local_workload hbone_addr =
      .ok (target, tunnel, services)) :
    ∃ dest : SocketAddr, dest.ip = conn.dst.ip ∧ dest.port ∉ illegal_ports ∧
      ((∃ hostname service_port svc, hbone_addr = .SvcHostname hostname service_port ∧
          find_service_by_hostname state local_workload hostname = .ok svc ∧
          servicePort svc local_workload hostname service_port = .ok dest.port ∧ services = [svc]) ∨
        (∃ a, hbone_addr = .SocketAddr a ∧ dest.port = a.port ∧
          services = state.get_services_by_workload local_workload)) ∧
      ((local_workload.application_tunnel = none ∧ target = dest ∧ tunnel = none) ∨
        ∃ app tt, local_workload.application_tunnel = some app ∧
          tunnelTarget conn hbone_addr services = .ok tt ∧
          target = ⟨dest.ip, app.port.getD dest.port⟩ ∧ tunnel = some ⟨tt, app.protocol⟩) := by
  unfold find_inbound_upstream at h
  obtain ⟨⟨dest, svcs⟩, hfirst, h⟩ := except_bind_eq_ok.mp h
  -- the destination and the services, by the kind of inner address
  have hdest : dest.ip = conn.dst.ip ∧
      ((∃ hostname service_port svc, hbone_addr = .SvcHostname hostname service_port ∧
          find_service_by_hostname state local_workload hostname = .ok svc ∧
          servicePort svc local_workload hostname service_port = .ok dest.port ∧ svcs = [svc]) ∨
        (∃ a, hbone_addr = .SocketAddr a ∧ dest.port = a.port ∧
          svcs = state.get_services_by_workload local_workload)) := by
    cases hbone_addr with
    | SvcHostname hostname service_port =>
      obtain ⟨svc, hsvc, hfirst⟩ := except_bind_eq_ok.mp hfirst
      obtain ⟨port, hport, hfirst⟩ := except_bind_eq_ok.mp hfirst
      simp only [except_pure_eq_ok, Prod.mk.injEq] at hfirst
      obtain ⟨rfl, rfl⟩ := hfirst
      exact ⟨rfl, .inl ⟨hostname, service_port, svc, rfl, hsvc, hport, rfl⟩⟩
    | SocketAddr a =>
      simp only [inboundDest, except_pure_eq_ok, Prod.mk.injEq] at hfirst
      obtain ⟨rfl, rfl⟩ := hfirst
      exact ⟨rfl, .inr ⟨a, rfl, rfl, rfl⟩⟩
  obtain ⟨hip, hkind⟩ := hdest
  dsimp only at h
  by_cases hill : dest.port ∈ illegal_ports
  · rw [if_pos hill] at h
    cases h
  rw [if_neg hill] at h
  -- the application tunnel moves the port and names the target in its header
  have hroute : services = svcs ∧
      ((local_workload.application_tunnel = none ∧ target = dest ∧ tunnel = none) ∨
        ∃ app tt, local_workload.application_tunnel = some app ∧
          tunnelTarget conn hbone_addr svcs = .ok tt ∧
          target = ⟨dest.ip, app.port.getD dest.port⟩ ∧ tunnel = some ⟨tt, app.protocol⟩) := by
    rcases happ : local_workload.application_tunnel with _ | ⟨protocol, port⟩
    · rw [happ] at h
      simp only [except_pure_eq_ok, Prod.mk.injEq] at h
      obtain ⟨rfl, rfl, rfl⟩ := h
      exact ⟨rfl, .inl ⟨rfl, rfl, rfl⟩⟩
    · rw [happ] at h
      obtain ⟨tt, htt, h⟩ := except_bind_eq_ok.mp h
      simp only [except_pure_eq_ok, Prod.mk.injEq] at h
      obtain ⟨rfl, rfl, rfl⟩ := h
      exact ⟨rfl, .inr ⟨⟨protocol, port⟩, tt, rfl, htt, rfl, rfl⟩⟩
  obtain ⟨rfl, hroute⟩ := hroute
  refine ⟨dest, hip, hill, ?_, hroute⟩
  rcases hkind with ⟨hostname, service_port, svc, hh, hsvc, hport, rfl⟩ | ⟨a, ha, hport, rfl⟩
  · exact .inl ⟨hostname, service_port, svc, hh, hsvc, hport, rfl⟩
  · exact .inr ⟨a, ha, hport, rfl⟩

/-- An inbound request is forwarded only to the connection's own
    destination IP, and never to one of the proxy's illegal ports unless
    the workload's application tunnel names that port. -/
theorem find_inbound_upstream_target {hbone_addr : HboneAddress} {target : SocketAddr}
    {tunnel : Option TunnelRequest} {services : List Service}
    (h : find_inbound_upstream illegal_ports state conn local_workload hbone_addr =
      .ok (target, tunnel, services)) :
    target.ip = conn.dst.ip ∧
      (target.port ∉ illegal_ports ∨
        ∃ app p, local_workload.application_tunnel = some app ∧ app.port = some p ∧
          target.port = p) := by
  obtain ⟨dest, hip, hill, -, hroute⟩ := find_inbound_upstream_eq_ok h
  rcases hroute with ⟨-, rfl, -⟩ | ⟨app, tt, happ, -, rfl, -⟩
  · exact ⟨hip, .inl hill⟩
  · refine ⟨hip, ?_⟩
    -- the tunnel's port, or the checked port when it names none
    rcases hport : app.port with _ | p
    · exact .inl (by simpa [hport] using hill)
    · exact .inr ⟨app, p, happ, hport, by simp⟩

/-- An HBONE connection to 10.0.0.5 from 10.0.0.100. -/
def inboundConn : Connection :=
  ⟨⟨.V4 0x0a000064, 40000⟩, ⟨.V4 0x0a000005, 15008⟩, none, "network"⟩

/-- The proxy's own ports. -/
def proxyPorts : Finset UInt16 := {15001, 15006, 15008}

/-- Port 80 of the hostname goes to the tunnel's port of the local
    workload, with the service's VIP in the header. -/
def hostnameHop : SocketAddr × Option TunnelRequest × List Service :=
  (⟨.V4 0x0a000005, 15088⟩, some ⟨⟨.V4 0x0a000001, 80⟩, .PROXY⟩, [svcDefault])

theorem find_inbound_upstream_target_hostname :
    find_inbound_upstream proxyPorts inboundState inboundConn localWl
        (.SvcHostname svcDefault.hostname 80) = .ok hostnameHop ∧
      hostnameHop.1.ip = inboundConn.dst.ip ∧
      (hostnameHop.1.port ∉ proxyPorts ∨
        ∃ app p, localWl.application_tunnel = some app ∧ app.port = some p ∧
          hostnameHop.1.port = p) :=
  have h : find_inbound_upstream proxyPorts inboundState inboundConn localWl
      (.SvcHostname svcDefault.hostname 80) = .ok hostnameHop := rfl
  ⟨h, find_inbound_upstream_target h⟩

/-- What the application tunnel is told about a hostname: a VIP of the
    hostname's service, of greatest key. -/
theorem tunnelTarget_SvcHostname {conn : Connection} {hostname : String} {port : UInt16}
    {svc : Service} {tt : SocketAddr}
    (h : tunnelTarget conn (.SvcHostname hostname port) [svc] = .ok tt) :
    ∃ vip ∈ svc.vips, tt = ⟨vip.address, port⟩ ∧
      ∀ v ∈ svc.vips, tunnelVipKey conn v ≤ tunnelVipKey conn vip := by
  obtain ⟨vip, hvip, h⟩ := except_bind_eq_ok.mp h
  rw [ok_or_eq_ok] at hvip
  exact ⟨vip, max_by_key_mem hvip, (except_pure_eq_ok.mp h).symm, max_by_key_max hvip⟩

/-- A request gets a tunnel request exactly when the workload has an
    application tunnel.  Its PROXY header carries the inner address, or
    for a hostname a VIP of the hostname's service, one on the
    connection's network and of IPv4 first. -/
theorem find_inbound_upstream_tunnel {hbone_addr : HboneAddress} {target : SocketAddr}
    {tunnel : Option TunnelRequest} {services : List Service}
    (h : find_inbound_upstream illegal_ports state conn local_workload hbone_addr =
      .ok (target, tunnel, services)) :
    (tunnel.isSome ↔ local_workload.application_tunnel.isSome) ∧
      ∀ tr, tunnel = some tr →
        (∀ a, hbone_addr = .SocketAddr a → tr.tunnel_target = a) ∧
        ∀ hostname port, hbone_addr = .SvcHostname hostname port →
          ∃ svc, services = [svc] ∧ ∃ vip ∈ svc.vips, tr.tunnel_target = ⟨vip.address, port⟩ ∧
            ∀ v ∈ svc.vips, tunnelVipKey conn v ≤ tunnelVipKey conn vip := by
  obtain ⟨dest, -, -, hkind, hroute⟩ := find_inbound_upstream_eq_ok h
  rcases hroute with ⟨happ, -, rfl⟩ | ⟨app, tt, happ, htt, -, rfl⟩
  · exact ⟨by simp [happ], fun tr htr => by cases htr⟩
  · refine ⟨by simp [happ], fun tr htr => ?_⟩
    cases htr
    refine ⟨fun a ha => ?_, fun hostname port hh => ?_⟩
    · subst ha
      exact (Except.ok.inj htt).symm
    · subst hh
      -- a hostname request has the one service found for it
      rcases hkind with ⟨_, _, svc, hh, -, -, rfl⟩ | ⟨a, ha, -, -⟩
      · obtain ⟨rfl, rfl⟩ := HboneAddress.SvcHostname.inj hh
        exact ⟨svc, rfl, tunnelTarget_SvcHostname htt⟩
      · cases ha

theorem find_inbound_upstream_tunnel_hostname :
    find_inbound_upstream proxyPorts inboundState inboundConn localWl
        (.SvcHostname svcDefault.hostname 80) = .ok hostnameHop ∧
      ((hostnameHop.2.1).isSome ↔ localWl.application_tunnel.isSome) ∧
      ∀ tr, hostnameHop.2.1 = some tr →
        (∀ a, HboneAddress.SvcHostname svcDefault.hostname 80 = .SocketAddr a →
          tr.tunnel_target = a) ∧
        ∀ hostname port, HboneAddress.SvcHostname svcDefault.hostname 80 = .SvcHostname hostname port →
          ∃ svc, hostnameHop.2.2 = [svc] ∧ ∃ vip ∈ svc.vips, tr.tunnel_target = ⟨vip.address, port⟩ ∧
            ∀ v ∈ svc.vips, tunnelVipKey inboundConn v ≤ tunnelVipKey inboundConn vip :=
  have h : find_inbound_upstream proxyPorts inboundState inboundConn localWl
      (.SvcHostname svcDefault.hostname 80) = .ok hostnameHop := rfl
  ⟨h, find_inbound_upstream_tunnel h⟩

end Upstream

/-! ## The service reported -/

/-- A service whose target port, or the endpoint's mapping of one of its
    ports, is the destination port. -/
def PortMatches (conn : Connection) (dest : Workload) (s : Service) : Prop :=
  ∃ p ∈ s.ports.entries, p.2 = conn.dst.port ∨
    ((s.endpoints.get dest.uid).bind fun e => e.port.lookup p.1) = some conn.dst.port

end Proxy

end Ztunnel
