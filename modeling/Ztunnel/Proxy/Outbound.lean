/-
  Ztunnel.Proxy.Outbound

  How the outbound proxy routes a connection (src/proxy/outbound.rs,
  `OutboundConnection::build_request`, with `check_from_waypoint` and
  `check_gateway_address` of src/proxy.rs).  Traffic to a service's VIP
  goes to the service's waypoint if it has one.  Otherwise the upstream is
  looked up: with none, traffic to a service is refused and any other is
  passed through unchanged; traffic to a workload with a waypoint goes to
  the waypoint, unless it was addressed to a service or comes from that
  waypoint; the rest goes to the workload, over HBONE on the proxy's HBONE
  port if the workload speaks it.

  The proxy's configuration enters as its network and its HBONE port.  The
  three shapes of request are definitions of their own
  (`waypointRequest`, `passthroughRequest`, `directRequest`), and the part
  of `build_request` after the service lookup is `buildUpstreamRequest`.

  Above the code: `GovernedBy` names the waypoint that traffic to a target
  must cross, and `ViaWaypoint` a request that crosses it.  A request
  crosses the waypoint that governs its target
  (`build_request_crosses_waypoint`), and one whose target no waypoint
  governs goes straight to its upstream or is passed through
  (`build_request_direct_of_ungoverned`).  A request is passed through
  exactly when its target is no service VIP and has no upstream
  (`build_request_passthrough_iff`).
-/

import Ztunnel.State.Demand

namespace Ztunnel

namespace Proxy

open Dns (Address)

/-- Whether a workload of the gateway address satisfies the predicate: the
    workload it names, or a stored workload of an endpoint of the service
    it names. -/
def check_gateway_address (state : DemandProxyState) (gateway_address : Option GatewayAddress)
    (predicate : Workload → Bool) : Bool :=
  match gateway_address with
  | none => false
  | some gateway_address =>
    match state.fetch_destination gateway_address.destination with
    | some (.Workload wl) => predicate wl
    | some (.Service svc) =>
      -- by UID, since an endpoint may have no IP
      svc.endpoints.iter.any fun ep => (state.fetch_workload_by_uid ep.workload_uid).any predicate
    | none => false

/-- Whether the source, by identity and IP, is a workload of the
    upstream's waypoint. -/
def check_from_waypoint (state : DemandProxyState) (upstream : Workload)
    (src_identity : Option Identity) (src_ip : IpAddr) : Bool :=
  let is_waypoint := fun (wl : Workload) =>
    some wl.identity == src_identity && wl.workload_ips.contains src_ip
  check_gateway_address state upstream.waypoint is_waypoint

/-- What `build_request` computes about a connection. -/
structure Request where
  protocol : Protocol
  source : Workload
  /-- the inner (:authority) address of an HBONE request -/
  hbone_target_destination : Option SocketAddr
  /-- the workload the connection goes to: a waypoint's rather than the
      target's when it crosses one, none when passed through -/
  actual_destination_workload : Option Workload
  intended_destination_service : Option ServiceDescription
  /-- the next hop -/
  actual_destination : SocketAddr
  /-- the identities the next hop may present -/
  upstream_sans : List Identity
  deriving DecidableEq

/-- The request to a waypoint: HBONE to it, with the original target as
    the inner address. -/
def waypointRequest (source_workload : Workload) (target : SocketAddr) (waypoint : Upstream)
    (intended_destination_service : Option ServiceDescription) : Request where
  protocol := .HBONE
  source := source_workload
  hbone_target_destination := some target
  actual_destination_workload := some waypoint.workload
  intended_destination_service := intended_destination_service
  actual_destination := waypoint.workload_socket_addr
  upstream_sans := waypoint.workload_and_services_san

/-- The request for a target without upstream: plain TCP to the target. -/
def passthroughRequest (source_workload : Workload) (target : SocketAddr) : Request where
  protocol := .TCP
  source := source_workload
  hbone_target_destination := none
  actual_destination_workload := none
  intended_destination_service := none
  actual_destination := target
  upstream_sans := []

/-- The request straight to the upstream; only HBONE changes the port, to
    the proxy's HBONE port, and carries the workload's address inside. -/
def directRequest (hbone_port : UInt16) (source_workload : Workload) (us : Upstream) : Request where
  protocol := us.workload.protocol
  source := source_workload
  hbone_target_destination :=
    match us.workload.protocol with
    | .HBONE => some us.workload_socket_addr
    | .TCP => none
  actual_destination_workload := some us.workload
  intended_destination_service := us.destination_service
  actual_destination :=
    match us.workload.protocol with
    | .HBONE => ⟨us.selected_workload_ip, hbone_port⟩
    | .TCP => us.workload_socket_addr
  upstream_sans := us.workload_and_services_san

/-- `build_request` after the service lookup; `svc_addressed` says that the
    target is a service's VIP whose service has no waypoint. -/
def buildUpstreamRequest (state : DemandProxyState) (hbone_port : UInt16)
    (source_workload : Workload) (downstream : IpAddr) (target : SocketAddr)
    (svc_addressed : Bool) : Except Error Request := do
  match ← state.fetch_upstream source_workload.network source_workload target .Standard with
  | none =>
    if svc_addressed then throw (.NoHealthyUpstream target)
    else pure (passthroughRequest source_workload target)
  | some us =>
    let from_waypoint :=
      check_from_waypoint state us.workload (some source_workload.identity) downstream
    -- a waypoint is not crossed twice, nor after a service's lookup
    if !from_waypoint && !svc_addressed then
      match ← state.fetch_workload_waypoint us.workload source_workload target with
      | some waypoint =>
        pure (waypointRequest source_workload target waypoint us.destination_service)
      | none => pure (directRequest hbone_port source_workload us)
    else pure (directRequest hbone_port source_workload us)

/-- `OutboundConnection::build_request`, for a proxy on `network` whose
    HBONE port is `hbone_port`. -/
def build_request (state : DemandProxyState) (network : String) (hbone_port : UInt16)
    (source_workload : Workload) (downstream : IpAddr) (target : SocketAddr) :
    Except Error Request :=
  match state.fetch_address ⟨network, target.ip⟩ with
  | some (.Service target_service) => do
    match ← state.fetch_service_waypoint target_service source_workload target with
    | some waypoint =>
      pure (waypointRequest source_workload target waypoint
        (some (ServiceDescription.ofService target_service)))
    | none => buildUpstreamRequest state hbone_port source_workload downstream target true
  | _ => buildUpstreamRequest state hbone_port source_workload downstream target false

/-! ## What a request can be -/

section Routing

variable {state : DemandProxyState} {hbone_port : UInt16} {src : Workload} {downstream : IpAddr}
  {target : SocketAddr} {req : Request}

/-- A request after the service lookup is passed through when there is no
    upstream and the target was no service's; goes to the upstream
    workload's waypoint when it has one, the target was no service's and
    the source is not that waypoint; and goes straight to the upstream
    otherwise. -/
theorem buildUpstreamRequest_eq_ok {svc_addressed : Bool}
    (h : buildUpstreamRequest state hbone_port src downstream target svc_addressed = .ok req) :
    (state.fetch_upstream src.network src target .Standard = .ok none ∧ svc_addressed = false ∧
      req = passthroughRequest src target) ∨
    ∃ us, state.fetch_upstream src.network src target .Standard = .ok (some us) ∧
      ((svc_addressed = false ∧
          check_from_waypoint state us.workload (some src.identity) downstream = false ∧
          ∃ gw wp, us.workload.waypoint = some gw ∧ state.fetch_waypoint gw src target = .ok wp ∧
            req = waypointRequest src target wp us.destination_service) ∨
        ((svc_addressed = true ∨
            check_from_waypoint state us.workload (some src.identity) downstream = true ∨
            us.workload.waypoint = none) ∧
          req = directRequest hbone_port src us)) := by
  unfold buildUpstreamRequest at h
  obtain ⟨up, hup, h⟩ := except_bind_eq_ok.mp h
  rcases up with _ | us
  · refine .inl ⟨hup, ?_⟩
    cases svc_addressed
    · exact ⟨rfl, (except_pure_eq_ok.mp h).symm⟩
    · cases h
  · refine .inr ⟨us, hup, ?_⟩
    dsimp only at h
    by_cases hcross :
        (!check_from_waypoint state us.workload (some src.identity) downstream &&
          !svc_addressed) = true
    · rw [if_pos hcross] at h
      simp only [Bool.and_eq_true, Bool.not_eq_true'] at hcross
      obtain ⟨owp, howp, h⟩ := except_bind_eq_ok.mp h
      rcases owp with _ | wp
      · exact .inr ⟨.inr (.inr (state.fetchOptionalWaypoint_eq_ok_none.mp howp)),
          (except_pure_eq_ok.mp h).symm⟩
      · obtain ⟨gw, hgw, hwp⟩ := state.fetchOptionalWaypoint_eq_ok_some.mp howp
        exact .inl ⟨hcross.2, hcross.1, gw, wp, hgw, hwp, (except_pure_eq_ok.mp h).symm⟩
    · rw [if_neg hcross] at h
      refine .inr ⟨?_, (except_pure_eq_ok.mp h).symm⟩
      -- the source is the waypoint, or the target was a service's
      cases hfrom : check_from_waypoint state us.workload (some src.identity) downstream
      · cases svc_addressed
        · simp [hfrom] at hcross
        · exact .inl rfl
      · exact .inr (.inl rfl)

/-- A request is one to the waypoint of the service whose VIP the target
    is, or one built after the service lookup. -/
theorem build_request_eq_ok {network : String}
    (h : build_request state network hbone_port src downstream target = .ok req) :
    (∃ svc, state.fetch_address ⟨network, target.ip⟩ = some (.Service svc) ∧
      ((∃ gw wp, svc.waypoint = some gw ∧ state.fetch_waypoint gw src target = .ok wp ∧
          req = waypointRequest src target wp (some (ServiceDescription.ofService svc))) ∨
        (svc.waypoint = none ∧
          buildUpstreamRequest state hbone_port src downstream target true = .ok req))) ∨
    ((∀ svc, state.fetch_address ⟨network, target.ip⟩ ≠ some (.Service svc)) ∧
      buildUpstreamRequest state hbone_port src downstream target false = .ok req) := by
  unfold build_request at h
  split at h
  · rename_i svc hsvc
    refine .inl ⟨svc, hsvc, ?_⟩
    obtain ⟨owp, howp, h⟩ := except_bind_eq_ok.mp h
    rcases owp with _ | wp
    · exact .inr ⟨state.fetchOptionalWaypoint_eq_ok_none.mp howp, h⟩
    · obtain ⟨gw, hgw, hwp⟩ := state.fetchOptionalWaypoint_eq_ok_some.mp howp
      exact .inl ⟨gw, wp, hgw, hwp, (except_pure_eq_ok.mp h).symm⟩
  · rename_i hnot
    exact .inr ⟨hnot, h⟩

end Routing

/-! ## Waypoints are never bypassed -/

/-- The waypoint that traffic to `target` must cross: the waypoint of the
    service whose VIP it is, or else the waypoint of the workload it goes
    to, unless the source is that waypoint. -/
def GovernedBy (state : DemandProxyState) (network : String) (src : Workload)
    (downstream : IpAddr) (target : SocketAddr) (gw : GatewayAddress) : Prop :=
  (∃ svc, state.fetch_address ⟨network, target.ip⟩ = some (.Service svc) ∧
    svc.waypoint = some gw) ∨
  ((∀ svc, state.fetch_address ⟨network, target.ip⟩ ≠ some (.Service svc)) ∧
    ∃ us, state.fetch_upstream src.network src target .Standard = .ok (some us) ∧
      us.workload.waypoint = some gw ∧
      check_from_waypoint state us.workload (some src.identity) downstream = false)

/-- The request crosses the waypoint: it goes over HBONE to the upstream
    the waypoint resolves to, verifying that upstream's identities, with
    the original target inside. -/
def ViaWaypoint (state : DemandProxyState) (src : Workload) (target : SocketAddr)
    (gw : GatewayAddress) (req : Request) : Prop :=
  ∃ wp, state.fetch_waypoint gw src target = .ok wp ∧ req.protocol = .HBONE ∧
    req.hbone_target_destination = some target ∧
    req.actual_destination_workload = some wp.workload ∧
    req.actual_destination = wp.workload_socket_addr ∧
    req.upstream_sans = wp.workload_and_services_san

section Routing

variable {state : DemandProxyState} {network : String} {hbone_port : UInt16} {src : Workload}
  {downstream : IpAddr} {target : SocketAddr} {req : Request}

theorem viaWaypoint_waypointRequest {gw : GatewayAddress} {wp : Upstream}
    (intended : Option ServiceDescription) (hwp : state.fetch_waypoint gw src target = .ok wp) :
    ViaWaypoint state src target gw (waypointRequest src target wp intended) :=
  ⟨wp, hwp, rfl, rfl, rfl, rfl, rfl⟩

/-- Every request crosses the waypoint that governs its target: a
    service's waypoint for traffic to its VIP, and a workload's for traffic
    to it, from any source but the waypoint itself. -/
theorem build_request_crosses_waypoint {gw : GatewayAddress}
    (h : build_request state network hbone_port src downstream target = .ok req)
    (hgw : GovernedBy state network src downstream target gw) :
    ViaWaypoint state src target gw req := by
  rcases build_request_eq_ok h with ⟨svc, hsvc, hsvcreq⟩ | ⟨hnot, hup⟩
  · -- the target is a service's VIP: only the service's waypoint governs it
    rcases hgw with ⟨svc', hsvc', hgw⟩ | ⟨hnot, -⟩
    · rw [hsvc, Option.some.injEq, Address.Service.injEq] at hsvc'
      subst hsvc'
      rcases hsvcreq with ⟨gw', wp, hgw', hwp, rfl⟩ | ⟨hnone, -⟩
      · rw [hgw, Option.some.injEq] at hgw'
        subst hgw'
        exact viaWaypoint_waypointRequest _ hwp
      · rw [hgw] at hnone
        cases hnone
    · exact absurd hsvc (hnot svc)
  · rcases hgw with ⟨svc, hsvc, -⟩ | ⟨-, us, hus, hgw, hfrom⟩
    · exact absurd hsvc (hnot svc)
    · rcases buildUpstreamRequest_eq_ok hup with ⟨hnone, -, -⟩ | ⟨us', hus', hreq⟩
      · rw [hus] at hnone
        cases hnone
      · rw [hus, Except.ok.injEq, Option.some.injEq] at hus'
        subst hus'
        rcases hreq with ⟨-, -, gw', wp, hgw', hwp, rfl⟩ | ⟨hdirect, -⟩
        · rw [hgw, Option.some.injEq] at hgw'
          subst hgw'
          exact viaWaypoint_waypointRequest _ hwp
        · -- going straight needs a reason the code does not have here
          rcases hdirect with hsvc | hfrom' | hnone
          · cases hsvc
          · rw [hfrom] at hfrom'
            cases hfrom'
          · rw [hgw] at hnone
            cases hnone

/-- A waypoint workload at 10.0.0.9. -/
def waypointProxy : Workload :=
  { ProxyState.lbWorkload "waypoint" ⟨"", "", ""⟩ 1 with workload_ips := [.V4 0x0a000009] }

/-- A workload at 10.0.0.2 without a waypoint. -/
def serverWl : Workload :=
  { ProxyState.lbWorkload "server" ⟨"", "", ""⟩ 1 with workload_ips := [.V4 0x0a000002] }

/-- The waypoint by its address, on its HBONE port. -/
def waypointGateway : GatewayAddress := ⟨.Address ⟨"network", .V4 0x0a000009⟩, 15008⟩

/-- A service at 10.0.0.1 behind the waypoint. -/
def waypointedSvc : Service :=
  { ProxyState.lbService [(80, 8080)] [] none with
    vips := [⟨"network", .V4 0x0a000001⟩], waypoint := some waypointGateway }

/-- The two workloads and the service, on the network "network". -/
def meshState : DemandProxyState where
  state :=
    { workloads := ((WorkloadStore.new none).insert waypointProxy).insert serverWl
      services := { ServiceStore.default with
        by_vip := (∅ : HashMap NetworkAddress Service).insert ⟨"network", .V4 0x0a000001⟩
          waypointedSvc }
      policies := PolicyStore.default }
  dns_resolver _ := none
  lb_rng := .first
  dns_rng := .first

/-- Port 80 of the service's VIP. -/
def svcTarget : SocketAddr := ⟨.V4 0x0a000001, 80⟩

/-- What `ProxyState.lbClient` sends there: HBONE to the waypoint's port. -/
def svcRequest : Request :=
  waypointRequest ProxyState.lbClient svcTarget ⟨waypointProxy, .V4 0x0a000009, 15008, [], none⟩
    (some (.ofService waypointedSvc))

theorem build_request_crosses_waypoint_waypointedSvc :
    build_request meshState "network" 15008 ProxyState.lbClient (.V4 0x0a000064) svcTarget =
        .ok svcRequest ∧
      ViaWaypoint meshState ProxyState.lbClient svcTarget waypointGateway svcRequest :=
  have hreq : build_request meshState "network" 15008 ProxyState.lbClient (.V4 0x0a000064)
      svcTarget = .ok svcRequest := rfl
  ⟨hreq, build_request_crosses_waypoint hreq (.inl ⟨waypointedSvc, rfl, rfl⟩)⟩

/-- A request whose target no waypoint governs goes straight to the
    upstream, or is passed through. -/
theorem build_request_direct_of_ungoverned
    (h : build_request state network hbone_port src downstream target = .ok req)
    (hfree : ∀ gw, ¬ GovernedBy state network src downstream target gw) :
    req = passthroughRequest src target ∨
      ∃ us, state.fetch_upstream src.network src target .Standard = .ok (some us) ∧
        req = directRequest hbone_port src us := by
  rcases build_request_eq_ok h with ⟨svc, hsvc, hsvcreq⟩ | ⟨hnot, hup⟩
  · rcases hsvcreq with ⟨gw, _, hgw, -, -⟩ | ⟨-, hup⟩
    · exact absurd (.inl ⟨svc, hsvc, hgw⟩) (hfree gw)
    · rcases buildUpstreamRequest_eq_ok hup with ⟨-, hfalse, -⟩ | ⟨us, hus, hreq⟩
      · cases hfalse
      · rcases hreq with ⟨hfalse, -⟩ | ⟨-, rfl⟩
        · cases hfalse
        · exact .inr ⟨us, hus, rfl⟩
  · rcases buildUpstreamRequest_eq_ok hup with ⟨-, -, rfl⟩ | ⟨us, hus, hreq⟩
    · exact .inl rfl
    · rcases hreq with ⟨-, hfrom, gw, -, hgw, -, -⟩ | ⟨-, rfl⟩
      · exact absurd (.inr ⟨hnot, us, hus, hgw, hfrom⟩) (hfree gw)
      · exact .inr ⟨us, hus, rfl⟩

/-- Port 8080 of the workload without a waypoint. -/
def serverTarget : SocketAddr := ⟨.V4 0x0a000002, 8080⟩

/-- The upstream `ProxyState.lbClient` finds there. -/
def serverUpstream : Upstream := ⟨serverWl, .V4 0x0a000002, 8080, [], none⟩

theorem build_request_direct_of_ungoverned_serverWl :
    build_request meshState "network" 15008 ProxyState.lbClient (.V4 0x0a000064) serverTarget =
        .ok (directRequest 15008 ProxyState.lbClient serverUpstream) ∧
      (∀ gw, ¬ GovernedBy meshState "network" ProxyState.lbClient (.V4 0x0a000064) serverTarget gw) ∧
      (directRequest 15008 ProxyState.lbClient serverUpstream =
          passthroughRequest ProxyState.lbClient serverTarget ∨
        ∃ us, meshState.fetch_upstream ProxyState.lbClient.network ProxyState.lbClient serverTarget
            .Standard = .ok (some us) ∧
          directRequest 15008 ProxyState.lbClient serverUpstream =
            directRequest 15008 ProxyState.lbClient us) := by
  have hreq : build_request meshState "network" 15008 ProxyState.lbClient (.V4 0x0a000064)
      serverTarget = .ok (directRequest 15008 ProxyState.lbClient serverUpstream) := rfl
  -- the target is a workload, and the upstream found for it has no waypoint
  have hfree : ∀ gw,
      ¬ GovernedBy meshState "network" ProxyState.lbClient (.V4 0x0a000064) serverTarget gw := by
    have haddr : meshState.fetch_address ⟨"network", serverTarget.ip⟩ = some (.Workload serverWl) :=
      rfl
    have hup : meshState.fetch_upstream ProxyState.lbClient.network ProxyState.lbClient
        serverTarget .Standard = .ok (some serverUpstream) := rfl
    rintro gw (⟨svc, hsvc, -⟩ | ⟨-, us, hus, hgw, -⟩)
    · rw [haddr] at hsvc
      cases hsvc
    · rw [hup, Except.ok.injEq, Option.some.injEq] at hus
      subst hus
      cases hgw
  exact ⟨hreq, hfree, build_request_direct_of_ungoverned hreq hfree⟩

/-! ## Passthrough -/

/-- Traffic is passed through exactly when its target is no service's VIP
    and has no upstream: traffic to a service without endpoints is never
    passed through. -/
theorem build_request_passthrough_iff :
    (∃ req, build_request state network hbone_port src downstream target = .ok req ∧
        req.actual_destination_workload = none) ↔
      (∀ svc, state.fetch_address ⟨network, target.ip⟩ ≠ some (.Service svc)) ∧
        state.state.find_upstream state.lb_rng src.network src target .Standard = none := by
  constructor
  · rintro ⟨req, h, hnone⟩
    rcases build_request_eq_ok h with ⟨svc, -, hsvcreq⟩ | ⟨hnot, hup⟩
    · -- a service's traffic reaches a workload or fails
      rcases hsvcreq with ⟨_, _, -, -, rfl⟩ | ⟨-, hup⟩
      · cases hnone
      · rcases buildUpstreamRequest_eq_ok hup with ⟨-, hfalse, -⟩ | ⟨us, -, hreq⟩
        · cases hfalse
        · rcases hreq with ⟨-, -, _, _, -, -, rfl⟩ | ⟨-, rfl⟩ <;> cases hnone
    · refine ⟨hnot, ?_⟩
      rcases buildUpstreamRequest_eq_ok hup with ⟨hfetch, -, -⟩ | ⟨us, -, hreq⟩
      · exact state.finalize_upstream_eq_ok_none.mp hfetch
      · rcases hreq with ⟨-, -, _, _, -, -, rfl⟩ | ⟨-, rfl⟩ <;> cases hnone
  · rintro ⟨hnot, hfind⟩
    have hfetch : state.fetch_upstream src.network src target .Standard = .ok none := by
      rw [DemandProxyState.fetch_upstream, hfind]
      rfl
    refine ⟨passthroughRequest src target, ?_, rfl⟩
    have hupstream :
        buildUpstreamRequest state hbone_port src downstream target false =
          .ok (passthroughRequest src target) := by
      rw [buildUpstreamRequest, hfetch]
      rfl
    unfold build_request
    split
    · rename_i svc hsvc
      exact absurd hsvc (hnot svc)
    · exact hupstream

end Routing

end Proxy

end Ztunnel
