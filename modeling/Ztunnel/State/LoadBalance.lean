/-
  Ztunnel.State.LoadBalance

  The choice of an upstream endpoint for a service (src/state.rs,
  `ProxyState::load_balance` and `find_upstream_from_service`).

  `load_balance` keeps the service's endpoints whose workload is stored
  and that pass the port check of the resolution mode; a Strict or
  Failover load balancer then ranks them by the routing preferences on
  which their workload agrees with the source, up to the first it does not
  (Strict drops those short of all of them), and keeps the best rank; the
  capacity-weighted random choice is made last.  `find_upstream_from_service`
  then resolves the target port: the endpoint's own mapping, else the
  service's, else the service port itself for a workload with an
  application tunnel port.

  The part of `load_balance` before the random choice is its own function,
  `load_balance_options`, as the `options` of the source.  The random
  choice is a `WeightedChoice`.

  Above the code: `Eligible` and `rank` say which endpoints the balancer
  considers and how it ranks them, and `load_balance_sound` that what it
  returns is an eligible endpoint of positive capacity and of the best
  rank.  Two inputs show where the code misses what its comments say:
  a Failover service whose best tier has no capacity gets no endpoint
  (`failover_empty_top_tier`), and a waypoint endpoint that the port check
  lets through may have no port to resolve (`waypoint_endpoint_without_port`).
-/

import Ztunnel.State.ProxyState
import Ztunnel.Lib.WeightedChoice

namespace Ztunnel

inductive ServiceResolutionMode where
  /-- a normal service -/
  | Standard
  /-- a waypoint proxy -/
  | Waypoint
  deriving DecidableEq, Repr

namespace ProxyState

/-- Whether the source and a workload agree on one routing preference. -/
def scopeMatches (src wl : Workload) : LoadBalancerScopes → Bool
  | .Region => src.locality.region == wl.locality.region
  | .Zone => src.locality.zone == wl.locality.zone
  | .Subzone => src.locality.subzone == wl.locality.subzone
  | .Node => src.node == wl.node
  | .Cluster => src.cluster_id == wl.cluster_id
  | .Network => src.network == wl.network

/-- The rank loop: one more for each preference on which the two agree, up
    to the first on which they do not (`break`). -/
def rankLoop (src wl : Workload) : List LoadBalancerScopes → Nat → Nat
  | [], rank => rank
  | target :: rest, rank =>
    if scopeMatches src wl target then rankLoop src wl rest (rank + 1) else rank

/-- The port check of the `filter_map` closure over the endpoints: whether
    the mode drops the endpoint. -/
def filtersOut (svc_port : UInt16) (target_port : Option UInt16) (ep : Endpoint) (wl : Workload) :
    ServiceResolutionMode → Bool
  -- the service maps the port to 0, and the endpoint does not map it
  | .Standard => target_port.getD 0 == 0 && !(ep.port.lookup svc_port).isSome
  -- an application tunnel does not need the port on the service
  | .Waypoint => target_port.isNone && wl.application_tunnel.isNone

/-- The `filter_map` closure over the service's endpoints: the endpoint's
    workload, unless it is not stored or fails the mode's port check. -/
def endpointWorkload (self : ProxyState) (svc_port : UInt16)
    (resolution_mode : ServiceResolutionMode) (target_port : Option UInt16) (ep : Endpoint) :
    Option (Endpoint × Workload) :=
  match self.workloads.find_uid ep.workload_uid with
  | none => none
  | some wl =>
    if filtersOut svc_port target_port ep wl resolution_mode then none else some (ep, wl)

/-- The ranking closure: the endpoint with its rank, dropped by Strict when
    it falls short of all the preferences. -/
def rankEndpoint (src : Workload) (lb : LoadBalancer) (e : Endpoint × Workload) :
    Option (Nat × Endpoint × Workload) :=
  let rank := rankLoop src e.2 lb.routing_preferences 0
  if lb.mode == .Strict && rank != lb.routing_preferences.length then none
  else some (rank, e.1, e.2)

/-- The ranking of a Strict or Failover load balancer: the endpoints of the
    best rank; `none` is the `?` on the maximum of no ranks. -/
def rankedOptions (src : Workload) (lb : LoadBalancer) (endpoints : List (Endpoint × Workload)) :
    Option (List (Endpoint × Workload)) :=
  let ranks := endpoints.filterMap (rankEndpoint src lb)
  match (ranks.map (·.1)).max? with
  | none => none
  | some max => some ((ranks.filter fun r => r.1 == max).map (·.2))

/-- What `load_balance` chooses among; `none` when it returns before the
    choice. -/
def load_balance_options (self : ProxyState) (src : Workload) (svc : Service) (svc_port : UInt16)
    (resolution_mode : ServiceResolutionMode) : Option (List (Endpoint × Workload)) :=
  let target_port := svc.ports.lookup svc_port
  -- the port does not exist on the service at all
  if resolution_mode == .Standard && target_port.isNone then none
  else
    let endpoints :=
      svc.endpoints.iter.filterMap (self.endpointWorkload svc_port resolution_mode target_port)
    match svc.load_balancer with
    | some lb => if lb.mode != .Standard then rankedOptions src lb endpoints else some endpoints
    | none => some endpoints

/-- `load_balance`: a capacity-weighted choice among the options. -/
def load_balance (rng : WeightedChoice (Endpoint × Workload)) (self : ProxyState)
    (src : Workload) (svc : Service) (svc_port : UInt16) (resolution_mode : ServiceResolutionMode) :
    Option (Endpoint × Workload) :=
  (self.load_balance_options src svc svc_port resolution_mode).bind fun options =>
    rng.choose_weighted options fun (_, wl) => wl.capacity.toNat

/-- `find_upstream_from_service`: the chosen workload with the port to
    reach it on. -/
def find_upstream_from_service (rng : WeightedChoice (Endpoint × Workload)) (self : ProxyState)
    (source_workload : Workload) (svc_port : UInt16) (resolution_mode : ServiceResolutionMode)
    (svc : Service) : Option (Workload × UInt16 × Option Service) :=
  match self.load_balance rng source_workload svc svc_port resolution_mode with
  | none => none
  | some (ep, wl) =>
    let svc_target_port := (svc.ports.lookup svc_port).getD 0
    let target_port :=
      match ep.port.lookup svc_port with
      | some ep_target_port => some ep_target_port
      | none =>
        if svc_target_port > 0 then some svc_target_port
        else
          match wl.application_tunnel with
          | some ⟨_, some _⟩ => some svc_port
          | _ => none
    target_port.map fun target_port => (wl, target_port, some svc)

/-! ## Which endpoints the balancer considers -/

/-- The rank of a workload: the longest prefix of the preferences on which
    it agrees with the source. -/
def rank (src wl : Workload) (prefs : List LoadBalancerScopes) : Nat :=
  (prefs.takeWhile (scopeMatches src wl)).length

/-- The port check of each mode: a Standard lookup needs the port on the
    service, and a known target port or a mapping on the endpoint; a
    waypoint lookup needs the port on the service or an application
    tunnel. -/
def PortEligible (svc : Service) (svc_port : UInt16) : ServiceResolutionMode → Endpoint →
    Workload → Prop
  | .Standard, ep, _ =>
    ∃ t, svc.ports.lookup svc_port = some t ∧ (t ≠ 0 ∨ (ep.port.lookup svc_port).isSome)
  | .Waypoint, _, wl => (svc.ports.lookup svc_port).isSome ∨ wl.application_tunnel.isSome

/-- An endpoint of the service whose workload is stored and that passes
    the port check. -/
def Eligible (self : ProxyState) (svc : Service) (svc_port : UInt16)
    (mode : ServiceResolutionMode) (ep : Endpoint) (wl : Workload) : Prop :=
  ep ∈ svc.endpoints.iter ∧ self.workloads.find_uid ep.workload_uid = some wl ∧
    PortEligible svc svc_port mode ep wl

theorem rankLoop_eq (src wl : Workload) :
    ∀ (prefs : List LoadBalancerScopes) (n : Nat), rankLoop src wl prefs n = n + rank src wl prefs
  | [], n => by simp [rankLoop, rank]
  | target :: rest, n => by
    unfold rankLoop rank
    by_cases h : scopeMatches src wl target = true
    · rw [if_pos h, List.takeWhile_cons_of_pos h, List.length_cons, rankLoop_eq src wl rest (n + 1)]
      unfold rank
      omega
    · rw [if_neg h, List.takeWhile_cons_of_neg h]
      simp

theorem rank_le_length (src wl : Workload) (prefs : List LoadBalancerScopes) :
    rank src wl prefs ≤ prefs.length :=
  (List.takeWhile_sublist _).length_le

variable {self : ProxyState} {src : Workload} {svc : Service} {svc_port : UInt16}
  {mode : ServiceResolutionMode}

theorem endpointWorkload_eq_some {target_port : Option UInt16} {ep ep' : Endpoint} {wl : Workload} :
    self.endpointWorkload svc_port mode target_port ep = some (ep', wl) ↔
      ep' = ep ∧ self.workloads.find_uid ep.workload_uid = some wl ∧
        filtersOut svc_port target_port ep wl mode = false := by
  unfold endpointWorkload
  cases hw : self.workloads.find_uid ep.workload_uid with
  | none => simp
  | some w =>
    dsimp only
    cases hf : filtersOut svc_port target_port ep w mode
    · simp only [Bool.false_eq_true, if_false, Option.some.injEq, Prod.mk.injEq]
      constructor
      · rintro ⟨rfl, rfl⟩
        exact ⟨rfl, rfl, hf⟩
      · rintro ⟨rfl, rfl, -⟩
        exact ⟨rfl, rfl⟩
    · simp only [if_true, reduceCtorEq, Option.some.injEq, false_iff, not_and]
      rintro - rfl
      simp [hf]

/-- Past the early return, the port check keeps exactly the endpoints that
    pass `PortEligible`. -/
theorem filtersOut_eq_false_iff
    (hret : (mode == .Standard && (svc.ports.lookup svc_port).isNone) = false)
    {ep : Endpoint} {wl : Workload} :
    filtersOut svc_port (svc.ports.lookup svc_port) ep wl mode = false ↔
      PortEligible svc svc_port mode ep wl := by
  cases mode with
  | Standard =>
    cases ht : svc.ports.lookup svc_port with
    | none => simp [ht] at hret
    | some t =>
      simp only [filtersOut, ht, Option.getD_some, PortEligible, Option.some.injEq,
        exists_eq_left', Bool.and_eq_false_iff, beq_eq_false_iff_ne, ne_eq, Bool.not_eq_false']
  | Waypoint =>
    simp only [filtersOut, PortEligible, Bool.and_eq_false_iff, Option.isNone_eq_false_iff]

/-- Past the early return, the filtered endpoints are the eligible ones. -/
theorem mem_endpoints_iff (hret : (mode == .Standard && (svc.ports.lookup svc_port).isNone) = false)
    {ep : Endpoint} {wl : Workload} :
    (ep, wl) ∈ svc.endpoints.iter.filterMap
        (self.endpointWorkload svc_port mode (svc.ports.lookup svc_port)) ↔
      self.Eligible svc svc_port mode ep wl := by
  rw [List.mem_filterMap]
  constructor
  · rintro ⟨ep', hmem, hsome⟩
    obtain ⟨rfl, hwl, hport⟩ := endpointWorkload_eq_some.mp hsome
    exact ⟨hmem, hwl, (filtersOut_eq_false_iff hret).mp hport⟩
  · rintro ⟨hmem, hwl, hport⟩
    exact ⟨ep, hmem, endpointWorkload_eq_some.mpr ⟨rfl, hwl, (filtersOut_eq_false_iff hret).mpr hport⟩⟩

theorem mem_ranks {lb : LoadBalancer} {endpoints : List (Endpoint × Workload)} {r : Nat}
    {e : Endpoint × Workload} :
    (r, e) ∈ endpoints.filterMap (rankEndpoint src lb) ↔
      e ∈ endpoints ∧ r = rank src e.2 lb.routing_preferences ∧
        (lb.mode = .Strict → r = lb.routing_preferences.length) := by
  rw [List.mem_filterMap]
  constructor
  · rintro ⟨e', he', hsome⟩
    unfold rankEndpoint at hsome
    dsimp only at hsome
    rw [rankLoop_eq, Nat.zero_add] at hsome
    split at hsome
    · cases hsome
    · rename_i hstrict
      cases hsome
      refine ⟨he', rfl, fun hs => ?_⟩
      simpa [hs] using hstrict
  · rintro ⟨he, rfl, hstrict⟩
    refine ⟨e, he, ?_⟩
    unfold rankEndpoint
    dsimp only
    rw [rankLoop_eq, Nat.zero_add, if_neg]
    by_cases hs : lb.mode = .Strict
    · simp [hs, hstrict hs]
    · simp [hs]

/-- What the ranking keeps: endpoints it was given, of full rank under
    Strict, and of the best rank among those it ranked. -/
theorem mem_rankedOptions {lb : LoadBalancer} {endpoints opts : List (Endpoint × Workload)}
    (h : rankedOptions src lb endpoints = some opts) {x : Endpoint × Workload} (hx : x ∈ opts) :
    x ∈ endpoints ∧
      (lb.mode = .Strict → rank src x.2 lb.routing_preferences = lb.routing_preferences.length) ∧
      ∀ y ∈ endpoints,
        (lb.mode = .Strict → rank src y.2 lb.routing_preferences = lb.routing_preferences.length) →
        rank src y.2 lb.routing_preferences ≤ rank src x.2 lb.routing_preferences := by
  unfold rankedOptions at h
  dsimp only at h
  split at h
  · cases h
  · rename_i max hmax
    cases h
    obtain ⟨⟨r, e⟩, hr, rfl⟩ := List.mem_map.mp hx
    obtain ⟨hrmem, hrmax⟩ := List.mem_filter.mp hr
    obtain ⟨he, rfl, hstrict⟩ := mem_ranks.mp hrmem
    have hm : rank src e.2 lb.routing_preferences = max := by simpa using hrmax
    have hbound := (List.max?_eq_some_iff.mp hmax).2
    refine ⟨he, fun hs => hstrict hs, fun y hy hys => ?_⟩
    -- `y` was ranked too, so its rank is at most the maximum
    have hyr : (rank src y.2 lb.routing_preferences, y) ∈ endpoints.filterMap (rankEndpoint src lb) :=
      mem_ranks.mpr ⟨hy, rfl, hys⟩
    rw [hm]
    exact hbound _ (List.mem_map.mpr ⟨_, hyr, rfl⟩)

/-- Each option is eligible and, under a Strict or Failover load
    balancer, of full rank under Strict and of the best rank among the
    eligible endpoints it ranked. -/
theorem mem_load_balance_options {opts : List (Endpoint × Workload)}
    (h : self.load_balance_options src svc svc_port mode = some opts) {ep : Endpoint}
    {wl : Workload} (hx : (ep, wl) ∈ opts) :
    self.Eligible svc svc_port mode ep wl ∧
      ∀ lb, svc.load_balancer = some lb → lb.mode ≠ .Standard →
        (lb.mode = .Strict → rank src wl lb.routing_preferences = lb.routing_preferences.length) ∧
        ∀ ep' wl', self.Eligible svc svc_port mode ep' wl' →
          (lb.mode = .Strict →
            rank src wl' lb.routing_preferences = lb.routing_preferences.length) →
          rank src wl' lb.routing_preferences ≤ rank src wl lb.routing_preferences := by
  unfold load_balance_options at h
  dsimp only at h
  split at h
  · cases h
  · rename_i hret'
    have hret : (mode == .Standard && (svc.ports.lookup svc_port).isNone) = false :=
      Bool.eq_false_iff.mpr hret'
    split at h
    · rename_i lb hlb
      split at h
      · -- ranked by the load balancer
        rename_i hmode
        obtain ⟨hmem, hstrict, hbest⟩ := mem_rankedOptions h hx
        refine ⟨(mem_endpoints_iff hret).mp hmem, fun lb' hlb' _ => ?_⟩
        rw [hlb] at hlb'
        cases hlb'
        exact ⟨hstrict, fun ep' wl' he hs => hbest (ep', wl') ((mem_endpoints_iff hret).mpr he) hs⟩
      · rename_i hmode
        cases h
        refine ⟨(mem_endpoints_iff hret).mp hx, fun lb' hlb' hne => ?_⟩
        rw [hlb] at hlb'
        cases hlb'
        exact absurd (by simpa using hmode) hne
    · rename_i hlb
      cases h
      refine ⟨(mem_endpoints_iff hret).mp hx, fun lb' hlb' _ => ?_⟩
      exact absurd hlb' (by simp [hlb])

/-- What `load_balance` returns is an eligible endpoint of positive
    capacity; under Strict it is of full rank, and under Strict or
    Failover no eligible endpoint has a better rank. -/
theorem load_balance_sound (rng : WeightedChoice (Endpoint × Workload)) {ep : Endpoint}
    {wl : Workload} (h : self.load_balance rng src svc svc_port mode = some (ep, wl)) :
    self.Eligible svc svc_port mode ep wl ∧ 0 < wl.capacity.toNat ∧
      ∀ lb, svc.load_balancer = some lb → lb.mode ≠ .Standard →
        (lb.mode = .Strict → rank src wl lb.routing_preferences = lb.routing_preferences.length) ∧
        ∀ ep' wl', self.Eligible svc svc_port mode ep' wl' →
          rank src wl' lb.routing_preferences ≤ rank src wl lb.routing_preferences := by
  unfold load_balance at h
  cases hopts : self.load_balance_options src svc svc_port mode with
  | none => simp [hopts] at h
  | some opts =>
    rw [hopts, Option.bind_some] at h
    obtain ⟨hmem, hcap⟩ := rng.mem_of_choose _ _ _ h
    obtain ⟨helig, hrank⟩ := mem_load_balance_options hopts hmem
    refine ⟨helig, hcap, fun lb hlb hne => ⟨(hrank lb hlb hne).1, fun ep' wl' he => ?_⟩⟩
    by_cases hs : lb.mode = .Strict
    · -- every rank is at most the full one
      rw [(hrank lb hlb hne).1 hs]
      exact rank_le_length src wl' lb.routing_preferences
    · exact (hrank lb hlb hne).2 ep' wl' he fun hs' => absurd hs' hs

/-- In the Standard mode, an endpoint the balancer returns always has a
    port: its own mapping, or the service's non-zero one. -/
theorem find_upstream_standard_isSome (rng : WeightedChoice (Endpoint × Workload))
    {ep : Endpoint} {wl : Workload}
    (h : self.load_balance rng src svc svc_port .Standard = some (ep, wl)) :
    (self.find_upstream_from_service rng src svc_port .Standard svc).isSome := by
  obtain ⟨⟨-, -, t, ht, hport⟩, -⟩ := load_balance_sound rng h
  unfold find_upstream_from_service
  rw [h]
  dsimp only
  cases hep : ep.port.lookup svc_port with
  | some p => rfl
  | none =>
    have ht0 : t ≠ 0 := by simpa [hep] using hport
    have hpos : (0 : UInt16) < t := by
      rw [UInt16.lt_iff_toNat_lt]
      have : t.toNat ≠ 0 := fun h0 => ht0 (UInt16.toNat_inj.mp (by simpa using h0))
      simp only [UInt16.toNat_zero]
      omega
    simp [ht, hpos]

/-! ## Two inputs -/

/-- A workload of the default namespace, by its name, locality and
    capacity. -/
def lbWorkload (name : String) (locality : Locality) (capacity : UInt32) : Workload where
  workload_ips := []
  waypoint := none
  network_gateway := none
  protocol := .HBONE
  network_mode := .Standard
  uid := "cluster1//v1/Pod/default/" ++ name
  name := name
  «namespace» := "default"
  trust_domain := "cluster.local"
  service_account := "default"
  network := "network"
  workload_name := name
  workload_type := "deployment"
  canonical_name := name
  canonical_revision := "latest"
  hostname := ""
  node := ""
  native_tunnel := false
  application_tunnel := none
  authorization_policies := []
  status := .Healthy
  cluster_id := "cluster1"
  locality := locality
  services := []
  capacity := capacity

def lbEndpoint (wl : Workload) (port : List (UInt16 × UInt16)) : Endpoint :=
  ⟨wl.uid, port.foldl (fun m p => m.insert p.1 p.2) ∅, .Healthy⟩

def lbService (ports : List (UInt16 × UInt16)) (endpoints : List Endpoint)
    (load_balancer : Option LoadBalancer) : Service where
  name := "svc"
  «namespace» := "default"
  hostname := "svc.default.svc.cluster.local"
  vips := []
  ports := ports.foldl (fun m p => m.insert p.1 p.2) ∅
  endpoints := ⟨endpoints.foldl (fun m ep => m.insert ep.workload_uid ep) ∅⟩
  subject_alt_names := []
  waypoint := none
  load_balancer := load_balancer
  ip_families := none

def lbState (workloads : List Workload) : ProxyState where
  workloads := workloads.foldl WorkloadStore.insert (WorkloadStore.new none)
  services := ServiceStore.default
  policies := PolicyStore.default

def lbClient : Workload := lbWorkload "client" ⟨"reg", "zone", ""⟩ 1

/-- Matches the client on network, region and zone, and has no capacity. -/
def topTier : Workload := lbWorkload "top" ⟨"reg", "zone", ""⟩ 0

/-- Matches the client on the network only. -/
def lowTier : Workload := lbWorkload "low" ⟨"other", "other", ""⟩ 1

def failoverSvc : Service :=
  lbService [(80, 80)] [lbEndpoint topTier [(80, 80)], lbEndpoint lowTier [(80, 80)]]
    (some ⟨[.Network, .Region, .Zone], .Failover, .OnlyHealthy⟩)

/-- Failover keeps only the best tier before the weighted choice, so when
    that tier has no capacity no endpoint is returned, however the choice
    falls, while an eligible endpoint of the lower tier has capacity. -/
theorem failover_empty_top_tier :
    (∀ rng, (lbState [topTier, lowTier]).load_balance rng lbClient failoverSvc 80 .Standard =
      none) ∧
      (lbState [topTier, lowTier]).Eligible failoverSvc 80 .Standard (lbEndpoint lowTier [(80, 80)])
        lowTier ∧
      0 < lowTier.capacity.toNat := by
  refine ⟨fun rng => ?_, ⟨by simp [failoverSvc, lbService, EndpointSet.iter], rfl, 80, rfl,
    .inl (by decide)⟩, by decide⟩
  -- the options are the top tier alone
  have hzero : ((lbState [topTier, lowTier]).load_balance_options lbClient failoverSvc 80
      .Standard).map (·.all fun x => x.2.capacity.toNat == 0) = some true := by decide
  unfold load_balance
  cases hopts : (lbState [topTier, lowTier]).load_balance_options lbClient failoverSvc 80 .Standard with
  | none => rfl
  | some opts =>
    rw [hopts] at hzero
    rw [Option.bind_some, rng.choose_weighted_eq_none_iff]
    intro x hx
    simpa using List.all_eq_true.mp (Option.some.inj hzero) x hx

/-- A waypoint workload without an application tunnel. -/
def waypointWorkload : Workload := lbWorkload "waypoint" ⟨"", "", ""⟩ 1

/-- A service whose port 80 has an unknown target port (0), and whose one
    endpoint maps no port. -/
def waypointSvc : Service := lbService [(80, 0)] [lbEndpoint waypointWorkload []] none

/-- The waypoint port check takes the port as known because the service
    lists it, with target port 0; the balancer then returns the endpoint,
    and the port resolution finds no port for it. -/
theorem waypoint_endpoint_without_port :
    (∀ rng, (lbState [waypointWorkload]).load_balance rng lbClient waypointSvc 80 .Waypoint =
      some (lbEndpoint waypointWorkload [], waypointWorkload)) ∧
      ∀ rng, (lbState [waypointWorkload]).find_upstream_from_service rng lbClient 80 .Waypoint
        waypointSvc = none := by
  have hlb : ∀ rng, (lbState [waypointWorkload]).load_balance rng lbClient waypointSvc 80
      .Waypoint = some (lbEndpoint waypointWorkload [], waypointWorkload) := by
    intro rng
    unfold load_balance
    rw [show (lbState [waypointWorkload]).load_balance_options lbClient waypointSvc 80 .Waypoint =
      some [(lbEndpoint waypointWorkload [], waypointWorkload)] from rfl, Option.bind_some]
    exact rng.choose_weighted_singleton _ (by decide)
  refine ⟨hlb, fun rng => ?_⟩
  unfold find_upstream_from_service
  rw [hlb rng]
  rfl

end ProxyState

end Ztunnel
