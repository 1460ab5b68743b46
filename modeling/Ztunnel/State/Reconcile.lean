/-
  Ztunnel.State.Reconcile

  The endpoints of the proxy's services over whole runs of the address
  updates of src/xds.rs: `insert_workload`, `insert_service`, and `remove`
  of a workload UID or of a service's `namespace/hostname`.

  The store keeps endpoints incrementally, in three places: the endpoint
  sets of the stored services, the endpoints staged for services not
  received yet, and the endpoints an `insert_service` carries over from the
  previous version of the service.  What it keeps is what a recomputation
  from the stored workloads gives (`EndpointsReconciled`: each stored
  service holds exactly the stored workloads that list it and that its
  health policy accepts, with the ports of the workload's latest insert,
  and each absent service has exactly the workloads that list it staged),
  on every run in which

    * no `insert_service` changes the health policy of the stored version
      it replaces, since the carried-over endpoints are not filtered again
      against the policy they were admitted by, and
    * no `remove` takes away a stored service that a stored workload still
      lists: the service's endpoints go with it and are not staged again,
      so a service added back starts with none.

  The ports of an endpoint are the ones the services map of the workload's
  latest insert carried; the run's history provides them
  (`latestServices`), as the store does not keep the map.
-/

import Ztunnel.State.Endpoints
import Ztunnel.State.ProxyState
import Ztunnel.State.WorkloadIndex

namespace Ztunnel

open HashMap

/-- The updates of the address stream: a workload or a service resource, or
    the removal of a resource by its xDS name. -/
inductive UpdateOp where
  | insert_workload (w : Xds.Workload)
  | insert_service (s : Xds.Service)
  | remove (xds_name : String)

namespace ProxyState

open ProxyStateUpdateMutator

/-- The proxy's state at start-up. -/
def init (local_node : Option String) : ProxyState :=
  { workloads := WorkloadStore.new local_node
    services := ServiceStore.default
    policies := PolicyStore.default }

/-- One update.  A failed update's error is reported and dropped: the next
    update starts from the state it left. -/
def applyUpdate (st : ProxyState) : UpdateOp → ProxyState
  | .insert_workload w => (insert_workload st w).1
  | .insert_service s => (insert_service st s).1
  | .remove xds_name => remove st xds_name

def run (st : ProxyState) (ops : List UpdateOp) : ProxyState :=
  ops.foldl applyUpdate st

/-- Each update of the run meets `P` in the state it is applied to. -/
def RunSatisfies (P : ProxyState → UpdateOp → Prop) : ProxyState → List UpdateOp → Prop
  | _, [] => True
  | st, op :: ops => P st op ∧ RunSatisfies P (st.applyUpdate op) ops

-- ============================================================================
-- What the endpoints should be
-- ============================================================================

/-- The services map of the latest insert of each workload UID whose
    conversion succeeded. -/
def recordServices (g : String → HashMap String Xds.PortList) :
    UpdateOp → String → HashMap String Xds.PortList
  | .insert_workload w =>
    match Workload.try_from w with
    | .ok (wl, services) => Function.update g wl.uid services
    | .error _ => g
  | _ => g

def latestServices (ops : List UpdateOp) : String → HashMap String Xds.PortList :=
  ops.foldl recordServices fun _ => ∅

/-- The endpoint of workload `w` in the service `nh`, with the ports that
    the services map of `w`'s latest insert lists for the service. -/
def expectedEndpoint (g : String → HashMap String Xds.PortList) (w : Workload)
    (nh : NamespacedHostname) : Endpoint :=
  { workload_uid := w.uid
    port := portListInto ((((g w.uid).lookup nh.to_string).map (·.ports)).getD [])
    status := w.status }

/-- The endpoints a recomputation from the stored workloads gives: a stored
    service holds the workloads that list it and that its health policy
    accepts; an absent service has the workloads that list it staged. -/
def EndpointsReconciled (g : String → HashMap String Xds.PortList) (st : ProxyState) : Prop :=
  (∀ nh svc, st.services.get_by_namespaced_host nh = some svc → ∀ uid ep,
    svc.endpoints.get uid = some ep ↔
      ∃ w, st.workloads.by_uid.lookup uid = some w ∧ nh ∈ w.services ∧
        svc.should_include_endpoint w.status = true ∧ ep = expectedEndpoint g w nh) ∧
  (∀ nh, st.services.get_by_namespaced_host nh = none → ∀ uid ep,
    ServiceStore.stagedView st.services.staged_services nh uid = some ep ↔
      ∃ w, st.workloads.by_uid.lookup uid = some w ∧ nh ∈ w.services ∧
        ep = expectedEndpoint g w nh)

/-- An `insert_service` keeps the health policy of the stored service of
    the resource's name, if there is one. -/
def KeepsHealthPolicy (st : ProxyState) : UpdateOp → Prop
  | .insert_service s =>
    ∀ svc prev, Service.try_from s = .ok svc →
      st.services.get_by_namespaced_host { «namespace» := s.namespace, hostname := s.hostname } =
        some prev →
      prev.load_balancer.map (·.health_policy) = svc.load_balancer.map (·.health_policy)
  | _ => True

/-- A `remove` that removes a service removes none that a stored workload
    lists. -/
def KeepsListedServices (st : ProxyState) : UpdateOp → Prop
  | .remove xds_name =>
    ∀ name, st.workloads.by_uid.lookup xds_name = none →
      NamespacedHostname.from_str xds_name = .ok name →
      (st.services.get_by_namespaced_host name).isSome →
      ∀ uid w, st.workloads.by_uid.lookup uid = some w → name ∉ w.services
  | _ => True

def Admissible (st : ProxyState) (op : UpdateOp) : Prop :=
  KeepsHealthPolicy st op ∧ KeepsListedServices st op

-- ============================================================================
-- The invariant
-- ============================================================================

/-- `EndpointsReconciled`, read through the store's endpoint view. -/
def Reconciled (g : String → HashMap String Xds.PortList) (st : ProxyState) : Prop :=
  ∀ nh uid ep, st.services.endpointView nh uid = some ep ↔
    ∃ w, st.workloads.by_uid.lookup uid = some w ∧ nh ∈ w.services ∧
      st.services.accepts nh w.status = true ∧ ep = expectedEndpoint g w nh

structure Inv (g : String → HashMap String Xds.PortList) (st : ProxyState) : Prop where
  workloads : st.workloads.Inv
  services : st.services.StoreWF
  reconciled : Reconciled g st

section Reconciled

variable {g : String → HashMap String Xds.PortList} {st : ProxyState}

theorem Reconciled.endpointsReconciled (h : Reconciled g st) : EndpointsReconciled g st := by
  refine ⟨fun nh svc hg uid ep => ?_, fun nh hg uid ep => ?_⟩
  · rw [← ServiceStore.endpointView_of_get_some hg, h]
    simp only [ServiceStore.accepts_of_get_some hg]
  · rw [← ServiceStore.endpointView_of_get_none hg, h]
    simp only [ServiceStore.accepts_of_get_none hg, true_and]

/-- A workload that is not stored has no endpoint anywhere. -/
theorem Reconciled.endpointView_eq_none (h : Reconciled g st) {uid : String}
    (hl : st.workloads.by_uid.lookup uid = none) (nh : NamespacedHostname) :
    st.services.endpointView nh uid = none := by
  rw [Option.eq_none_iff_forall_ne_some]
  intro ep hep
  obtain ⟨w, hw, -⟩ := (h nh uid ep).mp hep
  rw [hl] at hw
  cases hw

/-- The endpoints of a stored service are keyed by their workload's UID. -/
theorem Inv.endpoint_key (hi : Inv g st) {nh : NamespacedHostname} {prev : Service}
    (hg : st.services.get_by_namespaced_host nh = some prev) (k : String) (e : Endpoint)
    (he : prev.endpoints.get k = some e) : e.workload_uid = k := by
  rw [← ServiceStore.endpointView_of_get_some hg, hi.reconciled] at he
  obtain ⟨w, hw, -, -, rfl⟩ := he
  exact hi.workloads.uid_key k w hw

theorem expectedEndpoint_update_ne (g : String → HashMap String Xds.PortList)
    (services : HashMap String Xds.PortList) {uid : String} {w : Workload} (h : w.uid ≠ uid)
    (nh : NamespacedHostname) :
    expectedEndpoint (Function.update g uid services) w nh = expectedEndpoint g w nh := by
  unfold expectedEndpoint
  rw [Function.update_of_ne h]

end Reconciled

-- ============================================================================
-- What the mutators do
-- ============================================================================

/-- `remove_internal` drops a stored workload with its endpoints, drops a
    service (for a real removal only), or changes nothing. -/
theorem remove_internal_cases (st : ProxyState) (xds_name : String) (b : Bool) :
    (∃ prev, st.workloads.by_uid.lookup xds_name = some prev ∧
      remove_internal st xds_name b =
        { st with workloads := (st.workloads.remove xds_name).1,
                  services := st.services.remove_endpoint prev }) ∨
    (st.workloads.by_uid.lookup xds_name = none ∧ b = false ∧
      ∃ name, NamespacedHostname.from_str xds_name = .ok name ∧
        remove_internal st xds_name b = { st with services := (st.services.remove name).1 }) ∨
    (st.workloads.by_uid.lookup xds_name = none ∧ remove_internal st xds_name b = st) := by
  unfold remove_internal
  cases hl : st.workloads.by_uid.lookup xds_name with
  | some prev =>
    refine .inl ⟨prev, rfl, ?_⟩
    rw [WorkloadStore.remove_of_lookup_some hl]
  | none =>
    rw [WorkloadStore.remove_of_lookup_none hl]
    cases b with
    | true => exact .inr (.inr ⟨rfl, rfl⟩)
    | false =>
      dsimp only
      cases hp : NamespacedHostname.from_str xds_name with
      | error e => exact .inr (.inr ⟨rfl, rfl⟩)
      | ok name =>
        dsimp only
        -- a hostname with a `/` is a workload UID, not removed as a service
        by_cases hc : name.hostname.toList.contains '/' = true
        · rw [if_pos hc]
          exact .inr (.inr ⟨rfl, rfl⟩)
        · rw [if_neg hc]
          exact .inr (.inl ⟨rfl, rfl, name, rfl, rfl⟩)

theorem insert_workload_fst {st : ProxyState} {w : Xds.Workload} {wl : Workload}
    {services : HashMap String Xds.PortList} (hw : Workload.try_from w = .ok (wl, services)) :
    (insert_workload st w).1 =
      { remove_workload_for_insert st wl.uid with
        workloads := (remove_workload_for_insert st wl.uid).workloads.insert wl,
        services := (insertServiceEndpointsLoop wl services.entries
          (remove_workload_for_insert st wl.uid).services).1 } := by
  unfold insert_workload
  rw [hw]
  rfl

theorem insert_service_fst {st : ProxyState} {s : Xds.Service} {svc : Service}
    (hs : Service.try_from s = .ok svc) :
    (insert_service st s).1 =
      { st with
        services := st.services.insert
          (match st.services.get_by_namespaced_host svc.namespaced_hostname with
           | some prev => copyEndpoints prev svc
           | none => svc) } := by
  unfold insert_service
  split
  · rename_i e he
    rw [hs] at he
    cases he
  · rename_i svc' hsvc'
    rw [hs] at hsvc'
    cases hsvc'
    rfl

/-- Carrying endpoints over from the previous version is taking them as
    staged ones, the previous endpoint set being keyed by workload UID. -/
theorem copyEndpoints_eq {prev : Service}
    (hkey : ∀ k e, prev.endpoints.get k = some e → e.workload_uid = k) (service : Service) :
    copyEndpoints prev service = ServiceStore.addStaged service prev.endpoints.inner := by
  unfold copyEndpoints ServiceStore.addStaged EndpointSet.iter
  rw [List.foldl_map]
  apply List.foldl_ext
  rintro svc ⟨k, e⟩ he
  have hk : e.workload_uid = k := hkey k e (AList.mem_lookup_iff.mpr he)
  simp only [hk]

/-- The same health policy admits the same endpoints. -/
theorem should_include_endpoint_eq_of_health_policy {s t : Service}
    (h : s.load_balancer.map (·.health_policy) = t.load_balancer.map (·.health_policy)) :
    s.should_include_endpoint = t.should_include_endpoint := by
  have hmap : ∀ u : Service,
      (u.load_balancer.map fun lb => lb.health_policy == .AllowAll) =
        (u.load_balancer.map (·.health_policy)).map (· == .AllowAll) := fun u => by
    rw [Option.map_map]
    rfl
  funext status
  unfold Service.should_include_endpoint
  rw [hmap s, hmap t, h]

-- ============================================================================
-- The endpoint loop of insert_workload
-- ============================================================================

/-- The endpoint loop over the entries of a services map whose keys all
    parse: under the name an entry parses to, the workload's endpoint with
    that entry's ports if the store accepts it there; all else as it was. -/
theorem insertServiceEndpointsLoop_spec (workload : Workload) :
    ∀ (entries : List (Σ _ : String, Xds.PortList)) (st : ServiceStore), st.StoreWF →
      entries.NodupKeys → (∀ e ∈ entries, (splitOnce e.1 '/').isSome) →
      (insertServiceEndpointsLoop workload entries st).1.StoreWF ∧
      (insertServiceEndpointsLoop workload entries st).1.filterOf = st.filterOf ∧
      ∀ nh u, (insertServiceEndpointsLoop workload entries st).1.endpointView nh u =
        if u = workload.uid ∧ st.accepts nh workload.status = true then
          match entries.find? (fun e => splitOnce e.1 '/' == some (nh.namespace, nh.hostname)) with
          | some e =>
            some { workload_uid := workload.uid, port := portListInto e.2.ports,
                   status := workload.status }
          | none => st.endpointView nh u
        else st.endpointView nh u
  | [], st, hw, _, _ => ⟨hw, rfl, fun nh u => by simp [insertServiceEndpointsLoop]⟩
  | ⟨namespaced_host, ports⟩ :: rest, st, hw, hnd, hsplit => by
    obtain ⟨⟨ns, hostname⟩, hs⟩ := Option.isSome_iff_exists.mp (hsplit _ List.mem_cons_self)
    obtain ⟨hfresh, hnd'⟩ := List.nodupKeys_cons.mp hnd
    let ep : Endpoint :=
      { workload_uid := workload.uid, port := portListInto ports.ports, status := workload.status }
    have hw₁ := hw.insert_endpoint ⟨ns, hostname⟩ ep
    have hf₁ := ServiceStore.filterOf_insert_endpoint hw ⟨ns, hostname⟩ ep
    obtain ⟨hw', hf', hv'⟩ := insertServiceEndpointsLoop_spec workload rest _ hw₁ hnd'
      fun e he => hsplit e (List.mem_cons_of_mem _ he)
    have hloop : insertServiceEndpointsLoop workload (⟨namespaced_host, ports⟩ :: rest) st =
        insertServiceEndpointsLoop workload rest (st.insert_endpoint ⟨ns, hostname⟩ ep) := by
      simp only [insertServiceEndpointsLoop, hs]
      rfl
    rw [hloop]
    refine ⟨hw', hf'.trans hf₁, fun nh u => ?_⟩
    rw [hv', ServiceStore.accepts_congr hf₁, ServiceStore.endpointView_insert_endpoint hw,
      List.find?_cons]
    by_cases hn : nh = ⟨ns, hostname⟩
    · -- the head entry names `nh`, and no later one does: the keys are unique
      subst hn
      have hrest : rest.find? (fun e => splitOnce e.1 '/' == some (ns, hostname)) = none := by
        rw [List.find?_eq_none]
        intro e he hpe
        have heq : e.1 = namespaced_host := splitOnce_injective (by simpa using hpe) hs
        have hk := List.mem_keys_of_mem he
        rw [heq] at hk
        exact hfresh hk
      simp [hrest, hs, ep]
    · have hhead : (splitOnce namespaced_host '/' == some (nh.namespace, nh.hostname)) = false := by
        rw [hs, beq_eq_false_iff_ne]
        intro h
        apply hn
        obtain ⟨ns', hostname'⟩ := nh
        simp only [Option.some.injEq, Prod.mk.injEq] at h
        rw [h.1, h.2]
      simp [hhead, hn]

/-- The entry of a converted workload's services map that names `nh`. -/
theorem find_services_some {resource : Xds.Workload} {wl : Workload}
    {services : HashMap String Xds.PortList} (h : Workload.try_from resource = .ok (wl, services))
    {nh : NamespacedHostname} {e : Σ _ : String, Xds.PortList}
    (he : services.entries.find? (fun e => splitOnce e.1 '/' == some (nh.namespace, nh.hostname)) =
      some e) :
    nh ∈ wl.services ∧ services.lookup nh.to_string = some e.2 := by
  have hpe : parseServiceKey e.1 = .ok nh :=
    parseServiceKey_eq_ok.mpr (by simpa using List.find?_some he)
  have hmem := List.mem_of_find?_eq_some he
  refine ⟨(Workload.mem_services_of_try_from h nh).mpr ⟨e.1, List.mem_keys_of_mem hmem, hpe⟩, ?_⟩
  rw [← parseServiceKey_eq_ok_to_string hpe]
  exact AList.mem_lookup_iff.mpr hmem

theorem find_services_none {resource : Xds.Workload} {wl : Workload}
    {services : HashMap String Xds.PortList} (h : Workload.try_from resource = .ok (wl, services))
    {nh : NamespacedHostname}
    (he : services.entries.find? (fun e => splitOnce e.1 '/' == some (nh.namespace, nh.hostname)) =
      none) :
    nh ∉ wl.services := by
  intro hnh
  obtain ⟨k, hk, hpk⟩ := (Workload.mem_services_of_try_from h nh).mp hnh
  obtain ⟨v, hv⟩ := List.mem_keys.mp hk
  rw [List.find?_eq_none] at he
  exact he ⟨k, v⟩ hv (by simp [parseServiceKey_eq_ok.mp hpk])

-- ============================================================================
-- Each update keeps the invariant
-- ============================================================================

section Steps

variable {g : String → HashMap String Xds.PortList} {st : ProxyState}

theorem inv_init (local_node : Option String) : Inv (fun _ => ∅) (init local_node) where
  workloads := WorkloadStore.inv_new local_node
  services := ServiceStore.storeWF_default
  reconciled := by
    intro nh uid ep
    simp [init, ServiceStore.endpointView, ServiceStore.default,
      ServiceStore.get_by_namespaced_host, ServiceStore.stagedView, WorkloadStore.new]

/-- Dropping a stored workload with its endpoints. -/
theorem Inv.drop_workload (hi : Inv g st) {uid : String} {prev : Workload}
    (hl : st.workloads.by_uid.lookup uid = some prev) :
    Inv g { st with workloads := (st.workloads.remove uid).1,
                    services := st.services.remove_endpoint prev } := by
  have hprev : prev.uid = uid := hi.workloads.uid_key uid prev hl
  refine ⟨hi.workloads.remove uid, hi.services.remove_endpoint prev, fun nh u ep => ?_⟩
  simp only [ServiceStore.endpointView_remove_endpoint hi.services, hprev,
    ServiceStore.accepts_congr (ServiceStore.filterOf_remove_endpoint hi.services prev),
    WorkloadStore.by_uid_remove]
  by_cases hu : u = uid
  · -- the workload's endpoints were only under the services it listed
    subst hu
    simp only [if_true, reduceCtorEq, false_and, exists_false, iff_false]
    split
    · simp
    · rename_i hn
      rw [hi.reconciled]
      rintro ⟨w, hw, hnw, -, -⟩
      rw [hl] at hw
      cases hw
      exact hn (by simp [hnw])
  · simp only [hu, and_false, if_false]
    exact hi.reconciled nh u ep

theorem Inv.remove_workload_for_insert (hi : Inv g st) (uid : String) :
    Inv g (ProxyStateUpdateMutator.remove_workload_for_insert st uid) ∧
      (ProxyStateUpdateMutator.remove_workload_for_insert st uid).workloads.by_uid.lookup uid = none := by
  unfold ProxyStateUpdateMutator.remove_workload_for_insert
  rcases remove_internal_cases st uid true with ⟨prev, hl, h⟩ | ⟨-, hb, -⟩ | ⟨hl, h⟩
  · rw [h]
    exact ⟨hi.drop_workload hl, WorkloadStore.lookup_remove_self _ _⟩
  · cases hb
  · rw [h]
    exact ⟨hi, hl⟩

theorem Inv.insert_workload (hi : Inv g st) (w : Xds.Workload) :
    Inv (recordServices g (.insert_workload w)) (st.applyUpdate (.insert_workload w)) := by
  cases hw : Workload.try_from w with
  | error e =>
    have hst : st.applyUpdate (.insert_workload w) = st := by
      simp [applyUpdate, ProxyStateUpdateMutator.insert_workload, hw]
    rw [hst]
    simpa [recordServices, hw] using hi
  | ok res =>
    obtain ⟨wl, services⟩ := res
    have hg : recordServices g (.insert_workload w) = Function.update g wl.uid services := by
      simp [recordServices, hw]
    rw [hg, applyUpdate, insert_workload_fst hw]
    obtain ⟨hi₁, hnone⟩ := hi.remove_workload_for_insert wl.uid
    set st₁ := ProxyStateUpdateMutator.remove_workload_for_insert st wl.uid
    have hkeys : ∀ e ∈ services.entries, (splitOnce e.1 '/').isSome := fun e he =>
      (Workload.try_from_services hw).2 e.1 (List.mem_keys_of_mem he)
    obtain ⟨hsw, hsf, hsv⟩ :=
      insertServiceEndpointsLoop_spec wl services.entries st₁.services hi₁.services
        services.nodupKeys hkeys
    refine ⟨hi₁.workloads.insert wl, hsw, fun nh u ep => ?_⟩
    simp only [hsv, ServiceStore.accepts_congr hsf, WorkloadStore.by_uid_insert]
    by_cases hu : u = wl.uid
    · -- the new version's endpoints, from its services map alone
      subst hu
      rw [hi₁.reconciled.endpointView_eq_none hnone]
      simp only [true_and, if_true, Option.some.injEq, exists_eq_left', expectedEndpoint,
        Function.update_self]
      cases hf : services.entries.find?
          (fun e => splitOnce e.1 '/' == some (nh.namespace, nh.hostname)) with
      | none =>
        have hnot := find_services_none hw hf
        simp [hnot]
      | some e =>
        obtain ⟨hmem, hlookup⟩ := find_services_some hw hf
        simp only [hmem, hlookup, true_and, Option.map_some, Option.getD_some]
        by_cases hacc : st₁.services.accepts nh wl.status = true
        · simp only [hacc, if_true, Option.some.injEq, true_and]
          exact eq_comm
        · simp [hacc]
    · -- another workload: as it was
      rw [if_neg fun h => hu h.1, hi₁.reconciled]
      have hne : ∀ w', st₁.workloads.by_uid.lookup u = some w' → w'.uid ≠ wl.uid := by
        intro w' hw'
        rw [hi₁.workloads.uid_key u w' hw']
        exact hu
      simp only [if_neg hu]
      constructor
      · rintro ⟨w', hw', hnw, hacc, rfl⟩
        exact ⟨w', hw', hnw, hacc, (expectedEndpoint_update_ne g services (hne w' hw') nh).symm⟩
      · rintro ⟨w', hw', hnw, hacc, rfl⟩
        exact ⟨w', hw', hnw, hacc, expectedEndpoint_update_ne g services (hne w' hw') nh⟩

/-- A converted `insert_service` takes an endpoint held under its name only
    if the new version accepts it. -/
theorem endpointView_insert_service (hi : Inv g st) {s : Xds.Service} {svc : Service}
    (hs : Service.try_from s = .ok svc) (nh : NamespacedHostname) (u : String) :
    (st.applyUpdate (.insert_service s)).services.endpointView nh u =
      if svc.namespaced_hostname = nh then
        (st.services.endpointView nh u).filter fun e => svc.should_include_endpoint e.status
      else st.services.endpointView nh u := by
  have hempty := (Service.try_from_spec hs).2
  rw [applyUpdate, insert_service_fst hs]
  cases hg : st.services.get_by_namespaced_host svc.namespaced_hostname with
  | none =>
    dsimp only
    rw [ServiceStore.endpointView_insert hi.services]
    split
    · rename_i hn
      subst hn
      rw [ServiceStore.endpointView_of_get_none hg, hempty, EndpointSet.get_empty]
      cases ServiceStore.stagedView st.services.staged_services svc.namespaced_hostname u <;>
        simp [Option.filter_some]
    · rfl
  | some prev =>
    dsimp only
    rw [copyEndpoints_eq (hi.endpoint_key hg), ServiceStore.endpointView_insert hi.services,
      ServiceStore.addStaged_namespaced_hostname]
    split
    · -- a stored service: its endpoints are carried over through the new filter
      rename_i hn
      subst hn
      rw [ServiceStore.stagedView_of_get_some hi.services hg, ServiceStore.addStaged_get,
        ServiceStore.endpointView_of_get_some hg, hempty, EndpointSet.get_empty,
        show prev.endpoints.get u = prev.endpoints.inner.lookup u from rfl]
      cases prev.endpoints.inner.lookup u <;> simp [Option.filter_some]
    · rfl

theorem accepts_insert_service (hi : Inv g st) {s : Xds.Service} {svc : Service}
    (hs : Service.try_from s = .ok svc) (nh : NamespacedHostname) (status : HealthStatus) :
    (st.applyUpdate (.insert_service s)).services.accepts nh status =
      if svc.namespaced_hostname = nh then svc.should_include_endpoint status
      else st.services.accepts nh status := by
  rw [applyUpdate, insert_service_fst hs]
  cases hg : st.services.get_by_namespaced_host svc.namespaced_hostname with
  | none => exact ServiceStore.accepts_insert hi.services svc nh status
  | some prev =>
    dsimp only
    rw [copyEndpoints_eq (hi.endpoint_key hg), ServiceStore.accepts_insert hi.services,
      ServiceStore.addStaged_namespaced_hostname, ServiceStore.addStaged_should_include_endpoint]

/-- Under a kept health policy, the store already accepted under a
    service's name whatever the new version accepts. -/
theorem accepts_of_keepsHealthPolicy {s : Xds.Service} {svc : Service}
    (hkeep : KeepsHealthPolicy st (.insert_service s)) (hs : Service.try_from s = .ok svc)
    {status : HealthStatus} (hinc : svc.should_include_endpoint status = true) :
    st.services.accepts svc.namespaced_hostname status = true := by
  have hnh := (Service.try_from_spec hs).1
  cases hg : st.services.get_by_namespaced_host svc.namespaced_hostname with
  | none => exact ServiceStore.accepts_of_get_none hg status
  | some prev =>
    rw [hnh] at hg
    rw [ServiceStore.accepts_of_get_some (hnh ▸ hg),
      should_include_endpoint_eq_of_health_policy (hkeep svc prev hs hg)]
    exact hinc

theorem Inv.insert_service (hi : Inv g st) (s : Xds.Service)
    (hkeep : KeepsHealthPolicy st (.insert_service s)) :
    Inv g (st.applyUpdate (.insert_service s)) := by
  cases hs : Service.try_from s with
  | error e =>
    have hst : st.applyUpdate (.insert_service s) = st := by
      simp [applyUpdate, ProxyStateUpdateMutator.insert_service, hs]
    rw [hst]
    exact hi
  | ok svc =>
    have hwl : (st.applyUpdate (.insert_service s)).workloads = st.workloads := by
      rw [applyUpdate, insert_service_fst hs]
    refine ⟨hwl ▸ hi.workloads, ?_, fun nh u ep => ?_⟩
    · rw [applyUpdate, insert_service_fst hs]
      exact hi.services.insert _
    rw [endpointView_insert_service hi hs, hwl]
    simp only [accepts_insert_service hi hs]
    split
    · rename_i hn
      subst hn
      rw [Option.filter_eq_some_iff, hi.reconciled]
      constructor
      · rintro ⟨⟨w, hw, hnw, -, rfl⟩, hinc⟩
        exact ⟨w, hw, hnw, hinc, rfl⟩
      · rintro ⟨w, hw, hnw, hinc, rfl⟩
        exact ⟨⟨w, hw, hnw, accepts_of_keepsHealthPolicy hkeep hs hinc, rfl⟩, hinc⟩
    · exact hi.reconciled nh u ep

/-- Removing a service that no stored workload lists. -/
theorem Inv.remove_service (hi : Inv g st) {name : NamespacedHostname}
    (hlisted : (st.services.get_by_namespaced_host name).isSome →
      ∀ uid w, st.workloads.by_uid.lookup uid = some w → name ∉ w.services) :
    Inv g { st with services := (st.services.remove name).1 } := by
  refine ⟨hi.workloads, hi.services.remove name, fun nh u ep => ?_⟩
  simp only [ServiceStore.endpointView_remove hi.services,
    ServiceStore.accepts_remove hi.services.toHostWF]
  split
  · rename_i hn
    subst hn
    cases hg : st.services.get_by_namespaced_host nh with
    | none =>
      rw [← ServiceStore.endpointView_of_get_none hg, hi.reconciled]
      simp only [ServiceStore.accepts_of_get_none hg]
    | some prev =>
      -- nothing was staged under the stored name, and no workload lists it
      rw [ServiceStore.stagedView_of_get_some hi.services hg]
      simp only [reduceCtorEq, false_iff, not_exists, not_and]
      intro w hw hnw
      exact absurd hnw (hlisted (by simp [hg]) u w hw)
  · exact hi.reconciled nh u ep

theorem Inv.remove (hi : Inv g st) (xds_name : String)
    (hkeep : KeepsListedServices st (.remove xds_name)) :
    Inv g (st.applyUpdate (.remove xds_name)) := by
  rw [applyUpdate, ProxyStateUpdateMutator.remove]
  rcases remove_internal_cases st xds_name false with
    ⟨prev, hl, h⟩ | ⟨hl, -, name, hname, h⟩ | ⟨-, h⟩ <;> rw [h]
  · exact hi.drop_workload hl
  · exact hi.remove_service (hkeep name hl hname)
  · exact hi

theorem Inv.applyUpdate (hi : Inv g st) (op : UpdateOp) (hop : Admissible st op) :
    Inv (recordServices g op) (st.applyUpdate op) := by
  cases op with
  | insert_workload w => exact hi.insert_workload w
  | insert_service s => exact hi.insert_service s hop.1
  | remove xds_name => exact hi.remove xds_name hop.2

end Steps

theorem Inv.run : ∀ (ops : List UpdateOp) {g : String → HashMap String Xds.PortList}
    {st : ProxyState}, Inv g st → RunSatisfies Admissible st ops →
      Inv (ops.foldl recordServices g) (st.run ops)
  | [], _, _, hi, _ => hi
  | op :: ops, _, _, hi, ⟨hop, hrest⟩ => Inv.run ops (hi.applyUpdate op hop) hrest

/-- The incrementally kept endpoints are the recomputed ones after every
    run that keeps the health policies and removes no listed service. -/
theorem endpoints_reconciled (local_node : Option String) (ops : List UpdateOp)
    (h : RunSatisfies Admissible (init local_node) ops) :
    EndpointsReconciled (latestServices ops) ((init local_node).run ops) :=
  ((inv_init local_node).run ops h).reconciled.endpointsReconciled

/-- The service `ns/reviews`, with the default load balancing. -/
def reviewsResource : Xds.Service where
  name := "reviews"
  «namespace» := "ns"
  hostname := "reviews"
  addresses := []
  ports := []
  subject_alt_names := []
  waypoint := none
  load_balancing := none
  ip_families := 0

/-- A healthy workload of UID `pod` listing `ns/reviews`, port 80 to 8080. -/
def reviewsPod : Xds.Workload where
  uid := "pod"
  name := "pod"
  «namespace» := "ns"
  addresses := []
  hostname := ""
  network := ""
  tunnel_protocol := 0
  trust_domain := ""
  service_account := ""
  waypoint := none
  network_gateway := none
  node := ""
  canonical_name := ""
  canonical_revision := ""
  workload_type := 0
  workload_name := ""
  native_tunnel := false
  application_tunnel := none
  services := (∅ : HashMap String Xds.PortList).insert "ns/reviews" ⟨[⟨80, 8080⟩]⟩
  authorization_policies := []
  status := 0
  cluster_id := ""
  locality := none
  network_mode := 0
  capacity := none

/-- The workload arrives before its service. -/
def workloadFirst : List UpdateOp :=
  [.insert_workload reviewsPod, .insert_service reviewsResource]

theorem endpoints_reconciled_workload_first :
    RunSatisfies Admissible (init none) workloadFirst ∧
      EndpointsReconciled (latestServices workloadFirst) ((init none).run workloadFirst) := by
  have h : RunSatisfies Admissible (init none) workloadFirst := by
    refine ⟨⟨trivial, trivial⟩, ⟨?_, trivial⟩, trivial⟩
    -- the service is not stored yet when it arrives
    intro svc prev _ hg
    cases hg.symm.trans (by decide : _ = none)
  exact ⟨h, endpoints_reconciled none workloadFirst h⟩

/-- The service is removed while the workload that lists it stays, and is
    added back unchanged. -/
def removeReadd : List UpdateOp :=
  [.insert_service reviewsResource, .insert_workload reviewsPod, .remove "ns/reviews",
   .insert_service reviewsResource]

/-- Without the condition on removals the endpoints are not the recomputed
    ones: the service added back lacks the endpoint of the workload that
    lists it, though no health policy changed. -/
theorem endpoints_lost_on_readd :
    RunSatisfies KeepsHealthPolicy (init none) removeReadd ∧
      ¬ EndpointsReconciled (latestServices removeReadd) ((init none).run removeReadd) := by
  refine ⟨⟨?_, trivial, trivial, ?_, trivial⟩, ?_⟩
  · intro svc prev _ hg
    cases hg.symm.trans (by decide : _ = none)
  · intro svc prev _ hg
    cases hg.symm.trans (by decide : _ = none)
  · rintro ⟨hstored, -⟩
    obtain ⟨svc, hsvc⟩ := Option.isSome_iff_exists.mp (by decide :
      (((init none).run removeReadd).services.get_by_namespaced_host ⟨"ns", "reviews"⟩).isSome)
    obtain ⟨wl, hwl⟩ := Option.isSome_iff_exists.mp (by decide :
      (((init none).run removeReadd).workloads.by_uid.lookup "pod").isSome)
    have hep : svc.endpoints.get "pod" = none := by
      have h : (((init none).run removeReadd).services.get_by_namespaced_host
          ⟨"ns", "reviews"⟩).map (fun s => s.endpoints.get "pod") = some none := by decide
      rw [hsvc] at h
      exact Option.some.inj h
    have hmem : (⟨"ns", "reviews"⟩ : NamespacedHostname) ∈ wl.services := by
      have h : (((init none).run removeReadd).workloads.by_uid.lookup "pod").map
          (fun w => decide ((⟨"ns", "reviews"⟩ : NamespacedHostname) ∈ w.services)) =
            some true := by decide
      rw [hwl] at h
      simpa using h
    have hinc : svc.should_include_endpoint wl.status = true := by
      have h : (((init none).run removeReadd).services.get_by_namespaced_host
          ⟨"ns", "reviews"⟩).bind (fun s => (((init none).run removeReadd).workloads.by_uid.lookup
            "pod").map fun w => s.should_include_endpoint w.status) = some true := by decide
      rw [hsvc, hwl] at h
      simpa using h
    -- the workload is stored, lists the service and passes its filter
    have hlost := (hstored _ svc hsvc "pod" _).mpr ⟨wl, hwl, hmem, hinc, rfl⟩
    rw [hep] at hlost
    cases hlost

end ProxyState

end Ztunnel
