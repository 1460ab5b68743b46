/-
  Ztunnel.State.ProxyState

  The proxy's state (src/state.rs: `workloads`, `services`, `policies`) and
  the xDS update mutator that applies resources to it (src/xds.rs,
  `ProxyStateUpdateMutator`).

  Rust mutates the state in place and may return an error after having
  mutated it, so each fallible update here returns the state it leaves
  behind together with its result.  The certificate prefetch on insert and
  the clearing on removal go to the certificate manager, not to this state,
  and are left out.

  An update that fails leaves the state as it was: every error is raised
  by a conversion before the first mutation, and the one fallible step
  after it, `insert_service_endpoints`, re-parses the services keys that
  the workload conversion has already parsed with the same `split_once`.
-/

import Ztunnel.Xds.Convert
import Ztunnel.State.Policy

namespace Ztunnel

/-- The `anyhow::Error`s of the updates. -/
inductive UpdateError where
  /-- a conversion's error -/
  | Workload (e : WorkloadError)
  /-- "unknown address type" -/
  | UnknownAddressType
  /-- "failed parsing service name: {namespaced_host}" -/
  | ServiceNameParse (namespaced_host : String)
  /-- the error of `serde_json::to_string` -/
  | Serialize (e : String)
  deriving DecidableEq, Repr

structure ProxyState where
  workloads : WorkloadStore
  services : ServiceStore
  policies : PolicyStore

/-- The loop of `insert_service_endpoints` over the services map's
    entries: each key is parsed again, and the workload becomes an endpoint
    of the service it names, with the ports listed for it. -/
def insertServiceEndpointsLoop (workload : Workload) :
    List (Σ _ : String, Xds.PortList) → ServiceStore → ServiceStore × Except UpdateError Unit
  | [], services_state => (services_state, .ok ())
  | ⟨namespaced_host, ports⟩ :: rest, services_state =>
    match splitOnce namespaced_host '/' with
    | some (ns, hostname) =>
      insertServiceEndpointsLoop workload rest
        (services_state.insert_endpoint { «namespace» := ns, hostname := hostname }
          { workload_uid := workload.uid, port := portListInto ports.ports,
            status := workload.status })
    | none => (services_state, .error (.ServiceNameParse namespaced_host))

def insert_service_endpoints (workload : Workload) (services : HashMap String Xds.PortList)
    (services_state : ServiceStore) : ServiceStore × Except UpdateError Unit :=
  insertServiceEndpointsLoop workload services.entries services_state

namespace ProxyStateUpdateMutator

def remove_internal (state : ProxyState) (xds_name : String) (for_workload_insert : Bool) :
    ProxyState :=
  match state.workloads.remove xds_name with
  | (workloads, some prev) =>
    -- a workload of that UID: its service endpoints go with it
    { state with workloads := workloads, services := state.services.remove_endpoint prev }
  | (_, none) =>
    if for_workload_insert then state
    else
      match NamespacedHostname.from_str xds_name with
      | .error _ => state
      | .ok name =>
        -- namespaces and hostnames have no `/`: such a name is a workload UID
        if name.hostname.toList.contains '/' then state
        else { state with services := (state.services.remove name).1 }

def remove (state : ProxyState) (xds_name : String) : ProxyState :=
  remove_internal state xds_name false

def remove_workload_for_insert (state : ProxyState) (xds_name : String) : ProxyState :=
  remove_internal state xds_name true

def insert_workload (state : ProxyState) (w : Xds.Workload) :
    ProxyState × Except UpdateError Unit :=
  match Workload.try_from w with
  | .error e => (state, .error (.Workload e))
  | .ok (workload, services) =>
    -- first remove the entry entirely, so that its endpoints are cleaned up
    let state := remove_workload_for_insert state workload.uid
    let state := { state with workloads := state.workloads.insert workload }
    let (services_state, r) := insert_service_endpoints workload services state.services
    ({ state with services := services_state }, r)

/-- The endpoints of the previous version that the new one accepts are
    carried over to it. -/
def copyEndpoints (prev service : Service) : Service :=
  prev.endpoints.iter.foldl
    (fun service ep =>
      if service.should_include_endpoint ep.status then
        { service with endpoints := service.endpoints.insert ep.workload_uid ep }
      else service)
    service

def insert_service (state : ProxyState) (service : Xds.Service) :
    ProxyState × Except UpdateError Unit :=
  match Service.try_from service with
  | .error e => (state, .error (.Workload e))
  | .ok service =>
    let service :=
      match state.services.get_by_namespaced_host service.namespaced_hostname with
      | some prev => copyEndpoints prev service
      | none => service
    ({ state with services := state.services.insert service }, .ok ())

def insert_address (state : ProxyState) (a : Xds.Address) : ProxyState × Except UpdateError Unit :=
  match a.type with
  | some (.Workload w) => insert_workload state w
  | some (.Service s) => insert_service state s
  | none => (state, .error .UnknownAddressType)

/-- `serialize` is `serde_json::to_string`, called for the trace line
    before the policy is stored. -/
def insert_authorization (serialize : Authorization → Except String String) (state : ProxyState)
    (xds_name : String) (r : Xds.Authorization) : ProxyState × Except UpdateError Unit :=
  match Authorization.try_from r with
  | .error e => (state, .error (.Workload e))
  | .ok rbac =>
    match serialize rbac with
    | .error e => (state, .error (.Serialize e))
    | .ok _ => ({ state with policies := state.policies.insert xds_name rbac }, .ok ())

def remove_authorization (state : ProxyState) (xds_name : String) : ProxyState :=
  { state with policies := state.policies.remove xds_name }

end ProxyStateUpdateMutator

-- ============================================================================
-- Failed updates change nothing
-- ============================================================================

/-- The endpoint loop fails only at a key without a `/`. -/
theorem insertServiceEndpointsLoop_ok (workload : Workload) :
    ∀ (entries : List (Σ _ : String, Xds.PortList)) (services_state : ServiceStore),
      (∀ e ∈ entries, (splitOnce e.1 '/').isSome) →
        (insertServiceEndpointsLoop workload entries services_state).2 = .ok ()
  | [], _, _ => rfl
  | ⟨namespaced_host, ports⟩ :: rest, services_state, h => by
    -- the entry named: left to unification, the split is unfolded
    have hsplit : (splitOnce namespaced_host '/').isSome :=
      h ⟨namespaced_host, ports⟩ List.mem_cons_self
    obtain ⟨⟨ns, hostname⟩, hs⟩ := Option.isSome_iff_exists.mp hsplit
    simp only [insertServiceEndpointsLoop, hs]
    exact insertServiceEndpointsLoop_ok workload rest _ fun e he => h e (List.mem_cons_of_mem _ he)

theorem insert_service_endpoints_ok {workload : Workload} {services : HashMap String Xds.PortList}
    (h : ∀ k ∈ services.keys, (splitOnce k '/').isSome) (services_state : ServiceStore) :
    (insert_service_endpoints workload services services_state).2 = .ok () :=
  insertServiceEndpointsLoop_ok workload services.entries services_state fun e he =>
    h e.1 (List.mem_map_of_mem he)

namespace ProxyStateUpdateMutator

theorem insert_workload_error {state : ProxyState} {w : Xds.Workload} {e : UpdateError}
    (h : (insert_workload state w).2 = .error e) : (insert_workload state w).1 = state := by
  unfold insert_workload at h ⊢
  cases hw : Workload.try_from w with
  | error e' => rfl
  | ok res =>
    -- a converted workload's keys all parse, so the endpoint loop succeeds
    obtain ⟨workload, services⟩ := res
    obtain ⟨-, hkeys⟩ := Workload.try_from_services hw
    rw [hw] at h
    dsimp only at h
    rw [insert_service_endpoints_ok hkeys] at h
    cases h

theorem insert_service_error {state : ProxyState} {s : Xds.Service} {e : UpdateError}
    (h : (insert_service state s).2 = .error e) : (insert_service state s).1 = state := by
  unfold insert_service at h ⊢
  cases hs : Service.try_from s with
  | error e' => rfl
  | ok service =>
    rw [hs] at h
    cases h

theorem insert_address_error {state : ProxyState} {a : Xds.Address} {e : UpdateError}
    (h : (insert_address state a).2 = .error e) : (insert_address state a).1 = state := by
  unfold insert_address at h ⊢
  match ha : a.type with
  | some (.Workload w) =>
    rw [ha] at h
    exact insert_workload_error h
  | some (.Service s) =>
    rw [ha] at h
    exact insert_service_error h
  | none => rfl

theorem insert_authorization_error {serialize : Authorization → Except String String}
    {state : ProxyState} {xds_name : String} {r : Xds.Authorization} {e : UpdateError}
    (h : (insert_authorization serialize state xds_name r).2 = .error e) :
    (insert_authorization serialize state xds_name r).1 = state := by
  unfold insert_authorization at h ⊢
  cases hr : Authorization.try_from r with
  | error e' => rfl
  | ok rbac =>
    rw [hr] at h
    dsimp only at h ⊢
    cases hs : serialize rbac with
    | error e' => rfl
    | ok _ =>
      rw [hs] at h
      cases h

/-- A failed address or authorization update leaves the state as it was,
    and the endpoint step after the workload is stored never fails. -/
theorem update_error_leaves_state (state : ProxyState) :
    (∀ (a : Xds.Address) (e : UpdateError),
      (insert_address state a).2 = .error e → (insert_address state a).1 = state) ∧
    (∀ (serialize : Authorization → Except String String) (xds_name : String)
      (r : Xds.Authorization) (e : UpdateError),
      (insert_authorization serialize state xds_name r).2 = .error e →
        (insert_authorization serialize state xds_name r).1 = state) ∧
    (∀ (w : Xds.Workload) (workload : Workload) (services : HashMap String Xds.PortList),
      Workload.try_from w = .ok (workload, services) →
        ∀ services_state, (insert_service_endpoints workload services services_state).2 = .ok ()) :=
  ⟨fun _ _ h => insert_address_error h, fun _ _ _ _ h => insert_authorization_error h,
    fun _ _ _ hw => insert_service_endpoints_ok (Workload.try_from_services hw).2⟩

end ProxyStateUpdateMutator

end Ztunnel
