/-
  Ztunnel.State.Endpoints

  The endpoints the service store keeps for each workload, read through one
  view (`endpointView`): under a name whose service is stored, that
  service's endpoint set; under a name with no stored service, the
  endpoints staged for it.  Next to it, `filterOf` is the health filter of
  the service stored under each name, and `accepts` whether the store takes
  an endpoint of a given health there (a staged name takes every one).

  Each operation of the store is characterised by what it does to the view
  and to the filters, as an `if` on the name and the workload it touches;
  the proxy-level proofs over whole runs use these and never unfold the
  store.  Everything holds on a well-kept store (`StoreWF`), where the name
  of a stored service has nothing staged.
-/

import Ztunnel.State.ServiceIndex

namespace Ztunnel

open HashMap

namespace EndpointSet

@[simp] theorem get_empty (key : String) : EndpointSet.empty.get key = none :=
  lookup_empty key

theorem get_insert (self : EndpointSet) (k key : String) (v : Endpoint) :
    (self.insert k v).get key = if key = k then some v else self.get key :=
  lookup_insert_eq self.inner k key v

theorem get_remove (self : EndpointSet) (k key : String) :
    (self.remove k).get key = if key = k then none else self.get key :=
  lookup_erase_eq self.inner k key

end EndpointSet

@[simp] theorem Service.should_include_endpoint_with_endpoints (s : Service) (eps : EndpointSet) :
    ({ s with endpoints := eps } : Service).should_include_endpoint = s.should_include_endpoint :=
  rfl

namespace ServiceStore

-- ============================================================================
-- Taking staged endpoints
-- ============================================================================

/-- Taking staged endpoints is a filtered insert into the endpoint set, by
    the health filter of the service that takes them. -/
theorem addStaged_eq_foldl (service : Service) (l : List (Σ _ : String, Endpoint)) :
    l.foldl (fun svc e =>
        if svc.should_include_endpoint e.2.status then
          { svc with endpoints := svc.endpoints.insert e.1 e.2 }
        else svc) service =
      { service with
        endpoints := ⟨l.foldl (fun m e =>
          if service.should_include_endpoint e.2.status then m.insert e.1 e.2 else m)
          service.endpoints.inner⟩ } := by
  induction l generalizing service with
  | nil => rfl
  | cons e l ih =>
    simp only [List.foldl_cons]
    rw [ih]
    by_cases hinc : service.should_include_endpoint e.2.status
    · simp only [hinc, if_true, Service.should_include_endpoint_with_endpoints]
      rfl
    · simp only [hinc, Bool.false_eq_true, if_false]

theorem addStaged_get (service : Service) (endpoints : HashMap String Endpoint) (u : String) :
    (addStaged service endpoints).endpoints.get u =
      match endpoints.lookup u with
      | some e => if service.should_include_endpoint e.status then some e else service.endpoints.get u
      | none => service.endpoints.get u := by
  have h := lookup_foldl_insert_if endpoints.entries endpoints.nodupKeys
    (fun e : Endpoint => service.should_include_endpoint e.status) service.endpoints.inner u
  unfold addStaged
  rw [addStaged_eq_foldl]
  change AList.lookup u _ = _
  rw [h, show List.dlookup u endpoints.entries = endpoints.lookup u from rfl]
  cases endpoints.lookup u <;> rfl

@[simp] theorem addStaged_namespaced_hostname (service : Service)
    (endpoints : HashMap String Endpoint) :
    (addStaged service endpoints).namespaced_hostname = service.namespaced_hostname := by
  unfold addStaged
  rw [addStaged_eq_foldl]
  rfl

@[simp] theorem addStaged_should_include_endpoint (service : Service)
    (endpoints : HashMap String Endpoint) :
    (addStaged service endpoints).should_include_endpoint = service.should_include_endpoint := by
  unfold addStaged
  rw [addStaged_eq_foldl]
  rfl

-- ============================================================================
-- The view
-- ============================================================================

/-- The endpoint staged for `uid` under `nh`. -/
def stagedView (staged : HashMap NamespacedHostname (HashMap String Endpoint))
    (nh : NamespacedHostname) (uid : String) : Option Endpoint :=
  ((staged.lookup nh).getD ∅).lookup uid

/-- The endpoint the store holds for `uid` under `nh`: the stored service's,
    or the staged one when no service of the name is stored. -/
def endpointView (st : ServiceStore) (nh : NamespacedHostname) (uid : String) : Option Endpoint :=
  match st.get_by_namespaced_host nh with
  | some svc => svc.endpoints.get uid
  | none => stagedView st.staged_services nh uid

/-- The health filter of the service stored under `nh`, if one is. -/
def filterOf (st : ServiceStore) (nh : NamespacedHostname) : Option (HealthStatus → Bool) :=
  (st.get_by_namespaced_host nh).map Service.should_include_endpoint

/-- Whether the store takes an endpoint of health `status` under `nh`. -/
def accepts (st : ServiceStore) (nh : NamespacedHostname) (status : HealthStatus) : Bool :=
  match st.filterOf nh with
  | some f => f status
  | none => true

section Basic

variable {st : ServiceStore} {nh : NamespacedHostname}

theorem endpointView_of_get_some {svc : Service} (h : st.get_by_namespaced_host nh = some svc)
    (uid : String) : st.endpointView nh uid = svc.endpoints.get uid := by
  rw [endpointView, h]

theorem endpointView_of_get_none (h : st.get_by_namespaced_host nh = none) (uid : String) :
    st.endpointView nh uid = stagedView st.staged_services nh uid := by
  rw [endpointView, h]

theorem accepts_of_get_some {svc : Service} (h : st.get_by_namespaced_host nh = some svc)
    (status : HealthStatus) : st.accepts nh status = svc.should_include_endpoint status := by
  rw [accepts, filterOf, h]
  rfl

theorem accepts_of_get_none (h : st.get_by_namespaced_host nh = none) (status : HealthStatus) :
    st.accepts nh status = true := by
  rw [accepts, filterOf, h]
  rfl

/-- Stores with the same filters accept the same endpoints. -/
theorem accepts_congr {st' : ServiceStore} (h : st'.filterOf = st.filterOf)
    (nh : NamespacedHostname) (status : HealthStatus) :
    st'.accepts nh status = st.accepts nh status := by
  rw [accepts, accepts, h]

/-- Stores with the same filters store services under the same names. -/
theorem isSome_get_of_filterOf {st' : ServiceStore} (h : st'.filterOf = st.filterOf)
    (nh : NamespacedHostname) :
    (st'.get_by_namespaced_host nh).isSome = (st.get_by_namespaced_host nh).isSome := by
  have := congrArg Option.isSome (congrFun h nh)
  simpa [filterOf] using this

@[simp] theorem get_set_staged (staged : HashMap NamespacedHostname (HashMap String Endpoint))
    (nh : NamespacedHostname) :
    ({ st with staged_services := staged } : ServiceStore).get_by_namespaced_host nh =
      st.get_by_namespaced_host nh := rfl

@[simp] theorem filterOf_set_staged (staged : HashMap NamespacedHostname (HashMap String Endpoint)) :
    ({ st with staged_services := staged } : ServiceStore).filterOf = st.filterOf := rfl

theorem endpointView_set_staged (staged : HashMap NamespacedHostname (HashMap String Endpoint))
    (nh : NamespacedHostname) (uid : String) :
    ({ st with staged_services := staged } : ServiceStore).endpointView nh uid =
      match st.get_by_namespaced_host nh with
      | some svc => svc.endpoints.get uid
      | none => stagedView staged nh uid := rfl

end Basic

-- ============================================================================
-- The staged map
-- ============================================================================

section Staged

variable (staged : HashMap NamespacedHostname (HashMap String Endpoint))

theorem stagedView_upsert (nh₀ : NamespacedHostname) (uid : String) (ep : Endpoint)
    (nh : NamespacedHostname) (u : String) :
    stagedView (staged.upsert nh₀ fun eps => (eps.getD ∅).insert uid ep) nh u =
      if nh = nh₀ ∧ u = uid then some ep else stagedView staged nh u := by
  unfold stagedView
  rw [lookup_upsert]
  by_cases hn : nh = nh₀
  · subst hn
    simp [lookup_insert_eq]
  · simp [hn]

theorem stagedView_unstage (workload_uid : String) (svc nh : NamespacedHostname) (u : String) :
    stagedView (unstage workload_uid staged svc) nh u =
      if nh = svc ∧ u = workload_uid then none else stagedView staged nh u := by
  unfold unstage stagedView
  dsimp only
  by_cases hn : nh = svc
  · subst hn
    split
    · -- the slot emptied, so nothing else was staged under the name
      rename_i he
      rw [lookup_erase_eq, if_pos rfl, Option.getD_none, lookup_empty]
      by_cases hu : u = workload_uid
      · simp [hu]
      · have hrest := lookup_of_entries_isEmpty he u
        rw [lookup_erase_eq, if_neg hu] at hrest
        rw [if_neg fun h => hu h.2, hrest]
    · rw [lookup_insert_eq, if_pos rfl, Option.getD_some, lookup_erase_eq]
      simp
  · split
    · simp [hn]
    · simp [hn]

theorem stagedView_foldl_unstage (workload_uid : String) (l : List NamespacedHostname)
    (nh : NamespacedHostname) (u : String) :
    stagedView (l.foldl (unstage workload_uid) staged) nh u =
      if nh ∈ l ∧ u = workload_uid then none else stagedView staged nh u := by
  induction l generalizing staged with
  | nil => simp
  | cons svc l ih =>
    rw [List.foldl_cons, ih, stagedView_unstage]
    by_cases hn : nh = svc <;> by_cases hu : u = workload_uid <;> simp [hn, hu]

end Staged

-- ============================================================================
-- Lookups after mapService and remove
-- ============================================================================

section Get

variable {st : ServiceStore} (hw : HostWF st)
include hw

theorem get_mapService (service : Service) (nh : NamespacedHostname) :
    (st.mapService service).get_by_namespaced_host nh =
      if service.namespaced_hostname = nh then some service
      else st.get_by_namespaced_host nh := by
  have hm := hw.mapService service
  split
  · rename_i hn
    exact (hm.get_by_namespaced_host_eq_some nh service).mpr
      ⟨(hw.stored_mapService service service).mpr (.inl rfl), hn⟩
  · rename_i hn
    cases hg : st.get_by_namespaced_host nh with
    | some s =>
      obtain ⟨hs, hsn⟩ := (hw.get_by_namespaced_host_eq_some nh s).mp hg
      have hne : s.namespaced_hostname ≠ service.namespaced_hostname := by
        rw [hsn]
        exact fun h => hn h.symm
      exact (hm.get_by_namespaced_host_eq_some nh s).mpr
        ⟨(hw.stored_mapService service s).mpr (.inr ⟨hs, hne⟩), hsn⟩
    | none =>
      refine (hm.get_by_namespaced_host_eq_none nh).mpr fun x hx hxn => ?_
      rcases (hw.stored_mapService service x).mp hx with rfl | ⟨hs, -⟩
      · exact hn hxn
      · exact (hw.get_by_namespaced_host_eq_none nh).mp hg x hs hxn

theorem get_remove (nh₀ nh : NamespacedHostname) :
    (st.remove nh₀).1.get_by_namespaced_host nh =
      if nh = nh₀ then none else st.get_by_namespaced_host nh := by
  have hr := hw.remove nh₀
  split
  · rename_i hn
    subst hn
    exact (hr.get_by_namespaced_host_eq_none nh).mpr fun x hx => ((hw.stored_remove nh x).mp hx).2
  · rename_i hn
    cases hg : st.get_by_namespaced_host nh with
    | some s =>
      obtain ⟨hs, hsn⟩ := (hw.get_by_namespaced_host_eq_some nh s).mp hg
      have hne : s.namespaced_hostname ≠ nh₀ := by
        rw [hsn]
        exact hn
      exact (hr.get_by_namespaced_host_eq_some nh s).mpr ⟨(hw.stored_remove nh₀ s).mpr ⟨hs, hne⟩, hsn⟩
    | none =>
      refine (hr.get_by_namespaced_host_eq_none nh).mpr fun x hx => ?_
      exact (hw.get_by_namespaced_host_eq_none nh).mp hg x ((hw.stored_remove nh₀ x).mp hx).1

theorem filterOf_mapService (service : Service) (nh : NamespacedHostname) :
    (st.mapService service).filterOf nh =
      if service.namespaced_hostname = nh then some service.should_include_endpoint
      else st.filterOf nh := by
  unfold filterOf
  rw [get_mapService hw]
  split <;> rfl

/-- Putting a stored service back with other endpoints keeps every filter. -/
theorem filterOf_mapService_endpoints {nh₀ : NamespacedHostname} {s : Service}
    (hs : st.get_by_namespaced_host nh₀ = some s) (eps : EndpointSet) :
    (st.mapService { s with endpoints := eps }).filterOf = st.filterOf := by
  funext nh
  rw [filterOf_mapService hw]
  split
  · rename_i hn
    obtain ⟨-, hsn⟩ := (hw.get_by_namespaced_host_eq_some nh₀ s).mp hs
    rw [namespaced_hostname_with_endpoints, hsn] at hn
    subst hn
    simp [filterOf, hs]
  · rfl

theorem filterOf_remove (nh₀ nh : NamespacedHostname) :
    (st.remove nh₀).1.filterOf nh = if nh = nh₀ then none else st.filterOf nh := by
  unfold filterOf
  rw [get_remove hw]
  split <;> rfl

theorem accepts_remove (nh₀ nh : NamespacedHostname) (status : HealthStatus) :
    (st.remove nh₀).1.accepts nh status = if nh = nh₀ then true else st.accepts nh status := by
  unfold accepts
  rw [filterOf_remove hw]
  by_cases hn : nh = nh₀
  · simp only [if_pos hn]
  · simp only [if_neg hn]

theorem endpointView_mapService (service : Service) (nh : NamespacedHostname) (u : String) :
    (st.mapService service).endpointView nh u =
      if service.namespaced_hostname = nh then service.endpoints.get u
      else st.endpointView nh u := by
  unfold endpointView
  rw [get_mapService hw]
  by_cases hn : service.namespaced_hostname = nh
  · simp only [if_pos hn]
  · simp only [if_neg hn, staged_mapService]

end Get

-- ============================================================================
-- The view under each operation
-- ============================================================================

/-- Dropping a staged entry keeps the staged map well kept. -/
theorem StagedOK.erase {st : ServiceStore}
    {staged : HashMap NamespacedHostname (HashMap String Endpoint)} (h : StagedOK st staged)
    (k : NamespacedHostname) : StagedOK st (staged.erase k) := by
  intro k' e hk
  rw [lookup_erase_eq] at hk
  split at hk
  · cases hk
  · exact h k' e hk

section Views

variable {st : ServiceStore} (hw : StoreWF st)
include hw

/-- On a well-kept store `remove` leaves the staged map as it was: the
    entry it drops was vacant, as the service was stored. -/
theorem staged_remove_lookup (nh₀ k : NamespacedHostname) :
    (st.remove nh₀).1.staged_services.lookup k = st.staged_services.lookup k := by
  cases hg : st.get_by_namespaced_host nh₀ with
  | none => rw [remove_of_get_none hg]
  | some prev =>
    rw [remove_of_get_some hg]
    dsimp only
    rw [lookup_erase_eq]
    split
    · rename_i hk
      subst hk
      obtain ⟨hs, hsn⟩ := (hw.toHostWF.get_by_namespaced_host_eq_some _ prev).mp hg
      rw [← hsn, hw.staged_of_stored hs]
    · rfl

/-- Nothing is staged under the name of a stored service. -/
theorem stagedView_of_get_some {nh : NamespacedHostname} {svc : Service}
    (h : st.get_by_namespaced_host nh = some svc) (u : String) :
    stagedView st.staged_services nh u = none := by
  obtain ⟨hs, hsn⟩ := (hw.toHostWF.get_by_namespaced_host_eq_some nh svc).mp h
  rw [stagedView, ← hsn, hw.staged_of_stored hs]
  rfl

theorem endpointView_remove (nh₀ nh : NamespacedHostname) (u : String) :
    (st.remove nh₀).1.endpointView nh u =
      if nh = nh₀ then stagedView st.staged_services nh u else st.endpointView nh u := by
  unfold endpointView stagedView
  rw [get_remove hw.toHostWF, staged_remove_lookup hw]
  by_cases hn : nh = nh₀
  · rw [if_pos hn, if_pos hn]
  · rw [if_neg hn, if_neg hn]

theorem endpointView_insert_endpoint (service_name : NamespacedHostname) (ep : Endpoint)
    (nh : NamespacedHostname) (u : String) :
    (st.insert_endpoint service_name ep).endpointView nh u =
      if nh = service_name ∧ u = ep.workload_uid ∧ st.accepts service_name ep.status = true then
        some ep
      else st.endpointView nh u := by
  unfold ServiceStore.insert_endpoint
  cases hg : st.get_by_namespaced_host service_name with
  | some svc =>
    obtain ⟨-, hsn⟩ := (hw.toHostWF.get_by_namespaced_host_eq_some _ svc).mp hg
    rw [accepts_of_get_some hg]
    dsimp only
    split
    · -- the service's health filter turns the endpoint away
      rename_i hinc
      simp only [Bool.not_eq_true'] at hinc
      simp [hinc]
    · rename_i hinc
      simp only [Bool.not_eq_true', Bool.not_eq_false] at hinc
      rw [insert_endpoint_update_eq, endpointView_mapService hw.toHostWF,
        namespaced_hostname_with_endpoints, hsn, EndpointSet.get_insert]
      by_cases hn : service_name = nh
      · subst hn
        rw [endpointView_of_get_some hg]
        simp [hinc]
      · simp [hn, Ne.symm hn]
  | none =>
    -- no service of the name: the endpoint is staged
    rw [accepts_of_get_none hg]
    dsimp only
    rw [endpointView_set_staged]
    cases hg' : st.get_by_namespaced_host nh with
    | some s =>
      have hn : nh ≠ service_name := by
        rintro rfl
        rw [hg] at hg'
        cases hg'
      rw [endpointView_of_get_some hg']
      simp [hn]
    | none =>
      rw [stagedView_upsert, endpointView_of_get_none hg']
      simp

theorem filterOf_insert_endpoint (service_name : NamespacedHostname) (ep : Endpoint) :
    (st.insert_endpoint service_name ep).filterOf = st.filterOf := by
  rcases insert_endpoint_cases hw.toHostWF service_name ep with
    h | ⟨s, hs, hsn, -, h⟩ | ⟨-, h⟩ <;> rw [h]
  · rw [insert_endpoint_update_eq]
    exact filterOf_mapService_endpoints hw.toHostWF
      ((hw.toHostWF.get_by_namespaced_host_eq_some _ s).mpr ⟨hs, hsn⟩) _
  · rfl

theorem endpointView_dropEndpoint (workload_uid : String) (svc nh : NamespacedHostname)
    (u : String) :
    (dropEndpoint workload_uid st svc).endpointView nh u =
      if nh = svc ∧ u = workload_uid ∧ (st.get_by_namespaced_host svc).isSome then none
      else st.endpointView nh u := by
  unfold ServiceStore.dropEndpoint
  cases hg : st.get_by_namespaced_host svc with
  | none => simp
  | some s =>
    obtain ⟨-, hsn⟩ := (hw.toHostWF.get_by_namespaced_host_eq_some svc s).mp hg
    dsimp only
    rw [insert_endpoint_update_eq, endpointView_mapService hw.toHostWF,
      namespaced_hostname_with_endpoints, hsn, EndpointSet.get_remove]
    by_cases hn : svc = nh
    · subst hn
      rw [endpointView_of_get_some hg]
      simp
    · simp [hn, Ne.symm hn]

theorem filterOf_dropEndpoint (workload_uid : String) (svc : NamespacedHostname) :
    (dropEndpoint workload_uid st svc).filterOf = st.filterOf := by
  rcases dropEndpoint_cases hw.toHostWF workload_uid svc with h | ⟨s, hs, hsn, h⟩ <;> rw [h]
  rw [insert_endpoint_update_eq]
  exact filterOf_mapService_endpoints hw.toHostWF
    ((hw.toHostWF.get_by_namespaced_host_eq_some _ s).mpr ⟨hs, hsn⟩) _

omit hw in
/-- The service-update loop of `remove_endpoint`: the endpoint goes from
    each listed name whose service is stored, and the filters stay. -/
theorem foldl_dropEndpoint (workload_uid : String) (l : List NamespacedHostname) :
    ∀ st : ServiceStore, StoreWF st →
      StoreWF (l.foldl (dropEndpoint workload_uid) st) ∧
      (l.foldl (dropEndpoint workload_uid) st).filterOf = st.filterOf ∧
      ∀ nh u, (l.foldl (dropEndpoint workload_uid) st).endpointView nh u =
        if nh ∈ l ∧ u = workload_uid ∧ (st.get_by_namespaced_host nh).isSome then none
        else st.endpointView nh u := by
  induction l with
  | nil => intro st hw; simp [hw]
  | cons svc l ih =>
    intro st hw
    obtain ⟨hw', hf', hv'⟩ := ih _ (hw.dropEndpoint workload_uid svc)
    have hf := filterOf_dropEndpoint hw workload_uid svc
    refine ⟨hw', hf'.trans hf, fun nh u => ?_⟩
    rw [List.foldl_cons, hv', isSome_get_of_filterOf hf, endpointView_dropEndpoint hw]
    by_cases hn : nh = svc
    · subst hn
      cases hg : st.get_by_namespaced_host nh <;> by_cases hu : u = workload_uid <;> simp [hu]
    · simp [hn]

theorem endpointView_remove_endpoint (prev_workload : Workload) (nh : NamespacedHostname)
    (u : String) :
    (st.remove_endpoint prev_workload).endpointView nh u =
      if nh ∈ prev_workload.services ∧ u = prev_workload.uid then none
      else st.endpointView nh u := by
  have hw₁ := hw.set_staged (hw.staged_ok.foldl_unstage prev_workload.uid prev_workload.services)
  rw [remove_endpoint_eq, (foldl_dropEndpoint _ _ _ hw₁).2.2, endpointView_set_staged,
    get_set_staged]
  simp only [List.mem_dedup]
  cases hg : st.get_by_namespaced_host nh with
  | some s =>
    rw [endpointView_of_get_some hg]
    simp
  | none =>
    rw [stagedView_foldl_unstage, endpointView_of_get_none hg]
    simp

theorem filterOf_remove_endpoint (prev_workload : Workload) :
    (st.remove_endpoint prev_workload).filterOf = st.filterOf := by
  have hw₁ := hw.set_staged (hw.staged_ok.foldl_unstage prev_workload.uid prev_workload.services)
  rw [remove_endpoint_eq, (foldl_dropEndpoint _ _ _ hw₁).2.1]
  rfl

/-- A full insert: the name now holds the new service, which takes the
    staged endpoints its filter accepts; the other names are untouched. -/
theorem endpointView_insert (service : Service) (nh : NamespacedHostname) (u : String) :
    (st.insert service).endpointView nh u =
      if service.namespaced_hostname = nh then
        match stagedView st.staged_services nh u with
        | some e =>
          if service.should_include_endpoint e.status then some e else service.endpoints.get u
        | none => service.endpoints.get u
      else st.endpointView nh u := by
  unfold ServiceStore.insert insert_internal
  cases hs : st.staged_services.lookup service.namespaced_hostname with
  | none =>
    simp only [Bool.not_false, if_true, hs]
    rw [endpointView_mapService (hw.remove _).toHostWF, endpointView_remove hw]
    split
    · rename_i hn
      subst hn
      rw [stagedView, hs]
      rfl
    · rename_i hn
      rw [if_neg (Ne.symm hn)]
  | some endpoints =>
    -- nothing of the name is stored, so removing it after taking the
    -- staged entry changes nothing
    have hg : ({ st with staged_services := st.staged_services.erase service.namespaced_hostname }
        : ServiceStore).get_by_namespaced_host service.namespaced_hostname = none :=
      (hw.staged_ok _ endpoints hs).1
    have hh := (hw.set_staged (hw.staged_ok.erase service.namespaced_hostname)).toHostWF
    simp only [Bool.not_false, if_true, hs, remove_of_get_none hg]
    rw [endpointView_mapService hh, addStaged_namespaced_hostname]
    split
    · rename_i hn
      subst hn
      rw [addStaged_get, stagedView, hs]
      rfl
    · rename_i hn
      rw [endpointView_set_staged]
      unfold endpointView stagedView
      rw [lookup_erase_eq, if_neg (Ne.symm hn)]

theorem filterOf_insert (service : Service) (nh : NamespacedHostname) :
    (st.insert service).filterOf nh =
      if service.namespaced_hostname = nh then some service.should_include_endpoint
      else st.filterOf nh := by
  obtain ⟨staged, eps, hsub, -, heq⟩ := insert_eq st service
  have hw₀ : StoreWF { st with staged_services := staged } :=
    hw.set_staged fun k e hk => hw.staged_ok k e (hsub k e hk)
  rw [heq, filterOf_mapService (hw₀.remove _).toHostWF, namespaced_hostname_with_endpoints,
    Service.should_include_endpoint_with_endpoints, filterOf_remove hw₀.toHostWF]
  split
  · rfl
  · rename_i hn
    rw [if_neg (Ne.symm hn)]
    rfl

theorem accepts_insert (service : Service) (nh : NamespacedHostname) (status : HealthStatus) :
    (st.insert service).accepts nh status =
      if service.namespaced_hostname = nh then service.should_include_endpoint status
      else st.accepts nh status := by
  unfold accepts
  rw [filterOf_insert hw]
  by_cases hn : service.namespaced_hostname = nh
  · simp only [if_pos hn]
  · simp only [if_neg hn]

end Views

end ServiceStore

end Ztunnel
