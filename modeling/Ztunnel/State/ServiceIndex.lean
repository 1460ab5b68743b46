/-
  Ztunnel.State.ServiceIndex

  The indices of the service store stay consistent over every run of
  `insert`, `insert_endpoint_update` (of a stored service with new
  endpoints), `insert_endpoint`, `remove_endpoint` and `remove` from
  `ServiceStore::default()`, provided no two services of different
  namespaced hostnames hold a VIP at the same time:

    * every `by_host` list is non-empty, names its own hostname and holds at
      most one service per namespace;
    * `by_vip[v] = s` exactly when `s` is the service stored in `by_host`
      and `v` is one of its VIPs (the same copy, not an older one);
    * no staged entry names a stored service, and none is empty.

  Every operation ends in `mapService` (VIPs and host slot) or `remove`, so
  the invariant is proved once for each of those two, and the operations
  reduce to them.
-/

import Ztunnel.State.Service
import Ztunnel.Lib.KeyedList

namespace Ztunnel

open HashMap

namespace ServiceStore

-- ============================================================================
-- Host slots and staged endpoints
-- ============================================================================

theorem placeService_nil (service : Service) : placeService [] service = [service] := rfl

theorem placeService_cons (a : Service) (l : List Service) (service : Service) :
    placeService (a :: l) service =
      if a.namespace = service.namespace then service :: l
      else a :: placeService l service := by
  unfold placeService
  rw [List.findIdx?_cons]
  by_cases ha : a.namespace = service.namespace
  · simp [ha]
  · simp only [beq_eq_false_iff_ne.mpr ha, if_neg ha]
    cases (l.findIdx? fun s => s.namespace == service.namespace) <;> simp

/-- The slot after placing: the service, and the others of other namespaces. -/
theorem mem_placeService {l : List Service} (hnd : (l.map (·.namespace)).Nodup)
    (service x : Service) :
    x ∈ placeService l service ↔ x = service ∨ (x ∈ l ∧ x.namespace ≠ service.namespace) := by
  induction l with
  | nil => simp [placeService_nil]
  | cons a l ih =>
    have hnd' : (l.map (·.namespace)).Nodup := (List.nodup_cons.mp (by simpa using hnd)).2
    have ha : a.namespace ∉ l.map (·.namespace) := (List.nodup_cons.mp (by simpa using hnd)).1
    rw [placeService_cons]
    split
    · rename_i has
      -- `a` is the slot replaced; nothing else in `l` has its namespace
      simp only [List.mem_cons]
      constructor
      · rintro (rfl | hx)
        · exact .inl rfl
        · refine .inr ⟨.inr hx, fun hns => ha ?_⟩
          rw [has, ← hns]
          exact List.mem_map_of_mem hx
      · rintro (rfl | ⟨rfl | hx, hne⟩)
        · exact .inl rfl
        · exact absurd has hne
        · exact .inr hx
    · rename_i has
      simp only [List.mem_cons, ih hnd']
      constructor
      · rintro (rfl | rfl | ⟨hx, hne⟩)
        · exact .inr ⟨.inl rfl, has⟩
        · exact .inl rfl
        · exact .inr ⟨.inr hx, hne⟩
      · rintro (rfl | ⟨rfl | hx, hne⟩)
        · exact .inr (.inl rfl)
        · exact .inl rfl
        · exact .inr (.inr ⟨hx, hne⟩)

theorem nodup_placeService {l : List Service} (hnd : (l.map (·.namespace)).Nodup)
    (service : Service) : ((placeService l service).map (·.namespace)).Nodup := by
  induction l with
  | nil => simp [placeService_nil]
  | cons a l ih =>
    have hnd' : (l.map (·.namespace)).Nodup := (List.nodup_cons.mp (by simpa using hnd)).2
    have ha : a.namespace ∉ l.map (·.namespace) := (List.nodup_cons.mp (by simpa using hnd)).1
    rw [placeService_cons]
    split
    · rename_i has
      simpa [← has] using hnd
    · rename_i has
      simp only [List.map_cons, List.nodup_cons]
      refine ⟨fun hmem => ?_, ih hnd'⟩
      obtain ⟨x, hx, hxa⟩ := List.mem_map.mp hmem
      rcases (mem_placeService hnd' service x).mp hx with rfl | ⟨hx, -⟩
      · exact has hxa.symm
      · exact ha (hxa ▸ List.mem_map_of_mem hx)

theorem placeService_ne_nil (l : List Service) (service : Service) :
    placeService l service ≠ [] := by
  cases l with
  | nil => simp [placeService_nil]
  | cons a l =>
    rw [placeService_cons]
    split <;> simp

/-- Taking the staged endpoints changes nothing but the endpoint set. -/
theorem addStaged_eq (service : Service) (endpoints : HashMap String Endpoint) :
    ∃ eps, addStaged service endpoints = { service with endpoints := eps } := by
  unfold addStaged
  refine List.foldlRecOn (motive := fun svc => ∃ eps, svc = { service with endpoints := eps })
    _ _ ⟨service.endpoints, rfl⟩ ?_
  rintro svc ⟨eps, rfl⟩ e -
  split
  · exact ⟨_, rfl⟩
  · exact ⟨eps, rfl⟩

-- ============================================================================
-- What mapService and remove do to the maps
-- ============================================================================

/-- The services listed under a hostname (none when the key is vacant). -/
def hostSlot (st : ServiceStore) (h : String) : List Service :=
  (st.by_host.lookup h).getD []

theorem mem_hostSlot {st : ServiceStore} {h : String} {s : Service} :
    s ∈ st.hostSlot h ↔ ∃ l, st.by_host.lookup h = some l ∧ s ∈ l := by
  unfold hostSlot
  cases st.by_host.lookup h <;> simp

theorem get_by_namespaced_host_eq_find (st : ServiceStore) (nh : NamespacedHostname) :
    st.get_by_namespaced_host nh =
      (st.hostSlot nh.hostname).find? fun s => s.namespace == nh.namespace := by
  unfold get_by_namespaced_host hostSlot
  cases st.by_host.lookup nh.hostname <;> rfl

theorem by_vip_mapService (st : ServiceStore) (service : Service) (v : NetworkAddress) :
    (st.mapService service).by_vip.lookup v =
      if v ∈ service.vips then some service else st.by_vip.lookup v :=
  lookup_foldl_insert service.vips service st.by_vip v

theorem by_host_mapService (st : ServiceStore) (service : Service) (h : String) :
    (st.mapService service).by_host.lookup h =
      if h = service.hostname then some (placeService (st.hostSlot h) service)
      else st.by_host.lookup h := by
  unfold mapService hostSlot
  split
  · rename_i hh
    subst hh
    cases hl : st.by_host.lookup service.hostname <;> simp [hl, placeService_nil]
  · rename_i hh
    cases hl : st.by_host.lookup service.hostname <;> simp [hl, hh]

theorem hostSlot_mapService (st : ServiceStore) (service : Service) (h : String) :
    (st.mapService service).hostSlot h =
      if h = service.hostname then placeService (st.hostSlot h) service else st.hostSlot h := by
  unfold hostSlot
  rw [by_host_mapService]
  split <;> rfl

@[simp] theorem staged_mapService (st : ServiceStore) (service : Service) :
    (st.mapService service).staged_services = st.staged_services := rfl

theorem remove_of_get_none {st : ServiceStore} {nh : NamespacedHostname}
    (h : st.get_by_namespaced_host nh = none) : st.remove nh = (st, false) := by
  unfold remove
  split
  · rfl
  · rename_i services hl
    simp only [get_by_namespaced_host, hl] at h
    simp only [h]

/-- `remove` of a stored service: its host slot loses it (and goes when
    empty), its VIPs are unmapped, its staged entry is dropped. -/
theorem remove_of_get_some {st : ServiceStore} {nh : NamespacedHostname} {prev : Service}
    (h : st.get_by_namespaced_host nh = some prev) :
    let services := (st.hostSlot nh.hostname).eraseP fun s => s.namespace == nh.namespace
    st.remove nh =
      ({ by_host :=
          if services.isEmpty then st.by_host.erase nh.hostname
          else st.by_host.insert nh.hostname services,
         by_vip := prev.vips.foldl (fun m addr => m.erase addr) st.by_vip,
         staged_services := st.staged_services.erase nh }, true) := by
  unfold remove hostSlot
  unfold get_by_namespaced_host at h
  split
  · rename_i hl
    simp [hl] at h
  · rename_i services hl
    simp only [hl] at h
    simp only [h, hl, Option.getD_some]

theorem by_host_remove_of_get_some {st : ServiceStore} {nh : NamespacedHostname}
    {prev : Service} (h : st.get_by_namespaced_host nh = some prev) (k : String) :
    (st.remove nh).1.by_host.lookup k =
      if k = nh.hostname then
        (if ((st.hostSlot k).eraseP fun s => s.namespace == nh.namespace).isEmpty then none
         else some ((st.hostSlot k).eraseP fun s => s.namespace == nh.namespace))
      else st.by_host.lookup k := by
  rw [remove_of_get_some h]
  dsimp only
  split
  · rename_i he
    rw [lookup_erase_eq]
    by_cases hk : k = nh.hostname
    · subst hk
      simp [he]
    · simp [hk]
  · rename_i he
    rw [lookup_insert_eq]
    by_cases hk : k = nh.hostname
    · subst hk
      simp [he]
    · simp [hk]

theorem hostSlot_remove (st : ServiceStore) (nh : NamespacedHostname) (k : String) :
    (st.remove nh).1.hostSlot k =
      if k = nh.hostname then (st.hostSlot k).eraseP fun s => s.namespace == nh.namespace
      else st.hostSlot k := by
  cases hg : st.get_by_namespaced_host nh with
  | none =>
    rw [remove_of_get_none hg]
    split
    · rename_i hk
      subst hk
      -- nothing of the namespace is listed, so erasing it changes nothing
      rw [get_by_namespaced_host_eq_find, List.find?_eq_none] at hg
      exact (List.eraseP_of_forall_not hg).symm
    · rfl
  | some prev =>
    unfold hostSlot
    rw [by_host_remove_of_get_some hg]
    split
    · rename_i hk
      subst hk
      split
      · rename_i he
        exact (List.isEmpty_iff.mp he).symm
      · rfl
    · rfl

theorem by_vip_remove_of_get_some {st : ServiceStore} {nh : NamespacedHostname}
    {prev : Service} (h : st.get_by_namespaced_host nh = some prev) (v : NetworkAddress) :
    (st.remove nh).1.by_vip.lookup v = if v ∈ prev.vips then none else st.by_vip.lookup v := by
  rw [remove_of_get_some h]
  exact lookup_foldl_erase prev.vips st.by_vip v

/-- `remove` never stages anything. -/
theorem staged_remove_sub {st : ServiceStore} {nh k : NamespacedHostname}
    {eps : HashMap String Endpoint}
    (h : (st.remove nh).1.staged_services.lookup k = some eps) :
    st.staged_services.lookup k = some eps := by
  cases hg : st.get_by_namespaced_host nh with
  | none => rwa [remove_of_get_none hg] at h
  | some prev =>
    rw [remove_of_get_some hg] at h
    simp only [lookup_erase_eq] at h
    split at h
    · cases h
    · exact h

theorem staged_remove_self (st : ServiceStore) (nh : NamespacedHostname) {prev : Service}
    (h : st.get_by_namespaced_host nh = some prev) :
    (st.remove nh).1.staged_services.lookup nh = none := by
  rw [remove_of_get_some h]
  simp

-- ============================================================================
-- The index invariant
-- ============================================================================

/-- A service is stored when `by_host` lists it under its hostname. -/
def Stored (st : ServiceStore) (s : Service) : Prop :=
  s ∈ st.hostSlot s.hostname

/-- The shape of the host slots. -/
structure HostWF (st : ServiceStore) : Prop where
  host_ne_nil : ∀ h l, st.by_host.lookup h = some l → l ≠ []
  host_name : ∀ h, ∀ s ∈ st.hostSlot h, s.hostname = h
  /-- At most one service per namespace under a hostname. -/
  host_ns_nodup : ∀ h, ((st.hostSlot h).map (·.namespace)).Nodup

/-- Staged endpoints are kept only for services not stored, and never empty. -/
def StagedOK (st : ServiceStore) (staged : HashMap NamespacedHostname (HashMap String Endpoint)) :
    Prop :=
  ∀ nh eps, staged.lookup nh = some eps →
    st.get_by_namespaced_host nh = none ∧ eps.entries ≠ []

structure Inv (st : ServiceStore) : Prop extends HostWF st where
  /-- `by_vip` points at the stored copy of each service, for its VIPs only. -/
  vip_iff : ∀ v s, st.by_vip.lookup v = some s ↔ Stored st s ∧ v ∈ s.vips
  /-- Stored services of different namespaced hostnames share no VIP. -/
  vip_disjoint : ∀ s₁ s₂, Stored st s₁ → Stored st s₂ →
    s₁.namespaced_hostname ≠ s₂.namespaced_hostname → ∀ v ∈ s₁.vips, v ∉ s₂.vips
  staged_ok : StagedOK st st.staged_services

theorem inv_default : Inv default where
  host_ne_nil := by simp [default]
  host_name := by simp [default, hostSlot]
  host_ns_nodup := by simp [default, hostSlot]
  vip_iff := by simp [default, Stored, hostSlot]
  vip_disjoint := by simp [default, Stored, hostSlot]
  staged_ok := by simp [StagedOK, default]

@[simp] theorem namespaced_hostname_with_endpoints (s : Service) (eps : EndpointSet) :
    ({ s with endpoints := eps } : Service).namespaced_hostname = s.namespaced_hostname := rfl

theorem namespaced_hostname_eq_iff (s : Service) (nh : NamespacedHostname) :
    s.namespaced_hostname = nh ↔ s.namespace = nh.namespace ∧ s.hostname = nh.hostname := by
  obtain ⟨ns, h⟩ := nh
  simp [Service.namespaced_hostname]

section Derived

variable {st : ServiceStore} (hw : HostWF st)
include hw

/-- Two stored services of one namespaced hostname are the same. -/
theorem HostWF.stored_unique {s₁ s₂ : Service} (h₁ : Stored st s₁) (h₂ : Stored st s₂)
    (h : s₁.namespaced_hostname = s₂.namespaced_hostname) : s₁ = s₂ := by
  obtain ⟨hns, hh⟩ := (namespaced_hostname_eq_iff s₁ _).mp h
  unfold Stored at h₁ h₂
  rw [hh] at h₁
  exact List.inj_on_of_nodup_map (hw.host_ns_nodup _) h₁ h₂ hns

theorem HostWF.get_by_namespaced_host_eq_some (nh : NamespacedHostname) (s : Service) :
    st.get_by_namespaced_host nh = some s ↔ Stored st s ∧ s.namespaced_hostname = nh := by
  rw [get_by_namespaced_host_eq_find, namespaced_hostname_eq_iff,
    KeyedList.find?_key_eq_some_iff Service.namespace (hw.host_ns_nodup _)]
  constructor
  · rintro ⟨hs, hns⟩
    have hh := hw.host_name _ s hs
    refine ⟨?_, hns, hh⟩
    unfold Stored
    rwa [hh]
  · rintro ⟨hs, hns, hh⟩
    unfold Stored at hs
    rw [hh] at hs
    exact ⟨hs, hns⟩

theorem HostWF.get_by_namespaced_host_eq_none (nh : NamespacedHostname) :
    st.get_by_namespaced_host nh = none ↔ ∀ s, Stored st s → s.namespaced_hostname ≠ nh := by
  constructor
  · intro hn s hs hsn
    have := (hw.get_by_namespaced_host_eq_some nh s).mpr ⟨hs, hsn⟩
    simp [hn] at this
  · intro h
    cases hg : st.get_by_namespaced_host nh with
    | none => rfl
    | some s =>
      obtain ⟨hs, hsn⟩ := (hw.get_by_namespaced_host_eq_some nh s).mp hg
      exact absurd hsn (h s hs)

/-- After `mapService`, the service is stored in place of its namespaced
    hostname's previous version. -/
theorem HostWF.stored_mapService (service x : Service) :
    Stored (st.mapService service) x ↔
      x = service ∨ (Stored st x ∧ x.namespaced_hostname ≠ service.namespaced_hostname) := by
  unfold Stored
  rw [hostSlot_mapService, Ne, namespaced_hostname_eq_iff]
  by_cases hh : x.hostname = service.hostname
  · rw [if_pos hh, mem_placeService (hw.host_ns_nodup _)]
    simp [hh, Service.namespaced_hostname]
  · rw [if_neg hh]
    have hx : x ≠ service := fun h => hh (h ▸ rfl)
    simp [hx, hh, Service.namespaced_hostname]

/-- After `remove`, exactly the other services stay stored. -/
theorem HostWF.stored_remove (nh : NamespacedHostname) (x : Service) :
    Stored (st.remove nh).1 x ↔ Stored st x ∧ x.namespaced_hostname ≠ nh := by
  unfold Stored
  rw [hostSlot_remove, Ne, namespaced_hostname_eq_iff]
  by_cases hh : x.hostname = nh.hostname
  · rw [if_pos hh, KeyedList.mem_eraseP_key Service.namespace (hw.host_ns_nodup _)]
    simp [hh]
  · rw [if_neg hh]
    simp [hh]

theorem HostWF.mapService (service : Service) : HostWF (st.mapService service) where
  host_ne_nil h l hl := by
    rw [by_host_mapService] at hl
    split at hl
    · cases hl
      exact placeService_ne_nil _ _
    · exact hw.host_ne_nil h l hl
  host_name h s hs := by
    rw [hostSlot_mapService] at hs
    split at hs
    · rename_i hh
      rcases (mem_placeService (hw.host_ns_nodup h) service s).mp hs with rfl | ⟨hs, -⟩
      · exact hh.symm
      · exact hw.host_name h s hs
    · exact hw.host_name h s hs
  host_ns_nodup h := by
    rw [hostSlot_mapService]
    split
    · exact nodup_placeService (hw.host_ns_nodup h) service
    · exact hw.host_ns_nodup h

theorem HostWF.remove (nh : NamespacedHostname) : HostWF (st.remove nh).1 where
  host_ne_nil h l hl := by
    cases hg : st.get_by_namespaced_host nh with
    | none =>
      rw [remove_of_get_none hg] at hl
      exact hw.host_ne_nil h l hl
    | some prev =>
      rw [by_host_remove_of_get_some hg] at hl
      split at hl
      · split at hl
        · cases hl
        · rename_i hne
          cases hl
          exact fun h => hne (List.isEmpty_iff.mpr h)
      · exact hw.host_ne_nil h l hl
  host_name h s hs := by
    rw [hostSlot_remove] at hs
    split at hs
    · exact hw.host_name h s (List.mem_of_mem_eraseP hs)
    · exact hw.host_name h s hs
  host_ns_nodup h := by
    rw [hostSlot_remove]
    split
    · exact KeyedList.nodup_map_eraseP Service.namespace (hw.host_ns_nodup h) _
    · exact hw.host_ns_nodup h

end Derived

/-- The host slots and the staged map, without the VIP index: what every
    operation keeps, whatever VIPs the services hold. -/
structure StoreWF (st : ServiceStore) : Prop extends HostWF st where
  staged_ok : StagedOK st st.staged_services

theorem storeWF_default : StoreWF default where
  toHostWF := inv_default.toHostWF
  staged_ok := inv_default.staged_ok

theorem Inv.toStoreWF {st : ServiceStore} (hi : Inv st) : StoreWF st where
  toHostWF := hi.toHostWF
  staged_ok := hi.staged_ok

/-- A stored service has nothing staged under its name. -/
theorem StoreWF.staged_of_stored {st : ServiceStore} (hw : StoreWF st) {s : Service}
    (hs : Stored st s) : st.staged_services.lookup s.namespaced_hostname = none := by
  cases hl : st.staged_services.lookup s.namespaced_hostname with
  | none => rfl
  | some eps =>
    have hn := (hw.staged_ok _ eps hl).1
    exact absurd rfl ((hw.toHostWF.get_by_namespaced_host_eq_none _).mp hn s hs)

-- ============================================================================
-- What each operation can do
-- ============================================================================

section Steps

variable {st : ServiceStore}

/-- A full insert: drop the staged entry (taking its endpoints), remove the
    previous version, then map the new one. -/
theorem insert_eq (st : ServiceStore) (service : Service) :
    ∃ staged eps,
      (∀ k e, staged.lookup k = some e → st.staged_services.lookup k = some e) ∧
      staged.lookup service.namespaced_hostname = none ∧
      st.insert service =
        (({ st with staged_services := staged }).remove service.namespaced_hostname).1.mapService
          { service with endpoints := eps } := by
  unfold insert insert_internal
  cases hs : st.staged_services.lookup service.namespaced_hostname with
  | none =>
    refine ⟨st.staged_services, service.endpoints, fun _ _ h => h, hs, ?_⟩
    simp only [hs]
    rfl
  | some endpoints =>
    obtain ⟨eps, heps⟩ := addStaged_eq service endpoints
    refine ⟨st.staged_services.erase service.namespaced_hostname, eps, fun k e h => ?_, by simp, ?_⟩
    · rw [lookup_erase_eq] at h
      split at h
      · cases h
      · exact h
    · simp only [hs, heps]
      rfl

theorem insert_endpoint_update_eq (st : ServiceStore) (service : Service) :
    st.insert_endpoint_update service = st.mapService service := rfl

/-- `remove` stages nothing. -/
theorem staged_remove_none {nh k : NamespacedHostname} (h : st.staged_services.lookup k = none) :
    (st.remove nh).1.staged_services.lookup k = none := by
  rw [Option.eq_none_iff_forall_ne_some]
  intro e he
  have := staged_remove_sub he
  simp [h] at this

/-- `insert_endpoint` changes nothing, adds the endpoint to the stored
    service of the name, or stages it when no service of the name is
    stored. -/
theorem insert_endpoint_cases (hw : HostWF st) (service_name : NamespacedHostname)
    (ep : Endpoint) :
    st.insert_endpoint service_name ep = st ∨
    (∃ s, Stored st s ∧ s.namespaced_hostname = service_name ∧
      s.should_include_endpoint ep.status = true ∧
      st.insert_endpoint service_name ep =
        st.insert_endpoint_update { s with endpoints := s.endpoints.insert ep.workload_uid ep }) ∨
    (st.get_by_namespaced_host service_name = none ∧
      st.insert_endpoint service_name ep =
        { st with staged_services := st.staged_services.upsert service_name fun eps =>
            (eps.getD ∅).insert ep.workload_uid ep }) := by
  unfold ServiceStore.insert_endpoint
  cases hg : st.get_by_namespaced_host service_name with
  | some svc =>
    obtain ⟨hs, hsn⟩ := (hw.get_by_namespaced_host_eq_some _ svc).mp hg
    dsimp only
    split
    · exact .inl rfl
    · rename_i hinc
      simp only [Bool.not_eq_true', Bool.not_eq_false] at hinc
      exact .inr (.inl ⟨svc, hs, hsn, hinc, rfl⟩)
  | none => exact .inr (.inr ⟨rfl, rfl⟩)

/-- A step of the service-update loop of `remove_endpoint` changes nothing
    or drops the endpoint from the stored service of the name. -/
theorem dropEndpoint_cases (hw : HostWF st) (workload_uid : String) (svc : NamespacedHostname) :
    dropEndpoint workload_uid st svc = st ∨
    ∃ s, Stored st s ∧ s.namespaced_hostname = svc ∧
      dropEndpoint workload_uid st svc =
        st.insert_endpoint_update { s with endpoints := s.endpoints.remove workload_uid } := by
  unfold ServiceStore.dropEndpoint
  cases hg : st.get_by_namespaced_host svc with
  | none => exact .inl rfl
  | some s =>
    obtain ⟨hs, hsn⟩ := (hw.get_by_namespaced_host_eq_some svc s).mp hg
    exact .inr ⟨s, hs, hsn, rfl⟩

theorem remove_endpoint_eq (st : ServiceStore) (prev_workload : Workload) :
    st.remove_endpoint prev_workload =
      prev_workload.services.dedup.foldl (dropEndpoint prev_workload.uid)
        { st with staged_services :=
            prev_workload.services.foldl (unstage prev_workload.uid) st.staged_services } := rfl

/-- Staging an endpoint under a name with no stored service keeps the staged
    map well kept. -/
theorem StagedOK.stage {staged : HashMap NamespacedHostname (HashMap String Endpoint)}
    (h : StagedOK st staged) {service_name : NamespacedHostname}
    (hg : st.get_by_namespaced_host service_name = none) (uid : String) (ep : Endpoint) :
    StagedOK st (staged.upsert service_name fun eps => (eps.getD ∅).insert uid ep) := by
  intro k e hk
  rw [lookup_upsert] at hk
  split at hk
  · rename_i hkn
    subst hkn
    cases hk
    exact ⟨hg, by simp [AList.entries_insert]⟩
  · exact h k e hk

/-- One step of the staged cleanup keeps the staged map well kept. -/
theorem StagedOK.unstage {staged : HashMap NamespacedHostname (HashMap String Endpoint)}
    (h : StagedOK st staged) (workload_uid : String) (svc : NamespacedHostname) :
    StagedOK st (unstage workload_uid staged svc) := by
  intro k e hk
  unfold ServiceStore.unstage at hk
  dsimp only at hk
  split at hk
  · rw [lookup_erase_eq] at hk
    split at hk
    · cases hk
    · exact h k e hk
  · rename_i hne
    rw [lookup_insert_eq] at hk
    split at hk
    · rename_i hks
      subst hks
      cases hk
      -- the key was staged before: erasing from a vacant slot leaves it empty
      cases hl : staged.lookup k with
      | none =>
        rw [hl] at hne
        exact absurd rfl hne
      | some e₀ =>
        rw [hl] at hne
        exact ⟨(h k e₀ hl).1, fun he => hne (List.isEmpty_iff.mpr he)⟩
    · exact h k e hk

theorem StagedOK.foldl_unstage {staged : HashMap NamespacedHostname (HashMap String Endpoint)}
    (h : StagedOK st staged) (workload_uid : String) (l : List NamespacedHostname) :
    StagedOK st (l.foldl (ServiceStore.unstage workload_uid) staged) :=
  List.foldlRecOn (motive := StagedOK st) _ _ h fun _ h svc _ => h.unstage _ svc

end Steps

-- ============================================================================
-- The store's shape under each operation
-- ============================================================================

section StoreShape

variable {st : ServiceStore}

theorem StoreWF.set_staged (hw : StoreWF st)
    {staged : HashMap NamespacedHostname (HashMap String Endpoint)} (hs : StagedOK st staged) :
    StoreWF { st with staged_services := staged } :=
  { hw with staged_ok := hs }

/-- The common tail of every insert; nothing may be staged for the
    service. -/
theorem StoreWF.mapService (hw : StoreWF st) (service : Service)
    (hstaged : st.staged_services.lookup service.namespaced_hostname = none) :
    StoreWF (st.mapService service) := by
  have hm := hw.toHostWF.mapService service
  refine { toHostWF := hm, staged_ok := ?_ }
  intro nh eps hl
  rw [staged_mapService] at hl
  obtain ⟨hn, hne⟩ := hw.staged_ok nh eps hl
  refine ⟨(hm.get_by_namespaced_host_eq_none nh).mpr fun s hs hsn => ?_, hne⟩
  rcases (hw.toHostWF.stored_mapService service s).mp hs with rfl | ⟨hs, -⟩
  · -- the new service's own name has nothing staged
    rw [hsn, hl] at hstaged
    cases hstaged
  · exact (hw.toHostWF.get_by_namespaced_host_eq_none nh).mp hn s hs hsn

theorem StoreWF.remove (hw : StoreWF st) (nh : NamespacedHostname) : StoreWF (st.remove nh).1 := by
  have hr := hw.toHostWF.remove nh
  refine { toHostWF := hr, staged_ok := ?_ }
  intro k eps hl
  obtain ⟨hn, hne⟩ := hw.staged_ok k eps (staged_remove_sub hl)
  refine ⟨(hr.get_by_namespaced_host_eq_none k).mpr fun s hs => ?_, hne⟩
  exact (hw.toHostWF.get_by_namespaced_host_eq_none k).mp hn s
    ((hw.toHostWF.stored_remove nh s).mp hs).1

theorem StoreWF.insert (hw : StoreWF st) (service : Service) : StoreWF (st.insert service) := by
  obtain ⟨staged, eps, hsub, hnone, heq⟩ := insert_eq st service
  rw [heq]
  have h₀ : StoreWF { st with staged_services := staged } :=
    hw.set_staged fun k e hk => hw.staged_ok k e (hsub k e hk)
  exact (h₀.remove _).mapService _ (staged_remove_none hnone)

theorem StoreWF.insert_endpoint_update (hw : StoreWF st) {s : Service} (hs : Stored st s)
    (eps : EndpointSet) : StoreWF (st.insert_endpoint_update { s with endpoints := eps }) := by
  rw [insert_endpoint_update_eq]
  apply hw.mapService
  rw [namespaced_hostname_with_endpoints]
  exact hw.staged_of_stored hs

theorem StoreWF.insert_endpoint (hw : StoreWF st) (service_name : NamespacedHostname)
    (ep : Endpoint) : StoreWF (st.insert_endpoint service_name ep) := by
  rcases insert_endpoint_cases hw.toHostWF service_name ep with
    h | ⟨s, hs, -, -, h⟩ | ⟨hg, h⟩ <;> rw [h]
  · exact hw
  · exact hw.insert_endpoint_update hs _
  · exact hw.set_staged (hw.staged_ok.stage hg _ _)

theorem StoreWF.dropEndpoint (hw : StoreWF st) (workload_uid : String)
    (svc : NamespacedHostname) : StoreWF (dropEndpoint workload_uid st svc) := by
  rcases dropEndpoint_cases hw.toHostWF workload_uid svc with h | ⟨s, hs, -, h⟩ <;> rw [h]
  · exact hw
  · exact hw.insert_endpoint_update hs _

theorem StoreWF.remove_endpoint (hw : StoreWF st) (prev_workload : Workload) :
    StoreWF (st.remove_endpoint prev_workload) := by
  rw [remove_endpoint_eq]
  exact List.foldlRecOn (motive := StoreWF) _ _
    (hw.set_staged (hw.staged_ok.foldl_unstage _ _)) fun _ h svc _ => h.dropEndpoint _ svc

end StoreShape

-- ============================================================================
-- The invariant under each operation
-- ============================================================================

section Preservation

variable {st : ServiceStore}

/-- Replacing the staged map keeps the invariant when the new map is itself
    well kept: the host and VIP maps are untouched. -/
theorem Inv.set_staged (hi : Inv st)
    {staged : HashMap NamespacedHostname (HashMap String Endpoint)} (hs : StagedOK st staged) :
    Inv { st with staged_services := staged } :=
  { hi with staged_ok := hs }

/-- The common tail of every insert.  The caller guarantees that the new
    version covers the VIPs of the version it replaces, that no service of
    another name holds one of its VIPs, and that nothing is staged for it. -/
theorem Inv.mapService (hi : Inv st) (service : Service)
    (hcover : ∀ s, Stored st s → s.namespaced_hostname = service.namespaced_hostname →
      ∀ v ∈ s.vips, v ∈ service.vips)
    (hdisj : ∀ s, Stored st s → s.namespaced_hostname ≠ service.namespaced_hostname →
      ∀ v ∈ service.vips, v ∉ s.vips)
    (hstaged : st.staged_services.lookup service.namespaced_hostname = none) :
    Inv (st.mapService service) := by
  have hw := hi.toStoreWF.mapService service hstaged
  have hst := hi.toHostWF.stored_mapService service
  refine { toHostWF := hw.toHostWF, vip_iff := ?_, vip_disjoint := ?_,
           staged_ok := hw.staged_ok }
  · intro v s
    rw [by_vip_mapService, hst]
    by_cases hv : v ∈ service.vips
    · -- the VIP now maps to the service, and no other stored service holds it
      rw [if_pos hv, Option.some.injEq]
      constructor
      · rintro rfl
        exact ⟨.inl rfl, hv⟩
      · rintro ⟨rfl | ⟨hs, hne⟩, hvs⟩
        · rfl
        · exact absurd hvs (hdisj s hs hne v hv)
    · -- a VIP the new version lacks was not the old version's either
      rw [if_neg hv, hi.vip_iff]
      constructor
      · rintro ⟨hs, hvs⟩
        exact ⟨.inr ⟨hs, fun hnh => hv (hcover s hs hnh v hvs)⟩, hvs⟩
      · rintro ⟨rfl | ⟨hs, -⟩, hvs⟩
        · exact absurd hvs hv
        · exact ⟨hs, hvs⟩
  · intro s₁ s₂ h₁ h₂ hne v hv₁
    rw [hst] at h₁ h₂
    rcases h₁ with rfl | ⟨h₁, hn₁⟩ <;> rcases h₂ with rfl | ⟨h₂, hn₂⟩
    · exact absurd rfl hne
    · exact hdisj s₂ h₂ hn₂ v hv₁
    · exact fun hv₂ => hdisj s₁ h₁ hn₁ v hv₂ hv₁
    · exact hi.vip_disjoint s₁ s₂ h₁ h₂ hne v hv₁

theorem Inv.remove (hi : Inv st) (nh : NamespacedHostname) : Inv (st.remove nh).1 := by
  cases hg : st.get_by_namespaced_host nh with
  | none => rwa [remove_of_get_none hg]
  | some prev =>
    obtain ⟨hprev, hpnh⟩ := (hi.toHostWF.get_by_namespaced_host_eq_some nh prev).mp hg
    have hw := hi.toStoreWF.remove nh
    have hst := hi.toHostWF.stored_remove nh
    refine { toHostWF := hw.toHostWF, vip_iff := ?_, vip_disjoint := ?_,
             staged_ok := hw.staged_ok }
    · intro v s
      rw [by_vip_remove_of_get_some hg, hst]
      by_cases hv : v ∈ prev.vips
      · -- the VIP was the removed service's, and no other stored service holds it
        rw [if_pos hv]
        simp only [reduceCtorEq, false_iff, not_and, and_imp]
        intro hs hne hvs
        have hne' : prev.namespaced_hostname ≠ s.namespaced_hostname := by
          rw [hpnh]
          exact hne.symm
        exact hi.vip_disjoint prev s hprev hs hne' v hv hvs
      · rw [if_neg hv, hi.vip_iff]
        constructor
        · rintro ⟨hs, hvs⟩
          refine ⟨⟨hs, fun hsn => hv ?_⟩, hvs⟩
          have hsp : s = prev := hi.toHostWF.stored_unique hs hprev (hsn.trans hpnh.symm)
          rwa [← hsp]
        · rintro ⟨⟨hs, -⟩, hvs⟩
          exact ⟨hs, hvs⟩
    · intro s₁ s₂ h₁ h₂ hne
      exact hi.vip_disjoint s₁ s₂ ((hst s₁).mp h₁).1 ((hst s₂).mp h₂).1 hne

/-- A full insert keeps the invariant when no stored service of another name
    holds one of the new VIPs. -/
theorem Inv.insert (hi : Inv st) (service : Service)
    (hdisj : ∀ s, Stored st s → s.namespaced_hostname ≠ service.namespaced_hostname →
      ∀ v ∈ service.vips, v ∉ s.vips) :
    Inv (st.insert service) := by
  obtain ⟨staged, eps, hsub, hnone, heq⟩ := insert_eq st service
  rw [heq]
  have h₀ : Inv { st with staged_services := staged } :=
    hi.set_staged fun k e hk => hi.staged_ok k e (hsub k e hk)
  have hst := h₀.toHostWF.stored_remove service.namespaced_hostname
  apply (h₀.remove service.namespaced_hostname).mapService
  · -- the previous version is gone: nothing of the name is left to cover
    intro s hs hsn
    exact absurd hsn ((hst s).mp hs).2
  · intro s hs hsn
    exact hdisj s ((hst s).mp hs).1 hsn
  · exact staged_remove_none hnone

/-- An endpoint-only update of a stored service keeps the invariant. -/
theorem Inv.insert_endpoint_update (hi : Inv st) {s : Service} (hs : Stored st s)
    (eps : EndpointSet) : Inv (st.insert_endpoint_update { s with endpoints := eps }) := by
  rw [insert_endpoint_update_eq]
  apply hi.mapService
  · -- the only stored service of that name is `s`, whose VIPs are unchanged
    intro x hx hxn v hv
    rwa [hi.toHostWF.stored_unique hx hs hxn] at hv
  · intro x hx hxn v hv
    exact hi.vip_disjoint s x hs hx (Ne.symm hxn) v hv
  · rw [namespaced_hostname_with_endpoints]
    exact hi.toStoreWF.staged_of_stored hs

theorem Inv.insert_endpoint (hi : Inv st) (service_name : NamespacedHostname) (ep : Endpoint) :
    Inv (st.insert_endpoint service_name ep) := by
  rcases insert_endpoint_cases hi.toHostWF service_name ep with
    h | ⟨s, hs, -, -, h⟩ | ⟨hg, h⟩ <;> rw [h]
  · exact hi
  · exact hi.insert_endpoint_update hs _
  · exact hi.set_staged (hi.staged_ok.stage hg _ _)

theorem Inv.dropEndpoint (hi : Inv st) (workload_uid : String) (svc : NamespacedHostname) :
    Inv (dropEndpoint workload_uid st svc) := by
  rcases dropEndpoint_cases hi.toHostWF workload_uid svc with h | ⟨s, hs, -, h⟩ <;> rw [h]
  · exact hi
  · exact hi.insert_endpoint_update hs _

theorem Inv.remove_endpoint (hi : Inv st) (prev_workload : Workload) :
    Inv (st.remove_endpoint prev_workload) := by
  rw [remove_endpoint_eq]
  -- the staged cleanup first, then each service of the workload loses the endpoint
  exact List.foldlRecOn (motive := Inv) _ _
    (hi.set_staged (hi.staged_ok.foldl_unstage _ _)) fun _ h svc _ => h.dropEndpoint _ svc

end Preservation

-- ============================================================================
-- Runs
-- ============================================================================

/-- The store's mutating entry points. -/
inductive Op where
  | insert (service : Service)
  | insert_endpoint_update (service : Service)
  | insert_endpoint (service_name : NamespacedHostname) (ep : Endpoint)
  | remove_endpoint (prev_workload : Workload)
  | remove (namespaced_host : NamespacedHostname)

def apply (st : ServiceStore) : Op → ServiceStore
  | .insert service => st.insert service
  | .insert_endpoint_update service => st.insert_endpoint_update service
  | .insert_endpoint service_name ep => st.insert_endpoint service_name ep
  | .remove_endpoint prev_workload => st.remove_endpoint prev_workload
  | .remove namespaced_host => (st.remove namespaced_host).1

/-- The callers' side of the contract: a full insert brings no VIP that a
    stored service of another namespaced hostname holds, and an endpoint-only
    update is of a stored service with only its endpoints changed. -/
def Admissible (st : ServiceStore) : Op → Prop
  | .insert service => ∀ s, Stored st s →
      s.namespaced_hostname ≠ service.namespaced_hostname → ∀ v ∈ service.vips, v ∉ s.vips
  | .insert_endpoint_update service =>
      ∃ s eps, Stored st s ∧ service = { s with endpoints := eps }
  | _ => True

/-- The states reachable from `ServiceStore::default()` by admissible
    operations. -/
inductive Reachable : ServiceStore → Prop where
  | init : Reachable ServiceStore.default
  | step {st : ServiceStore} (op : Op) : Reachable st → Admissible st op → Reachable (st.apply op)

theorem Inv.apply {st : ServiceStore} (hi : Inv st) (op : Op) (hop : Admissible st op) :
    Inv (st.apply op) := by
  cases op with
  | insert service => exact hi.insert service hop
  | insert_endpoint_update service =>
    obtain ⟨s, eps, hs, rfl⟩ := hop
    exact hi.insert_endpoint_update hs eps
  | insert_endpoint service_name ep => exact hi.insert_endpoint service_name ep
  | remove_endpoint prev_workload => exact hi.remove_endpoint prev_workload
  | remove namespaced_host => exact hi.remove namespaced_host

theorem inv_of_reachable {st : ServiceStore} (h : Reachable st) : Inv st := by
  induction h with
  | init => exact inv_default
  | step op _ hop ih => exact ih.apply op hop

theorem service_indices_consistent {st : ServiceStore} (hr : Reachable st) :
    (∀ h l, st.by_host.lookup h = some l →
      l ≠ [] ∧ (∀ s ∈ l, s.hostname = h) ∧ (l.map (·.namespace)).Nodup) ∧
    (∀ v s, st.by_vip.lookup v = some s ↔
      (∃ l, st.by_host.lookup s.hostname = some l ∧ s ∈ l) ∧ v ∈ s.vips) ∧
    (∀ nh eps, st.staged_services.lookup nh = some eps →
      (∀ l, st.by_host.lookup nh.hostname = some l → ∀ s ∈ l, s.namespace ≠ nh.namespace) ∧
      eps.entries ≠ []) := by
  have hi := inv_of_reachable hr
  refine ⟨fun h l hl => ?_, fun v s => ?_, fun nh eps hl => ?_⟩
  · have hslot : st.hostSlot h = l := by simp [hostSlot, hl]
    exact ⟨hi.host_ne_nil h l hl, hslot ▸ hi.host_name h, hslot ▸ hi.host_ns_nodup h⟩
  · rw [hi.vip_iff, Stored, mem_hostSlot]
  · obtain ⟨hn, hne⟩ := hi.staged_ok nh eps hl
    refine ⟨fun l hl s hs hns => ?_, hne⟩
    -- a service listed under the staged name's hostname and namespace would be served
    have hmem : s ∈ st.hostSlot nh.hostname := mem_hostSlot.mpr ⟨l, hl, hs⟩
    have hh : s.hostname = nh.hostname := hi.host_name _ s hmem
    have hstored : Stored st s := by
      unfold Stored
      rwa [hh]
    exact (hi.toHostWF.get_by_namespaced_host_eq_none nh).mp hn s hstored
      ((namespaced_hostname_eq_iff s nh).mpr ⟨hns, hh⟩)

/-- A service with one VIP in namespace `bookinfo`. -/
def reviews : Service where
  name := "reviews"
  «namespace» := "bookinfo"
  hostname := "reviews.bookinfo.svc.cluster.local"
  vips := [network_addr "" (.V4 0x0a000001)]
  ports := ∅
  endpoints := EndpointSet.empty
  subject_alt_names := []
  waypoint := none
  load_balancer := none
  ip_families := none

/-- The same hostname declared again, without VIPs, in namespace `other`. -/
def reviewsOther : Service := { reviews with «namespace» := "other", vips := [] }

/-- Both services inserted, in order, into the default store. -/
def twoNamespaces : ServiceStore :=
  (ServiceStore.default.apply (.insert reviews)).apply (.insert reviewsOther)

theorem service_indices_consistent_two_namespaces :
    Reachable twoNamespaces ∧
    (∀ h l, twoNamespaces.by_host.lookup h = some l →
      l ≠ [] ∧ (∀ s ∈ l, s.hostname = h) ∧ (l.map (·.namespace)).Nodup) ∧
    (∀ v s, twoNamespaces.by_vip.lookup v = some s ↔
      (∃ l, twoNamespaces.by_host.lookup s.hostname = some l ∧ s ∈ l) ∧ v ∈ s.vips) ∧
    (∀ nh eps, twoNamespaces.staged_services.lookup nh = some eps →
      (∀ l, twoNamespaces.by_host.lookup nh.hostname = some l →
        ∀ s ∈ l, s.namespace ≠ nh.namespace) ∧
      eps.entries ≠ []) := by
  have h₁ : Reachable (ServiceStore.default.apply (.insert reviews)) :=
    .step _ .init (by simp [Admissible, Stored, hostSlot, ServiceStore.default])
  have h₂ : Reachable twoNamespaces :=
    .step _ h₁ (by simp [Admissible, reviewsOther])
  exact ⟨h₂, service_indices_consistent h₂⟩

end ServiceStore

end Ztunnel
