/-
  Ztunnel.State.WorkloadIndex

  The three indices of the workload store stay consistent with `by_uid`
  over every run of `insert` and `remove` from `WorkloadStore::new`:

    * the slot of `by_addr` at `(n, ip)` holds each stored, non-host-network
      workload of network `n` once per occurrence of `ip` in its IP list,
      and nothing else;
    * every slot is well formed (`Many` holds two or more workloads), so
      `WorkloadByAddr::get` never reaches its `expect`;
    * `node_local_by_identity` lists exactly the local workloads of each
      identity and holds no empty set.

  The proof goes through the contents of a slot as a list (`addrSlot`):
  one loop iteration of `insert` appends the workload, one of `remove`
  filters its UID out, and a filter is idempotent, so duplicate IPs and
  repeated keys need no case of their own.
-/

import Ztunnel.State.Workload

namespace Ztunnel

open HashMap

-- ============================================================================
-- WorkloadByAddr: contents and shape
-- ============================================================================

namespace WorkloadByAddr

@[simp] theorem workloads_single (w : Workload) : (Single w).workloads = [w] := rfl

@[simp] theorem workloads_many (ws : List Workload) : (Many ws).workloads = ws := rfl

@[simp] theorem workloads_insert (e : WorkloadByAddr) (w : Workload) :
    (e.insert w).workloads = e.workloads ++ [w] := by
  cases e <;> rfl

theorem WF.insert {e : WorkloadByAddr} (h : e.WF) (w : Workload) : (e.insert w).WF := by
  cases e with
  | Single a => simp [WorkloadByAddr.insert, WF]
  | Many ws =>
    simp only [WorkloadByAddr.insert, WF, List.length_append, List.length_singleton] at h ⊢
    omega

/-- `remove_uid` on `Many`, by the shape of what the filter leaves. -/
theorem remove_uid_many (ws : List Workload) (uid : String) :
    (Many ws).remove_uid uid =
      match ws.filter (fun w => w.uid != uid) with
      | [] => (true, Many [])
      | [wl] => (false, Single wl)
      | rest => (false, Many rest) := rfl

/-- `remove_uid` reports an empty slot exactly when no other UID is left. -/
theorem remove_uid_fst (e : WorkloadByAddr) (uid : String) :
    (e.remove_uid uid).1 = true ↔ e.workloads.filter (fun w => w.uid != uid) = [] := by
  cases e with
  | Single wl =>
    by_cases h : wl.uid = uid <;> simp [remove_uid, workloads, h]
  | Many ws =>
    rw [remove_uid_many, workloads]
    generalize ws.filter (fun w => w.uid != uid) = rest
    rcases rest with _ | ⟨a, _ | ⟨b, rest⟩⟩ <;> simp

/-- When something is left, the slot holds the filtered workloads. -/
theorem workloads_remove_uid {e : WorkloadByAddr} {uid : String}
    (h : (e.remove_uid uid).1 = false) :
    (e.remove_uid uid).2.workloads = e.workloads.filter (fun w => w.uid != uid) := by
  cases e with
  | Single wl =>
    have hne : wl.uid ≠ uid := by simpa [remove_uid] using h
    simp [remove_uid, workloads, hne]
  | Many ws =>
    rw [remove_uid_many] at h ⊢
    rw [workloads]
    generalize ws.filter (fun w => w.uid != uid) = rest at h ⊢
    rcases rest with _ | ⟨a, _ | ⟨b, rest⟩⟩
    · simp at h
    · rfl
    · rfl

/-- A slot that survives `remove_uid` is well formed. -/
theorem WF.remove_uid (e : WorkloadByAddr) (uid : String) (he : e.WF)
    (h : (e.remove_uid uid).1 = false) : (e.remove_uid uid).2.WF := by
  cases e with
  | Single wl => exact he
  | Many ws =>
    rw [remove_uid_many] at h ⊢
    generalize ws.filter (fun w => w.uid != uid) = rest at h ⊢
    rcases rest with _ | ⟨a, _ | ⟨b, rest⟩⟩
    · simp at h
    · exact trivial
    · simp [WF]

theorem WF.workloads_ne_nil {e : WorkloadByAddr} (h : e.WF) : e.workloads ≠ [] := by
  cases e with
  | Single w => simp [workloads]
  | Many ws =>
    intro hnil
    simp only [WF, workloads] at h hnil
    simp [hnil] at h

/-- `get` only panics on an empty `Many`. -/
theorem WF.get_isSome {e : WorkloadByAddr} (h : e.WF) : e.get.isSome := by
  cases e with
  | Single w => rfl
  | Many ws =>
    match ws, h with
    | _ :: _, _ => rfl

end WorkloadByAddr

-- ============================================================================
-- by_addr as a function from addresses to lists of workloads
-- ============================================================================

/-- The workloads of the `by_addr` slot at `k`; an absent slot holds none. -/
def addrSlot (m : HashMap NetworkAddress WorkloadByAddr) (k : NetworkAddress) :
    List Workload :=
  ((m.lookup k).map WorkloadByAddr.workloads).getD []

/-- Every slot of the map has the shape the code keeps. -/
def SlotsWF (m : HashMap NetworkAddress WorkloadByAddr) : Prop :=
  ∀ k e, m.lookup k = some e → e.WF

namespace WorkloadStore

theorem addrSlot_addAddr (w : Workload) (m : HashMap NetworkAddress WorkloadByAddr)
    (ip : IpAddr) (k : NetworkAddress) :
    addrSlot (addAddr w m ip) k =
      if k = network_addr w.network ip then addrSlot m k ++ [w] else addrSlot m k := by
  unfold addAddr addrSlot
  rw [lookup_upsert]
  split
  · rename_i hk
    subst hk
    cases m.lookup (network_addr w.network ip) <;> simp
  · rfl

/-- `removeAddr` in its three outcomes: slot absent, slot emptied, slot kept. -/
theorem removeAddr_cases (prev : Workload) (m : HashMap NetworkAddress WorkloadByAddr)
    (wip : IpAddr) :
    (m.lookup (network_addr prev.network wip) = none ∧ removeAddr prev m wip = m) ∨
    (∃ o, m.lookup (network_addr prev.network wip) = some o ∧
      (o.remove_uid prev.uid).1 = true ∧
      removeAddr prev m wip = m.erase (network_addr prev.network wip)) ∨
    (∃ o o', m.lookup (network_addr prev.network wip) = some o ∧
      o.remove_uid prev.uid = (false, o') ∧
      removeAddr prev m wip = m.insert (network_addr prev.network wip) o') := by
  cases hl : m.lookup (network_addr prev.network wip) with
  | none => exact .inl ⟨rfl, by simp [removeAddr, hl]⟩
  | some o =>
    rcases hr : o.remove_uid prev.uid with ⟨_ | _, o'⟩
    · exact .inr (.inr ⟨o, o', rfl, hr, by simp [removeAddr, hl, hr]⟩)
    · exact .inr (.inl ⟨o, rfl, by rw [hr], by simp [removeAddr, hl, hr]⟩)

theorem addrSlot_removeAddr (prev : Workload) (m : HashMap NetworkAddress WorkloadByAddr)
    (wip : IpAddr) (k : NetworkAddress) :
    addrSlot (removeAddr prev m wip) k =
      if k = network_addr prev.network wip then
        (addrSlot m k).filter (fun w => w.uid != prev.uid)
      else addrSlot m k := by
  rcases removeAddr_cases prev m wip with ⟨hl, heq⟩ | ⟨o, hl, hr, heq⟩ | ⟨o, o', hl, hr, heq⟩
  · rw [heq]
    split
    · rename_i hk
      subst hk
      simp [addrSlot, hl]
    · rfl
  · -- nothing is left: the slot is erased
    have he := (WorkloadByAddr.remove_uid_fst o prev.uid).mp hr
    rw [heq]
    simp only [addrSlot, lookup_erase_eq]
    split
    · rename_i hk
      subst hk
      simp [hl, he]
    · rfl
  · -- something is left: the slot is rewritten in place
    have hw := WorkloadByAddr.workloads_remove_uid
      (show (o.remove_uid prev.uid).1 = false by rw [hr])
    rw [hr] at hw
    rw [heq]
    simp only [addrSlot, lookup_insert_eq]
    split
    · rename_i hk
      subst hk
      simp [hl, hw]
    · rfl

/-- The address loop of `insert` appends the workload once per matching IP. -/
theorem addrSlot_foldl_addAddr (w : Workload) (ips : List IpAddr)
    (m : HashMap NetworkAddress WorkloadByAddr) (k : NetworkAddress) :
    addrSlot (ips.foldl (addAddr w) m) k =
      addrSlot m k ++ List.replicate ((ips.map (network_addr w.network)).count k) w := by
  induction ips generalizing m with
  | nil => simp
  | cons ip ips ih =>
    rw [List.foldl_cons, ih, addrSlot_addAddr, List.map_cons, List.count_cons]
    by_cases hk : k = network_addr w.network ip
    · subst hk
      simp only [if_true, beq_self_eq_true, List.replicate_succ, List.append_assoc,
        List.singleton_append]
    · have hne : (network_addr w.network ip == k) = false :=
        beq_eq_false_iff_ne.mpr fun h => hk h.symm
      simp [hk, hne]

/-- The address loop of `remove` filters the UID out of every key it visits,
    however often a key is visited. -/
theorem addrSlot_foldl_removeAddr (prev : Workload) (wips : List IpAddr)
    (m : HashMap NetworkAddress WorkloadByAddr) (k : NetworkAddress) :
    addrSlot (wips.foldl (removeAddr prev) m) k =
      if k ∈ wips.map (network_addr prev.network) then
        (addrSlot m k).filter (fun w => w.uid != prev.uid)
      else addrSlot m k := by
  induction wips generalizing m with
  | nil => simp
  | cons wip wips ih =>
    rw [List.foldl_cons, ih, addrSlot_removeAddr]
    by_cases hk : k = network_addr prev.network wip
    · subst hk
      simp
    · simp [hk]

end WorkloadStore

theorem SlotsWF.addAddr {m : HashMap NetworkAddress WorkloadByAddr} (h : SlotsWF m)
    (w : Workload) (ip : IpAddr) : SlotsWF (WorkloadStore.addAddr w m ip) := by
  intro k e hk
  unfold WorkloadStore.addAddr at hk
  rw [lookup_upsert] at hk
  split at hk
  · cases hold : m.lookup (network_addr w.network ip) with
    | none => simp [hold] at hk; subst hk; exact trivial
    | some o =>
      simp only [hold, Option.some.injEq] at hk
      subst hk
      exact (h _ o hold).insert w
  · exact h k e hk

theorem SlotsWF.removeAddr {m : HashMap NetworkAddress WorkloadByAddr} (h : SlotsWF m)
    (prev : Workload) (wip : IpAddr) : SlotsWF (WorkloadStore.removeAddr prev m wip) := by
  intro k e hk
  rcases WorkloadStore.removeAddr_cases prev m wip with ⟨-, heq⟩ | ⟨o, -, -, heq⟩ | ⟨o, o', hl, hr, heq⟩
  · rw [heq] at hk
    exact h k e hk
  · rw [heq, lookup_erase_eq] at hk
    split at hk
    · simp at hk
    · exact h k e hk
  · rw [heq, lookup_insert_eq] at hk
    split at hk
    · simp only [Option.some.injEq] at hk
      subst hk
      have hwf := WorkloadByAddr.WF.remove_uid o prev.uid (h _ o hl) (by rw [hr])
      rwa [hr] at hwf
    · exact h k e hk

theorem SlotsWF.foldl_addAddr {m : HashMap NetworkAddress WorkloadByAddr} (h : SlotsWF m)
    (w : Workload) (ips : List IpAddr) : SlotsWF (ips.foldl (WorkloadStore.addAddr w) m) :=
  List.foldlRecOn (motive := SlotsWF) ips (WorkloadStore.addAddr w) h fun _ hm' ip _ =>
    hm'.addAddr w ip

theorem SlotsWF.foldl_removeAddr {m : HashMap NetworkAddress WorkloadByAddr} (h : SlotsWF m)
    (prev : Workload) (wips : List IpAddr) : SlotsWF (wips.foldl (WorkloadStore.removeAddr prev) m) :=
  List.foldlRecOn (motive := SlotsWF) wips (WorkloadStore.removeAddr prev) h fun _ hm' wip _ =>
    hm'.removeAddr prev wip


-- ============================================================================
-- What remove and insert do to each index
-- ============================================================================

namespace WorkloadStore

/-- How often an address key arises from a workload's IP list. -/
theorem count_map_network_addr (n : String) (ips : List IpAddr) (k : NetworkAddress) :
    (ips.map (network_addr n)).count k = if n = k.network then ips.count k.address else 0 := by
  have hinj : Function.Injective (network_addr n) := by
    intro a b hab
    simpa [network_addr] using hab
  split
  · rename_i hn
    have hk : k = network_addr n k.address := by subst hn; rfl
    rw [hk, List.count_map_of_injective _ _ hinj]
    rfl
  · rename_i hn
    rw [List.count_eq_zero]
    simp only [List.mem_map, not_exists, not_and]
    intro ip _ hip
    subst hip
    exact hn rfl

@[simp] theorem remove_local_node (s : WorkloadStore) (uid : String) :
    (s.remove uid).1.local_node = s.local_node := by
  unfold remove
  split <;> rfl

@[simp] theorem insert_local_node (s : WorkloadStore) (w : Workload) :
    (s.insert w).local_node = s.local_node := by
  simp [insert]

@[simp] theorem isLocal_remove (s : WorkloadStore) (uid node : String) :
    (s.remove uid).1.isLocal node = s.isLocal node := by
  simp [isLocal]

theorem remove_of_lookup_none {s : WorkloadStore} {uid : String}
    (hl : s.by_uid.lookup uid = none) : s.remove uid = (s, none) := by
  simp [remove, hl]

/-- The identity set of the removed workload loses its UID and disappears
    once empty. -/
def dropIdentity (m : HashMap WorkloadIdentity (HashSet String)) (id : WorkloadIdentity)
    (uid : String) : HashMap WorkloadIdentity (HashSet String) :=
  match m.lookup id with
  | none => m
  | some set =>
    let set := set.erase uid
    if set = ∅ then m.erase id else m.insert id set

theorem remove_of_lookup_some {s : WorkloadStore} {uid : String} {prev : Workload}
    (hl : s.by_uid.lookup uid = some prev) :
    s.remove uid =
      ({ s with
          by_uid := s.by_uid.erase uid,
          by_addr :=
            if prev.network_mode != .HostNetwork then
              prev.workload_ips.foldl (removeAddr prev) s.by_addr
            else s.by_addr,
          node_local_by_identity :=
            dropIdentity s.node_local_by_identity (WorkloadIdentity.ofIdentity prev.identity)
              prev.uid }, some prev) := by
  simp only [remove, hl]
  rfl

theorem lookup_dropIdentity (m : HashMap WorkloadIdentity (HashSet String))
    (id id' : WorkloadIdentity) (uid u : String) :
    (∃ set, (dropIdentity m id uid).lookup id' = some set ∧ u ∈ set) ↔
      (∃ set, m.lookup id' = some set ∧ u ∈ set) ∧ ¬ (id' = id ∧ u = uid) := by
  unfold dropIdentity
  cases hl : m.lookup id with
  | none =>
    simp only
    constructor
    · rintro ⟨set, hs, hu⟩
      refine ⟨⟨set, hs, hu⟩, ?_⟩
      rintro ⟨rfl, -⟩
      simp [hl] at hs
    · exact fun h => h.1
  | some set =>
    simp only
    by_cases hid : id' = id
    · subst hid
      split
      · rename_i hempty
        rw [lookup_erase_eq, if_pos rfl]
        constructor
        · rintro ⟨_, h, _⟩
          simp at h
        · rintro ⟨⟨set', hs, hu⟩, hne⟩
          rw [hl, Option.some.injEq] at hs
          subst hs
          have : u ∈ set.erase uid := Finset.mem_erase.mpr ⟨fun h => hne ⟨rfl, h⟩, hu⟩
          simp [hempty] at this
      · simp [hl, Finset.mem_erase, and_comm]
    · split <;> simp [hid]

theorem nonempty_dropIdentity {m : HashMap WorkloadIdentity (HashSet String)}
    (h : ∀ id set, m.lookup id = some set → set.Nonempty) (id : WorkloadIdentity)
    (uid : String) :
    ∀ id' set, (dropIdentity m id uid).lookup id' = some set → set.Nonempty := by
  intro id' set hs
  unfold dropIdentity at hs
  split at hs
  · exact h id' set hs
  · dsimp only at hs
    split at hs
    · rw [lookup_erase_eq] at hs
      split at hs
      · simp at hs
      · exact h id' set hs
    · rename_i hne
      rw [lookup_insert_eq] at hs
      split at hs
      · simp only [Option.some.injEq] at hs
        subst hs
        exact Finset.nonempty_iff_ne_empty.mpr hne
      · exact h id' set hs

end WorkloadStore

-- ============================================================================
-- The index invariant
-- ============================================================================

namespace WorkloadStore

/-- The indices of a store agree with `by_uid`. -/
structure Inv (s : WorkloadStore) : Prop where
  /-- `by_uid` is keyed by each workload's own UID. -/
  uid_key : ∀ u w, s.by_uid.lookup u = some w → w.uid = u
  /-- The slot at `k` holds each stored non-host-network workload of network
      `k.network` once per occurrence of `k.address` among its IPs. -/
  addr_count : ∀ k w, (addrSlot s.by_addr k).count w =
    if s.by_uid.lookup w.uid = some w ∧ w.network_mode ≠ .HostNetwork ∧ w.network = k.network
    then w.workload_ips.count k.address else 0
  slots_wf : SlotsWF s.by_addr
  /-- The node-local index lists exactly the local workloads of each identity. -/
  identity_mem : ∀ id u,
    (∃ set, s.node_local_by_identity.lookup id = some set ∧ u ∈ set) ↔
      ∃ w, s.by_uid.lookup u = some w ∧ WorkloadIdentity.ofIdentity w.identity = id ∧
        s.isLocal w.node = true
  identity_nonempty : ∀ id set, s.node_local_by_identity.lookup id = some set → set.Nonempty

theorem inv_new (local_node : Option String) : Inv (new local_node) where
  uid_key := by simp [new]
  addr_count := by simp [new, addrSlot]
  slots_wf := by simp [new, SlotsWF]
  identity_mem := by simp [new]
  identity_nonempty := by simp [new]

section Remove

variable {s : WorkloadStore} {uid : String} {prev : Workload}

/-- Counting in a slot after a UID was filtered out of it. -/
theorem count_filter_uid (l : List Workload) (uid : String) (w : Workload) :
    (l.filter (fun x => x.uid != uid)).count w = if w.uid = uid then 0 else l.count w := by
  split
  · rename_i hw
    rw [List.count_eq_zero]
    simp [List.mem_filter, hw]
  · rename_i hw
    exact List.count_filter (by simpa using hw)

/-- The slot contents after `remove`: the removed UID is filtered out of
    the slots of the removed workload's addresses. -/
theorem addrSlot_remove (hl : s.by_uid.lookup uid = some prev) (k : NetworkAddress) :
    addrSlot (s.remove uid).1.by_addr k =
      if prev.network_mode ≠ .HostNetwork ∧ k ∈ prev.workload_ips.map (network_addr prev.network)
      then (addrSlot s.by_addr k).filter (fun w => w.uid != prev.uid)
      else addrSlot s.by_addr k := by
  rw [remove_of_lookup_some hl]
  dsimp only
  by_cases hh : prev.network_mode = .HostNetwork
  · rw [if_neg (by simp [hh]), if_neg (by simp [hh])]
  · rw [if_pos (by simpa using hh)]
    simp only [ne_eq, hh, not_false_eq_true, true_and]
    exact addrSlot_foldl_removeAddr prev prev.workload_ips s.by_addr k

/-- After `remove`, no slot holds a workload with the removed UID. -/
theorem count_addrSlot_remove_self (h : Inv s) (hl : s.by_uid.lookup uid = some prev)
    (k : NetworkAddress) (w : Workload) (hw : w.uid = uid) :
    (addrSlot (s.remove uid).1.by_addr k).count w = 0 := by
  have hprev : prev.uid = uid := h.uid_key uid prev hl
  rw [addrSlot_remove hl]
  split
  · rw [count_filter_uid, if_pos (hw.trans hprev.symm)]
  · rename_i hk
    rw [h.addr_count, hw, hl]
    split
    · rename_i hc
      obtain ⟨hwp, hnh, hn⟩ := hc
      cases hwp
      -- the removed workload itself: its keys are exactly the ones visited
      rw [List.count_eq_zero]
      intro hmem
      apply hk
      refine ⟨hnh, List.mem_map.mpr ⟨k.address, hmem, ?_⟩⟩
      rw [hn]
      rfl
    · rfl

theorem Inv.remove (h : Inv s) (uid : String) : Inv (s.remove uid).1 := by
  cases hl : s.by_uid.lookup uid with
  | none => rw [remove_of_lookup_none hl]; exact h
  | some prev =>
    have hprev : prev.uid = uid := h.uid_key uid prev hl
    have huid : (s.remove uid).1.by_uid = s.by_uid.erase uid := by
      rw [remove_of_lookup_some hl]
    refine ⟨?_, ?_, ?_, ?_, ?_⟩
    · -- uid_key
      intro u w hw
      rw [huid, lookup_erase_eq] at hw
      split at hw
      · simp at hw
      · exact h.uid_key u w hw
    · -- addr_count
      intro k w
      by_cases hw : w.uid = uid
      · rw [count_addrSlot_remove_self h hl k w hw, huid, hw]
        simp
      · rw [addrSlot_remove hl, huid, lookup_erase_eq, if_neg hw, ← h.addr_count]
        split
        · rw [count_filter_uid, if_neg (by rwa [hprev])]
        · rfl
    · -- slots_wf
      rw [remove_of_lookup_some hl]
      dsimp only
      split
      · exact h.slots_wf.foldl_removeAddr prev prev.workload_ips
      · exact h.slots_wf
    · -- identity_mem
      intro id u
      simp only [isLocal_remove]
      simp only [remove_of_lookup_some hl, lookup_dropIdentity, h.identity_mem, lookup_erase_eq]
      by_cases hu : u = uid
      · subst hu
        simp only [if_true, reduceCtorEq, false_and, exists_false, iff_false, not_and, hl,
          Option.some.injEq, hprev]
        -- the UID's own entry goes: its identity is the removed workload's
        rintro ⟨w, rfl, hid, -⟩ hne
        exact hne hid.symm trivial
      · simp [hu, hprev]
    · -- identity_nonempty
      rw [remove_of_lookup_some hl]
      exact nonempty_dropIdentity h.identity_nonempty _ _

/-- After `remove`, the UID is gone from `by_uid`. -/
theorem lookup_remove_self (s : WorkloadStore) (uid : String) :
    (s.remove uid).1.by_uid.lookup uid = none := by
  cases hl : s.by_uid.lookup uid with
  | none => rw [remove_of_lookup_none hl]; exact hl
  | some prev => simp [remove_of_lookup_some hl]

/-- `remove` hands back what `by_uid` held. -/
theorem remove_snd (s : WorkloadStore) (uid : String) : (s.remove uid).2 = s.by_uid.lookup uid := by
  cases hl : s.by_uid.lookup uid with
  | none => rw [remove_of_lookup_none hl]
  | some prev => rw [remove_of_lookup_some hl]

theorem by_uid_remove (s : WorkloadStore) (uid k : String) :
    (s.remove uid).1.by_uid.lookup k = if k = uid then none else s.by_uid.lookup k := by
  cases hl : s.by_uid.lookup uid with
  | none =>
    rw [remove_of_lookup_none hl]
    split
    · rename_i hk
      rw [hk, hl]
    · rfl
  | some prev =>
    rw [remove_of_lookup_some hl]
    exact lookup_erase_eq _ _ _

end Remove

section Insert

variable {s : WorkloadStore} {w : Workload}

@[simp] theorem isLocal_insert (s : WorkloadStore) (w : Workload) (node : String) :
    (s.insert w).isLocal node = s.isLocal node := by
  simp [isLocal]

theorem node_local_by_identity_insert (s : WorkloadStore) (w : Workload) :
    (s.insert w).node_local_by_identity =
      if s.isLocal w.node then
        (s.remove w.uid).1.node_local_by_identity.upsert
          (WorkloadIdentity.ofIdentity w.identity) fun set => Insert.insert w.uid (set.getD ∅)
      else (s.remove w.uid).1.node_local_by_identity := by
  simp only [WorkloadStore.insert, isLocal_remove]

/-- The identity set of an inserted local workload gains its UID. -/
theorem lookup_upsert_identity (m : HashMap WorkloadIdentity (HashSet String))
    (id id' : WorkloadIdentity) (uid u : String) :
    (∃ set, (m.upsert id fun set => Insert.insert uid (set.getD ∅)).lookup id' = some set ∧
        u ∈ set) ↔
      (∃ set, m.lookup id' = some set ∧ u ∈ set) ∨ (id' = id ∧ u = uid) := by
  rw [lookup_upsert]
  by_cases hid : id' = id
  · subst hid
    cases hl : m.lookup id' with
    | none => simp
    | some set => simp [Finset.mem_insert, or_comm]
  · simp [hid]

theorem addrSlot_insert (s : WorkloadStore) (w : Workload) (k : NetworkAddress) :
    addrSlot (s.insert w).by_addr k =
      addrSlot (s.remove w.uid).1.by_addr k ++
        if w.network_mode ≠ .HostNetwork then
          List.replicate ((w.workload_ips.map (network_addr w.network)).count k) w
        else [] := by
  simp only [insert]
  by_cases hh : w.network_mode = .HostNetwork
  · rw [if_neg (by simp [hh]), if_neg (by simp [hh]), List.append_nil]
  · rw [if_pos (by simpa using hh), if_pos hh]
    exact addrSlot_foldl_addAddr w w.workload_ips _ k

theorem by_uid_insert (s : WorkloadStore) (w : Workload) (k : String) :
    (s.insert w).by_uid.lookup k = if k = w.uid then some w else s.by_uid.lookup k := by
  have huid : (s.insert w).by_uid = (s.remove w.uid).1.by_uid.insert w.uid w := rfl
  rw [huid, lookup_insert_eq, by_uid_remove]
  by_cases hk : k = w.uid <;> simp [hk]

/-- What `insert` adds to the slot at `k`: the inserted workload, once per
    occurrence of `k` among its keys. -/
theorem count_added (w x : Workload) (k : NetworkAddress) :
    (if w.network_mode ≠ .HostNetwork then
        List.replicate ((w.workload_ips.map (network_addr w.network)).count k) w
      else []).count x =
      if x = w ∧ w.network_mode ≠ .HostNetwork ∧ w.network = k.network then
        w.workload_ips.count k.address
      else 0 := by
  by_cases hx : x = w
  · subst hx
    by_cases hnh : x.network_mode = .HostNetwork
    · simp [hnh]
    · rw [if_pos hnh, List.count_replicate_self, count_map_network_addr]
      by_cases hn : x.network = k.network <;> simp [hn, hnh]
  · split <;> simp [List.count_replicate, Ne.symm hx, hx]

theorem Inv.insert (h : Inv s) (w : Workload) : Inv (s.insert w) := by
  have h1 := h.remove w.uid
  have hnone := lookup_remove_self s w.uid
  have huid : (s.insert w).by_uid = (s.remove w.uid).1.by_uid.insert w.uid w := rfl
  refine ⟨?_, ?_, ?_, ?_, ?_⟩
  · -- uid_key
    intro u x hx
    rw [huid, lookup_insert_eq] at hx
    split at hx
    · rename_i hu
      simp only [Option.some.injEq] at hx
      subst hx
      exact hu.symm
    · exact h1.uid_key u x hx
  · -- addr_count
    intro k x
    rw [addrSlot_insert, List.count_append, h1.addr_count, count_added, huid, lookup_insert_eq]
    by_cases hx : x = w
    · -- the inserted workload: the old slots held none of its UID
      subst hx
      simp [hnone]
    · by_cases hu : x.uid = w.uid
      · -- same UID, other value: no longer stored under it
        rw [hu, hnone]
        simp [Ne.symm hx, hx]
      · simp [hu, hx]
  · -- slots_wf
    simp only [WorkloadStore.insert]
    split
    · exact h1.slots_wf.foldl_addAddr w w.workload_ips
    · exact h1.slots_wf
  · -- identity_mem
    intro id u
    simp only [isLocal_insert, node_local_by_identity_insert, huid, lookup_insert_eq]
    split
    · rename_i hloc
      rw [lookup_upsert_identity, h1.identity_mem]
      by_cases hu : u = w.uid
      · subst hu
        simp only [hnone, if_true]
        simp only [reduceCtorEq, false_and, exists_false, and_true, false_or,
          Option.some.injEq, exists_eq_left', hloc]
        exact eq_comm
      · simp [hu]
    · rename_i hloc
      rw [h1.identity_mem]
      by_cases hu : u = w.uid
      · subst hu
        simp [hnone, hloc]
      · simp [hu]
  · -- identity_nonempty
    intro id set hs
    simp only [WorkloadStore.insert] at hs
    split at hs
    · rw [lookup_upsert] at hs
      split at hs
      · simp only [Option.some.injEq] at hs
        subst hs
        exact Finset.insert_nonempty _ _
      · exact h1.identity_nonempty id set hs
    · exact h1.identity_nonempty id set hs

end Insert

theorem Inv.apply {s : WorkloadStore} (h : Inv s) : ∀ op, Inv (s.apply op)
  | .insert w => h.insert w
  | .remove uid => h.remove uid

/-- The invariant holds along every run from a store satisfying it. -/
theorem Inv.run {s : WorkloadStore} (h : Inv s) (ops : List Op) : Inv (s.run ops) :=
  List.foldlRecOn (motive := Inv) ops WorkloadStore.apply h fun _ hs op _ => hs.apply op

theorem inv_run_new (local_node : Option String) (ops : List Op) :
    Inv ((new local_node).run ops) :=
  (inv_new local_node).run ops

@[simp] theorem local_node_apply (s : WorkloadStore) (op : Op) :
    (s.apply op).local_node = s.local_node := by
  cases op <;> simp [WorkloadStore.apply]

@[simp] theorem local_node_run (s : WorkloadStore) (ops : List Op) :
    (s.run ops).local_node = s.local_node := by
  induction ops generalizing s with
  | nil => rfl
  | cons op ops ih =>
    show ((s.apply op).run ops).local_node = _
    rw [ih, local_node_apply]

theorem isLocal_iff (s : WorkloadStore) (node : String) :
    s.isLocal node = true ↔ s.local_node = none ∨ s.local_node = some node := by
  unfold isLocal
  cases s.local_node with
  | none => simp
  | some n => simp [eq_comm (a := n)]

theorem ofIdentity_eq_iff (w : Workload) (ns sa : String) :
    WorkloadIdentity.ofIdentity w.identity = ⟨ns, sa⟩ ↔
      w.namespace = ns ∧ w.service_account = sa := by
  simp [WorkloadIdentity.ofIdentity, Workload.identity]

/-- Under the invariant, `was_last_identity_on_node` answers whether the node
    is the local one and no local workload of the identity is left. -/
theorem Inv.was_last_identity_on_node_iff {s : WorkloadStore} (h : Inv s) (node : String)
    (id : Identity) :
    s.was_last_identity_on_node node id = true ↔
      s.isLocal node = true ∧
        ¬ ∃ u w, s.by_uid.lookup u = some w ∧ w.namespace = id.namespace ∧
          w.service_account = id.service_account ∧ s.isLocal w.node = true := by
  obtain ⟨td, ns, sa⟩ := id
  have hkey : WorkloadIdentity.ofIdentity (.Spiffe td ns sa) = ⟨ns, sa⟩ := rfl
  unfold was_last_identity_on_node
  rw [hkey]
  split
  · rename_i hloc
    simp only [Bool.not_eq_true', Option.isSome_eq_false_iff, Option.isNone_iff_eq_none,
      hloc, true_and]
    constructor
    · rintro hnone ⟨u, w, hw, hns, hsa, hwl⟩
      obtain ⟨set, hs, -⟩ := (h.identity_mem ⟨ns, sa⟩ u).mpr
        ⟨w, hw, (ofIdentity_eq_iff w ns sa).mpr ⟨hns, hsa⟩, hwl⟩
      simp [hnone] at hs
    · intro hno
      cases hs : s.node_local_by_identity.lookup ⟨ns, sa⟩ with
      | none => rfl
      | some set =>
        -- a nonempty set names a stored local workload of the identity
        obtain ⟨u, hu⟩ := h.identity_nonempty _ set hs
        obtain ⟨w, hw, hid, hwl⟩ := (h.identity_mem ⟨ns, sa⟩ u).mp ⟨set, hs, hu⟩
        obtain ⟨hns, hsa⟩ := (ofIdentity_eq_iff w ns sa).mp hid
        exact absurd ⟨u, w, hw, hns, hsa, hwl⟩ hno
  · rename_i hloc
    simp [hloc]

/-- The store's indices over every run of inserts and removes from
    `WorkloadStore::new`: address slots count stored workloads by IP
    multiplicity, every slot is well formed and `get` never panics on it, the
    node-local identity index is exact with no empty set, and
    `was_last_identity_on_node` holds exactly when the node is local and no
    local workload of the identity's namespace and service account is left. -/
theorem indices_consistent_of_run (local_node : Option String) (ops : List Op) :
    let s := (new local_node).run ops
    (∀ n ip w, (addrSlot s.by_addr (network_addr n ip)).count w =
      if s.by_uid.lookup w.uid = some w ∧ w.network_mode ≠ .HostNetwork ∧ w.network = n
      then w.workload_ips.count ip else 0) ∧
    (∀ k e, s.by_addr.lookup k = some e →
      e.workloads ≠ [] ∧ (∀ ws, e = .Many ws → 2 ≤ ws.length) ∧ e.get.isSome) ∧
    (∀ ns sa uid,
      (∃ set, s.node_local_by_identity.lookup ⟨ns, sa⟩ = some set ∧ uid ∈ set) ↔
        ∃ w, s.by_uid.lookup uid = some w ∧ w.namespace = ns ∧ w.service_account = sa ∧
          (local_node = none ∨ local_node = some w.node)) ∧
    (∀ id set, s.node_local_by_identity.lookup id = some set → set.Nonempty) ∧
    (∀ node id, s.was_last_identity_on_node node id = true ↔
      (local_node = none ∨ local_node = some node) ∧
        ¬ ∃ uid w, s.by_uid.lookup uid = some w ∧ w.namespace = id.namespace ∧
          w.service_account = id.service_account ∧
          (local_node = none ∨ local_node = some w.node)) := by
  intro s
  have h : Inv s := inv_run_new local_node ops
  have hloc : ∀ node, s.isLocal node = true ↔ local_node = none ∨ local_node = some node := by
    intro node
    rw [isLocal_iff, local_node_run]
    rfl
  refine ⟨?_, ?_, ?_, h.identity_nonempty, ?_⟩
  · intro n ip w
    exact h.addr_count (network_addr n ip) w
  · intro k e he
    have hwf := h.slots_wf k e he
    refine ⟨hwf.workloads_ne_nil, ?_, hwf.get_isSome⟩
    rintro ws rfl
    exact hwf
  · intro ns sa uid
    rw [h.identity_mem]
    simp only [ofIdentity_eq_iff, hloc, and_assoc]
  · intro node id
    rw [h.was_last_identity_on_node_iff, hloc]
    simp only [hloc]

/-- A workload on another node than the local one. -/
def remoteWorkload : Workload where
  workload_ips := []
  waypoint := none
  network_gateway := none
  protocol := .TCP
  network_mode := .Standard
  uid := "remote-pod"
  name := "remote-pod"
  «namespace» := "ns"
  trust_domain := "cluster.local"
  service_account := "sa"
  network := ""
  workload_name := ""
  workload_type := "pod"
  canonical_name := ""
  canonical_revision := ""
  hostname := ""
  node := "node-b"
  native_tunnel := false
  application_tunnel := none
  authorization_policies := []
  status := .Healthy
  cluster_id := "Kubernetes"
  locality := ⟨"", "", ""⟩
  services := []
  capacity := 1

/-- On a store whose local node is `node-a`, removing the only workload,
    which ran on `node-b`, leaves no workload at all, yet
    `was_last_identity_on_node` answers `false` for its node and identity:
    the node test comes first. -/
theorem was_last_identity_on_node_remote :
    let s := (new (some "node-a")).run [.insert remoteWorkload, .remove remoteWorkload.uid]
    ¬ (s.was_last_identity_on_node remoteWorkload.node remoteWorkload.identity = true ↔
        ¬ ∃ uid w, s.by_uid.lookup uid = some w ∧
          w.namespace = remoteWorkload.identity.namespace ∧
          w.service_account = remoteWorkload.identity.service_account ∧
          (some "node-a" = none ∨ some "node-a" = some w.node)) := by
  intro s
  have hfalse : s.was_last_identity_on_node remoteWorkload.node remoteWorkload.identity = false := by
    decide
  have hempty : s.by_uid.entries = [] := by decide
  have hnone : ∀ uid, s.by_uid.lookup uid = none := by
    intro uid
    rw [AList.lookup_eq_none, AList.mem_keys, AList.keys, hempty]
    simp
  simp [hfalse, hnone]

end WorkloadStore

end Ztunnel
