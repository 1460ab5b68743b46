/-
  Ztunnel.Inpod.StateManager

  The in-pod workload state of src/inpod/statemanager.rs: which workloads
  have a running proxy (`workload_states`, with the network namespace each
  was started in), which failed to start and wait for a retry
  (`pending_workloads`), and the bookkeeping of the snapshot the node agent
  sends on each new connection (`snapshot_received`, and the uids named
  before it, `snapshot_names`).

  A workload's network namespace is known by the id `fstat` gives for its
  file descriptor; `InpodNetns::new` fails when `fstat` does, which a
  message carries as `netns = none`.  Whether `new_proxies_from_factory`
  starts the proxies is outside the state: it is the `proxy_ok` argument,
  given per message and, for a retry, per uid.  The drains of stopped
  proxies, the metrics and the admin handler receive what the state drops
  and are not modelled.
-/

import Ztunnel.Lib.HashMap

namespace Ztunnel

namespace Inpod

structure WorkloadUid where
  uid : String
  deriving DecidableEq, Repr

structure WorkloadInfo where
  name : String
  «namespace» : String
  service_account : String
  deriving DecidableEq, Repr

/-- `NetnsID`: inode and device of a network namespace. -/
structure NetnsID where
  inode : Nat
  dev : Nat
  deriving DecidableEq, Repr

/-- `InpodNetns`, by the id of the workload's namespace. -/
structure InpodNetns where
  netns_id : NetnsID
  deriving DecidableEq, Repr

def InpodNetns.workload_netns_id (netns : InpodNetns) : NetnsID :=
  netns.netns_id

/-- `WorkloadData` of an `AddWorkload`; `netns` is the namespace id that
    `InpodNetns::new` reads from the message's descriptor, `none` when it
    cannot. -/
structure WorkloadData where
  netns : Option NetnsID
  workload_uid : WorkloadUid
  workload_info : Option WorkloadInfo
  deriving DecidableEq, Repr

inductive WorkloadMessage where
  | AddWorkload (poddata : WorkloadData)
  | KeepWorkload (workload_uid : WorkloadUid)
  | WorkloadSnapshotSent
  | DelWorkload (workload_uid : WorkloadUid)
  deriving DecidableEq, Repr

/-- The errors `process_msg` returns; the proxy error itself is not
    modelled. -/
inductive Error where
  | ProxyError (uid : String)
  | ProtocolError (msg : String)
  deriving DecidableEq, Repr

/-- A running proxy; its drain trigger is not modelled. -/
structure WorkloadState where
  netns_id : NetnsID
  deriving DecidableEq, Repr

structure WorkloadProxyManagerState where
  workload_states : HashMap WorkloadUid WorkloadState
  pending_workloads : HashMap WorkloadUid (WorkloadInfo × InpodNetns)
  snapshot_received : Bool
  snapshot_names : HashSet WorkloadUid

namespace WorkloadProxyManagerState

def new : WorkloadProxyManagerState :=
  { workload_states := ∅, pending_workloads := ∅, snapshot_received := false,
    snapshot_names := ∅ }

variable (s : WorkloadProxyManagerState)

/-- Called on each new connection. -/
def reset_snapshot : WorkloadProxyManagerState :=
  { s with snapshot_names := ∅, pending_workloads := ∅, snapshot_received := false }

/-- Drains the proxies of the workloads the snapshot did not name. -/
def reconcile : WorkloadProxyManagerState :=
  { s with workload_states :=
             HashMap.retain (fun uid => decide (uid ∈ s.snapshot_names)) s.workload_states,
           snapshot_names := ∅ }

def del_workload (workload_uid : WorkloadUid) : WorkloadProxyManagerState :=
  { s with pending_workloads := s.pending_workloads.erase workload_uid,
           workload_states := s.workload_states.erase workload_uid }

/-- The end of `add_workload_inner`: the proxies are created, and on
    success the workload is entered with its namespace. -/
def start_proxy (workload_uid : WorkloadUid) (netns : InpodNetns) (proxy_ok : Bool) :
    WorkloadProxyManagerState × Except Unit Unit :=
  if proxy_ok then
    ({ s with workload_states :=
        s.workload_states.insert workload_uid ⟨netns.workload_netns_id⟩ }, .ok ())
  else (s, .error ())

def add_workload_inner (workload_uid : WorkloadUid) (netns : InpodNetns) (proxy_ok : Bool) :
    WorkloadProxyManagerState × Except Unit Unit :=
  match s.workload_states.lookup workload_uid with
  | some existing =>
    -- a new namespace: drain the old proxy and start another
    if existing.netns_id ≠ netns.workload_netns_id then
      (s.del_workload workload_uid).start_proxy workload_uid netns proxy_ok
    else (s, .ok ())
  | none => s.start_proxy workload_uid netns proxy_ok

def add_workload (workload_uid : WorkloadUid) (workload_info : WorkloadInfo) (netns : InpodNetns)
    (proxy_ok : Bool) : WorkloadProxyManagerState × Except Unit Unit :=
  match s.add_workload_inner workload_uid netns proxy_ok with
  | (s, .ok ()) => ({ s with pending_workloads := s.pending_workloads.erase workload_uid }, .ok ())
  | (s, .error e) =>
    ({ s with pending_workloads := s.pending_workloads.insert workload_uid (workload_info, netns) },
      .error e)

def process_msg (msg : WorkloadMessage) (proxy_ok : Bool) :
    WorkloadProxyManagerState × Except Error Unit :=
  match msg with
  | .AddWorkload poddata =>
    match poddata.workload_info with
    | none => (s, .error (.ProtocolError "workload_info is required but not present"))
    | some wli =>
      let s := if !s.snapshot_received then
          { s with snapshot_names := insert poddata.workload_uid s.snapshot_names }
        else s
      match poddata.netns with
      | none => (s, .error (.ProxyError poddata.workload_uid.uid))
      | some netns_id =>
        match s.add_workload poddata.workload_uid wli ⟨netns_id⟩ proxy_ok with
        | (s, .ok ()) => (s, .ok ())
        | (s, .error _) => (s, .error (.ProxyError poddata.workload_uid.uid))
  | .KeepWorkload workload_uid =>
    if s.snapshot_received then (s, .error (.ProtocolError "pod keep received after snapshot"))
    else ({ s with snapshot_names := insert workload_uid s.snapshot_names }, .ok ())
  | .DelWorkload workload_uid =>
    -- before the snapshot the delete is left to `reconcile`
    if !s.snapshot_received then
      ({ s with snapshot_names := s.snapshot_names.erase workload_uid,
                pending_workloads := s.pending_workloads.erase workload_uid }, .ok ())
    else (s.del_workload workload_uid, .ok ())
  | .WorkloadSnapshotSent =>
    if s.snapshot_received then (s, .error (.ProtocolError "pod snapshot received already"))
    else ({ s.reconcile with snapshot_received := true }, .ok ())

def have_pending : Bool :=
  !s.pending_workloads.entries.isEmpty

def ready : Bool :=
  s.snapshot_received && !s.have_pending

/-- Every pending workload is taken out and started again; `proxy_ok`
    says which starts succeed. -/
def retry_pending (proxy_ok : WorkloadUid → Bool) : WorkloadProxyManagerState :=
  s.pending_workloads.entries.foldl
    (fun s e => (s.add_workload e.1 e.2.1 e.2.2 (proxy_ok e.1)).1)
    { s with pending_workloads := ∅ }

end WorkloadProxyManagerState

/-- The calls the workload manager makes on the state: a message with the
    outcome of the proxy start it may make, a new connection, and a retry
    with the outcome of each start. -/
inductive StateEvent where
  | process_msg (msg : WorkloadMessage) (proxy_ok : Bool)
  | reset_snapshot
  | retry_pending (proxy_ok : WorkloadUid → Bool)

namespace WorkloadProxyManagerState

/-- One call; the result of `process_msg` goes back to the node agent and
    leaves the state as it is. -/
def step (s : WorkloadProxyManagerState) : StateEvent → WorkloadProxyManagerState
  | .process_msg msg proxy_ok => (s.process_msg msg proxy_ok).1
  | .reset_snapshot => s.reset_snapshot
  | .retry_pending proxy_ok => s.retry_pending proxy_ok

def run (es : List StateEvent) : WorkloadProxyManagerState :=
  es.foldl step new

-- ============================================================================
-- Starting a workload
-- ============================================================================

variable (s : WorkloadProxyManagerState) {workload_uid : WorkloadUid} {netns : InpodNetns}
  {proxy_ok : Bool} {s' : WorkloadProxyManagerState} {r : Except Unit Unit}

theorem start_proxy_spec (h : s.start_proxy workload_uid netns proxy_ok = (s', r)) :
    s'.snapshot_received = s.snapshot_received ∧ s'.snapshot_names = s.snapshot_names ∧
      s'.pending_workloads = s.pending_workloads ∧
      (∀ k, k ≠ workload_uid → s'.workload_states.lookup k = s.workload_states.lookup k) ∧
      (r = .ok () ∧ (s'.workload_states.lookup workload_uid).isSome ∨
        r = .error () ∧ s'.workload_states.lookup workload_uid = s.workload_states.lookup workload_uid) := by
  unfold start_proxy at h
  split at h
  · cases h
    exact ⟨rfl, rfl, rfl, fun k hk => AList.lookup_insert_ne hk, .inl ⟨rfl, by simp⟩⟩
  · cases h
    exact ⟨rfl, rfl, rfl, fun _ _ => rfl, .inr ⟨rfl, rfl⟩⟩

/-- `add_workload_inner` touches only its uid, which has a proxy exactly
    when the start succeeded. -/
theorem add_workload_inner_spec (h : s.add_workload_inner workload_uid netns proxy_ok = (s', r)) :
    s'.snapshot_received = s.snapshot_received ∧ s'.snapshot_names = s.snapshot_names ∧
      (∀ k, k ≠ workload_uid → s'.workload_states.lookup k = s.workload_states.lookup k ∧
        s'.pending_workloads.lookup k = s.pending_workloads.lookup k) ∧
      (r = .ok () ∧ (s'.workload_states.lookup workload_uid).isSome ∨
        r = .error () ∧ s'.workload_states.lookup workload_uid = none) := by
  unfold add_workload_inner at h
  cases hw : s.workload_states.lookup workload_uid with
  | none =>
    simp only [hw] at h
    obtain ⟨h1, h2, h3, h4, h5⟩ := start_proxy_spec s h
    refine ⟨h1, h2, fun k hk => ⟨h4 k hk, by rw [h3]⟩, ?_⟩
    rcases h5 with h5 | ⟨hr, hl⟩
    · exact .inl h5
    · exact .inr ⟨hr, hl.trans hw⟩
  | some existing =>
    simp only [hw] at h
    split at h
    · -- the old proxy is dropped before the new one starts
      obtain ⟨h1, h2, h3, h4, h5⟩ := start_proxy_spec _ h
      refine ⟨h1, h2, fun k hk => ⟨?_, ?_⟩, ?_⟩
      · rw [h4 k hk]
        exact AList.lookup_erase_ne hk
      · rw [h3]
        exact AList.lookup_erase_ne hk
      · rcases h5 with h5 | ⟨hr, hl⟩
        · exact .inl h5
        · exact .inr ⟨hr, by rw [hl]; exact AList.lookup_erase _ _⟩
    · cases h
      exact ⟨rfl, rfl, fun _ _ => ⟨rfl, rfl⟩, .inl ⟨rfl, by simp [hw]⟩⟩

/-- Everything `add_workload` does: only its uid changes, and it ends with
    a running proxy and no retry, or with a retry and no proxy. -/
theorem add_workload_spec {workload_info : WorkloadInfo}
    (h : s.add_workload workload_uid workload_info netns proxy_ok = (s', r)) :
    s'.snapshot_received = s.snapshot_received ∧ s'.snapshot_names = s.snapshot_names ∧
      (∀ k, k ≠ workload_uid → s'.workload_states.lookup k = s.workload_states.lookup k ∧
        s'.pending_workloads.lookup k = s.pending_workloads.lookup k) ∧
      ((s'.workload_states.lookup workload_uid).isSome ∧
          s'.pending_workloads.lookup workload_uid = none ∧ r = .ok () ∨
        s'.workload_states.lookup workload_uid = none ∧
          s'.pending_workloads.lookup workload_uid = some (workload_info, netns) ∧ r = .error ()) := by
  unfold add_workload at h
  cases hi : s.add_workload_inner workload_uid netns proxy_ok with
  | mk s₁ r₁ =>
    obtain ⟨h1, h2, h3, h4⟩ := add_workload_inner_spec s hi
    rw [hi] at h
    rcases h4 with ⟨rfl, hsome⟩ | ⟨rfl, hnone⟩
    · cases h
      refine ⟨h1, h2, fun k hk => ⟨(h3 k hk).1, ?_⟩, .inl ⟨hsome, by simp, rfl⟩⟩
      rw [AList.lookup_erase_ne hk]
      exact (h3 k hk).2
    · cases h
      refine ⟨h1, h2, fun k hk => ⟨(h3 k hk).1, ?_⟩, .inr ⟨hnone, by simp, rfl⟩⟩
      rw [AList.lookup_insert_ne hk]
      exact (h3 k hk).2

end WorkloadProxyManagerState

end Inpod

end Ztunnel
