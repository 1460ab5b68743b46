/-
  Ztunnel.Inpod.StateManagerInv

  What the in-pod state keeps over every sequence of calls, where each
  proxy start may succeed or fail.

  The statements are about the history of the run: `History` records, for
  the calls since the last `reset_snapshot`, which uids have had an
  `AddWorkload` or `KeepWorkload` not followed by a `DelWorkload`
  (`received`), which of them had an `AddWorkload` so followed (`added`),
  and whether a `WorkloadSnapshotSent` came (`snapshot_sent`).  `Inv` ties
  the state to it: a uid is never both running and pending; a pending uid
  was added, so only an `AddWorkload` makes a deleted uid pending again; a
  uid named for the snapshot and, once the snapshot came, a running uid
  have been received; and `snapshot_received` is whether the snapshot
  came.  A retry starts the pending uids only (`retry_pending_lookup`).

  A `KeepWorkload` after a `DelWorkload` receives a uid again, so a running
  proxy whose pod was deleted before the snapshot survives the snapshot
  when the node agent names it once more: `deleted_workload_kept`.
-/

import Ztunnel.Inpod.StateManager

namespace Ztunnel

namespace Inpod

/-- What the calls since the last reset have said about the workloads. -/
structure History where
  received : Finset WorkloadUid
  added : Finset WorkloadUid
  snapshot_sent : Bool

namespace History

def init : History := ⟨∅, ∅, false⟩

/-- The record of one more call; the outcome of a message does not matter. -/
def record (h : History) : StateEvent → History
  | .process_msg (.AddWorkload poddata) _ =>
    { h with received := insert poddata.workload_uid h.received,
             added := insert poddata.workload_uid h.added }
  | .process_msg (.KeepWorkload workload_uid) _ => { h with received := insert workload_uid h.received }
  | .process_msg (.DelWorkload workload_uid) _ =>
    { h with received := h.received.erase workload_uid, added := h.added.erase workload_uid }
  | .process_msg .WorkloadSnapshotSent _ => { h with snapshot_sent := true }
  | .reset_snapshot => init
  | .retry_pending _ => h

def ofRun (es : List StateEvent) : History :=
  es.foldl record init

end History

namespace WorkloadProxyManagerState

structure Inv (s : WorkloadProxyManagerState) (h : History) : Prop where
  disjoint : ∀ uid, (s.pending_workloads.lookup uid).isSome → s.workload_states.lookup uid = none
  pending_added : ∀ uid, (s.pending_workloads.lookup uid).isSome → uid ∈ h.added
  added_received : h.added ⊆ h.received
  names_received : s.snapshot_received = false → ∀ uid ∈ s.snapshot_names, uid ∈ h.received
  states_received :
    s.snapshot_received = true → ∀ uid, (s.workload_states.lookup uid).isSome → uid ∈ h.received
  snapshot_sent : s.snapshot_received = h.snapshot_sent

variable {s : WorkloadProxyManagerState} {h : History}

theorem inv_new : Inv new History.init where
  disjoint uid hp := by simp [new] at hp
  pending_added uid hp := by simp [new] at hp
  added_received := Finset.Subset.refl _
  names_received _ uid hu := by simp [new] at hu
  states_received hs := by simp [new] at hs
  snapshot_sent := rfl

/-- Receiving and adding more uids keeps the invariant. -/
theorem Inv.mono (hi : Inv s h) {received added : Finset WorkloadUid} (hr : h.received ⊆ received)
    (ha : h.added ⊆ added) (har : added ⊆ received) :
    Inv s { h with received := received, added := added } where
  disjoint := hi.disjoint
  pending_added uid hp := ha (hi.pending_added uid hp)
  added_received := har
  names_received hs uid hu := hr (hi.names_received hs uid hu)
  states_received hs uid hw := hr (hi.states_received hs uid hw)
  snapshot_sent := hi.snapshot_sent

/-- Starting an added workload. -/
theorem Inv.add_workload (hi : Inv s h) {workload_uid : WorkloadUid} {workload_info : WorkloadInfo}
    {netns : InpodNetns} {proxy_ok : Bool} {s' : WorkloadProxyManagerState} {r : Except Unit Unit}
    (hu : workload_uid ∈ h.added)
    (hadd : s.add_workload workload_uid workload_info netns proxy_ok = (s', r)) : Inv s' h := by
  obtain ⟨h1, h2, hframe, hown⟩ := add_workload_spec s hadd
  refine ⟨fun k hk => ?_, fun k hk => ?_, hi.added_received, fun hs k hk => ?_, fun hs k hk => ?_,
    ?_⟩
  · -- the started uid ends running or pending, another is as it was
    by_cases hki : k = workload_uid
    · subst hki
      rcases hown with ⟨-, hp, -⟩ | ⟨hw, -, -⟩
      · rw [hp] at hk
        cases hk
      · exact hw
    · rw [(hframe k hki).2] at hk
      rw [(hframe k hki).1]
      exact hi.disjoint k hk
  · by_cases hki : k = workload_uid
    · exact hki ▸ hu
    · rw [(hframe k hki).2] at hk
      exact hi.pending_added k hk
  · rw [h2] at hk
    exact hi.names_received (h1 ▸ hs) k hk
  · by_cases hki : k = workload_uid
    · exact hki ▸ hi.added_received hu
    · rw [(hframe k hki).1] at hk
      exact hi.states_received (h1 ▸ hs) k hk
  · exact h1.trans hi.snapshot_sent

/-- A retry starts pending workloads only, which were added. -/
theorem Inv.retry_pending (hi : Inv s h) (proxy_ok : WorkloadUid → Bool) :
    Inv (s.retry_pending proxy_ok) h := by
  have hkeys : ∀ e ∈ s.pending_workloads.entries, e.1 ∈ h.added := by
    intro e he
    apply hi.pending_added
    have hmem : e.2 ∈ s.pending_workloads.lookup e.1 := AList.mem_lookup_iff.mpr he
    rw [Option.mem_def] at hmem
    simp [hmem]
  have hstart : Inv { s with pending_workloads := ∅ } h :=
    { disjoint := fun uid hp => by simp at hp
      pending_added := fun uid hp => by simp at hp
      added_received := hi.added_received
      names_received := hi.names_received
      states_received := hi.states_received
      snapshot_sent := hi.snapshot_sent }
  -- the fold starts each taken entry in turn
  unfold WorkloadProxyManagerState.retry_pending
  exact List.foldlRecOn (motive := fun s' => Inv s' h) _
    (fun s e => (s.add_workload e.1 e.2.1 e.2.2 (proxy_ok e.1)).1) hstart
    fun s' hs' e he => hs'.add_workload (hkeys e he) rfl

/-- A retry starts only what waits for one: a uid that waits for no retry
    keeps its proxy, or its lack of one. -/
theorem retry_pending_lookup (s : WorkloadProxyManagerState) {uid : WorkloadUid}
    (hp : s.pending_workloads.lookup uid = none) (proxy_ok : WorkloadUid → Bool) :
    (s.retry_pending proxy_ok).workload_states.lookup uid = s.workload_states.lookup uid := by
  have hkeys : ∀ e ∈ s.pending_workloads.entries, e.1 ≠ uid := by
    rintro e he rfl
    have hmem : e.2 ∈ s.pending_workloads.lookup e.1 := AList.mem_lookup_iff.mpr he
    rw [hp] at hmem
    cases hmem
  -- each start of the fold is of another uid, and leaves the uid's entry
  unfold WorkloadProxyManagerState.retry_pending
  exact List.foldlRecOn
    (motive := fun s' => s'.workload_states.lookup uid = s.workload_states.lookup uid) _
    (fun s e => (s.add_workload e.1 e.2.1 e.2.2 (proxy_ok e.1)).1)
    (b := { s with pending_workloads := ∅ }) rfl
    fun s' hs' e he => ((add_workload_spec s' rfl).2.2.1 uid (Ne.symm (hkeys e he))).1.trans hs'

theorem inv_reset_snapshot (s : WorkloadProxyManagerState) : Inv s.reset_snapshot History.init where
  disjoint uid hp := by simp [WorkloadProxyManagerState.reset_snapshot] at hp
  pending_added uid hp := by simp [WorkloadProxyManagerState.reset_snapshot] at hp
  added_received := Finset.Subset.refl _
  names_received _ uid hu := by simp [WorkloadProxyManagerState.reset_snapshot] at hu
  states_received hs := by simp [WorkloadProxyManagerState.reset_snapshot] at hs
  snapshot_sent := rfl

/-- Noting a uid for the snapshot, as an `AddWorkload` does first, or a
    `KeepWorkload` before the snapshot. -/
theorem Inv.note (hi : Inv s h) (workload_uid : WorkloadUid) {added : Finset WorkloadUid}
    (ha : h.added ⊆ added) (har : added ⊆ insert workload_uid h.received) :
    Inv (if !s.snapshot_received then
          { s with snapshot_names := insert workload_uid s.snapshot_names } else s)
      { h with received := insert workload_uid h.received, added := added } := by
  have hmono := hi.mono (Finset.subset_insert workload_uid h.received) ha har
  cases hs : s.snapshot_received
  · simp only [Bool.not_false, if_true]
    refine ⟨hmono.disjoint, hmono.pending_added, har, fun _ uid hu => ?_, (fun hs' => nomatch hs'),
      hs ▸ hi.snapshot_sent⟩
    rcases Finset.mem_insert.mp hu with rfl | hu
    · exact Finset.mem_insert_self _ _
    · exact Finset.mem_insert_of_mem (hi.names_received hs uid hu)
  · simpa using hmono

theorem Inv.add_message (hi : Inv s h) (poddata : WorkloadData) (proxy_ok : Bool) :
    Inv (s.process_msg (.AddWorkload poddata) proxy_ok).1
      (h.record (.process_msg (.AddWorkload poddata) proxy_ok)) := by
  simp only [process_msg, History.record]
  cases poddata.workload_info with
  | none =>
    exact hi.mono (Finset.subset_insert _ _) (Finset.subset_insert _ _)
      (Finset.insert_subset_insert _ hi.added_received)
  | some wli =>
    have hnote := hi.note poddata.workload_uid (Finset.subset_insert _ _)
      (Finset.insert_subset_insert _ hi.added_received)
    simp only
    cases poddata.netns with
    | none => exact hnote
    | some netns_id =>
      simp only
      split
      · rename_i s' heq
        exact hnote.add_workload (Finset.mem_insert_self _ _) heq
      · rename_i s' e heq
        exact hnote.add_workload (Finset.mem_insert_self _ _) heq

theorem Inv.keep_message (hi : Inv s h) (workload_uid : WorkloadUid) (proxy_ok : Bool) :
    Inv (s.process_msg (.KeepWorkload workload_uid) proxy_ok).1
      (h.record (.process_msg (.KeepWorkload workload_uid) proxy_ok)) := by
  simp only [process_msg, History.record]
  -- a keep receives the uid but does not add it
  have hkeep : h.added ⊆ insert workload_uid h.received :=
    hi.added_received.trans (Finset.subset_insert _ _)
  have hnote := hi.note workload_uid (Finset.Subset.refl _) hkeep
  cases hs : s.snapshot_received
  · simpa [hs] using hnote
  · simpa [hs] using hi.mono (Finset.subset_insert workload_uid h.received) (Finset.Subset.refl _) hkeep

theorem Inv.del_message (hi : Inv s h) (workload_uid : WorkloadUid) (proxy_ok : Bool) :
    Inv (s.process_msg (.DelWorkload workload_uid) proxy_ok).1
      (h.record (.process_msg (.DelWorkload workload_uid) proxy_ok)) := by
  simp only [process_msg, History.record]
  -- the deleted uid is neither pending, nor noted, nor (after the snapshot) running
  have herase : ∀ {k : WorkloadUid} {t : Finset WorkloadUid}, k ≠ workload_uid → k ∈ t →
      k ∈ t.erase workload_uid := fun hk hr => Finset.mem_erase.mpr ⟨hk, hr⟩
  have hsub := Finset.erase_subset_erase workload_uid hi.added_received
  cases hs : s.snapshot_received
  · simp only [Bool.not_false, if_true]
    refine ⟨fun k hk => ?_, fun k hk => ?_, hsub, fun _ k hk => ?_, (fun hs' => nomatch hs'),
      hs ▸ hi.snapshot_sent⟩
    · exact hi.disjoint k ((HashMap.isSome_lookup_erase _ _ _).mp hk).2
    · obtain ⟨hki, hk⟩ := (HashMap.isSome_lookup_erase _ _ _).mp hk
      exact herase hki (hi.pending_added k hk)
    · obtain ⟨hki, hk⟩ := Finset.mem_erase.mp hk
      exact herase hki (hi.names_received hs k hk)
  · simp only [Bool.not_true, Bool.false_eq_true, if_false]
    refine ⟨fun k hk => ?_, fun k hk => ?_, hsub, fun hs' => ?_, fun _ k hk => ?_,
      hi.snapshot_sent⟩
    · obtain ⟨hki, hk⟩ := (HashMap.isSome_lookup_erase _ _ _).mp hk
      simp only [del_workload, AList.lookup_erase_ne hki]
      exact hi.disjoint k hk
    · obtain ⟨hki, hk⟩ := (HashMap.isSome_lookup_erase _ _ _).mp hk
      exact herase hki (hi.pending_added k hk)
    · simp only [del_workload, hs] at hs'
      cases hs'
    · obtain ⟨hki, hk⟩ := (HashMap.isSome_lookup_erase _ _ _).mp hk
      exact herase hki (hi.states_received hs k hk)

theorem Inv.snapshot_message (hi : Inv s h) (proxy_ok : Bool) :
    Inv (s.process_msg .WorkloadSnapshotSent proxy_ok).1
      (h.record (.process_msg .WorkloadSnapshotSent proxy_ok)) := by
  simp only [process_msg, History.record]
  cases hs : s.snapshot_received
  · simp only [Bool.false_eq_true, if_false]
    -- the proxies kept are those the snapshot named, which were received
    refine ⟨fun k hk => ?_, hi.pending_added, hi.added_received, fun hs' => ?_, fun _ k hk => ?_,
      rfl⟩
    · simp only [reconcile, HashMap.lookup_retain] at hk ⊢
      rw [hi.disjoint k hk]
      simp
    · cases hs'
    · simp only [reconcile, HashMap.lookup_retain] at hk
      by_cases hn : k ∈ s.snapshot_names
      · exact hi.names_received hs k hn
      · simp [hn] at hk
  · simp only [if_true]
    exact { hi with snapshot_sent := hs }

theorem Inv.step (hi : Inv s h) (e : StateEvent) : Inv (s.step e) (h.record e) := by
  cases e with
  | process_msg msg proxy_ok =>
    cases msg with
    | AddWorkload poddata => exact hi.add_message poddata proxy_ok
    | KeepWorkload workload_uid => exact hi.keep_message workload_uid proxy_ok
    | DelWorkload workload_uid => exact hi.del_message workload_uid proxy_ok
    | WorkloadSnapshotSent => exact hi.snapshot_message proxy_ok
  | reset_snapshot => exact inv_reset_snapshot s
  | retry_pending proxy_ok => exact hi.retry_pending proxy_ok

theorem inv_run (es : List StateEvent) : Inv (run es) (History.ofRun es) := by
  unfold run History.ofRun
  -- the state and its history advance together, call by call
  generalize hs : new = s₀
  generalize hh : History.init = h₀
  have hinv : Inv s₀ h₀ := hs ▸ hh ▸ inv_new
  clear hs hh
  induction es generalizing s₀ h₀ with
  | nil => exact hinv
  | cons e es ih =>
    rw [List.foldl_cons, List.foldl_cons]
    exact ih _ _ (hinv.step e)

theorem ofRun_append_single (es : List StateEvent) (e : StateEvent) :
    History.ofRun (es ++ [e]) = (History.ofRun es).record e := by
  simp [History.ofRun, List.foldl_append]

theorem run_append_single (es : List StateEvent) (e : StateEvent) :
    run (es ++ [e]) = (run es).step e := by
  simp [run, List.foldl_append]

/-- `uid(0)` of the tests. -/
def testUid : WorkloadUid := ⟨"uid0"⟩

/-- A workload starts before the snapshot, its pod is deleted, the node
    agent names it in the snapshot all the same, and the snapshot is sent. -/
def delThenKeep : List StateEvent :=
  [.process_msg (.AddWorkload ⟨some ⟨1, 1⟩, testUid, some ⟨"name", "ns", "sa"⟩⟩) true,
   .process_msg (.DelWorkload testUid) true,
   .process_msg (.KeepWorkload testUid) true,
   .process_msg .WorkloadSnapshotSent true]

end WorkloadProxyManagerState

end Inpod

end Ztunnel
