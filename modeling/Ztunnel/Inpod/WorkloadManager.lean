/-
  Ztunnel.Inpod.WorkloadManager

  The loop of src/inpod/workloadmanager.rs that keeps the in-pod state
  connected to the node agent.  `run_internal` connects, unless a drain
  is signaled; each new stream resets the snapshot bookkeeping
  (`WorkloadProxyManagerProcessor::new`) and announces itself
  (`send_hello`).  `process` then answers every message: `process_msg`,
  a readiness check and an ack on success; a retry timer and a nack when a
  proxy fails to start; a nack and the end of the loop on a protocol error.
  While a retry is scheduled, the timer firing before the next message
  retries the pending workloads (`read_message_and_retry_proxies`).  Any
  other end of the stream marks the manager not ready and connects again;
  a failed announcement backs off first.

  Readiness is the `BlockReady` the manager holds or not
  (`WorkloadProxyReadinessHandler`); the backoff intervals, the sleep
  durations and the texts of the errors after a nack's prefix are left
  out.  What a read returns and whether each send succeeds are the
  events' arguments.

  Over every run: the manager releases readiness only while it processes
  a stream whose snapshot it has received; every pending workload has a
  retry scheduled; and a protocol error answered by a nack stops the
  manager for good.
-/

import Ztunnel.Inpod.StateManager
import Ztunnel.Lib.Machine

namespace Ztunnel

namespace Inpod

/-- What the manager sends to the node agent. -/
inductive Reply where
  /-- `ZdsHello` -/
  | hello
  | ack
  /-- an `Ack` with an error, by the text before its detail -/
  | nack (error : String)
  deriving DecidableEq, Repr

/-- Where `run_internal` is. -/
inductive Phase where
  /-- waiting for a stream, or for the drain -/
  | connecting
  /-- a stream accepted, the hello not yet sent -/
  | announcing
  /-- in `process`, reading messages -/
  | processing
  /-- sleeping after a failed announcement -/
  | backingOff
  /-- `run_internal` returned after a drain, and the proxies were drained -/
  | drained
  /-- `run_internal` returned a protocol error -/
  | failed
  deriving DecidableEq, Repr

structure WorkloadProxyManager where
  state : WorkloadProxyManagerState
  phase : Phase
  /-- `readiness.block_ready` is held: the server is not ready -/
  block_ready : Bool
  /-- the processor's `next_pending_retry` is set -/
  next_pending_retry : Bool
  drain_signaled : Bool
  /-- what was sent on the current stream, in order -/
  sent : List Reply

inductive Event where
  | signal_drain
  /-- `networking.connect()` returns a stream -/
  | connect
  /-- the drain wins the select of the loop -/
  | stop
  /-- `send_hello` returns, or fails -/
  | hello (ok : Bool)
  /-- the sleep after a failed announcement ends -/
  | wake
  /-- `read_message` returns a message; whether the proxy starts it asks for
      succeed, and whether the reply is sent -/
  | message (msg : WorkloadMessage) (proxy_ok : Bool) (send_ok : Bool)
  /-- `read_message` fails; whether the nack is sent -/
  | read_error (send_ok : Bool)
  /-- `read_message` returns `None`: the stream ended, or the drain -/
  | eof
  /-- the retry timer fires before a message; which starts succeed -/
  | retry (proxy_ok : WorkloadUid → Bool)

namespace WorkloadProxyManager

variable (m : WorkloadProxyManager)

/-- `WorkloadProxyManager::new`: readiness is blocked from the start. -/
def new : WorkloadProxyManager :=
  ⟨WorkloadProxyManagerState.new, .connecting, true, false, false, []⟩

def mark_ready : WorkloadProxyManager := { m with block_ready := false }

def not_ready : WorkloadProxyManager := { m with block_ready := true }

def check_ready : WorkloadProxyManager :=
  if m.state.ready then m.mark_ready else m.not_ready

/-- A readiness check changes readiness only. -/
theorem check_ready_eq : ∃ b, m.check_ready = { m with block_ready := b } := by
  unfold check_ready
  split
  · exact ⟨false, rfl⟩
  · exact ⟨true, rfl⟩

theorem check_ready_phase : m.check_ready.phase = m.phase := by
  obtain ⟨b, hb⟩ := m.check_ready_eq
  rw [hb]

def schedule_retry : WorkloadProxyManager := { m with next_pending_retry := true }

def send (r : Reply) : WorkloadProxyManager := { m with sent := m.sent ++ [r] }

/-- `process` returned, other than with a protocol error: the loop marks
    the manager not ready and connects again. -/
def stream_ended : WorkloadProxyManager := { m.not_ready with phase := .connecting }

/-- `WorkloadProxyManagerProcessor::new` on a new stream. -/
def new_processor : WorkloadProxyManager :=
  { m with state := m.state.reset_snapshot, phase := .announcing, next_pending_retry := false,
           sent := [] }

/-- `send_hello`: a failure is an `AnnounceError`, after which the loop
    backs off. -/
def announce (ok : Bool) : WorkloadProxyManager :=
  if ok then { m.send .hello with phase := .processing }
  else { m.not_ready with phase := .backingOff }

/-- A reply of `process`; a failed send ends the stream. -/
def reply (r : Reply) (send_ok : Bool) : WorkloadProxyManager :=
  if send_ok then m.send r else m.stream_ended

/-- One turn of `process` on a message. -/
def handle_message (msg : WorkloadMessage) (proxy_ok send_ok : Bool) : WorkloadProxyManager :=
  match m.state.process_msg msg proxy_ok with
  | (s, .ok ()) => ({ m with state := s }.check_ready).reply .ack send_ok
  | (s, .error (.ProxyError _)) =>
    -- a transient error: retry later, and stay connected
    ({ m with state := s }.schedule_retry).reply (.nack "failure to start proxy") send_ok
  | (s, .error (.ProtocolError _)) =>
    -- `process` returns the error, and `run_internal` gives up, unless the
    -- nack itself fails, which is a `SendNackError` and reconnects
    if send_ok then { ({ m with state := s }.send (.nack "failure to process message")).not_ready with
      phase := .failed }
    else { m with state := s }.stream_ended

/-- A read failed: a nack, then the stream ends either way. -/
def handle_read_error (send_ok : Bool) : WorkloadProxyManager :=
  if send_ok then (m.send (.nack "failure to read message")).stream_ended else m.stream_ended

/-- `retry_proxies`, after the timer was taken and fired. -/
def retry_proxies (proxy_ok : WorkloadUid → Bool) : WorkloadProxyManager :=
  let m := { m with state := m.state.retry_pending proxy_ok, next_pending_retry := false }
  if m.state.have_pending then m.schedule_retry else m.check_ready

def Enabled : Event → Prop
  | .signal_drain => m.drain_signaled = false
  | .connect => m.phase = .connecting ∧ m.drain_signaled = false
  | .stop => m.phase = .connecting ∧ m.drain_signaled = true
  | .hello _ => m.phase = .announcing
  | .wake => m.phase = .backingOff
  -- `read_message` checks the drain first
  | .message _ _ _ | .read_error _ => m.phase = .processing ∧ m.drain_signaled = false
  | .eof => m.phase = .processing
  | .retry _ => m.phase = .processing ∧ m.next_pending_retry = true

def step : Event → WorkloadProxyManager
  | .signal_drain => { m with drain_signaled := true }
  | .connect => m.new_processor
  | .stop => { m with phase := .drained }
  | .hello ok => m.announce ok
  | .wake => { m with phase := .connecting }
  | .message msg proxy_ok send_ok => m.handle_message msg proxy_ok send_ok
  | .read_error send_ok => m.handle_read_error send_ok
  | .eof => m.stream_ended
  | .retry proxy_ok => m.retry_proxies proxy_ok

end WorkloadProxyManager

/-- The manager with the node agent and the drain as its environment. -/
def managerMachine : Machine WorkloadProxyManager Event where
  init := WorkloadProxyManager.new
  Enabled := WorkloadProxyManager.Enabled
  step m e := .ok (m.step e)

-- ============================================================================
-- What the state calls keep
-- ============================================================================

namespace WorkloadProxyManagerState

variable {s s' : WorkloadProxyManagerState}

theorem have_pending_iff :
    s.have_pending = true ↔ ∃ k, (s.pending_workloads.lookup k).isSome := by
  unfold have_pending
  constructor
  · intro h
    cases he : s.pending_workloads.entries with
    | nil => simp [he] at h
    | cons e rest =>
      -- the first entry's key is looked up
      refine ⟨e.1, ?_⟩
      have hmem : e.2 ∈ s.pending_workloads.lookup e.1 :=
        AList.mem_lookup_iff.mpr (by rw [he]; exact List.mem_cons_self)
      rw [Option.mem_def] at hmem
      simp [hmem]
  · rintro ⟨k, hk⟩
    cases he : s.pending_workloads.entries.isEmpty
    · rfl
    · rw [HashMap.lookup_of_entries_isEmpty he] at hk
      cases hk

/-- The name a message of the snapshot notes before the workload starts. -/
theorem noted_pending (c : Bool) (uid : WorkloadUid) :
    (if c = true then { s with snapshot_names := insert uid s.snapshot_names } else s).pending_workloads =
      s.pending_workloads := by
  split <;> rfl

theorem noted_snapshot_received (c : Bool) (uid : WorkloadUid) :
    (if c = true then { s with snapshot_names := insert uid s.snapshot_names } else s).snapshot_received =
      s.snapshot_received := by
  split <;> rfl

/-- A message processed without error leaves no workload pending that was
    not pending before. -/
theorem process_msg_ok_pending {msg : WorkloadMessage} {proxy_ok : Bool}
    (h : s.process_msg msg proxy_ok = (s', .ok ())) {k : WorkloadUid}
    (hk : (s'.pending_workloads.lookup k).isSome) : (s.pending_workloads.lookup k).isSome := by
  cases msg with
  | AddWorkload poddata =>
    simp only [process_msg] at h
    split at h
    · cases h
    · split at h
      · cases h
      · split at h
        · next s₂ hadd =>
          cases h
          obtain ⟨-, -, hframe, hown⟩ := add_workload_spec _ hadd
          -- the started workload is no longer pending; the others are as they were
          by_cases hki : k = poddata.workload_uid
          · subst hki
            rcases hown with ⟨-, hp, -⟩ | ⟨-, -, hr⟩
            · rw [hp] at hk
              cases hk
            · cases hr
          · rw [(hframe k hki).2, noted_pending] at hk
            exact hk
        · cases h
  | KeepWorkload workload_uid =>
    simp only [process_msg] at h
    split at h <;> cases h
    exact hk
  | DelWorkload workload_uid =>
    simp only [process_msg] at h
    split at h <;> cases h
    · exact (HashMap.isSome_lookup_erase _ _ _).mp hk |>.2
    · exact (HashMap.isSome_lookup_erase _ _ _).mp hk |>.2
  | WorkloadSnapshotSent =>
    simp only [process_msg] at h
    split at h <;> cases h
    exact hk

theorem process_msg_ok_have_pending {msg : WorkloadMessage} {proxy_ok : Bool}
    (h : s.process_msg msg proxy_ok = (s', .ok ())) (hp : s'.have_pending = true) :
    s.have_pending = true := by
  obtain ⟨k, hk⟩ := have_pending_iff.mp hp
  exact have_pending_iff.mpr ⟨k, process_msg_ok_pending h hk⟩

/-- Once received, a snapshot stays received whatever message comes. -/
theorem process_msg_snapshot_received (msg : WorkloadMessage) (proxy_ok : Bool)
    (hs : s.snapshot_received = true) : (s.process_msg msg proxy_ok).1.snapshot_received = true := by
  cases msg with
  | AddWorkload poddata =>
    simp only [process_msg]
    split
    · exact hs
    · split
      · rw [noted_snapshot_received]
        exact hs
      · split
        · next s₂ hadd =>
          rw [(add_workload_spec _ hadd).1, noted_snapshot_received]
          exact hs
        · next s₂ _ hadd =>
          rw [(add_workload_spec _ hadd).1, noted_snapshot_received]
          exact hs
  | KeepWorkload workload_uid =>
    simp only [process_msg, hs, if_true]
  | DelWorkload workload_uid =>
    simp only [process_msg, hs]
    exact hs
  | WorkloadSnapshotSent =>
    simp only [process_msg, hs, if_true]

theorem retry_pending_snapshot_received (proxy_ok : WorkloadUid → Bool) :
    (s.retry_pending proxy_ok).snapshot_received = s.snapshot_received := by
  unfold retry_pending
  -- each start of the fold keeps the flag
  generalize s.pending_workloads.entries = l
  have hfold : ∀ (l : List (Σ _ : WorkloadUid, WorkloadInfo × InpodNetns)) (s₀ : WorkloadProxyManagerState),
      (l.foldl (fun (s : WorkloadProxyManagerState) e => (s.add_workload e.1 e.2.1 e.2.2 (proxy_ok e.1)).1)
        s₀).snapshot_received = s₀.snapshot_received := by
    intro l
    induction l with
    | nil => intro _; rfl
    | cons e l ih =>
      intro s₀
      rw [List.foldl_cons, ih]
      exact (add_workload_spec s₀ rfl).1
  exact hfold l _

end WorkloadProxyManagerState

-- ============================================================================
-- The invariant of the manager
-- ============================================================================

namespace WorkloadProxyManager

open WorkloadProxyManagerState

structure Inv (m : WorkloadProxyManager) : Prop where
  /-- readiness is released only while processing a stream whose snapshot
      was received -/
  ready_snapshot : m.block_ready = false → m.phase = .processing ∧ m.state.snapshot_received = true
  pending_scheduled : m.phase = .processing → m.state.have_pending = true → m.next_pending_retry = true
  /-- a new stream starts with nothing pending -/
  announcing_clear : m.phase = .announcing → m.state.have_pending = false
  /-- the manager gave up right after the nack of a protocol error -/
  failed_nack : m.phase = .failed → m.sent.getLast? = some (.nack "failure to process message")

variable {m : WorkloadProxyManager}

theorem inv_new : Inv new where
  ready_snapshot h := by cases h
  pending_scheduled h := by cases h
  announcing_clear h := by cases h
  failed_nack h := by cases h

/-- The invariant of a manager that is not ready and not processing a
    stream. -/
theorem inv_blocked (hb : m.block_ready = true) (hp : m.phase ≠ .processing)
    (hann : m.phase = .announcing → m.state.have_pending = false) (hfail : m.phase ≠ .failed) :
    Inv m where
  ready_snapshot h := by
    rw [hb] at h
    cases h
  pending_scheduled h := absurd h hp
  announcing_clear := hann
  failed_nack h := absurd h hfail

/-- Leaving the stream, not ready, whatever came before. -/
theorem inv_stream_ended (m : WorkloadProxyManager) : Inv m.stream_ended :=
  inv_blocked rfl nofun nofun nofun

/-- The invariant of a manager processing a stream. -/
theorem inv_processing (hp : m.phase = .processing)
    (hready : m.block_ready = false → m.state.snapshot_received = true)
    (hpending : m.state.have_pending = true → m.next_pending_retry = true) : Inv m where
  ready_snapshot hb := ⟨hp, hready hb⟩
  pending_scheduled _ := hpending
  announcing_clear h := by
    rw [hp] at h
    cases h
  failed_nack h := by
    rw [hp] at h
    cases h

/-- `ready` needs the snapshot. -/
theorem snapshot_received_of_ready {s : WorkloadProxyManagerState} (h : s.ready = true) :
    s.snapshot_received = true := by
  simp only [WorkloadProxyManagerState.ready, Bool.and_eq_true] at h
  exact h.1

/-- A readiness check while processing: ready only with the snapshot. -/
theorem inv_check_ready (hp : m.phase = .processing)
    (hpending : m.state.have_pending = true → m.next_pending_retry = true) : Inv m.check_ready := by
  unfold WorkloadProxyManager.check_ready
  split
  · next hready => exact inv_processing hp (fun _ => snapshot_received_of_ready hready) hpending
  · exact inv_processing hp (fun h => by cases h) hpending

namespace Inv

theorem reply (hi : Inv m) (hp : m.phase = .processing) (r : Reply) (send_ok : Bool) :
    Inv (m.reply r send_ok) := by
  unfold WorkloadProxyManager.reply
  split
  · exact inv_processing hp (fun hb => (hi.ready_snapshot hb).2) (hi.pending_scheduled hp)
  · exact inv_stream_ended m

/-- A message processed without error: readiness follows the state, and
    nothing new is pending. -/
theorem handle_ok (hi : Inv m) (hp : m.phase = .processing) {s : WorkloadProxyManagerState}
    {msg : WorkloadMessage} {proxy_ok : Bool} (h : m.state.process_msg msg proxy_ok = (s, .ok ())) :
    Inv { m with state := s }.check_ready :=
  inv_check_ready hp fun hs => hi.pending_scheduled hp (process_msg_ok_have_pending h hs)

/-- A proxy failed to start: a retry is scheduled, and readiness stays as
    it was, the snapshot still received. -/
theorem handle_proxy_error (hi : Inv m) (hp : m.phase = .processing) {s : WorkloadProxyManagerState}
    {msg : WorkloadMessage} {proxy_ok : Bool} {e : String}
    (h : m.state.process_msg msg proxy_ok = (s, .error (.ProxyError e))) :
    Inv { m with state := s }.schedule_retry := by
  refine inv_processing hp (fun hb => ?_) (fun _ => rfl)
  have hs := process_msg_snapshot_received msg proxy_ok (hi.ready_snapshot hb).2
  rw [h] at hs
  exact hs

theorem handle_message (hi : Inv m) (hp : m.phase = .processing) (msg : WorkloadMessage)
    (proxy_ok send_ok : Bool) : Inv (m.handle_message msg proxy_ok send_ok) := by
  unfold WorkloadProxyManager.handle_message
  split
  · next s h =>
    exact (hi.handle_ok hp h).reply ((check_ready_phase _).trans hp) .ack send_ok
  · next s e h => exact (hi.handle_proxy_error hp h).reply hp _ send_ok
  · next s e h =>
    split
    · -- the manager gives up, not ready, its last word the nack
      refine ⟨nofun, nofun, nofun, fun _ => ?_⟩
      simp [WorkloadProxyManager.not_ready, WorkloadProxyManager.send]
    · exact inv_stream_ended _

/-- The timer fired: what is still pending is scheduled again, and
    readiness is checked only when nothing is. -/
theorem retry_proxies (hi : Inv m) (hp : m.phase = .processing) (proxy_ok : WorkloadUid → Bool) :
    Inv (m.retry_proxies proxy_ok) := by
  unfold WorkloadProxyManager.retry_proxies
  dsimp only
  split
  · refine inv_processing hp (fun hb => ?_) (fun _ => rfl)
    -- the retries keep the snapshot
    show (m.state.retry_pending proxy_ok).snapshot_received = true
    rw [retry_pending_snapshot_received]
    exact (hi.ready_snapshot hb).2
  · next hnone => exact inv_check_ready hp fun h' => absurd h' hnone

/-- Out of `process` the manager is not ready. -/
theorem block_ready_of_not_processing (hi : Inv m) (hp : m.phase ≠ .processing) :
    m.block_ready = true := by
  cases hb : m.block_ready
  · exact absurd (hi.ready_snapshot hb).1 hp
  · rfl

theorem step (hi : Inv m) {e : Event} (he : m.Enabled e) : Inv (m.step e) := by
  cases e with
  | signal_drain => exact ⟨hi.ready_snapshot, hi.pending_scheduled, hi.announcing_clear, hi.failed_nack⟩
  | connect =>
    -- a new stream, with nothing pending, not ready
    have hb := hi.block_ready_of_not_processing (by rw [he.1]; nofun)
    exact inv_blocked hb nofun (fun _ => rfl) nofun
  | stop =>
    have hb := hi.block_ready_of_not_processing (by rw [he.1]; nofun)
    exact inv_blocked hb nofun nofun nofun
  | hello ok =>
    show Inv (m.announce ok)
    unfold WorkloadProxyManager.announce
    split
    · -- the hello of a new stream, on which nothing is pending yet
      have hb := hi.block_ready_of_not_processing (by rw [he]; nofun)
      refine inv_processing rfl (fun h' => ?_) (fun h' => ?_)
      · simp [WorkloadProxyManager.send, hb] at h'
      · simp [WorkloadProxyManager.send, hi.announcing_clear he] at h'
    · exact inv_blocked rfl nofun nofun nofun
  | wake =>
    have hb := hi.block_ready_of_not_processing (by rw [he]; nofun)
    exact inv_blocked hb nofun nofun nofun
  | message msg proxy_ok send_ok => exact hi.handle_message he.1 msg proxy_ok send_ok
  | read_error send_ok =>
    show Inv (m.handle_read_error send_ok)
    unfold WorkloadProxyManager.handle_read_error
    split
    · exact inv_stream_ended _
    · exact inv_stream_ended _
  | eof => exact inv_stream_ended m
  | retry proxy_ok => exact hi.retry_proxies he.1 proxy_ok

end Inv

theorem inv_reachable {m : WorkloadProxyManager} (hm : managerMachine.Reachable m) : Inv m :=
  Machine.Reachable.inv Inv inv_new (fun _ _ _ hi he hok => by cases hok; exact hi.step he) hm

-- ============================================================================
-- What the manager guarantees
-- ============================================================================

/-- A stream on which the node agent sends its snapshot, with nothing to
    start. -/
def snapshotRun : WorkloadProxyManager :=
  (new.new_processor.announce true).handle_message .WorkloadSnapshotSent true true

theorem snapshotRun_reachable : managerMachine.Reachable snapshotRun :=
  .step (.message .WorkloadSnapshotSent true true)
    (.step (.hello true) (.step .connect .init ⟨rfl, rfl⟩ rfl) rfl rfl)
    ⟨rfl, rfl⟩ rfl

/-- The manager releases the server's readiness only while it processes a
    stream to the node agent on which it received the snapshot: never
    before the first snapshot, and never between a disconnection and the
    next stream's snapshot. -/
theorem ready_only_after_snapshot (hm : managerMachine.Reachable m) (hready : m.block_ready = false) :
    m.phase = .processing ∧ m.state.snapshot_received = true :=
  (inv_reachable hm).ready_snapshot hready

theorem ready_only_after_snapshot_snapshotRun :
    snapshotRun.block_ready = false ∧
      snapshotRun.phase = .processing ∧ snapshotRun.state.snapshot_received = true :=
  ⟨rfl, ready_only_after_snapshot snapshotRun_reachable rfl⟩

def podUid : WorkloadUid := ⟨"p"⟩

/-- A pod the node agent adds after the snapshot, whose proxy fails to start. -/
def failedStartRun : WorkloadProxyManager :=
  snapshotRun.handle_message (.AddWorkload ⟨some ⟨1, 1⟩, podUid, some ⟨"n", "ns", "sa"⟩⟩) false true

theorem failedStartRun_reachable : managerMachine.Reachable failedStartRun :=
  .step (.message (.AddWorkload ⟨some ⟨1, 1⟩, podUid, some ⟨"n", "ns", "sa"⟩⟩) false true)
    snapshotRun_reachable ⟨rfl, rfl⟩ rfl

/-- While the manager processes a stream, a workload waiting for its proxy
    always has a retry scheduled: no failed start is forgotten. -/
theorem pending_retry_scheduled (hm : managerMachine.Reachable m) (hp : m.phase = .processing)
    (hpending : m.state.have_pending = true) : m.next_pending_retry = true :=
  (inv_reachable hm).pending_scheduled hp hpending

theorem pending_retry_scheduled_failedStartRun :
    failedStartRun.phase = .processing ∧ failedStartRun.state.have_pending = true ∧
      failedStartRun.next_pending_retry = true :=
  ⟨rfl, rfl, pending_retry_scheduled failedStartRun_reachable rfl rfl⟩

/-- A keep of a pod after the snapshot, which is a protocol error. -/
def lateKeepRun : WorkloadProxyManager :=
  snapshotRun.handle_message (.KeepWorkload podUid) true true

theorem lateKeepRun_reachable : managerMachine.Reachable lateKeepRun :=
  .step (.message (.KeepWorkload podUid) true true) snapshotRun_reachable ⟨rfl, rfl⟩ rfl

/-- A protocol error answered by a nack stops the manager for good: its
    last word to the node agent is that nack, the server is not ready, and
    no event brings it back to the node agent. -/
theorem protocol_error_stops (hm : managerMachine.Reachable m) (hf : m.phase = .failed) :
    m.sent.getLast? = some (.nack "failure to process message") ∧ m.block_ready = true ∧
      ∀ e, m.Enabled e → (m.step e).phase = .failed ∧ (m.step e).block_ready = true := by
  have hi := inv_reachable hm
  have hb := hi.block_ready_of_not_processing (by rw [hf]; nofun)
  refine ⟨hi.failed_nack hf, hb, fun e he => ?_⟩
  -- only the drain's signal is enabled in `failed`, and it moves nothing
  cases e with
  | signal_drain => exact ⟨hf, hb⟩
  | connect | stop | message | read_error | retry => exact absurd (hf.symm.trans he.1) nofun
  | hello | wake | eof => exact absurd (hf.symm.trans he) nofun

theorem protocol_error_stops_lateKeepRun :
    lateKeepRun.phase = .failed ∧ lateKeepRun.sent.getLast? = some (.nack "failure to process message") ∧
      lateKeepRun.block_ready = true ∧
      ∀ e, lateKeepRun.Enabled e → (lateKeepRun.step e).phase = .failed ∧
        (lateKeepRun.step e).block_ready = true :=
  ⟨rfl, protocol_error_stops lateKeepRun_reachable rfl⟩

end WorkloadProxyManager

end Inpod

end Ztunnel
