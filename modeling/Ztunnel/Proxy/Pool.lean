/-
  Ztunnel.Proxy.Pool

  The HBONE connection pool (src/proxy/pool.rs) as concurrent calls of
  `WorkloadHBONEPool::connect`.  A call hashes its workload key; it first
  checks out under the key's lock if the lock map has one
  (`checkout_conn_under_writelock`): under the lock it pops pooled
  connections of the hash until one is for its key and ready, refusing
  one of another key (`enforce_key_integrity`), or spawns a new one.
  Without a lock in the map it inserts one and tries it
  (`start_conn_if_win_writelock`): the winner spawns, the losers wait for
  the pool's notifier and check out again.  A connection handed out is
  checked back in unless its next stream would reach the maximum
  (`maybe_checkin_conn`), which notifies the waiters.

  Each step between two awaits of one call is an event, in any order with
  the events of other calls and of the environment: pingora evicting an
  entry or its idle timeout popping it, streams opening and closing on a
  connection, a connection going away.  Pingora's `get` pops some entry
  of the group, which the event names.  The workload key is a type with
  a hash into `Nat`, collisions allowed.  A connection is a number into
  the table of what its clones share (key, stream count, readiness).

  The notifier's `Err` arm (the pool dropped) is not modelled: every
  running `connect` keeps the pool state alive through its `Arc`.
-/

import Ztunnel.Lib.HashMap
import Ztunnel.Lib.Machine

namespace Ztunnel

namespace Pool

/-- What every clone of one `H2ConnectClient` shares. -/
structure Conn (K : Type) where
  wl_key : K
  max_allowed_streams : Nat
  stream_count : Nat
  /-- `ready_to_use`: no GOAWAY or error seen yet -/
  ready : Bool
  deriving DecidableEq

/-- Whether one more stream reaches the connection's maximum. -/
def Conn.will_be_at_max_streamcount {K : Type} (c : Conn K) : Bool :=
  decide (c.stream_count + 1 ≥ c.max_allowed_streams)

/-- pingora's `ConnectionMeta`: the group (the key's hash) and a unique id. -/
structure ConnectionMeta where
  key : Nat
  id : Nat
  deriving DecidableEq, Repr

/-- A pooled connection. -/
structure Entry where
  pool_key : ConnectionMeta
  conn : Nat
  deriving DecidableEq, Repr

/-- The mutex of a key, by its holder. -/
structure KeyLock where
  holder : Option Nat
  deriving DecidableEq, Repr

/-- The errors of `connect` that the pool raises. -/
inductive ConnectError where
  /-- "connection does not match workload key!" -/
  | KeyMismatch
  /-- an error of `new_pool_conn` -/
  | SpawnFailed
  deriving DecidableEq, Repr

/-- Where a call of `connect` is. -/
inductive Phase where
  /-- `checkout_conn_under_writelock`, before the lock map is read; the
      retry is the one after a notification -/
  | checkout (retry : Bool)
  /-- awaiting the key's lock -/
  | awaitLock (retry : Bool)
  /-- under the lock, in the `guarded_get` loop -/
  | getLoop
  /-- under the lock, spawning a connection -/
  | spawnLocked
  /-- no lock was in the map: about to insert one -/
  | insertLock
  /-- `start_conn_if_win_writelock` -/
  | tryWin
  /-- won the lock, spawning -/
  | spawnWin
  /-- lost it: awaiting `pool_watcher.changed()` -/
  | waitNotify
  /-- returned -/
  | done (r : Except ConnectError Nat)
  deriving DecidableEq

/-- Whether the call holds its key's lock there. -/
def Phase.Locked : Phase → Prop
  | .getLoop | .spawnLocked | .spawnWin => True
  | _ => False

structure Task (K : Type) where
  key : K
  /-- the `DefaultHasher` hash of the key -/
  hash_key : Nat
  /-- the id of its `ConnectionMeta` -/
  pool_id : Nat
  /-- the version its `pool_watcher` has seen -/
  seen : Nat
  phase : Phase

def Task.pool_key {K : Type} (task : Task K) : ConnectionMeta := ⟨task.hash_key, task.pool_id⟩

structure PoolState (K : Type) where
  tasks : HashMap Nat (Task K)
  established_conn_writelock : HashMap Nat (Option KeyLock)
  connected_pool : List Entry
  conns : HashMap Nat (Conn K)
  /-- the version of `pool_notifier` -/
  version : Nat
  pool_global_conn_count : Nat
  next_conn : Nat

inductive Event (K : Type) where
  /-- a call of `connect` starts; its pool clone has seen `seen` -/
  | connect (t : Nat) (key : K) (seen : Nat)
  | checkout (t : Nat)
  | acquire (t : Nat)
  /-- a turn of `guarded_get`, popping the entry, or finding none -/
  | get (t : Nat) (entry : Option Entry)
  /-- `new_pool_conn` returns, or fails; the peer's stream limit -/
  | spawn (t : Nat) (ok : Bool) (peer_max : Nat)
  | insertLock (t : Nat)
  | tryWin (t : Nat)
  | notified (t : Nat)
  /-- pingora drops an entry: evicted, or popped by its idle timeout -/
  | evict (entry : Entry)
  | stream_open (c : Nat)
  | stream_close (c : Nat)
  | go_away (c : Nat)

namespace PoolState

variable {K : Type} (s : PoolState K)

def init : PoolState K := ⟨∅, ∅, [], ∅, 0, 0, 0⟩

def setPhase (t : Nat) (task : Task K) (phase : Phase) : PoolState K :=
  { s with tasks := s.tasks.insert t { task with phase := phase } }

/-- The guard of the task's lock dropped. -/
def release (task : Task K) : PoolState K :=
  { s with
    established_conn_writelock := s.established_conn_writelock.insert task.hash_key (some ⟨none⟩) }

/-- A call starts: its hash and its unique `ConnectionMeta` id. -/
def connect (hash : K → Nat) (t : Nat) (key : K) (seen : Nat) : PoolState K :=
  { s with
    tasks := s.tasks.insert t ⟨key, hash key, s.pool_global_conn_count, seen, .checkout false⟩
    pool_global_conn_count := s.pool_global_conn_count + 1 }

/-- `checkout_conn_under_writelock` up to the lock: without a lock for the
    key nothing is checked out (`Ok(None)`), and the first try goes on to
    insert one while a retry waits again. -/
def checkout (t : Nat) (task : Task K) (retry : Bool) : PoolState K :=
  match s.established_conn_writelock.lookup task.hash_key with
  | some (some _) => s.setPhase t task (.awaitLock retry)
  | _ => s.setPhase t task (if retry then .waitNotify else .insertLock)

/-- `lock().await` returns. -/
def acquire (t : Nat) (task : Task K) : PoolState K :=
  { s.setPhase t task .getLoop with
    established_conn_writelock :=
      s.established_conn_writelock.insert task.hash_key (some ⟨some t⟩) }

/-- A copy of the connection goes back to the pool, and the waiters are
    notified, unless its next stream reaches the maximum. -/
def maybe_checkin_conn (c : Nat) (pool_key : ConnectionMeta) : PoolState K :=
  match s.conns.lookup c with
  | some conn =>
    if conn.will_be_at_max_streamcount then s
    else { s with connected_pool := s.connected_pool ++ [⟨pool_key, c⟩], version := s.version + 1 }
  | none => s

/-- A call returns the connection: checked in, the lock released. -/
def returnConn (t : Nat) (task : Task K) (c : Nat) : PoolState K :=
  ((s.maybe_checkin_conn c task.pool_key).release task).setPhase t task (.done (.ok c))

/-- A call returns an error, releasing its lock. -/
def fail (t : Nat) (task : Task K) (e : ConnectError) : PoolState K :=
  (s.release task).setPhase t task (.done (.error e))

/-- One turn of the `guarded_get` loop: with no entry of the hash, spawn;
    else pop it and refuse it if it is for another key, drop it if it is
    not ready, return it otherwise. -/
def get [DecidableEq K] (t : Nat) (task : Task K) : Option Entry → PoolState K
  | none => s.setPhase t task .spawnLocked
  | some entry =>
    let s' := { s with connected_pool := s.connected_pool.erase entry }
    match s'.conns.lookup entry.conn with
    | none => s'
    | some conn =>
      if conn.wl_key ≠ task.key then s'.fail t task .KeyMismatch
      else if !conn.ready then s'
      else s'.returnConn t task entry.conn

/-- `new_pool_conn` returns a connection for the key, whose stream limit is
    the smaller of the configuration's and the peer's; or it fails. -/
def spawn (pool_max_streams_per_conn : Nat) (t : Nat) (task : Task K) (ok : Bool)
    (peer_max : Nat) : PoolState K :=
  if ok then
    let s' := { s with
      conns := s.conns.insert s.next_conn ⟨task.key, min pool_max_streams_per_conn peer_max, 0, true⟩
      next_conn := s.next_conn + 1 }
    s'.returnConn t task s.next_conn
  else s.fail t task .SpawnFailed

/-- `try_insert` of a new lock for the key, which keeps one already there. -/
def insertLock (t : Nat) (task : Task K) : PoolState K :=
  { s.setPhase t task .tryWin with
    established_conn_writelock :=
      match s.established_conn_writelock.lookup task.hash_key with
      | some _ => s.established_conn_writelock
      | none => s.established_conn_writelock.insert task.hash_key (some ⟨none⟩) }

/-- `start_conn_if_win_writelock`: the key's lock from the map, by two
    `unwrap`s, then `try_lock`. -/
def tryWin (t : Nat) (task : Task K) : Except String (PoolState K) :=
  match s.established_conn_writelock.lookup task.hash_key with
  | some (some lock) =>
    match lock.holder with
    | none =>
      .ok { s.setPhase t task .spawnWin with
        established_conn_writelock :=
          s.established_conn_writelock.insert task.hash_key (some ⟨some t⟩) }
    | some _ => .ok (s.setPhase t task .waitNotify)
  | _ => .error "called `Option::unwrap()` on a `None` value"

/-- `pool_watcher.changed()` returns: the call checks out again. -/
def notified (t : Nat) (task : Task K) : PoolState K :=
  s.setPhase t { task with seen := s.version } (.checkout true)

def evict (entry : Entry) : PoolState K :=
  { s with connected_pool := s.connected_pool.erase entry }

/-- The connection's shared state changes. -/
def updateConn (c : Nat) (f : Conn K → Conn K) : PoolState K :=
  match s.conns.lookup c with
  | some conn => { s with conns := s.conns.insert c (f conn) }
  | none => s

/-- The task in phase `p` of an event: whether `t` is there. -/
def At (t : Nat) (p : Phase → Prop) : Prop :=
  ∃ task, s.tasks.lookup t = some task ∧ p task.phase

def Enabled : Event K → Prop
  | .connect t _ seen => s.tasks.lookup t = none ∧ seen ≤ s.version
  | .checkout t => s.At t fun p => ∃ r, p = .checkout r
  | .acquire t =>
    ∃ task r, s.tasks.lookup t = some task ∧ task.phase = .awaitLock r ∧
      s.established_conn_writelock.lookup task.hash_key = some (some ⟨none⟩)
  | .get t entry =>
    ∃ task, s.tasks.lookup t = some task ∧ task.phase = .getLoop ∧
      match entry with
      | some e => e ∈ s.connected_pool ∧ e.pool_key.key = task.hash_key
      | none => ∀ e ∈ s.connected_pool, e.pool_key.key ≠ task.hash_key
  | .spawn t _ _ => s.At t fun p => p = .spawnLocked ∨ p = .spawnWin
  | .insertLock t => s.At t (· = .insertLock)
  | .tryWin t => s.At t (· = .tryWin)
  | .notified t =>
    ∃ task, s.tasks.lookup t = some task ∧ task.phase = .waitNotify ∧ task.seen < s.version
  | .evict entry => entry ∈ s.connected_pool
  | .stream_open c => (s.conns.lookup c).isSome
  | .stream_close c => ∃ conn, s.conns.lookup c = some conn ∧ 0 < conn.stream_count
  | .go_away c => (s.conns.lookup c).isSome

/-- The step of a call, on the task it names. -/
def taskStep [DecidableEq K] (pool_max_streams_per_conn : Nat) (t : Nat) (task : Task K) :
    Event K → Except String (PoolState K)
  | .checkout _ =>
    match task.phase with
    | .checkout retry => .ok (s.checkout t task retry)
    | _ => .ok s
  | .acquire _ => .ok (s.acquire t task)
  | .get _ entry => .ok (s.get t task entry)
  | .spawn _ ok peer_max => .ok (s.spawn pool_max_streams_per_conn t task ok peer_max)
  | .insertLock _ => .ok (s.insertLock t task)
  | .tryWin _ => s.tryWin t task
  | .notified _ => .ok (s.notified t task)
  | _ => .ok s

def step [DecidableEq K] (hash : K → Nat) (pool_max_streams_per_conn : Nat) : Event K → Except String (PoolState K)
  | .connect t key seen => .ok (s.connect hash t key seen)
  | .evict entry => .ok (s.evict entry)
  | .stream_open c => .ok (s.updateConn c fun conn => { conn with stream_count := conn.stream_count + 1 })
  | .stream_close c => .ok (s.updateConn c fun conn => { conn with stream_count := conn.stream_count - 1 })
  | .go_away c => .ok (s.updateConn c fun conn => { conn with ready := false })
  | e@(.checkout t) | e@(.acquire t) | e@(.get t _) | e@(.spawn t _ _) | e@(.insertLock t)
  | e@(.tryWin t) | e@(.notified t) =>
    match s.tasks.lookup t with
    | some task => s.taskStep pool_max_streams_per_conn t task e
    | none => .ok s

/-! ### What each operation changes -/

section Frame

variable {t c : Nat} {task : Task K} {p : Phase}

@[simp] theorem setPhase_tasks :
    (s.setPhase t task p).tasks = s.tasks.insert t { task with phase := p } := rfl

@[simp] theorem setPhase_established_conn_writelock :
    (s.setPhase t task p).established_conn_writelock = s.established_conn_writelock := rfl

@[simp] theorem setPhase_connected_pool : (s.setPhase t task p).connected_pool = s.connected_pool :=
  rfl

@[simp] theorem setPhase_conns : (s.setPhase t task p).conns = s.conns := rfl

@[simp] theorem setPhase_next_conn : (s.setPhase t task p).next_conn = s.next_conn := rfl

@[simp] theorem release_tasks : (s.release task).tasks = s.tasks := rfl

@[simp] theorem release_established_conn_writelock :
    (s.release task).established_conn_writelock =
      s.established_conn_writelock.insert task.hash_key (some ⟨none⟩) := rfl

@[simp] theorem release_connected_pool : (s.release task).connected_pool = s.connected_pool := rfl

@[simp] theorem release_conns : (s.release task).conns = s.conns := rfl

@[simp] theorem release_next_conn : (s.release task).next_conn = s.next_conn := rfl

@[simp] theorem maybe_checkin_conn_tasks {k : ConnectionMeta} :
    (s.maybe_checkin_conn c k).tasks = s.tasks := by
  unfold maybe_checkin_conn
  split
  · split <;> rfl
  · rfl

@[simp] theorem maybe_checkin_conn_established_conn_writelock {k : ConnectionMeta} :
    (s.maybe_checkin_conn c k).established_conn_writelock = s.established_conn_writelock := by
  unfold maybe_checkin_conn
  split
  · split <;> rfl
  · rfl

@[simp] theorem maybe_checkin_conn_conns {k : ConnectionMeta} :
    (s.maybe_checkin_conn c k).conns = s.conns := by
  unfold maybe_checkin_conn
  split
  · split <;> rfl
  · rfl

@[simp] theorem maybe_checkin_conn_next_conn {k : ConnectionMeta} :
    (s.maybe_checkin_conn c k).next_conn = s.next_conn := by
  unfold maybe_checkin_conn
  split
  · split <;> rfl
  · rfl

/-- A check-in adds at most the entry of the connection it checks in. -/
theorem mem_maybe_checkin_conn {k : ConnectionMeta} {e : Entry}
    (h : e ∈ (s.maybe_checkin_conn c k).connected_pool) : e ∈ s.connected_pool ∨ e = ⟨k, c⟩ := by
  unfold maybe_checkin_conn at h
  split at h
  · split at h
    · exact .inl h
    · rcases List.mem_append.mp h with h | h
      · exact .inl h
      · exact .inr (List.mem_singleton.mp h)
  · exact .inl h

theorem insertLock_of_lookup_some {l : Option KeyLock}
    (h : s.established_conn_writelock.lookup task.hash_key = some l) :
    s.insertLock t task = s.setPhase t task .tryWin := by
  unfold insertLock
  rw [h]
  rfl

theorem insertLock_of_lookup_none (h : s.established_conn_writelock.lookup task.hash_key = none) :
    s.insertLock t task =
      ({ s with established_conn_writelock :=
          s.established_conn_writelock.insert task.hash_key (some ⟨none⟩) }).setPhase t task .tryWin := by
  unfold insertLock
  rw [h]
  rfl

end Frame

/-- Only `start_conn_if_win_writelock` can panic. -/
theorem step_eq_error [DecidableEq K] {hash : K → Nat} {m : Nat} {e : Event K} {msg : String}
    (h : s.step hash m e = .error msg) :
    ∃ t task, e = .tryWin t ∧ s.tasks.lookup t = some task ∧ s.tryWin t task = .error msg := by
  cases e with
  | tryWin t =>
    simp only [step] at h
    split at h
    · next task ht => exact ⟨t, task, rfl, ht, h⟩
    · cases h
  | checkout t =>
    simp only [step] at h
    split at h
    · simp only [taskStep] at h
      split at h <;> cases h
    · cases h
  | acquire t | get t _ | spawn t _ _ | insertLock t | notified t =>
    simp only [step] at h
    split at h <;> cases h
  | connect | evict | stream_open | stream_close | go_away => cases h

end PoolState

/-- The pool of a proxied workload, with the `DefaultHasher` of its keys and
    its configured stream limit. -/
def machine {K : Type} [DecidableEq K] (hash : K → Nat) (pool_max_streams_per_conn : Nat) :
    Machine (PoolState K) (Event K) where
  init := PoolState.init
  Enabled := PoolState.Enabled
  step s := s.step hash pool_max_streams_per_conn

end Pool

end Ztunnel
