/-
  Ztunnel.Proxy.ConnectionManager

  The connection manager of src/proxy/connection_manager.rs, the inbound
  connections that register with it, and the `PolicyWatcher` that closes
  them when a policy update denies them.

  An inbound connection (`serve_connect` of src/proxy/inbound.rs, and the
  passthrough of inbound_passthrough.rs) goes through
  `ConnectionManager::assert_rbac`.  It `register`s first, which shares the
  drain of a connection registered under the same key or makes a new one,
  and only then checks the connection against the current policies; a
  denied connection is `release`d.  An allowed one holds a
  `ConnectionGuard` with the drain's watcher, and `handle_connection!` runs
  it against the drain: the end of the connection `release`s it, a
  signaled drain ends it with `AuthorizationPolicyLateRejection`.  A guard
  dropped before that releases too.  `release` takes one from the drain's
  count, and removes the entry at the last.

  `PolicyWatcher::run` waits for the policies' watch channel to change (the
  xDS handler of authorizations `send`s after each batch it applied), lists
  the registered connections, checks each against the current policies,
  and `close`s a denied one: its entry goes, and its drain is signaled and
  waited for until every watcher of it is dropped.

  The whole is one state machine whose events are these atomic steps in
  any interleaving.  Drain channels are named by numbers: `next_chan` is the
  one `drain::new()` makes next, and `signaled` holds those whose
  `start_drain_and_wait` has sent the signal.  The drains are keyed as the
  derived `Eq` and `Hash` of `InboundConnection` key them, and
  `ProxyRbacContext` leaves its `dest_workload` out of both: under a key the
  map keeps the connection as it was first inserted.
-/

import Ztunnel.State.AssertRbac
import Ztunnel.Lib.Machine

namespace Ztunnel

/-- `InboundConnection`: the RBAC context of an inbound connection and the
    host of its `Forwarded` header. -/
structure InboundConnection where
  ctx : ProxyRbacContext
  dest_service : Option String

/-- What the `Eq` and `Hash` of `InboundConnection` compare. -/
structure InboundKey where
  conn : Connection
  dest_service : Option String
  deriving DecidableEq

def InboundConnection.key (c : InboundConnection) : InboundKey :=
  ⟨c.ctx.conn, c.dest_service⟩

/-- `ConnectionDrain`: the trigger and the watcher of a drain channel, named
    by its number, and how many registrations share it. -/
structure ConnectionDrain where
  chan : Nat
  count : Nat
  deriving DecidableEq, Repr

/-- `ConnectionDrain::new()`: a new channel with one registration. -/
def ConnectionDrain.new (chan : Nat) : ConnectionDrain := ⟨chan, 1⟩

/-- `OutboundConnection`. -/
structure OutboundConnection where
  src : SocketAddr
  original_dst : SocketAddr
  actual_dst : SocketAddr
  protocol : Protocol
  deriving DecidableEq, Repr

structure ConnectionManager where
  drains : HashMap InboundKey (InboundConnection × ConnectionDrain)
  outbound_connections : HashSet OutboundConnection
  next_chan : Nat

namespace ConnectionManager

def default : ConnectionManager := { drains := ∅, outbound_connections := ∅, next_chan := 0 }

def track_outbound (self : ConnectionManager) (src original_dst actual_dst : SocketAddr)
    (protocol : Protocol) : ConnectionManager :=
  { self with
    outbound_connections := insert ⟨src, original_dst, actual_dst, protocol⟩ self.outbound_connections }

def release_outbound (self : ConnectionManager) (c : OutboundConnection) : ConnectionManager :=
  { self with outbound_connections := self.outbound_connections.erase c }

/-- `register`: a connection already registered under the key shares its
    drain and counts one more; otherwise a new drain is made.  The watcher
    returned is the drain's channel. -/
def register (self : ConnectionManager) (c : InboundConnection) :
    ConnectionManager × Option Nat :=
  match self.drains.lookup c.key with
  | some (k, cd) =>
    ({ self with drains := self.drains.insert c.key (k, { cd with count := cd.count + 1 }) },
      some cd.chan)
  | none =>
    let drain := ConnectionDrain.new self.next_chan
    ({ self with drains := self.drains.insert c.key (c, drain), next_chan := self.next_chan + 1 },
      some drain.chan)

/-- `release`: `remove_entry`, and the entry goes back with one less when
    something else still tracks the connection. -/
def release (self : ConnectionManager) (c : InboundConnection) : ConnectionManager :=
  match self.drains.lookup c.key with
  | none => self
  | some (k, v) =>
    let drains := self.drains.erase c.key
    if v.count > 1 then
      { self with drains := drains.insert k.key (k, { v with count := v.count - 1 }) }
    else { self with drains := drains }

/-- `close`: the entry is removed, and its drain returned to be signaled;
    none when the connection was not registered. -/
def close (self : ConnectionManager) (c : InboundConnection) :
    ConnectionManager × Option ConnectionDrain :=
  match self.drains.lookup c.key with
  | none => (self, none)
  | some (_, cd) => ({ self with drains := self.drains.erase c.key }, some cd)

/-- `connections`: the keys of the drains, as they were inserted. -/
def connections (self : ConnectionManager) : List InboundConnection :=
  self.drains.entries.map fun e => e.2.1

/-! ### What each operation does to the drains -/

variable (self : ConnectionManager) (c : InboundConnection)

theorem register_of_lookup_some {k : InboundConnection} {cd : ConnectionDrain}
    (h : self.drains.lookup c.key = some (k, cd)) :
    self.register c =
      ({ self with drains := self.drains.insert c.key (k, { cd with count := cd.count + 1 }) },
        some cd.chan) := by
  simp [register, h]

theorem register_of_lookup_none (h : self.drains.lookup c.key = none) :
    self.register c =
      ({ self with drains := self.drains.insert c.key (c, ConnectionDrain.new self.next_chan),
                   next_chan := self.next_chan + 1 },
        some self.next_chan) := by
  simp [register, h, ConnectionDrain.new]

theorem release_of_lookup_none (h : self.drains.lookup c.key = none) : self.release c = self := by
  simp [release, h]

/-- `release` of a connection filed under its own key: the count drops by
    one, and the entry goes with the last registration. -/
theorem drains_release {k : InboundConnection} {v : ConnectionDrain}
    (h : self.drains.lookup c.key = some (k, v)) (hk : k.key = c.key) (κ : InboundKey) :
    (self.release c).drains.lookup κ =
      if κ = c.key then (if v.count > 1 then some (k, { v with count := v.count - 1 }) else none)
      else self.drains.lookup κ := by
  unfold release
  rw [h]
  dsimp only
  split
  · rw [HashMap.lookup_insert_eq, HashMap.lookup_erase_eq, hk]
    split <;> simp [*]
  · rw [HashMap.lookup_erase_eq]

theorem close_of_lookup_none (h : self.drains.lookup c.key = none) : self.close c = (self, none) := by
  simp [close, h]

theorem close_of_lookup_some {k : InboundConnection} {cd : ConnectionDrain}
    (h : self.drains.lookup c.key = some (k, cd)) :
    self.close c = ({ self with drains := self.drains.erase c.key }, some cd) := by
  simp [close, h]

@[simp] theorem release_next_chan : (self.release c).next_chan = self.next_chan := by
  unfold release
  split
  · rfl
  · dsimp only
    split <;> rfl

theorem mem_connections : c ∈ self.connections ↔ ∃ κ d, self.drains.lookup κ = some (c, d) := by
  simp only [connections, List.mem_map]
  constructor
  · rintro ⟨⟨κ, c', d⟩, he, rfl⟩
    exact ⟨κ, d, AList.mem_lookup_iff.mpr he⟩
  · rintro ⟨κ, d, hl⟩
    exact ⟨⟨κ, c, d⟩, AList.mem_lookup_iff.mp hl, rfl⟩

end ConnectionManager

-- ============================================================================
-- The inbound connections and the policy watcher
-- ============================================================================

namespace PolicyWatcher

/-- Where the task of an inbound connection is, between `register` and the
    end of its guard.  Every phase holds the drain watcher `register`
    returned. -/
inductive Phase where
  /-- `register` has returned; the check against the policies is next -/
  | registered
  /-- the check failed; `release` is next -/
  | denied
  /-- a `ConnectionGuard` holding the watcher -/
  | guarded
  /-- `handle_connection!` took the watcher and selects between the
      connection and the drain -/
  | proxying
  deriving DecidableEq, Repr

/-- The phases in which the connection may carry traffic: it holds a guard. -/
def Phase.Serving : Phase → Prop
  | .guarded | .proxying => True
  | .registered | .denied => False

/-- A task: its connection, the channel of the watcher it holds, its phase. -/
structure Task where
  conn : InboundConnection
  chan : Nat
  phase : Phase

/-- Where `PolicyWatcher::run` is in its loop. -/
inductive Loop where
  /-- in `select!`, waiting for the policies to change -/
  | waiting
  /-- `changed()` returned; `connections()` is next -/
  | listing
  /-- in the `for` loop, with the connections still to check -/
  | checking (rest : List InboundConnection)
  /-- `assert_rbac` of `c` failed; `close(c)` is next -/
  | closing (c : InboundConnection) (rest : List InboundConnection)
  /-- in `start_drain_and_wait` of the drain `close` removed -/
  | draining (chan : Nat) (rest : List InboundConnection)

/-- The watcher: the version of the policies its receiver has marked seen,
    and its place in the loop. -/
structure Watcher where
  seen : Nat
  loop : Loop

structure System where
  policies : PolicyStore
  /-- the version of the policies' watch channel, one more at each `send()` -/
  version : Nat
  cm : ConnectionManager
  signaled : Finset Nat
  tasks : HashMap Nat Task
  watcher : Watcher

/-- The steps: an xDS update of the policies, the steps of a connection's
    task, and those of the watcher. -/
inductive Event where
  /-- `Handler<XdsAuthorization>::handle` applied a batch, then `send()` -/
  | update (ops : List PolicyStore.Op)
  /-- a connection arrives at `assert_rbac`, which `register`s it -/
  | accept (t : Nat) (c : InboundConnection)
  /-- `DemandProxyState::assert_rbac` -/
  | authorize (t : Nat)
  /-- `release` of a denied connection -/
  | release (t : Nat)
  /-- a guard dropped with its watcher, before `handle_connection!` -/
  | drop (t : Nat)
  /-- `handle_connection!` takes the watcher -/
  | start (t : Nat)
  /-- the connection ends first, and the guard is released -/
  | complete (t : Nat)
  /-- the drain ends the connection with `AuthorizationPolicyLateRejection` -/
  | late_reject (t : Nat)
  | changed
  | list
  | check
  | close
  | drained

namespace System

/-- The state at `PolicyWatcher::new`: no connection, and the watcher has
    seen the policies as they are. -/
def init (policies : PolicyStore) : System where
  policies := policies
  version := 0
  cm := .default
  signaled := ∅
  tasks := ∅
  watcher := ⟨0, .waiting⟩

variable [IpNetContains] (s : System)

def update (ops : List PolicyStore.Op) : System :=
  { s with policies := ops.foldl PolicyStore.apply s.policies, version := s.version + 1 }

def accept (t : Nat) (c : InboundConnection) : System :=
  match s.cm.register c with
  | (cm, some chan) => { s with cm := cm, tasks := s.tasks.insert t ⟨c, chan, .registered⟩ }
  -- `ConnectionTrackingFailed`
  | (cm, none) => { s with cm := cm }

def authorize (t : Nat) : System :=
  match s.tasks.lookup t with
  | some task =>
    let phase : Phase := match assert_rbac s.policies task.conn.ctx with
      | .ok () => .guarded
      | .error _ => .denied
    { s with tasks := s.tasks.insert t { task with phase := phase } }
  | none => s

/-- A task ends and releases its registration. -/
def finish (t : Nat) : System :=
  match s.tasks.lookup t with
  | some task => { s with cm := s.cm.release task.conn, tasks := s.tasks.erase t }
  | none => s

def start (t : Nat) : System :=
  match s.tasks.lookup t with
  | some task => { s with tasks := s.tasks.insert t { task with phase := .proxying } }
  | none => s

/-- The drain won: the guard goes without a release, its watcher taken. -/
def late_reject (t : Nat) : System :=
  { s with tasks := s.tasks.erase t }

def changed : System :=
  { s with watcher := ⟨s.version, .listing⟩ }

def list : System :=
  { s with watcher := { s.watcher with loop := .checking s.cm.connections } }

def check : System :=
  match s.watcher.loop with
  | .checking [] => { s with watcher := { s.watcher with loop := .waiting } }
  | .checking (c :: rest) =>
    match assert_rbac s.policies c.ctx with
    | .ok () => { s with watcher := { s.watcher with loop := .checking rest } }
    | .error _ => { s with watcher := { s.watcher with loop := .closing c rest } }
  | _ => s

def close : System :=
  match s.watcher.loop with
  | .closing c rest =>
    match s.cm.close c with
    | (cm, some cd) =>
      { s with cm := cm, signaled := insert cd.chan s.signaled,
               watcher := { s.watcher with loop := .draining cd.chan rest } }
    -- "requested drain on a Connection which wasn't initialized"
    | (cm, none) => { s with cm := cm, watcher := { s.watcher with loop := .checking rest } }
  | _ => s

def drained : System :=
  match s.watcher.loop with
  | .draining _ rest => { s with watcher := { s.watcher with loop := .checking rest } }
  | _ => s

/-- The phase of task `t`, none when there is no such task. -/
def phaseOf (t : Nat) : Option Phase :=
  (s.tasks.lookup t).map Task.phase

/-- When a step can happen.  A connection is accepted under a new task; a
    task's step is of its phase, and the drain can win only once signaled.
    `changed()` returns on a version the watcher has not seen, and the wait
    for a drain ends when no task holds its watcher. -/
def Enabled : Event → Prop
  | .update _ => True
  | .accept t _ => s.tasks.lookup t = none
  | .authorize t => s.phaseOf t = some .registered
  | .release t => s.phaseOf t = some .denied
  | .drop t => s.phaseOf t = some .guarded
  | .start t => s.phaseOf t = some .guarded
  | .complete t => s.phaseOf t = some .proxying
  | .late_reject t =>
    ∃ task, s.tasks.lookup t = some task ∧ task.phase = .proxying ∧ task.chan ∈ s.signaled
  | .changed => s.watcher.loop = .waiting ∧ s.watcher.seen < s.version
  | .list => s.watcher.loop = .listing
  | .check => ∃ rest, s.watcher.loop = .checking rest
  | .close => ∃ c rest, s.watcher.loop = .closing c rest
  | .drained =>
    ∃ k rest, s.watcher.loop = .draining k rest ∧
      ∀ t task, s.tasks.lookup t = some task → task.chan ≠ k

def step : Event → Except String System
  | .update ops => .ok (s.update ops)
  | .accept t c => .ok (s.accept t c)
  | .authorize t => .ok (s.authorize t)
  | .release t => .ok (s.finish t)
  | .drop t => .ok (s.finish t)
  | .start t => .ok (s.start t)
  | .complete t => .ok (s.finish t)
  | .late_reject t => .ok (s.late_reject t)
  | .changed => .ok s.changed
  | .list => .ok s.list
  | .check => .ok s.check
  | .close => .ok s.close
  | .drained => .ok s.drained

end System

/-- The inbound connections and the policy watcher of a proxy, from the
    policies it starts with. -/
def machine [IpNetContains] (policies : PolicyStore) : Machine System Event where
  init := System.init policies
  Enabled := System.Enabled
  step := System.step

/-- What the guarantees below assume of arriving connections: a connection
    arrives with the connection its key is registered under, if any, and
    not while a drain of its key is under way. -/
def Arrival (s : System) : Event → Prop
  | .accept _ c =>
    (∀ c' d, s.cm.drains.lookup c.key = some (c', d) → c' = c) ∧
      ∀ t task, s.tasks.lookup t = some task → task.conn.key = c.key → task.chan ∉ s.signaled
  | _ => True

/-- The connections the watcher's loop has still to check from where it is. -/
def Loop.ToCheck : Loop → InboundConnection → Prop
  | .waiting, _ => False
  | .listing, _ => True
  | .checking rest, c => c ∈ rest
  | .closing c' rest, c => c = c' ∨ c ∈ rest
  | .draining _ rest, c => c ∈ rest

/-- The watcher has still to check `c` against the current policies: it has
    not seen their latest version, or its loop has `c` still to check. -/
def Pending (s : System) (c : InboundConnection) : Prop :=
  s.watcher.seen < s.version ∨ s.watcher.loop.ToCheck c

/-- How many tasks hold the watcher of drain `k` under key `κ`. -/
def holders (tasks : HashMap Nat Task) (κ : InboundKey) (k : Nat) : Nat :=
  tasks.entries.countP fun e => e.2.conn.key == κ && e.2.chan == k

/-! ### What each step does -/

namespace System

variable (s : System) {t : Nat} {task : Task}

theorem accept_of_lookup_some (c : InboundConnection) {k : InboundConnection} {cd : ConnectionDrain}
    (h : s.cm.drains.lookup c.key = some (k, cd)) :
    s.accept t c =
      { s with cm := { s.cm with drains := s.cm.drains.insert c.key (k, { cd with count := cd.count + 1 }) },
               tasks := s.tasks.insert t ⟨c, cd.chan, .registered⟩ } := by
  simp [accept, ConnectionManager.register_of_lookup_some _ _ h]

theorem accept_of_lookup_none (c : InboundConnection) (h : s.cm.drains.lookup c.key = none) :
    s.accept t c =
      { s with cm := { s.cm with drains := s.cm.drains.insert c.key (c, ConnectionDrain.new s.cm.next_chan),
                                 next_chan := s.cm.next_chan + 1 },
               tasks := s.tasks.insert t ⟨c, s.cm.next_chan, .registered⟩ } := by
  simp [accept, ConnectionManager.register_of_lookup_none _ _ h]

/-- The check moves a task to a phase that serves only when the policies
    allow its connection. -/
theorem authorize_eq [IpNetContains] (h : s.tasks.lookup t = some task) :
    ∃ p : Phase, s.authorize t = { s with tasks := s.tasks.insert t { task with phase := p } } ∧
      (p.Serving → assert_rbac s.policies task.conn.ctx = .ok ()) := by
  cases hr : assert_rbac s.policies task.conn.ctx with
  | ok u => exact ⟨.guarded, by simp [authorize, h, hr], fun _ => rfl⟩
  | error e => exact ⟨.denied, by simp [authorize, h, hr], fun hs => hs.elim⟩

theorem finish_of_lookup (h : s.tasks.lookup t = some task) :
    s.finish t = { s with cm := s.cm.release task.conn, tasks := s.tasks.erase t } := by
  simp [finish, h]

theorem start_of_lookup (h : s.tasks.lookup t = some task) :
    s.start t = { s with tasks := s.tasks.insert t { task with phase := .proxying } } := by
  simp [start, h]

/-- A check either passes its connection or moves on to close it; every
    other connection still to check stays so. -/
theorem check_eq [IpNetContains] {rest : List InboundConnection} (h : s.watcher.loop = .checking rest) :
    ∃ loop, s.check = { s with watcher := { s.watcher with loop := loop } } ∧
      ∀ c ∈ rest, loop.ToCheck c ∨ assert_rbac s.policies c.ctx = .ok () := by
  cases rest with
  | nil => exact ⟨.waiting, by simp [check, h], by simp⟩
  | cons c rest =>
    cases hr : assert_rbac s.policies c.ctx with
    | ok u =>
      refine ⟨.checking rest, by simp [check, h, hr], ?_⟩
      rintro c' (_ | ⟨_, hc'⟩)
      · exact .inr hr
      · exact .inl hc'
    | error e =>
      refine ⟨.closing c rest, by simp [check, h, hr], ?_⟩
      rintro c' (_ | ⟨_, hc'⟩)
      · exact .inl (.inl rfl)
      · exact .inl (.inr hc')

theorem close_of_lookup_some {c : InboundConnection} {rest : List InboundConnection}
    (hw : s.watcher.loop = .closing c rest) {k : InboundConnection} {cd : ConnectionDrain}
    (h : s.cm.drains.lookup c.key = some (k, cd)) :
    s.close = { s with cm := { s.cm with drains := s.cm.drains.erase c.key },
                       signaled := insert cd.chan s.signaled,
                       watcher := { s.watcher with loop := .draining cd.chan rest } } := by
  simp [close, hw, ConnectionManager.close_of_lookup_some _ _ h]

theorem close_of_lookup_none {c : InboundConnection} {rest : List InboundConnection}
    (hw : s.watcher.loop = .closing c rest) (h : s.cm.drains.lookup c.key = none) :
    s.close = { s with watcher := { s.watcher with loop := .checking rest } } := by
  simp [close, hw, ConnectionManager.close_of_lookup_none _ _ h]

theorem phaseOf_eq_some {p : Phase} (h : s.phaseOf t = some p) :
    ∃ task, s.tasks.lookup t = some task ∧ task.phase = p := by
  unfold phaseOf at h
  cases ht : s.tasks.lookup t with
  | none => simp [ht] at h
  | some task =>
    rw [ht, Option.map_some, Option.some.injEq] at h
    exact ⟨task, rfl, h⟩

theorem drained_eq {k : Nat} {rest : List InboundConnection} (h : s.watcher.loop = .draining k rest) :
    s.drained = { s with watcher := { s.watcher with loop := .checking rest } } := by
  simp [drained, h]

end System

end PolicyWatcher

end Ztunnel
