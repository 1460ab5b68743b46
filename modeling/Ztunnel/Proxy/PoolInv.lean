/-
  Ztunnel.Proxy.PoolInv

  What every interleaving of `connect` calls keeps (src/proxy/pool.rs).
  The invariant `Inv` ties the lock map to the calls: a key's lock is
  held by exactly the call that is under it, in the `guarded_get` loop or
  spawning, so two calls whose keys hash alike are never under the lock at
  once and at most one of them opens a connection; the map never holds
  `None`, and a call about to take its key's lock finds one there, so
  neither `unwrap` of `start_conn_if_win_writelock` panics.  It ties the
  pool to the connection table: every pooled entry is a connection filed
  under its key's hash, and a connection a call returned is for the
  call's own key, whatever other keys its hash collides with: the deep
  equality of `enforce_key_integrity` refuses the others.

  The events that move one call without touching the map are proved once,
  by `Inv.setPhase`; taking, adding and releasing a lock, checking a
  connection in and changing the connection table have a lemma each, and
  `Inv.step` has one case per event.
-/

import Ztunnel.Proxy.Pool

namespace Ztunnel

namespace Pool

/-- A call about to take its key's lock from the map: it found one there,
    or has just made sure one is there. -/
def Phase.AtLock : Phase → Prop
  | .awaitLock _ | .tryWin => True
  | _ => False

/-- Putting a lock at a key keeps a lock at every key that had one. -/
theorem lookup_insert_lock {m : HashMap Nat (Option KeyLock)} {k k' : Nat} (l0 : KeyLock)
    (h : k' = k ∨ ∃ l, m.lookup k' = some (some l)) :
    ∃ l, (m.insert k (some l0)).lookup k' = some (some l) := by
  rw [HashMap.lookup_insert_eq]
  split
  · exact ⟨l0, rfl⟩
  · rcases h with h | h
    · contradiction
    · exact h

variable {K : Type} {hash : K → Nat}

/-- What every run keeps. -/
structure Inv (hash : K → Nat) (s : PoolState K) : Prop where
  hashed : ∀ t task, s.tasks.lookup t = some task → task.hash_key = hash task.key
  /-- the map holds a lock wherever it holds anything -/
  lock_some : ∀ h, s.established_conn_writelock.lookup h ≠ some none
  at_lock : ∀ t task, s.tasks.lookup t = some task → task.phase.AtLock →
    ∃ l, s.established_conn_writelock.lookup task.hash_key = some (some l)
  /-- a held lock is held by a call under it, of the lock's hash -/
  holder_locked : ∀ h t, s.established_conn_writelock.lookup h = some (some ⟨some t⟩) →
    ∃ task, s.tasks.lookup t = some task ∧ task.hash_key = h ∧ task.phase.Locked
  /-- a call under its key's lock holds it -/
  locked_holder : ∀ t task, s.tasks.lookup t = some task → task.phase.Locked →
    s.established_conn_writelock.lookup task.hash_key = some (some ⟨some t⟩)
  pooled : ∀ e ∈ s.connected_pool,
    ∃ conn, s.conns.lookup e.conn = some conn ∧ hash conn.wl_key = e.pool_key.key
  returned : ∀ t task c, s.tasks.lookup t = some task → task.phase = .done (.ok c) →
    ∃ conn, s.conns.lookup c = some conn ∧ conn.wl_key = task.key
  /-- connections are numbered below the next one to open -/
  fresh : ∀ c, (s.conns.lookup c).isSome → c < s.next_conn

theorem inv_init : Inv hash (PoolState.init : PoolState K) where
  hashed _ _ h := by simp [PoolState.init] at h
  lock_some _ h := by simp [PoolState.init] at h
  at_lock _ _ h := by simp [PoolState.init] at h
  holder_locked _ _ h := by simp [PoolState.init] at h
  locked_holder _ _ h := by simp [PoolState.init] at h
  pooled _ h := by simp [PoolState.init] at h
  returned _ _ _ h := by simp [PoolState.init] at h
  fresh _ h := by simp [PoolState.init] at h

namespace Inv

variable {s : PoolState K} {t : Nat} {task : Task K}

theorem ne_next_conn (hi : Inv hash s) {c : Nat} {conn : Conn K} (h : s.conns.lookup c = some conn) :
    c ≠ s.next_conn :=
  Nat.ne_of_lt (hi.fresh c (by rw [h]; rfl))

/-- A step that moves one call to another phase, its key kept and the map
    untouched: the call is under its lock after exactly when it was
    before, finds a lock if it is about to take one, and returns nothing. -/
theorem setPhase (hi : Inv hash s) (ht : s.tasks.lookup t = some task) (task' : Task K)
    (hkey : task'.key = task.key) (hhash : task'.hash_key = task.hash_key) {p : Phase}
    (hlocked : p.Locked ↔ task.phase.Locked)
    (hat : p.AtLock → ∃ l, s.established_conn_writelock.lookup task.hash_key = some (some l))
    (hdone : ∀ c, p ≠ .done (.ok c)) : Inv hash (s.setPhase t task' p) where
  hashed t' task'' h := by
    rcases HashMap.lookup_insert_eq_some.mp h with ⟨-, rfl⟩ | ⟨-, h⟩
    · show task'.hash_key = hash task'.key
      rw [hhash, hkey]
      exact hi.hashed t task ht
    · exact hi.hashed t' task'' h
  lock_some := hi.lock_some
  at_lock t' task'' h hp := by
    rcases HashMap.lookup_insert_eq_some.mp h with ⟨-, rfl⟩ | ⟨-, h⟩
    · show ∃ l, s.established_conn_writelock.lookup task'.hash_key = some (some l)
      rw [hhash]
      exact hat hp
    · exact hi.at_lock t' task'' h hp
  holder_locked h t' hl := by
    obtain ⟨task0, h0, hh0, hl0⟩ := hi.holder_locked h t' hl
    by_cases heq : t' = t
    · subst heq
      obtain rfl : task0 = task := Option.some.inj (h0.symm.trans ht)
      exact ⟨{ task' with phase := p }, by simp, hhash.trans hh0, hlocked.mpr hl0⟩
    · exact ⟨task0, (AList.lookup_insert_ne heq).trans h0, hh0, hl0⟩
  locked_holder t' task'' h hl := by
    rcases HashMap.lookup_insert_eq_some.mp h with ⟨rfl, rfl⟩ | ⟨-, h⟩
    · show s.established_conn_writelock.lookup task'.hash_key = _
      rw [hhash]
      exact hi.locked_holder t' task ht (hlocked.mp hl)
    · exact hi.locked_holder t' task'' h hl
  pooled := hi.pooled
  returned t' task'' c h hc := by
    rcases HashMap.lookup_insert_eq_some.mp h with ⟨-, rfl⟩ | ⟨-, h⟩
    · exact absurd hc (hdone c)
    · exact hi.returned t' task'' c h hc
  fresh := hi.fresh

/-- A call that is not under its key's lock takes it while it is free, and
    goes under it: `lock().await` returning, or `try_lock` winning. -/
theorem take (hi : Inv hash s) (ht : s.tasks.lookup t = some task) (hnl : ¬task.phase.Locked)
    (hfree : s.established_conn_writelock.lookup task.hash_key = some (some ⟨none⟩))
    {p : Phase} (hp : p.Locked) {s' : PoolState K}
    (htasks : s'.tasks = s.tasks.insert t { task with phase := p })
    (hlock : s'.established_conn_writelock =
      s.established_conn_writelock.insert task.hash_key (some ⟨some t⟩))
    (hpool : s'.connected_pool = s.connected_pool) (hconns : s'.conns = s.conns)
    (hnext : s'.next_conn = s.next_conn) : Inv hash s' where
  hashed t' task' h := by
    rw [htasks] at h
    rcases HashMap.lookup_insert_eq_some.mp h with ⟨-, rfl⟩ | ⟨-, h⟩
    · exact hi.hashed t task ht
    · exact hi.hashed t' task' h
  lock_some h := by
    rw [hlock, HashMap.lookup_insert_eq]
    split
    · simp
    · exact hi.lock_some h
  at_lock t' task' h hat := by
    rw [htasks] at h
    rw [hlock]
    rcases HashMap.lookup_insert_eq_some.mp h with ⟨-, rfl⟩ | ⟨-, h⟩
    · exact lookup_insert_lock _ (.inl rfl)
    · exact lookup_insert_lock _ (.inr (hi.at_lock t' task' h hat))
  holder_locked h t' hl := by
    rw [hlock] at hl
    rw [htasks]
    rcases HashMap.lookup_insert_eq_some.mp hl with ⟨rfl, hv⟩ | ⟨-, hl⟩
    · -- the lock just taken is held by `t`
      obtain rfl : t' = t := by simpa using hv
      exact ⟨{ task with phase := p }, by simp, rfl, hp⟩
    · obtain ⟨task0, h0, hh0, hl0⟩ := hi.holder_locked h t' hl
      -- `t` held no lock before
      have hne : t' ≠ t := by
        rintro rfl
        obtain rfl : task0 = task := Option.some.inj (h0.symm.trans ht)
        exact hnl hl0
      exact ⟨task0, (AList.lookup_insert_ne hne).trans h0, hh0, hl0⟩
  locked_holder t' task' h hl := by
    rw [htasks] at h
    rw [hlock]
    rcases HashMap.lookup_insert_eq_some.mp h with ⟨rfl, rfl⟩ | ⟨hne, h⟩
    · simp
    · -- another call under its lock holds a lock of another hash, since `t`'s was free
      have hold := hi.locked_holder t' task' h hl
      have hh : task'.hash_key ≠ task.hash_key := by
        intro heq
        rw [heq, hfree] at hold
        simp at hold
      rw [AList.lookup_insert_ne hh]
      exact hold
  pooled e he := by
    rw [hpool] at he
    rw [hconns]
    exact hi.pooled e he
  returned t' task' c h hc := by
    rw [htasks] at h
    rw [hconns]
    rcases HashMap.lookup_insert_eq_some.mp h with ⟨-, rfl⟩ | ⟨-, h⟩
    · obtain rfl : p = .done (.ok c) := hc
      exact hp.elim
    · exact hi.returned t' task' c h hc
  fresh c hc := by
    rw [hconns] at hc
    rw [hnext]
    exact hi.fresh c hc

/-- A free lock put at a key the map did not have (`try_insert` winning). -/
theorem addLock (hi : Inv hash s) {h : Nat} (hvac : s.established_conn_writelock.lookup h = none) :
    Inv hash { s with
      established_conn_writelock := s.established_conn_writelock.insert h (some ⟨none⟩) } where
  hashed := hi.hashed
  lock_some h' := by
    rw [HashMap.lookup_insert_eq]
    split
    · simp
    · exact hi.lock_some h'
  at_lock t' task' h' hat := lookup_insert_lock _ (.inr (hi.at_lock t' task' h' hat))
  holder_locked h' t' hl := by
    rcases HashMap.lookup_insert_eq_some.mp hl with ⟨-, hv⟩ | ⟨-, hl⟩
    · simp at hv
    · exact hi.holder_locked h' t' hl
  locked_holder t' task' h' hl := by
    have hold := hi.locked_holder t' task' h' hl
    -- a held lock is at a key the map had
    have hne : task'.hash_key ≠ h := by
      intro heq
      rw [heq] at hold
      rw [hvac] at hold
      cases hold
    exact (AList.lookup_insert_ne hne).trans hold
  pooled := hi.pooled
  returned := hi.returned
  fresh := hi.fresh

/-- A call under its lock returns, releasing it. -/
theorem finish (hi : Inv hash s) (ht : s.tasks.lookup t = some task) (hl : task.phase.Locked)
    {r : Except ConnectError Nat}
    (hr : ∀ c, r = .ok c → ∃ conn, s.conns.lookup c = some conn ∧ conn.wl_key = task.key) :
    Inv hash ((s.release task).setPhase t task (.done r)) where
  hashed t' task' h := by
    rcases HashMap.lookup_insert_eq_some.mp h with ⟨-, rfl⟩ | ⟨-, h⟩
    · exact hi.hashed t task ht
    · exact hi.hashed t' task' h
  lock_some h := by
    simp only [PoolState.setPhase_established_conn_writelock,
      PoolState.release_established_conn_writelock, HashMap.lookup_insert_eq]
    split
    · simp
    · exact hi.lock_some h
  at_lock t' task' h hat := by
    rcases HashMap.lookup_insert_eq_some.mp h with ⟨-, rfl⟩ | ⟨-, h⟩
    · exact hat.elim
    · exact lookup_insert_lock _ (.inr (hi.at_lock t' task' h hat))
  holder_locked h t' hl := by
    rcases HashMap.lookup_insert_eq_some.mp hl with ⟨-, hv⟩ | ⟨hne, hl⟩
    · simp at hv
    · obtain ⟨task0, h0, hh0, hl0⟩ := hi.holder_locked h t' hl
      -- the lock of `t` is the one released
      have hne' : t' ≠ t := by
        rintro rfl
        obtain rfl : task0 = task := Option.some.inj (h0.symm.trans ht)
        exact hne hh0.symm
      exact ⟨task0, (AList.lookup_insert_ne hne').trans h0, hh0, hl0⟩
  locked_holder t' task' h hl' := by
    rcases HashMap.lookup_insert_eq_some.mp h with ⟨-, rfl⟩ | ⟨hne, h⟩
    · exact hl'.elim
    · -- another call under its lock holds a lock of another hash than `t`'s
      have hold := hi.locked_holder t' task' h hl'
      have hh : task'.hash_key ≠ task.hash_key := by
        intro heq
        have hmine := hi.locked_holder t task ht hl
        rw [← heq, hold] at hmine
        simp only [Option.some.injEq, KeyLock.mk.injEq] at hmine
        exact hne hmine
      exact (AList.lookup_insert_ne hh).trans hold
  pooled := hi.pooled
  returned t' task' c h hc := by
    rcases HashMap.lookup_insert_eq_some.mp h with ⟨-, rfl⟩ | ⟨-, h⟩
    · exact hr c (Phase.done.inj hc)
    · exact hi.returned t' task' c h hc
  fresh := hi.fresh

/-- A connection checked in is filed under its key's hash. -/
theorem maybe_checkin_conn (hi : Inv hash s) {c : Nat} {conn : Conn K} {k : ConnectionMeta}
    (hc : s.conns.lookup c = some conn) (hk : hash conn.wl_key = k.key) :
    Inv hash (s.maybe_checkin_conn c k) where
  hashed := by simpa using hi.hashed
  lock_some := by simpa using hi.lock_some
  at_lock := by simpa using hi.at_lock
  holder_locked := by simpa using hi.holder_locked
  locked_holder := by simpa using hi.locked_holder
  pooled e he := by
    rw [PoolState.maybe_checkin_conn_conns]
    rcases s.mem_maybe_checkin_conn he with he | rfl
    · exact hi.pooled e he
    · exact ⟨conn, hc, hk⟩
  returned := by simpa using hi.returned
  fresh := by simpa using hi.fresh

/-- A call under its lock returns a connection for its key. -/
theorem returnConn (hi : Inv hash s) (ht : s.tasks.lookup t = some task) (hl : task.phase.Locked)
    {c : Nat} {conn : Conn K} (hc : s.conns.lookup c = some conn) (hkey : conn.wl_key = task.key) :
    Inv hash (s.returnConn t task c) := by
  have hin : Inv hash (s.maybe_checkin_conn c task.pool_key) :=
    hi.maybe_checkin_conn hc (by rw [hkey, ← hi.hashed t task ht]; rfl)
  refine hin.finish (by rw [PoolState.maybe_checkin_conn_tasks]; exact ht) hl ?_
  intro c' hc'
  cases hc'
  rw [PoolState.maybe_checkin_conn_conns]
  exact ⟨conn, hc, hkey⟩

/-- A connection opened is numbered with the next number. -/
theorem newConn (hi : Inv hash s) (conn : Conn K) :
    Inv hash { s with conns := s.conns.insert s.next_conn conn, next_conn := s.next_conn + 1 } where
  hashed := hi.hashed
  lock_some := hi.lock_some
  at_lock := hi.at_lock
  holder_locked := hi.holder_locked
  locked_holder := hi.locked_holder
  pooled e he := by
    obtain ⟨conn0, h0, hk⟩ := hi.pooled e he
    exact ⟨conn0, (AList.lookup_insert_ne (hi.ne_next_conn h0)).trans h0, hk⟩
  returned t' task' c h hc := by
    obtain ⟨conn0, h0, hk⟩ := hi.returned t' task' c h hc
    exact ⟨conn0, (AList.lookup_insert_ne (hi.ne_next_conn h0)).trans h0, hk⟩
  fresh c hc := by
    show c < s.next_conn + 1
    by_cases heq : c = s.next_conn
    · omega
    · have hold : (s.conns.lookup c).isSome := by
        rwa [← AList.lookup_insert_ne heq]
      exact Nat.lt_succ_of_lt (hi.fresh c hold)

/-- Pingora drops a pooled entry. -/
theorem erase (hi : Inv hash s) (e : Entry) :
    Inv hash { s with connected_pool := s.connected_pool.erase e } where
  hashed := hi.hashed
  lock_some := hi.lock_some
  at_lock := hi.at_lock
  holder_locked := hi.holder_locked
  locked_holder := hi.locked_holder
  pooled e' he := hi.pooled e' (List.mem_of_mem_erase he)
  returned := hi.returned
  fresh := hi.fresh

/-- The shared state of a connection changes, its key kept. -/
theorem updateConn (hi : Inv hash s) {c : Nat} {f : Conn K → Conn K}
    (hf : ∀ conn, (f conn).wl_key = conn.wl_key) : Inv hash (s.updateConn c f) := by
  unfold PoolState.updateConn
  split
  · next conn hc =>
    -- every connection keeps its key
    have hkeep : ∀ c' conn0, s.conns.lookup c' = some conn0 →
        ∃ conn', (s.conns.insert c (f conn)).lookup c' = some conn' ∧ conn'.wl_key = conn0.wl_key := by
      intro c' conn0 h
      by_cases heq : c' = c
      · subst heq
        obtain rfl : conn0 = conn := Option.some.inj (h.symm.trans hc)
        exact ⟨f conn0, by simp, hf conn0⟩
      · exact ⟨conn0, (AList.lookup_insert_ne heq).trans h, rfl⟩
    refine ⟨hi.hashed, hi.lock_some, hi.at_lock, hi.holder_locked, hi.locked_holder, ?_, ?_, ?_⟩
    · intro e he
      obtain ⟨conn0, h0, hk⟩ := hi.pooled e he
      obtain ⟨conn', h', hk'⟩ := hkeep _ _ h0
      exact ⟨conn', h', hk'.symm ▸ hk⟩
    · intro t' task' c' h hc'
      obtain ⟨conn0, h0, hk⟩ := hi.returned t' task' c' h hc'
      obtain ⟨conn', h', hk'⟩ := hkeep _ _ h0
      exact ⟨conn', h', hk'.trans hk⟩
    · intro c' h
      rw [HashMap.isSome_lookup_insert_of_isSome (by rw [hc]; rfl)] at h
      exact hi.fresh c' h
  · exact hi

/-! ### One lemma per event -/

theorem connect (hi : Inv hash s) {key : K} {seen : Nat} (hfresh : s.tasks.lookup t = none) :
    Inv hash (s.connect hash t key seen) where
  hashed t' task' h := by
    rcases HashMap.lookup_insert_eq_some.mp h with ⟨-, rfl⟩ | ⟨-, h⟩
    · rfl
    · exact hi.hashed t' task' h
  lock_some := hi.lock_some
  at_lock t' task' h hat := by
    rcases HashMap.lookup_insert_eq_some.mp h with ⟨-, rfl⟩ | ⟨-, h⟩
    · exact hat.elim
    · exact hi.at_lock t' task' h hat
  holder_locked h t' hl := by
    obtain ⟨task', h0, hh, hl0⟩ := hi.holder_locked h t' hl
    -- the new call's number was free, so no lock names it
    have hne : t' ≠ t := by
      rintro rfl
      rw [hfresh] at h0
      cases h0
    exact ⟨task', (AList.lookup_insert_ne hne).trans h0, hh, hl0⟩
  locked_holder t' task' h hl := by
    rcases HashMap.lookup_insert_eq_some.mp h with ⟨-, rfl⟩ | ⟨-, h⟩
    · exact hl.elim
    · exact hi.locked_holder t' task' h hl
  pooled := hi.pooled
  returned t' task' c h hc := by
    rcases HashMap.lookup_insert_eq_some.mp h with ⟨-, rfl⟩ | ⟨-, h⟩
    · cases hc
    · exact hi.returned t' task' c h hc
  fresh := hi.fresh

theorem checkout (hi : Inv hash s) (ht : s.tasks.lookup t = some task) {r : Bool}
    (hp : task.phase = .checkout r) : Inv hash (s.checkout t task r) := by
  unfold PoolState.checkout
  split
  · -- a lock for the key is in the map: await it
    next l hl =>
    exact hi.setPhase ht task rfl rfl (by simp [hp, Phase.Locked]) (fun _ => ⟨l, hl⟩) (fun _ => nofun)
  · cases r
    · exact hi.setPhase ht task rfl rfl (by simp [hp, Phase.Locked]) nofun (fun _ => nofun)
    · exact hi.setPhase ht task rfl rfl (by simp [hp, Phase.Locked]) nofun (fun _ => nofun)

theorem acquire (hi : Inv hash s) (ht : s.tasks.lookup t = some task) {r : Bool}
    (hp : task.phase = .awaitLock r)
    (hfree : s.established_conn_writelock.lookup task.hash_key = some (some ⟨none⟩)) :
    Inv hash (s.acquire t task) :=
  hi.take ht (by simp [hp, Phase.Locked]) hfree (show Phase.getLoop.Locked from trivial) rfl rfl rfl
    rfl rfl

theorem get [DecidableEq K] (hi : Inv hash s) (ht : s.tasks.lookup t = some task) (hp : task.phase = .getLoop)
    (entry : Option Entry) : Inv hash (s.get t task entry) := by
  have hl : task.phase.Locked := by rw [hp]; trivial
  cases entry with
  | none => exact hi.setPhase ht task rfl rfl (by simp [hp, Phase.Locked]) nofun (fun _ => nofun)
  | some e =>
    have hi' := hi.erase e
    simp only [PoolState.get]
    split
    · exact hi'
    · next conn hc =>
      split
      · -- another key of the same hash: `enforce_key_integrity` refuses it
        exact hi'.finish ht hl (fun _ => nofun)
      · split
        · exact hi'
        · next hkey _ => exact hi'.returnConn ht hl hc (not_not.mp hkey)

theorem spawn (hi : Inv hash s) (ht : s.tasks.lookup t = some task) (hl : task.phase.Locked)
    (pool_max_streams_per_conn : Nat) (ok : Bool) (peer_max : Nat) :
    Inv hash (s.spawn pool_max_streams_per_conn t task ok peer_max) := by
  cases ok with
  | true =>
    let conn : Conn K := ⟨task.key, min pool_max_streams_per_conn peer_max, 0, true⟩
    have hc : (s.conns.insert s.next_conn conn).lookup s.next_conn = some conn := AList.lookup_insert _
    exact (hi.newConn conn).returnConn ht hl hc rfl
  | false => exact hi.finish ht hl (fun _ => nofun)

theorem insertLock (hi : Inv hash s) (ht : s.tasks.lookup t = some task)
    (hp : task.phase = .insertLock) : Inv hash (s.insertLock t task) := by
  cases hl : s.established_conn_writelock.lookup task.hash_key with
  | some l =>
    -- another call put the key's lock first
    rw [s.insertLock_of_lookup_some hl]
    refine hi.setPhase ht task rfl rfl (by simp [hp, Phase.Locked]) (fun _ => ?_) (fun _ => nofun)
    cases l with
    | none => exact absurd hl (hi.lock_some _)
    | some l => exact ⟨l, hl⟩
  | none =>
    rw [s.insertLock_of_lookup_none hl]
    exact (hi.addLock hl).setPhase ht task rfl rfl (by simp [hp, Phase.Locked])
      (fun _ => lookup_insert_lock _ (.inl rfl)) (fun _ => nofun)

theorem tryWin (hi : Inv hash s) (ht : s.tasks.lookup t = some task) (hp : task.phase = .tryWin)
    {s' : PoolState K} (hok : s.tryWin t task = .ok s') : Inv hash s' := by
  unfold PoolState.tryWin at hok
  split at hok
  · next lock hl =>
    rcases lock with ⟨_ | holder⟩
    · -- the lock is free: win it
      cases hok
      exact hi.take ht (by simp [hp, Phase.Locked]) hl (show Phase.spawnWin.Locked from trivial) rfl rfl
        rfl rfl rfl
    · -- lost: wait for the pool's notifier
      cases hok
      exact hi.setPhase ht task rfl rfl (by simp [hp, Phase.Locked]) nofun (fun _ => nofun)
  · cases hok

/-- Neither `unwrap` of `start_conn_if_win_writelock` fails: the call has made
    sure its key has a lock in the map. -/
theorem tryWin_ok (hi : Inv hash s) (ht : s.tasks.lookup t = some task) (hp : task.phase = .tryWin) :
    ∃ s', s.tryWin t task = .ok s' := by
  obtain ⟨l, hl⟩ := hi.at_lock t task ht (by rw [hp]; trivial)
  unfold PoolState.tryWin
  rw [hl]
  rcases l with ⟨_ | holder⟩
  · exact ⟨_, rfl⟩
  · exact ⟨_, rfl⟩

theorem notified (hi : Inv hash s) (ht : s.tasks.lookup t = some task)
    (hp : task.phase = .waitNotify) : Inv hash (s.notified t task) :=
  hi.setPhase ht { task with seen := s.version } rfl rfl (by simp [hp, Phase.Locked]) nofun
    (fun _ => nofun)

theorem step [DecidableEq K] (hi : Inv hash s) {m : Nat} {e : Event K} (he : s.Enabled e) {s' : PoolState K}
    (hok : s.step hash m e = .ok s') : Inv hash s' := by
  cases e with
  | connect t key seen =>
    cases hok
    exact hi.connect he.1
  | checkout t =>
    obtain ⟨task, ht, r, hp⟩ := he
    simp only [PoolState.step, ht, PoolState.taskStep, hp] at hok
    cases hok
    exact hi.checkout ht hp
  | acquire t =>
    obtain ⟨task, r, ht, hp, hfree⟩ := he
    simp only [PoolState.step, ht, PoolState.taskStep] at hok
    cases hok
    exact hi.acquire ht hp hfree
  | get t entry =>
    obtain ⟨task, ht, hp, -⟩ := he
    simp only [PoolState.step, ht, PoolState.taskStep] at hok
    cases hok
    exact hi.get ht hp entry
  | spawn t ok peer_max =>
    obtain ⟨task, ht, hp⟩ := he
    simp only [PoolState.step, ht, PoolState.taskStep] at hok
    cases hok
    exact hi.spawn ht (by rcases hp with hp | hp <;> simp [hp, Phase.Locked]) m ok peer_max
  | insertLock t =>
    obtain ⟨task, ht, hp⟩ := he
    simp only [PoolState.step, ht, PoolState.taskStep] at hok
    cases hok
    exact hi.insertLock ht hp
  | tryWin t =>
    obtain ⟨task, ht, hp⟩ := he
    simp only [PoolState.step, ht, PoolState.taskStep] at hok
    exact hi.tryWin ht hp hok
  | notified t =>
    obtain ⟨task, ht, hp, -⟩ := he
    simp only [PoolState.step, ht, PoolState.taskStep] at hok
    cases hok
    exact hi.notified ht hp
  | evict entry =>
    cases hok
    exact hi.erase entry
  | stream_open c =>
    cases hok
    exact hi.updateConn fun _ => rfl
  | stream_close c =>
    cases hok
    exact hi.updateConn fun _ => rfl
  | go_away c =>
    cases hok
    exact hi.updateConn fun _ => rfl

/-- Under the invariant every enabled event steps. -/
theorem step_ok [DecidableEq K] (hi : Inv hash s) {m : Nat} {e : Event K} (he : s.Enabled e) :
    ∃ s', s.step hash m e = .ok s' := by
  cases h : s.step hash m e with
  | ok s' => exact ⟨s', rfl⟩
  | error msg =>
    -- only `tryWin` fails, and not with its key's lock in the map
    obtain ⟨t, task, rfl, ht, herr⟩ := s.step_eq_error h
    obtain ⟨task', ht', hp⟩ := he
    obtain rfl : task' = task := Option.some.inj (ht'.symm.trans ht)
    obtain ⟨s', hok⟩ := hi.tryWin_ok ht hp
    rw [hok] at herr
    cases herr

end Inv

theorem inv_reachable [DecidableEq K] {m : Nat} {s : PoolState K} (hs : (machine hash m).Reachable s) :
    Inv hash s :=
  Machine.Reachable.inv (Inv hash) inv_init (fun _ _ _ hi he hok => hi.step he hok) hs

/-! ### What `connect` guarantees -/

section Guarantees

variable [DecidableEq K] {m : Nat} {s : PoolState K}

/-- The key's hash stand-in of the runs below, under which keys 1 and 3
    collide. -/
def parityHash (k : Nat) : Nat := k % 2

/-- The first call, for key 1, in each of its phases. -/
def firstCall (phase : Phase) : Task Nat := ⟨1, 1, 0, 0, phase⟩

/-- The first call found no lock for its key and has put one in the map. -/
def lockPut : PoolState Nat :=
  ((PoolState.init.connect parityHash 0 1 0).checkout 0 (firstCall (.checkout false)) false).insertLock
    0 (firstCall .insertLock)

/-- It won the lock, spawned connection 0 and checked it in. -/
def spawnedRun : PoolState Nat :=
  ({ lockPut.setPhase 0 (firstCall .tryWin) .spawnWin with
      established_conn_writelock := lockPut.established_conn_writelock.insert 1 (some ⟨some 0⟩) }).spawn
    2 0 (firstCall .spawnWin) true 4

theorem spawnedRun_reachable : (machine parityHash 2).Reachable spawnedRun :=
  .step (.spawn 0 true 4)
    (.step (.tryWin 0)
      (.step (.insertLock 0)
        (.step (.checkout 0)
          (.step (.connect 0 1 0) .init ⟨rfl, le_refl 0⟩ rfl)
          ⟨firstCall (.checkout false), rfl, false, rfl⟩ rfl)
        ⟨firstCall .insertLock, rfl, rfl⟩ rfl)
      ⟨firstCall .tryWin, rfl, rfl⟩ rfl)
    ⟨firstCall .spawnWin, rfl, .inr rfl⟩ rfl

/-- `connect` never returns a connection of another key, whatever its key's
    hash collides with. -/
theorem connect_key_integrity (hs : (machine hash m).Reachable s) {t c : Nat} {task : Task K}
    (ht : s.tasks.lookup t = some task) (hc : task.phase = .done (.ok c)) :
    ∃ conn, s.conns.lookup c = some conn ∧ conn.wl_key = task.key :=
  (inv_reachable hs).returned t task c ht hc

theorem connect_key_integrity_spawnedRun :
    spawnedRun.tasks.lookup 0 = some (firstCall (.done (.ok 0))) ∧
      ∃ conn, spawnedRun.conns.lookup 0 = some conn ∧ conn.wl_key = 1 :=
  ⟨rfl, connect_key_integrity spawnedRun_reachable
    (show spawnedRun.tasks.lookup 0 = some (firstCall (.done (.ok 0))) from rfl) rfl⟩

/-- Every pooled entry is a connection whose key hashes to the entry's
    group: what `guarded_get` pops for a hash is a connection of a key of
    that hash. -/
theorem pooled_hashed (hs : (machine hash m).Reachable s) {e : Entry} (he : e ∈ s.connected_pool) :
    ∃ conn, s.conns.lookup e.conn = some conn ∧ hash conn.wl_key = e.pool_key.key :=
  (inv_reachable hs).pooled e he

theorem pooled_hashed_spawnedRun :
    ⟨⟨1, 0⟩, 0⟩ ∈ spawnedRun.connected_pool ∧
      ∃ conn, spawnedRun.conns.lookup 0 = some conn ∧ parityHash conn.wl_key = 1 :=
  ⟨List.mem_singleton_self _, pooled_hashed spawnedRun_reachable
    (show ⟨⟨1, 0⟩, 0⟩ ∈ spawnedRun.connected_pool from List.mem_singleton_self _)⟩

/-- The second call, for key 3, which collides with key 1. -/
def secondCall (phase : Phase) : Task Nat := ⟨3, 1, 1, 1, phase⟩

/-- It found the lock of the hash and took it. -/
def secondLocked : PoolState Nat :=
  ((spawnedRun.connect parityHash 1 3 1).checkout 1 (secondCall (.checkout false)) false).acquire
    1 (secondCall (.awaitLock false))

theorem secondLocked_reachable : (machine parityHash 2).Reachable secondLocked :=
  .step (.acquire 1)
    (.step (.checkout 1)
      (.step (.connect 1 3 1) spawnedRun_reachable ⟨rfl, le_refl 1⟩ rfl)
      ⟨secondCall (.checkout false), rfl, false, rfl⟩ rfl)
    ⟨secondCall (.awaitLock false), false, rfl, rfl, rfl⟩ rfl

/-- Two calls whose keys hash alike are never under the lock at once, so at
    most one of them opens a connection: the backpressure of
    `start_conn_if_win_writelock`. -/
theorem lock_exclusive (hs : (machine hash m).Reachable s) {t t' : Nat} {task task' : Task K}
    (ht : s.tasks.lookup t = some task) (ht' : s.tasks.lookup t' = some task')
    (hkey : hash task.key = hash task'.key) (hl : task.phase.Locked) (hl' : task'.phase.Locked) :
    t = t' := by
  have hi := inv_reachable hs
  -- both hold the lock of the one hash
  have hh : task.hash_key = task'.hash_key := by
    rw [hi.hashed t task ht, hi.hashed t' task' ht', hkey]
  have hlock := hi.locked_holder t task ht hl
  rw [hh, hi.locked_holder t' task' ht' hl'] at hlock
  simpa using hlock.symm

theorem lock_exclusive_secondLocked :
    secondLocked.tasks.lookup 1 = some (secondCall .getLoop) ∧ (1 : Nat) = 1 :=
  ⟨rfl, lock_exclusive secondLocked_reachable
    (show secondLocked.tasks.lookup 1 = some (secondCall .getLoop) from rfl)
    (show secondLocked.tasks.lookup 1 = some (secondCall .getLoop) from rfl) rfl trivial trivial⟩

/-- A third call, for key 5, which collides with keys 1 and 3. -/
def thirdCall (phase : Phase) : Task Nat := ⟨5, 1, 2, 1, phase⟩

/-- It found the lock of the hash held by the second call, and waits. -/
def contended : PoolState Nat :=
  (secondLocked.connect parityHash 2 5 1).checkout 2 (thirdCall (.checkout false)) false

theorem contended_reachable : (machine parityHash 2).Reachable contended :=
  .step (.checkout 2) (.step (.connect 2 5 1) secondLocked_reachable ⟨rfl, le_refl 1⟩ rfl)
    ⟨thirdCall (.checkout false), rfl, false, rfl⟩ rfl

/-- Contention: of two calls whose keys collide, the second holds the lock
    and the third waits for it, with its `acquire` disabled until the lock
    is released. -/
example :
    (machine parityHash 2).Reachable contended ∧ parityHash 3 = parityHash 5 ∧
      contended.tasks.lookup 1 = some (secondCall .getLoop) ∧
      contended.tasks.lookup 2 = some (thirdCall (.awaitLock false)) ∧
      ¬contended.Enabled (.acquire 2) := by
  have hheld : contended.established_conn_writelock.lookup 1 = some (some ⟨some 1⟩) := rfl
  refine ⟨contended_reachable, rfl, rfl, rfl, ?_⟩
  rintro ⟨task, r, ht, -, hl⟩
  obtain rfl : task = thirdCall (.awaitLock false) := Option.some.inj ht.symm
  change contended.established_conn_writelock.lookup 1 = _ at hl
  rw [hheld] at hl
  cases hl

/-- No enabled event panics: the two `unwrap`s of
    `start_conn_if_win_writelock` always find the key's lock. -/
theorem connect_never_panics : (machine hash m).NeverPanics :=
  Machine.neverPanics_of_inv (fun _ hs => inv_reachable hs) fun _ _ hi he => hi.step_ok he

end Guarantees

end Pool

end Ztunnel
