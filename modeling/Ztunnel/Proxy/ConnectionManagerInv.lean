/-
  Ztunnel.Proxy.ConnectionManagerInv

  What every run of the inbound connections and the policy watcher keeps,
  when connections arrive as `Arrival` assumes.

  `Tracking` is the bookkeeping of the drains: every entry is filed under
  its connection's key with a drain of its own that is not signaled, and its
  count is the number of tasks holding the drain's watcher; a task whose
  drain is not signaled is registered as its own connection, and a task
  whose drain is signaled leaves its key unregistered.  `Inv` adds what the
  watcher is for: a connection that carries traffic is allowed by the
  current policies, or the watcher has still to check it.

  Registering before the check is what makes the second hold: a connection
  that passed its check before a policy update is registered when the
  watcher lists the connections after it.  `Arrival` is what the first
  needs.  The watcher checks a key's connection as it was first inserted, so
  a second connection under the key must share its context; and a task
  whose drain was signaled releases whatever entry its key has by then, so a
  connection that arrives under the key while the drain is under way can
  lose its entry to it.
-/

import Ztunnel.Proxy.ConnectionManager

namespace Ztunnel

namespace PolicyWatcher

open HashMap

/-! ## The holders of a drain -/

section Holders

variable {tasks : HashMap Nat Task} {t : Nat} {task : Task}

theorem holders_insert_of_lookup_none (h : tasks.lookup t = none) (task' : Task) (κ : InboundKey)
    (k : Nat) :
    holders (tasks.insert t task') κ k =
      holders tasks κ k + if task'.conn.key = κ ∧ task'.chan = k then 1 else 0 := by
  unfold holders
  rw [countP_insert tasks t task' fun _ task => task.conn.key == κ && task.chan == k,
    countP_erase_of_lookup_none tasks h fun _ task => task.conn.key == κ && task.chan == k]
  simp

theorem holders_insert_of_lookup (h : tasks.lookup t = some task) (task' : Task) (κ : InboundKey)
    (k : Nat) :
    holders (tasks.insert t task') κ k + (if task.conn.key = κ ∧ task.chan = k then 1 else 0) =
      holders tasks κ k + if task'.conn.key = κ ∧ task'.chan = k then 1 else 0 := by
  have he := countP_erase_of_lookup tasks h fun _ task => task.conn.key == κ && task.chan == k
  unfold holders
  rw [countP_insert tasks t task' fun _ task => task.conn.key == κ && task.chan == k]
  simp only [Bool.and_eq_true, beq_iff_eq] at he ⊢
  omega

theorem holders_erase_of_lookup (h : tasks.lookup t = some task) (κ : InboundKey) (k : Nat) :
    holders (tasks.erase t) κ k + (if task.conn.key = κ ∧ task.chan = k then 1 else 0) =
      holders tasks κ k := by
  have he := countP_erase_of_lookup tasks h fun _ task => task.conn.key == κ && task.chan == k
  simp only [Bool.and_eq_true, beq_iff_eq] at he
  exact he

/-- A task counts among the holders of its own drain. -/
theorem holders_pos (h : tasks.lookup t = some task) : 0 < holders tasks task.conn.key task.chan := by
  unfold holders
  rw [List.countP_pos_iff]
  exact ⟨⟨t, task⟩, AList.mem_lookup_iff.mp h, by simp⟩

theorem exists_of_holders_pos {κ : InboundKey} {k : Nat} (h : 0 < holders tasks κ k) :
    ∃ t task, tasks.lookup t = some task ∧ task.conn.key = κ ∧ task.chan = k := by
  unfold holders at h
  obtain ⟨⟨t, task⟩, hmem, hp⟩ := List.countP_pos_iff.mp h
  simp only [Bool.and_eq_true, beq_iff_eq] at hp
  exact ⟨t, task, AList.mem_lookup_iff.mpr hmem, hp⟩

theorem holders_eq_zero {κ : InboundKey} {k : Nat}
    (h : ∀ t task, tasks.lookup t = some task → task.chan ≠ k) : holders tasks κ k = 0 := by
  unfold holders
  rw [List.countP_eq_zero]
  rintro ⟨t, task⟩ hmem
  simp [h t task (AList.mem_lookup_iff.mpr hmem)]

end Holders

/-! ## The bookkeeping of the drains -/

/-- What a run keeps of the drains, the signaled channels and the tasks. -/
structure Tracking (cm : ConnectionManager) (signaled : Finset Nat) (tasks : HashMap Nat Task) :
    Prop where
  /-- every channel in use was made before `next_chan` -/
  task_chan_lt : ∀ t task, tasks.lookup t = some task → task.chan < cm.next_chan
  entry_chan_lt : ∀ κ c d, cm.drains.lookup κ = some (c, d) → d.chan < cm.next_chan
  signaled_lt : ∀ k ∈ signaled, k < cm.next_chan
  /-- an entry is filed under its connection's key, with a drain of its own
      that is not signaled -/
  entry_key : ∀ κ c d, cm.drains.lookup κ = some (c, d) → c.key = κ
  entry_inj : ∀ κ κ' c c' d d', cm.drains.lookup κ = some (c, d) →
    cm.drains.lookup κ' = some (c', d') → d.chan = d'.chan → κ = κ'
  entry_live : ∀ κ c d, cm.drains.lookup κ = some (c, d) → d.chan ∉ signaled
  /-- the count is the number of tasks that hold the drain's watcher -/
  entry_count : ∀ κ c d, cm.drains.lookup κ = some (c, d) →
    d.count = holders tasks κ d.chan ∧ 0 < d.count
  /-- a task whose drain is not signaled is registered, as its own connection -/
  tracked : ∀ t task, tasks.lookup t = some task → task.chan ∉ signaled →
    ∃ d, cm.drains.lookup task.conn.key = some (task.conn, d) ∧ d.chan = task.chan
  /-- a task whose drain is signaled leaves its key unregistered -/
  untracked : ∀ t task, tasks.lookup t = some task → task.chan ∈ signaled →
    cm.drains.lookup task.conn.key = none

variable {cm : ConnectionManager} {signaled : Finset Nat} {tasks : HashMap Nat Task}
  {t : Nat} {task : Task}

theorem tracking_default : Tracking ConnectionManager.default ∅ ∅ where
  task_chan_lt := by simp
  entry_chan_lt := by simp [ConnectionManager.default]
  signaled_lt := by simp
  entry_key := by simp [ConnectionManager.default]
  entry_inj := by simp [ConnectionManager.default]
  entry_live := by simp
  entry_count := by simp [ConnectionManager.default]
  tracked := by simp
  untracked := by simp

namespace Tracking

/-- A task changes its phase and keeps its connection and its channel. -/
theorem set_phase (hT : Tracking cm signaled tasks) (ht : tasks.lookup t = some task) (p : Phase) :
    Tracking cm signaled (tasks.insert t { task with phase := p }) := by
  have hlk : ∀ t' task', (tasks.insert t { task with phase := p }).lookup t' = some task' →
      ∃ task'', tasks.lookup t' = some task'' ∧ task'.conn = task''.conn ∧ task'.chan = task''.chan := by
    intro t' task' h'
    rcases lookup_insert_eq_some.mp h' with ⟨rfl, rfl⟩ | ⟨-, h'⟩
    · exact ⟨task, ht, rfl, rfl⟩
    · exact ⟨task', h', rfl, rfl⟩
  have hh : ∀ κ k, holders (tasks.insert t { task with phase := p }) κ k = holders tasks κ k := by
    intro κ k
    have := holders_insert_of_lookup ht { task with phase := p } κ k
    simp only at this
    omega
  refine { hT with task_chan_lt := ?_, entry_count := ?_, tracked := ?_, untracked := ?_ }
  · intro t' task' h'
    obtain ⟨task'', h'', -, hk⟩ := hlk t' task' h'
    rw [hk]
    exact hT.task_chan_lt t' task'' h''
  · intro κ c d h
    rw [hh]
    exact hT.entry_count κ c d h
  · intro t' task' h' hs
    obtain ⟨task'', h'', hc, hk⟩ := hlk t' task' h'
    rw [hc, hk]
    exact hT.tracked t' task'' h'' (hk ▸ hs)
  · intro t' task' h' hs
    obtain ⟨task'', h'', hc, hk⟩ := hlk t' task' h'
    rw [hc]
    exact hT.untracked t' task'' h'' (hk ▸ hs)

/-- A task whose drain is signaled goes: it holds the watcher of no entry. -/
theorem erase_signaled (hT : Tracking cm signaled tasks) (ht : tasks.lookup t = some task)
    (hk : task.chan ∈ signaled) : Tracking cm signaled (tasks.erase t) := by
  have hlk : ∀ t' task', (tasks.erase t).lookup t' = some task' → tasks.lookup t' = some task' :=
    fun _ _ h' => (lookup_erase_eq_some.mp h').2
  refine { hT with task_chan_lt := ?_, entry_count := ?_, tracked := ?_, untracked := ?_ }
  · exact fun t' task' h' => hT.task_chan_lt t' task' (hlk t' task' h')
  · intro κ c d h
    have hne : task.chan ≠ d.chan := fun he => hT.entry_live κ c d h (he ▸ hk)
    have := holders_erase_of_lookup ht κ d.chan
    simp only [hne, and_false, if_false, Nat.add_zero] at this
    rw [this]
    exact hT.entry_count κ c d h
  · exact fun t' task' h' => hT.tracked t' task' (hlk t' task' h')
  · exact fun t' task' h' => hT.untracked t' task' (hlk t' task' h')

/-- The drains after the last task of a key but one releases it: the count
    drops, and the entry goes with the last. -/
theorem lookup_release {d : ConnectionDrain} (h : cm.drains.lookup task.conn.key = some (task.conn, d))
    {κ : InboundKey} {c : InboundConnection} {d' : ConnectionDrain}
    (h' : (cm.release task.conn).drains.lookup κ = some (c, d')) :
    (κ = task.conn.key ∧ 1 < d.count ∧ c = task.conn ∧ d' = { d with count := d.count - 1 }) ∨
      (κ ≠ task.conn.key ∧ cm.drains.lookup κ = some (c, d')) := by
  rw [cm.drains_release task.conn h rfl] at h'
  by_cases hκ : κ = task.conn.key
  · rw [if_pos hκ] at h'
    split at h'
    · simp only [Option.some.injEq, Prod.mk.injEq] at h'
      exact .inl ⟨hκ, by omega, h'.1.symm, h'.2.symm⟩
    · cases h'
  · rw [if_neg hκ] at h'
    exact .inr ⟨hκ, h'⟩

/-- A task ends and releases its registration. -/
theorem finish (hT : Tracking cm signaled tasks) (ht : tasks.lookup t = some task) :
    Tracking (cm.release task.conn) signaled (tasks.erase t) := by
  by_cases hk : task.chan ∈ signaled
  · -- a drained key has no entry left to release
    rw [cm.release_of_lookup_none task.conn (hT.untracked t task ht hk)]
    exact hT.erase_signaled ht hk
  obtain ⟨d, hd, hdc⟩ := hT.tracked t task ht hk
  have hlk : ∀ t' task', (tasks.erase t).lookup t' = some task' → t' ≠ t ∧ tasks.lookup t' = some task' :=
    fun _ _ h' => lookup_erase_eq_some.mp h'
  have hh := holders_erase_of_lookup ht
  have hcount := hT.entry_count _ _ _ hd
  refine ⟨?_, ?_, ?_, ?_, ?_, ?_, ?_, ?_, ?_⟩
  · intro t' task' h'
    rw [ConnectionManager.release_next_chan]
    exact hT.task_chan_lt t' task' (hlk t' task' h').2
  · intro κ c d' h'
    rw [ConnectionManager.release_next_chan]
    rcases lookup_release hd h' with ⟨rfl, -, -, rfl⟩ | ⟨-, h'⟩
    · exact hT.entry_chan_lt _ _ d hd
    · exact hT.entry_chan_lt _ _ _ h'
  · intro k hk'
    rw [ConnectionManager.release_next_chan]
    exact hT.signaled_lt k hk'
  · intro κ c d' h'
    rcases lookup_release hd h' with ⟨rfl, -, rfl, -⟩ | ⟨-, h'⟩
    · rfl
    · exact hT.entry_key _ _ _ h'
  · intro κ κ' c c' d₁ d₂ h₁ h₂ he
    rcases lookup_release hd h₁ with ⟨rfl, -, -, rfl⟩ | ⟨hne₁, h₁⟩ <;>
      rcases lookup_release hd h₂ with ⟨rfl, -, -, rfl⟩ | ⟨hne₂, h₂⟩
    · rfl
    · exact hT.entry_inj _ _ _ _ _ _ hd h₂ he
    · exact hT.entry_inj _ _ _ _ _ _ h₁ hd he
    · exact hT.entry_inj _ _ _ _ _ _ h₁ h₂ he
  · intro κ c d' h'
    rcases lookup_release hd h' with ⟨rfl, -, -, rfl⟩ | ⟨-, h'⟩
    · exact hT.entry_live _ _ d hd
    · exact hT.entry_live _ _ _ h'
  · intro κ c d' h'
    rcases lookup_release hd h' with ⟨rfl, hgt, -, rfl⟩ | ⟨hne, h'⟩
    · -- the releasing task was one of the holders
      have := hh task.conn.key d.chan
      rw [if_pos ⟨rfl, hdc.symm⟩] at this
      refine ⟨?_, ?_⟩ <;> simp only <;> omega
    · have := hh κ d'.chan
      simp only [Ne.symm hne, false_and, if_false, Nat.add_zero] at this
      rw [this]
      exact hT.entry_count _ _ _ h'
  · intro t' task' h' hs
    obtain ⟨hne, h'⟩ := hlk t' task' h'
    obtain ⟨d'', hd'', hdc''⟩ := hT.tracked t' task' h' hs
    rw [cm.drains_release task.conn hd rfl]
    by_cases hκ : task'.conn.key = task.conn.key
    · -- another holder of the same drain: the entry stays, one less
      rw [hκ, hd] at hd''
      simp only [Option.some.injEq, Prod.mk.injEq] at hd''
      obtain ⟨hc, rfl⟩ := hd''
      have hpos : 0 < holders (tasks.erase t) task.conn.key d.chan := by
        have := holders_pos (lookup_erase_eq_some.mpr ⟨hne, h'⟩)
        rwa [hκ, ← hdc''] at this
      have := hh task.conn.key d.chan
      rw [if_pos ⟨rfl, hdc.symm⟩] at this
      have hgt : 1 < d.count := by omega
      refine ⟨{ d with count := d.count - 1 }, ?_, hdc''⟩
      rw [if_pos hκ, if_pos hgt, hc]
    · rw [if_neg hκ]
      exact ⟨d'', hd'', hdc''⟩
  · intro t' task' h' hs
    obtain ⟨-, h'⟩ := hlk t' task' h'
    have hnone := hT.untracked t' task' h' hs
    rw [cm.drains_release task.conn hd rfl]
    have hκ : task'.conn.key ≠ task.conn.key := by
      intro he
      rw [he, hd] at hnone
      cases hnone
    rw [if_neg hκ]
    exact hnone

/-- A connection arrives under a registered key, as the connection
    registered there: it shares the drain, which counts one more. -/
theorem accept_of_lookup_some (hT : Tracking cm signaled tasks) {c : InboundConnection}
    {cd : ConnectionDrain} (hl : cm.drains.lookup c.key = some (c, cd)) (hfresh : tasks.lookup t = none) :
    Tracking { cm with drains := cm.drains.insert c.key (c, { cd with count := cd.count + 1 }) } signaled
      (tasks.insert t ⟨c, cd.chan, .registered⟩) := by
  have hh := holders_insert_of_lookup_none hfresh ⟨c, cd.chan, .registered⟩
  -- an entry of the new map is the shared one, or an old one
  have hlk : ∀ κ c' d', (cm.drains.insert c.key (c, { cd with count := cd.count + 1 })).lookup κ =
      some (c', d') → (κ = c.key ∧ c' = c ∧ d' = { cd with count := cd.count + 1 }) ∨
        (κ ≠ c.key ∧ cm.drains.lookup κ = some (c', d')) := by
    intro κ c' d' h'
    rcases lookup_insert_eq_some.mp h' with ⟨rfl, he⟩ | ⟨hne, h'⟩
    · simp only [Prod.mk.injEq] at he
      exact .inl ⟨rfl, he.1, he.2⟩
    · exact .inr ⟨hne, h'⟩
  refine ⟨?_, ?_, hT.signaled_lt, ?_, ?_, ?_, ?_, ?_, ?_⟩
  · intro t' task' h'
    rcases lookup_insert_eq_some.mp h' with ⟨-, rfl⟩ | ⟨-, h'⟩
    · exact hT.entry_chan_lt _ _ _ hl
    · exact hT.task_chan_lt t' task' h'
  · intro κ c' d' h'
    rcases hlk κ c' d' h' with ⟨-, -, rfl⟩ | ⟨-, h'⟩
    · exact hT.entry_chan_lt _ _ cd hl
    · exact hT.entry_chan_lt _ _ _ h'
  · intro κ c' d' h'
    rcases hlk κ c' d' h' with ⟨rfl, rfl, -⟩ | ⟨-, h'⟩
    · rfl
    · exact hT.entry_key _ _ _ h'
  · intro κ κ' c₁ c₂ d₁ d₂ h₁ h₂ he
    rcases hlk _ _ _ h₁ with ⟨rfl, -, rfl⟩ | ⟨-, h₁⟩ <;>
      rcases hlk _ _ _ h₂ with ⟨rfl, -, rfl⟩ | ⟨-, h₂⟩
    · rfl
    · exact hT.entry_inj _ _ _ _ cd _ hl h₂ he
    · exact hT.entry_inj _ _ _ _ _ cd h₁ hl he
    · exact hT.entry_inj _ _ _ _ _ _ h₁ h₂ he
  · intro κ c' d' h'
    rcases hlk κ c' d' h' with ⟨-, -, rfl⟩ | ⟨-, h'⟩
    · exact hT.entry_live _ _ cd hl
    · exact hT.entry_live _ _ _ h'
  · intro κ c' d' h'
    rcases hlk κ c' d' h' with ⟨rfl, -, rfl⟩ | ⟨hne, h'⟩
    · -- the new task holds the shared drain
      have := hT.entry_count _ _ _ hl
      rw [hh, if_pos ⟨rfl, rfl⟩]
      exact ⟨by simp only; omega, by simp only; omega⟩
    · rw [hh, if_neg fun he => hne he.1.symm, Nat.add_zero]
      exact hT.entry_count _ _ _ h'
  · intro t' task' h' hs
    rcases lookup_insert_eq_some.mp h' with ⟨-, rfl⟩ | ⟨-, h'⟩
    · exact ⟨{ cd with count := cd.count + 1 }, by simp, rfl⟩
    · obtain ⟨d, hd, hdc⟩ := hT.tracked t' task' h' hs
      by_cases hκ : task'.conn.key = c.key
      · rw [hκ, hl] at hd
        simp only [Option.some.injEq, Prod.mk.injEq] at hd
        obtain ⟨hc, rfl⟩ := hd
        refine ⟨{ cd with count := cd.count + 1 }, ?_, hdc⟩
        rw [lookup_insert_eq, if_pos hκ, hc]
      · rw [lookup_insert_eq, if_neg hκ]
        exact ⟨d, hd, hdc⟩
  · intro t' task' h' hs
    rcases lookup_insert_eq_some.mp h' with ⟨-, rfl⟩ | ⟨-, h'⟩
    · exact absurd hs (hT.entry_live _ _ _ hl)
    · have hnone := hT.untracked t' task' h' hs
      have hκ : task'.conn.key ≠ c.key := by
        intro he
        rw [he, hl] at hnone
        cases hnone
      rw [lookup_insert_eq, if_neg hκ]
      exact hnone

/-- A connection arrives under a key with no entry, and no drain of its key
    is under way: a new drain is made for it. -/
theorem accept_of_lookup_none (hT : Tracking cm signaled tasks) {c : InboundConnection}
    (hl : cm.drains.lookup c.key = none) (hfresh : tasks.lookup t = none)
    (hstale : ∀ t task, tasks.lookup t = some task → task.conn.key = c.key → task.chan ∉ signaled) :
    Tracking { cm with drains := cm.drains.insert c.key (c, ConnectionDrain.new cm.next_chan),
                       next_chan := cm.next_chan + 1 } signaled
      (tasks.insert t ⟨c, cm.next_chan, .registered⟩) := by
  have hh := holders_insert_of_lookup_none hfresh ⟨c, cm.next_chan, .registered⟩
  have hlk : ∀ κ c' d', (cm.drains.insert c.key (c, ConnectionDrain.new cm.next_chan)).lookup κ =
      some (c', d') → (κ = c.key ∧ c' = c ∧ d' = ConnectionDrain.new cm.next_chan) ∨
        (κ ≠ c.key ∧ cm.drains.lookup κ = some (c', d')) := by
    intro κ c' d' h'
    rcases lookup_insert_eq_some.mp h' with ⟨rfl, he⟩ | ⟨hne, h'⟩
    · simp only [Prod.mk.injEq] at he
      exact .inl ⟨rfl, he.1, he.2⟩
    · exact .inr ⟨hne, h'⟩
  -- the new channel is in use nowhere yet
  have hfree : ∀ κ, holders tasks κ cm.next_chan = 0 :=
    fun κ => holders_eq_zero fun t' task' h' => (hT.task_chan_lt t' task' h').ne
  refine ⟨?_, ?_, ?_, ?_, ?_, ?_, ?_, ?_, ?_⟩
  · intro t' task' h'
    rcases lookup_insert_eq_some.mp h' with ⟨-, rfl⟩ | ⟨-, h'⟩
    · exact Nat.lt_succ_self _
    · exact Nat.lt_succ_of_lt (hT.task_chan_lt t' task' h')
  · intro κ c' d' h'
    rcases hlk κ c' d' h' with ⟨-, -, rfl⟩ | ⟨-, h'⟩
    · exact Nat.lt_succ_self _
    · exact Nat.lt_succ_of_lt (hT.entry_chan_lt _ _ _ h')
  · exact fun k hk => Nat.lt_succ_of_lt (hT.signaled_lt k hk)
  · intro κ c' d' h'
    rcases hlk κ c' d' h' with ⟨rfl, rfl, -⟩ | ⟨-, h'⟩
    · rfl
    · exact hT.entry_key _ _ _ h'
  · intro κ κ' c₁ c₂ d₁ d₂ h₁ h₂ he
    rcases hlk _ _ _ h₁ with ⟨rfl, -, rfl⟩ | ⟨-, h₁⟩ <;>
      rcases hlk _ _ _ h₂ with ⟨rfl, -, rfl⟩ | ⟨-, h₂⟩
    · rfl
    · exact absurd he (hT.entry_chan_lt _ _ _ h₂).ne'
    · exact absurd he (hT.entry_chan_lt _ _ _ h₁).ne
    · exact hT.entry_inj _ _ _ _ _ _ h₁ h₂ he
  · intro κ c' d' h'
    rcases hlk κ c' d' h' with ⟨-, -, rfl⟩ | ⟨-, h'⟩
    · exact fun hk => (hT.signaled_lt _ hk).ne rfl
    · exact hT.entry_live _ _ _ h'
  · intro κ c' d' h'
    rcases hlk κ c' d' h' with ⟨rfl, -, rfl⟩ | ⟨hne, h'⟩
    · rw [hh, if_pos ⟨rfl, rfl⟩]
      simp [ConnectionDrain.new, hfree]
    · rw [hh, if_neg fun he => hne he.1.symm, Nat.add_zero]
      exact hT.entry_count _ _ _ h'
  · intro t' task' h' hs
    rcases lookup_insert_eq_some.mp h' with ⟨-, rfl⟩ | ⟨-, h'⟩
    · exact ⟨ConnectionDrain.new cm.next_chan, by simp, rfl⟩
    · obtain ⟨d, hd, hdc⟩ := hT.tracked t' task' h' hs
      have hκ : task'.conn.key ≠ c.key := by
        intro he
        rw [he, hl] at hd
        cases hd
      rw [lookup_insert_eq, if_neg hκ]
      exact ⟨d, hd, hdc⟩
  · intro t' task' h' hs
    rcases lookup_insert_eq_some.mp h' with ⟨-, rfl⟩ | ⟨-, h'⟩
    · exact absurd (hT.signaled_lt _ hs) (Nat.lt_irrefl _)
    · have hκ : task'.conn.key ≠ c.key := fun he => hstale t' task' h' he hs
      rw [lookup_insert_eq, if_neg hκ]
      exact hT.untracked t' task' h' hs

/-- `close` removes an entry and signals its drain: the tasks that held it
    now hold a signaled drain, and their key has no entry. -/
theorem close (hT : Tracking cm signaled tasks) {c k : InboundConnection} {cd : ConnectionDrain}
    (hl : cm.drains.lookup c.key = some (k, cd)) :
    Tracking { cm with drains := cm.drains.erase c.key } (insert cd.chan signaled) tasks := by
  have hlk : ∀ κ c' d', (cm.drains.erase c.key).lookup κ = some (c', d') →
      κ ≠ c.key ∧ cm.drains.lookup κ = some (c', d') :=
    fun _ _ _ h' => lookup_erase_eq_some.mp h'
  refine ⟨hT.task_chan_lt, ?_, ?_, ?_, ?_, ?_, ?_, ?_, ?_⟩
  · exact fun κ c' d' h' => hT.entry_chan_lt _ _ _ (hlk κ c' d' h').2
  · intro k' hk'
    rcases Finset.mem_insert.mp hk' with rfl | hk'
    · exact hT.entry_chan_lt _ _ _ hl
    · exact hT.signaled_lt k' hk'
  · exact fun κ c' d' h' => hT.entry_key _ _ _ (hlk κ c' d' h').2
  · intro κ κ' c₁ c₂ d₁ d₂ h₁ h₂ he
    exact hT.entry_inj _ _ _ _ _ _ (hlk _ _ _ h₁).2 (hlk _ _ _ h₂).2 he
  · intro κ c' d' h'
    obtain ⟨hne, h'⟩ := hlk κ c' d' h'
    rw [Finset.mem_insert, not_or]
    exact ⟨fun he => hne (hT.entry_inj _ _ _ _ _ _ h' hl he), hT.entry_live _ _ _ h'⟩
  · exact fun κ c' d' h' => hT.entry_count _ _ _ (hlk κ c' d' h').2
  · intro t' task' h' hs
    rw [Finset.mem_insert, not_or] at hs
    obtain ⟨d, hd, hdc⟩ := hT.tracked t' task' h' hs.2
    have hκ : task'.conn.key ≠ c.key := by
      intro he
      rw [he, hl] at hd
      simp only [Option.some.injEq, Prod.mk.injEq] at hd
      exact hs.1 (hd.2 ▸ hdc).symm
    exact ⟨d, by rw [lookup_erase_eq, if_neg hκ]; exact hd, hdc⟩
  · intro t' task' h' hs
    rw [lookup_erase_eq]
    split
    · rfl
    · rcases Finset.mem_insert.mp hs with hk | hs
      · -- a holder of the closed drain: its key is the closed one
        obtain ⟨d, hd, hdc⟩ := hT.tracked t' task' h' (hk ▸ hT.entry_live _ _ _ hl)
        have := hT.entry_inj _ _ _ _ _ _ hd hl (hdc.trans hk)
        contradiction
      · exact hT.untracked t' task' h' hs

end Tracking

/-! ## What the watcher guarantees -/

section Guarantees

variable [IpNetContains]

/-- What every run keeps: the bookkeeping of the drains, and that a
    connection carrying traffic is allowed by the current policies or still
    to be checked by the watcher. -/
structure Inv (s : System) : Prop where
  tracking : Tracking s.cm s.signaled s.tasks
  seen_le : s.watcher.seen ≤ s.version
  revalidated : ∀ t task, s.tasks.lookup t = some task → task.phase.Serving →
    task.chan ∉ s.signaled → assert_rbac s.policies task.conn.ctx = .ok () ∨ Pending s task.conn

variable {s : System}

theorem inv_init (ps : PolicyStore) : Inv (System.init ps) where
  tracking := tracking_default
  seen_le := le_refl 0
  revalidated := by simp [System.init]

namespace Inv

/-- A step of the watcher's loop, which keeps the policies and the tasks:
    a connection it had still to check is still to check, or allowed. -/
theorem revalidated_loop (hi : Inv s) {s' : System} (hp : s'.policies = s.policies)
    (hv : s'.version = s.version) (hseen : s'.watcher.seen = s.watcher.seen) (ht : s'.tasks = s.tasks)
    (hsig : s.signaled ⊆ s'.signaled)
    (hloop : ∀ t task, s.tasks.lookup t = some task → task.chan ∉ s'.signaled →
      s.watcher.loop.ToCheck task.conn →
        s'.watcher.loop.ToCheck task.conn ∨ assert_rbac s.policies task.conn.ctx = .ok ()) :
    ∀ t task, s'.tasks.lookup t = some task → task.phase.Serving → task.chan ∉ s'.signaled →
      assert_rbac s'.policies task.conn.ctx = .ok () ∨ Pending s' task.conn := by
  intro t task h hserving hs
  rw [ht] at h
  rw [hp]
  rcases hi.revalidated t task h hserving (fun hk => hs (hsig hk)) with hok | hold | hcheck
  · exact .inl hok
  · exact .inr (.inl (hseen ▸ hv ▸ hold))
  · rcases hloop t task h hs hcheck with hcheck' | hok
    · exact .inr (.inr hcheck')
    · exact .inl hok

theorem update (hi : Inv s) (ops : List PolicyStore.Op) : Inv (s.update ops) where
  tracking := hi.tracking
  seen_le := Nat.le_succ_of_le hi.seen_le
  -- the watcher has not seen the new version
  revalidated := fun _ _ _ _ _ => .inr (.inl (Nat.lt_succ_of_le hi.seen_le))

/-- An arriving connection is registered and not yet checked. -/
theorem accept (hi : Inv s) {t : Nat} {c : InboundConnection} (hfresh : s.tasks.lookup t = none)
    (ha : Arrival s (.accept t c)) : Inv (s.accept t c) := by
  have hrev : ∀ k, ∀ t' task', (s.tasks.insert t ⟨c, k, .registered⟩).lookup t' = some task' →
      task'.phase.Serving → task'.chan ∉ s.signaled →
        assert_rbac s.policies task'.conn.ctx = .ok () ∨ Pending s task'.conn := by
    intro k t' task' h' hserving hs
    rcases lookup_insert_eq_some.mp h' with ⟨-, rfl⟩ | ⟨-, h'⟩
    · exact hserving.elim
    · exact hi.revalidated t' task' h' hserving hs
  cases hl : s.cm.drains.lookup c.key with
  | some e =>
    obtain ⟨c', cd⟩ := e
    obtain rfl := ha.1 c' cd hl
    rw [s.accept_of_lookup_some c' hl]
    exact ⟨hi.tracking.accept_of_lookup_some hl hfresh, hi.seen_le, hrev cd.chan⟩
  | none =>
    rw [s.accept_of_lookup_none c hl]
    exact ⟨hi.tracking.accept_of_lookup_none hl hfresh ha.2, hi.seen_le, hrev s.cm.next_chan⟩

/-- A connection serves only once the current policies allow it. -/
theorem authorize (hi : Inv s) {t : Nat} {task : Task} (ht : s.tasks.lookup t = some task) :
    Inv (s.authorize t) := by
  obtain ⟨p, heq, hp⟩ := s.authorize_eq ht
  rw [heq]
  refine ⟨hi.tracking.set_phase ht p, hi.seen_le, ?_⟩
  intro t' task' h' hserving hs
  rcases lookup_insert_eq_some.mp h' with ⟨-, rfl⟩ | ⟨-, h'⟩
  · exact .inl (hp hserving)
  · exact hi.revalidated t' task' h' hserving hs

theorem start (hi : Inv s) {t : Nat} {task : Task} (ht : s.tasks.lookup t = some task)
    (hg : task.phase = .guarded) : Inv (s.start t) := by
  rw [s.start_of_lookup ht]
  refine ⟨hi.tracking.set_phase ht .proxying, hi.seen_le, ?_⟩
  intro t' task' h' hserving hs
  rcases lookup_insert_eq_some.mp h' with ⟨-, rfl⟩ | ⟨-, h'⟩
  · exact hi.revalidated t task ht (by rw [hg]; trivial) hs
  · exact hi.revalidated t' task' h' hserving hs

theorem finish (hi : Inv s) {t : Nat} {task : Task} (ht : s.tasks.lookup t = some task) :
    Inv (s.finish t) := by
  rw [s.finish_of_lookup ht]
  exact ⟨hi.tracking.finish ht, hi.seen_le,
    fun t' task' h' => hi.revalidated t' task' (lookup_erase_eq_some.mp h').2⟩

theorem late_reject (hi : Inv s) {t : Nat} {task : Task} (ht : s.tasks.lookup t = some task)
    (hk : task.chan ∈ s.signaled) : Inv (s.late_reject t) :=
  ⟨hi.tracking.erase_signaled ht hk, hi.seen_le,
    fun t' task' h' => hi.revalidated t' task' (lookup_erase_eq_some.mp h').2⟩

/-- `changed()` marks the latest version seen; every connection is still to
    be listed. -/
theorem changed (hi : Inv s) : Inv s.changed :=
  ⟨hi.tracking, le_refl _, fun _ _ _ _ _ => .inr (.inr trivial)⟩

/-- `connections()` lists every connection that carries traffic, as it is
    registered. -/
theorem list (hi : Inv s) : Inv s.list := by
  refine ⟨hi.tracking, hi.seen_le, ?_⟩
  intro t task ht _ hs
  obtain ⟨d, hd, -⟩ := hi.tracking.tracked t task ht hs
  exact .inr (.inr ((s.cm.mem_connections task.conn).mpr ⟨_, d, hd⟩))

theorem check (hi : Inv s) {rest : List InboundConnection} (hw : s.watcher.loop = .checking rest) :
    Inv s.check := by
  obtain ⟨loop, heq, hloop⟩ := s.check_eq hw
  rw [heq]
  refine ⟨hi.tracking, hi.seen_le, hi.revalidated_loop rfl rfl rfl rfl subset_rfl ?_⟩
  intro t task _ _ hcheck
  rw [hw] at hcheck
  exact hloop task.conn hcheck

/-- `close` of a registered connection signals the drain of every task of
    its key. -/
theorem close (hi : Inv s) {c : InboundConnection} {rest : List InboundConnection}
    (hw : s.watcher.loop = .closing c rest) : Inv s.close := by
  cases hl : s.cm.drains.lookup c.key with
  | some e =>
    obtain ⟨k, cd⟩ := e
    rw [s.close_of_lookup_some hw hl]
    refine ⟨hi.tracking.close hl, hi.seen_le,
      hi.revalidated_loop rfl rfl rfl rfl (Finset.subset_insert _ _) ?_⟩
    intro t task ht hs hcheck
    rw [Finset.mem_insert, not_or] at hs
    rw [hw] at hcheck
    rcases hcheck with rfl | hrest
    · -- the connection closed holds the drain just signaled
      obtain ⟨d, hd, hdc⟩ := hi.tracking.tracked t task ht hs.2
      rw [hl] at hd
      simp only [Option.some.injEq, Prod.mk.injEq] at hd
      exact absurd (hd.2 ▸ hdc).symm hs.1
    · exact .inl hrest
  | none =>
    rw [s.close_of_lookup_none hw hl]
    refine ⟨hi.tracking, hi.seen_le, hi.revalidated_loop rfl rfl rfl rfl subset_rfl ?_⟩
    intro t task ht hs hcheck
    rw [hw] at hcheck
    rcases hcheck with rfl | hrest
    · -- an unregistered connection has no task that is not drained
      obtain ⟨d, hd, -⟩ := hi.tracking.tracked t task ht hs
      rw [hl] at hd
      cases hd
    · exact .inl hrest

theorem drained (hi : Inv s) {k : Nat} {rest : List InboundConnection}
    (hw : s.watcher.loop = .draining k rest) : Inv s.drained := by
  rw [s.drained_eq hw]
  refine ⟨hi.tracking, hi.seen_le, hi.revalidated_loop rfl rfl rfl rfl subset_rfl ?_⟩
  intro t task _ _ hcheck
  rw [hw] at hcheck
  exact .inl hcheck

/-- The step lemma: every step that `Arrival` allows keeps the invariant. -/
theorem step (hi : Inv s) {e : Event} (he : s.Enabled e ∧ Arrival s e) {s' : System}
    (hok : s.step e = .ok s') : Inv s' := by
  obtain ⟨he, ha⟩ := he
  cases e with
  | update ops => cases hok; exact hi.update ops
  | accept t c => cases hok; exact hi.accept he ha
  | authorize t =>
    cases hok
    obtain ⟨task, ht, -⟩ := s.phaseOf_eq_some he
    exact hi.authorize ht
  | release t =>
    cases hok
    obtain ⟨task, ht, -⟩ := s.phaseOf_eq_some he
    exact hi.finish ht
  | drop t =>
    cases hok
    obtain ⟨task, ht, -⟩ := s.phaseOf_eq_some he
    exact hi.finish ht
  | start t =>
    cases hok
    obtain ⟨task, ht, hg⟩ := s.phaseOf_eq_some he
    exact hi.start ht hg
  | complete t =>
    cases hok
    obtain ⟨task, ht, -⟩ := s.phaseOf_eq_some he
    exact hi.finish ht
  | late_reject t =>
    cases hok
    obtain ⟨task, ht, -, hk⟩ := he
    exact hi.late_reject ht hk
  | changed => cases hok; exact hi.changed
  | list => cases hok; exact hi.list
  | check =>
    cases hok
    obtain ⟨rest, hw⟩ := he
    exact hi.check hw
  | close =>
    cases hok
    obtain ⟨c, rest, hw⟩ := he
    exact hi.close hw
  | drained =>
    cases hok
    obtain ⟨k, rest, hw, -⟩ := he
    exact hi.drained hw

end Inv

/-- The run lemma. -/
theorem inv_of_reachable {ps : PolicyStore} {s : System}
    (hs : ((machine ps).restrict Arrival).Reachable s) : Inv s :=
  Machine.Reachable.inv Inv (inv_init ps) (fun _ _ _ hi he hok => hi.step he hok) hs

end Guarantees

/-! ## The guarantees -/

/-- `test_default_workload()` of the source's tests. -/
def testWorkload : Workload where
  workload_ips := [.V4 0x7f000001]
  waypoint := none
  network_gateway := none
  protocol := .TCP
  network_mode := .Standard
  uid := ""
  name := ""
  «namespace» := ""
  trust_domain := "cluster.local"
  service_account := "default"
  network := ""
  workload_name := ""
  workload_type := "deployment"
  canonical_name := ""
  canonical_revision := ""
  hostname := ""
  node := ""
  native_tunnel := false
  application_tunnel := none
  authorization_policies := []
  status := .Healthy
  cluster_id := "Kubernetes"
  locality := ⟨"", "", ""⟩
  services := []
  capacity := 1

/-- `rbac_ctx1` of `test_connection_manager_close`: 192.168.0.1:80 to
    192.168.0.2:8080, with no peer identity. -/
def conn1 : InboundConnection :=
  ⟨⟨⟨⟨.V4 0xc0a80001, 80⟩, ⟨.V4 0xc0a80002, 8080⟩, none, ""⟩, testWorkload⟩, none⟩

/-- `conn1` arrives, passes its check and is proxied. -/
def servingRun : System :=
  (((System.init PolicyStore.default).accept 0 conn1).authorize 0).start 0

theorem servingRun_reachable : ((machine PolicyStore.default).restrict Arrival).Reachable servingRun :=
  .step (.start 0)
    (.step (.authorize 0)
      (.step (.accept 0 conn1) .init
        ⟨rfl, by simp [Machine.restrict, machine, System.init, ConnectionManager.default],
          by simp [Machine.restrict, machine, System.init]⟩
        rfl)
      ⟨rfl, trivial⟩ rfl)
    ⟨rfl, trivial⟩ rfl

/-- A policy update cannot leave a connection carrying traffic unchecked:
    in every state of a run whose connections arrive as `Arrival` assumes,
    a connection that holds its guard, with its drain not signaled, is
    allowed by the current policies, or the watcher has still to check it.
    Once the watcher waits with the latest version seen, every such
    connection is allowed. -/
theorem serving_connection_revalidated [IpNetContains] (ps : PolicyStore) {s : System}
    (hs : ((machine ps).restrict Arrival).Reachable s) {t : Nat} {task : Task}
    (ht : s.tasks.lookup t = some task) (hserving : task.phase.Serving)
    (hlive : task.chan ∉ s.signaled) :
    assert_rbac s.policies task.conn.ctx = .ok () ∨ Pending s task.conn :=
  (inv_of_reachable hs).revalidated t task ht hserving hlive

theorem serving_connection_revalidated_conn1 :
    servingRun.tasks.lookup 0 = some ⟨conn1, 0, .proxying⟩ ∧
      (assert_rbac servingRun.policies conn1.ctx = .ok () ∨ Pending servingRun conn1) :=
  ⟨rfl, serving_connection_revalidated PolicyStore.default servingRun_reachable
    (show servingRun.tasks.lookup 0 = some ⟨conn1, 0, .proxying⟩ from rfl) trivial
    (Finset.notMem_empty 0)⟩

/-- The registry is exact: `connections()` lists exactly the connections
    that tasks hold with a drain not yet signaled, and the count of a drain
    is the number of tasks holding its watcher, never zero. -/
theorem connections_exact [IpNetContains] (ps : PolicyStore) {s : System}
    (hs : ((machine ps).restrict Arrival).Reachable s) :
    (∀ c, c ∈ s.cm.connections ↔
      ∃ t task, s.tasks.lookup t = some task ∧ task.conn = c ∧ task.chan ∉ s.signaled) ∧
    ∀ κ c d, s.cm.drains.lookup κ = some (c, d) → d.count = holders s.tasks κ d.chan ∧ 0 < d.count := by
  have hT := (inv_of_reachable hs).tracking
  refine ⟨fun c => ?_, hT.entry_count⟩
  rw [ConnectionManager.mem_connections]
  constructor
  · rintro ⟨κ, d, hd⟩
    -- a drain of positive count has a holder, which is registered as `c`
    obtain ⟨hcount, hpos⟩ := hT.entry_count κ c d hd
    obtain ⟨t, task, ht, hκ, hk⟩ := exists_of_holders_pos (hcount ▸ hpos)
    have hlive : task.chan ∉ s.signaled := hk ▸ hT.entry_live κ c d hd
    obtain ⟨d', hd', -⟩ := hT.tracked t task ht hlive
    rw [hκ, hd] at hd'
    simp only [Option.some.injEq, Prod.mk.injEq] at hd'
    exact ⟨t, task, ht, hd'.1.symm, hlive⟩
  · rintro ⟨t, task, ht, rfl, hlive⟩
    obtain ⟨d, hd, -⟩ := hT.tracked t task ht hlive
    exact ⟨_, d, hd⟩

theorem connections_exact_conn1 :
    (∀ c, c ∈ servingRun.cm.connections ↔
      ∃ t task, servingRun.tasks.lookup t = some task ∧ task.conn = c ∧ task.chan ∉ servingRun.signaled) ∧
    ∀ κ c d, servingRun.cm.drains.lookup κ = some (c, d) →
      d.count = holders servingRun.tasks κ d.chan ∧ 0 < d.count :=
  connections_exact PolicyStore.default servingRun_reachable

/-! ### Why the guarantee assumes `Arrival` -/

/-- A deny-all policy bound by workload selector. -/
def denyPolicy : Authorization where
  name := "deny"
  «namespace» := "ns"
  scope := .WorkloadSelector
  action := .Deny
  rules := [[]]

/-- `conn1` again, to a copy of its workload that names `denyPolicy`: the
    workload as an xDS update binding the policy leaves it. -/
def conn1Bound : InboundConnection :=
  ⟨⟨conn1.ctx.conn, { testWorkload with authorization_policies := ["ns/deny"] }⟩, none⟩

theorem assert_rbac_conn1Bound_denied :
    assert_rbac (PolicyStore.default.insert "ns/deny" denyPolicy) conn1Bound.ctx =
      .error (.ExplicitlyDenied "ns" "deny") := by
  decide

/-- Two connections share a key but not their workload: `conn1` arrives,
    then `conn1Bound`, both allowed; a policy update binds `denyPolicy`, and
    the watcher checks the key's first connection, which the policy does
    not bind. -/
def sharedKeyRun : System :=
  (((((((((System.init PolicyStore.default).accept 0 conn1).authorize 0).accept 1 conn1Bound).authorize 1
    ).update [.insert "ns/deny" denyPolicy]).changed).list).check).check

/-- Without the first half of `Arrival`, a denied connection carries
    traffic while the watcher waits with every update seen. -/
theorem shared_key_unchecked :
    (machine PolicyStore.default).Reachable sharedKeyRun ∧
      sharedKeyRun.tasks.lookup 1 = some ⟨conn1Bound, 0, .guarded⟩ ∧
      assert_rbac sharedKeyRun.policies conn1Bound.ctx = .error (.ExplicitlyDenied "ns" "deny") ∧
      ¬ Pending sharedKeyRun conn1Bound := by
  refine ⟨?_, rfl, assert_rbac_conn1Bound_denied, ?_⟩
  · exact .step .check (.step .check (.step .list (.step .changed
      (.step (.update [.insert "ns/deny" denyPolicy]) (.step (.authorize 1) (.step (.accept 1 conn1Bound) (.step (.authorize 0)
        (.step (.accept 0 conn1) .init rfl rfl) rfl rfl) rfl rfl) rfl rfl) trivial rfl)
      ⟨rfl, Nat.zero_lt_one⟩ rfl) rfl rfl) ⟨_, rfl⟩ rfl) ⟨_, rfl⟩ rfl
  · rintro (h | h)
    · exact Nat.lt_irrefl 1 h
    · exact h

/-- A connection drained by the watcher ends on its own after a second
    connection of its key arrived, and its release removes the second's
    entry.  The second connection is then never listed: a later update
    that denies it leaves it carrying traffic. -/
def reuseRun : System :=
  let drainedFirst :=
    ((((((((System.init PolicyStore.default).accept 0 conn1Bound).authorize 0).start 0).update
      [.insert "ns/deny" denyPolicy]).changed).list).check).close
  let servingSecond :=
    (((drainedFirst.accept 1 conn1Bound).update [.remove "ns/deny"]).authorize 1).start 1
  (((((((servingSecond.finish 0).drained).check).update [.insert "ns/deny" denyPolicy]).changed
    ).list).check)

/-- Without the second half of `Arrival`, a denied connection carries
    traffic, unregistered, while the watcher waits with every update seen. -/
theorem reused_key_untracked :
    (machine PolicyStore.default).Reachable reuseRun ∧
      reuseRun.tasks.lookup 1 = some ⟨conn1Bound, 1, .proxying⟩ ∧ 1 ∉ reuseRun.signaled ∧
      reuseRun.cm.drains.lookup conn1Bound.key = none ∧
      assert_rbac reuseRun.policies conn1Bound.ctx = .error (.ExplicitlyDenied "ns" "deny") ∧
      ¬ Pending reuseRun conn1Bound := by
  refine ⟨?_, rfl, by decide, rfl, assert_rbac_conn1Bound_denied, ?_⟩
  · refine .step .check (.step .list (.step .changed (.step (.update [.insert "ns/deny" denyPolicy])
      (.step .check (.step .drained (.step (.complete 0) (.step (.start 1) (.step (.authorize 1)
        (.step (.update [.remove "ns/deny"]) (.step (.accept 1 conn1Bound) (.step .close (.step .check
          (.step .list (.step .changed (.step (.update [.insert "ns/deny" denyPolicy]) (.step (.start 0) (.step (.authorize 0) (.step (.accept 0 conn1Bound) .init
            rfl rfl) rfl rfl) rfl rfl) trivial rfl) ⟨rfl, Nat.zero_lt_one⟩ rfl) rfl rfl) ⟨_, rfl⟩ rfl)
          ⟨_, _, rfl⟩ rfl) rfl rfl) trivial rfl) rfl rfl) rfl rfl) rfl rfl) ?_ rfl) ⟨_, rfl⟩ rfl)
      trivial rfl) ⟨rfl, by decide⟩ rfl) rfl rfl) ⟨_, rfl⟩ rfl
    -- the drain of the first connection waits for no task: only the second is left
    refine ⟨0, [], rfl, fun t task h hk => ?_⟩
    have htasks : ((((((((((((((machine PolicyStore.default).init.accept 0 conn1Bound).authorize 0).start 0
        ).update [.insert "ns/deny" denyPolicy]).changed).list).check).close).accept 1 conn1Bound).update
        [.remove "ns/deny"]).authorize 1).start 1).finish 0).tasks =
        (∅ : HashMap Nat Task).insert 1 ⟨conn1Bound, 1, .proxying⟩ := rfl
    rw [htasks, lookup_insert_eq_some] at h
    rcases h with ⟨-, rfl⟩ | ⟨-, h⟩
    · cases hk
    · cases h
  · rintro (h | h)
    · exact Nat.lt_irrefl 3 h
    · exact h

end PolicyWatcher

end Ztunnel
