/-
  Ztunnel.Identity.PendingQueue

  When `Worker::run` (src/identity/manager.rs) sleeps.  The loop sleeps
  until the instant of the head of its `pending` queue before it starts
  the next fetch.  That is sound because of a fact its comment argues:
  only `Background` refreshes are queued for the future, and every other
  priority is queued at `Instant::now()`.

  The queue with its clock is a machine of its own.  Its events are the
  three ways the loop changes the queue (`push_increase`, `pop`, `remove`)
  and the clock's advance.  A push of another priority than `Background`
  is stamped with the current instant.  The invariant says that every such
  entry is due.  With the order of `PendingPriority` it follows that a
  head in the future is a `Background` entry no entry is due before, and
  that `pop` takes the highest priority, the earliest first.

  The manager itself has no clock.  A clocked manager has one, which
  advances and stamps the requests `recv` takes.  Each of its steps is a
  step of the queue machine or none, so the queue of every reachable
  manager is reachable in the queue machine.
-/

import Ztunnel.Identity.Manager

namespace Ztunnel

open KeyedPriorityQueue (entries keys peek pop remove)

/-- What no entry being greater than `e` says of `e`: no entry has a
    higher priority, and none of the same priority an earlier instant. -/
theorem PendingPriority.of_not_lt {e x : PendingPriority} (h : ¬e < x) :
    x.priority.rank ≤ e.priority.rank ∧ (x.priority = e.priority → e.instant ≤ x.instant) := by
  have h' : ¬(e.priority.rank < x.priority.rank ∨
      (e.priority = x.priority ∧ x.instant < e.instant)) := h
  refine ⟨by omega, fun hp => Nat.not_lt.mp fun hlt => h' (.inr ⟨hp.symm, hlt⟩)⟩

/-! ## The queue and its clock -/

/-- The `pending` queue of `Worker::run` and the instant it is. -/
structure PendingState (Q : Type) where
  pending : Q
  now : Nat

inductive PendingEvent (K : Type) where
  | push_increase (key : K) (priority : PendingPriority)
  | pop
  | remove (key : K)
  /-- the clock advances to the instant given -/
  | tick (now : Nat)

namespace PendingState

variable {Q K : Type} [KeyedPriorityQueue Q K PendingPriority]

/-- A push of a priority but `Background` is stamped with the current
    instant; a pop takes from a queue that has an entry; the clock only
    advances. -/
def Enabled (s : PendingState Q) : PendingEvent K → Prop
  | .push_increase _ priority => priority.priority ≠ .Background → priority.instant = s.now
  | .pop => (peek s.pending).isSome
  | .remove _ => True
  | .tick now => s.now ≤ now

def step (s : PendingState Q) : PendingEvent K → PendingState Q
  | .push_increase key priority => { s with pending := push_increase s.pending key priority }
  | .pop =>
    match pop s.pending with
    | some (_, pending) => { s with pending := pending }
    | none => s
  | .remove key => { s with pending := remove s.pending key }
  | .tick now => { s with now := now }

end PendingState

/-- The pending queue of a worker: empty at the start. -/
def pendingQueue (Q K : Type) [KeyedPriorityQueue Q K PendingPriority] :
    Machine (PendingState Q) (PendingEvent K) where
  init := ⟨KeyedPriorityQueue.new, 0⟩
  Enabled := PendingState.Enabled
  step s e := .ok (s.step e)

/-! ## No entry but `Background` is in the future -/

namespace PendingState

variable {Q K : Type} [KeyedPriorityQueue Q K PendingPriority]

/-- Every entry of another priority than `Background` is due. -/
def Due (s : PendingState Q) : Prop :=
  ∀ e ∈ entries s.pending, e.2.priority ≠ .Background → e.2.instant ≤ s.now

/-- An entry after `push_increase` was there, or is the one pushed. -/
theorem mem_entries_push_increase {q : Q} {key : K} {priority : PendingPriority}
    {e : K × PendingPriority} (h : e ∈ entries (push_increase q key priority)) :
    e ∈ entries q ∨ e = (key, priority) := by
  unfold push_increase at h
  split at h
  · exact KeyedPriorityQueue.mem_entries_push_of_mem h
  · exact .inl h

/-- The step lemma: every enabled step keeps the entries due. -/
theorem Due.step {s : PendingState Q} {e : PendingEvent K} (hs : s.Due) (he : s.Enabled e) :
    (s.step e).Due := by
  cases e with
  | push_increase key priority =>
    intro x hx hpri
    rcases mem_entries_push_increase hx with hx | rfl
    · exact hs x hx hpri
    · exact Nat.le_of_eq (he hpri)
  | pop =>
    intro x hx hpri
    simp only [PendingState.step] at hx ⊢
    split at hx
    · rename_i pending hpop
      exact hs x ((KeyedPriorityQueue.mem_entries_pop _ _ _ hpop x).mp hx).1 hpri
    · exact hs x hx hpri
  | remove key =>
    intro x hx hpri
    exact hs x ((KeyedPriorityQueue.mem_entries_remove _ _ x).mp hx).1 hpri
  | tick now =>
    intro x hx hpri
    exact Nat.le_trans (hs x hx hpri) he

/-- The queue starts empty. -/
theorem due_init : (pendingQueue Q K).init.Due := by
  intro e he
  simp [pendingQueue, KeyedPriorityQueue.entries_new] at he

/-- The run lemma. -/
theorem due_of_reachable {s : PendingState Q} (hs : (pendingQueue Q K).Reachable s) : s.Due :=
  Machine.Reachable.inv _ due_init
    (fun _ _ _ hd he hok => by
      cases hok
      exact hd.step he) hs

/-- The head of every reachable queue is sound to sleep until: when it is
    in the future, every entry is a `Background` refresh due no earlier.
    And `pop` takes the entry of highest priority, of one priority the
    one due first. -/
theorem pending_head_not_postponed {s : PendingState Q} (hs : (pendingQueue Q K).Reachable s) :
    (∀ k p, peek s.pending = some (k, p) → s.now < p.instant →
        ∀ e ∈ entries s.pending, e.2.priority = .Background ∧ p.instant ≤ e.2.instant) ∧
      ∀ e q, pop s.pending = some (e, q) → ∀ x ∈ entries s.pending,
        x.2.priority.rank ≤ e.2.priority.rank ∧
          (x.2.priority = e.2.priority → e.2.instant ≤ x.2.instant) := by
  have hdue := due_of_reachable hs
  refine ⟨fun k p hpeek hlate x hx => ?_, fun e q hpop x hx =>
    PendingPriority.of_not_lt (KeyedPriorityQueue.pop_max _ _ _ hpop x hx)⟩
  -- the head is no entry of a priority that is due, so it is `Background`
  have hhead : p.priority = .Background := by
    by_contra hne
    have hdue_head : p.instant ≤ s.now := hdue (k, p) (KeyedPriorityQueue.peek_mem _ _ hpeek) hne
    omega
  obtain ⟨hrank, hinstant⟩ := PendingPriority.of_not_lt (KeyedPriorityQueue.peek_max _ _ hpeek x hx)
  have hx : x.2.priority = .Background := by
    rw [hhead] at hrank
    exact Priority.rank_inj (by simpa [Priority.rank] using hrank)
  exact ⟨hx, hinstant (hx.trans hhead.symm)⟩

/-- A background refresh queued for instant 10 while the clock reads 0. -/
def backgroundLater : PendingState (ListQueue Nat PendingPriority) :=
  (pendingQueue (ListQueue Nat PendingPriority) Nat).init.step (.push_increase 1 ⟨.Background, 10⟩)

theorem backgroundLater_reachable :
    (pendingQueue (ListQueue Nat PendingPriority) Nat).Reachable backgroundLater :=
  .step (.push_increase 1 ⟨.Background, 10⟩) .init (fun hne => absurd rfl hne) rfl

theorem pending_head_not_postponed_backgroundLater :
    (pendingQueue (ListQueue Nat PendingPriority) Nat).Reachable backgroundLater ∧
      (∀ k p, peek backgroundLater.pending = some (k, p) → backgroundLater.now < p.instant →
          ∀ e ∈ entries backgroundLater.pending,
            e.2.priority = .Background ∧ p.instant ≤ e.2.instant) ∧
        ∀ e q, pop backgroundLater.pending = some (e, q) →
          ∀ x ∈ entries backgroundLater.pending, x.2.priority.rank ≤ e.2.priority.rank ∧
            (x.2.priority = e.2.priority → e.2.instant ≤ x.2.instant) :=
  ⟨backgroundLater_reachable, pending_head_not_postponed backgroundLater_reachable⟩

end PendingState

/-! ## The manager's queue -/

variable {Q : Type} [KeyedPriorityQueue Q Identity PendingPriority]

/-- The manager with the instant it is. -/
structure ClockedManager (Q : Type) where
  m : ManagerState Q
  now : Nat

inductive ClockedEvent where
  | step (e : ManagerEvent)
  /-- the clock advances to the instant given -/
  | tick (now : Nat)

namespace ClockedManager

/-- A step of the manager, whose `recv` takes its request at the current
    instant, or the clock's advance. -/
def Enabled (concurrency : Nat) (c : ClockedManager Q) : ClockedEvent → Prop
  | .step e => (manager concurrency).Enabled c.m e ∧ ∀ t, e = .recv t → t = c.now
  | .tick now => c.now ≤ now

def step (c : ClockedManager Q) : ClockedEvent → Except String (ClockedManager Q)
  | .step e => (c.m.step e).map fun m => ⟨m, c.now⟩
  | .tick now => .ok ⟨c.m, now⟩

/-- The worker's queue and the clock. -/
def pendingView (c : ClockedManager Q) : PendingState Q := ⟨c.m.worker.pending, c.now⟩

end ClockedManager

def clocked_manager (concurrency : Nat) : Machine (ClockedManager Q) ClockedEvent where
  init := ⟨ManagerState.new, 0⟩
  Enabled := ClockedManager.Enabled concurrency
  step := ClockedManager.step

namespace ManagerState

variable (m : ManagerState Q)

/-- A completed fetch queues the identity's next refresh in the
    background, or leaves the queue as it was. -/
theorem fetch_done_pending {id : Identity} {ok : Bool} {t : Nat} {m' : ManagerState Q}
    (h : m.fetch_done id ok t = .ok m') :
    m'.worker.pending = m.worker.pending ∨
      m'.worker.pending = push_increase m.worker.pending id ⟨.Background, t⟩ := by
  unfold fetch_done at h
  cases hp : m.worker.processing.lookup id with
  | none => simp [hp] at h
  | some f =>
    cases f with
    | Forgetting =>
      simp only [hp, Except.ok.injEq] at h
      subst h
      exact .inl rfl
    | Processing =>
      simp only [hp, update_certs] at h
      cases hc : m.certs.lookup id with
      | none =>
        simp only [hc, Except.ok.injEq] at h
        subst h
        exact .inl rfl
      | some st =>
        simp only [hc, Except.ok.injEq] at h
        subst h
        exact .inr rfl

/-- The next fetch takes the queue's `pop`. -/
theorem start_next_pending {m' : ManagerState Q} (h : m.start_next = .ok m') :
    ∃ e, pop m.worker.pending = some (e, m'.worker.pending) := by
  unfold start_next Worker.Loop.initiate_fetch at h
  cases hp : pop m.worker.pending with
  | none => simp [hp] at h
  | some r =>
    obtain ⟨e, q⟩ := r
    simp only [hp, Except.ok.injEq] at h
    subst h
    exact ⟨e, rfl⟩

/-- Every step of the manager leaves the worker's queue as it was or takes
    a step of the queue machine; `now` is the instant `recv` stamps. -/
theorem step_pending (now : Nat) {e : ManagerEvent} {m' : ManagerState Q}
    (hrecv : ∀ t, e = .recv t → t = now) (h : m.step e = .ok m') :
    m'.worker.pending = m.worker.pending ∨
      ∃ e', PendingState.Enabled ⟨m.worker.pending, now⟩ e' ∧
        PendingState.step ⟨m.worker.pending, now⟩ e' = ⟨m'.worker.pending, now⟩ := by
  cases e with
  | start_fetch id pri =>
    cases h
    exact .inl (by simp)
  | forget_certificate id =>
    cases h
    exact .inl (by simp)
  | post req =>
    cases h
    exact .inl rfl
  | recv t =>
    cases h
    have ht := hrecv t rfl
    subst ht
    cases hreq : m.requests with
    | nil => exact .inl (by simp [recv, hreq])
    | cons req rest =>
      rw [recv_cons m t req rest hreq]
      -- what handling the request does to the queue
      rcases m.worker.handle_request_cases m.has_id t req with
        hw | ⟨id, pri, -, -, hw⟩ | ⟨id, -, -, hw⟩ | ⟨id, -, -, hw⟩ | ⟨id, -, -, hw⟩
      · exact .inl (by rw [hw])
      · exact .inr ⟨.push_increase id ⟨pri, t⟩, fun _ => rfl, by rw [hw]; rfl⟩
      · exact .inl (by rw [hw])
      · exact .inr ⟨.remove id, trivial, by rw [hw]; rfl⟩
      · exact .inl (by rw [hw])
  | fetch_done id ok t =>
    rcases m.fetch_done_pending h with hq | hq
    · exact .inl hq
    · exact .inr ⟨.push_increase id ⟨.Background, t⟩, fun hne => absurd rfl hne,
        by rw [hq]; rfl⟩
  | start_next =>
    obtain ⟨x, hpop⟩ := m.start_next_pending h
    refine .inr ⟨.pop, ?_, ?_⟩
    · exact (KeyedPriorityQueue.pop_isSome _).mp (by simp [hpop])
    · simp only [PendingState.step, hpop]

end ManagerState

namespace ClockedManager

/-- The simulation: the queue and clock of every reachable clocked manager
    are a reachable state of the queue machine. -/
theorem pendingView_reachable {concurrency : Nat} {c : ClockedManager Q}
    (hc : (clocked_manager concurrency).Reachable c) :
    (pendingQueue Q Identity).Reachable c.pendingView := by
  refine Machine.Reachable.simulate pendingView rfl ?_ hc
  intro c c' e _ he h
  cases e with
  | tick now =>
    cases h
    exact .inr ⟨.tick now, he, rfl⟩
  | step e =>
    obtain ⟨-, hrecv⟩ := he
    obtain ⟨m', hm', rfl⟩ : ∃ m', c.m.step e = .ok m' ∧ c' = ⟨m', c.now⟩ := by
      cases hs : c.m.step e with
      | error msg => simp [clocked_manager, step, hs, Except.map] at h
      | ok m' =>
        simp only [clocked_manager, step, hs, Except.map, Except.ok.injEq] at h
        exact ⟨m', rfl, h.symm⟩
    rcases c.m.step_pending c.now hrecv hm' with hq | ⟨e', he', hstep⟩
    · exact .inl (by simp [pendingView, hq])
    · exact .inr ⟨e', he', by simp only [pendingQueue, pendingView]; rw [hstep]⟩

/-- The worker never sleeps past a due refresh: the queue of every
    reachable manager has, at every instant, the properties of
    `pending_head_not_postponed`. -/
theorem head_not_postponed {concurrency : Nat} {c : ClockedManager Q}
    (hc : (clocked_manager concurrency).Reachable c) :
    (∀ k p, peek c.m.worker.pending = some (k, p) → c.now < p.instant →
        ∀ e ∈ entries c.m.worker.pending, e.2.priority = .Background ∧ p.instant ≤ e.2.instant) ∧
      ∀ e q, pop c.m.worker.pending = some (e, q) → ∀ x ∈ entries c.m.worker.pending,
        x.2.priority.rank ≤ e.2.priority.rank ∧
          (x.2.priority = e.2.priority → e.2.instant ≤ x.2.instant) :=
  PendingState.pending_head_not_postponed (pendingView_reachable hc)

end ClockedManager

end Ztunnel
