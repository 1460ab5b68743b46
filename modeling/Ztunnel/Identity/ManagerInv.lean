/-
  Ztunnel.Identity.ManagerInv

  The safety of the certificate manager over every interleaving of its
  clients and its worker loop.

  `Worker.Loop.Inv` is the bookkeeping of `Worker::run`: the keys of
  `processing` are the identities of the running fetches, no identity is
  fetched twice at once, no queued identity is being fetched, and at most
  `concurrency` fetches run.  It holds of every reachable state, and under
  it neither panic of the loop can happen: a completed fetch is always in
  `processing` (the `unreachable!`), and `pending` is never empty when the
  next fetch starts (the `expect`).

  `ManagerState.Covered` says that no managed identity is lost: each
  identity of the `certs` map is queued, or being fetched with its result
  to be kept, or has a `Fetch` request on its way to the loop.  On its way
  means in the channel or still being sent: a client enters a new identity
  under the lock and posts its request after releasing it, and in between
  the identity is covered by nothing else.
-/

import Ztunnel.Identity.Manager

namespace Ztunnel

variable {Q : Type} [KeyedPriorityQueue Q Identity PendingPriority]

open KeyedPriorityQueue (entries keys)

namespace Worker.Loop

/-- The loop will fetch `id`: it is queued, or it is being fetched and the
    result will be kept. -/
def Scheduled (w : Loop Q) (id : Identity) : Prop :=
  id ∈ keys w.pending ∨ w.processing.lookup id = some .Processing

/-- The bookkeeping of `Worker::run`. -/
structure Inv (w : Loop Q) (concurrency : Nat) : Prop where
  processing_iff : ∀ id, (w.processing.lookup id).isSome ↔ id ∈ w.fetches
  fetches_nodup : w.fetches.Nodup
  pending_disjoint : ∀ id, id ∈ keys w.pending → w.processing.lookup id = none
  fetches_le : w.fetches.length ≤ concurrency

variable {w : Loop Q} {concurrency : Nat}

theorem inv_new : (Loop.new : Loop Q).Inv concurrency where
  processing_iff id := by simp [Loop.new]
  fetches_nodup := List.nodup_nil
  pending_disjoint id h := by simp [Loop.new] at h
  fetches_le := Nat.zero_le _

/-- A queued identity is not being fetched. -/
theorem Inv.not_mem_fetches (hi : w.Inv concurrency) {id : Identity} (h : id ∈ keys w.pending) :
    id ∉ w.fetches := by
  rw [← hi.processing_iff, hi.pending_disjoint id h]
  simp

theorem Inv.handle_request (hi : w.Inv concurrency) (has_id : Identity → Bool) (now : Nat)
    (r : Request) : (w.handle_request has_id now r).Inv concurrency where
  processing_iff id := by
    rw [handle_request_processing_isSome, handle_request_fetches]
    exact hi.processing_iff id
  fetches_nodup := by simpa using hi.fetches_nodup
  pending_disjoint id h := by
    have hnone : w.processing.lookup id = none := by
      rcases mem_keys_handle_request w has_id now r id h with h | h
      · exact hi.pending_disjoint id h
      · exact h
    have hsome := handle_request_processing_isSome w has_id now r id
    rw [hnone, Option.isSome_none, Option.isSome_eq_false_iff, Option.isNone_iff_eq_none] at hsome
    exact hsome
  fetches_le := by simpa using hi.fetches_le

/-- A completed fetch leaves `fetches` and `processing`; the queue gains
    at most its identity. -/
theorem Inv.fetch_done (hi : w.Inv concurrency) {w' : Loop Q} {id : Identity}
    (hid : id ∈ w.fetches) (hf : w'.fetches = w.fetches.erase id)
    (hp : w'.processing = w.processing.erase id)
    (hq : ∀ k, k ∈ keys w'.pending → k ∈ keys w.pending ∨ k = id) : w'.Inv concurrency where
  processing_iff k := by
    rw [hf, hp]
    by_cases hk : k = id
    · subst hk
      -- the identity ran once, so it is gone from `fetches` too
      have hgone : k ∉ w.fetches.erase k := hi.fetches_nodup.not_mem_erase
      simp [hgone]
    · rw [AList.lookup_erase_ne hk, List.mem_erase_of_ne hk]
      exact hi.processing_iff k
  fetches_nodup := hf ▸ hi.fetches_nodup.erase id
  pending_disjoint k h := by
    rw [hp]
    by_cases hk : k = id
    · subst hk
      simp
    · rw [AList.lookup_erase_ne hk]
      rcases hq k h with h | h
      · exact hi.pending_disjoint k h
      · exact absurd h hk
  fetches_le := by
    rw [hf]
    have := List.length_erase_le (l := w.fetches) (a := id)
    have := hi.fetches_le
    omega

/-- The loop that starts fetching the queued `id`, as `initiate_fetch`
    leaves it. -/
theorem Inv.start (hi : w.Inv concurrency) {id : Identity} (hid : id ∈ keys w.pending)
    (hlt : w.fetches.length < concurrency) {pending : Q}
    (hq : ∀ k, k ∈ keys pending ↔ k ≠ id ∧ k ∈ keys w.pending) :
    ({ pending := pending, processing := w.processing.insert id .Processing,
       fetches := w.fetches ++ [id] } : Loop Q).Inv concurrency where
  processing_iff k := by
    by_cases hk : k = id
    · subst hk
      simp
    · simp only [AList.lookup_insert_ne hk, List.mem_append, List.mem_singleton, hk, or_false]
      exact hi.processing_iff k
  fetches_nodup := by
    have hnot := hi.not_mem_fetches hid
    rw [List.nodup_append]
    refine ⟨hi.fetches_nodup, List.nodup_singleton id, ?_⟩
    intro a ha b hb hab
    rw [List.mem_singleton] at hb
    subst hab hb
    exact hnot ha
  pending_disjoint k h := by
    obtain ⟨hne, hk⟩ := (hq k).mp h
    rw [AList.lookup_insert_ne hne]
    exact hi.pending_disjoint k hk
  fetches_le := by
    simp only [List.length_append, List.length_singleton]
    omega

/-! ### What keeps an identity scheduled -/

/-- A request of another identity, or one the loop ignores, keeps an
    identity of the `certs` map scheduled. -/
theorem Scheduled.handle_request {has_id : Identity → Bool} {k : Identity} (hk : has_id k = true)
    (hs : w.Scheduled k) (now : Nat) (r : Request) : (w.handle_request has_id now r).Scheduled k := by
  rcases w.handle_request_cases has_id now r with
    h | ⟨id, pri, -, -, h⟩ | ⟨id, -, -, h⟩ | ⟨id, hid, -, h⟩ | ⟨id, hid, -, h⟩ <;> rw [h]
  · exact hs
  · rcases hs with hs | hs
    · exact .inl ((mem_keys_push_increase _ _ _ _).mpr (.inr hs))
    · exact .inr hs
  · -- the kept fetch is of `id`, which is then being fetched
    by_cases hki : k = id
    · subst hki
      exact .inr (by simp)
    · rcases hs with hs | hs
      · exact .inl hs
      · exact .inr (by simpa [AList.lookup_insert_ne hki] using hs)
  · -- `k` is still managed, so the unqueued identity is another one
    have hki : k ≠ id := by
      rintro rfl
      simp [hk] at hid
    rcases hs with hs | hs
    · exact .inl ((KeyedPriorityQueue.mem_keys_remove _ _ _).mpr ⟨hki, hs⟩)
    · exact .inr hs
  · have hki : k ≠ id := by
      rintro rfl
      simp [hk] at hid
    rcases hs with hs | hs
    · exact .inl hs
    · exact .inr (by simpa [AList.lookup_insert_ne hki] using hs)

/-- A `Fetch` of a managed identity schedules it. -/
theorem scheduled_handle_request_fetch {has_id : Identity → Bool} {id : Identity}
    (hid : has_id id = true) (now : Nat) (pri : Priority) :
    (w.handle_request has_id now (.Fetch id pri)).Scheduled id := by
  simp only [Loop.handle_request, hid, Bool.not_true, Bool.false_eq_true, if_false]
  split
  · exact .inl ((mem_keys_push_increase _ _ _ _).mpr (.inl rfl))
  · exact .inr (by simp)
  · rename_i h
    exact .inr h

theorem Scheduled.start {k id : Identity} (hs : w.Scheduled k) {pending : Q}
    (hq : ∀ k, k ∈ keys pending ↔ k ≠ id ∧ k ∈ keys w.pending) :
    ({ pending := pending, processing := w.processing.insert id .Processing,
       fetches := w.fetches ++ [id] } : Loop Q).Scheduled k := by
  by_cases hk : k = id
  · subst hk
    exact .inr (by simp)
  · rcases hs with hs | hs
    · exact .inl ((hq k).mpr ⟨hk, hs⟩)
    · exact .inr (by simpa [AList.lookup_insert_ne hk] using hs)

end Worker.Loop

namespace ManagerState

open Worker.Loop

variable {concurrency : Nat}

/-! ### The worker's bookkeeping -/

theorem worker_inv_step {m m' : ManagerState Q} {e : ManagerEvent} (hi : m.worker.Inv concurrency)
    (he : (manager concurrency).Enabled m e) (hs : (manager concurrency).step m e = .ok m') :
    m'.worker.Inv concurrency := by
  simp only [manager] at he hs
  cases e with
  | start_fetch id pri =>
    cases hs
    simpa using hi
  | forget_certificate id =>
    cases hs
    simpa using hi
  | post req =>
    cases hs
    simpa using hi
  | recv now =>
    cases hs
    obtain ⟨req, rest, hreq⟩ := List.exists_cons_of_ne_nil he
    rw [recv_cons m now req rest hreq]
    exact hi.handle_request _ _ _
  | fetch_done id ok t =>
    obtain ⟨f, -, -, -, -, hf, hp, hq⟩ := fetch_done_eq_ok m id ok t hs
    refine hi.fetch_done he hf hp fun k hk => ?_
    rcases (hq k).mp hk with hk | ⟨rfl, -⟩
    · exact .inl hk
    · exact .inr rfl
  | start_next =>
    obtain ⟨id, p, pending, hmem, hq, rfl⟩ := start_next_eq_ok m hs
    exact hi.start (KeyedPriorityQueue.mem_keys_iff.mpr ⟨p, hmem⟩) he.2 hq

theorem inv_of_reachable {m : ManagerState Q} (h : (manager concurrency).Reachable m) :
    m.worker.Inv concurrency :=
  Machine.Reachable.inv (fun m => m.worker.Inv concurrency) inv_new
    (fun _ _ _ hi he hs => worker_inv_step hi he hs) h

/-- Under the bookkeeping no enabled step panics. -/
theorem step_isOk {m : ManagerState Q} {e : ManagerEvent} (hi : m.worker.Inv concurrency)
    (he : (manager concurrency).Enabled m e) : ∃ m', (manager concurrency).step m e = .ok m' := by
  simp only [manager] at he ⊢
  cases e with
  | start_fetch id pri => exact ⟨_, rfl⟩
  | forget_certificate id => exact ⟨_, rfl⟩
  | post req => exact ⟨_, rfl⟩
  | recv now => exact ⟨_, rfl⟩
  | fetch_done id ok t => exact fetch_done_isOk m id ok t ((hi.processing_iff id).mpr he)
  | start_next => exact start_next_isOk m he.1

theorem worker_bookkeeping (concurrency : Nat) :
    (∀ m : ManagerState Q, (manager concurrency).Reachable m → m.worker.Inv concurrency) ∧
      (manager (Q := Q) concurrency).NeverPanics := by
  have hinv : ∀ m : ManagerState Q, (manager concurrency).Reachable m →
      m.worker.Inv concurrency :=
    fun _ => inv_of_reachable
  exact ⟨hinv, Machine.neverPanics_of_inv hinv fun _ _ hi he => step_isOk hi he⟩

/-! ### No managed identity is lost -/

/-- A `Fetch` of `id` is on its way to the loop: in the channel, or being
    sent by a client. -/
def Requested (m : ManagerState Q) (id : Identity) : Prop :=
  ∃ pri, .Fetch id pri ∈ m.requests ∨ .Fetch id pri ∈ m.posting

/-- Every managed identity will be fetched. -/
def Covered (m : ManagerState Q) : Prop :=
  ∀ id, m.has_id id = true → m.worker.Scheduled id ∨ m.Requested id

/-- The same, counting only the requests in the channel. -/
def CoveredByWorker (m : ManagerState Q) : Prop :=
  ∀ id, m.has_id id = true → m.worker.Scheduled id ∨ ∃ pri, .Fetch id pri ∈ m.requests

theorem covered_new : (ManagerState.new : ManagerState Q).Covered := by
  intro id h
  simp [has_id, new] at h

theorem Covered.start_fetch {m : ManagerState Q} (hc : m.Covered) (id : Identity) (pri : Priority) :
    (m.start_fetch id pri).Covered := by
  intro k hk
  by_cases hm : m.has_id k = true
  · rcases hc k hm with hs | ⟨p, hr | hr⟩
    · exact .inl (by simpa using hs)
    · exact .inr ⟨p, .inl (by simpa using hr)⟩
    · exact .inr ⟨p, .inr (mem_posting_start_fetch m id pri _ hr)⟩
  · -- a new identity: its request is being sent
    have hki : k = id := ((has_id_start_fetch m id k pri).mp hk).resolve_left hm
    subst hki
    exact .inr ⟨pri, .inr (fetch_posted_start_fetch m k pri (by simpa using hm))⟩

theorem Covered.forget_certificate {m : ManagerState Q} (hc : m.Covered) (id : Identity) :
    (m.forget_certificate id).Covered := by
  intro k hk
  rcases hc k ((has_id_forget_certificate m id k).mp hk).1 with hs | ⟨p, hr | hr⟩
  · exact .inl (by simpa using hs)
  · exact .inr ⟨p, .inl (by simpa using hr)⟩
  · exact .inr ⟨p, .inr (mem_posting_forget_certificate m id _ hr)⟩

theorem Covered.post {m : ManagerState Q} (hc : m.Covered) (req : Request) : (m.post req).Covered := by
  intro k hk
  rw [has_id_post] at hk
  rcases hc k hk with hs | ⟨p, hr⟩
  · exact .inl (by simpa using hs)
  · exact .inr ⟨p, mem_post m req _ hr⟩

/-- The loop takes the oldest request: a `Fetch` of a managed identity
    schedules it, and nothing unschedules a managed identity. -/
theorem Covered.recv {m : ManagerState Q} (hc : m.Covered) {req : Request} {rest : List Request}
    (hreq : m.requests = req :: rest) (now : Nat) : (m.recv now).Covered := by
  intro k hk
  rw [has_id_recv] at hk
  rw [recv_cons m now req rest hreq]
  rcases hc k hk with hs | ⟨p, hr | hr⟩
  · exact .inl (hs.handle_request hk now req)
  · rw [hreq, List.mem_cons] at hr
    rcases hr with hr | hr
    · subst hr
      exact .inl (scheduled_handle_request_fetch hk now p)
    · exact .inr ⟨p, .inl hr⟩
  · exact .inr ⟨p, .inr hr⟩

/-- A completed fetch whose result is kept queues its identity again; one
    whose result is dropped was of an identity forgotten since, which a
    later `Fetch` covers if it is managed again. -/
theorem Covered.fetch_done {m m' : ManagerState Q} (hi : m.worker.Inv concurrency) (hc : m.Covered)
    {id : Identity} {ok : Bool} {t : Nat} (h : m.fetch_done id ok t = .ok m') : m'.Covered := by
  obtain ⟨f, hf, hreq, hpost, hhas, -, hp, hq⟩ := fetch_done_eq_ok m id ok t h
  intro k hk
  rw [hhas] at hk
  have hreq' : m'.Requested k ↔ m.Requested k := by
    simp only [Requested, hreq, hpost]
  rw [hreq']
  rcases hc k hk with hs | hr
  · by_cases hki : k = id
    · subst hki
      -- a fetch is running, so the identity is not queued: its result is kept
      have hproc : f = .Processing := by
        rcases hs with hs | hs
        · rw [hi.pending_disjoint k hs] at hf
          cases hf
        · rw [hs] at hf
          exact (Option.some.inj hf).symm
      exact .inl (.inl ((hq k).mpr (.inr ⟨rfl, hproc, hk⟩)))
    · rcases hs with hs | hs
      · exact .inl (.inl ((hq k).mpr (.inl hs)))
      · exact .inl (.inr (by rw [hp, AList.lookup_erase_ne hki]; exact hs))
  · exact .inr hr

theorem Covered.step {m m' : ManagerState Q} {e : ManagerEvent} (hi : m.worker.Inv concurrency)
    (hc : m.Covered) (he : (manager concurrency).Enabled m e)
    (hs : (manager concurrency).step m e = .ok m') : m'.Covered := by
  simp only [manager] at he hs
  cases e with
  | start_fetch id pri =>
    cases hs
    exact hc.start_fetch id pri
  | forget_certificate id =>
    cases hs
    exact hc.forget_certificate id
  | post req =>
    cases hs
    exact hc.post req
  | recv now =>
    cases hs
    obtain ⟨req, rest, hreq⟩ := List.exists_cons_of_ne_nil he
    exact hc.recv hreq now
  | fetch_done id ok t => exact hc.fetch_done hi hs
  | start_next =>
    obtain ⟨id, p, pending, -, hq, rfl⟩ := start_next_eq_ok m hs
    intro k hk
    rcases hc k hk with hs | ⟨p', hr⟩
    · exact .inl (hs.start hq)
    · exact .inr ⟨p', hr⟩

/-- Once no client is still sending, every managed identity is scheduled
    or has its request in the channel. -/
theorem Covered.coveredByWorker {m : ManagerState Q} (hc : m.Covered) (hp : m.posting = []) :
    m.CoveredByWorker := by
  intro k hk
  rcases hc k hk with hs | ⟨p, hr | hr⟩
  · exact .inl hs
  · exact .inr ⟨p, hr⟩
  · rw [hp] at hr
    cases hr

theorem managed_identities_covered (concurrency : Nat) {m : ManagerState Q}
    (h : (manager concurrency).Reachable m) :
    m.Covered ∧ (m.posting = [] → m.CoveredByWorker) := by
  have hc : m.Covered :=
    Machine.Reachable.inv_of Covered (fun _ => inv_of_reachable) covered_new
      (fun _ _ _ hi hc he hs => Covered.step hi hc he hs) h
  exact ⟨hc, hc.coveredByWorker⟩

/-! ### Runs -/

/-- `identity("test")` of the manager's tests. -/
def testIdentity : Identity := .Spiffe "test" "test" "test"

/-- A client has entered `testIdentity` and not yet sent its request. -/
def fetchEntered : ManagerState (ListQueue Identity PendingPriority) :=
  ManagerState.new.start_fetch testIdentity .RealTime

/-- The request of `fetchEntered` has reached the loop, which queued the
    identity. -/
def fetchReceived : ManagerState (ListQueue Identity PendingPriority) :=
  (fetchEntered.post (.Fetch testIdentity .RealTime)).recv 0

theorem fetchReceived_reachable : (manager 8).Reachable fetchReceived :=
  .step (.recv 0)
    (.step (.post (.Fetch testIdentity .RealTime))
      (.step (.start_fetch testIdentity .RealTime) .init trivial rfl) ⟨by decide, by decide⟩ rfl)
    (List.cons_ne_nil _ _) rfl

theorem managed_identities_covered_fetchReceived :
    fetchReceived.Covered ∧ (fetchReceived.posting = [] → fetchReceived.CoveredByWorker) :=
  managed_identities_covered 8 fetchReceived_reachable

/-- Between the client's locked section and its send, the new identity is
    neither queued, nor being fetched, nor requested in the channel. -/
theorem fetch_not_yet_sent :
    (manager 8).Reachable fetchEntered ∧ ¬ fetchEntered.CoveredByWorker := by
  refine ⟨.step (.start_fetch testIdentity .RealTime) .init trivial rfl, fun h => ?_⟩
  have hid : fetchEntered.has_id testIdentity = true := by decide
  rcases h testIdentity hid with (hs | hs) | ⟨pri, hr⟩
  · simp [fetchEntered, new, Worker.Loop.new] at hs
  · simp [fetchEntered, new, Worker.Loop.new] at hs
  · simp [fetchEntered, new] at hr

end ManagerState

end Ztunnel
