/-
  Ztunnel.Identity.Manager

  The certificate manager of src/identity/manager.rs.  Clients
  (`SecretManager::start_fetch`, `forget_certificate`) share the `certs`
  map with the background loop `Worker::run` and send it `Fetch` and
  `Forget` requests over a channel of capacity 10.  The loop keeps the
  identities due for a refresh in a keyed priority queue (`pending`), the
  fetches it has started in `processing`, and their futures in `fetches`.
  The queue is of any type with the `keyed_priority_queue` crate's laws.

  The whole is one state machine.  A client call is two steps, as in the
  code: under the lock it updates the map and decides on a request
  (`start_fetch`, `forget_certificate`); after the lock is released its
  `post` completes once the channel has room (`post`).  Any other step may
  come in between; `posting` holds the requests decided and not yet sent.
  Each branch of the loop's `select!` is one step: a request received
  (`recv`), a fetch completed (`fetch_done`, with its outcome and the
  instant of the next refresh, which the certificate or the backoff gives),
  and the next fetch started (`start_next`).  A panic of the loop is an
  error carrying its message.
-/

import Ztunnel.Identity.Identity
import Ztunnel.Lib.HashMap
import Ztunnel.Lib.KeyedPriorityQueue
import Ztunnel.Lib.Machine

namespace Ztunnel

/-- Fetch priorities, lowest first. -/
inductive Priority where
  | Background
  | Warmup
  | RealTime
  deriving DecidableEq, Repr

namespace Priority

/-- The position in the declaration, which the derived `Ord` follows. -/
def rank : Priority → Nat
  | Background => 0
  | Warmup => 1
  | RealTime => 2

instance : LT Priority := ⟨fun a b => a.rank < b.rank⟩

instance : DecidableRel (α := Priority) (· < ·) := fun a b =>
  inferInstanceAs (Decidable (a.rank < b.rank))

end Priority

/-- `PendingPriority(priority, instant)`: the priority of a refresh and the
    instant it is due, instants being counted as `Nat`s. -/
structure PendingPriority where
  priority : Priority
  instant : Nat
  deriving DecidableEq, Repr

/-- `Ord for PendingPriority`: by priority, and of one priority the earlier
    instant is the greater. -/
instance : LT PendingPriority :=
  ⟨fun a b => a.priority < b.priority ∨ (a.priority = b.priority ∧ b.instant < a.instant)⟩

instance : DecidableRel (α := PendingPriority) (· < ·) := fun a b =>
  inferInstanceAs
    (Decidable (a.priority < b.priority ∨ (a.priority = b.priority ∧ b.instant < a.instant)))

namespace Priority

theorem lt_iff {a b : Priority} : a < b ↔ a.rank < b.rank := Iff.rfl

theorem rank_inj {a b : Priority} (h : a.rank = b.rank) : a = b := by
  cases a <;> cases b <;> first | rfl | cases h

end Priority

/-- The order of `PendingPriority` is strict: by priority, then by the
    reversed instant. -/
instance : IsStrictOrder PendingPriority (· < ·) where
  irrefl a h := by
    rcases h with h | ⟨-, h⟩
    · exact Nat.lt_irrefl _ (Priority.lt_iff.mp h)
    · exact Nat.lt_irrefl _ h
  trans a b c hab hbc := by
    rcases hab with hab | ⟨hab, hab'⟩ <;> rcases hbc with hbc | ⟨hbc, hbc'⟩
    · exact .inl (Priority.lt_iff.mpr (Nat.lt_trans hab hbc))
    · exact .inl (hbc ▸ hab)
    · exact .inl (hab ▸ hbc)
    · exact .inr ⟨hab.trans hbc, Nat.lt_trans hbc' hab'⟩

variable {Q : Type} [KeyedPriorityQueue Q Identity PendingPriority]

open KeyedPriorityQueue (entries keys push remove get_priority peek pop)

/-- The state published for an identity; the certificate and the error
    themselves are not modelled. -/
inductive CertState where
  | Initializing (pri : Priority)
  | Available
  | Unavailable
  deriving DecidableEq, Repr

def init_pri : CertState → Option Priority
  | .Initializing pri => some pri
  | _ => none

inductive Request where
  | Fetch (id : Identity) (pri : Priority)
  | Forget (id : Identity)
  deriving DecidableEq, Repr

/-- `push_increase`: push the key if it is absent, or raise its priority. -/
def push_increase {Q K P : Type} [LT P] [DecidableRel (α := P) (· < ·)] [KeyedPriorityQueue Q K P]
    (kp : Q) (key : K) (priority : P) : Q :=
  if (get_priority kp key).all fun p => decide (p < priority) then push kp key priority else kp

/-- The capacity of the request channel, `mpsc::channel(10)`. -/
def requestsCapacity : Nat := 10

namespace Worker

/-- What the loop does with a started fetch's result: keep it, or drop it
    as the identity was forgotten meanwhile (`Fetch` in `Worker::run`). -/
inductive Fetch where
  | Processing
  | Forgetting
  deriving DecidableEq, Repr

/-- The locals of `Worker::run`; the per-identity backoffs only set the
    refresh instants and are not kept. -/
structure Loop (Q : Type) where
  processing : HashMap Identity Fetch
  fetches : List Identity
  pending : Q

def Loop.new : Loop Q :=
  { processing := ∅, fetches := [], pending := KeyedPriorityQueue.new }

namespace Loop

variable (w : Loop Q)

/-- A request taken from the channel; `has_id` tells whether the identity
    is in the `certs` map when the loop looks. -/
def handle_request (has_id : Identity → Bool) (now : Nat) : Request → Loop Q
  | .Fetch id pri =>
    -- nobody is interested in the identity anymore
    if !has_id id then w
    else
      match w.processing.lookup id with
      | none => { w with pending := push_increase w.pending id ⟨pri, now⟩ }
      | some .Forgetting => { w with processing := w.processing.insert id .Processing }
      | some .Processing => w
  | .Forget id =>
    -- a later request started managing the identity again
    if has_id id then w
    else
      match w.processing.lookup id with
      | none => { w with pending := remove w.pending id }
      | some .Processing => { w with processing := w.processing.insert id .Forgetting }
      | some .Forgetting => w

/-- The next fetch started: the identity of greatest priority leaves
    `pending`. -/
def initiate_fetch : Except String (Loop Q) :=
  match pop w.pending with
  | some ((id, _), pending) =>
    .ok { pending := pending
          processing := w.processing.insert id .Processing
          fetches := w.fetches ++ [id] }
  | none => .error "pending should always have an element at this point"

end Loop

end Worker

/-- The certificate manager: the `certs` map and the request channel that
    the clients share with the worker, the requests clients are posting,
    and the worker loop. -/
structure ManagerState (Q : Type) where
  certs : HashMap Identity CertState
  requests : List Request
  posting : List Request
  worker : Worker.Loop Q

namespace ManagerState

def new : ManagerState Q :=
  { certs := ∅, requests := [], posting := [], worker := .new }

variable (m : ManagerState Q)

def has_id (id : Identity) : Bool :=
  (m.certs.lookup id).isSome

/-- The part of `start_fetch` under the lock: a new identity is entered and
    a fetch requested; a managed one is asked for again only to raise the
    priority of its first fetch. -/
def start_fetch (id : Identity) (pri : Priority) : ManagerState Q :=
  match m.certs.lookup id with
  | some st =>
    match init_pri st with
    | some existing_pri =>
      if existing_pri < pri then { m with posting := m.posting ++ [.Fetch id pri] } else m
    | none => m
  | none =>
    { m with certs := m.certs.insert id (.Initializing pri),
             posting := m.posting ++ [.Fetch id pri] }

/-- The part of `forget_certificate` under the lock. -/
def forget_certificate (id : Identity) : ManagerState Q :=
  match m.certs.lookup id with
  | some _ => { m with certs := m.certs.erase id, posting := m.posting ++ [.Forget id] }
  | none => m

/-- A client's `post` completes: the request enters the channel. -/
def post (req : Request) : ManagerState Q :=
  { m with posting := m.posting.erase req, requests := m.requests ++ [req] }

/-- Publishes the state of a managed identity; `false` when it is no longer
    managed. -/
def update_certs (id : Identity) (certs : CertState) : ManagerState Q × Bool :=
  match m.certs.lookup id with
  | some _ => ({ m with certs := m.certs.insert id certs }, true)
  | none => (m, false)

/-- The loop receives the oldest request. -/
def recv (now : Nat) : ManagerState Q :=
  match m.requests with
  | [] => m
  | req :: rest => { m with requests := rest, worker := m.worker.handle_request m.has_id now req }

/-- The fetch of `id` completed, with a certificate when `ok`; `refresh_at`
    is when the identity is due again. -/
def fetch_done (id : Identity) (ok : Bool) (refresh_at : Nat) : Except String (ManagerState Q) :=
  let w := m.worker
  let m := { m with worker := { w with fetches := w.fetches.erase id,
                                       processing := w.processing.erase id } }
  match w.processing.lookup id with
  | some .Processing =>
    let state := if ok then CertState.Available else CertState.Unavailable
    match m.update_certs id state with
    | (m, true) =>
      .ok { m with worker := { m.worker with
        pending := push_increase m.worker.pending id ⟨.Background, refresh_at⟩ } }
    | (m, false) => .ok m
  | some .Forgetting => .ok m
  | none => .error "processing should represent all fetches"

def start_next : Except String (ManagerState Q) :=
  match m.worker.initiate_fetch with
  | .ok w => .ok { m with worker := w }
  | .error e => .error e

end ManagerState

/-- The steps of the manager: client calls, completed sends, and the
    branches of the worker loop. -/
inductive ManagerEvent where
  | start_fetch (id : Identity) (pri : Priority)
  | forget_certificate (id : Identity)
  | post (req : Request)
  | recv (now : Nat)
  | fetch_done (id : Identity) (ok : Bool) (refresh_at : Nat)
  | start_next

namespace ManagerState

/-- When a step can happen: a send needs room in the channel, the loop
    receives from a non-empty channel, a completion is of a started fetch,
    and a new fetch starts when one is due (`maybe_sleep_until(next)`) and
    fewer than `concurrency` run. -/
def Enabled (concurrency : Nat) (m : ManagerState Q) : ManagerEvent → Prop
  | .post req => req ∈ m.posting ∧ m.requests.length < requestsCapacity
  | .recv _ => m.requests ≠ []
  | .fetch_done id _ _ => id ∈ m.worker.fetches
  | .start_next => (peek m.worker.pending).isSome ∧ m.worker.fetches.length < concurrency
  | _ => True

def step (m : ManagerState Q) : ManagerEvent → Except String (ManagerState Q)
  | .start_fetch id pri => .ok (m.start_fetch id pri)
  | .forget_certificate id => .ok (m.forget_certificate id)
  | .post req => .ok (m.post req)
  | .recv now => .ok (m.recv now)
  | .fetch_done id ok refresh_at => m.fetch_done id ok refresh_at
  | .start_next => m.start_next

end ManagerState

/-- The certificate manager as a machine: `SecretManager::new` starts it
    with no identity, and at most `concurrency` fetches run at a time. -/
def manager (concurrency : Nat) : Machine (ManagerState Q) ManagerEvent where
  init := ManagerState.new
  Enabled := ManagerState.Enabled concurrency
  step := ManagerState.step

-- ============================================================================
-- What each step does
-- ============================================================================

/-- A queue's keys after `push_increase`: the key is there whether or not
    its priority was raised. -/
theorem mem_keys_push_increase {Q K P : Type} [LT P] [DecidableRel (α := P) (· < ·)]
    [KeyedPriorityQueue Q K P] (kp : Q) (key k : K) (priority : P) :
    k ∈ keys (push_increase kp key priority) ↔ k = key ∨ k ∈ keys kp := by
  unfold push_increase
  split
  · exact KeyedPriorityQueue.mem_keys_push kp key k priority
  · rename_i hle
    -- a priority that is not raised is that of a key already queued
    have hkey : key ∈ keys kp := by
      rw [← KeyedPriorityQueue.get_priority_isSome kp key]
      cases h : get_priority kp key with
      | none => simp [h] at hle
      | some p => rfl
    constructor
    · exact .inr
    · rintro (rfl | hk)
      · exact hkey
      · exact hk

namespace Worker.Loop

variable (w : Loop Q) (has_id : Identity → Bool) (now : Nat)

/-- Everything handling a request can do: leave the loop as it is, queue
    a managed identity with no fetch running, keep the result of a running
    fetch it was to drop, unqueue an identity no longer managed, or drop
    the result of its running fetch. -/
theorem handle_request_cases (r : Request) :
    w.handle_request has_id now r = w ∨
    (∃ id pri, has_id id = true ∧ w.processing.lookup id = none ∧
      w.handle_request has_id now r = { w with pending := push_increase w.pending id ⟨pri, now⟩ }) ∨
    (∃ id, has_id id = true ∧ w.processing.lookup id = some .Forgetting ∧
      w.handle_request has_id now r = { w with processing := w.processing.insert id .Processing }) ∨
    (∃ id, has_id id = false ∧ w.processing.lookup id = none ∧
      w.handle_request has_id now r = { w with pending := remove w.pending id }) ∨
    (∃ id, has_id id = false ∧ w.processing.lookup id = some .Processing ∧
      w.handle_request has_id now r = { w with processing := w.processing.insert id .Forgetting }) := by
  cases r with
  | Fetch id pri =>
    cases hid : has_id id
    · exact .inl (by simp [handle_request, hid])
    · cases hp : w.processing.lookup id with
      | none => exact .inr (.inl ⟨id, pri, hid, hp, by simp [handle_request, hid, hp]⟩)
      | some f =>
        cases f with
        | Processing => exact .inl (by simp [handle_request, hid, hp])
        | Forgetting => exact .inr (.inr (.inl ⟨id, hid, hp, by simp [handle_request, hid, hp]⟩))
  | Forget id =>
    cases hid : has_id id
    · cases hp : w.processing.lookup id with
      | none => exact .inr (.inr (.inr (.inl ⟨id, hid, hp, by simp [handle_request, hid, hp]⟩)))
      | some f =>
        cases f with
        | Processing =>
          exact .inr (.inr (.inr (.inr ⟨id, hid, hp, by simp [handle_request, hid, hp]⟩)))
        | Forgetting => exact .inl (by simp [handle_request, hid, hp])
    · exact .inl (by simp [handle_request, hid])

/-- Handling a request starts and finishes no fetch. -/
@[simp] theorem handle_request_fetches (r : Request) :
    (w.handle_request has_id now r).fetches = w.fetches := by
  rcases w.handle_request_cases has_id now r with
    h | ⟨_, _, -, -, h⟩ | ⟨_, -, -, h⟩ | ⟨_, -, -, h⟩ | ⟨_, -, -, h⟩ <;> rw [h]

/-- Handling a request only flips the state of a fetch already started. -/
theorem handle_request_processing_isSome (r : Request) (k : Identity) :
    ((w.handle_request has_id now r).processing.lookup k).isSome =
      (w.processing.lookup k).isSome := by
  rcases w.handle_request_cases has_id now r with
    h | ⟨_, _, -, -, h⟩ | ⟨id, -, hp, h⟩ | ⟨_, -, -, h⟩ | ⟨id, -, hp, h⟩
  · rw [h]
  · rw [h]
  · rw [h]
    exact HashMap.isSome_lookup_insert_of_isSome (by simp [hp]) _ k
  · rw [h]
  · rw [h]
    exact HashMap.isSome_lookup_insert_of_isSome (by simp [hp]) _ k

/-- Handling a request queues only an identity with no fetch started. -/
theorem mem_keys_handle_request (r : Request) (k : Identity)
    (hk : k ∈ keys (w.handle_request has_id now r).pending) :
    k ∈ keys w.pending ∨ w.processing.lookup k = none := by
  rcases w.handle_request_cases has_id now r with
    h | ⟨id, pri, -, hp, h⟩ | ⟨_, -, -, h⟩ | ⟨id, -, -, h⟩ | ⟨_, -, -, h⟩ <;> rw [h] at hk
  · exact .inl hk
  · rcases (mem_keys_push_increase _ _ _ _).mp hk with rfl | hk
    · exact .inr hp
    · exact .inl hk
  · exact .inl hk
  · exact .inl ((KeyedPriorityQueue.mem_keys_remove _ _ _).mp hk).2
  · exact .inl hk

end Worker.Loop

namespace ManagerState

variable (m : ManagerState Q)

/-! ### The clients' steps leave the loop alone -/

section Clients

-- the clients do not touch the queue
omit [KeyedPriorityQueue Q Identity PendingPriority]

@[simp] theorem start_fetch_worker (id : Identity) (pri : Priority) :
    (m.start_fetch id pri).worker = m.worker := by
  unfold start_fetch
  split
  · split
    · split <;> rfl
    · rfl
  · rfl

@[simp] theorem start_fetch_requests (id : Identity) (pri : Priority) :
    (m.start_fetch id pri).requests = m.requests := by
  unfold start_fetch
  split
  · split
    · split <;> rfl
    · rfl
  · rfl

/-- After `start_fetch` the identity is managed, and a new one has its
    fetch on the way. -/
theorem has_id_start_fetch (id k : Identity) (pri : Priority) :
    (m.start_fetch id pri).has_id k = true ↔ m.has_id k = true ∨ k = id := by
  unfold start_fetch has_id
  cases h : m.certs.lookup id with
  | some st =>
    simp only
    have hid : (m.certs.lookup id).isSome := by simp [h]
    have hsame : ∀ m' : ManagerState Q, m'.certs = m.certs →
        ((m'.certs.lookup k).isSome = true ↔ (m.certs.lookup k).isSome = true ∨ k = id) := by
      rintro m' hc
      rw [hc]
      constructor
      · exact .inl
      · rintro (hk | rfl)
        · exact hk
        · exact hid
    split
    · split
      · exact hsame _ rfl
      · exact hsame _ rfl
    · exact hsame _ rfl
  | none =>
    by_cases hk : k = id
    · subst hk
      simp
    · simp [AList.lookup_insert_ne hk, hk]

theorem mem_posting_start_fetch (id : Identity) (pri : Priority) (r : Request)
    (hr : r ∈ m.posting) : r ∈ (m.start_fetch id pri).posting := by
  unfold start_fetch
  split
  · split
    · split
      · exact List.mem_append_left _ hr
      · exact hr
    · exact hr
  · exact List.mem_append_left _ hr

/-- A new identity's fetch is posted. -/
theorem fetch_posted_start_fetch (id : Identity) (pri : Priority) (h : m.has_id id = false) :
    .Fetch id pri ∈ (m.start_fetch id pri).posting := by
  have hn : m.certs.lookup id = none := by simpa [has_id] using h
  simp [start_fetch, hn]

@[simp] theorem forget_certificate_worker (id : Identity) :
    (m.forget_certificate id).worker = m.worker := by
  unfold forget_certificate
  split <;> rfl

@[simp] theorem forget_certificate_requests (id : Identity) :
    (m.forget_certificate id).requests = m.requests := by
  unfold forget_certificate
  split <;> rfl

theorem has_id_forget_certificate (id k : Identity) :
    (m.forget_certificate id).has_id k = true ↔ m.has_id k = true ∧ k ≠ id := by
  unfold forget_certificate has_id
  split
  · by_cases hk : k = id
    · subst hk
      simp
    · simp [AList.lookup_erase_ne hk, hk]
  · rename_i h
    constructor
    · intro hk
      refine ⟨hk, ?_⟩
      rintro rfl
      simp [h] at hk
    · exact And.left

theorem mem_posting_forget_certificate (id : Identity) (r : Request) (hr : r ∈ m.posting) :
    r ∈ (m.forget_certificate id).posting := by
  unfold forget_certificate
  split
  · exact List.mem_append_left _ hr
  · exact hr

@[simp] theorem post_worker (req : Request) : (m.post req).worker = m.worker := rfl

@[simp] theorem has_id_post (req : Request) : (m.post req).has_id = m.has_id := rfl

/-- A completed send moves a request from the client to the channel. -/
theorem mem_post (req r : Request) (hr : r ∈ m.requests ∨ r ∈ m.posting) :
    r ∈ (m.post req).requests ∨ r ∈ (m.post req).posting := by
  simp only [post, List.mem_append, List.mem_singleton]
  by_cases he : r = req
  · exact .inl (.inr he)
  · rcases hr with hr | hr
    · exact .inl (.inl hr)
    · exact .inr ((List.mem_erase_of_ne he).mpr hr)

end Clients

/-! ### The loop's steps -/

@[simp] theorem has_id_recv (now : Nat) : (m.recv now).has_id = m.has_id := by
  unfold recv
  split <;> rfl

@[simp] theorem recv_posting (now : Nat) : (m.recv now).posting = m.posting := by
  unfold recv
  split <;> rfl

theorem recv_cons (now : Nat) (req : Request) (rest : List Request)
    (h : m.requests = req :: rest) :
    m.recv now = { m with requests := rest,
                          worker := m.worker.handle_request m.has_id now req } := by
  simp [recv, h]

/-- Everything a completed fetch does to the state that the invariants
    read: the fetch is dropped from `fetches` and `processing`, and the
    identity is queued again when its result was kept and it is still
    managed. -/
theorem fetch_done_eq_ok (id : Identity) (ok : Bool) (t : Nat) {m' : ManagerState Q}
    (h : m.fetch_done id ok t = .ok m') :
    ∃ f, m.worker.processing.lookup id = some f ∧
      m'.requests = m.requests ∧ m'.posting = m.posting ∧ m'.has_id = m.has_id ∧
      m'.worker.fetches = m.worker.fetches.erase id ∧
      m'.worker.processing = m.worker.processing.erase id ∧
      ∀ k, k ∈ keys m'.worker.pending ↔
        k ∈ keys m.worker.pending ∨ (k = id ∧ f = .Processing ∧ m.has_id id = true) := by
  unfold fetch_done at h
  cases hp : m.worker.processing.lookup id with
  | none => simp [hp] at h
  | some f =>
    refine ⟨f, rfl, ?_⟩
    cases f with
    | Forgetting =>
      simp only [hp, Except.ok.injEq] at h
      subst h
      exact ⟨rfl, rfl, rfl, rfl, rfl, fun k => by simp⟩
    | Processing =>
      simp only [hp, update_certs] at h
      cases hc : m.certs.lookup id with
      | none =>
        simp only [hc, Except.ok.injEq] at h
        subst h
        have hn : m.has_id id = false := by simp [has_id, hc]
        exact ⟨rfl, rfl, rfl, rfl, rfl, fun k => by simp [hn]⟩
      | some st =>
        simp only [hc, Except.ok.injEq] at h
        subst h
        have hs : m.has_id id = true := by simp [has_id, hc]
        -- publishing the state changes a value of `certs`, not its keys
        have hkeys : ∀ v, (fun k => ((m.certs.insert id v).lookup k).isSome) = m.has_id := by
          intro v
          funext k
          by_cases hk : k = id
          · subst hk
            simp [has_id, hc]
          · simp [has_id, AList.lookup_insert_ne hk]
        refine ⟨rfl, rfl, hkeys _, rfl, rfl, fun k => ?_⟩
        rw [mem_keys_push_increase]
        simp only [hs, and_true]
        exact or_comm

/-- A fetch completes without a panic when the loop has it in
    `processing`. -/
theorem fetch_done_isOk (id : Identity) (ok : Bool) (t : Nat)
    (h : (m.worker.processing.lookup id).isSome) : ∃ m', m.fetch_done id ok t = .ok m' := by
  obtain ⟨f, hf⟩ := Option.isSome_iff_exists.mp h
  unfold fetch_done
  cases f with
  | Forgetting =>
    simp only [hf]
    exact ⟨_, rfl⟩
  | Processing =>
    simp only [hf]
    split
    · exact ⟨_, rfl⟩
    · exact ⟨_, rfl⟩

/-- The next fetch is of an identity that was queued, and leaves the queue
    with the others. -/
theorem start_next_eq_ok {m' : ManagerState Q} (h : m.start_next = .ok m') :
    ∃ id p pending, (id, p) ∈ entries m.worker.pending ∧
      (∀ k, k ∈ keys pending ↔ k ≠ id ∧ k ∈ keys m.worker.pending) ∧
      m' = { m with worker := { pending := pending,
                                processing := m.worker.processing.insert id .Processing,
                                fetches := m.worker.fetches ++ [id] } } := by
  unfold start_next Worker.Loop.initiate_fetch at h
  cases hp : pop m.worker.pending with
  | none => simp [hp] at h
  | some r =>
    obtain ⟨⟨id, p⟩, q⟩ := r
    simp only [hp, Except.ok.injEq] at h
    exact ⟨id, p, q, KeyedPriorityQueue.pop_mem _ _ _ hp, KeyedPriorityQueue.mem_keys_pop hp,
      h.symm⟩

/-- The next fetch starts without a panic when one is queued. -/
theorem start_next_isOk (h : (peek m.worker.pending).isSome) : ∃ m', m.start_next = .ok m' := by
  have hpop := (KeyedPriorityQueue.pop_isSome _).mpr h
  obtain ⟨r, hr⟩ := Option.isSome_iff_exists.mp hpop
  unfold start_next Worker.Loop.initiate_fetch
  rw [hr]
  exact ⟨_, rfl⟩

end ManagerState

end Ztunnel
