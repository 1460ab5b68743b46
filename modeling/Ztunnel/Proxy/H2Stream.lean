/-
  Ztunnel.Proxy.H2Stream

  How an HBONE connection counts its streams (src/proxy/h2/client.rs,
  src/proxy/h2.rs).  `send_request` adds one to the connection's
  `stream_count` before it sends, and takes it back if the request fails;
  otherwise the stream's two halves each get a `DropCounter`, which share
  an `Arc<()>` and the count.  Dropping a half swaps the shared `Arc` out
  and calls `Arc::into_inner` on it, which returns the value to the last
  owner only and otherwise gives its reference up; on `None` the drop
  takes one from the count.  `will_be_at_max_streamcount` reads the count
  when the pool decides whether to reuse the connection.

  The connection and its streams are a state machine whose events are the
  atomic steps of these calls in any interleaving: the `fetch_add` of a
  request, its outcome, and for each half the `into_inner` and the
  `fetch_sub` of its drop.  `AtomicU16` arithmetic wraps.  `decrements`
  counts the `fetch_sub`s a stream's drops made; the code does not keep
  it.
-/

import Mathlib
import Ztunnel.Lib.Machine

namespace Ztunnel

namespace H2

/-- Where a half of a stream is in dropping its `DropCounter`. -/
inductive Half where
  | Live
  /-- `Arc::into_inner` returned `None`; the `fetch_sub` is still to run -/
  | Decrementing
  | Gone
  deriving DecidableEq, Repr

/-- `H2StreamReadHalf` and `H2StreamWriteHalf`. -/
inductive Side where
  | read
  | write
  deriving DecidableEq, Repr

/-- A stream's two halves, and the strong count of the `Arc<()>` their
    `DropCounter`s share. -/
structure Stream where
  read : Half
  write : Half
  half_dropped : Nat
  decrements : Nat
  deriving DecidableEq, Repr

namespace Stream

def half (st : Stream) : Side → Half
  | .read => st.read
  | .write => st.write

def setHalf (st : Stream) : Side → Half → Stream
  | .read, h => { st with read := h }
  | .write, h => { st with write := h }

/-- `DropCounter::new`: two counters over one `Arc<()>`. -/
def new : Stream := ⟨.Live, .Live, 2, 0⟩

/-- The `Arc::into_inner` of `Drop for DropCounter` on one side: the last
    owner gets the value and the drop ends; any other gives its reference
    up and goes on to the decrement. -/
def into_inner (st : Stream) (side : Side) : Stream :=
  if st.half_dropped = 1 then { st.setHalf side .Gone with half_dropped := 0 }
  else { st.setHalf side .Decrementing with half_dropped := st.half_dropped - 1 }

/-- The `fetch_sub` after `into_inner` returned `None`. -/
def decrement (st : Stream) (side : Side) : Stream :=
  { st.setHalf side .Gone with decrements := st.decrements + 1 }

end Stream

/-- The connection's count and its streams; `requests` counts the calls of
    `send_request` between their `fetch_add` and their outcome. -/
structure State where
  stream_count : UInt16
  max_allowed_streams : UInt16
  requests : Nat
  streams : List Stream
  deriving DecidableEq, Repr

inductive Event where
  /-- the `fetch_add` of `send_request` -/
  | send_start
  /-- `internal_send` failed: the `fetch_sub` of the error path -/
  | send_fail
  /-- `internal_send` succeeded: the stream and its `DropCounter`s -/
  | send_ok
  /-- the `Arc::into_inner` of dropping a half -/
  | drop_half (i : Nat) (side : Side)
  /-- the `fetch_sub` of a drop whose `into_inner` returned `None` -/
  | finish_drop (i : Nat) (side : Side)
  deriving DecidableEq, Repr

namespace State

def step (s : State) : Event → State
  | .send_start => { s with stream_count := s.stream_count + 1, requests := s.requests + 1 }
  | .send_fail => { s with stream_count := s.stream_count - 1, requests := s.requests - 1 }
  | .send_ok => { s with requests := s.requests - 1, streams := s.streams ++ [Stream.new] }
  | .drop_half i side => { s with streams := s.streams.modify i (·.into_inner side) }
  | .finish_drop i side =>
    { s with stream_count := s.stream_count - 1, streams := s.streams.modify i (·.decrement side) }

/-- An outcome for a request that was sent, and a drop for a half that is
    there to drop or whose drop is under way. -/
def Enabled (s : State) : Event → Prop
  | .send_start => True
  | .send_fail | .send_ok => 0 < s.requests
  | .drop_half i side => ∃ st, s.streams[i]? = some st ∧ st.half side = .Live
  | .finish_drop i side => ∃ st, s.streams[i]? = some st ∧ st.half side = .Decrementing

/-- `will_be_at_max_streamcount`: one more request would reach the
    maximum. -/
def will_be_at_max_streamcount (s : State) : Bool :=
  s.stream_count + 1 ≥ s.max_allowed_streams

end State

/-- A connection of a given maximum with the streams it opens. -/
def client (max_allowed_streams : UInt16) : Machine State Event where
  init := ⟨0, max_allowed_streams, 0, []⟩
  Enabled := State.Enabled
  step s e := .ok (s.step e)

end H2

namespace H2

/-! ## Each stream is counted once -/

section Modify

variable {α : Type}

/-- Changing one element of a list changes a sum over it by that element. -/
theorem sum_map_modify (f : α → α) (g : α → Nat) :
    ∀ (l : List α) (i : Nat) (a : α), l[i]? = some a →
      ((l.modify i f).map g).sum + g a = (l.map g).sum + g (f a)
  | [], _, _, h => by simp at h
  | b :: l, 0, a, h => by
    simp only [List.getElem?_cons_zero, Option.some.injEq] at h
    subst h
    simp only [List.modify_zero_cons, List.map_cons, List.sum_cons]
    omega
  | b :: l, i + 1, a, h => by
    simp only [List.getElem?_cons_succ] at h
    have ih := sum_map_modify f g l i a h
    simp only [List.modify_succ_cons, List.map_cons, List.sum_cons]
    omega

/-- A property of every element survives a change of one element that
    keeps it. -/
theorem forall_mem_modify {P : α → Prop} (f : α → α) :
    ∀ (l : List α) (i : Nat), (∀ x ∈ l, P x) → (∀ x, l[i]? = some x → P (f x)) →
      ∀ x ∈ l.modify i f, P x
  | [], _, _, _ => by simp
  | b :: l, 0, h, hf => by
    simp only [List.modify_zero_cons, List.forall_mem_cons]
    exact ⟨hf b rfl, fun x hx => h x (List.mem_cons_of_mem _ hx)⟩
  | b :: l, i + 1, h, hf => by
    simp only [List.modify_succ_cons, List.forall_mem_cons]
    exact ⟨h b List.mem_cons_self,
      forall_mem_modify f l i (fun x hx => h x (List.mem_cons_of_mem _ hx)) hf⟩

/-- The same, for the change of the element found at `i`. -/
theorem forall_mem_modify_of_getElem? {P : α → Prop} (f : α → α) {l : List α} {i : Nat} {a : α}
    (h : ∀ x ∈ l, P x) (hget : l[i]? = some a) (ha : P (f a)) : ∀ x ∈ l.modify i f, P x := by
  refine forall_mem_modify f l i h fun x hx => ?_
  rw [hget] at hx
  cases hx
  exact ha

end Modify

namespace Stream

/-- The halves whose drop has passed `into_inner` but not yet
    decremented. -/
def decrementing (st : Stream) : Nat :=
  (if st.read = .Decrementing then 1 else 0) + (if st.write = .Decrementing then 1 else 0)

/-- What a stream holds of the count: one while both halves live, and one
    for a drop between its `into_inner` and its `fetch_sub`. -/
def counted (st : Stream) : Nat :=
  (if st.read = .Live ∧ st.write = .Live then 1 else 0) + st.decrementing

/-- The halves not yet dropped, each holding a reference to the shared
    `Arc`. -/
def live (st : Stream) : Nat :=
  (if st.read = .Live then 1 else 0) + (if st.write = .Live then 1 else 0)

/-- The shared `Arc` has a reference per live half, and the stream is
    either still counted or was decremented, once. -/
structure Inv (st : Stream) : Prop where
  arc : st.half_dropped = st.live
  once : st.decrements + st.counted = 1

theorem inv_new : new.Inv := ⟨rfl, rfl⟩

/-- `into_inner` on a live half keeps what the stream holds of the count:
    the first drop moves it from both halves to itself, and the second
    finds itself the last owner. -/
theorem Inv.into_inner {st : Stream} {side : Side} (hi : st.Inv) (hl : st.half side = .Live) :
    (st.into_inner side).Inv ∧ (st.into_inner side).counted = st.counted := by
  obtain ⟨r, w, a, d⟩ := st
  obtain ⟨harc, honce⟩ := hi
  -- one case per side and per state of the two halves
  refine ⟨⟨?_, ?_⟩, ?_⟩ <;> cases side <;> cases r <;> cases w <;>
    simp_all [half, Stream.into_inner, setHalf, counted, decrementing, live]

/-- The `fetch_sub` of a drop takes its one off what the stream holds. -/
theorem Inv.decrement {st : Stream} {side : Side} (hi : st.Inv)
    (hd : st.half side = .Decrementing) :
    (st.decrement side).Inv ∧ (st.decrement side).counted + 1 = st.counted := by
  obtain ⟨r, w, a, d⟩ := st
  obtain ⟨harc, honce⟩ := hi
  refine ⟨⟨?_, ?_⟩, ?_⟩ <;> cases side <;> cases r <;> cases w <;>
    simp_all [half, Stream.decrement, setHalf, counted, decrementing, live]

end Stream

namespace State

/-- What the streams hold of the count. -/
def counted (s : State) : Nat := (s.streams.map Stream.counted).sum

/-- The count, modulo 2^16, is the requests under way and what the streams
    hold of it, and each stream is counted once. -/
structure Inv (s : State) : Prop where
  count : s.stream_count.toNat = (s.requests + s.counted) % 2 ^ 16
  streams : ∀ st ∈ s.streams, st.Inv

theorem inv_init (max_allowed_streams : UInt16) : (client max_allowed_streams).init.Inv :=
  ⟨rfl, by simp [client]⟩

/-- The step lemma: every enabled step keeps the invariant. -/
theorem Inv.step {s : State} {e : Event} (hi : s.Inv) (he : s.Enabled e) : (s.step e).Inv := by
  cases e with
  | send_start =>
    refine ⟨?_, hi.streams⟩
    simp only [State.step, counted, UInt16.toNat_add, UInt16.toNat_one, hi.count]
    omega
  | send_fail =>
    have hreq : 0 < s.requests := he
    refine ⟨?_, hi.streams⟩
    simp only [State.step, counted, UInt16.toNat_sub, UInt16.toNat_one, hi.count]
    omega
  | send_ok =>
    have hreq : 0 < s.requests := he
    refine ⟨?_, ?_⟩
    · simp only [State.step, counted, List.map_append, List.sum_append, hi.count]
      simp [Stream.counted, Stream.new, Stream.decrementing]
      omega
    · simp only [State.step, List.mem_append, List.mem_singleton]
      rintro st (hst | rfl)
      · exact hi.streams st hst
      · exact Stream.inv_new
  | drop_half i side =>
    obtain ⟨st, hget, hlive⟩ := he
    obtain ⟨hinv, hkeep⟩ := (hi.streams st (List.mem_of_getElem? hget)).into_inner hlive
    have hsum := sum_map_modify (·.into_inner side) Stream.counted s.streams i st hget
    refine ⟨?_, ?_⟩
    · simp only [State.step, counted, hi.count]
      omega
    · exact forall_mem_modify_of_getElem? _ hi.streams hget hinv
  | finish_drop i side =>
    obtain ⟨st, hget, hdec⟩ := he
    obtain ⟨hinv, hone⟩ := (hi.streams st (List.mem_of_getElem? hget)).decrement hdec
    have hsum := sum_map_modify (·.decrement side) Stream.counted s.streams i st hget
    refine ⟨?_, ?_⟩
    · simp only [State.step, counted, UInt16.toNat_sub, UInt16.toNat_one, hi.count]
      omega
    · exact forall_mem_modify_of_getElem? _ hi.streams hget hinv

/-- The run lemma: every reachable state keeps the invariant. -/
theorem inv_of_reachable {max_allowed_streams : UInt16} {s : State}
    (hs : (client max_allowed_streams).Reachable s) : s.Inv :=
  Machine.Reachable.inv _ (inv_init max_allowed_streams)
    (fun _ _ _ hi he hok => by
      cases hok
      exact hi.step he) hs

/-- In every interleaving of requests and drops the count is, modulo
    2^16, the requests under way, the streams whose halves both live and
    the drops between their `into_inner` and their `fetch_sub`.  Each
    stream is counted once: while both halves live, or else by its one
    decrement, done or under way since the first half was dropped. -/
theorem stream_count_of_reachable {max_allowed_streams : UInt16} {s : State}
    (hs : (client max_allowed_streams).Reachable s) :
    s.stream_count = UInt16.ofNat (s.requests + (s.streams.map Stream.counted).sum) ∧
      ∀ st ∈ s.streams, st.decrements + st.counted = 1 ∧
        (st.read ≠ .Live ∨ st.write ≠ .Live → st.decrements = 1 ∨ st.decrementing = 1) := by
  have hi := inv_of_reachable hs
  refine ⟨?_, fun st hst => ⟨(hi.streams st hst).once, fun hdropped => ?_⟩⟩
  · rw [← UInt16.toNat_inj, hi.count, UInt16.toNat_ofNat']
    rfl
  · -- with a half dropped, the stream holds only what its drops hold
    have honce := (hi.streams st hst).once
    have hboth : ¬(st.read = .Live ∧ st.write = .Live) := by
      rintro ⟨hr, hw⟩
      rcases hdropped with h | h <;> contradiction
    simp only [Stream.counted, hboth, if_false, Nat.zero_add] at honce
    omega

/-- The read half of a connection's one stream was dropped, and its write
    half lives on. -/
def readDropped : State := ⟨0, 2, 0, [⟨.Gone, .Live, 1, 1⟩]⟩

/-- A request, its stream, and the whole drop of the read half. -/
theorem readDropped_reachable : (client 2).Reachable readDropped := by
  have r1 : (client 2).Reachable _ := .step .send_start .init trivial rfl
  have r2 : (client 2).Reachable _ := .step .send_ok r1 Nat.one_pos rfl
  have r3 : (client 2).Reachable _ := .step (.drop_half 0 .read) r2 ⟨_, rfl, rfl⟩ rfl
  have r4 : (client 2).Reachable _ := .step (.finish_drop 0 .read) r3 ⟨_, rfl, rfl⟩ rfl
  exact r4

theorem stream_count_of_reachable_readDropped :
    (client 2).Reachable readDropped ∧
      readDropped.stream_count =
          UInt16.ofNat (readDropped.requests + (readDropped.streams.map Stream.counted).sum) ∧
        ∀ st ∈ readDropped.streams, st.decrements + st.counted = 1 ∧
          (st.read ≠ .Live ∨ st.write ≠ .Live → st.decrements = 1 ∨ st.decrementing = 1) :=
  ⟨readDropped_reachable, stream_count_of_reachable readDropped_reachable⟩

/-- The first drop decrements: after the read half's drop the count is
    zero while the write half lives, its stream has been decremented, and
    a connection of at most two streams takes another request. -/
theorem first_drop_decrements :
    (client 2).Reachable readDropped ∧
      (readDropped.streams.filter fun st => st.read = .Live ∨ st.write = .Live).length = 1 ∧
      (∀ st ∈ readDropped.streams, st.decrements = 1) ∧
      readDropped.stream_count = 0 ∧ readDropped.will_be_at_max_streamcount = false :=
  ⟨readDropped_reachable, by decide, by decide, rfl, by decide⟩

end State

end H2

end Ztunnel
