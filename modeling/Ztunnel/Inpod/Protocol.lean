/-
  Ztunnel.Inpod.Protocol

  How a message of the node agent is read (src/inpod/protocol.rs):
  `read_message` receives the bytes of a `WorkloadRequest` and its control
  messages, `maybe_get_fd` takes the network namespace's descriptor out of
  the control messages, and `get_workload_data` decodes the request and
  pairs the descriptor with an `AddWorkload`.

  A descriptor is owned: it is either handed on, in the `AddWorkload`, or
  closed when it is dropped.  The model records the descriptors closed, in
  order, beside the result; a drop of a local on a return or on a panic's
  unwinding closes what it owns, and descriptors that were never taken
  out of a `ScmRights` are not closed.  A panic is an error outside the
  function's `Result`.  The socket, the drain and protobuf decoding are
  outside: `read_message` starts from what `recvmsg` returned, and
  `decode` stands for `WorkloadRequest::decode`.

  Over any list of control messages `maybe_get_fd` panics exactly when an
  empty `ScmRights` follows exactly one descriptor (`maybe_get_fd_panics_iff`).
  The buffer `read_message` receives into holds one control message, and
  on one message it never panics and accounts for every descriptor
  (`maybe_get_fd_receivable`).
-/

import Ztunnel.Lib.Except
import Ztunnel.Inpod.StateManager

namespace Ztunnel

namespace Inpod

namespace Protocol

/-- A descriptor, by its number. -/
abbrev RawFd := Int

inductive ControlMessageOwned where
  | ScmRights (fds : List RawFd)
  /-- any other control message, which is logged and skipped -/
  | Other
  deriving DecidableEq, Repr

/-- The descriptors a control message carries. -/
def ControlMessageOwned.fds : ControlMessageOwned → List RawFd
  | .ScmRights fds => fds
  | .Other => []

/-- The descriptors the control messages carry, in order. -/
def received (cmsgs : List ControlMessageOwned) : List RawFd :=
  cmsgs.flatMap ControlMessageOwned.fds

/-! ## `maybe_get_fd` -/

/-- The locals of `maybe_get_fd`'s loop, and the descriptors it closed. -/
structure FdLoop where
  our_netns : Option RawFd
  total_fds : Nat
  closed : List RawFd
  deriving DecidableEq, Repr

namespace FdLoop

def init : FdLoop := ⟨none, 0, []⟩

/-- One control message.  Unless the total is one, every descriptor of the
    message is owned and dropped; at a total of one the first is kept, and
    the value it replaces is dropped. -/
def step (s : FdLoop) : ControlMessageOwned → Except String FdLoop
  | .ScmRights fds =>
    let total_fds := s.total_fds + fds.length
    if total_fds ≠ 1 then .ok { s with total_fds, closed := s.closed ++ fds }
    else do
      let fd ← index fds 0
      .ok { our_netns := some fd, total_fds, closed := s.closed ++ s.our_netns.toList }
  | .Other => .ok s

/-- The loop: a panic stops it, in the state it was in. -/
def run : FdLoop → List ControlMessageOwned → Except (String × FdLoop) FdLoop
  | s, [] => .ok s
  | s, m :: ms =>
    match s.step m with
    | .error p => .error (p, s)
    | .ok s' => run s' ms

end FdLoop

/-- What a function returns, with the descriptors it closed. -/
structure Outcome (α : Type) where
  result : Except String (Except String α)
  closed : List RawFd

/-- `maybe_get_fd`: after the loop, more than one descriptor in all is an
    error.  Returning the error, or unwinding from a panic, drops the kept
    descriptor; the debug-only `validate_ns` changes nothing. -/
def maybe_get_fd (cmsgs : List ControlMessageOwned) : Outcome (Option RawFd) :=
  match FdLoop.init.run cmsgs with
  | .error (p, s) => ⟨.error p, s.closed ++ s.our_netns.toList⟩
  | .ok s =>
    if s.total_fds > 1 then
      ⟨.ok (.error ("Expected 1 FD, got " ++ toString s.total_fds)), s.closed ++ s.our_netns.toList⟩
    else ⟨.ok (.ok s.our_netns), s.closed⟩

/-! ## `get_workload_data` and `read_message` -/

/-- The payload of a `WorkloadRequest`. -/
inductive Payload where
  | Add (uid : String) (workload_info : Option WorkloadInfo)
  | Keep (uid : String)
  | Del (uid : String)
  | SnapshotSent
  deriving DecidableEq, Repr

structure WorkloadRequest where
  payload : Option Payload
  deriving DecidableEq, Repr

/-- The flags of `recvmsg` that `get_workload_data` reads. -/
structure MsgFlags where
  MSG_TRUNC : Bool
  MSG_CTRUNC : Bool
  deriving DecidableEq, Repr

/-- `WorkloadMessage` as the protocol makes it: an `AddWorkload` owns the
    descriptor of the workload's network namespace, which the state manager
    later reads the namespace's id from. -/
inductive WorkloadMessage where
  | AddWorkload (netns : RawFd) (workload_uid : WorkloadUid) (workload_info : Option WorkloadInfo)
  | KeepWorkload (workload_uid : WorkloadUid)
  | WorkloadSnapshotSent
  | DelWorkload (workload_uid : WorkloadUid)
  deriving DecidableEq, Repr

/-- The descriptor a message owns. -/
def WorkloadMessage.netns : WorkloadMessage → Option RawFd
  | .AddWorkload netns _ _ => some netns
  | _ => none

section Decode

variable (decode : List UInt8 → Except String WorkloadRequest)

/-- `get_workload_data`, after the descriptors are taken: every error drops
    the descriptor, and only an `Add` takes it. -/
def get_workload_data (data : List UInt8) (maybe_our_fd : Option RawFd) (flags : MsgFlags) :
    Except String WorkloadMessage :=
  if flags.MSG_TRUNC then .error "received truncated message"
  else if flags.MSG_CTRUNC then .error "received truncated message"
  else do
    let req ← decode data
    let payload ← ok_or req.payload "no payload"
    match payload, maybe_our_fd with
    | .Add uid workload_info, some our_netns =>
      pure (.AddWorkload our_netns ⟨uid⟩ workload_info)
    | .Add _ _, none => throw "No control message"
    | _, some _ => throw "Unexpected control message"
    | .Keep uid, none => pure (.KeepWorkload ⟨uid⟩)
    | .Del uid, none => pure (.DelWorkload ⟨uid⟩)
    | .SnapshotSent, none => pure .WorkloadSnapshotSent

/-- What `recvmsg` returned: the bytes, the flags and the control messages,
    whose parse can fail. -/
structure RecvMsg where
  bytes : List UInt8
  flags : MsgFlags
  cmsgs : Except String (List ControlMessageOwned)

/-- `read_message` from the return of `recvmsg` on: no bytes is the end of
    the stream; the descriptors are taken first, so that an error of the
    request closes them. -/
def read_message (res : RecvMsg) : Outcome (Option WorkloadMessage) :=
  if res.bytes = [] then ⟨.ok (.ok none), []⟩
  else
    match res.cmsgs with
    | .error e => ⟨.ok (.error e), []⟩
    | .ok cmsgs =>
      let fd := maybe_get_fd cmsgs
      match fd.result with
      | .error p => ⟨.error p, fd.closed⟩
      | .ok (.error e) => ⟨.ok (.error e), fd.closed⟩
      | .ok (.ok maybe_our_fd) =>
        match get_workload_data decode res.bytes maybe_our_fd res.flags with
        | .ok msg => ⟨.ok (.ok (some msg)), fd.closed⟩
        | .error e => ⟨.ok (.error e), fd.closed ++ maybe_our_fd.toList⟩

end Decode

end Protocol

end Inpod

namespace Inpod

namespace Protocol

/-! ## The loop keeps every descriptor it takes -/

namespace FdLoop

/-- What the loop keeps of the descriptors received so far: it counts them,
    each is closed or kept, and while at most one came the kept one is
    it. -/
structure Inv (s : FdLoop) (rcv : List RawFd) : Prop where
  total : s.total_fds = rcv.length
  owned : (s.closed ++ s.our_netns.toList).Perm rcv
  kept : s.total_fds ≤ 1 → s.our_netns = rcv.head?

theorem inv_init : init.Inv [] := ⟨rfl, .refl _, fun _ => rfl⟩

/-- `fds[0]` on an empty `ScmRights` at a total of one. -/
theorem step_empty_panic {s : FdLoop} (h : s.total_fds = 1) :
    s.step (.ScmRights []) = .error "index out of bounds: the len is 0 but the index is 0" := by
  have hidx : index ([] : List RawFd) 0 =
      .error "index out of bounds: the len is 0 but the index is 0" := by
    simp only [index, List.getElem?_nil, List.length_nil]
    exact congrArg Except.error (by decide)
  simp [step, h, hidx, bind, Except.bind]

/-- A step panics only on an empty `ScmRights` at a total of one. -/
theorem step_eq_error {s : FdLoop} {m : ControlMessageOwned} {p : String}
    (h : s.step m = .error p) : m = .ScmRights [] ∧ s.total_fds = 1 := by
  cases m with
  | Other => cases h
  | ScmRights fds =>
    simp only [step] at h
    split at h
    · cases h
    · rename_i htotal
      cases fds with
      | nil => exact ⟨rfl, by simpa using htotal⟩
      | cons fd fds => simp [index, bind, Except.bind] at h

/-- Every step that does not panic keeps the invariant, over the
    descriptors of the message. -/
theorem step_inv {s s' : FdLoop} {rcv : List RawFd} {m : ControlMessageOwned} (hi : s.Inv rcv)
    (h : s.step m = .ok s') : s'.Inv (rcv ++ m.fds) := by
  cases m with
  | Other =>
    cases h
    simpa [ControlMessageOwned.fds] using hi
  | ScmRights fds =>
    simp only [step] at h
    split at h
    · -- the message's descriptors are all dropped
      rename_i htotal
      cases h
      refine ⟨by simp [hi.total, ControlMessageOwned.fds], ?_, fun hle => ?_⟩
      · -- they go to the end of `closed`, before the kept one
        have hswap : (s.closed ++ fds ++ s.our_netns.toList).Perm
            (s.closed ++ s.our_netns.toList ++ fds) := by
          simpa only [List.append_assoc] using List.perm_append_comm.append_left s.closed
        exact hswap.trans (hi.owned.append_right fds)
      · -- a total of zero: nothing came at all
        have hs : s.total_fds = 0 := by simp at hle htotal; omega
        have hfds : fds = [] := List.eq_nil_of_length_eq_zero (by simp at hle htotal; omega)
        have hrcv : rcv = [] := List.eq_nil_of_length_eq_zero (hi.total ▸ hs)
        simpa [hfds, hrcv, ControlMessageOwned.fds] using hi.kept (by omega)
    · -- the first descriptor of the first message is kept
      rename_i htotal
      cases fds with
      | nil => simp [index, bind, Except.bind] at h
      | cons fd rest =>
        simp only [index, List.getElem?_cons_zero, bind, Except.bind, Except.ok.injEq] at h
        subst h
        have hs : s.total_fds = 0 ∧ rest = [] := by
          simp at htotal
          exact ⟨by omega, List.eq_nil_of_length_eq_zero (by omega)⟩
        have hrcv : rcv = [] := List.eq_nil_of_length_eq_zero (hi.total ▸ hs.1)
        have howned : s.closed ++ s.our_netns.toList = [] :=
          List.Perm.eq_nil (hrcv ▸ hi.owned)
        refine ⟨by simp [hs, hrcv, ControlMessageOwned.fds], ?_,
          fun _ => by simp [hs, hrcv, ControlMessageOwned.fds]⟩
        simp [howned, hs, hrcv, ControlMessageOwned.fds]

/-- The run lemma: a loop that does not panic ends with the invariant over
    every descriptor received. -/
theorem run_inv {s s' : FdLoop} {rcv : List RawFd} {ms : List ControlMessageOwned}
    (hi : s.Inv rcv) (h : s.run ms = .ok s') : s'.Inv (rcv ++ received ms) := by
  induction ms generalizing s rcv with
  | nil =>
    cases h
    simpa [received] using hi
  | cons m ms ih =>
    simp only [run] at h
    split at h
    · cases h
    · rename_i s₁ hstep
      have := ih (step_inv hi hstep) h
      simpa [received, List.append_assoc] using this

/-- The loop panics exactly when an empty `ScmRights` comes after exactly
    one descriptor in all. -/
theorem run_error_iff {s : FdLoop} {rcv : List RawFd} (hi : s.Inv rcv)
    (ms : List ControlMessageOwned) :
    (∃ e, s.run ms = .error e) ↔
      ∃ pre post, ms = pre ++ .ScmRights [] :: post ∧ rcv.length + (received pre).length = 1 := by
  induction ms generalizing s rcv with
  | nil => simp [run]
  | cons m ms ih =>
    cases hstep : s.step m with
    | error p =>
      -- the message is an empty `ScmRights` at a total of one
      obtain ⟨rfl, htotal⟩ := step_eq_error hstep
      exact iff_of_true ⟨(p, s), by simp [run, hstep]⟩
        ⟨[], ms, rfl, by simp [received, ← hi.total, htotal]⟩
    | ok s₁ =>
      have hrun : s.run (m :: ms) = s₁.run ms := by simp [run, hstep]
      rw [hrun, ih (step_inv hi hstep)]
      constructor
      · rintro ⟨pre, post, rfl, hlen⟩
        exact ⟨m :: pre, post, rfl, by simp [received] at hlen ⊢; omega⟩
      · rintro ⟨pre, post, hms, hlen⟩
        cases pre with
        | nil =>
          -- an empty `ScmRights` at a total of one would have panicked
          obtain ⟨rfl, rfl⟩ := List.cons.inj hms
          have htotal : s.total_fds = 1 := by simpa [received, hi.total] using hlen
          rw [step_empty_panic htotal] at hstep
          cases hstep
        | cons m' pre =>
          obtain ⟨rfl, rfl⟩ := List.cons.inj hms
          exact ⟨pre, post, rfl, by simp [received] at hlen ⊢; omega⟩

end FdLoop

/-- An empty `ScmRights` after exactly one descriptor in all. -/
def PanicsAt (cmsgs : List ControlMessageOwned) : Prop :=
  ∃ pre post, cmsgs = pre ++ .ScmRights [] :: post ∧ (received pre).length = 1

theorem maybe_get_fd_panics_iff (cmsgs : List ControlMessageOwned) :
    (∃ p, (maybe_get_fd cmsgs).result = .error p) ↔ PanicsAt cmsgs := by
  have hrun := FdLoop.run_error_iff FdLoop.inv_init cmsgs
  simp only [List.length_nil, Nat.zero_add] at hrun
  rw [PanicsAt, ← hrun]
  cases h : FdLoop.init.run cmsgs with
  | error e => simp [maybe_get_fd, h]
  | ok t =>
    simp only [maybe_get_fd, h]
    split <;> simp

/-- A list of at most one element is its head. -/
theorem toList_head?_of_length_le_one {l : List RawFd} (h : l.length ≤ 1) : l.head?.toList = l := by
  match l, h with
  | [], _ => rfl
  | [_], _ => rfl

/-- Without the panic, `maybe_get_fd` returns the one descriptor received,
    none for none, and an error for more, which it then closes all of; it
    closes nothing it returns. -/
theorem maybe_get_fd_of_not_panicsAt {cmsgs : List ControlMessageOwned} (h : ¬PanicsAt cmsgs) :
    ((received cmsgs).length ≤ 1 →
        maybe_get_fd cmsgs = ⟨.ok (.ok (received cmsgs).head?), []⟩) ∧
      (1 < (received cmsgs).length →
        (maybe_get_fd cmsgs).result =
            .ok (.error ("Expected 1 FD, got " ++ toString (received cmsgs).length)) ∧
          (maybe_get_fd cmsgs).closed.Perm (received cmsgs)) := by
  obtain ⟨t, hrun⟩ : ∃ t, FdLoop.init.run cmsgs = .ok t := by
    cases hr : FdLoop.init.run cmsgs with
    | ok t => exact ⟨t, rfl⟩
    | error e =>
      exact absurd ((maybe_get_fd_panics_iff cmsgs).mp ⟨e.1, by simp [maybe_get_fd, hr]⟩) h
  have hi : t.Inv (received cmsgs) := by simpa using FdLoop.run_inv FdLoop.inv_init hrun
  refine ⟨fun hle => ?_, fun hlt => ?_⟩
  · -- the kept descriptor is all that came, so nothing was closed
    have hkept : t.our_netns = (received cmsgs).head? := hi.kept (hi.total ▸ hle)
    have hclosed : t.closed = [] := by
      have hlen := hi.owned.length_eq
      rw [List.length_append, hkept, toList_head?_of_length_le_one hle] at hlen
      exact List.eq_nil_of_length_eq_zero (by omega)
    simp [maybe_get_fd, hrun, hi.total, Nat.not_lt.mpr hle, hkept, hclosed]
  · simp [maybe_get_fd, hrun, hi.total, hlt, hi.owned]

/-- What `read_message` can be given: its buffer, `cmsg_space!(RawFd)`,
    has room for one control-message header, so `recvmsg` returns at most
    one control message (an `SCM_RIGHTS` of two descriptors still fits). -/
def Receivable (cmsgs : List ControlMessageOwned) : Prop :=
  cmsgs.length ≤ 1

instance : DecidablePred Receivable := fun cmsgs => inferInstanceAs (Decidable (cmsgs.length ≤ 1))

/-- The panic needs a message after the first descriptor, and one message
    is all a receivable list has. -/
theorem not_panicsAt_of_receivable {cmsgs : List ControlMessageOwned} (h : Receivable cmsgs) :
    ¬PanicsAt cmsgs := by
  rintro ⟨pre, post, rfl, hlen⟩
  have hpre : pre = [] := by
    simp only [Receivable, List.length_append, List.length_cons] at h
    exact List.eq_nil_of_length_eq_zero (by omega)
  subst hpre
  simp [received] at hlen

/-- The descriptor `maybe_get_fd` returns, if it returns one. -/
def Outcome.returned (o : Outcome (Option RawFd)) : List RawFd :=
  match o.result with
  | .ok (.ok fd) => fd.toList
  | _ => []

theorem head?_eq_some_iff_of_length_le_one {l : List RawFd} (h : l.length ≤ 1) (f : RawFd) :
    l.head? = some f ↔ l = [f] := by
  match l, h with
  | [], _ => simp
  | [_], _ => simp

/-- The node agent's one descriptor of an `AddWorkload`. -/
def oneNetns : List ControlMessageOwned := [.ScmRights [3]]

section Decode

variable (decode : List UInt8 → Except String WorkloadRequest)

/-- A message that `get_workload_data` returns owns exactly the descriptor
    it was given: an `Add` takes it, and any other payload comes without
    one. -/
theorem get_workload_data_netns {data : List UInt8} {fd : Option RawFd} {flags : MsgFlags}
    {msg : WorkloadMessage} (h : get_workload_data decode data fd flags = .ok msg) :
    msg.netns = fd := by
  unfold get_workload_data at h
  split at h
  · cases h
  split at h
  · cases h
  obtain ⟨req, -, h⟩ := except_bind_eq_ok.mp h
  obtain ⟨payload, -, h⟩ := except_bind_eq_ok.mp h
  -- one case per arm of the match on the payload and the descriptor
  split at h <;> cases h <;> rfl

/-- The descriptors `read_message` hands on: that of the message it
    returns. -/
def handed_on (o : Outcome (Option WorkloadMessage)) : List RawFd :=
  match o.result with
  | .ok (.ok (some msg)) => msg.netns.toList
  | _ => []

/-- Unless `maybe_get_fd` panics, `read_message` returns, and every
    descriptor received with the message is either closed, once, or handed
    on in the `AddWorkload` it returns. -/
theorem read_message_descriptors {res : RecvMsg} {cmsgs : List ControlMessageOwned}
    (hb : res.bytes ≠ []) (hc : res.cmsgs = .ok cmsgs) (h : ¬PanicsAt cmsgs) :
    (∃ r, (read_message decode res).result = .ok r) ∧
      ((read_message decode res).closed ++ handed_on (read_message decode res)).Perm
        (received cmsgs) := by
  obtain ⟨hle, hlt⟩ := maybe_get_fd_of_not_panicsAt h
  by_cases hn : (received cmsgs).length ≤ 1
  · -- the descriptor, if any, goes to `get_workload_data`
    have hhead := toList_head?_of_length_le_one hn
    cases hw : get_workload_data decode res.bytes (received cmsgs).head? res.flags with
    | ok msg =>
      simp only [read_message, hb, hc, hle hn, hw, if_false, handed_on,
        get_workload_data_netns decode hw, hhead, List.nil_append]
      exact ⟨⟨_, rfl⟩, .refl _⟩
    | error e =>
      simp only [read_message, hb, hc, hle hn, hw, if_false, handed_on, hhead, List.nil_append,
        List.append_nil]
      exact ⟨⟨_, rfl⟩, .refl _⟩
  · -- more than one: `maybe_get_fd` has closed them all
    obtain ⟨hres, hclosed⟩ := hlt (Nat.lt_of_not_le hn)
    simp only [read_message, hb, hc, hres, if_false, handed_on, List.append_nil]
    exact ⟨⟨_, rfl⟩, hclosed⟩

end Decode

end Protocol

end Inpod

end Ztunnel
