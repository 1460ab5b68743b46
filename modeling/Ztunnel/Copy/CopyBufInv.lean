/-
  Ztunnel.Copy.CopyBufInv

  `CopyBuf` loses, duplicates and reorders no byte.  Over every run, the
  bytes the writer accepted, then the buffer the loop holds, then the
  chunks the reader has still to return, make up the chunks the reader
  was given, until the copy fails (`Conserved`); and the counters and the
  resizes follow the total written at every point (`Counted`).  So a copy
  that completes with `Ok(n)` has written the whole stream, of length
  `n`, and a writer that takes no byte of the buffer offered, which is
  never empty, ends the copy with `WriteZero`.

  What each part of the round does is said once, beside the others
  (`top`, `got`, `wrote`, `finish`), and each kind of answer keeps the
  invariant by one lemma.
-/

import Ztunnel.Copy.CopyBuf
import Mathlib.Tactic.SplitIfs

namespace Ztunnel

namespace Copy

/-- The bytes the loop holds and has not written. -/
def Phase.held : Phase → Bytes
  | .Writing buffer => buffer
  | _ => []

/-- The copy has failed. -/
def Phase.failed : Phase → Bool
  | .Done (.error _) => true
  | _ => false

/-- The resizes asked for while the total went from `old` to `new`: one
    for each threshold crossed. -/
def resizesBetween (old new : Nat) : List Nat :=
  (if old < RESIZE_THRESHOLD_LARGE ∧ RESIZE_THRESHOLD_LARGE ≤ new then [LARGE_BUFFER_SIZE] else []) ++
    (if old < RESIZE_THRESHOLD_JUMBO ∧ RESIZE_THRESHOLD_JUMBO ≤ new then [JUMBO_BUFFER_SIZE] else [])

/-- Crossings compose: the thresholds crossed from `a` to `c` through `b`. -/
theorem resizesBetween_append {a b c : Nat} (hab : a ≤ b) (hbc : b ≤ c) :
    resizesBetween a b ++ resizesBetween b c = resizesBetween a c := by
  unfold resizesBetween RESIZE_THRESHOLD_LARGE RESIZE_THRESHOLD_JUMBO
  split_ifs <;> simp <;> omega

namespace CopyState

variable {s : CopyState}

/-! ## What each part of the round does -/

@[simp] theorem top_written : s.top.written = s.written := by
  unfold top; split <;> rfl

@[simp] theorem top_sent : s.top.sent = s.sent := by
  unfold top; split <;> rfl

@[simp] theorem top_recv : s.top.recv = s.recv := by
  unfold top; split <;> rfl

@[simp] theorem top_reader : s.top.reader = s.reader := by
  unfold top; split <;> rfl

@[simp] theorem top_me_send : s.top.me.send = s.me.send := by
  unfold top; split <;> rfl

@[simp] theorem top_me_amt : s.top.me.amt = s.me.amt := by
  unfold top; split <;> rfl

@[simp] theorem top_me_buf : s.top.me.buf = none := by
  unfold top; split
  · rfl
  · assumption

theorem top_phase : s.top.phase = (s.me.buf.map Phase.Writing).getD .Reading := by
  unfold top; split <;> simp_all

/-- A `Pending` with no buffer stored: the next `poll` waits on the
    reader. -/
theorem top_of_buf_none (h : s.me.buf = none) : s.top = { s with phase := .Reading } := by
  simp [top, h]

/-- A `Pending` of the reader: the next `poll` polls it again. -/
theorem top_of_reading (h : s.me.buf = none) (hp : s.phase = .Reading) : s.top = s := by
  rw [top_of_buf_none h]
  obtain ⟨me, phase, reader, written, sent, recv⟩ := s
  simp_all

/-- A `Pending` of the writer: the buffer is stored, and the next `poll`
    takes it again. -/
theorem step_poll_write_buf_pending {buffer : Bytes} (h : s.me.buf = none)
    (hp : s.phase = .Writing buffer) : s.step (.poll_write_buf .Pending) = .ok s := by
  obtain ⟨⟨send, buf, amt⟩, phase, reader, written, sent, recv⟩ := s
  simp only at h hp
  subst h hp
  rfl

theorem got_of_eof (h : s.reader.chunks = []) : s.got = { s with phase := .Flushing } := by
  simp [got, BufReader.poll_bytes, h]

theorem got_of_chunk {c : Chunk} {rest : List Chunk} (h : s.reader.chunks = c :: rest) :
    s.got = { s with reader := { s.reader with chunks := rest }, phase := .Writing c.bytes } := by
  simp [got, BufReader.poll_bytes, h, c.ne_nil]

@[simp] theorem wrote_written (buffer : Bytes) (i : Nat) :
    (s.wrote buffer i).written = s.written ++ buffer.take i := by
  simp [wrote]

@[simp] theorem wrote_me_amt (buffer : Bytes) (i : Nat) :
    (s.wrote buffer i).me.amt = s.me.amt + i := by
  simp [wrote]

@[simp] theorem wrote_me_send (buffer : Bytes) (i : Nat) :
    (s.wrote buffer i).me.send = s.me.send := by
  simp [wrote]

@[simp] theorem wrote_me_buf (buffer : Bytes) (i : Nat) : (s.wrote buffer i).me.buf = none := by
  simp [wrote]

@[simp] theorem wrote_sent (buffer : Bytes) (i : Nat) :
    (s.wrote buffer i).sent = if s.me.send then s.sent + i else s.sent := by
  simp [wrote]

@[simp] theorem wrote_recv (buffer : Bytes) (i : Nat) :
    (s.wrote buffer i).recv = if s.me.send then s.recv else s.recv + i := by
  simp [wrote]

@[simp] theorem wrote_chunks (buffer : Bytes) (i : Nat) :
    (s.wrote buffer i).reader.chunks = s.reader.chunks := by
  simp only [wrote, top_reader]
  split_ifs <;> rfl

/-- The resizes of a round are those of the thresholds its bytes
    crossed. -/
theorem wrote_resizes (buffer : Bytes) (i : Nat) :
    (s.wrote buffer i).reader.resizes =
      s.reader.resizes ++ resizesBetween s.me.amt (s.me.amt + i) := by
  simp only [wrote, top_reader, resizesBetween]
  split_ifs <;> simp [BufReader.resize]

/-- The rest of a partly written buffer is written next; a whole one
    sends the loop back to the reader. -/
theorem wrote_phase (h : s.me.buf = none) (buffer : Bytes) (i : Nat) :
    (s.wrote buffer i).phase = if i < buffer.length then .Writing (buffer.drop i) else .Reading := by
  simp only [wrote, top_phase]
  split_ifs <;> simp [h]

end CopyState

/-- All the bytes of the chunks, in order. -/
def stream (chunks : List Chunk) : Bytes := chunks.flatMap Chunk.bytes

namespace CopyState

/-- The counters and the resizes follow the total written. -/
structure Counted (is_send : Bool) (s : CopyState) : Prop where
  send : s.me.send = is_send
  amt : s.me.amt = s.written.length
  metric : (if is_send then s.sent else s.recv) = s.me.amt
  other_metric : (if is_send then s.recv else s.sent) = 0
  resizes : s.reader.resizes = resizesBetween 0 s.me.amt

/-- No byte is lost, duplicated or reordered: until the copy fails, the
    bytes written, then held, then still to be read are the stream. -/
structure Conserved (chunks : List Chunk) (s : CopyState) : Prop where
  buf_taken : s.me.buf = none
  whole : s.phase.failed = false →
    s.written ++ s.phase.held ++ stream s.reader.chunks = stream chunks
  written_prefix : s.written <+: stream chunks
  held_ne_nil : ∀ buffer, s.phase = .Writing buffer → buffer ≠ []
  eof : s.phase = .Flushing → s.reader.chunks = []
  done : ∀ n, s.phase = .Done (.ok n) → s.reader.chunks = [] ∧ n = s.me.amt

structure Inv (is_send : Bool) (chunks : List Chunk) (s : CopyState) : Prop where
  counted : Counted is_send s
  conserved : Conserved chunks s

variable {is_send : Bool} {chunks : List Chunk} {s : CopyState}

/-- A step that leaves the counters, the total and the log alone keeps
    them counted. -/
theorem Counted.of_eq {s' : CopyState} (h : Counted is_send s) (hsend : s'.me.send = s.me.send)
    (hamt : s'.me.amt = s.me.amt) (hwritten : s'.written = s.written) (hsent : s'.sent = s.sent)
    (hrecv : s'.recv = s.recv) (hresizes : s'.reader.resizes = s.reader.resizes) :
    Counted is_send s' where
  send := hsend.trans h.send
  amt := by rw [hamt, hwritten]; exact h.amt
  metric := by rw [hsent, hrecv, hamt]; exact h.metric
  other_metric := by rw [hsent, hrecv]; exact h.other_metric
  resizes := by rw [hresizes, hamt]; exact h.resizes

theorem written_prefix_of_whole {written held rest all : Bytes}
    (h : written ++ held ++ rest = all) : written <+: all := by
  rw [← h, List.append_assoc]
  exact List.prefix_append _ _

/-- A copy that has not failed has written a prefix of the stream. -/
theorem Conserved.written_prefix_of_live (h : Conserved chunks s) (hlive : s.phase.failed = false) :
    s.written <+: stream chunks :=
  written_prefix_of_whole (h.whole hlive)

/-- Moving between the phases that hold no buffer keeps the stream whole:
    to the reader, to the flush once the reader is at EOF, and to the end
    of a flushed copy with its total. -/
theorem Conserved.with_phase (h : Conserved chunks s) (hheld : s.phase.held = [])
    (hlive : s.phase.failed = false) {p : Phase}
    (hp : p = .Reading ∨ p = .Flushing ∨ ∃ n, p = .Done (.ok n))
    (heof : p ≠ .Reading → s.reader.chunks = []) (hdone : ∀ n, p = .Done (.ok n) → n = s.me.amt) :
    Conserved chunks { s with phase := p } := by
  have hpheld : p.held = [] := by
    rcases hp with rfl | rfl | ⟨n, rfl⟩ <;> rfl
  have hplive : p.failed = false := by
    rcases hp with rfl | rfl | ⟨n, rfl⟩ <;> rfl
  have hwhole := h.whole hlive
  rw [hheld] at hwhole
  exact
    { buf_taken := h.buf_taken
      whole := fun _ => by simpa [hpheld] using hwhole
      written_prefix := h.written_prefix
      held_ne_nil := fun b hb => by
        change p = .Writing b at hb
        rcases hp with rfl | rfl | ⟨n, rfl⟩ <;> cases hb
      eof := fun hf => heof (by rw [show p = .Flushing from hf]; simp)
      done := fun n hd => ⟨heof (by rw [show p = _ from hd]; simp), hdone n hd⟩ }

/-- An error ends the copy with what it wrote so far. -/
theorem Inv.finish_error (h : Inv is_send chunks s) (hlive : s.phase.failed = false) (e : IoError) :
    Inv is_send chunks (s.finish (.error e)) where
  counted := h.counted.of_eq rfl rfl rfl rfl rfl rfl
  conserved :=
    { buf_taken := h.conserved.buf_taken
      whole := fun hf => by simp [finish, Phase.failed] at hf
      written_prefix := h.conserved.written_prefix_of_live hlive
      held_ne_nil := fun _ hp => by simp [finish] at hp
      eof := fun hp => by simp [finish] at hp
      done := fun _ hp => by simp [finish] at hp }

/-- The reader's answer: a chunk to write, or EOF and the flush. -/
theorem Inv.got (h : Inv is_send chunks s) (hp : s.phase = .Reading) : Inv is_send chunks s.got := by
  have hlive : s.phase.failed = false := by rw [hp]; rfl
  have hheld : s.phase.held = [] := by rw [hp]; rfl
  cases hc : s.reader.chunks with
  | nil =>
    rw [got_of_eof hc]
    exact ⟨h.counted.of_eq rfl rfl rfl rfl rfl rfl,
      h.conserved.with_phase hheld hlive (.inr (.inl rfl)) (fun _ => hc) (fun _ hd => by cases hd)⟩
  | cons c rest =>
    rw [got_of_chunk hc]
    have hwhole := h.conserved.whole hlive
    rw [hheld, hc] at hwhole
    -- the chunk moves from the reader to the buffer held
    have hwhole' : s.written ++ c.bytes ++ stream rest = stream chunks := by
      simpa [stream] using hwhole
    exact
      { counted := h.counted.of_eq rfl rfl rfl rfl rfl rfl
        conserved :=
          { buf_taken := h.conserved.buf_taken
            whole := fun _ => hwhole'
            written_prefix := h.conserved.written_prefix
            held_ne_nil := fun b hb => by
              cases hb
              exact c.ne_nil
            eof := fun hf => by cases hf
            done := fun _ hd => by cases hd } }

/-- The counters after a round that wrote `i` bytes. -/
theorem Counted.wrote (h : Counted is_send s) {buffer : Bytes} {i : Nat} (hle : i ≤ buffer.length) :
    Counted is_send (s.wrote buffer i) where
  send := by rw [wrote_me_send]; exact h.send
  amt := by
    rw [wrote_me_amt, wrote_written, List.length_append, List.length_take, h.amt]
    omega
  metric := by
    have hm := h.metric
    rw [wrote_sent, wrote_recv, wrote_me_amt, h.send]
    cases is_send <;> simp_all
  other_metric := by
    have hm := h.other_metric
    rw [wrote_sent, wrote_recv, h.send]
    cases is_send <;> simp_all
  resizes := by
    rw [wrote_resizes, wrote_me_amt, h.resizes]
    exact resizesBetween_append (Nat.zero_le _) (Nat.le_add_right _ _)

/-- The writer took `0 < i` bytes of the buffer: they are written, and the
    rest is held for the next round. -/
theorem Inv.wrote (h : Inv is_send chunks s) {buffer : Bytes} (hp : s.phase = .Writing buffer)
    {i : Nat} (hle : i ≤ buffer.length) : Inv is_send chunks (s.wrote buffer i) := by
  have hbuf := h.conserved.buf_taken
  have hphase := wrote_phase hbuf buffer i
  -- what is held next is what the writer left
  have hheld : (s.wrote buffer i).phase.held = buffer.drop i := by
    rw [hphase]
    split_ifs with hlt
    · rfl
    · exact (List.drop_eq_nil_of_le (by omega)).symm
  have hwhole : (s.wrote buffer i).written ++ (s.wrote buffer i).phase.held ++
      stream (s.wrote buffer i).reader.chunks = stream chunks := by
    rw [hheld, wrote_written, wrote_chunks, List.append_assoc s.written, List.take_append_drop]
    simpa [Phase.held, hp] using h.conserved.whole (by simp [hp, Phase.failed])
  exact
    { counted := h.counted.wrote hle
      conserved :=
        { buf_taken := wrote_me_buf buffer i
          whole := fun _ => hwhole
          written_prefix := written_prefix_of_whole hwhole
          held_ne_nil := fun b hb => by
            rw [hphase] at hb
            split_ifs at hb with hlt
            cases hb
            simpa using hlt
          eof := fun hf => by
            rw [hphase] at hf
            split_ifs at hf
          done := fun _ hd => by
            rw [hphase] at hd
            split_ifs at hd } }

/-- A `Pending` of the flush: the next `poll` reads again, and finds EOF
    again. -/
theorem Inv.reread (h : Inv is_send chunks s) (hp : s.phase = .Flushing) :
    Inv is_send chunks s.top := by
  rw [top_of_buf_none h.conserved.buf_taken]
  exact ⟨h.counted.of_eq rfl rfl rfl rfl rfl rfl,
    h.conserved.with_phase (by rw [hp]; rfl) (by rw [hp]; rfl) (.inl rfl) (fun hr => absurd rfl hr)
      (fun _ hd => by cases hd)⟩

/-- The flush completed: the copy ends with its total. -/
theorem Inv.finish_ok (h : Inv is_send chunks s) (hp : s.phase = .Flushing) :
    Inv is_send chunks (s.finish (.ok s.me.amt)) :=
  ⟨h.counted.of_eq rfl rfl rfl rfl rfl rfl,
    h.conserved.with_phase (by rw [hp]; rfl) (by rw [hp]; rfl) (.inr (.inr ⟨_, rfl⟩))
      (fun _ => h.conserved.eof hp) (fun _ hd => by cases hd; rfl)⟩

/-- Every answer to the loop's call keeps the invariant. -/
theorem Inv.step (h : Inv is_send chunks s) {e : CopyEvent} (he : s.Enabled e) {s' : CopyState}
    (hs : s.step e = .ok s') : Inv is_send chunks s' := by
  have hbuf := h.conserved.buf_taken
  cases e with
  | poll_bytes r =>
    have hp : s.phase = .Reading := he
    have hlive : s.phase.failed = false := by rw [hp]; rfl
    cases r with
    | Pending =>
      simp only [CopyState.step, hp, Except.ok.injEq] at hs
      rw [← hs, top_of_reading hbuf hp]
      exact h
    | Ready v =>
      cases v with
      | error err =>
        simp only [CopyState.step, hp, Except.ok.injEq] at hs
        rw [← hs]
        exact h.finish_error hlive err
      | ok u =>
        simp only [CopyState.step, hp, Except.ok.injEq] at hs
        rw [← hs]
        exact h.got hp
  | poll_write_buf r =>
    cases r with
    | Pending =>
      obtain ⟨buffer, hp⟩ := he
      rw [step_poll_write_buf_pending hbuf hp, Except.ok.injEq] at hs
      rw [← hs]
      exact h
    | Ready v =>
      cases v with
      | error err =>
        obtain ⟨buffer, hp⟩ := he
        simp only [CopyState.step, hp, Except.ok.injEq] at hs
        rw [← hs]
        exact h.finish_error (by rw [hp]; rfl) err
      | ok i =>
        obtain ⟨buffer, hp, hle⟩ := he
        simp only [CopyState.step, hp] at hs
        split at hs
        · -- `WriteZero`
          cases hs
          exact h.finish_error (by rw [hp]; rfl) _
        · cases hs
          exact h.wrote hp hle
  | poll_flush r =>
    have hp : s.phase = .Flushing := he
    cases r with
    | Pending =>
      simp only [CopyState.step, hp, Except.ok.injEq] at hs
      rw [← hs]
      exact h.reread hp
    | Ready v =>
      cases v with
      | error err =>
        simp only [CopyState.step, hp, Except.ok.injEq] at hs
        rw [← hs]
        exact h.finish_error (by rw [hp]; rfl) err
      | ok u =>
        simp only [CopyState.step, hp, Except.ok.injEq] at hs
        rw [← hs]
        exact h.finish_ok hp

end CopyState

open CopyState

theorem inv_init (is_send : Bool) (chunks : List Chunk) :
    Inv is_send chunks (copy_buf is_send chunks).init where
  counted :=
    { send := rfl
      amt := rfl
      metric := by cases is_send <;> rfl
      other_metric := by cases is_send <;> rfl
      resizes := by
        show [] = resizesBetween 0 0
        decide }
  conserved :=
    { buf_taken := rfl
      whole := fun _ => rfl
      written_prefix := List.nil_prefix
      held_ne_nil := fun _ hb => by cases hb
      eof := fun hf => by cases hf
      done := fun _ hd => by cases hd }

theorem inv_of_reachable {is_send : Bool} {chunks : List Chunk} {s : CopyState}
    (h : (copy_buf is_send chunks).Reachable s) : Inv is_send chunks s :=
  Machine.Reachable.inv _ (inv_init is_send chunks) (fun _ _ _ hi he hs => hi.step he hs) h

/-- From zero, the resizes are those of the thresholds reached. -/
theorem resizesBetween_zero (n : Nat) :
    resizesBetween 0 n =
      (if RESIZE_THRESHOLD_LARGE ≤ n then [LARGE_BUFFER_SIZE] else []) ++
        (if RESIZE_THRESHOLD_JUMBO ≤ n then [JUMBO_BUFFER_SIZE] else []) := by
  have hlarge : 0 < RESIZE_THRESHOLD_LARGE := by decide
  have hjumbo : 0 < RESIZE_THRESHOLD_JUMBO := by decide
  simp [resizesBetween, hlarge, hjumbo]

/-- `CopyBuf` conserves the byte stream, over every run: whatever the
    reader returns, however much of each buffer the writer takes and
    wherever the calls return `Pending`.  At every point the counter of the
    copy's direction is the number of bytes written, the other is
    untouched, and the reader was resized once for each threshold the
    total has reached.  A copy that completes with `Ok(n)` has written the
    stream, of length `n`.  A buffer the loop writes is never empty and
    continues what was written along the stream, and a writer that takes
    none of it ends the copy with `WriteZero`, with what was written so
    far. -/
theorem copy_buf_conserves_stream (is_send : Bool) (chunks : List Chunk) {s : CopyState}
    (h : (copy_buf is_send chunks).Reachable s) :
    (if is_send then s.sent else s.recv) = s.written.length ∧
      (if is_send then s.recv else s.sent) = 0 ∧
      s.reader.resizes =
        (if RESIZE_THRESHOLD_LARGE ≤ s.written.length then [LARGE_BUFFER_SIZE] else []) ++
          (if RESIZE_THRESHOLD_JUMBO ≤ s.written.length then [JUMBO_BUFFER_SIZE] else []) ∧
      (∀ n, s.phase = .Done (.ok n) → s.written = stream chunks ∧ n = s.written.length) ∧
      ∀ buffer, s.phase = .Writing buffer →
        buffer ≠ [] ∧ s.written ++ buffer <+: stream chunks ∧
          ∀ s', s.step (.poll_write_buf (.Ready (.ok 0))) = .ok s' →
            s'.phase = .Done (.error ⟨.WriteZero⟩) ∧ s'.written = s.written := by
  obtain ⟨counted, conserved⟩ := inv_of_reachable h
  refine ⟨counted.amt ▸ counted.metric, counted.other_metric, ?_, ?_, ?_⟩
  · rw [counted.resizes, counted.amt, resizesBetween_zero]
  · intro n hd
    obtain ⟨heof, hn⟩ := conserved.done n hd
    have hwhole := conserved.whole (by rw [hd]; rfl)
    rw [hd, heof] at hwhole
    exact ⟨by simpa [Phase.held, stream] using hwhole, hn.trans counted.amt⟩
  · intro buffer hp
    have hwhole := conserved.whole (by rw [hp]; rfl)
    rw [hp] at hwhole
    refine ⟨conserved.held_ne_nil buffer hp, ?_, ?_⟩
    · rw [← hwhole]
      exact List.prefix_append _ _
    · intro s' hs
      simp only [CopyState.step, hp, if_pos, Except.ok.injEq] at hs
      rw [← hs]
      exact ⟨rfl, rfl⟩

def threeBytes : Chunk := ⟨[1, 2, 3], List.cons_ne_nil _ _⟩

/-- A copy of three bytes: a partial write, a `Pending` of the writer, the
    rest, EOF, a `Pending` of the flush, EOF again, and the flush. -/
theorem copy_buf_conserves_stream_threeBytes :
    ∃ s, (copy_buf true [threeBytes]).Reachable s ∧ s.phase = .Done (.ok 3) ∧
      s.written = [1, 2, 3] ∧ s.sent = 3 := by
  have r1 : (copy_buf true [threeBytes]).Reachable _ :=
    .step (.poll_bytes (.Ready (.ok ()))) .init rfl rfl
  have r2 : (copy_buf true [threeBytes]).Reachable _ :=
    .step (.poll_write_buf (.Ready (.ok 2))) r1 ⟨[1, 2, 3], rfl, by decide⟩ rfl
  have r3 : (copy_buf true [threeBytes]).Reachable _ :=
    .step (.poll_write_buf .Pending) r2 ⟨[3], rfl⟩ rfl
  have r4 : (copy_buf true [threeBytes]).Reachable _ :=
    .step (.poll_write_buf (.Ready (.ok 1))) r3 ⟨[3], rfl, by decide⟩ rfl
  have r5 : (copy_buf true [threeBytes]).Reachable _ :=
    .step (.poll_bytes (.Ready (.ok ()))) r4 rfl rfl
  have r6 : (copy_buf true [threeBytes]).Reachable _ :=
    .step (.poll_flush .Pending) r5 rfl rfl
  have r7 : (copy_buf true [threeBytes]).Reachable _ :=
    .step (.poll_bytes (.Ready (.ok ()))) r6 rfl rfl
  have r8 : (copy_buf true [threeBytes]).Reachable _ :=
    .step (.poll_flush (.Ready (.ok ()))) r7 rfl rfl
  obtain ⟨hsent, -, -, hdone, -⟩ := copy_buf_conserves_stream true [threeBytes] r8
  obtain ⟨hwritten, -⟩ := hdone 3 rfl
  exact ⟨_, r8, rfl, hwritten, hsent.trans (by rw [hwritten]; rfl)⟩

end Copy

end Ztunnel
