/-
  Ztunnel.Copy.CopyBuf

  The poll loop of `CopyBuf` (src/copy.rs), which copies one direction of
  a proxied connection: it takes buffers from a `BufReader`, hands them to
  the writer, keeps what the writer did not take for the next round,
  counts what was written into the connection's metrics, and asks the
  reader for larger buffers once the total crosses two thresholds.

  The future is a state machine whose events are the answers to the I/O
  calls the loop makes (`poll_bytes`, `poll_write_buf`, `poll_flush`),
  each `Pending` or `Ready` as the environment picks.  A `Pending` ends
  the call to `poll`, and the next call runs the loop from its top, where
  the stored buffer is taken (`CopyState.top`).

  What the reader returns is an input: a list of non-empty chunks, after
  which every `poll_bytes` gives the empty buffer of EOF.  The writer
  answers with a count of at most the bytes offered.  The counters of
  `ConnectionResult` are those this copy adds, starting at zero, the bytes
  the writer accepted are logged in order, and so are the sizes passed to
  `resize`.  `amt` is a `Nat`: the `u64` is not modelled to overflow.
-/

import Ztunnel.Lib.Machine

namespace Ztunnel

namespace Copy

def LARGE_BUFFER_SIZE : Nat := 16384 - 64
def JUMBO_BUFFER_SIZE : Nat := 16 * 16384 - 64
def RESIZE_THRESHOLD_LARGE : Nat := 128 * 1024
def RESIZE_THRESHOLD_JUMBO : Nat := 10 * 1024 * 1024

/-- The bytes of a `bytes::Bytes`. -/
abbrev Bytes := List UInt8

/-- std's `Poll`. -/
inductive Poll (α : Type) where
  | Ready (v : α)
  | Pending
  deriving DecidableEq, Repr

/-- `io::ErrorKind`, as far as the loop tells kinds apart. -/
inductive ErrorKind where
  | WriteZero
  | Other
  deriving DecidableEq, Repr

/-- `io::Error`, by its kind. -/
structure IoError where
  kind : ErrorKind
  deriving DecidableEq, Repr

/-- A buffer `poll_bytes` returns before EOF: `poll_read_buf` reads at
    least one byte into the space reserved for it. -/
structure Chunk where
  bytes : Bytes
  ne_nil : bytes ≠ []

/-- The reader: the chunks it has still to return, and the sizes asked of
    it by `resize`, in order. -/
structure BufReader where
  chunks : List Chunk
  resizes : List Nat

namespace BufReader

/-- `poll_bytes` once the read is ready: the next chunk, or the empty
    buffer at EOF. -/
def poll_bytes (self : BufReader) : Bytes × BufReader :=
  match self.chunks with
  | [] => ([], self)
  | c :: rest => (c.bytes, { self with chunks := rest })

def resize (self : BufReader) (new_size : Nat) : BufReader :=
  { self with resizes := self.resizes ++ [new_size] }

end BufReader

/-- The fields of `CopyBuf` the loop reads and writes. -/
structure CopyBuf where
  send : Bool
  buf : Option Bytes
  amt : Nat

/-- The call the loop waits on. -/
inductive Phase where
  /-- `poll_bytes` -/
  | Reading
  /-- `poll_write_buf` of `buffer` -/
  | Writing (buffer : Bytes)
  /-- `poll_flush`, after EOF -/
  | Flushing
  /-- `poll` returned `Ready` -/
  | Done (result : Except IoError Nat)

structure CopyState where
  me : CopyBuf
  phase : Phase
  reader : BufReader
  /-- the bytes the writer accepted, in order -/
  written : Bytes
  /-- what this copy added to the connection's `sent` and `recv` counters -/
  sent : Nat
  recv : Nat

/-- The answer to the call the loop makes. -/
inductive CopyEvent where
  | poll_bytes (r : Poll (Except IoError Unit))
  | poll_write_buf (r : Poll (Except IoError Nat))
  | poll_flush (r : Poll (Except IoError Unit))

namespace CopyState

/-- The top of the loop: the stored buffer is taken, or else the reader is
    polled. -/
def top (s : CopyState) : CopyState :=
  match s.me.buf with
  | some buffer => { s with me := { s.me with buf := none }, phase := .Writing buffer }
  | none => { s with phase := .Reading }

/-- The buffer `poll_bytes` gave: at EOF the writer is flushed, otherwise
    the buffer is written. -/
def got (s : CopyState) : CopyState :=
  match s.reader.poll_bytes with
  | (buffer, reader) =>
    { s with reader := reader, phase := if buffer.isEmpty then .Flushing else .Writing buffer }

/-- The rest of the round once the writer took `i > 0` bytes of `buffer`. -/
def wrote (s : CopyState) (buffer : Bytes) (i : Nat) : CopyState :=
  -- only partially consumed: the rest is stored back for a future call
  let buf := if i < buffer.length then some (buffer.drop i) else s.me.buf
  let old := s.me.amt
  let amt := old + i
  -- below a threshold before and above it now: the reader is resized
  let reader :=
    if old < RESIZE_THRESHOLD_LARGE ∧ RESIZE_THRESHOLD_LARGE ≤ amt then
      s.reader.resize LARGE_BUFFER_SIZE
    else s.reader
  let reader :=
    if old < RESIZE_THRESHOLD_JUMBO ∧ RESIZE_THRESHOLD_JUMBO ≤ amt then
      reader.resize JUMBO_BUFFER_SIZE
    else reader
  top { s with
    me := { s.me with buf := buf, amt := amt }
    written := s.written ++ buffer.take i
    sent := if s.me.send then s.sent + i else s.sent
    recv := if s.me.send then s.recv else s.recv + i
    reader := reader }

def finish (s : CopyState) (result : Except IoError Nat) : CopyState :=
  { s with phase := .Done result }

/-- One answer to the loop's call.  A `Pending` returns from `poll`, and
    the next `poll` starts at the top of the loop. -/
def step (s : CopyState) : CopyEvent → Except String CopyState
  | .poll_bytes r =>
    match s.phase, r with
    | .Reading, .Pending => .ok s.top
    | .Reading, .Ready (.error e) => .ok (s.finish (.error e))
    | .Reading, .Ready (.ok ()) => .ok s.got
    | _, _ => .error "the loop is not polling the reader"
  | .poll_write_buf r =>
    match s.phase, r with
    -- kept in `buf` for the next call
    | .Writing buffer, .Pending => .ok (top { s with me := { s.me with buf := some buffer } })
    | .Writing _, .Ready (.error e) => .ok (s.finish (.error e))
    | .Writing buffer, .Ready (.ok i) =>
      if i = 0 then .ok (s.finish (.error ⟨.WriteZero⟩)) else .ok (s.wrote buffer i)
    | _, _ => .error "the loop is not writing"
  | .poll_flush r =>
    match s.phase, r with
    | .Flushing, .Pending => .ok s.top
    | .Flushing, .Ready (.error e) => .ok (s.finish (.error e))
    | .Flushing, .Ready (.ok ()) => .ok (s.finish (.ok s.me.amt))
    | _, _ => .error "the loop is not flushing"

/-- The call the loop makes in each phase is the one answered, and the
    writer never takes more than it is offered. -/
def Enabled (s : CopyState) : CopyEvent → Prop
  | .poll_bytes _ => s.phase = .Reading
  | .poll_write_buf (.Ready (.ok i)) => ∃ buffer, s.phase = .Writing buffer ∧ i ≤ buffer.length
  | .poll_write_buf _ => ∃ buffer, s.phase = .Writing buffer
  | .poll_flush _ => s.phase = .Flushing

end CopyState

/-- `copy_buf`: a fresh `CopyBuf` over a reader that will return `chunks`. -/
def copy_buf (is_send : Bool) (chunks : List Chunk) : Machine CopyState CopyEvent where
  init :=
    { me := { send := is_send, buf := none, amt := 0 }
      phase := .Reading
      reader := { chunks := chunks, resizes := [] }
      written := []
      sent := 0
      recv := 0 }
  Enabled := CopyState.Enabled
  step := CopyState.step

end Copy

end Ztunnel
