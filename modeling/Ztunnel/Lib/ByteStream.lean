/-
  Ztunnel.Lib.ByteStream

  A byte stream as a program sees it: the bytes still to be read, and a
  log of what it read and wrote, in order.  A computation on the stream
  runs in `EStateM ε Stream` (`ExceptT ε (StateM Stream)`), so that a
  failed computation leaves the stream as it was when it failed, and a
  later one can still write to it.

  A computation's behaviour on success is a relation between the bytes it
  consumed, the operations it logged and its result (`Consumes`): it
  succeeds exactly when the input begins with bytes the relation admits,
  and it leaves the rest of the input untouched.  The rules below give the
  relation of each primitive and of a bind, so that a parser built from
  them has its relation by composition.  Numbers are read and written
  big-endian (`be_value`, `be_bytes`), as `byteorder::BigEndian` and
  `to_be_bytes` do.
-/

import Mathlib

namespace Ztunnel

namespace ByteStream

/-- What a stream did. -/
inductive Op where
  | read (bytes : List UInt8)
  | write (bytes : List UInt8)
  deriving DecidableEq, Repr

structure Stream where
  input : List UInt8
  log : List Op
  deriving DecidableEq, Repr

abbrev StreamM (ε α : Type) := EStateM ε Stream α

open EStateM (Result)

variable {ε α β : Type}

/-- `AsyncReadExt::read_exact` into a buffer of `n` bytes: the buffer is
    filled from the stream, or, when the stream ends first, what was left
    is consumed and the read fails with `eof`. -/
def read_exact (eof : ε) (n : Nat) : StreamM ε (Vector UInt8 n) := fun s =>
  if h : n ≤ s.input.length then
    .ok ⟨(s.input.take n).toArray, by simp; omega⟩ ⟨s.input.drop n, s.log ++ [.read (s.input.take n)]⟩
  else .error eof ⟨[], s.log ++ [.read s.input]⟩

/-- `AsyncWriteExt::write_all`. -/
def write_all (bytes : List UInt8) : StreamM ε Unit :=
  modify fun s => { s with log := s.log ++ [.write bytes] }

/-! ## Running a computation -/

/-- A bind succeeded when its first computation did and the rest did from
    the stream it left. -/
theorem run_bind_eq_ok {x : StreamM ε α} {f : α → StreamM ε β} {s s' : Stream} {b : β} :
    (x >>= f).run s = .ok b s' ↔ ∃ a s₁, x.run s = .ok a s₁ ∧ (f a).run s₁ = .ok b s' := by
  rw [EStateM.run_bind]
  rcases x.run s with ⟨a, s₁⟩ | ⟨e, s₁⟩
  · simp only [Result.ok.injEq]
    constructor
    · intro h
      exact ⟨a, s₁, ⟨rfl, rfl⟩, h⟩
    · rintro ⟨_, _, ⟨rfl, rfl⟩, h⟩
      exact h
  · simp

theorem run_throw (e : ε) (s : Stream) : (throw e : StreamM ε α).run s = .error e s := rfl

theorem run_read_exact (eof : ε) (n : Nat) (s : Stream) :
    (read_exact eof n).run s =
      if h : n ≤ s.input.length then
        .ok ⟨(s.input.take n).toArray, by simp; omega⟩
          ⟨s.input.drop n, s.log ++ [.read (s.input.take n)]⟩
      else .error eof ⟨[], s.log ++ [.read s.input]⟩ := rfl

theorem run_write_all (bytes : List UInt8) (s : Stream) :
    (write_all bytes : StreamM ε Unit).run s = .ok () { s with log := s.log ++ [.write bytes] } :=
  rfl

/-! ## What a computation consumes -/

/-- `x` succeeds with `a` exactly when the input begins with `bytes`, where
    `R bytes ops a`; it consumes those bytes, leaves the rest of the input
    as it was, and logs `ops`. -/
def Consumes (x : StreamM ε α) (R : List UInt8 → List Op → α → Prop) : Prop :=
  ∀ s a s', x.run s = .ok a s' ↔
    ∃ bytes ops, R bytes ops a ∧ s.input = bytes ++ s'.input ∧ s'.log = s.log ++ ops

/-- The relation of `x >>= f`: the bytes and the operations of `x`, then
    those of `f` at the result of `x`. -/
def Consumes.seq (R : List UInt8 → List Op → α → Prop)
    (S : α → List UInt8 → List Op → β → Prop) : List UInt8 → List Op → β → Prop :=
  fun bytes ops b => ∃ a b₁ b₂ o₁ o₂, R b₁ o₁ a ∧ S a b₂ o₂ b ∧ bytes = b₁ ++ b₂ ∧ ops = o₁ ++ o₂

namespace Consumes

variable {x : StreamM ε α} {R R' : List UInt8 → List Op → α → Prop}

theorem of_iff (h : ∀ bytes ops a, R bytes ops a ↔ R' bytes ops a) (hx : Consumes x R) :
    Consumes x R' := by
  intro s a s'
  simp only [hx s a s', h]

/-- The stream after a step that consumed `bytes` and logged `ops`. -/
theorem stream_eq {s s' : Stream} {bytes : List UInt8} {ops : List Op}
    (hin : s.input = bytes ++ s'.input) (hlog : s'.log = s.log ++ ops) (hbytes : bytes = [])
    (hops : ops = []) : s' = s := by
  cases s
  cases s'
  simp_all

theorem read_exact (eof : ε) (n : Nat) :
    Consumes (ByteStream.read_exact eof n)
      (fun bytes ops v => v.toList = bytes ∧ ops = [.read bytes]) := by
  intro s v s'
  rw [run_read_exact]
  split
  · constructor
    · intro hrun
      simp only [Result.ok.injEq] at hrun
      obtain ⟨rfl, rfl⟩ := hrun
      exact ⟨s.input.take n, _, ⟨by simp, rfl⟩, (List.take_append_drop n s.input).symm, rfl⟩
    · rintro ⟨bytes, ops, ⟨rfl, rfl⟩, hin, hlog⟩
      have htake : s.input.take n = v.toList := by simp [hin]
      have hdrop : s.input.drop n = s'.input := by simp [hin]
      simp only [Result.ok.injEq]
      constructor
      · apply Vector.toArray_inj.mp
        change (s.input.take n).toArray = v.toArray
        rw [htake]
        rfl
      · cases s'
        simp_all
  · rename_i h
    simp only [reduceCtorEq, false_iff]
    rintro ⟨bytes, ops, ⟨rfl, rfl⟩, hin, -⟩
    apply h
    simp [hin]

theorem write_all (out : List UInt8) :
    Consumes (ByteStream.write_all out : StreamM ε Unit)
      (fun bytes ops _ => bytes = [] ∧ ops = [.write out]) := by
  intro s u s'
  rw [run_write_all]
  constructor
  · intro h
    simp only [Result.ok.injEq] at h
    obtain ⟨-, rfl⟩ := h
    exact ⟨[], _, ⟨rfl, rfl⟩, rfl, rfl⟩
  · rintro ⟨bytes, ops, ⟨rfl, rfl⟩, hin, hlog⟩
    cases s'
    simp_all

theorem pure (a : α) :
    Consumes (Pure.pure a : StreamM ε α) (fun bytes ops a' => bytes = [] ∧ ops = [] ∧ a' = a) := by
  intro s a' s'
  rw [EStateM.run_pure]
  constructor
  · intro h
    simp only [Result.ok.injEq] at h
    obtain ⟨rfl, rfl⟩ := h
    exact ⟨[], [], ⟨rfl, rfl, rfl⟩, rfl, by simp⟩
  · rintro ⟨bytes, ops, ⟨hbytes, hops, rfl⟩, hin, hlog⟩
    rw [stream_eq hin hlog hbytes hops]

/-- The bind rule. -/
theorem bind {f : α → StreamM ε β} {S : α → List UInt8 → List Op → β → Prop}
    (hx : Consumes x R) (hf : ∀ a, Consumes (f a) (S a)) :
    Consumes (x >>= f) (Consumes.seq R S) := by
  intro s b s'
  rw [run_bind_eq_ok]
  constructor
  · rintro ⟨a, s₁, h₁, h₂⟩
    obtain ⟨b₁, o₁, hR, hin₁, hlog₁⟩ := (hx s a s₁).mp h₁
    obtain ⟨b₂, o₂, hS, hin₂, hlog₂⟩ := (hf a s₁ b s').mp h₂
    exact ⟨b₁ ++ b₂, o₁ ++ o₂, ⟨a, b₁, b₂, o₁, o₂, hR, hS, rfl, rfl⟩,
      by rw [hin₁, hin₂, List.append_assoc], by rw [hlog₂, hlog₁, List.append_assoc]⟩
  · rintro ⟨_, _, ⟨a, b₁, b₂, o₁, o₂, hR, hS, rfl, rfl⟩, hin, hlog⟩
    -- the stream between the two: the second's bytes still to read
    let s₁ : Stream := ⟨b₂ ++ s'.input, s.log ++ o₁⟩
    refine ⟨a, s₁, (hx s a s₁).mpr ⟨b₁, o₁, hR, ?_, rfl⟩, (hf a s₁ b s').mpr ⟨b₂, o₂, hS, rfl, ?_⟩⟩
    · rw [hin, List.append_assoc]
    · rw [hlog, List.append_assoc]

/-- An early return of an error: `if c then throw e`, then `x`. -/
theorem throw_if {c : Bool} (e : ε) (hx : Consumes x R) :
    Consumes (if c = true then (throw e : StreamM ε Unit) >>= (fun _ => x) else x)
      (fun bytes ops a => c = false ∧ R bytes ops a) := by
  cases c with
  | false => simpa using hx
  | true =>
    intro s a s'
    simp [EStateM.run_bind]

/-- An error: the computation succeeds on no input. -/
theorem throw_of (e : ε) (h : ∀ bytes ops a, ¬ R bytes ops a) :
    Consumes (MonadExcept.throw e : StreamM ε α) R := by
  intro s a s'
  rw [run_throw]
  simp only [reduceCtorEq, false_iff, not_exists, not_and]
  intro bytes ops hR
  exact absurd hR (h bytes ops a)

/-- A read of `n` bytes, then `f` at the bytes read. -/
theorem read_bind {eof : ε} {n : Nat} {f : Vector UInt8 n → StreamM ε β}
    {S : Vector UInt8 n → List UInt8 → List Op → β → Prop} (hf : ∀ v, Consumes (f v) (S v)) :
    Consumes (ByteStream.read_exact eof n >>= f)
      (fun bytes ops b => ∃ v rest ops', S v rest ops' b ∧ bytes = v.toList ++ rest ∧
        ops = .read v.toList :: ops') := by
  refine of_iff ?_ (bind (read_exact eof n) hf)
  intro bytes ops b
  constructor
  · rintro ⟨v, _, rest, _, ops', ⟨rfl, rfl⟩, hS, rfl, rfl⟩
    exact ⟨v, rest, ops', hS, rfl, rfl⟩
  · rintro ⟨v, rest, ops', hS, rfl, rfl⟩
    exact ⟨v, v.toList, rest, [.read v.toList], ops', ⟨rfl, rfl⟩, hS, rfl, rfl⟩

/-- A read of `n` bytes whose result is computed from them. -/
theorem read_pure {eof : ε} {n : Nat} (g : Vector UInt8 n → β) :
    Consumes (ByteStream.read_exact eof n >>= fun v => Pure.pure (g v))
      (fun bytes ops b => ∃ v : Vector UInt8 n, bytes = v.toList ∧ ops = [.read v.toList] ∧
        b = g v) := by
  refine of_iff ?_ (read_bind fun v => pure (g v))
  intro bytes ops b
  constructor
  · rintro ⟨v, _, _, ⟨rfl, rfl, rfl⟩, rfl, rfl⟩
    exact ⟨v, by simp, rfl, rfl⟩
  · rintro ⟨v, rfl, rfl, rfl⟩
    exact ⟨v, [], [], ⟨rfl, rfl, rfl⟩, by simp, rfl⟩

/-- A computation that succeeds on no input fails on every one. -/
theorem error_of_not_exists (hx : Consumes x R) {s : Stream}
    (h : ¬ ∃ bytes ops a rest, R bytes ops a ∧ s.input = bytes ++ rest) :
    ∃ e s', x.run s = .error e s' := by
  rcases hrun : x.run s with ⟨a, s'⟩ | ⟨e, s'⟩
  · obtain ⟨bytes, ops, hR, hin, -⟩ := (hx s a s').mp hrun
    exact absurd ⟨bytes, ops, a, s'.input, hR, hin⟩ h
  · exact ⟨e, s', rfl⟩

end Consumes

/-! ## Big-endian numbers -/

/-- The number whose big-endian bytes are `bytes`. -/
def be_value (bytes : List UInt8) : Nat :=
  bytes.foldl (fun acc b => acc * 256 + b.toNat) 0

/-- The `k` bytes of `n` modulo `256 ^ k`, most significant first. -/
def be_bytes : Nat → Nat → List UInt8
  | 0, _ => []
  | k + 1, n => be_bytes k (n / 256) ++ [UInt8.ofNat n]

@[simp]
theorem be_value_nil : be_value [] = 0 := rfl

@[simp]
theorem be_value_append_singleton (bytes : List UInt8) (b : UInt8) :
    be_value (bytes ++ [b]) = be_value bytes * 256 + b.toNat := by
  simp [be_value, List.foldl_append]

@[simp]
theorem length_be_bytes (k n : Nat) : (be_bytes k n).length = k := by
  induction k generalizing n with
  | zero => rfl
  | succ k ih => simp [be_bytes, ih]

theorem be_value_lt (bytes : List UInt8) : be_value bytes < 256 ^ bytes.length := by
  induction bytes using List.reverseRecOn with
  | nil => simp
  | append_singleton bytes b ih =>
    have hb := b.toNat_lt
    rw [be_value_append_singleton, List.length_append, List.length_singleton, Nat.pow_succ]
    -- the lower digit fits below the shift of the upper ones
    have : (be_value bytes + 1) * 256 ≤ 256 ^ bytes.length * 256 := Nat.mul_le_mul_right _ ih
    omega

/-- Reading back the bytes of a number gives it modulo `256 ^ k`. -/
theorem be_value_be_bytes (k n : Nat) : be_value (be_bytes k n) = n % 256 ^ k := by
  induction k generalizing n with
  | zero => simp [be_bytes, Nat.mod_one]
  | succ k ih =>
    have byte : (UInt8.ofNat n).toNat = n % 256 := by simp
    rw [be_bytes, be_value_append_singleton, ih, byte]
    rw [Nat.pow_succ, Nat.mul_comm (256 ^ k) 256, Nat.mod_mul]
    omega

/-- The bytes of the number that bytes encode are those bytes. -/
theorem be_bytes_be_value (bytes : List UInt8) : be_bytes bytes.length (be_value bytes) = bytes := by
  induction bytes using List.reverseRecOn with
  | nil => rfl
  | append_singleton bytes b ih =>
    have hb := b.toNat_lt
    have hdiv : (be_value bytes * 256 + b.toNat) / 256 = be_value bytes := by omega
    have hmod : UInt8.ofNat (be_value bytes * 256 + b.toNat) = b := by
      apply UInt8.toNat_inj.mp
      rw [UInt8.toNat_ofNat']
      omega
    rw [List.length_append, List.length_singleton, be_bytes, be_value_append_singleton, hdiv, ih,
      hmod]

/-- The bytes of a machine word, read back into one, give the word. -/
theorem ofNat_be_value_be_bytes {k w : Nat} (hw : w = 8 * k) (a : BitVec w) :
    BitVec.ofNat w (be_value (be_bytes k a.toNat)) = a := by
  have hlt : a.toNat < 256 ^ k := by
    have hpow : 2 ^ w = 256 ^ k := by rw [hw, Nat.pow_mul]
    exact hpow ▸ a.isLt
  rw [be_value_be_bytes, Nat.mod_eq_of_lt hlt, BitVec.ofNat_toNat, BitVec.setWidth_eq]

/-- The word that bytes are read into has those bytes. -/
theorem be_bytes_toNat_ofNat_be_value {w : Nat} (bytes : List UInt8) (hw : w = 8 * bytes.length) :
    be_bytes bytes.length (BitVec.ofNat w (be_value bytes)).toNat = bytes := by
  have hlt : be_value bytes < 2 ^ w := by
    have hpow : 2 ^ w = 256 ^ bytes.length := by rw [hw, Nat.pow_mul]
    exact hpow ▸ be_value_lt bytes
  rw [BitVec.toNat_ofNat, Nat.mod_eq_of_lt hlt, be_bytes_be_value]

/-- The elements of a vector, in order. -/
theorem vector_toList_eq_ofFn {γ : Type} {n : Nat} (v : Vector γ n) :
    v.toList = List.ofFn fun i : Fin n => v[i] := by
  have hv : Vector.ofFn (fun i : Fin n => v[i]) = v := Vector.ofFn_getElem
  conv_lhs => rw [← hv]
  exact Vector.toList_ofFn

/-- A vector of one element, as a list. -/
theorem vector_toList_one {γ : Type} (v : Vector γ 1) : v.toList = [v.get 0] := by
  rw [vector_toList_eq_ofFn, List.ofFn_succ, List.ofFn_zero]
  rfl

/-- A vector of two elements, as a list. -/
theorem vector_toList_two {γ : Type} (v : Vector γ 2) : v.toList = [v.get 0, v.get 1] := by
  rw [vector_toList_eq_ofFn, List.ofFn_succ, List.ofFn_succ, List.ofFn_zero]
  rfl

end ByteStream

end Ztunnel
