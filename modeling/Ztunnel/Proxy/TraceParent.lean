/-
  Ztunnel.Proxy.TraceParent

  The W3C traceparent header (src/proxy.rs).  A `TraceParent` is written
  by its `Debug` text, `{:02x}-{:032x}-{:016x}-{:02x}` of its four fields,
  and read back by `TryFrom<&str>`, which checks the length of the text in
  bytes, splits it at '-' and reads the first four segments in
  hexadecimal.  Inbound, `extract_traceparent` (src/proxy/inbound.rs)
  reads the header of an HBONE CONNECT when it is visible ASCII and makes
  a fresh traceparent when it is missing or does not parse.

  The fresh traceparent, made of random numbers, is a parameter.  The
  segments are indexed without a check of their number, and an index past
  the end panics: `try_from` is a computation in
  `ExceptT String (Except String)`, the `anyhow` error of the function
  inside and a panic outside.
-/

import Ztunnel.Lib.Radix
import Ztunnel.Lib.Except
import Ztunnel.Proxy.Baggage

namespace Ztunnel

open Radix

structure TraceParent where
  version : BitVec 8
  trace_id : BitVec 128
  parent_id : BitVec 64
  flags : BitVec 8
  deriving DecidableEq, Repr

namespace TraceParent

/-- `Debug`: `{:02x}-{:032x}-{:016x}-{:02x}`. -/
def fmt (self : TraceParent) : String :=
  fmt_hex 2 self.version.toNat ++ "-" ++ fmt_hex 32 self.trace_id.toNat ++ "-" ++
    fmt_hex 16 self.parent_id.toNat ++ "-" ++ fmt_hex 2 self.flags.toNat

/-- `header`: `HeaderValue::from_bytes` on the bytes of the `Debug` text,
    unwrapped.  It checks the bytes as `HeaderValue::try_from` checks the
    characters of a text. -/
def header [HeaderValueChecks] (self : TraceParent) : Except String HeaderValue :=
  match HeaderValue.try_from self.fmt with
  | .ok hv => .ok hv
  | .error _ => .error "called `Result::unwrap()` on an `Err` value: InvalidHeaderValue"

/-- One field of `try_from`: the segment, which panics when it is missing,
    read in hexadecimal at the field's width; `?` turns a `ParseIntError`
    into the error of the function. -/
def field (segs : List String) (i w : Nat) : ExceptT String (Except String) (BitVec w) :=
  ExceptT.mk do
    let seg ← index segs i
    pure ((from_str_radix w 16 seg).mapError IntErrorKind.description)

/-- `TryFrom<&str>`: the length in bytes is checked, then the fields are
    read in the order the struct literal names them, the first error
    returning before the later segments are indexed. -/
def try_from (value : String) : ExceptT String (Except String) TraceParent :=
  if value.utf8ByteSize ≠ 55 then
    bail ("traceparent malformed length was " ++ toString value.utf8ByteSize)
  else do
    let segs := splitChar value '-'
    let version ← field segs 0 8
    let trace_id ← field segs 1 128
    let parent_id ← field segs 2 64
    let flags ← field segs 3 8
    pure ⟨version, trace_id, parent_id, flags⟩

end TraceParent

/-- `Inbound::extract_traceparent`: the first traceparent value when it is
    visible ASCII and parses, else `fresh`, which `TraceParent::new` makes
    of random numbers. -/
def extract_traceparent [HeaderValueChecks] (value : Option HeaderValue) (fresh : TraceParent) :
    Except String TraceParent :=
  match value.bind fun b => b.to_str.toOption with
  | none => .ok fresh
  | some b => (TraceParent.try_from b).run.map fun r => r.toOption.getD fresh

/-! ## The text written -/

namespace TraceParent

/-- The four segments `Debug` writes. -/
def segments (t : TraceParent) : List String :=
  [fmt_hex 2 t.version.toNat, fmt_hex 32 t.trace_id.toNat, fmt_hex 16 t.parent_id.toNat,
    fmt_hex 2 t.flags.toNat]

theorem fmt_eq_intercalate (t : TraceParent) :
    t.fmt = String.ofList (['-'].intercalate (t.segments.map String.toList)) := by
  rw [← String.toList_inj]
  simp [fmt, segments, List.intercalate]

theorem dash_not_mem_fmt_hex (width n : Nat) : '-' ∉ (fmt_hex width n).toList := by
  intro hc
  obtain ⟨d, hd, heq⟩ := mem_fmt_hex hc
  have hall : ∀ e ∈ List.range 16, Nat.digitChar e ≠ '-' := by decide
  exact hall d (List.mem_range.mpr hd) heq.symm

/-- No hexadecimal digit is a '-': the text splits back into its four
    segments. -/
theorem splitChar_fmt (t : TraceParent) : splitChar t.fmt '-' = t.segments := by
  rw [fmt_eq_intercalate]
  refine splitChar_intercalate '-' (by simp [segments]) ?_
  intro p hp
  simp only [segments, List.mem_cons, List.not_mem_nil, or_false] at hp
  rcases hp with rfl | rfl | rfl | rfl <;> exact dash_not_mem_fmt_hex _ _

/-- Each field fills its width: 2, 32, 16 and 2 digits and three '-'. -/
theorem utf8ByteSize_fmt (t : TraceParent) : t.fmt.utf8ByteSize = 55 := by
  have hv : t.version.toNat < 16 ^ 2 := t.version.isLt
  have ht : t.trace_id.toNat < 16 ^ 32 := t.trace_id.isLt
  have hp : t.parent_id.toNat < 16 ^ 16 := t.parent_id.isLt
  have hf : t.flags.toNat < 16 ^ 2 := t.flags.isLt
  simp only [fmt, String.utf8ByteSize_append, utf8ByteSize_fmt_hex (by decide) hv,
    utf8ByteSize_fmt_hex (by decide) ht, utf8ByteSize_fmt_hex (by decide) hp,
    utf8ByteSize_fmt_hex (by decide) hf]
  rfl

theorem mem_fmt {t : TraceParent} {c : Char} (hc : c ∈ t.fmt.toList) :
    c = '-' ∨ ∃ d < 16, c = Nat.digitChar d := by
  simp only [fmt, String.toList_append, List.mem_append, String.reduceToList,
    List.mem_singleton] at hc
  rcases hc with ((((((hc | hc) | hc) | hc) | hc) | hc) | hc)
  all_goals first
    | exact .inr (mem_fmt_hex hc)
    | exact .inl hc

/-- The text is visible ASCII: digits and '-'. -/
theorem fmt_visible [HeaderValueChecks] (t : TraceParent) :
    t.fmt.toList.all is_visible_ascii = true := by
  have hdigit : ∀ e ∈ List.range 16,
      32 ≤ (Nat.digitChar e).toNat ∧ (Nat.digitChar e).toNat < 127 := by decide
  refine all_visible_of_ascii fun c hc => ?_
  rcases mem_fmt hc with rfl | ⟨d, hd, rfl⟩
  · decide
  · exact hdigit d (List.mem_range.mpr hd)

/-- `header` does not panic: it holds the `Debug` text. -/
theorem header_eq [HeaderValueChecks] (t : TraceParent) : t.header = .ok ⟨t.fmt⟩ := by
  have hvalid : t.fmt.toList.all is_valid = true := all_is_valid_of_visible (fmt_visible t)
  rw [header, HeaderValueChecks.try_from_of_valid _ hvalid]

end TraceParent

/-! ## Reading it back -/

namespace TraceParent

theorem field_run {segs : List String} {i w : Nat} {seg : String} (h : segs[i]? = some seg) :
    (field segs i w).run = .ok ((from_str_radix w 16 seg).mapError IntErrorKind.description) := by
  simp [field, index, h]

/-- A present segment that parses gives its value. -/
theorem field_run_ok {segs : List String} {i w : Nat} {seg : String} {x : BitVec w}
    (h : segs[i]? = some seg) (hx : from_str_radix w 16 seg = .ok x) :
    (field segs i w).run = .ok (.ok x) := by
  rw [field_run h, hx]
  rfl

theorem field_noPanic {segs : List String} {i w : Nat} (h : i < segs.length) :
    NoPanic (field segs i w) :=
  ⟨_, field_run (List.getElem?_eq_getElem h)⟩

/-- A missing segment panics. -/
theorem field_run_panic {segs : List String} {i w : Nat} (h : segs.length ≤ i) :
    (field segs i w).run =
      .error ("index out of bounds: the len is " ++ toString segs.length ++ " but the index is " ++
        toString i) := by
  simp [field, index, List.getElem?_eq_none h]

/-- `try_from` reads back every text `Debug` writes. -/
theorem try_from_fmt (t : TraceParent) : (try_from t.fmt).run = .ok (.ok t) := by
  have hlen : ¬t.fmt.utf8ByteSize ≠ 55 := by rw [utf8ByteSize_fmt]; decide
  rw [try_from, if_neg hlen, splitChar_fmt]
  rw [exceptT_run_bind_ok (field_run_ok rfl (from_str_radix_fmt_hex 2 t.version)),
    exceptT_run_bind_ok (field_run_ok rfl (from_str_radix_fmt_hex 32 t.trace_id)),
    exceptT_run_bind_ok (field_run_ok rfl (from_str_radix_fmt_hex 16 t.parent_id)),
    exceptT_run_bind_ok (field_run_ok rfl (from_str_radix_fmt_hex 2 t.flags))]
  rfl

/-- With four segments or more nothing is indexed past the end: `try_from`
    returns a result, a traceparent or an error. -/
theorem try_from_noPanic {value : String} (h : 4 ≤ (splitChar value '-').length) :
    NoPanic (try_from value) := by
  unfold try_from
  split
  · exact NoPanic.mk_ok _
  · exact (field_noPanic (by omega)).bind fun _ =>
      (field_noPanic (by omega)).bind fun _ =>
        (field_noPanic (by omega)).bind fun _ =>
          (field_noPanic (by omega)).bind fun _ => NoPanic.pure _

/-- A text of the right length without a '-' is one segment: when it reads
    as a byte, the second segment is indexed and panics. -/
theorem try_from_panics_of_no_dash {value : String} {v : BitVec 8}
    (hlen : value.utf8ByteSize = 55) (hdash : '-' ∉ value.toList)
    (hv : from_str_radix 8 16 value = .ok v) :
    (try_from value).run = .error "index out of bounds: the len is 1 but the index is 1" := by
  have hsegs : splitChar value '-' = [value] := by
    have hne : ∀ x ∈ value.toList, (x == '-') = false := by
      intro x hx
      simpa using fun h : x = '-' => hdash (h ▸ hx)
    rw [splitChar, List.splitOn, List.splitOnP_eq_singleton hne]
    simp
  rw [try_from, if_neg (not_not.mpr hlen), hsegs,
    exceptT_run_bind_ok (field_run_ok rfl hv),
    exceptT_run_bind_panic (field_run_panic (show [value].length ≤ 1 from le_rfl)),
    List.length_singleton]
  exact congrArg Except.error (by decide)

end TraceParent

/-- The header a proxy sends is read back on the other side, whatever
    fresh traceparent it would make otherwise. -/
theorem extract_traceparent_header [HeaderValueChecks] (t fresh : TraceParent) :
    ∃ hv, t.header = .ok hv ∧ (TraceParent.try_from hv.text).run = .ok (.ok t) ∧
      extract_traceparent (some hv) fresh = .ok t := by
  refine ⟨⟨t.fmt⟩, t.header_eq, t.try_from_fmt, ?_⟩
  have hstr : HeaderValue.to_str ⟨t.fmt⟩ = .ok t.fmt :=
    HeaderValueChecks.to_str_of_visible _ t.fmt_visible
  simp only [extract_traceparent, Option.bind_some, hstr, Except.toOption, t.try_from_fmt]
  rfl

/-- A text of zeros is visible ASCII, of one byte a character. -/
theorem zeros_to_str [HeaderValueChecks] (n : Nat) :
    HeaderValue.to_str ⟨String.ofList (List.replicate n '0')⟩ =
      .ok (String.ofList (List.replicate n '0')) := by
  refine HeaderValueChecks.to_str_of_visible _ (all_visible_of_ascii fun c hc => ?_)
  rw [String.toList_ofList] at hc
  rw [(List.mem_replicate.mp hc).2]
  decide

theorem utf8ByteSize_zeros (n : Nat) : (String.ofList (List.replicate n '0')).utf8ByteSize = n := by
  have hascii : ∀ c ∈ List.replicate n '0', c.utf8Size = 1 := by
    intro c hc
    rw [(List.mem_replicate.mp hc).2]
    rfl
  rw [utf8ByteSize_ofList_of_ascii hascii, List.length_replicate]

/-- Fifty-five '0', the length of a traceparent, as a peer may send it in
    the traceparent header of a CONNECT. -/
def zerosHeader : HeaderValue := ⟨String.ofList (List.replicate 55 '0')⟩

/-- The text of `zerosHeader` is visible ASCII of the right length with no
    '-', and its one segment reads as the byte 0: `extract_traceparent`
    panics on it, indexing the second segment. -/
theorem extract_traceparent_zeros_panics [HeaderValueChecks] (fresh : TraceParent) :
    (TraceParent.try_from zerosHeader.text).run =
        .error "index out of bounds: the len is 1 but the index is 1" ∧
      extract_traceparent (some zerosHeader) fresh =
        .error "index out of bounds: the len is 1 but the index is 1" := by
  have htext : zerosHeader.text = String.ofList (List.replicate 55 '0') := rfl
  have hdash : '-' ∉ zerosHeader.text.toList := by
    rw [htext]
    simp
  have hpanic : (TraceParent.try_from zerosHeader.text).run =
      .error "index out of bounds: the len is 1 but the index is 1" := by
    refine TraceParent.try_from_panics_of_no_dash (v := 0) ?_ hdash ?_
    · rw [htext, utf8ByteSize_zeros]
    · rw [htext]
      exact from_str_radix_zeros (by decide) (by decide)
  have hstr : zerosHeader.to_str = .ok zerosHeader.text := zeros_to_str 55
  refine ⟨hpanic, ?_⟩
  simp only [extract_traceparent, Option.bind_some, hstr, Except.toOption]
  rw [hpanic]
  rfl

end Ztunnel
