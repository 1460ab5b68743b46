/-
  Ztunnel.Proxy.Forwarded

  The Forwarded header, by which the outbound proxy tells the inbound one
  which service the client asked for.  Outbound, `build_forwarded`
  (src/proxy/outbound.rs) writes `for="ADDR"` with the client's socket
  address, then `;host=NAME` with the service's hostname when the request
  names one.  Inbound, `parse_forwarded_host` (src/proxy/inbound.rs) reads
  the first Forwarded value as text, `proxy::parse_forwarded_host`
  (src/proxy.rs) takes the value of its first `host=` element without its
  quotes, and `guess_inbound_service` reports a service of that hostname.

  The address is printed as std's `Display` prints a `SocketAddr`: dotted
  decimal for IPv4; for IPv6 in brackets, `::ffff:` and the IPv4 form for
  a mapped address, else the segments in lowercase hexadecimal, the first
  longest run of two zero segments or more written `::`.

  Every character of an address's text is a hexadecimal digit or one of
  `.:[]`, so no client address ends the `for` element early or makes the
  header other than ASCII: a hostname the parser reads back as it is
  (`PlainHost`) arrives unchanged, and the inbound proxy reports a service
  of that hostname whenever the destination has one.
-/

import Ztunnel.Lib.Str
import Ztunnel.Lib.Radix
import Ztunnel.Proxy.Baggage
import Ztunnel.Proxy.Inbound

namespace Ztunnel

/-! ## Printing addresses -/

/-- `Display for Ipv4Addr`: the four octets in decimal, between dots. -/
def fmtIpv4 (bits : BitVec 32) : String :=
  let octet (i : Nat) := bits.toNat / 2 ^ (8 * (3 - i)) % 2 ^ 8
  Nat.repr (octet 0) ++ "." ++ Nat.repr (octet 1) ++ "." ++ Nat.repr (octet 2) ++ "." ++
    Nat.repr (octet 3)

/-- `Ipv6Addr::segments`: the eight 16-bit segments, the most significant
    first. -/
def segments (bits : BitVec 128) : List Nat :=
  (List.range 8).map fun i => bits.toNat / 2 ^ (16 * (7 - i)) % 2 ^ 16

/-- `Ipv6Addr::to_ipv4_mapped`: the IPv4 address of `::ffff:a.b.c.d`. -/
def to_ipv4_mapped (bits : BitVec 128) : Option (BitVec 32) :=
  if bits.toNat / 2 ^ 32 = 0xffff then some (bits.setWidth 32) else none

/-- A run of zero segments: its first index and its length. -/
structure Span where
  start : Nat
  len : Nat

/-- One segment of the search for the zeros to elide, over
    `(longest, current)`: a zero extends the current run, which replaces
    the longest only when it is strictly longer; any other segment ends
    the run. -/
def zeroesStep (acc : Span × Span) (x : Nat × Nat) : Span × Span :=
  if x.1 = 0 then
    let current : Span := ⟨if acc.2.len = 0 then x.2 else acc.2.start, acc.2.len + 1⟩
    (if current.len > acc.1.len then current else acc.1, current)
  else (acc.1, ⟨0, 0⟩)

/-- The first of the longest runs of zero segments. -/
def zeroes (segments : List Nat) : Span :=
  (segments.zipIdx.foldl zeroesStep (⟨0, 0⟩, ⟨0, 0⟩)).1

/-- `fmt_subslice`: the segments in hexadecimal, each after the first
    behind a colon. -/
def fmt_subslice : List Nat → String
  | [] => ""
  | first :: tail =>
    tail.foldl (fun f segment => f ++ ":" ++ Radix.fmt_hex 0 segment) (Radix.fmt_hex 0 first)

/-- `Display for Ipv6Addr`. -/
def fmtIpv6 (bits : BitVec 128) : String :=
  match to_ipv4_mapped bits with
  | some ipv4 => "::ffff:" ++ fmtIpv4 ipv4
  | none =>
    let segments := segments bits
    let zeroes := zeroes segments
    if zeroes.len > 1 then
      fmt_subslice (segments.take zeroes.start) ++ "::" ++
        fmt_subslice (segments.drop (zeroes.start + zeroes.len))
    else fmt_subslice segments

/-- `Display for SocketAddr`. -/
def SocketAddr.to_string (addr : SocketAddr) : String :=
  match addr.ip with
  | .V4 bits => fmtIpv4 bits ++ ":" ++ Nat.repr addr.port.toNat
  | .V6 bits => "[" ++ fmtIpv6 bits ++ "]:" ++ Nat.repr addr.port.toNat

/-- A character of an address's text: a decimal or lowercase hexadecimal
    digit, or one of `.:[]`. -/
def addrChar (c : Char) : Bool :=
  (48 ≤ c.toNat && c.toNat ≤ 57) || (97 ≤ c.toNat && c.toNat ≤ 102) || c.toNat == 46 ||
    c.toNat == 58 || c.toNat == 91 || c.toNat == 93

section AddrChars

theorem addrChar_digitChar {d : Nat} (hd : d < 16) : addrChar (Nat.digitChar d) = true := by
  have hall : ∀ e ∈ List.range 16, addrChar (Nat.digitChar e) = true := by decide
  exact hall d (List.mem_range.mpr hd)

/-- An address's character is visible ASCII, and no `;` or `"`. -/
theorem addrChar_plain {c : Char} (h : addrChar c = true) :
    (32 ≤ c.toNat ∧ c.toNat < 127) ∧ c.toNat < 128 ∧ c ≠ ';' ∧ c ≠ '"' := by
  have hcode : 46 ≤ c.toNat ∧ c.toNat ≤ 102 ∧ c.toNat ≠ 59 := by
    simp only [addrChar, Bool.or_eq_true, Bool.and_eq_true, decide_eq_true_eq, beq_iff_eq] at h
    omega
  refine ⟨⟨by omega, by omega⟩, by omega, fun he => ?_, fun he => ?_⟩
  · rw [he] at hcode
    exact hcode.2.2 rfl
  · rw [he] at hcode
    exact absurd hcode.1 (by decide)

theorem repr_addrChars (n : Nat) : (Nat.repr n).toList.all addrChar := by
  rw [List.all_eq_true]
  intro c hc
  rw [Nat.repr, String.toList_ofList] at hc
  obtain ⟨d, hd, rfl⟩ := Radix.mem_toDigits (by decide) n hc
  exact addrChar_digitChar (by omega)

theorem fmt_hex_addrChars (width n : Nat) : (Radix.fmt_hex width n).toList.all addrChar := by
  rw [List.all_eq_true]
  intro c hc
  obtain ⟨d, hd, rfl⟩ := Radix.mem_fmt_hex hc
  exact addrChar_digitChar hd

theorem fmt_subslice_addrChars (chunk : List Nat) : (fmt_subslice chunk).toList.all addrChar := by
  cases chunk with
  | nil => rfl
  | cons first tail =>
    -- the loop writes a colon and a segment onto text of address characters
    have hloop : ∀ (f : String), f.toList.all addrChar →
        (tail.foldl (fun f segment => f ++ ":" ++ Radix.fmt_hex 0 segment) f).toList.all
          addrChar := by
      induction tail with
      | nil => exact fun _ hf => hf
      | cons segment rest ih =>
        intro f hf
        refine ih _ ?_
        simp only [String.toList_append, List.all_append, hf, fmt_hex_addrChars, Bool.and_true]
        rfl
    exact hloop _ (fmt_hex_addrChars 0 first)

theorem fmtIpv4_addrChars (bits : BitVec 32) : (fmtIpv4 bits).toList.all addrChar := by
  have hdot : ".".toList.all addrChar := by decide
  simp only [fmtIpv4, String.toList_append, List.all_append, repr_addrChars, hdot, Bool.and_self]

theorem fmtIpv6_addrChars (bits : BitVec 128) : (fmtIpv6 bits).toList.all addrChar := by
  unfold fmtIpv6
  split
  · have hmapped : "::ffff:".toList.all addrChar := by decide
    simp only [String.toList_append, List.all_append, hmapped, fmtIpv4_addrChars, Bool.and_self]
  · dsimp only
    split
    · have helided : "::".toList.all addrChar := by decide
      simp only [String.toList_append, List.all_append, fmt_subslice_addrChars, helided,
        Bool.and_self]
    · exact fmt_subslice_addrChars _

/-- Every character of a socket address's text is a hexadecimal digit or
    one of `.:[]`. -/
theorem to_string_addrChars (addr : SocketAddr) : addr.to_string.toList.all addrChar := by
  have hcolon : ":".toList.all addrChar := by decide
  have hopen : "[".toList.all addrChar := by decide
  have hclose : "]:".toList.all addrChar := by decide
  unfold SocketAddr.to_string
  split
  · simp only [String.toList_append, List.all_append, fmtIpv4_addrChars, hcolon, repr_addrChars,
      Bool.and_self]
  · simp only [String.toList_append, List.all_append, hopen, fmtIpv6_addrChars, hclose,
      repr_addrChars, Bool.and_self]

example : SocketAddr.to_string ⟨.V6 1, 80⟩ = "[::1]:80" := by decide

end AddrChars

namespace Proxy

/-! ## The header -/

/-- `build_forwarded` of src/proxy/outbound.rs. -/
def build_forwarded (remote_addr : SocketAddr) (server : Option ServiceDescription) : String :=
  match server with
  | none => "for=\"" ++ remote_addr.to_string ++ "\""
  | some svc => "for=\"" ++ remote_addr.to_string ++ "\";host=" ++ svc.hostname

/-- `parse_forwarded_host` of src/proxy.rs: the first element of the
    header that starts with `host=`, once trimmed, gives its value without
    quotes, when the header is ASCII and the value not empty. -/
def parse_forwarded_host (input : String) : Option String :=
  if !is_ascii input then none
  else
    (((splitChar input ';').find? fun part => startsWith (trim part) "host=").bind
        fun host_part =>
          ((stripPrefix (trim host_part) "host=").map fun h => (stripPrefix h "\"").getD h).map
            fun h => (stripSuffix h "\"").getD h).filter
      fun host => !host.isEmpty

/-- `parse_forwarded_host` of src/proxy/inbound.rs, of the request's first
    Forwarded value: a value that is not visible ASCII is no text. -/
def Inbound.parse_forwarded_host [HeaderValueChecks] (forwarded : Option HeaderValue) : Option String :=
  (forwarded.bind fun rh => rh.to_str.toOption).bind Proxy.parse_forwarded_host

/-- A hostname that `parse_forwarded_host` reads back as it is: not empty,
    ASCII, without the element separator, with no quote at either end,
    which the parser strips, and no whitespace at its end, which it trims. -/
structure PlainHost (host : String) : Prop where
  ne_empty : host ≠ ""
  ascii : is_ascii host = true
  no_semicolon : ';' ∉ host.toList
  no_leading_quote : ¬ "\"".toList <+: host.toList
  no_trailing_quote : ¬ "\"".toList <:+ host.toList
  last_not_whitespace : ∀ c ∈ host.toList.getLast?, is_whitespace c = false

/-! ## Reading the header back -/

section ReadBack

theorem stripPrefix_append (pre s : String) : stripPrefix (pre ++ s) pre = some s := by
  unfold stripPrefix
  rw [if_pos (by rw [String.toList_append]; exact List.prefix_append _ _)]
  simp only [String.toList_append, List.drop_left, String.ofList_toList]

/-- A text whose first character is not `h` does not start with `host=`. -/
theorem startsWith_host_of_head {s : String} {c : Char} (hs : s.toList.head? = some c)
    (hc : c ≠ 'h') : startsWith s "host=" = false := by
  unfold startsWith
  rw [decide_eq_false_iff_not]
  rintro ⟨t, ht⟩
  rw [← ht] at hs
  simp only [String.reduceToList, List.cons_append, List.head?_cons, Option.some.injEq] at hs
  exact hc hs.symm

/-- The `for` element is no `host=` element. -/
theorem for_element_not_host (addr : SocketAddr) :
    startsWith (trim ("for=\"" ++ addr.to_string ++ "\"")) "host=" = false := by
  have hhead : ("for=\"" ++ addr.to_string ++ "\"").toList.head? = some 'f' := by
    simp only [String.toList_append, String.reduceToList, List.cons_append, List.head?_cons]
  have hlast : ("for=\"" ++ addr.to_string ++ "\"").toList.getLast? = some '"' := by
    simp only [String.toList_append, String.reduceToList, List.getLast?_append,
      List.getLast?_singleton, Option.some_or]
  have htrim : trim ("for=\"" ++ addr.to_string ++ "\"") = "for=\"" ++ addr.to_string ++ "\"" :=
    trim_of_ends (by rw [hhead]; rintro c ⟨⟩; decide) (by rw [hlast]; rintro c ⟨⟩; decide)
  rw [htrim]
  exact startsWith_host_of_head hhead (by decide)

/-- The `host=` element of a plain hostname is its own trim. -/
theorem trim_host_element {host : String} (h : PlainHost host) :
    trim ("host=" ++ host) = "host=" ++ host := by
  have hlast : ("host=" ++ host).toList.getLast? = host.toList.getLast? := by
    have hne : host.toList.getLast? ≠ none := by
      simpa [List.getLast?_eq_none_iff, String.toList_eq_nil_iff] using h.ne_empty
    rw [String.toList_append, List.getLast?_append]
    cases hl : host.toList.getLast? with
    | none => exact absurd hl hne
    | some c => rfl
  have hhead : ("host=" ++ host).toList.head? = some 'h' := by
    simp only [String.toList_append, String.reduceToList, List.cons_append, List.head?_cons]
  exact trim_of_ends (by rw [hhead]; rintro c ⟨⟩; decide)
    (by rw [hlast]; exact h.last_not_whitespace)

/-- The value of a plain hostname's `host=` element is the hostname. -/
theorem read_host_element {host : String} (h : PlainHost host) :
    ((stripPrefix (trim ("host=" ++ host)) "host=").map fun h => (stripPrefix h "\"").getD h).map
      (fun h => (stripSuffix h "\"").getD h) = some host := by
  have hquote : stripPrefix host "\"" = none := if_neg h.no_leading_quote
  rw [trim_host_element h, stripPrefix_append, Option.map_some, Option.map_some, hquote,
    Option.getD_none, stripSuffix_of_not_suffix h.no_trailing_quote, Option.getD_none]

theorem is_ascii_build_forwarded (remote_addr : SocketAddr) (svc : ServiceDescription)
    (h : is_ascii svc.hostname = true) :
    is_ascii (build_forwarded remote_addr (some svc)) = true := by
  have haddr : is_ascii remote_addr.to_string = true := by
    simp only [is_ascii, List.all_eq_true]
    intro c hc
    exact decide_eq_true (addrChar_plain (List.all_eq_true.mp (to_string_addrChars _) c hc)).2.1
  simp only [build_forwarded, is_ascii_append, haddr, h, Bool.and_true]
  decide

/-- The header with a service splits into its `for` and `host=` elements. -/
theorem splitChar_build_forwarded (remote_addr : SocketAddr) {svc : ServiceDescription}
    (h : ';' ∉ svc.hostname.toList) :
    splitChar (build_forwarded remote_addr (some svc)) ';' =
      ["for=\"" ++ remote_addr.to_string ++ "\"", "host=" ++ svc.hostname] := by
  have haddr : ';' ∉ remote_addr.to_string.toList := fun hc =>
    (addrChar_plain (List.all_eq_true.mp (to_string_addrChars _) _ hc)).2.2.1 rfl
  have htext : build_forwarded remote_addr (some svc) = String.ofList ([';'].intercalate
      (["for=\"" ++ remote_addr.to_string ++ "\"", "host=" ++ svc.hostname].map String.toList)) := by
    rw [← String.toList_inj, String.toList_ofList]
    simp [build_forwarded, String.toList_append, List.intercalate]
  rw [htext, splitChar_intercalate ';' (List.cons_ne_nil _ _)]
  intro p hp
  simp only [List.mem_cons, List.not_mem_nil, or_false] at hp
  rcases hp with rfl | rfl <;> simp [String.toList_append, haddr, h]

/-- The header without a service is its `for` element alone. -/
theorem parse_forwarded_host_for_only (remote_addr : SocketAddr) :
    parse_forwarded_host (build_forwarded remote_addr none) = none := by
  have haddr : ';' ∉ remote_addr.to_string.toList := fun hc =>
    (addrChar_plain (List.all_eq_true.mp (to_string_addrChars _) _ hc)).2.2.1 rfl
  have hsplit : splitChar (build_forwarded remote_addr none) ';' =
      [build_forwarded remote_addr none] := by
    have h : splitChar (String.ofList ([';'].intercalate
        ([build_forwarded remote_addr none].map String.toList))) ';' =
          [build_forwarded remote_addr none] :=
      splitChar_intercalate ';' (List.cons_ne_nil _ _)
        (by simp [build_forwarded, String.toList_append, haddr])
    simpa using h
  have hfind : (splitChar (build_forwarded remote_addr none) ';').find?
      (fun part => startsWith (trim part) "host=") = none := by
    rw [hsplit, List.find?_singleton, build_forwarded, for_element_not_host]
    rfl
  unfold parse_forwarded_host
  split
  · rfl
  · rw [hfind]
    rfl

/-- The header with a service reads back as the service's hostname. -/
theorem parse_forwarded_host_for_host (remote_addr : SocketAddr) {svc : ServiceDescription}
    (h : PlainHost svc.hostname) :
    parse_forwarded_host (build_forwarded remote_addr (some svc)) = some svc.hostname := by
  have hhost : startsWith (trim ("host=" ++ svc.hostname)) "host=" = true := by
    rw [trim_host_element h]
    exact decide_eq_true (by rw [String.toList_append]; exact List.prefix_append _ _)
  have hfind : (splitChar (build_forwarded remote_addr (some svc)) ';').find?
      (fun part => startsWith (trim part) "host=") = some ("host=" ++ svc.hostname) := by
    rw [splitChar_build_forwarded remote_addr h.no_semicolon, List.find?_cons,
      for_element_not_host, List.find?_cons, hhost]
  unfold parse_forwarded_host
  rw [if_neg (by simp [is_ascii_build_forwarded remote_addr svc h.ascii]), hfind,
    Option.bind_some, read_host_element h]
  simp [h.ne_empty]

end ReadBack

/-! ## The guarantees -/

/-- The client asks for the default namespace's service by name. -/
def svcDefaultRequest : ServiceDescription := .ofService svcDefault

theorem plainHost_svcDefaultRequest : PlainHost svcDefaultRequest.hostname := by
  have hlast : svcDefaultRequest.hostname.toList.getLast? = some 'l' := by decide
  refine ⟨by decide, by decide, by decide, by decide, by decide, ?_⟩
  rw [hlast]
  rintro c ⟨⟩
  decide

/-- What outbound writes, inbound reads back: the hostname of the service
    the client asked for, when it is plain, and nothing without one, for
    every client address. -/
theorem parse_forwarded_host_build_forwarded (remote_addr : SocketAddr)
    (server : Option ServiceDescription) (hhost : ∀ svc ∈ server, PlainHost svc.hostname) :
    parse_forwarded_host (build_forwarded remote_addr server) = server.map (·.hostname) := by
  cases server with
  | none => exact parse_forwarded_host_for_only remote_addr
  | some svc => exact parse_forwarded_host_for_host remote_addr (hhost svc rfl)

theorem parse_forwarded_host_build_forwarded_svcDefaultRequest :
    (∀ svc ∈ some svcDefaultRequest, PlainHost svc.hostname) ∧
      parse_forwarded_host (build_forwarded inboundConn.src (some svcDefaultRequest)) =
        some "svc.default.svc.cluster.local" :=
  have hhost : ∀ svc ∈ some svcDefaultRequest, PlainHost svc.hostname := by
    rintro svc ⟨⟩
    exact plainHost_svcDefaultRequest
  ⟨hhost, parse_forwarded_host_build_forwarded inboundConn.src (some svcDefaultRequest) hhost⟩

end Proxy

end Ztunnel
