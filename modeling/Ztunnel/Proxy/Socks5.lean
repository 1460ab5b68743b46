/-
  Ztunnel.Proxy.Socks5

  The handshake of the SOCKS5 listener (src/proxy/socks5.rs).
  `negotiate_socks_connection` reads a client's greeting and its request
  and returns the address to connect to; `send_response` writes the reply.
  The negotiation is written in the phases its comments name: the greeting
  with the method list and the reply that selects a method, the request's
  version and command, its address, and its port.

  A handshake as a client sends it is a `Handshake`: its methods, the
  reserved byte, the target (an address, or a name to resolve) and the
  port, with the bytes and the reads and writes it takes.  The main result
  is that the negotiation succeeds with `addr` exactly when the input
  begins with an accepted handshake for `addr`; it then consumes those
  bytes and no more, and writes only the method selection.

  The resolver is a parameter: `dns_lookup` through it gives the first
  address of the answer for the client's address and the hostname, or the
  displayed error.  Errors carry the display text of their `proxy::Error`.
  A write does not fail, and a read fails only at the end of the stream.
-/

import Ztunnel.Lib.ByteStream
import Ztunnel.Rbac.Authorization

namespace Ztunnel

open ByteStream

/-- `Ipv4Addr::octets` and `Ipv6Addr::octets`: the address, most
    significant byte first. -/
def IpAddr.octets : IpAddr → List UInt8
  | .V4 a => be_bytes 4 a.toNat
  | .V6 a => be_bytes 16 a.toNat

namespace Socks5

/-- `BigEndian::read_u16`. -/
def read_u16 (buf : Vector UInt8 2) : UInt16 :=
  UInt16.ofNat (be_value buf.toList)

/-- `u16::to_be_bytes`. -/
def to_be_bytes (n : UInt16) : List UInt8 :=
  be_bytes 2 n.toNat

inductive SocksError where
  | General (e : String)
  | NotAllowed (e : String)
  | NetworkUnreachable (e : String)
  | HostUnreachable (e : String)
  | ConnectionRefused (e : String)
  | CommandNotSupported (e : String)
  deriving DecidableEq, Repr

/-- `SocksError::invalid_protocol`: an `anyhow` error displays its reason. -/
def SocksError.invalid_protocol (reason : String) : SocksError :=
  .CommandNotSupported reason

/-- The `std::io::Error` of a `read_exact` that met the end of the stream,
    through `From<std::io::Error>` and `Error::Io`. -/
def early_eof : SocksError :=
  .General "io error: early eof"

/-- What the negotiation reads of `ProxyInputs`: the DNS resolver, when DNS
    proxying is on, as `dns_lookup` uses it. -/
structure ProxyInputs where
  resolver : Option (SocketAddr → String → Except String IpAddr)

/-! ## `negotiate_socks_connection` -/

/-- Version(5) and the number of auth methods, the methods, of which
    'unauthenticated' (0) must be one, and the selection of it. -/
def read_greeting : StreamM SocksError Unit := do
  let version ← read_exact early_eof 2
  if version.get 0 != 0x05 then
    throw (.invalid_protocol ("unsupported version " ++ toString (version.get 0)))
  let nmethods := version.get 1
  if nmethods == 0 then
    throw (.invalid_protocol ("methods cannot be zero " ++ toString (version.get 0)))
  let methods ← read_exact early_eof nmethods.toNat
  if !methods.any (· == 0) then
    throw (.invalid_protocol "only unauthenticated is supported")
  write_all [0x05, 0x00]

/-- Version(5) and the command, of which only CONNECT (1) is supported, and
    the reserved byte, skipped. -/
def read_command : StreamM SocksError Unit := do
  let version_command ← read_exact early_eof 2
  let version := version_command.get 0
  if version != 0x05 then
    throw (.invalid_protocol ("unsupported version " ++ toString version))
  if version_command.get 1 != 1 then
    throw (.invalid_protocol ("unsupported command " ++ toString (version_command.get 1)))
  let _rsv ← read_exact early_eof 1
  pure ()

/-- The address type and the address: four or sixteen bytes of an IP, or
    a hostname of at most 255 bytes that the resolver looks up. -/
def read_address (pi : ProxyInputs) (remote_addr : SocketAddr) : StreamM SocksError IpAddr := do
  let atyp ← read_exact early_eof 1
  match atyp.get 0 with
  | 0x01 => do
    let hostb ← read_exact early_eof 4
    pure (.V4 (BitVec.ofNat 32 (be_value hostb.toList)))
  | 0x04 => do
    let hostb ← read_exact early_eof 16
    pure (.V6 (BitVec.ofNat 128 (be_value hostb.toList)))
  | 0x03 => do
    let domain_length ← read_exact early_eof 1
    let domain ← read_exact early_eof (domain_length.get 0).toNat
    let some ds := String.fromUTF8? ⟨domain.toArray⟩
      | throw (.invalid_protocol ("domain is not a valid utf8 string: " ++ toString domain.toList))
    let some resolver := pi.resolver
      | throw (.invalid_protocol "unsupported hostname lookup, requires DNS enabled")
    match resolver remote_addr ds with
    | .ok ip => pure ip
    | .error e => throw (.HostUnreachable e)
  | n => throw (.invalid_protocol ("unsupported address type " ++ toString n))

def negotiate_socks_connection (pi : ProxyInputs) (remote_addr : SocketAddr) :
    StreamM SocksError SocketAddr := do
  read_greeting
  read_command
  let ip ← read_address pi remote_addr
  let port ← read_exact early_eof 2
  let port := read_u16 port
  pure ⟨ip, port⟩

/-! ## The reply -/

/-- The status byte of `send_response`'s reply. -/
def status : Option SocksError → UInt8
  | none => 0
  | some (.General _) => 1
  | some (.NotAllowed _) => 2
  | some (.NetworkUnreachable _) => 3
  | some (.HostUnreachable _) => 4
  | some (.ConnectionRefused _) => 5
  | some (.CommandNotSupported _) => 7

/-- The reply of RFC 1928 §6: the version, the status, the reserved byte,
    the bound address and its port. -/
def send_response (err : Option SocksError) (local_addr : SocketAddr) : StreamM String Unit :=
  let address : List UInt8 := match local_addr.ip with
    | .V4 _ => 0x01 :: local_addr.ip.octets
    | .V6 _ => 0x04 :: local_addr.ip.octets
  write_all ([0x05, status err, 0x00] ++ address ++ to_be_bytes local_addr.port)

/-- The address a reply names when there is none to give: 0.0.0.0:0. -/
def dummy_addr : SocketAddr := ⟨.V4 0, 0⟩

/-- A failure to send the error is only logged. -/
def send_error (err : SocksError) : StreamM Empty Unit := fun s =>
  match (send_response (some err) dummy_addr).run s with
  | .ok () s => .ok () s
  | .error _ s => .ok () s

def send_success (local_addr : SocketAddr) : StreamM String Unit :=
  send_response none local_addr

/-- `handle_socks_connection` up to the proxying: the negotiation, then the
    reply.  It returns the target it would proxy to, once the success is
    sent. -/
def handle_socks_connection (pi : ProxyInputs) (remote_addr : SocketAddr) :
    StreamM Empty (Option SocketAddr) := fun s =>
  match (negotiate_socks_connection pi remote_addr).run s with
  | .ok target s =>
    match (send_success dummy_addr).run s with
    | .ok () s => .ok (some target) s
    | .error _ s => .ok none s
  | .error e s =>
    match (send_error e).run s with
    | .ok () s => .ok none s

/-! ## What a client sends -/

/-- The address of a request. -/
inductive Target where
  | Ip (ip : IpAddr)
  | Domain (name : List UInt8)
  deriving DecidableEq, Repr

namespace Target

/-- The address type. -/
def atyp : Target → UInt8
  | .Ip (.V4 _) => 0x01
  | .Ip (.V6 _) => 0x04
  | .Domain _ => 0x03

/-- The bytes after the address type. -/
def body : Target → List UInt8
  | .Ip ip => ip.octets
  | .Domain name => UInt8.ofNat name.length :: name

/-- The reads that take the bytes after the address type. -/
def body_reads : Target → List Op
  | .Ip ip => [.read ip.octets]
  | .Domain name => [.read [UInt8.ofNat name.length], .read name]

/-- The target is the IP `ip`: an IP is itself, and a name of at most 255
    bytes of UTF-8 is what the resolver answers for it. -/
def Resolves (pi : ProxyInputs) (remote_addr : SocketAddr) : Target → IpAddr → Prop
  | .Ip ip, ip' => ip' = ip
  | .Domain name, ip => name.length < 256 ∧ ∃ host resolver,
      String.fromUTF8? ⟨name.toArray⟩ = some host ∧ pi.resolver = some resolver ∧
        resolver remote_addr host = .ok ip

end Target

/-- A handshake as a client sends it: the methods it offers, the reserved
    byte of its CONNECT request, the target and the port. -/
structure Handshake where
  methods : List UInt8
  rsv : UInt8
  target : Target
  port : UInt16
  deriving DecidableEq, Repr

namespace Handshake

def bytes (h : Handshake) : List UInt8 :=
  [0x05, UInt8.ofNat h.methods.length] ++ h.methods ++ [0x05, 0x01, h.rsv] ++
    [h.target.atyp] ++ h.target.body ++ to_be_bytes h.port

/-- What the server does with the stream: it reads each field as the
    client sent it, and writes the method selection after the methods. -/
def log (h : Handshake) : List Op :=
  [.read [0x05, UInt8.ofNat h.methods.length], .read h.methods, .write [0x05, 0x00],
    .read [0x05, 0x01], .read [h.rsv], .read [h.target.atyp]] ++ h.target.body_reads ++
    [.read (to_be_bytes h.port)]

/-- The server accepts the handshake and connects to `addr`: the client
    offers 'unauthenticated' among at most 255 methods, and the target
    resolves to the IP of `addr`, whose port is the handshake's. -/
def Accepted (pi : ProxyInputs) (remote_addr : SocketAddr) (h : Handshake) (addr : SocketAddr) :
    Prop :=
  h.methods ≠ [] ∧ h.methods.length < 256 ∧ 0 ∈ h.methods ∧
    ∃ ip, h.target.Resolves pi remote_addr ip ∧ addr = ⟨ip, h.port⟩

end Handshake

/-! ## Each phase -/

theorem read_greeting_consumes :
    Consumes read_greeting fun bytes ops _ => ∃ methods : List UInt8, methods ≠ [] ∧
      methods.length < 256 ∧ 0 ∈ methods ∧
        bytes = [0x05, UInt8.ofNat methods.length] ++ methods ∧
        ops = [.read [0x05, UInt8.ofNat methods.length], .read methods, .write [0x05, 0x00]] := by
  unfold read_greeting
  dsimp only
  refine Consumes.of_iff ?_ (Consumes.read_bind fun version =>
    Consumes.throw_if _ (Consumes.throw_if _ (Consumes.read_bind fun methods =>
      Consumes.throw_if _ (Consumes.write_all _))))
  intro bytes ops u
  constructor
  · rintro ⟨version, _, _, ⟨h5, h0, methods, _, _, ⟨hany, rfl, rfl⟩, rfl, rfl⟩, rfl, rfl⟩
    have hversion : version.toList = [0x05, UInt8.ofNat methods.toList.length] := by
      simp only [bne_eq_false_iff_eq] at h5
      simp [vector_toList_two, h5]
    have hnonzero : version.get 1 ≠ 0 := by simpa using h0
    refine ⟨methods.toList, ?_, by simpa using (version.get 1).toNat_lt_size, ?_, ?_, ?_⟩
    · intro hnil
      apply hnonzero
      apply UInt8.toNat_inj.mp
      simpa using congrArg List.length hnil
    · simpa [← Vector.any_toList] using hany
    · simp [hversion]
    · simp [hversion]
  · rintro ⟨methods, hne, hlt, h0, rfl, rfl⟩
    have hlen : (UInt8.ofNat methods.length).toNat = methods.length := by
      simp only [UInt8.toNat_ofNat']
      omega
    have hnonzero : UInt8.ofNat methods.length ≠ 0 := by
      intro h
      apply hne
      apply List.length_eq_zero_iff.mp
      simpa [hlen] using congrArg UInt8.toNat h
    refine ⟨#v[0x05, UInt8.ofNat methods.length], _, _, ⟨rfl, ?_, ⟨methods.toArray, ?_⟩, _, _,
      ⟨?_, rfl, rfl⟩, rfl, rfl⟩, ?_, ?_⟩
    · simpa using hnonzero
    · simp [hlen]
    · simpa [← Vector.any_toList] using Vector.mem_mk.mpr (List.mem_toArray.mpr h0)
    · rw [List.append_nil]
      rfl
    · rfl

theorem read_command_consumes :
    Consumes read_command fun bytes ops _ => ∃ rsv : UInt8, bytes = [0x05, 0x01, rsv] ∧
      ops = [.read [0x05, 0x01], .read [rsv]] := by
  unfold read_command
  dsimp only
  refine Consumes.of_iff ?_ (Consumes.read_bind fun version_command =>
    Consumes.throw_if _ (Consumes.throw_if _ (Consumes.read_pure fun _ => ())))
  intro bytes ops u
  constructor
  · rintro ⟨version_command, _, _, ⟨h5, h1, rsv, rfl, rfl, -⟩, rfl, rfl⟩
    have hvc : version_command.toList = [0x05, 0x01] := by
      simp only [bne_eq_false_iff_eq] at h5 h1
      simp [vector_toList_two, h5, h1]
    refine ⟨rsv.get 0, ?_, ?_⟩
    · simp [hvc, vector_toList_one]
    · simp [hvc, vector_toList_one]
  · rintro ⟨rsv, rfl, rfl⟩
    exact ⟨#v[0x05, 0x01], _, _, ⟨rfl, rfl, #v[rsv], rfl, rfl, rfl⟩, rfl, rfl⟩

/-! ## The address -/

namespace Target

theorem atyp_eq_one {t : Target} : t.atyp = 0x01 ↔ ∃ a, t = .Ip (.V4 a) := by
  rcases t with (a | a) | name <;> simp [atyp]

theorem atyp_eq_four {t : Target} : t.atyp = 0x04 ↔ ∃ a, t = .Ip (.V6 a) := by
  rcases t with (a | a) | name <;> simp [atyp]

theorem atyp_eq_three {t : Target} : t.atyp = 0x03 ↔ ∃ name, t = .Domain name := by
  rcases t with (a | a) | name <;> simp [atyp]

theorem atyp_mem (t : Target) : t.atyp = 0x01 ∨ t.atyp = 0x04 ∨ t.atyp = 0x03 := by
  rcases t with (a | a) | name <;> simp [atyp]

end Target

/-- The octets of an address read from bytes are those bytes. -/
theorem octets_of_be_value {k w : Nat} (hw : w = 8 * k) (mk : BitVec w → IpAddr)
    (hmk : ∀ a, (mk a).octets = be_bytes k a.toNat) (hostb : Vector UInt8 k) :
    (mk (BitVec.ofNat w (be_value hostb.toList))).octets = hostb.toList := by
  have h := be_bytes_toNat_ofNat_be_value (w := w) hostb.toList (by simpa using hw)
  rwa [Vector.length_toList, ← hmk] at h

/-- An address of `k` octets, of the address type `c`: the read gives the
    address whose octets are the bytes read. -/
theorem read_octets_consumes (pi : ProxyInputs) (remote_addr : SocketAddr) {k w : Nat}
    (hw : w = 8 * k) (mk : BitVec w → IpAddr) (hmk : ∀ a, (mk a).octets = be_bytes k a.toNat)
    {c : UInt8} (hc : ∀ t : Target, t.atyp = c ↔ ∃ a, t = .Ip (mk a)) :
    Consumes (read_exact early_eof k >>= fun hostb =>
        Pure.pure (mk (BitVec.ofNat w (be_value hostb.toList))))
      fun bytes ops ip => ∃ t : Target, t.Resolves pi remote_addr ip ∧ t.atyp = c ∧
        bytes = t.body ∧ ops = t.body_reads := by
  refine Consumes.of_iff ?_ (Consumes.read_pure _)
  intro bytes ops ip
  constructor
  · rintro ⟨hostb, rfl, rfl, rfl⟩
    have hoctets := octets_of_be_value hw mk hmk hostb
    exact ⟨.Ip (mk _), rfl, (hc _).mpr ⟨_, rfl⟩, hoctets.symm, by rw [Target.body_reads, hoctets]⟩
  · rintro ⟨t, ht, hatyp, rfl, rfl⟩
    obtain ⟨a, rfl⟩ := (hc t).mp hatyp
    have hip : ip = mk a := ht
    have ha : BitVec.ofNat w (be_value (mk a).octets) = a := by
      rw [hmk]
      exact ofNat_be_value_be_bytes hw a
    refine ⟨⟨(mk a).octets.toArray, by simp [hmk]⟩, rfl, rfl, ?_⟩
    show ip = mk (BitVec.ofNat w (be_value (mk a).octets))
    rw [ha, hip]

/-- A name resolves as the resolver answers for its text. -/
theorem Target.resolves_domain {pi : ProxyInputs} {remote_addr : SocketAddr} {name : List UInt8}
    {ip : IpAddr} {ds : String} {resolver : SocketAddr → String → Except String IpAddr}
    (hds : String.fromUTF8? ⟨name.toArray⟩ = some ds) (hresolver : pi.resolver = some resolver) :
    (Target.Domain name).Resolves pi remote_addr ip ↔
      name.length < 256 ∧ resolver remote_addr ds = .ok ip := by
  constructor
  · rintro ⟨hlen, host, resolver', hhost, hresolver', hip⟩
    obtain rfl : host = ds := Option.some.inj (hhost.symm.trans hds)
    obtain rfl : resolver' = resolver := Option.some.inj (hresolver'.symm.trans hresolver)
    exact ⟨hlen, hip⟩
  · rintro ⟨hlen, hip⟩
    exact ⟨hlen, ds, resolver, hds, hresolver, hip⟩

theorem read_address_consumes (pi : ProxyInputs) (remote_addr : SocketAddr) :
    Consumes (read_address pi remote_addr) fun bytes ops ip => ∃ t : Target,
      t.Resolves pi remote_addr ip ∧ bytes = [t.atyp] ++ t.body ∧
        ops = .read [t.atyp] :: t.body_reads := by
  unfold read_address
  -- after the address type, what each type reads
  refine Consumes.of_iff ?_ (Consumes.read_bind (S := fun atyp rest ops ip => ∃ t : Target,
    t.Resolves pi remote_addr ip ∧ t.atyp = atyp.get 0 ∧ rest = t.body ∧ ops = t.body_reads)
    fun atyp => ?_)
  · intro bytes ops ip
    constructor
    · rintro ⟨atyp, _, _, ⟨t, ht, hatyp, rfl, rfl⟩, rfl, rfl⟩
      exact ⟨t, ht, by rw [vector_toList_one, hatyp], by rw [vector_toList_one, hatyp]⟩
    · rintro ⟨t, ht, rfl, rfl⟩
      exact ⟨#v[t.atyp], _, _, ⟨t, ht, rfl, rfl, rfl⟩, rfl, rfl⟩
  split
  · -- IPv4
    rename_i h
    rw [h]
    exact read_octets_consumes pi remote_addr (k := 4) rfl IpAddr.V4 (fun _ => rfl)
      fun _ => Target.atyp_eq_one
  · -- IPv6
    rename_i h
    rw [h]
    exact read_octets_consumes pi remote_addr (k := 16) rfl IpAddr.V6 (fun _ => rfl)
      fun _ => Target.atyp_eq_four
  · -- a name: its length, its bytes, and their lookup
    rename_i h
    refine Consumes.of_iff ?_ (Consumes.read_bind fun domain_length =>
      Consumes.read_bind (S := fun domain rest ops ip => rest = [] ∧ ops = [] ∧
        Target.Resolves pi remote_addr (.Domain domain.toList) ip) fun domain => ?_)
    · intro rest ops ip
      rw [h]
      constructor
      · rintro ⟨domain_length, _, _, ⟨domain, _, _, ⟨rfl, rfl, ht⟩, rfl, rfl⟩, rfl, rfl⟩
        exact ⟨.Domain domain.toList, ht, rfl, by simp [Target.body, vector_toList_one],
          by simp [Target.body_reads, vector_toList_one]⟩
      · rintro ⟨t, ht, hatyp, rfl, rfl⟩
        obtain ⟨name, rfl⟩ := Target.atyp_eq_three.mp hatyp
        have hlen : (UInt8.ofNat name.length).toNat = name.length := by
          simp only [UInt8.toNat_ofNat']
          exact Nat.mod_eq_of_lt ht.1
        exact ⟨#v[UInt8.ofNat name.length], _, _, ⟨⟨name.toArray, by simp [hlen]⟩, _, _,
          ⟨rfl, rfl, ht⟩, (List.append_nil _).symm, rfl⟩, rfl, rfl⟩
    split
    · rename_i ds hds
      -- the text decoded is that of the name's bytes
      have hname : String.fromUTF8? ⟨domain.toList.toArray⟩ = some ds := hds
      split
      · rename_i resolver hresolver
        split
        · rename_i ip' hip
          refine Consumes.of_iff ?_ (Consumes.pure ip')
          intro rest ops ip
          rw [Target.resolves_domain hname hresolver, hip]
          constructor
          · rintro ⟨rfl, rfl, rfl⟩
            exact ⟨rfl, rfl, by simpa using (domain_length.get 0).toNat_lt_size, rfl⟩
          · rintro ⟨rfl, rfl, -, hip'⟩
            exact ⟨rfl, rfl, (Except.ok.inj hip').symm⟩
        · rename_i e hip
          refine Consumes.throw_of _ ?_
          rintro rest ops ip ⟨-, -, hresolves⟩
          rw [Target.resolves_domain hname hresolver, hip] at hresolves
          cases hresolves.2
      · rename_i hresolver
        refine Consumes.throw_of _ ?_
        rintro rest ops ip ⟨-, -, -, host, resolver', -, hresolver', -⟩
        exact hresolver resolver' hresolver'
    · rename_i hutf8
      refine Consumes.throw_of _ ?_
      rintro rest ops ip ⟨-, -, -, host, resolver', hhost, -⟩
      exact hutf8 host hhost
  · -- any other address type
    rename_i h1 h4 h3
    refine Consumes.throw_of _ ?_
    rintro rest ops ip ⟨t, -, hatyp, -, -⟩
    rcases t.atyp_mem with h | h | h
    · exact h1 (hatyp ▸ h)
    · exact h4 (hatyp ▸ h)
    · exact h3 (hatyp ▸ h)

/-! ## The port -/

/-- The port's bytes are those read. -/
theorem to_be_bytes_read_u16 (buf : Vector UInt8 2) : to_be_bytes (read_u16 buf) = buf.toList := by
  have hlt : be_value buf.toList < 2 ^ 16 := by simpa using be_value_lt buf.toList
  have h := be_bytes_be_value buf.toList
  rw [Vector.length_toList] at h
  rw [to_be_bytes, read_u16, UInt16.toNat_ofNat', Nat.mod_eq_of_lt hlt, h]

/-- A port's bytes are read back as the port. -/
theorem read_u16_to_be_bytes (port : UInt16) :
    UInt16.ofNat (be_value (to_be_bytes port)) = port := by
  have hlt : port.toNat < 65536 := port.toNat_lt_size
  apply UInt16.toNat_inj.mp
  rw [UInt16.toNat_ofNat', to_be_bytes, be_value_be_bytes]
  omega

/-! ## The negotiation -/

theorem negotiate_socks_connection_consumes (pi : ProxyInputs) (remote_addr : SocketAddr) :
    Consumes (negotiate_socks_connection pi remote_addr) fun bytes ops addr =>
      ∃ h : Handshake, h.Accepted pi remote_addr addr ∧ bytes = h.bytes ∧ ops = h.log := by
  unfold negotiate_socks_connection
  refine Consumes.of_iff ?_ (Consumes.bind read_greeting_consumes fun _ =>
    Consumes.bind read_command_consumes fun _ =>
      Consumes.bind (read_address_consumes pi remote_addr) fun ip =>
        Consumes.read_pure fun port => (⟨ip, read_u16 port⟩ : SocketAddr))
  intro bytes ops addr
  constructor
  · rintro ⟨_, _, _, _, _, ⟨methods, hne, hlt, h0, rfl, rfl⟩, ⟨_, _, _, _, _, ⟨rsv, rfl, rfl⟩,
      ⟨ip, _, _, _, _, ⟨t, ht, rfl, rfl⟩, ⟨port, rfl, rfl, rfl⟩, rfl, rfl⟩, rfl, rfl⟩, rfl, rfl⟩
    refine ⟨⟨methods, rsv, t, read_u16 port⟩, ⟨hne, hlt, h0, ip, ht, rfl⟩, ?_, ?_⟩
    · simp [Handshake.bytes, to_be_bytes_read_u16]
    · simp [Handshake.log, to_be_bytes_read_u16]
  · rintro ⟨⟨methods, rsv, t, port⟩, ⟨hne, hlt, h0, ip, ht, rfl⟩, rfl, rfl⟩
    -- the port as it is read
    let buf : Vector UInt8 2 := ⟨(to_be_bytes port).toArray, by simp [to_be_bytes]⟩
    have hbuf : read_u16 buf = port := read_u16_to_be_bytes port
    refine ⟨(), _, _, _, _, ⟨methods, hne, hlt, h0, rfl, rfl⟩, ⟨(), _, _, _, _, ⟨rsv, rfl, rfl⟩,
      ⟨ip, _, _, _, _, ⟨t, ht, rfl, rfl⟩, ⟨buf, rfl, rfl, by rw [hbuf]⟩, rfl, rfl⟩, rfl, rfl⟩, ?_, ?_⟩
    · simp [Handshake.bytes, buf]
    · simp [Handshake.log, buf]

theorem negotiate_socks_connection_spec (pi : ProxyInputs) (remote_addr : SocketAddr) (s : Stream) :
    (∀ addr s', (negotiate_socks_connection pi remote_addr).run s = .ok addr s' ↔
      ∃ h : Handshake, h.Accepted pi remote_addr addr ∧ s.input = h.bytes ++ s'.input ∧
        s'.log = s.log ++ h.log) ∧
    ((¬ ∃ (h : Handshake) (addr : SocketAddr) (rest : List UInt8),
        h.Accepted pi remote_addr addr ∧ s.input = h.bytes ++ rest) →
      ∃ e s', (negotiate_socks_connection pi remote_addr).run s = .error e s') := by
  have hc := negotiate_socks_connection_consumes pi remote_addr
  refine ⟨fun addr s' => ?_, fun hnone => hc.error_of_not_exists ?_⟩
  · rw [hc s addr s']
    constructor
    · rintro ⟨bytes, ops, ⟨h, hacc, rfl, rfl⟩, hin, hlog⟩
      exact ⟨h, hacc, hin, hlog⟩
    · rintro ⟨h, hacc, hin, hlog⟩
      exact ⟨h.bytes, h.log, ⟨h, hacc, rfl, rfl⟩, hin, hlog⟩
  · rintro ⟨bytes, ops, addr, rest, ⟨h, hacc, rfl, rfl⟩, hin⟩
    exact hnone ⟨h, addr, rest, hacc, hin⟩

/-- A CONNECT to 127.0.0.1:80 without authentication, followed by a byte of
    the proxied stream, which is left unread. -/
theorem negotiate_socks_connection_localhost :
    (negotiate_socks_connection ⟨none⟩ ⟨.V4 0, 0⟩).run
        ⟨[5, 1, 0, 5, 1, 0, 1, 127, 0, 0, 1, 0, 80, 42], []⟩ =
      .ok ⟨.V4 0x7f000001, 80⟩ ⟨[42], [.read [5, 1], .read [0], .write [5, 0], .read [5, 1],
        .read [0], .read [1], .read [127, 0, 0, 1], .read [0, 80]]⟩ :=
  ((negotiate_socks_connection_spec ⟨none⟩ ⟨.V4 0, 0⟩ _).1 _ _).mpr
    ⟨⟨[0], 0, .Ip (.V4 0x7f000001), 80⟩, ⟨by decide, by decide, by decide, _, rfl, rfl⟩,
      by decide, by decide⟩

/-! ## The reply -/

/-- The bytes of a reply with status `code` for `addr`: the address in the
    encoding of a request's. -/
def response (code : UInt8) (addr : SocketAddr) : List UInt8 :=
  [0x05, code, 0x00] ++ [(Target.Ip addr.ip).atyp] ++ (Target.Ip addr.ip).body ++
    to_be_bytes addr.port

/-- A reply reports success exactly when there is no error. -/
theorem status_eq_zero_iff (err : Option SocksError) : status err = 0 ↔ err = none := by
  rcases err with _ | (e | e | e | e | e | e) <;> simp [status]

/-- `send_response` writes one reply, with the address as a request
    encodes it. -/
theorem run_send_response (err : Option SocksError) (local_addr : SocketAddr) (s : Stream) :
    (send_response err local_addr).run s =
      .ok () ⟨s.input, s.log ++ [.write (response (status err) local_addr)]⟩ := by
  have haddress : (match local_addr.ip with
      | .V4 _ => 0x01 :: local_addr.ip.octets
      | .V6 _ => 0x04 :: local_addr.ip.octets) =
      [(Target.Ip local_addr.ip).atyp] ++ (Target.Ip local_addr.ip).body := by
    rcases local_addr with ⟨ip | ip, port⟩ <;> simp [Target.atyp, Target.body]
  rw [send_response, haddress]
  rfl

theorem run_send_error (err : SocksError) (s : Stream) :
    (send_error err).run s =
      .ok () ⟨s.input, s.log ++ [.write (response (status (some err)) dummy_addr)]⟩ := by
  have hsend := run_send_response (some err) dummy_addr s
  unfold send_error
  dsimp only [EStateM.run] at hsend ⊢
  rw [hsend]

end Socks5

end Ztunnel
