/-
  Ztunnel.Tls.WorkloadCertificate

  The certificate a workload presents (src/tls/certificate.rs): the leaf,
  the chain above it as the CA sent it, and the key, from which the TLS
  configurations of both directions are built; and how
  `CaClient::fetch_certificate` (src/identity/caclient.rs) makes one from
  the CA's answer.  `cert_and_intermediates` sends the leaf and the chain
  without its last certificate, the root.

  PEM decoding, x509 parsing and the rustls builders are outside the
  repository and are parameters: `parse_cert` and `parse_key` for
  rustls-pemfile with x509-parser, `build_client_verifier` for webpki's
  client verifier over the roots, and `with_single_cert` and
  `with_client_auth_cert` for the rustls configuration builders.  A parsed
  certificate carries the x509 reading of its DER, so that
  `Certificate::parsed`, whose `expect` relies on it, cannot fail.

  A `usize` subtraction is that of a release build, where overflow checks
  are off: below zero it wraps around.  A panic is an error carrying its
  message, outside the `Result` of the function.
-/

import Mathlib
import Ztunnel.Tls.Certificate
import Ztunnel.Lib.Except

namespace Ztunnel

namespace Tls

/-- A PEM text, as the CA returns it. -/
abbrev Pem := String

/-- A parsed certificate: its DER, which x509-parser reads. -/
structure Certificate where
  der : CertificateDer
  parsed : X509Certificate
  der_parses : der.from_der = .ok parsed

/-- `Certificate::identity`: the first URI name, when it parses. -/
def Certificate.identity (self : Certificate) : Option Identity :=
  match self.parsed.subject_alternative_name with
  | .ok (some names) =>
    (names.findSome? fun n =>
      match n with
      | .URI uri => some uri
      | .Other => none).bind fun san => (Identity.from_str san).toOption
  | _ => none

/-- The errors of making and using a workload certificate. -/
inductive Error where
  | CertificateParseError (msg : String)
  | EmptyResponse (id : Identity)
  | SanError (id : Identity)
  /-- an error of a rustls builder, by its text -/
  | Rustls (msg : String)
  deriving DecidableEq, Repr

/-- `a - b` on `usize` in a release build: below zero it wraps around. -/
def usize_sub (a b : Nat) : Nat := if b ≤ a then a - b else a + 2 ^ 64 - b

/-- `slice[..end]`: a range past the slice's end panics. -/
def sliceTo {α : Type} (l : List α) (end_ : Nat) : Except String (List α) :=
  if end_ ≤ l.length then .ok (l.take end_)
  else
    .error ("range end index " ++ toString end_ ++ " out of range for slice of length " ++
      toString l.length)

structure WorkloadCertificate (K : Type) where
  /-- the leaf certificate -/
  cert : Certificate
  /-- the entire trust chain, excluding the leaf -/
  chain : List Certificate
  private_key : K
  /-- the precomputed roots -/
  roots : List CertificateDer
  /-- the roots are the last certificate of the chain -/
  roots_last : roots = (chain.getLast?.map (·.der)).toList

namespace WorkloadCertificate

variable {K : Type}

section Parsers

variable (parse_cert : Pem → Except Error Certificate) (parse_key : Pem → Except Error K)

def new (key cert : Pem) (chain : List Pem) : Except Error (WorkloadCertificate K) := do
  let cert ← parse_cert cert
  let chain ← chain.mapM parse_cert
  let key ← parse_key key
  pure { cert := cert, chain := chain, private_key := key,
         roots := (chain.getLast?.map (·.der)).toList, roots_last := rfl }

end Parsers

variable (self : WorkloadCertificate K)

/-- The leaf and the chain without its root. -/
def cert_and_intermediates : Except String (List CertificateDer) := do
  let intermediates ← sliceTo self.chain (usize_sub self.chain.length 1)
  pure (self.cert.der :: intermediates.map (·.der))

/-- `server_config`: the client verifier over the roots is built first,
    then the configuration with the leaf and intermediates. -/
def server_config {V SC : Type} (build_client_verifier : List CertificateDer → Except Error V)
    (with_single_cert : List CertificateDer → K → Except Error SC) :
    Except String (Except Error SC) :=
  match build_client_verifier self.roots with
  | .error e => .ok (.error e)
  | .ok _ =>
    match self.cert_and_intermediates with
    | .error p => .error p
    | .ok certs => .ok (with_single_cert certs self.private_key)

/-- `outbound_connector`: the client configuration with the leaf and
    intermediates. -/
def outbound_connector {CC : Type} (with_client_auth_cert : List CertificateDer → K → Except Error CC) :
    Except String (Except Error CC) :=
  match self.cert_and_intermediates with
  | .error p => .error p
  | .ok certs => .ok (with_client_auth_cert certs self.private_key)

end WorkloadCertificate

section CaClient

variable {K : Type} (parse_cert : Pem → Except Error Certificate) (parse_key : Pem → Except Error K)

/-- `CaClient::fetch_certificate` once the CA has answered with
    `cert_chain`: the first certificate is the leaf, the others, if any,
    the chain; with `enable_impersonated_identity` the leaf must be of the
    identity asked for. -/
def fetch_certificate (enable_impersonated_identity : Bool) (id : Identity) (private_key : Pem)
    (cert_chain : List Pem) : Except Error (WorkloadCertificate K) := do
  let leaf ← match cert_chain.head? with
    | some leaf => pure leaf
    | none => throw (.EmptyResponse id)
  -- a single certificate is accepted, with a warning
  let chain := if cert_chain.length > 1 then cert_chain.drop 1 else []
  let certs ← WorkloadCertificate.new parse_cert parse_key private_key leaf chain
  if enable_impersonated_identity && certs.cert.identity != some id then
    throw (.SanError id)
  pure certs

end CaClient

/-! ## The chain sent -/

theorem usize_sub_one {n : Nat} (h : 0 < n) : usize_sub n 1 = n - 1 := by
  simp [usize_sub, Nat.one_le_iff_ne_zero.mpr (Nat.pos_iff_ne_zero.mp h)]

namespace WorkloadCertificate

variable {K : Type} (self : WorkloadCertificate K)

/-- With a chain, the leaf and every chain certificate but the last. -/
theorem cert_and_intermediates_of_ne_nil (h : self.chain ≠ []) :
    self.cert_and_intermediates = .ok (self.cert.der :: self.chain.dropLast.map (·.der)) := by
  have hpos : 0 < self.chain.length := List.length_pos_iff.mpr h
  have hslice : sliceTo self.chain (usize_sub self.chain.length 1) = .ok self.chain.dropLast := by
    rw [usize_sub_one hpos, sliceTo, if_pos (Nat.sub_le _ _), List.dropLast_eq_take]
  rw [cert_and_intermediates, hslice]
  rfl

/-- Without a chain, the length less one wraps around, and the slice up to
    it panics. -/
theorem cert_and_intermediates_of_nil (h : self.chain = []) :
    self.cert_and_intermediates =
      .error "range end index 18446744073709551615 out of range for slice of length 0" := by
  have hslice : sliceTo self.chain (usize_sub self.chain.length 1) =
      .error "range end index 18446744073709551615 out of range for slice of length 0" := by
    rw [h]
    rfl
  rw [cert_and_intermediates, hslice]
  rfl

theorem outbound_connector_of_nil {CC : Type}
    (with_client_auth_cert : List CertificateDer → K → Except Error CC) (h : self.chain = []) :
    self.outbound_connector with_client_auth_cert =
      .error "range end index 18446744073709551615 out of range for slice of length 0" := by
  rw [outbound_connector, cert_and_intermediates_of_nil self h]

/-- Without a chain there are no roots: the server configuration fails
    when the client verifier refuses to be built without a root, and
    panics otherwise. -/
theorem server_config_of_nil {V SC : Type}
    (build_client_verifier : List CertificateDer → Except Error V)
    (with_single_cert : List CertificateDer → K → Except Error SC) (h : self.chain = []) :
    self.server_config build_client_verifier with_single_cert =
      match build_client_verifier [] with
      | .error e => .ok (.error e)
      | .ok _ => .error "range end index 18446744073709551615 out of range for slice of length 0" := by
  have hroots : self.roots = [] := by
    rw [self.roots_last, h]
    rfl
  rw [server_config, hroots, cert_and_intermediates_of_nil self h]

end WorkloadCertificate

section CaClient

variable {K : Type} (parse_cert : Pem → Except Error Certificate) (parse_key : Pem → Except Error K)

/-- The chain given to `WorkloadCertificate::new` is the answer without its
    first certificate, empty for a single one. -/
theorem chain_of_cons (leaf : Pem) (rest : List Pem) :
    (if (leaf :: rest).length > 1 then (leaf :: rest).drop 1 else []) = rest := by
  cases rest with
  | nil => rfl
  | cons _ _ => simp

theorem new_eq_ok {key cert : Pem} {chain : List Pem} {w : WorkloadCertificate K} :
    WorkloadCertificate.new parse_cert parse_key key cert chain = .ok w ↔
      ∃ c cs k, parse_cert cert = .ok c ∧ chain.mapM parse_cert = .ok cs ∧ parse_key key = .ok k ∧
        w = ⟨c, cs, k, (cs.getLast?.map (·.der)).toList, rfl⟩ := by
  constructor
  · intro h
    obtain ⟨c, hc, h⟩ := except_bind_eq_ok.mp h
    obtain ⟨cs, hcs, h⟩ := except_bind_eq_ok.mp h
    obtain ⟨k, hk, h⟩ := except_bind_eq_ok.mp h
    cases h
    exact ⟨c, cs, k, hc, hcs, hk, rfl⟩
  · rintro ⟨c, cs, k, hc, hcs, hk, rfl⟩
    simp only [WorkloadCertificate.new, hc, hcs, hk]
    rfl

/-- A certificate the CA client accepts has, as its chain, the answer
    without its leaf. -/
theorem fetch_certificate_chain {enable : Bool} {id : Identity} {private_key : Pem}
    {cert_chain : List Pem} {certs : WorkloadCertificate K}
    (h : fetch_certificate parse_cert parse_key enable id private_key cert_chain = .ok certs) :
    certs.chain.length + 1 = cert_chain.length := by
  cases cert_chain with
  | nil => cases h
  | cons leaf rest =>
    simp only [fetch_certificate, List.head?_cons, pure_bind, chain_of_cons] at h
    obtain ⟨w, hw, h⟩ := except_bind_eq_ok.mp h
    obtain ⟨c, cs, k, -, hcs, -, rfl⟩ := (new_eq_ok parse_cert parse_key).mp hw
    split at h
    · cases h
    · cases h
      simp [except_mapM_length hcs]
/-- A single certificate in the CA's answer that parses, with a key that
    parses and, when checked, a leaf of the identity asked for, is
    accepted with an empty chain. -/
theorem fetch_certificate_single {enable : Bool} {id : Identity} {key pem : Pem}
    {c : Certificate} {k : K} (hc : parse_cert pem = .ok c) (hk : parse_key key = .ok k)
    (hid : enable = true → c.identity = some id) :
    fetch_certificate parse_cert parse_key enable id key [pem] = .ok ⟨c, [], k, [], rfl⟩ := by
  have hnew : WorkloadCertificate.new parse_cert parse_key key pem [] =
      .ok ⟨c, [], k, [], rfl⟩ :=
    (new_eq_ok parse_cert parse_key).mpr ⟨c, [], k, hc, rfl, hk, rfl⟩
  -- the identity check passes
  have hcheck : (enable && c.identity != some id) = false := by
    cases enable with
    | false => rfl
    | true => simp [hid rfl]
  simp only [fetch_certificate, List.head?_cons, pure_bind, chain_of_cons]
  exact except_bind_eq_ok.mpr ⟨_, hnew, by simp [hcheck]; rfl⟩

end CaClient

/-- The leaf of `default/default` in `cluster.local`, by its SPIFFE name,
    and the PEM text the CA sends for it. -/
def defaultLeaf : X509Certificate :=
  ⟨.ok (some [.URI "spiffe://cluster.local/ns/default/sa/default"])⟩

def defaultCert : Certificate := ⟨⟨.ok defaultLeaf⟩, defaultLeaf, rfl⟩

def leafPem : Pem := "-----BEGIN CERTIFICATE-----\nMIIC...\n-----END CERTIFICATE-----\n"

/-- PEM and x509 parsing on the CA's answer: the leaf's text gives the
    leaf. -/
def parseLeafPem (pem : Pem) : Except Error Certificate :=
  if pem = leafPem then .ok defaultCert else .error (.CertificateParseError "no certificate")

/-- The CA answers with the leaf alone: the CA client accepts it, the
    outbound connector panics on it, and the server configuration panics
    unless the client verifier refuses to be built without a root. -/
theorem single_certificate_outbound_panics :
    ∃ certs, fetch_certificate parseLeafPem (fun _ => .ok ()) true
        (.Spiffe "cluster.local" "default" "default") "key" [leafPem] = .ok certs ∧
      certs.cert_and_intermediates =
        .error "range end index 18446744073709551615 out of range for slice of length 0" ∧
      certs.outbound_connector (fun certs _ => .ok certs) =
        .error "range end index 18446744073709551615 out of range for slice of length 0" ∧
      ∀ (build_client_verifier : List CertificateDer → Except Error Unit)
        (with_single_cert : List CertificateDer → Unit → Except Error Unit),
        certs.server_config build_client_verifier with_single_cert =
          match build_client_verifier [] with
          | .error e => .ok (.error e)
          | .ok _ => .error "range end index 18446744073709551615 out of range for slice of length 0" :=
  ⟨_, fetch_certificate_single _ _ (if_pos rfl) rfl (fun _ => by decide),
    WorkloadCertificate.cert_and_intermediates_of_nil _ rfl,
    WorkloadCertificate.outbound_connector_of_nil _ _ rfl,
    fun b w => by
      rw [WorkloadCertificate.server_config_of_nil _ b w rfl]
      cases b [] <;> rfl⟩

end Tls

end Ztunnel
