/-
  Ztunnel.Tls.Certificate

  The SPIFFE identities of a peer certificate (src/tls/certificate.rs) and
  the two verifiers that check them during the handshake
  (src/tls/workload.rs): `TrustDomainVerifier` on inbound connections, for
  the client's trust domain, and `IdentityVerifier` on outbound ones, for
  the server's identity.  After the handshake, `identity_from_connection`
  reads the client's identity for authorization from the same
  certificate.

  x509-parser is outside the repository.  A certificate is modelled by
  what the parser makes of it: whether `from_der` decodes it, and then its
  subject alternative names in certificate order, absent when there is no
  such extension, or an error when the extension is malformed.  URI names
  are parsed with `Identity::from_str`; names of other kinds, and URIs
  that do not parse, are skipped.

  The verifiers accept when some identity of the certificate qualifies,
  while `identity_from_connection` takes the first one.  On a certificate
  with one SPIFFE name, or with several of one trust domain, the identity
  read is of the trust domain the verifier checked
  (`rbac_identity_of_verified`); otherwise it may not be
  (`rbac_identity_unverified`).
-/

import Ztunnel.Identity.Identity

namespace Ztunnel

namespace Tls

/-- x509-parser's `GeneralName`; only URIs are read. -/
inductive GeneralName where
  | URI (uri : String)
  /-- a DNS name, an IP address, an e-mail address, ... -/
  | Other
  deriving DecidableEq, Repr

/-- An error of x509-parser. -/
structure X509Error where
  msg : String
  deriving DecidableEq, Repr

/-- What the code reads of a parsed certificate: `subject_alternative_name()`. -/
structure X509Certificate where
  subject_alternative_name : Except X509Error (Option (List GeneralName))
  deriving DecidableEq

/-- A DER certificate, by what `X509Certificate::from_der` makes of it. -/
structure CertificateDer where
  from_der : Except X509Error X509Certificate
  deriving DecidableEq

/-- `tls::certificate::identities`: the URI names that parse as SPIFFE
    identities, in certificate order. -/
def identities (cert : X509Certificate) : Except X509Error (List Identity) :=
  match cert.subject_alternative_name with
  | .error e => .error e
  | .ok none => .ok []
  | .ok (some names) =>
    .ok (names.filterMap fun n =>
      match n with
      | .URI uri => (Identity.from_str uri).toOption
      | .Other => none)

inductive TlsError where
  /-- "identity verification error: peer did not present the expected
      SAN ({0:?}), got {1:?}" -/
  | SanError (expected got : List Identity)
  /-- "identity verification error: peer did not present the expected
      trustdomain ({0}), got {1:?}" -/
  | SanTrustDomainError (trust_domain : String) (got : List Identity)
  deriving DecidableEq, Repr

/-- rustls's `CertificateError`, as the verifiers raise it. -/
inductive CertificateError where
  | BadEncoding
  | ApplicationVerificationFailure
  | Other (e : TlsError)
  deriving DecidableEq, Repr

/-- rustls's `Error`: the verifiers' own errors are invalid certificates;
    the errors of the base verifier they wrap are kept by their text. -/
inductive RustlsError where
  | InvalidCertificate (e : CertificateError)
  | General (msg : String)
  deriving DecidableEq, Repr

structure TrustDomainVerifier where
  trust_domain : Option String

/-- `verify_trust_domain`: with a trust domain to check, some identity of
    the certificate must be of it. -/
def TrustDomainVerifier.verify_trust_domain (self : TrustDomainVerifier)
    (client_cert : CertificateDer) : Except RustlsError Unit :=
  match self.trust_domain with
  | none => .ok ()
  | some want_trust_domain =>
    match client_cert.from_der with
    | .error _ => .error (.InvalidCertificate .BadEncoding)
    | .ok c =>
      match identities c with
      | .error _ => .error (.InvalidCertificate .ApplicationVerificationFailure)
      | .ok ids =>
        match ids.find? fun id => id.trust_domain == want_trust_domain with
        | some _ => .ok ()
        | none =>
          .error (.InvalidCertificate (.Other (.SanTrustDomainError want_trust_domain ids)))

/-- `verify_client_cert`: the base verifier's chain check, whose outcome
    is an input, then the trust domain. -/
def TrustDomainVerifier.verify_client_cert (self : TrustDomainVerifier)
    (base : Except RustlsError Unit) (end_entity : CertificateDer) : Except RustlsError Unit := do
  base
  self.verify_trust_domain end_entity

structure IdentityVerifier where
  identity : List Identity

/-- `verify_full_san`: some identity of the server's certificate is one of
    those expected. -/
def IdentityVerifier.verify_full_san (self : IdentityVerifier) (server_cert : CertificateDer) :
    Except RustlsError Unit :=
  match server_cert.from_der with
  | .error _ => .error (.InvalidCertificate .BadEncoding)
  | .ok c =>
    match identities c with
    | .error _ => .error (.InvalidCertificate .ApplicationVerificationFailure)
    | .ok id =>
      if id.any fun ident => self.identity.contains ident then .ok ()
      else .error (.InvalidCertificate (.Other (.SanError self.identity id)))

/-- `identity_from_connection`: the first identity of the first peer
    certificate, the client's end-entity one. -/
def identity_from_connection (peer_certificates : Option (List CertificateDer)) :
    Option Identity :=
  match peer_certificates.bind List.head? with
  | none => none
  | some cert =>
    match cert.from_der with
    | .error _ => none
    | .ok a =>
      match identities a with
      | .ok ids => ids.head?
      | .error _ => none

/-! ## What the verifiers accept -/

/-- An identity that a URI name of the certificate parses to. -/
def SpiffeSan (cert : CertificateDer) (id : Identity) : Prop :=
  ∃ c names uri, cert.from_der = .ok c ∧ c.subject_alternative_name = .ok (some names) ∧
    GeneralName.URI uri ∈ names ∧ Identity.from_str uri = .ok id

theorem mem_identities {c : X509Certificate} {ids : List Identity} (h : identities c = .ok ids)
    {id : Identity} (hid : id ∈ ids) :
    ∃ names uri, c.subject_alternative_name = .ok (some names) ∧
      GeneralName.URI uri ∈ names ∧ Identity.from_str uri = .ok id := by
  unfold identities at h
  split at h
  · cases h
  · cases h
    simp at hid
  · rename_i names hnames
    cases h
    obtain ⟨n, hn, hmap⟩ := List.mem_filterMap.mp hid
    cases n with
    | URI uri =>
      refine ⟨names, uri, hnames, hn, ?_⟩
      cases hp : Identity.from_str uri with
      | error e => simp [hp, Except.toOption] at hmap
      | ok i => simp [hp, Except.toOption] at hmap; rw [hmap]
    | Other => simp at hmap

/-- The trust-domain check succeeds only on a decoded certificate with an
    identity of the trust domain. -/
theorem verify_trust_domain_eq_ok {td : String} {cert : CertificateDer}
    (h : TrustDomainVerifier.verify_trust_domain ⟨some td⟩ cert = .ok ()) :
    ∃ c ids, cert.from_der = .ok c ∧ identities c = .ok ids ∧
      ∃ id ∈ ids, id.trust_domain = td := by
  unfold TrustDomainVerifier.verify_trust_domain at h
  dsimp only at h
  split at h
  · cases h
  · rename_i c hc
    split at h
    · cases h
    · rename_i ids hids
      split at h
      · rename_i id hfind
        refine ⟨c, ids, hc, hids, id, List.mem_of_find?_eq_some hfind, ?_⟩
        simpa using List.find?_some hfind
      · cases h

/-- When the verifier with trust domain `td` accepts a client certificate,
    authorization sees an identity: the first SPIFFE name of the
    certificate.  It is of `td` whenever all the SPIFFE names of the
    certificate are of one trust domain. -/
theorem rbac_identity_of_verified (td : String) (cert : CertificateDer)
    (intermediates : List CertificateDer)
    (h : TrustDomainVerifier.verify_trust_domain ⟨some td⟩ cert = .ok ()) :
    ∃ id, identity_from_connection (some (cert :: intermediates)) = some id ∧ SpiffeSan cert id ∧
      ((∀ i j, SpiffeSan cert i → SpiffeSan cert j → i.trust_domain = j.trust_domain) →
        id.trust_domain = td) := by
  obtain ⟨c, ids, hc, hids, v, hv, hvtd⟩ := verify_trust_domain_eq_ok h
  -- the list has a member, so a head
  obtain ⟨id, rest, hcons⟩ := List.exists_cons_of_ne_nil (List.ne_nil_of_mem hv)
  have hfirst : identity_from_connection (some (cert :: intermediates)) = some id := by
    simp [identity_from_connection, hc, hids, hcons]
  have hsan : ∀ i ∈ ids, SpiffeSan cert i := by
    intro i hi
    obtain ⟨names, uri, hnames, huri, hparse⟩ := mem_identities hids hi
    exact ⟨c, names, uri, hc, hnames, huri, hparse⟩
  have hid : id ∈ ids := by
    rw [hcons]
    exact List.mem_cons_self
  refine ⟨id, hfirst, hsan id hid, fun hone => ?_⟩
  rw [← hvtd]
  exact hone id v (hsan id hid) (hsan v hv)

/-- A certificate whose first SPIFFE name is of another trust domain than
    its second. -/
def twoDomainCert : CertificateDer :=
  ⟨.ok ⟨.ok (some [.URI "spiffe://other.domain/ns/default/sa/sleep",
    .URI "spiffe://cluster.local/ns/default/sa/sleep"])⟩⟩

theorem rbac_identity_of_verified_twoDomainCert :
    TrustDomainVerifier.verify_trust_domain ⟨some "cluster.local"⟩ twoDomainCert = .ok () ∧
      ∃ id, identity_from_connection (some [twoDomainCert]) = some id ∧
        SpiffeSan twoDomainCert id :=
  have h : TrustDomainVerifier.verify_trust_domain ⟨some "cluster.local"⟩ twoDomainCert =
      .ok () := by decide
  ⟨h, (rbac_identity_of_verified "cluster.local" twoDomainCert [] h).elim
    fun id hid => ⟨id, hid.1, hid.2.1⟩⟩

/-- The verifier accepts the certificate for `cluster.local`, and the
    identity authorization sees is of `other.domain`. -/
theorem rbac_identity_unverified :
    TrustDomainVerifier.verify_trust_domain ⟨some "cluster.local"⟩ twoDomainCert = .ok () ∧
      identity_from_connection (some [twoDomainCert]) =
        some (.Spiffe "other.domain" "default" "sleep") ∧
      (Identity.Spiffe "other.domain" "default" "sleep").trust_domain ≠ "cluster.local" := by
  decide

end Tls

end Ztunnel
