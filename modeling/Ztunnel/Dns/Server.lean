/-
  Ztunnel.Dns.Server

  The authoritative part of the DNS server (src/dns/server.rs): `Store`
  answers A and AAAA queries for the hosts of the proxy state's services,
  and forwards every other query.  The name asked for is expanded into
  aliases, from Kubernetes short names and the client's search domains
  (`get_aliases`), each alias into wildcards of decreasing specificity
  (`get_wildcards`), and the first of these that is the hostname of a
  service, preferring one of the client's namespace, is the match
  (`find_server`).  Its addresses are its VIPs on the client's network
  or, for a headless service, one address of each endpoint's workload,
  all of the queried family (`get_addresses`).

  The forwarder is a trait object: its search domains for a client are a
  function of the store, and what it answers a forwarded query is not
  modelled.  The order of the addresses is random: a `Shuffle`.  The
  query's name is the `LowerName` hickory parsed.  The metrics are not
  modelled.
-/

import Ztunnel.Dns.Name
import Ztunnel.State.ProxyState
import Ztunnel.Lib.WeightedChoice

namespace Ztunnel

namespace Dns

inductive RecordType where
  | A
  | AAAA
  | CNAME
  | Other (code : UInt16)
  deriving DecidableEq, Repr

structure Query where
  name : Name
  query_type : RecordType
  deriving DecidableEq, Repr

inductive RData where
  | A (addr : BitVec 32)
  | AAAA (addr : BitVec 128)
  | CNAME (name : Name)
  deriving DecidableEq, Repr

structure Record where
  name : Name
  ttl : Nat
  rdata : RData
  deriving DecidableEq, Repr

structure Answer where
  records : List Record
  is_authoritative : Bool
  deriving DecidableEq, Repr

/-- What `lookup` does with a query. -/
inductive LookupResult where
  | answer (a : Answer)
  /-- handed to the upstream resolver -/
  | forward
  /-- `ResponseCode::ServFail`, for a source that is not a known workload -/
  | servfail
  deriving DecidableEq, Repr

/-- `state::Address`. -/
inductive Address where
  | Workload (wl : Workload)
  | Service (svc : Service)

structure Stripped where
  name : Name
  search_domain : Name
  deriving DecidableEq, Repr

structure Alias where
  name : Name
  stripped : Option Stripped
  deriving DecidableEq, Repr

structure ServerMatch where
  name : Name
  «alias» : Alias
  server : Address

def DEFAULT_TTL_SECONDS : Nat := 30

/-- The store; the svc domain, built by `append_name`, is fully
    qualified. -/
structure Store where
  state : ProxyState
  /-- `Forwarder::search_domains` -/
  search_domains : Workload → List Name
  domain : Name
  svc_domain : Name
  svc_domain_fqdn : svc_domain.is_fqdn = true

namespace Store

variable [NameOps]

def new (domain : String) (state : ProxyState) (search_domains : Workload → List Name) : Store where
  state := state
  search_domains := search_domains
  domain := as_name domain
  svc_domain := append_name (as_name "svc") (as_name domain)
  svc_domain_fqdn := NameOps.is_fqdn_append_domain _ _

/-- `add_alias`: an alias is added unless one of the same name was; the
    set `added` is the names of `out`. -/
def add_alias (out : List Alias) («alias» : Alias) : List Alias :=
  if out.any fun a => a.name.eq_case_insensitive «alias».name then out else out ++ [«alias»]

/-- `to_kube_fqdns`: the Kubernetes FQDNs the name can stand for. -/
def to_kube_fqdns (self : Store) (name namespaced_domain : Name) : List Name :=
  match name.labels.length with
  -- a service of the client's namespace
  | 1 => [append_name name namespaced_domain]
  -- <service-name>.<namespace>, or <pod-hostname>.<pod-sub-domain>
  | 2 => [append_name name self.svc_domain, append_name name namespaced_domain]
  | 3 =>
    (if has_domain name SVC then [append_name name self.domain] else []) ++
      [append_name name self.svc_domain]
  | 4 => if has_domain name SVC then [append_name name self.domain] else []
  | _ => []

/-- `get_aliases`: the requested name and its Kubernetes FQDNs, then for
    each search domain it ends with the name stripped of it and that
    name's FQDNs. -/
def get_aliases (self : Store) (client : Workload) (name : Name) : List Alias :=
  let out := add_alias [] ⟨name, none⟩
  let namespaced_domain := append_name (as_name client.namespace) self.svc_domain
  let out := (self.to_kube_fqdns name namespaced_domain).foldl
    (fun out kube_fqdn => add_alias out ⟨kube_fqdn, none⟩) out
  (self.search_domains client).foldl
    (fun out search_domain =>
      match trim_domain name search_domain with
      | some stripped_name =>
        let stripped : Stripped := ⟨stripped_name, search_domain⟩
        let out := add_alias out ⟨stripped_name, some stripped⟩
        (self.to_kube_fqdns stripped_name namespaced_domain).foldl
          (fun out kube_fqdn => add_alias out ⟨kube_fqdn, some stripped⟩) out
      | none => out)
    out

end Store

/-- The loop of `get_wildcards`, on the labels of the name left: while it
    has more than one label, its first is replaced by `*`, then dropped. -/
def wildcardsLoop [NameOps] (is_fqdn : Bool) : List String → List Name
  | [] => []
  | l :: rest =>
    let name : Name := ⟨l :: rest, is_fqdn⟩
    if name.num_labels > 1 then name.into_wildcard :: wildcardsLoop is_fqdn rest else []

/-- `get_wildcards`: the name, then its wildcards of decreasing
    specificity. -/
def get_wildcards [NameOps] (name : Name) : List Name := name :: wildcardsLoop name.is_fqdn name.labels

/-- itertools' `find_or_first`. -/
def find_or_first {α : Type} (l : List α) (p : α → Bool) : Option α :=
  match l.find? p with
  | some a => some a
  | none => l.head?

def is_record_type_supported : RecordType → Bool
  | .A | .AAAA => true
  | _ => false

def is_record_type (addr : IpAddr) (record_type : RecordType) : Bool :=
  match addr with
  | .V4 _ => record_type == .A
  | .V6 _ => record_type == .AAAA

/-- `service_family_allowed`: a single-stack service answers only queries
    of its family. -/
def service_family_allowed (server : Address) (record_type : RecordType) : Bool :=
  match server with
  | .Service service =>
    match service.ip_families with
    | some .IPv4 => record_type != .AAAA
    | some .IPv6 => record_type != .A
    | _ => true
  | _ => true

def to_record (name : Name) (rdata : RData) : Record := ⟨name, DEFAULT_TTL_SECONDS, rdata⟩

def cname_record (name canonical_name : Name) : Record := to_record name (.CNAME canonical_name)

/-- `ip_records`: one record of each address after `out`. -/
def ip_records (name : Name) (addrs : List IpAddr) (out : List Record) : List Record :=
  out ++ addrs.map fun addr =>
    match addr with
    | .V4 addr => to_record name (.A addr)
    | .V6 addr => to_record name (.AAAA addr)

namespace Store

variable [NameOps]

/-- The services of a host that the DNS server may answer for: those
    with a VIP, and the headless ones of the svc domain. -/
def hostServices (self : Store) (host : String) : List Service :=
  -- `.svc.cluster.local`: the svc domain is fully qualified, so its text
  -- ends with the dot that `expect` wants stripped
  let domain := String.ofList ("." ++ self.svc_domain.to_utf8).toList.dropLast
  ((self.state.services.get_by_host host).getD []).filter fun service =>
    !service.vips.isEmpty || endsWith service.hostname domain

/-- `find_server`: the first alias, and the first of its wildcards, that
    is the host of a service; of that host's services, the first of the
    client's namespace, or else the first. -/
def find_server (self : Store) (client : Workload) (requested_name : Name) : Option ServerMatch :=
  (self.get_aliases client requested_name).findSome? fun «alias» =>
    (get_wildcards «alias».name).findSome? fun search_name =>
      let search_name_str := (search_name.set_fqdn false).to_utf8
      let service := find_or_first (self.hostServices search_name_str)
        fun service => service.namespace == client.namespace
      service.map fun service => ⟨search_name.set_fqdn true, «alias», .Service service⟩

/-- `get_addresses`: the addresses of the queried family, in random
    order. -/
def get_addresses (self : Store) (shuffle : Shuffle IpAddr) (client : Workload) (server : Address)
    (record_type : RecordType) : List IpAddr :=
  let addrs :=
    match server with
    | .Workload wl => wl.workload_ips.filter fun addr => is_record_type addr record_type
    | .Service service =>
      if service.vips.isEmpty then
        -- headless: an address of each endpoint's workload
        service.endpoints.iter.filterMap fun ep =>
          match self.state.workloads.find_uid ep.workload_uid with
          | none => none
          | some wl => wl.workload_ips.find? fun addr => is_record_type addr record_type
      else
        -- the VIPs the client can call
        service.vips.filterMap fun vip =>
          if is_record_type vip.address record_type && client.network == vip.network then
            some vip.address
          else none
  shuffle.shuffle addrs

/-- `Resolver::lookup` of the store, for the client the query came from. -/
def lookup (self : Store) (shuffle : Shuffle IpAddr) (client : Option Workload) (request : Query) :
    LookupResult :=
  match client with
  | none => .servfail
  | some client =>
    let record_type := request.query_type
    if !is_record_type_supported record_type then .forward
    else
      let requested_name := request.name
      match self.find_server client requested_name with
      | none => .forward
      | some service_match =>
        let is_authoritative := true
        if !service_family_allowed service_match.server record_type then
          .answer ⟨[], is_authoritative⟩
        else
          let addresses := self.get_addresses shuffle client service_match.server record_type
          if addresses.isEmpty then .answer ⟨[], is_authoritative⟩
          else
            -- a host found by stripping a search domain gets a CNAME
            let (records, ip_record_name) : List Record × Name :=
              match service_match.«alias».stripped with
              | some stripped =>
                if service_match.name.is_wildcard then
                  ([cname_record (service_match.name.append_domain stripped.search_domain)
                    service_match.name], requested_name)
                else ([cname_record requested_name stripped.name], stripped.name)
              | none => ([], requested_name)
            .answer ⟨ip_records ip_record_name addresses records, is_authoritative⟩

end Store

/-! ## What an answer from the store holds -/

/-- The address a record gives, for an A or AAAA record. -/
def Record.ip? (r : Record) : Option IpAddr :=
  match r.rdata with
  | .A addr => some (.V4 addr)
  | .AAAA addr => some (.V6 addr)
  | .CNAME _ => none

theorem cname_record_ip (name canonical_name : Name) : (cname_record name canonical_name).ip? = none :=
  rfl

/-- After records that give no address, every address record
    `ip_records` adds is of one of the addresses. -/
theorem ip_of_mem_ip_records {name : Name} {addrs : List IpAddr} {out : List Record} {r : Record}
    {ip : IpAddr} (hout : ∀ c ∈ out, c.ip? = none) (hr : r ∈ ip_records name addrs out)
    (hip : r.ip? = some ip) : ip ∈ addrs := by
  rcases List.mem_append.mp hr with h | h
  · rw [hout r h] at hip
    cases hip
  · obtain ⟨addr, haddr, rfl⟩ := List.mem_map.mp h
    cases addr with
    | V4 a =>
      cases hip
      exact haddr
    | V6 a =>
      cases hip
      exact haddr

/-- A single-stack service does not answer for the other family. -/
theorem service_family_allowed_eq_false {service : Service} {record_type : RecordType}
    (h : service.ip_families = some .IPv4 ∧ record_type = .AAAA ∨
      service.ip_families = some .IPv6 ∧ record_type = .A) :
    service_family_allowed (.Service service) record_type = false := by
  rcases h with ⟨hf, rfl⟩ | ⟨hf, rfl⟩ <;> simp [service_family_allowed, hf]

namespace Store

variable (self : Store)

theorem find_or_first_mem {α : Type} {l : List α} {p : α → Bool} {a : α}
    (h : find_or_first l p = some a) : a ∈ l := by
  unfold find_or_first at h
  split at h
  · rename_i hfind
    cases h
    exact List.mem_of_find?_eq_some hfind
  · exact List.mem_of_mem_head? h

/-- The store only ever matches a service stored under the host it
    matched. -/
theorem find_server_service [NameOps] {client : Workload} {name : Name} {m : ServerMatch}
    (h : self.find_server client name = some m) :
    ∃ service, m.server = .Service service ∧
      service ∈ (self.state.services.get_by_host (m.name.set_fqdn false).to_utf8).getD [] := by
  unfold find_server at h
  obtain ⟨a, -, ha⟩ := List.exists_of_findSome?_eq_some h
  obtain ⟨search_name, -, hn⟩ := List.exists_of_findSome?_eq_some ha
  obtain ⟨service, hfirst, rfl⟩ := Option.map_eq_some_iff.mp hn
  -- the service passed the filter of `hostServices`, for the name with
  -- the flag cleared, which the match's name has once it is cleared again
  have hhost := List.mem_of_mem_filter (find_or_first_mem hfirst)
  refine ⟨service, rfl, ?_⟩
  rw [Name.set_fqdn_set_fqdn]
  exact hhost

/-- The addresses of a service are of the queried family, and are VIPs on
    the client's network, or, for a headless service, addresses of the
    workloads of its endpoints. -/
theorem mem_get_addresses {shuffle : Shuffle IpAddr} {client : Workload} {service : Service}
    {record_type : RecordType} {ip : IpAddr}
    (h : ip ∈ self.get_addresses shuffle client (.Service service) record_type) :
    is_record_type ip record_type = true ∧
      (service.vips ≠ [] → ∃ vip ∈ service.vips, vip.address = ip ∧ vip.network = client.network) ∧
      (service.vips = [] → ∃ ep ∈ service.endpoints.iter, ∃ wl,
        self.state.workloads.find_uid ep.workload_uid = some wl ∧ ip ∈ wl.workload_ips) := by
  unfold get_addresses at h
  rw [shuffle.mem_shuffle] at h
  dsimp only at h
  by_cases hv : service.vips = []
  · -- headless: the address found among the workload's
    rw [if_pos (List.isEmpty_iff.mpr hv)] at h
    obtain ⟨ep, hep, hfind⟩ := List.mem_filterMap.mp h
    cases hw : self.state.workloads.find_uid ep.workload_uid with
    | none => simp [hw] at hfind
    | some wl =>
      simp only [hw] at hfind
      have hrt := List.find?_some hfind
      refine ⟨hrt, fun hne => absurd hv hne, fun _ => ?_⟩
      exact ⟨ep, hep, wl, hw, List.mem_of_find?_eq_some hfind⟩
  · rw [if_neg (by simpa using hv)] at h
    obtain ⟨vip, hvip, hsome⟩ := List.mem_filterMap.mp h
    split at hsome
    · rename_i hok
      cases hsome
      rw [Bool.and_eq_true, beq_iff_eq] at hok
      exact ⟨hok.1, fun _ => ⟨vip, hvip, rfl, hok.2.symm⟩, fun h0 => absurd h0 hv⟩
    · cases hsome

/-- An answer of the store comes from a match of `find_server`: nothing
    when the service does not serve the family, and otherwise address
    records of the addresses `get_addresses` gives, after CNAMEs. -/
theorem lookup_eq_answer [NameOps] {shuffle : Shuffle IpAddr} {client : Workload} {request : Query}
    {answer : Answer} (h : self.lookup shuffle (some client) request = .answer answer) :
    ∃ m, self.find_server client request.name = some m ∧
      (service_family_allowed m.server request.query_type = false → answer.records = []) ∧
      ∀ r ∈ answer.records, ∀ ip, r.ip? = some ip →
        ip ∈ self.get_addresses shuffle client m.server request.query_type := by
  unfold lookup at h
  dsimp only at h
  split at h
  · cases h
  · cases hm : self.find_server client request.name with
    | none => simp [hm] at h
    | some m =>
      simp only [hm] at h
      refine ⟨m, rfl, ?_⟩
      by_cases hf : service_family_allowed m.server request.query_type = true
      · rw [if_neg (by simp [hf])] at h
        split at h
        · -- no addresses: no records
          cases h
          exact ⟨fun hf' => by simp [hf] at hf', fun r hr => by simp at hr⟩
        · refine ⟨fun hf' => by simp [hf] at hf', ?_⟩
          intro r hr ip hip
          -- the records before the address records are CNAMEs, or none
          have hcname : ∀ a b, ∀ c ∈ [cname_record a b], c.ip? = none := by
            intro a b c hc
            rw [List.mem_singleton.mp hc, cname_record_ip]
          split at h
          · split at h
            · -- a wildcard found through a search domain
              cases h
              exact ip_of_mem_ip_records (hcname _ _) hr hip
            · -- a name found through a search domain
              cases h
              exact ip_of_mem_ip_records (hcname _ _) hr hip
          · cases h
            exact ip_of_mem_ip_records (fun _ hc => absurd hc List.not_mem_nil) hr hip
      · rw [if_pos (by simpa using hf)] at h
        cases h
        exact ⟨fun _ => rfl, fun r hr => by simp at hr⟩

/-- An answer of the store to an A or AAAA query is sound: the host
    matched a service stored under it; every address record is of the
    queried family, and is a VIP of the service on the client's network,
    or, for a headless service, an address of the workload of one of its
    endpoints; and a single-stack service gets no records for the other
    family. -/
theorem lookup_answer_sound [NameOps] (shuffle : Shuffle IpAddr) (client : Workload) (request : Query)
    (answer : Answer) (h : self.lookup shuffle (some client) request = .answer answer) :
    ∃ m service, self.find_server client request.name = some m ∧ m.server = .Service service ∧
      service ∈ (self.state.services.get_by_host (m.name.set_fqdn false).to_utf8).getD [] ∧
      (∀ r ∈ answer.records, ∀ ip, r.ip? = some ip →
        is_record_type ip request.query_type = true ∧
        (service.vips ≠ [] →
          ∃ vip ∈ service.vips, vip.address = ip ∧ vip.network = client.network) ∧
        (service.vips = [] → ∃ ep ∈ service.endpoints.iter, ∃ wl,
          self.state.workloads.find_uid ep.workload_uid = some wl ∧ ip ∈ wl.workload_ips)) ∧
      (service.ip_families = some .IPv4 ∧ request.query_type = .AAAA ∨
        service.ip_families = some .IPv6 ∧ request.query_type = .A → answer.records = []) := by
  obtain ⟨m, hm, hfam, hips⟩ := self.lookup_eq_answer h
  obtain ⟨service, hs, hstored⟩ := self.find_server_service hm
  refine ⟨m, service, hm, hs, hstored, fun r hr ip hip => ?_, fun hex => hfam ?_⟩
  · rw [hs] at hips
    exact self.mem_get_addresses (hips r hr ip hip)
  · rw [hs]
    exact service_family_allowed_eq_false hex

end Store

/-- A client in the default namespace of network `network`. -/
def dnsClient : Workload where
  workload_ips := [.V4 0x0a000002]
  waypoint := none
  network_gateway := none
  protocol := .HBONE
  network_mode := .Standard
  uid := "cluster1//v1/Pod/default/client"
  name := "client"
  «namespace» := "default"
  trust_domain := "cluster.local"
  service_account := "default"
  network := "network"
  workload_name := "client"
  workload_type := "deployment"
  canonical_name := "client"
  canonical_revision := "latest"
  hostname := ""
  node := ""
  native_tunnel := false
  application_tunnel := none
  authorization_policies := []
  status := .Healthy
  cluster_id := "cluster1"
  locality := ⟨"", "", ""⟩
  services := []
  capacity := 1

/-- A service with one VIP on the client's network and one on another. -/
def webService : Service where
  name := "web"
  «namespace» := "default"
  hostname := "web.default.svc.cluster.local"
  vips := [⟨"network", .V4 0x0a000001⟩, ⟨"other", .V4 0x0a000009⟩]
  ports := ∅
  endpoints := EndpointSet.empty
  subject_alt_names := []
  waypoint := none
  load_balancer := none
  ip_families := none

def dnsStore : Store :=
  Store.new "cluster.local"
    { workloads := WorkloadStore.new none
      services :=
        { staged_services := ∅
          by_vip := ∅
          by_host := (∅ : HashMap String (List Service)).insert webService.hostname [webService] }
      policies := PolicyStore.default }
    fun _ => []

def webName : Name := ⟨["web", "default", "svc", "cluster", "local"], true⟩

/-- The A query for the service's FQDN is answered with the VIP on the
    client's network only. -/
theorem lookup_answer_sound_web :
    dnsStore.lookup .id (some dnsClient) ⟨webName, .A⟩ =
        .answer ⟨[⟨webName, DEFAULT_TTL_SECONDS, .A 0x0a000001⟩], true⟩ ∧
      ∀ r ∈ [(⟨webName, DEFAULT_TTL_SECONDS, .A 0x0a000001⟩ : Record)], ∀ ip, r.ip? = some ip →
        is_record_type ip .A = true :=
  have h : dnsStore.lookup .id (some dnsClient) ⟨webName, .A⟩ =
      .answer ⟨[⟨webName, DEFAULT_TTL_SECONDS, .A 0x0a000001⟩], true⟩ := by
    decide
  ⟨h, fun r hr ip hip => by
    obtain ⟨m, service, -, -, -, hrec, -⟩ :=
      dnsStore.lookup_answer_sound .id dnsClient ⟨webName, .A⟩ _ h
    exact (hrec r hr ip hip).1⟩

end Dns

end Ztunnel
