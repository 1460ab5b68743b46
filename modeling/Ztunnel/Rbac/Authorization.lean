/-
  Ztunnel.Rbac.Authorization

  Authorization policies (src/rbac.rs): the `Authorization` record with its
  rules, the match groups `RbacMatch`, the string and service-account
  matchers, and `Authorization::matches`, which decides whether a policy's
  rules select a connection.

  `matches` is three nested loops with early exits.  They are modelled as
  three structurally recursive functions, one per loop, so that each
  `break`, `continue` and `return` of the source is one branch:

    * `clauseLoop` — the match groups of a clause: empty groups are skipped
      (`continue`), the first group whose checks pass ends the loop;
    * `ruleLoop` — the clauses of a rule: `rule_match &= clause_match`,
      leaving at the first clause that misses;
    * `rulesLoop` — the rules: `return true` at the first rule that matches.

  `IpNet` is the `ipnet` crate's network type; only `IpNet::contains` of an
  address is used.  The crate is not part of the model: its test is the
  class `IpNetContains`, and what is proved of the matching holds for every
  instance of it, no property of the test being needed.  The instance
  `IpNetContains.prefixBits` is the test as the crate's documentation
  states it (same family, and the prefix bits agree), for running the
  model on concrete policies.
-/

import Ztunnel.State.Workload

namespace Ztunnel

-- ============================================================================
-- Connections
-- ============================================================================

/-- A socket address: an IP and a port. -/
structure SocketAddr where
  ip : IpAddr
  port : UInt16
  deriving DecidableEq, Repr

/-- The width of an address family, the longest prefix it admits. -/
def IpAddr.max_prefix_len : IpAddr → Nat
  | .V4 _ => 32
  | .V6 _ => 128

/-- An IP network of the `ipnet` crate.  `IpNet::new` rejects a prefix
    longer than the address, so no value has one. -/
structure IpNet where
  addr : IpAddr
  prefix_len : Nat
  prefix_len_le : prefix_len ≤ addr.max_prefix_len
  deriving DecidableEq

/-- The `ipnet` crate's `IpNet::contains(&IpAddr)`, which the model takes as
    a parameter. -/
class IpNetContains where
  contains : IpNet → IpAddr → Bool

def IpNet.contains [IpNetContains] (net : IpNet) (ip : IpAddr) : Bool :=
  IpNetContains.contains net ip

/-- The crate's test: same family, and the leading `prefix_len` bits agree
    with the network's. -/
instance IpNetContains.prefixBits : IpNetContains where
  contains net ip :=
    match net.addr, ip with
    | .V4 a, .V4 b => a >>> (32 - net.prefix_len) == b >>> (32 - net.prefix_len)
    | .V6 a, .V6 b => a >>> (128 - net.prefix_len) == b >>> (128 - net.prefix_len)
    | _, _ => false

/-- `rbac::Connection`: what a policy is checked against. -/
structure Connection where
  src : SocketAddr
  dst : SocketAddr
  src_identity : Option Identity
  dst_network : String
  deriving DecidableEq

-- ============================================================================
-- Matchers and policies
-- ============================================================================

inductive StringMatch where
  | Prefix (pre : String)
  | Suffix (suf : String)
  | Exact (exact : String)
  | Presence
  deriving DecidableEq, Repr

namespace StringMatch

def «matches» (self : StringMatch) (check : String) : Bool :=
  match self with
  | Prefix pre => startsWith check pre
  | Suffix suf => endsWith check suf
  | Exact exact => exact == check
  | Presence => !check.isEmpty

/-- Principals are written without the `spiffe://` scheme, which is
    stripped from the checked identity first; an identity without it never
    matches. -/
def matches_principal (self : StringMatch) (check : String) : Bool :=
  match stripPrefix check "spiffe://" with
  | none => false
  | some check => self.matches check

end StringMatch

structure ServiceAccountMatch where
  «namespace» : String
  service_account : String
  deriving DecidableEq, Repr

/-- A connection without an identity matches no service account. -/
def ServiceAccountMatch.«matches» (self : ServiceAccountMatch) (check : Option Identity) : Bool :=
  match check with
  | some (.Spiffe _ «namespace» service_account) =>
    «namespace» == self.namespace && service_account == self.service_account
  | none => false

/-- One match group of a clause: six pairs of positive and negative lists. -/
structure RbacMatch where
  namespaces : List StringMatch
  not_namespaces : List StringMatch
  service_accounts : List ServiceAccountMatch
  not_service_accounts : List ServiceAccountMatch
  principals : List StringMatch
  not_principals : List StringMatch
  source_ips : List IpNet
  not_source_ips : List IpNet
  destination_ips : List IpNet
  not_destination_ips : List IpNet
  destination_ports : List UInt16
  not_destination_ports : List UInt16
  deriving DecidableEq

def RbacMatch.is_empty (self : RbacMatch) : Bool :=
  self.namespaces.isEmpty && self.not_namespaces.isEmpty &&
    self.service_accounts.isEmpty && self.not_service_accounts.isEmpty &&
    self.principals.isEmpty && self.not_principals.isEmpty &&
    self.source_ips.isEmpty && self.not_source_ips.isEmpty &&
    self.destination_ips.isEmpty && self.not_destination_ips.isEmpty &&
    self.destination_ports.isEmpty && self.not_destination_ports.isEmpty

inductive RbacScope where
  | Global
  | Namespace
  | WorkloadSelector
  deriving DecidableEq, Repr

inductive RbacAction where
  | Allow
  | Deny
  deriving DecidableEq, Repr

structure Authorization where
  name : String
  «namespace» : String
  scope : RbacScope
  action : RbacAction
  rules : List (List (List RbacMatch))
  deriving DecidableEq

namespace Authorization

def to_key (self : Authorization) : String :=
  self.namespace ++ "/" ++ self.name

/-- A declared positive list needs a member satisfying the predicate; a
    declared negative list must have none.  (The source's `desc` only
    labels the trace output.) -/
def matches_internal {T : Type} (positive negative : List T) (predicate : T → Bool) : Bool :=
  let pm := if positive.isEmpty then true else positive.any predicate
  let nm := if negative.isEmpty then true else !negative.any predicate
  pm && nm

section Matching

variable [IpNetContains]

/-- The six checks of one match group, accumulated into `m` in the
    source's order. -/
def groupMatches (conn : Connection) (full_identity : Option Identity) (id ns : String)
    (mg : RbacMatch) : Bool :=
  let m := true
  let m := m && matches_internal mg.destination_ips mg.not_destination_ips
    (fun i => i.contains conn.dst.ip)
  let m := m && matches_internal mg.source_ips mg.not_source_ips
    (fun i => i.contains conn.src.ip)
  let m := m && matches_internal mg.destination_ports mg.not_destination_ports
    (fun p => p == conn.dst.port)
  let m := m && matches_internal mg.service_accounts mg.not_service_accounts
    (fun p => p.matches full_identity)
  let m := m && matches_internal mg.principals mg.not_principals
    (fun p => p.matches_principal id)
  let m := m && matches_internal mg.namespaces mg.not_namespaces (fun p => p.matches ns)
  m

/-- The loop over the match groups of a clause. -/
def clauseLoop (matchGroup : RbacMatch → Bool) : List RbacMatch → Bool
  | [] => false
  | mg :: rest =>
    -- an empty group is skipped, it does not match
    if mg.is_empty then clauseLoop matchGroup rest
    else if matchGroup mg then true
    else clauseLoop matchGroup rest

/-- The loop over the clauses of a rule; an empty clause counts as matched. -/
def ruleLoop (matchGroup : RbacMatch → Bool) : List (List RbacMatch) → Bool
  | [] => true
  | clause :: rest =>
    let clause_match := clauseLoop matchGroup clause
    let clause_match := if clause.isEmpty then true else clause_match
    if clause_match then ruleLoop matchGroup rest else false

/-- The loop over the rules: any matching rule is a match. -/
def rulesLoop (matchGroup : RbacMatch → Bool) : List (List (List RbacMatch)) → Bool
  | [] => false
  | rule :: rest => if ruleLoop matchGroup rule then true else rulesLoop matchGroup rest

def «matches» (self : Authorization) (conn : Connection) : Bool :=
  let full_identity := conn.src_identity
  let id := (conn.src_identity.map Identity.to_strng).getD ""
  let ns := (conn.src_identity.map Identity.namespace).getD ""
  if self.rules.isEmpty then false
  else rulesLoop (groupMatches conn full_identity id ns) self.rules

end Matching

end Authorization

end Ztunnel
