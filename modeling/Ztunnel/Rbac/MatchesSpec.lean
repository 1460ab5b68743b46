/-
  Ztunnel.Rbac.MatchesSpec

  What `Authorization::matches` decides, said without its loops: a policy
  selects a connection when it has rules and one of them has each clause
  empty or holding a non-empty match group whose six pairs of lists hold.
  A pair holds when its positive list is empty or has a member that
  matches, and its negative list is empty or has none that does.

  The members match what `matches` checks them against: the destination
  and source IPs, the destination port, the source identity for service
  accounts, its printed form less the `spiffe://` scheme for principals,
  and its namespace for namespaces.  A connection without an identity
  matches no service account and no principal, and its namespace is the
  empty string that `unwrap_or_default` gives.

  Each of the three loops has one lemma that says what it returns, proved
  by induction on its list; `matches_eq_true_iff_selects` puts them
  together.
-/

import Ztunnel.Rbac.Authorization

namespace Ztunnel

/-- A positive and a negative list hold of a predicate: a declared
    positive list has a member satisfying it, a declared negative list has
    none. -/
def PairHolds {T : Type} (positive negative : List T) (sat : T → Prop) : Prop :=
  (positive = [] ∨ ∃ x ∈ positive, sat x) ∧ (negative = [] ∨ ∀ x ∈ negative, ¬ sat x)

theorem pairHolds_congr {T : Type} {positive negative : List T} {sat sat' : T → Prop}
    (h : ∀ x, sat x ↔ sat' x) :
    PairHolds positive negative sat ↔ PairHolds positive negative sat' := by
  simp only [PairHolds, h]

/-- All twelve lists of the group are empty. -/
def RbacMatch.IsEmpty (m : RbacMatch) : Prop :=
  m.namespaces = [] ∧ m.not_namespaces = [] ∧
    m.service_accounts = [] ∧ m.not_service_accounts = [] ∧
    m.principals = [] ∧ m.not_principals = [] ∧
    m.source_ips = [] ∧ m.not_source_ips = [] ∧
    m.destination_ips = [] ∧ m.not_destination_ips = [] ∧
    m.destination_ports = [] ∧ m.not_destination_ports = []

namespace Connection

/-- The namespace of the source identity, empty without one. -/
def source_namespace (conn : Connection) : String :=
  match conn.src_identity with
  | some id => id.namespace
  | none => ""

/-- A service account matcher names the source identity's namespace and
    service account. -/
def ServiceAccountMatches (conn : Connection) (sa : ServiceAccountMatch) : Prop :=
  ∃ id, conn.src_identity = some id ∧
    id.namespace = sa.namespace ∧ id.service_account = sa.service_account

/-- A principal matcher matches the source identity printed without its
    `spiffe://` scheme. -/
def PrincipalMatches (conn : Connection) (p : StringMatch) : Prop :=
  ∃ id, conn.src_identity = some id ∧
    ∃ rest, stripPrefix id.to_strng "spiffe://" = some rest ∧ p.matches rest = true

end Connection

section Spec

variable [IpNetContains]

/-- The six pairs of a match group hold of the connection. -/
structure GroupHolds (conn : Connection) (m : RbacMatch) : Prop where
  destination_ips : PairHolds m.destination_ips m.not_destination_ips
    fun net => net.contains conn.dst.ip = true
  source_ips : PairHolds m.source_ips m.not_source_ips fun net => net.contains conn.src.ip = true
  destination_ports : PairHolds m.destination_ports m.not_destination_ports
    fun port => port = conn.dst.port
  service_accounts : PairHolds m.service_accounts m.not_service_accounts
    conn.ServiceAccountMatches
  principals : PairHolds m.principals m.not_principals conn.PrincipalMatches
  namespaces : PairHolds m.namespaces m.not_namespaces
    fun p => p.matches conn.source_namespace = true

/-- The declarative reading of `Authorization::matches`. -/
def Authorization.Selects (p : Authorization) (conn : Connection) : Prop :=
  p.rules ≠ [] ∧ ∃ rule ∈ p.rules, ∀ clause ∈ rule,
    clause = [] ∨ ∃ m ∈ clause, ¬ m.IsEmpty ∧ GroupHolds conn m

end Spec

/-! ## The atoms -/

namespace Authorization

theorem matches_internal_eq_true_iff {T : Type} (positive negative : List T) (predicate : T → Bool) :
    matches_internal positive negative predicate = true ↔
      PairHolds positive negative fun x => predicate x = true := by
  unfold matches_internal PairHolds
  cases positive <;> cases negative <;> simp [List.any_eq_true]

end Authorization

theorem RbacMatch.is_empty_eq_true_iff (m : RbacMatch) : m.is_empty = true ↔ m.IsEmpty := by
  simp [RbacMatch.is_empty, RbacMatch.IsEmpty, Bool.and_eq_true, and_assoc]

theorem ServiceAccountMatch.matches_eq_true_iff (sa : ServiceAccountMatch) (conn : Connection) :
    sa.matches conn.src_identity = true ↔ conn.ServiceAccountMatches sa := by
  unfold ServiceAccountMatch.matches Connection.ServiceAccountMatches
  cases h : conn.src_identity with
  | none => simp
  | some id =>
    cases id with
    | Spiffe td ns sa' => simp [Identity.namespace, Identity.service_account]

/-- The principal checked is the printed identity, or the empty string,
    which has no scheme to strip. -/
theorem StringMatch.matches_principal_eq_true_iff (p : StringMatch) (conn : Connection) :
    p.matches_principal ((conn.src_identity.map Identity.to_strng).getD "") = true ↔
      conn.PrincipalMatches p := by
  unfold StringMatch.matches_principal Connection.PrincipalMatches
  cases h : conn.src_identity with
  | none =>
    have hstrip : stripPrefix "" "spiffe://" = none := by decide
    simp [hstrip]
  | some id =>
    simp only [Option.map_some, Option.getD_some, Option.some.injEq, exists_eq_left']
    cases stripPrefix id.to_strng "spiffe://" <;> simp

theorem source_namespace_eq (conn : Connection) :
    (conn.src_identity.map Identity.namespace).getD "" = conn.source_namespace := by
  unfold Connection.source_namespace
  cases conn.src_identity <;> rfl

namespace Authorization

/-- One match group passes its six checks exactly when its six pairs
    hold. -/
theorem groupMatches_eq_true_iff [IpNetContains] (conn : Connection) (m : RbacMatch) :
    groupMatches conn conn.src_identity ((conn.src_identity.map Identity.to_strng).getD "")
        ((conn.src_identity.map Identity.namespace).getD "") m = true ↔ GroupHolds conn m := by
  unfold groupMatches
  simp only [Bool.true_and, Bool.and_eq_true, matches_internal_eq_true_iff, beq_iff_eq,
    source_namespace_eq]
  rw [pairHolds_congr (fun sa => ServiceAccountMatch.matches_eq_true_iff sa conn),
    pairHolds_congr (fun p => StringMatch.matches_principal_eq_true_iff p conn)]
  constructor
  · rintro ⟨⟨⟨⟨⟨hdst, hsrc⟩, hport⟩, hsa⟩, hpr⟩, hns⟩
    exact ⟨hdst, hsrc, hport, hsa, hpr, hns⟩
  · rintro ⟨hdst, hsrc, hport, hsa, hpr, hns⟩
    exact ⟨⟨⟨⟨⟨hdst, hsrc⟩, hport⟩, hsa⟩, hpr⟩, hns⟩

/-! ## The loops -/

section Loops

variable (matchGroup : RbacMatch → Bool)

/-- The group loop finds a non-empty group that passes; empty groups are
    skipped. -/
theorem clauseLoop_eq_true_iff :
    ∀ clause : List RbacMatch, clauseLoop matchGroup clause = true ↔
      ∃ m ∈ clause, m.is_empty = false ∧ matchGroup m = true
  | [] => by simp [clauseLoop]
  | mg :: rest => by
    rw [clauseLoop, List.exists_mem_cons_iff]
    by_cases he : mg.is_empty = true
    · -- `continue`: the group is not a candidate
      rw [if_pos he, clauseLoop_eq_true_iff rest]
      simp [he]
    · rw [if_neg he]
      by_cases hg : matchGroup mg = true
      · -- `break` with `clause_match = true`
        rw [if_pos hg]
        simp [he, hg]
      · rw [if_neg hg, clauseLoop_eq_true_iff rest]
        simp [hg]

/-- The clause loop reaches its end when every clause is empty or has its
    group loop succeed. -/
theorem ruleLoop_eq_true_iff :
    ∀ rule : List (List RbacMatch), ruleLoop matchGroup rule = true ↔
      ∀ clause ∈ rule, clause = [] ∨ clauseLoop matchGroup clause = true
  | [] => by simp [ruleLoop]
  | clause :: rest => by
    rw [ruleLoop, List.forall_mem_cons, ← ruleLoop_eq_true_iff rest]
    by_cases hc : clause = []
    · -- the special case after the group loop: an empty clause matches
      subst hc
      simp
    · have hne : clause.isEmpty = false := by simpa using hc
      rw [hne]
      by_cases hm : clauseLoop matchGroup clause = true
      · simp [hm]
      · -- `rule_match` turned false: short circuit
        simp [hm, hc]

theorem rulesLoop_eq_true_iff :
    ∀ rules : List (List (List RbacMatch)), rulesLoop matchGroup rules = true ↔
      ∃ rule ∈ rules, ruleLoop matchGroup rule = true
  | [] => by simp [rulesLoop]
  | rule :: rest => by
    rw [rulesLoop, List.exists_mem_cons_iff, ← rulesLoop_eq_true_iff rest]
    by_cases hr : ruleLoop matchGroup rule = true
    · simp [hr]
    · simp [hr]

end Loops

/-- `Authorization::matches` is its declarative reading. -/
theorem matches_eq_true_iff_selects [IpNetContains] (p : Authorization) (conn : Connection) :
    p.matches conn = true ↔ p.Selects conn := by
  unfold Authorization.matches Selects
  by_cases hr : p.rules = []
  · simp [hr]
  · have hne : p.rules.isEmpty = false := by simpa using hr
    simp only [hne, Bool.false_eq_true, if_false, rulesLoop_eq_true_iff, ruleLoop_eq_true_iff,
      clauseLoop_eq_true_iff, ne_eq, hr, not_false_eq_true, true_and]
    -- each group's checks are its six pairs, and a skipped group is an empty one
    simp only [groupMatches_eq_true_iff, ← Bool.not_eq_true, RbacMatch.is_empty_eq_true_iff]

/-- An empty clause matches, a clause of only empty groups does not, and a
    policy without rules matches nothing, also without an identity. -/
example :
    let conn : Connection :=
      ⟨⟨.V4 0x7f000001, 1234⟩, ⟨.V4 0x7f000002, 8080⟩, none, ""⟩
    let empty : RbacMatch := ⟨[], [], [], [], [], [], [], [], [], [], [], []⟩
    let policy (rules : List (List (List RbacMatch))) : Authorization :=
      ⟨"empty", "default", .WorkloadSelector, .Allow, rules⟩
    (policy [[[empty]]]).matches conn = false ∧ (policy [[[]]]).matches conn = true ∧
      (policy [[]]).matches conn = true ∧ (policy []).matches conn = false := by
  decide

end Authorization

end Ztunnel
