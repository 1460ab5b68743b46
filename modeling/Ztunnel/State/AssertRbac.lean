/-
  Ztunnel.State.AssertRbac

  The RBAC check of an inbound connection (`DemandProxyState::assert_rbac`,
  src/state.rs), and what it decides.

  The check has two halves.  `rbacPolicies` gathers the policies to
  consult: the names filed under the workload's namespace, those filed
  under the global key `""`, and those the workload names itself, skipping
  names with no stored policy.  `checkPolicies` then runs Istio's
  allow/deny loops over them.

  `RbacVerdict applies` states Istio's decision over an applicability
  relation.  Over the policy index's invariant the consulted policies are
  exactly `Consulted`: the global ones, the namespace-scoped ones of the
  workload's namespace, the ones the workload names, and also every
  namespace-scoped policy of the empty namespace, which shares the global
  key.  Only on stores holding no such policy does `Consulted` coincide with
  Istio's `IstioApplies`, and there the decision is Istio's
  (`assert_rbac_istio_of_named`).
-/

import Ztunnel.State.Policy

namespace Ztunnel

/-- `proxy::AuthorizationRejectionError`. -/
inductive AuthorizationRejectionError where
  | NoWorkload
  | WorkloadMismatch
  | ExplicitlyDenied (ns name : String)
  | NotAllowed
  deriving DecidableEq, Repr

structure ProxyRbacContext where
  conn : Connection
  dest_workload : Workload

/-- The policies `assert_rbac` consults, in order: those filed under the
    workload's namespace, the global ones, then those the workload names;
    a name without a stored policy is skipped. -/
def rbacPolicies (policies : PolicyStore) (wl : Workload) : List Authorization :=
  let ns := policies.get_by_namespace wl.namespace
  let global := policies.get_by_namespace ""
  let workload := wl.authorization_policies
  (ns ++ global ++ workload).filterMap policies.get

section Deciding

variable [IpNetContains]

/-- The allow/deny loops of `assert_rbac` over the consulted policies. -/
def checkPolicies (pols : List Authorization) (conn : Connection) :
    Except AuthorizationRejectionError Unit :=
  let (allow, deny) := pols.partition fun p => p.action == .Allow
  -- "If there are any DENY policies that match the request, deny the request."
  match deny.find? fun pol => pol.matches conn with
  | some pol => .error (.ExplicitlyDenied pol.namespace pol.name)
  | none =>
    -- "If there are no ALLOW policies for the workload, allow the request."
    if allow.isEmpty then .ok ()
    -- "If any of the ALLOW policies match the request, allow the request."
    else if allow.any fun pol => pol.matches conn then .ok ()
    else .error .NotAllowed

def assert_rbac (policies : PolicyStore) (ctx : ProxyRbacContext) :
    Except AuthorizationRejectionError Unit :=
  checkPolicies (rbacPolicies policies ctx.dest_workload) ctx.conn

-- ============================================================================
-- Istio's decision
-- ============================================================================

/-- Istio's authorization decision over the policies that apply (a
    relation between a policy's key and the policy): deny, naming the
    policy, when an applicable DENY policy matches; otherwise allow when no
    ALLOW policy applies or one matches; otherwise reject. -/
structure RbacVerdict (applies : String → Authorization → Prop) (conn : Connection)
    (r : Except AuthorizationRejectionError Unit) : Prop where
  denied_iff : (∃ ns n, r = .error (.ExplicitlyDenied ns n)) ↔
    ∃ k p, applies k p ∧ p.action = .Deny ∧ p.matches conn = true
  denied_names : ∀ ns n, r = .error (.ExplicitlyDenied ns n) →
    ∃ k p, applies k p ∧ p.action = .Deny ∧ p.matches conn = true ∧
      p.namespace = ns ∧ p.name = n
  ok_iff : r = .ok () ↔
    (¬∃ k p, applies k p ∧ p.action = .Deny ∧ p.matches conn = true) ∧
    ((¬∃ k p, applies k p ∧ p.action = .Allow) ∨
      ∃ k p, applies k p ∧ p.action = .Allow ∧ p.matches conn = true)
  not_allowed_iff : r = .error .NotAllowed ↔
    (¬∃ k p, applies k p ∧ p.action = .Deny ∧ p.matches conn = true) ∧
    (∃ k p, applies k p ∧ p.action = .Allow) ∧
    ¬∃ k p, applies k p ∧ p.action = .Allow ∧ p.matches conn = true

end Deciding

/-- The policies Istio applies to a workload: the stored policies of global
    scope, those scoped to the workload's namespace, and those the workload
    names. -/
def IstioApplies (ps : PolicyStore) (wl : Workload) (k : String) (p : Authorization) : Prop :=
  ps.get k = some p ∧
    (p.scope = .Global ∨ (p.scope = .Namespace ∧ p.namespace = wl.namespace) ∨
      k ∈ wl.authorization_policies)

/-- The policies `assert_rbac` consults: as `IstioApplies`, and also the
    namespace-scoped policies of the empty namespace. -/
def Consulted (ps : PolicyStore) (wl : Workload) (k : String) (p : Authorization) : Prop :=
  ps.get k = some p ∧
    (p.scope = .Global ∨
      (p.scope = .Namespace ∧ (p.namespace = wl.namespace ∨ p.namespace = "")) ∨
      k ∈ wl.authorization_policies)

-- ============================================================================
-- The loops decide as Istio does
-- ============================================================================

section Loops

variable {pols : List Authorization} {conn : Connection}

theorem action_ne_allow (p : Authorization) : p.action ≠ .Allow ↔ p.action = .Deny := by
  cases p.action <;> simp

/-- Over a relation that applies exactly the policies in the list, what
    some applicable policy satisfies is what some listed one does. -/
theorem exists_applies_iff {applies : String → Authorization → Prop}
    (hmem : ∀ p, p ∈ pols ↔ ∃ k, applies k p) (q : Authorization → Prop) :
    (∃ k p, applies k p ∧ q p) ↔ ∃ p ∈ pols, q p := by
  constructor
  · rintro ⟨k, p, hk, hq⟩
    exact ⟨p, (hmem p).mpr ⟨k, hk⟩, hq⟩
  · rintro ⟨p, hp, hq⟩
    obtain ⟨k, hk⟩ := (hmem p).mp hp
    exact ⟨k, p, hk, hq⟩

variable [IpNetContains]

/-- What the loops return: the first matching DENY policy's names, or, when
    none matches, a verdict on the ALLOW policies alone. -/
theorem checkPolicies_cases (pols : List Authorization) (conn : Connection) :
    (∃ pol ∈ pols, pol.action = .Deny ∧ pol.matches conn = true ∧
      checkPolicies pols conn = .error (.ExplicitlyDenied pol.namespace pol.name)) ∨
    ((¬∃ p ∈ pols, p.action = .Deny ∧ p.matches conn = true) ∧
      checkPolicies pols conn =
        if ∃ p ∈ pols, p.action = .Allow then
          (if ∃ p ∈ pols, p.action = .Allow ∧ p.matches conn = true then .ok ()
           else .error .NotAllowed)
        else .ok ()) := by
  unfold checkPolicies
  rw [List.partition_eq_filter_filter]
  dsimp only
  cases hf : (pols.filter (not ∘ fun p => p.action == .Allow)).find? (fun pol => pol.matches conn)
    with
  | some pol =>
    -- the first DENY policy that matches
    left
    have hmem := List.mem_of_find?_eq_some hf
    have hm := List.find?_some hf
    rw [List.mem_filter] at hmem
    obtain ⟨hp, hdeny⟩ := hmem
    have hd : pol.action = .Deny := (action_ne_allow pol).mp (by simpa using hdeny)
    exact ⟨pol, hp, hd, hm, rfl⟩
  | none =>
    right
    rw [List.find?_eq_none] at hf
    refine ⟨?_, ?_⟩
    · rintro ⟨p, hp, hd, hm⟩
      refine hf p (List.mem_filter.mpr ⟨hp, ?_⟩) hm
      simp [hd]
    · -- the ALLOW list is empty exactly when no consulted policy allows
      have he : (pols.filter fun p => p.action == .Allow).isEmpty = true ↔
          ¬∃ p ∈ pols, p.action = .Allow := by
        simp [List.isEmpty_iff, List.filter_eq_nil_iff]
      have ha : ((pols.filter fun p => p.action == .Allow).any fun pol => pol.matches conn) =
          true ↔ ∃ p ∈ pols, p.action = .Allow ∧ p.matches conn = true := by
        simp [List.any_eq_true]
      by_cases hA : ∃ p ∈ pols, p.action = .Allow
      · rw [if_neg (fun h => (he.mp h) hA), if_pos hA]
        by_cases hM : ∃ p ∈ pols, p.action = .Allow ∧ p.matches conn = true
        · rw [if_pos (ha.mpr hM), if_pos hM]
        · rw [if_neg (fun h => hM (ha.mp h)), if_neg hM]
      · rw [if_pos (he.mpr hA), if_neg hA]

/-- The loops decide as Istio does over any relation that applies exactly
    the policies in the list. -/
theorem checkPolicies_verdict (applies : String → Authorization → Prop)
    (hmem : ∀ p, p ∈ pols ↔ ∃ k, applies k p) :
    RbacVerdict applies conn (checkPolicies pols conn) := by
  have hD := exists_applies_iff hmem fun p => p.action = .Deny ∧ p.matches conn = true
  have hA := exists_applies_iff hmem fun p => p.action = .Allow
  have hM := exists_applies_iff hmem fun p => p.action = .Allow ∧ p.matches conn = true
  rcases checkPolicies_cases pols conn with ⟨pol, hp, hd, hm, hr⟩ | ⟨hnd, hr⟩
  · -- a DENY policy matched
    have hD' : ∃ k p, applies k p ∧ p.action = .Deny ∧ p.matches conn = true :=
      hD.mpr ⟨pol, hp, hd, hm⟩
    refine ⟨⟨fun _ => hD', fun _ => ⟨_, _, hr⟩⟩, ?_, ?_, ?_⟩
    · intro ns n h
      rw [hr] at h
      cases h
      obtain ⟨k, hk⟩ := (hmem pol).mp hp
      exact ⟨k, pol, hk, hd, hm, rfl, rfl⟩
    · rw [hr]
      simp [hD']
    · rw [hr]
      simp [hD']
  · -- no DENY policy matched: the ALLOW policies decide
    have hnd' : ¬∃ k p, applies k p ∧ p.action = .Deny ∧ p.matches conn = true :=
      fun h => hnd (hD.mp h)
    have hden : ∀ ns n, checkPolicies pols conn ≠ .error (.ExplicitlyDenied ns n) := by
      intro ns n h
      rw [hr] at h
      split at h <;> (try split at h) <;> cases h
    have hdenied_iff : (∃ ns n, checkPolicies pols conn = .error (.ExplicitlyDenied ns n)) ↔
        ∃ k p, applies k p ∧ p.action = .Deny ∧ p.matches conn = true :=
      ⟨fun ⟨ns, n, h⟩ => absurd h (hden ns n), fun h => absurd h hnd'⟩
    have hnames : ∀ ns n, checkPolicies pols conn = .error (.ExplicitlyDenied ns n) →
        ∃ k p, applies k p ∧ p.action = .Deny ∧ p.matches conn = true ∧
          p.namespace = ns ∧ p.name = n :=
      fun ns n h => absurd h (hden ns n)
    by_cases hA' : ∃ p ∈ pols, p.action = .Allow
    · by_cases hM' : ∃ p ∈ pols, p.action = .Allow ∧ p.matches conn = true
      · -- an ALLOW policy matched
        rw [if_pos hA', if_pos hM'] at hr
        refine ⟨hdenied_iff, hnames, ?_, ?_⟩
        · simp only [hr, true_iff]
          exact ⟨hnd', .inr (hM.mpr hM')⟩
        · simp only [hr, reduceCtorEq, false_iff]
          exact fun ⟨_, _, h⟩ => h (hM.mpr hM')
      · -- ALLOW policies apply and none matched
        rw [if_pos hA', if_neg hM'] at hr
        refine ⟨hdenied_iff, hnames, ?_, ?_⟩
        · simp only [hr, reduceCtorEq, false_iff]
          rintro ⟨-, hA'' | hM''⟩
          · exact hA'' (hA.mpr hA')
          · exact hM' (hM.mp hM'')
        · simp only [hr, true_iff]
          exact ⟨hnd', hA.mpr hA', fun h => hM' (hM.mp h)⟩
    · -- no ALLOW policy applies
      rw [if_neg hA'] at hr
      refine ⟨hdenied_iff, hnames, ?_, ?_⟩
      · simp only [hr, true_iff]
        exact ⟨hnd', .inl fun h => hA' (hA.mp h)⟩
      · simp only [hr, reduceCtorEq, false_iff]
        exact fun ⟨_, h, _⟩ => hA' (hA.mp h)

end Loops

-- ============================================================================
-- The policies consulted
-- ============================================================================

theorem scopeKey_consulted (p : Authorization) (ns : String) :
    (p.scopeKey = some ns ∨ p.scopeKey = some "") ↔
      p.scope = .Global ∨ (p.scope = .Namespace ∧ (p.namespace = ns ∨ p.namespace = "")) := by
  obtain ⟨name, pns, scope, action, rules⟩ := p
  cases scope <;> simp [Authorization.scopeKey]

/-- Over the index invariant, `assert_rbac` consults exactly `Consulted`. -/
theorem mem_rbacPolicies {ps : PolicyStore} (hi : ps.Inv) (wl : Workload) (p : Authorization) :
    p ∈ rbacPolicies ps wl ↔ ∃ k, Consulted ps wl k p := by
  unfold rbacPolicies Consulted
  simp only [List.mem_filterMap, List.mem_append, PolicyStore.mem_get_by_namespace,
    hi.index_iff]
  constructor
  · rintro ⟨k, hk, hg⟩
    refine ⟨k, hg, ?_⟩
    rw [← or_assoc, ← scopeKey_consulted]
    rcases hk with (⟨q, hq, hs⟩ | ⟨q, hq, hs⟩) | hk
    · rw [hg] at hq
      cases hq
      exact .inl (.inl hs)
    · rw [hg] at hq
      cases hq
      exact .inl (.inr hs)
    · exact .inr hk
  · rintro ⟨k, hg, hk⟩
    refine ⟨k, ?_, hg⟩
    rw [← or_assoc, ← scopeKey_consulted] at hk
    rcases hk with (hs | hs) | hk
    · exact .inl (.inl ⟨p, hg, hs⟩)
    · exact .inl (.inr ⟨p, hg, hs⟩)
    · exact .inr hk

section Verdicts

variable [IpNetContains]

theorem assert_rbac_verdict_of_inv {ps : PolicyStore} (hi : ps.Inv) (wl : Workload)
    (conn : Connection) :
    RbacVerdict (Consulted ps wl) conn (assert_rbac ps { conn := conn, dest_workload := wl }) :=
  checkPolicies_verdict _ (mem_rbacPolicies hi wl)

theorem assert_rbac_verdict (ops : List PolicyStore.Op) (wl : Workload) (conn : Connection) :
    RbacVerdict (Consulted (PolicyStore.run ops) wl) conn
      (assert_rbac (PolicyStore.run ops) { conn := conn, dest_workload := wl }) :=
  assert_rbac_verdict_of_inv (PolicyStore.inv_run ops) wl conn

end Verdicts

-- ============================================================================
-- A namespace-scoped policy of the empty namespace
-- ============================================================================

/-- A namespace-scoped DENY policy whose namespace is empty; its one rule
    has no clauses, so it matches every connection. -/
def denyAllEmptyNamespace : Authorization where
  name := "deny-all"
  «namespace» := ""
  scope := .Namespace
  action := .Deny
  rules := [[]]

/-- A workload of namespace `foo` naming no policy. -/
def fooWorkload : Workload where
  workload_ips := []
  waypoint := none
  network_gateway := none
  protocol := .TCP
  network_mode := .Standard
  uid := "foo-pod"
  name := "foo-pod"
  «namespace» := "foo"
  trust_domain := "cluster.local"
  service_account := "default"
  network := ""
  workload_name := ""
  workload_type := "pod"
  canonical_name := ""
  canonical_revision := ""
  hostname := ""
  node := ""
  native_tunnel := false
  application_tunnel := none
  authorization_policies := []
  status := .Healthy
  cluster_id := "Kubernetes"
  locality := ⟨"", "", ""⟩
  services := []
  capacity := 1

/-- A plaintext connection with no peer identity. -/
def anonymousConn : Connection where
  src := ⟨.V4 0x0a000002, 40000⟩
  dst := ⟨.V4 0x0a000001, 8080⟩
  src_identity := none
  dst_network := ""

/-- The store holding only that policy. -/
def denyAllStore : PolicyStore :=
  PolicyStore.run [.insert "ns/deny-all" denyAllEmptyNamespace]

/-- A store of one inserted policy holds that policy under its key and
    nothing else. -/
theorem get_run_insert (key : String) (rbac : Authorization) (k : String) (p : Authorization) :
    (PolicyStore.run [.insert key rbac]).get k = some p ↔ k = key ∧ p = rbac := by
  unfold PolicyStore.run
  simp only [List.foldl_cons, List.foldl_nil, PolicyStore.apply, PolicyStore.get_insert]
  split
  · rename_i hk
    simp [hk, eq_comm]
  · rename_i hk
    simp [PolicyStore.get, PolicyStore.default, hk]

theorem get_denyAllStore (k : String) (p : Authorization) :
    denyAllStore.get k = some p ↔ k = "ns/deny-all" ∧ p = denyAllEmptyNamespace :=
  get_run_insert _ _ k p

/-- The policy is filed under the global key, so `assert_rbac` denies a
    workload of namespace `foo` by it, though Istio applies no policy
    there: not global, not of namespace `foo`, not named by the workload. -/
theorem assert_rbac_empty_namespace_denies :
    assert_rbac denyAllStore { conn := anonymousConn, dest_workload := fooWorkload } =
      .error (.ExplicitlyDenied "" "deny-all") ∧
    ¬RbacVerdict (IstioApplies denyAllStore fooWorkload) anonymousConn
      (assert_rbac denyAllStore { conn := anonymousConn, dest_workload := fooWorkload }) := by
  -- the rule's one clause is empty, so no address is tested
  have hm : denyAllEmptyNamespace.matches anonymousConn = true := rfl
  have hmem : ∀ p, p ∈ rbacPolicies denyAllStore fooWorkload ↔ p = denyAllEmptyNamespace := by
    intro p
    have hi : denyAllStore.Inv := PolicyStore.inv_run _
    rw [mem_rbacPolicies hi]
    unfold Consulted
    simp only [get_denyAllStore]
    constructor
    · rintro ⟨k, ⟨-, rfl⟩, -⟩
      rfl
    · rintro rfl
      exact ⟨"ns/deny-all", ⟨rfl, rfl⟩, .inr (.inl ⟨rfl, .inr rfl⟩)⟩
  have hr : assert_rbac denyAllStore { conn := anonymousConn, dest_workload := fooWorkload } =
      .error (.ExplicitlyDenied "" "deny-all") := by
    rcases checkPolicies_cases (rbacPolicies denyAllStore fooWorkload) anonymousConn with
      ⟨pol, hp, -, -, hr⟩ | ⟨hnd, -⟩
    · rw [(hmem pol).mp hp] at hr
      exact hr
    · exact absurd ⟨_, (hmem _).mpr rfl, rfl, hm⟩ hnd
  refine ⟨hr, fun hv => ?_⟩
  -- Istio applies nothing here, so nothing may deny
  obtain ⟨k, p, ⟨hg, hs⟩, -⟩ := hv.denied_iff.mp ⟨_, _, hr⟩
  obtain ⟨-, rfl⟩ := (get_denyAllStore k p).mp hg
  simp [denyAllEmptyNamespace, fooWorkload] at hs

-- ============================================================================
-- Stores whose namespace-scoped policies name a namespace
-- ============================================================================

/-- On a store whose namespace-scoped policies all name a namespace, the
    consulted policies are Istio's, and so is the decision. -/
theorem assert_rbac_istio_of_named [IpNetContains] {ps : PolicyStore} (hi : ps.Inv)
    (hnamed : ∀ k p, ps.get k = some p → p.scope = .Namespace → p.namespace ≠ "")
    (wl : Workload) (conn : Connection) :
    RbacVerdict (IstioApplies ps wl) conn (assert_rbac ps { conn := conn, dest_workload := wl }) := by
  refine checkPolicies_verdict _ fun p => ?_
  rw [mem_rbacPolicies hi]
  -- the extra disjunct of `Consulted` is empty on such a store
  have h : ∀ k, Consulted ps wl k p ↔ IstioApplies ps wl k p := by
    intro k
    unfold Consulted IstioApplies
    constructor
    · rintro ⟨hg, hs | ⟨hs, hns | hns⟩ | hk⟩
      · exact ⟨hg, .inl hs⟩
      · exact ⟨hg, .inr (.inl ⟨hs, hns⟩)⟩
      · exact absurd hns (hnamed k p hg hs)
      · exact ⟨hg, .inr (.inr hk)⟩
    · rintro ⟨hg, hs | ⟨hs, hns⟩ | hk⟩
      · exact ⟨hg, .inl hs⟩
      · exact ⟨hg, .inr (.inl ⟨hs, .inl hns⟩)⟩
      · exact ⟨hg, .inr (.inr hk)⟩
  simp only [h]

/-- The deny-all policy of namespace `foo`. -/
def denyAllFoo : Authorization := { denyAllEmptyNamespace with «namespace» := "foo" }

def denyAllFooStore : PolicyStore :=
  PolicyStore.run [.insert "foo/deny-all" denyAllFoo]

theorem assert_rbac_istio_of_named_denyAllFooStore :
    denyAllFooStore.Inv ∧
      (∀ k p, denyAllFooStore.get k = some p → p.scope = .Namespace → p.namespace ≠ "") ∧
      RbacVerdict (IstioApplies denyAllFooStore fooWorkload) anonymousConn
        (assert_rbac denyAllFooStore { conn := anonymousConn, dest_workload := fooWorkload }) :=
  have hi : denyAllFooStore.Inv := PolicyStore.inv_run _
  have hnamed : ∀ k p, denyAllFooStore.get k = some p → p.scope = .Namespace →
      p.namespace ≠ "" := by
    intro k p hg _
    obtain ⟨-, rfl⟩ := (get_run_insert _ _ k p).mp hg
    decide
  ⟨hi, hnamed, assert_rbac_istio_of_named hi hnamed fooWorkload anonymousConn⟩

end Ztunnel
