/-
  Ztunnel.State.Policy

  The policy store (src/state/policy.rs): policies by xDS name in `by_key`,
  and the secondary index `by_namespace` from a namespace (or `""` for the
  global ones) to the names of the policies filed under it.  Policies bound
  by workload selector are not indexed: a workload names them itself.

  The index stays in step with `by_key` over every run of `insert`,
  `remove` and `clear_all_policies`: a name is filed under a key exactly
  when it names a stored policy whose scope maps to that key (`scopeKey`).
  `insert` removes first, so a policy re-inserted with another scope or
  namespace leaves no stale entry behind.

  A `HashSet` is iterated in an order the program does not fix; the model
  lists it sorted, and the results below use only membership.
-/

import Ztunnel.Rbac.Authorization
import Mathlib.Data.Finset.Sort
import Mathlib.Data.String.Basic

namespace Ztunnel

open HashMap

structure PolicyStore where
  by_key : HashMap String Authorization
  by_namespace : HashMap String (HashSet String)

namespace PolicyStore

def default : PolicyStore := { by_key := ∅, by_namespace := ∅ }

def get (self : PolicyStore) (key : String) : Option Authorization :=
  self.by_key.lookup key

def get_by_namespace (self : PolicyStore) (ns : String) : List String :=
  ((self.by_namespace.lookup ns).map fun set => set.sort (· ≤ ·)).getD []

def remove (self : PolicyStore) (xds_name : String) : PolicyStore :=
  match self.by_key.lookup xds_name with
  | none => self
  | some rbac =>
    let by_key := self.by_key.erase xds_name
    let key := match rbac.scope with
      | .Global => some ""
      | .Namespace => some rbac.namespace
      | .WorkloadSelector => none
    match key with
    | none => { self with by_key := by_key }
    | some key =>
      match self.by_namespace.lookup key with
      | none => { self with by_key := by_key }
      | some pl =>
        -- the set loses the name, and the key goes with the last one
        let pl := pl.erase xds_name
        { by_key := by_key,
          by_namespace :=
            if pl = ∅ then self.by_namespace.erase key else self.by_namespace.insert key pl }

def insert (self : PolicyStore) (xds_name : String) (rbac : Authorization) : PolicyStore :=
  let self := self.remove xds_name
  let by_namespace :=
    match rbac.scope with
    | .Global => self.by_namespace.upsert "" fun pl => Insert.insert xds_name (pl.getD ∅)
    | .Namespace =>
      self.by_namespace.upsert rbac.namespace fun pl => Insert.insert xds_name (pl.getD ∅)
    | .WorkloadSelector => self.by_namespace
  { by_key := self.by_key.insert xds_name rbac, by_namespace := by_namespace }

def clear_all_policies (_self : PolicyStore) : PolicyStore :=
  { by_key := ∅, by_namespace := ∅ }

/-- The store's mutating entry points. -/
inductive Op where
  | insert (xds_name : String) (rbac : Authorization)
  | remove (xds_name : String)
  | clear_all_policies

def apply (self : PolicyStore) : Op → PolicyStore
  | .insert xds_name rbac => self.insert xds_name rbac
  | .remove xds_name => self.remove xds_name
  | .clear_all_policies => self.clear_all_policies

/-- The store after a run of operations from `PolicyStore::default()`. -/
def run (ops : List Op) : PolicyStore :=
  ops.foldl apply default

-- ============================================================================
-- The index
-- ============================================================================

end PolicyStore

/-- The `by_namespace` key a policy is filed under: `""` for a global
    policy, its namespace for a namespace-scoped one, none for one bound by
    workload selector. -/
def Authorization.scopeKey (p : Authorization) : Option String :=
  match p.scope with
  | .Global => some ""
  | .Namespace => some p.namespace
  | .WorkloadSelector => none

namespace PolicyStore

/-- The names filed under a key (none when the key is vacant). -/
def nsSlot (ps : PolicyStore) (k : String) : HashSet String :=
  (ps.by_namespace.lookup k).getD ∅

theorem mem_get_by_namespace (ps : PolicyStore) (k name : String) :
    name ∈ ps.get_by_namespace k ↔ name ∈ ps.nsSlot k := by
  unfold get_by_namespace nsSlot
  cases ps.by_namespace.lookup k <;> simp

theorem get_remove (ps : PolicyStore) (n k : String) :
    (ps.remove n).get k = if k = n then none else ps.get k := by
  unfold get
  rw [← lookup_erase_eq]
  unfold remove
  cases hl : ps.by_key.lookup n with
  | none =>
    -- an unknown name: `by_key` already lacks it
    dsimp only
    rw [lookup_erase_eq]
    split
    · rename_i hk
      rw [hk, hl]
    · rfl
  | some rbac =>
    -- every branch erases the name from `by_key`
    dsimp only
    repeat' split
    all_goals rfl

/-- The slot step of `remove`: the set at `key` loses the name, and the key
    goes when the set empties. -/
private theorem slot_erase (ps : PolicyStore) (by_key : HashMap String Authorization)
    (n key k : String) :
    (((match ps.by_namespace.lookup key with
      | none => { ps with by_key := by_key }
      | some pl =>
        { by_key := by_key,
          by_namespace := if pl.erase n = ∅ then ps.by_namespace.erase key
            else ps.by_namespace.insert key (pl.erase n) } : PolicyStore).by_namespace.lookup k).getD ∅) =
      if some key = some k then ((ps.by_namespace.lookup k).getD ∅).erase n
      else (ps.by_namespace.lookup k).getD ∅ := by
  by_cases hk : key = k
  · subst hk
    cases hp : ps.by_namespace.lookup key with
    | none => simp [hp]
    | some pl =>
      simp only [if_true]
      split
      · rename_i he
        simp [he]
      · simp
  · have hk' : k ≠ key := Ne.symm hk
    cases ps.by_namespace.lookup key with
    | none => simp [hk]
    | some pl =>
      simp only [Option.some.injEq, hk, if_false]
      split
      · simp [hk']
      · simp [hk']

/-- `remove` takes the name out of the slot its policy was filed under. -/
theorem nsSlot_remove (ps : PolicyStore) (n k : String) :
    (ps.remove n).nsSlot k =
      if (ps.get n).bind Authorization.scopeKey = some k then (ps.nsSlot k).erase n
      else ps.nsSlot k := by
  unfold remove nsSlot get
  cases hl : ps.by_key.lookup n with
  | none => simp
  | some rbac =>
    obtain ⟨name, ns, scope, action, rules⟩ := rbac
    simp only [Option.bind_some, Authorization.scopeKey]
    cases scope with
    | WorkloadSelector => simp
    | Global => exact slot_erase ps _ n "" k
    | Namespace => exact slot_erase ps _ n ns k

/-- `insert` files the name under its policy's key, after the removal. -/
theorem nsSlot_insert (ps : PolicyStore) (n k : String) (rbac : Authorization) :
    (ps.insert n rbac).nsSlot k =
      if rbac.scopeKey = some k then Insert.insert n ((ps.remove n).nsSlot k)
      else (ps.remove n).nsSlot k := by
  unfold insert nsSlot Authorization.scopeKey
  cases rbac.scope with
  | Global =>
    simp only [Option.some.injEq, lookup_upsert]
    by_cases hk : k = ""
    · subst hk
      simp
    · simp [hk, Ne.symm hk]
  | Namespace =>
    simp only [Option.some.injEq, lookup_upsert]
    by_cases hk : k = rbac.namespace
    · subst hk
      simp
    · simp [hk, Ne.symm hk]
  | WorkloadSelector => simp

theorem get_insert (ps : PolicyStore) (n k : String) (rbac : Authorization) :
    (ps.insert n rbac).get k = if k = n then some rbac else ps.get k := by
  have h : (ps.insert n rbac).get k = if k = n then some rbac else (ps.remove n).get k :=
    lookup_insert_eq _ _ _ _
  rw [h, get_remove]
  split <;> rfl

/-- The index invariant: a name is filed under a key exactly when it names
    a stored policy whose scope maps to that key. -/
structure Inv (ps : PolicyStore) : Prop where
  index_iff : ∀ k name, name ∈ ps.nsSlot k ↔ ∃ p, ps.get name = some p ∧ p.scopeKey = some k

theorem inv_default : Inv default where
  index_iff := by simp [nsSlot, get, default]

theorem inv_clear_all_policies (ps : PolicyStore) : Inv ps.clear_all_policies where
  index_iff := by simp [nsSlot, get, clear_all_policies]

section Preservation

variable {ps : PolicyStore}

/-- Under the invariant a name sits in its own policy's slot only, so
    `remove` erases it from every slot. -/
theorem Inv.nsSlot_remove (hi : Inv ps) (n k : String) :
    (ps.remove n).nsSlot k = (ps.nsSlot k).erase n := by
  rw [PolicyStore.nsSlot_remove]
  split
  · rfl
  · rename_i hne
    refine (Finset.erase_eq_of_notMem fun hn => hne ?_).symm
    obtain ⟨p, hp, hk⟩ := (hi.index_iff k n).mp hn
    simp [hp, hk]

theorem Inv.remove (hi : Inv ps) (n : String) : Inv (ps.remove n) where
  index_iff k name := by
    rw [hi.nsSlot_remove, Finset.mem_erase, get_remove, hi.index_iff]
    by_cases hn : name = n <;> simp [hn]

theorem Inv.insert (hi : Inv ps) (n : String) (rbac : Authorization) :
    Inv (ps.insert n rbac) where
  index_iff k name := by
    rw [nsSlot_insert, get_insert]
    have hr := (hi.remove n).index_iff k name
    rw [get_remove] at hr
    by_cases hn : name = n
    · subst hn
      split <;> simp_all
    · split <;> simp_all

theorem Inv.apply (hi : Inv ps) (op : Op) : Inv (ps.apply op) := by
  cases op with
  | insert xds_name rbac => exact hi.insert xds_name rbac
  | remove xds_name => exact hi.remove xds_name
  | clear_all_policies => exact inv_clear_all_policies ps

end Preservation

theorem inv_run (ops : List Op) : Inv (run ops) := by
  unfold run
  exact List.foldlRecOn (motive := Inv) _ _ inv_default fun _ hi op _ => hi.apply op

end PolicyStore

end Ztunnel
