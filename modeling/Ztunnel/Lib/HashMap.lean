/-
  Ztunnel.Lib.HashMap

  Finite maps and sets in the shape the Rust standard library's `HashMap`
  and `HashSet` are used: a map is Mathlib's association list `AList` over a
  constant value family, a set is a `Finset`.  Only lookups are ever
  observed by the modelled code, so the order of an association list is an
  iteration order the program may see, never a fact the proofs rely on.

  Two operations are added here: `upsert`, the shape of every
  `entry(k).and_modify(..).or_insert(..)` and `entry(k).or_default()`
  chain, where the new value at `k` is computed from the old lookup; and
  `retain`, which keeps the entries whose key passes a test (`retain`, and
  what `extract_if` leaves behind).
-/

import Mathlib.Data.List.AList
import Mathlib.Data.Finset.Basic

namespace Ztunnel

/-- A Rust `HashMap K V`: an association list with one entry per key. -/
abbrev HashMap (K V : Type) := AList (fun _ : K => V)

/-- A Rust `HashSet K`. -/
abbrev HashSet (K : Type) := Finset K

namespace HashMap

variable {K V : Type} [DecidableEq K]

/-- Rewrite the slot at `k` from its previous content (`none` when vacant). -/
def upsert (k : K) (f : Option V → V) (m : HashMap K V) : HashMap K V :=
  m.insert k (f (m.lookup k))

/-- Lookup after an insert, by cases on the key. -/
theorem lookup_insert_eq (m : HashMap K V) (k k' : K) (v : V) :
    (m.insert k v).lookup k' = if k' = k then some v else m.lookup k' := by
  by_cases h : k' = k
  · subst h
    simp [AList.lookup_insert]
  · rw [if_neg h, AList.lookup_insert_ne h]

/-- Lookup after an erase, by cases on the key. -/
theorem lookup_erase_eq (m : HashMap K V) (k k' : K) :
    (m.erase k).lookup k' = if k' = k then none else m.lookup k' := by
  by_cases h : k' = k
  · subst h
    simp [AList.lookup_erase]
  · rw [if_neg h, AList.lookup_erase_ne h]

/-- A key has an entry after an erase exactly when it is another key that
    had one. -/
theorem isSome_lookup_erase (m : HashMap K V) (k k' : K) :
    ((m.erase k).lookup k').isSome ↔ k' ≠ k ∧ (m.lookup k').isSome := by
  rw [lookup_erase_eq]
  by_cases h : k' = k <;> simp [h]

/-- Overwriting the value of a key that has one keeps the set of keys. -/
theorem isSome_lookup_insert_of_isSome {m : HashMap K V} {k : K} (hk : (m.lookup k).isSome)
    (v : V) (k' : K) : ((m.insert k v).lookup k').isSome = (m.lookup k').isSome := by
  rw [lookup_insert_eq]
  by_cases h : k' = k
  · subst h
    simp [hk]
  · simp [h]

/-- What an insert looks up: the new value at its key, the old ones
    elsewhere. -/
theorem lookup_insert_eq_some {m : HashMap K V} {k k' : K} {v v' : V} :
    (m.insert k v).lookup k' = some v' ↔ (k' = k ∧ v' = v) ∨ (k' ≠ k ∧ m.lookup k' = some v') := by
  rw [lookup_insert_eq]
  by_cases h : k' = k <;> simp [h, eq_comm]

theorem lookup_erase_eq_some {m : HashMap K V} {k k' : K} {v : V} :
    (m.erase k).lookup k' = some v ↔ k' ≠ k ∧ m.lookup k' = some v := by
  rw [lookup_erase_eq]
  by_cases h : k' = k <;> simp [h]

theorem lookup_upsert (m : HashMap K V) (k k' : K) (f : Option V → V) :
    (m.upsert k f).lookup k' = if k' = k then some (f (m.lookup k)) else m.lookup k' :=
  lookup_insert_eq m k k' _

@[simp] theorem lookup_upsert_self (m : HashMap K V) (k : K) (f : Option V → V) :
    (m.upsert k f).lookup k = some (f (m.lookup k)) := by
  simp [lookup_upsert]

theorem lookup_upsert_ne (m : HashMap K V) {k k' : K} (f : Option V → V) (h : k' ≠ k) :
    (m.upsert k f).lookup k' = m.lookup k' := by
  simp [lookup_upsert, h]

@[simp] theorem lookup_empty (k : K) : (∅ : HashMap K V).lookup k = none :=
  AList.lookup_empty k

/-- A map with no entries has nothing under any key. -/
theorem lookup_of_entries_isEmpty {m : HashMap K V} (h : m.entries.isEmpty = true) (k : K) :
    m.lookup k = none := by
  rw [AList.lookup_eq_none, AList.mem_keys, AList.keys, List.isEmpty_iff.mp h]
  simp

/-- Inserting one value under every key of a list. -/
theorem lookup_foldl_insert (ks : List K) (v : V) (m : HashMap K V) (k : K) :
    (ks.foldl (fun m k' => m.insert k' v) m).lookup k = if k ∈ ks then some v else m.lookup k := by
  induction ks generalizing m with
  | nil => simp
  | cons k' ks ih =>
    rw [List.foldl_cons, ih, lookup_insert_eq]
    by_cases hk : k = k' <;> by_cases hks : k ∈ ks <;> simp [hk, hks]

/-- Erasing every key of a list. -/
theorem lookup_foldl_erase (ks : List K) (m : HashMap K V) (k : K) :
    (ks.foldl (fun m k' => m.erase k') m).lookup k = if k ∈ ks then none else m.lookup k := by
  induction ks generalizing m with
  | nil => simp
  | cons k' ks ih =>
    rw [List.foldl_cons, ih, lookup_erase_eq]
    by_cases hk : k = k' <;> by_cases hks : k ∈ ks <;> simp [hk, hks]

/-- Inserting the entries of a key-unique list that pass a test on the
    value. -/
theorem lookup_foldl_insert_if (l : List (Σ _ : K, V)) (hl : l.NodupKeys) (p : V → Bool)
    (m : HashMap K V) (k : K) :
    (l.foldl (fun m e => if p e.2 then m.insert e.1 e.2 else m) m).lookup k =
      match l.dlookup k with
      | some v => if p v then some v else m.lookup k
      | none => m.lookup k := by
  induction l generalizing m with
  | nil => simp
  | cons e l ih =>
    obtain ⟨a, v⟩ := e
    obtain ⟨ha, hnd⟩ := List.nodupKeys_cons.mp hl
    rw [List.foldl_cons, ih hnd]
    by_cases hk : k = a
    · -- the head's key occurs nowhere else in the list
      subst hk
      rw [List.dlookup_eq_none.mpr ha, List.dlookup_cons_eq]
      by_cases hp : p v <;> simp [hp]
    · -- the head's insert does not touch another key
      have hins : ∀ m : HashMap K V, (if p v then m.insert a v else m).lookup k = m.lookup k := by
        intro m
        split <;> simp [hk]
      rw [List.dlookup_cons_ne _ _ hk]
      cases l.dlookup k <;> simp only [hins]

/-- Counting the entries that pass a test across an erase: the erased
    entry's share comes off. -/
theorem countP_erase_of_lookup (m : HashMap K V) {k : K} {v : V} (h : m.lookup k = some v)
    (p : K → V → Bool) :
    (m.erase k).entries.countP (fun e => p e.1 e.2) + (if p k v then 1 else 0) =
      m.entries.countP (fun e => p e.1 e.2) := by
  have hk : k ∈ m.entries.keys := AList.mem_keys.mpr (AList.lookup_isSome.mp (by simp [h]))
  obtain ⟨b, l₁, l₂, -, hsplit, hkerase⟩ := List.exists_of_kerase hk
  -- the entry split out is the one the lookup finds
  have hb : b = v := by
    have hmem : (⟨k, b⟩ : Σ _ : K, V) ∈ m.entries := by simp [hsplit]
    have hl := List.mem_dlookup m.nodupKeys hmem
    exact Option.some.inj (hl.symm.trans h)
  subst hb
  change (m.entries.kerase k).countP _ + _ = _
  rw [hkerase, hsplit]
  simp only [List.countP_append, List.countP_cons]
  omega

/-- Erasing a key with no entry counts the same. -/
theorem countP_erase_of_lookup_none (m : HashMap K V) {k : K} (h : m.lookup k = none)
    (p : K → V → Bool) :
    (m.erase k).entries.countP (fun e => p e.1 e.2) = m.entries.countP (fun e => p e.1 e.2) := by
  change (m.entries.kerase k).countP _ = _
  rw [List.kerase_of_notMem_keys (AList.lookup_eq_none.mp h)]

/-- Counting across an insert: the old entry goes, the new one comes. -/
theorem countP_insert (m : HashMap K V) (k : K) (v : V) (p : K → V → Bool) :
    (m.insert k v).entries.countP (fun e => p e.1 e.2) =
      (m.erase k).entries.countP (fun e => p e.1 e.2) + (if p k v then 1 else 0) := by
  rw [AList.entries_insert, List.countP_cons]
  rfl

/-- Keep the entries whose key passes `p`. -/
def retain (p : K → Bool) (m : HashMap K V) : HashMap K V :=
  ⟨m.entries.filter fun e => p e.1, m.nodupKeys.sublist List.filter_sublist⟩

theorem lookup_retain (p : K → Bool) (m : HashMap K V) (k : K) :
    (m.retain p).lookup k = if p k then m.lookup k else none := by
  apply Option.ext
  intro v
  change v ∈ (m.retain p).lookup k ↔ _
  rw [AList.mem_lookup_iff]
  simp only [retain, List.mem_filter]
  by_cases hp : p k
  · rw [if_pos hp]
    change _ ↔ v ∈ m.lookup k
    rw [AList.mem_lookup_iff]
    simp [hp]
  · simp [hp]

end HashMap

end Ztunnel
