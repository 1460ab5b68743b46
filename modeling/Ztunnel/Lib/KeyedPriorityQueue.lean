/-
  Ztunnel.Lib.KeyedPriorityQueue

  The `keyed_priority_queue` crate's `KeyedPriorityQueue<K, P>` as its
  documentation describes it: entries, at most one per key, each with a
  priority.  `push` adds an entry, or gives the key's entry the new
  priority; `remove` drops the key's entry; `get_priority` reads the key's
  priority; `peek` and `pop` read and take an entry of greatest priority,
  any one of several.

  The crate is not part of the model.  The class `KeyedPriorityQueue` is a
  queue type with the crate's operations and the laws its documentation
  states of them, over the entries its `iter` yields (`entries`), and a
  queue's users are proved for every instance.  `ListQueue` is one: a list
  of entries whose keys are distinct, whose `peek` takes the first entry of
  greatest priority, for running the users on concrete inputs.
-/

import Mathlib.Data.List.Nodup

namespace Ztunnel

/-- A keyed priority queue of type `Q`, of keys `K` and priorities `P`. -/
class KeyedPriorityQueue (Q : Type) (K P : outParam Type) [LT P] where
  new : Q
  /-- the entries, as `iter` yields them -/
  entries : Q → List (K × P)
  push : Q → K → P → Q
  remove : Q → K → Q
  get_priority : Q → K → Option P
  peek : Q → Option (K × P)
  pop : Q → Option ((K × P) × Q)
  entries_new : entries new = []
  /-- `push` adds the entry, in place of the key's entry if it has one -/
  mem_entries_push : ∀ q key priority e,
    e ∈ entries (push q key priority) ↔ e = (key, priority) ∨ (e ∈ entries q ∧ e.1 ≠ key)
  mem_entries_remove : ∀ q key e, e ∈ entries (remove q key) ↔ e ∈ entries q ∧ e.1 ≠ key
  get_priority_eq_some : ∀ q key priority,
    get_priority q key = some priority ↔ (key, priority) ∈ entries q
  /-- `peek` gives an entry of greatest priority, whenever there is an entry -/
  peek_mem : ∀ q e, peek q = some e → e ∈ entries q
  peek_max : ∀ q e, peek q = some e → ∀ x ∈ entries q, ¬e.2 < x.2
  peek_eq_none : ∀ q, peek q = none ↔ entries q = []
  /-- `pop` takes an entry of greatest priority and leaves the others -/
  pop_mem : ∀ q e q', pop q = some (e, q') → e ∈ entries q
  pop_max : ∀ q e q', pop q = some (e, q') → ∀ x ∈ entries q, ¬e.2 < x.2
  mem_entries_pop : ∀ q e q', pop q = some (e, q') →
    ∀ x, x ∈ entries q' ↔ x ∈ entries q ∧ x.1 ≠ e.1
  pop_eq_none : ∀ q, pop q = none ↔ entries q = []

namespace KeyedPriorityQueue

variable {Q K P : Type} [LT P] [KeyedPriorityQueue Q K P]

def keys (q : Q) : List K :=
  (entries q).map Prod.fst

theorem mem_keys_iff {q : Q} {key : K} : key ∈ keys q ↔ ∃ p, (key, p) ∈ entries q := by
  simp [keys]

@[simp] theorem keys_new : keys (new : Q) = [] := by
  simp [keys, entries_new]

theorem mem_keys_push (q : Q) (key k : K) (priority : P) :
    k ∈ keys (push q key priority) ↔ k = key ∨ k ∈ keys q := by
  simp only [mem_keys_iff, mem_entries_push, Prod.ext_iff]
  constructor
  · rintro ⟨p, ⟨hk, -⟩ | ⟨hp, -⟩⟩
    · exact .inl hk
    · exact .inr ⟨p, hp⟩
  · rintro (rfl | ⟨p, hp⟩)
    · exact ⟨priority, .inl ⟨rfl, rfl⟩⟩
    · by_cases hk : k = key
      · exact ⟨priority, .inl ⟨hk, rfl⟩⟩
      · exact ⟨p, .inr ⟨hp, hk⟩⟩

/-- The keys left when one key's entry is dropped and the others kept, as
    `remove` and `pop` do. -/
theorem mem_keys_of_drop {q q' : Q} {key : K}
    (h : ∀ e, e ∈ entries q' ↔ e ∈ entries q ∧ e.1 ≠ key) (k : K) :
    k ∈ keys q' ↔ k ≠ key ∧ k ∈ keys q := by
  simp only [mem_keys_iff, h]
  constructor
  · rintro ⟨p, hp, hk⟩
    exact ⟨hk, p, hp⟩
  · rintro ⟨hk, p, hp⟩
    exact ⟨p, hp, hk⟩

theorem mem_keys_remove (q : Q) (key k : K) :
    k ∈ keys (remove q key) ↔ k ≠ key ∧ k ∈ keys q :=
  mem_keys_of_drop (mem_entries_remove q key) k

/-- An entry after `push` was there, or is the one pushed. -/
theorem mem_entries_push_of_mem {q : Q} {key : K} {priority : P} {e : K × P}
    (h : e ∈ entries (push q key priority)) : e ∈ entries q ∨ e = (key, priority) := by
  rcases (mem_entries_push q key priority e).mp h with h | ⟨h, -⟩
  · exact .inr h
  · exact .inl h

theorem get_priority_isSome (q : Q) (key : K) :
    (get_priority q key).isSome ↔ key ∈ keys q := by
  rw [mem_keys_iff, Option.isSome_iff_exists]
  simp only [get_priority_eq_some]

theorem peek_isSome (q : Q) : (peek q).isSome ↔ keys q ≠ [] := by
  rw [Option.isSome_iff_ne_none, ne_eq, peek_eq_none, ne_eq, keys, List.map_eq_nil_iff]

theorem pop_isSome (q : Q) : (pop q).isSome ↔ (peek q).isSome := by
  rw [Option.isSome_iff_ne_none, Option.isSome_iff_ne_none, ne_eq, ne_eq, pop_eq_none,
    peek_eq_none]

theorem mem_keys_pop {q q' : Q} {e : K × P} (h : pop q = some (e, q')) (k : K) :
    k ∈ keys q' ↔ k ≠ e.1 ∧ k ∈ keys q :=
  mem_keys_of_drop (mem_entries_pop q e q' h) k

end KeyedPriorityQueue

-- ============================================================================
-- A list of entries
-- ============================================================================

/-- A queue as the list of its entries, whose keys are distinct. -/
structure ListQueue (K P : Type) where
  entries : List (K × P)
  keys_nodup : (entries.map Prod.fst).Nodup

namespace ListQueue

variable {K P : Type}

def new : ListQueue K P := ⟨[], List.nodup_nil⟩

section Peek

variable [LT P] [DecidableRel (α := P) (· < ·)]

/-- The greater of two candidates; the first on a tie. -/
def better (best : Option (K × P)) (e : K × P) : Option (K × P) :=
  match best with
  | none => some e
  | some b => if b.2 < e.2 then some e else some b

/-- The first entry of greatest priority. -/
def peek (q : ListQueue K P) : Option (K × P) :=
  q.entries.foldl better none

/-- The candidate of the fold of `peek` is its start or an entry of the
    list. -/
theorem foldl_better_mem (l : List (K × P)) :
    ∀ (best : Option (K × P)) (e : K × P), l.foldl better best = some e →
      best = some e ∨ e ∈ l := by
  induction l with
  | nil => simp
  | cons x l ih =>
    intro best e h
    rcases ih (better best x) e h with hb | hl
    · -- the candidate after `x` is the old one or `x`
      unfold better at hb
      split at hb
      · exact .inr (List.mem_cons.mpr (.inl (Option.some.inj hb).symm))
      · split at hb
        · exact .inr (List.mem_cons.mpr (.inl (Option.some.inj hb).symm))
        · exact .inl hb
    · exact .inr (List.mem_cons_of_mem x hl)

/-- The fold of `peek` has a candidate once it has seen an entry. -/
theorem foldl_better_isSome (l : List (K × P)) (best : Option (K × P)) :
    (l.foldl better best).isSome ↔ best.isSome ∨ l ≠ [] := by
  induction l generalizing best with
  | nil => simp
  | cons x l ih =>
    rw [List.foldl_cons, ih]
    have hsome : (better best x).isSome := by
      unfold better
      split
      · rfl
      · split <;> rfl
    simp [hsome]

theorem peek_mem {q : ListQueue K P} {e : K × P} (h : q.peek = some e) : e ∈ q.entries := by
  rcases foldl_better_mem q.entries none e h with h | h
  · cases h
  · exact h

theorem peek_eq_none (q : ListQueue K P) : q.peek = none ↔ q.entries = [] := by
  rw [← Option.not_isSome_iff_eq_none, peek, foldl_better_isSome]
  simp

/-- Under a strict order, the candidate the fold ends with is below no
    entry it has seen: it stays below none of what the start was below
    none of, and a candidate is replaced only by a greater one. -/
theorem foldl_better_max [IsStrictOrder P (· < ·)] (l : List (K × P)) :
    ∀ (best : Option (K × P)) (e : K × P), l.foldl better best = some e →
      (∀ b, best = some b → ∀ x : P, ¬b.2 < x → ¬e.2 < x) ∧ ∀ x ∈ l, ¬e.2 < x.2 := by
  induction l with
  | nil =>
    intro best e h
    refine ⟨fun b hb x hx => ?_, by simp⟩
    rw [List.foldl_nil, hb] at h
    exact Option.some.inj h ▸ hx
  | cons y l ih =>
    intro best e h
    obtain ⟨ih_start, ih_rest⟩ := ih (better best y) e h
    -- the candidate after `y`, below none of `y` and of what `best` was below none of
    obtain ⟨b', hb', hy, hkeep⟩ : ∃ b', better best y = some b' ∧ ¬b'.2 < y.2 ∧
        ∀ b, best = some b → ∀ x : P, ¬b.2 < x → ¬b'.2 < x := by
      cases best with
      | none => exact ⟨y, rfl, irrefl _, by simp⟩
      | some b =>
        by_cases hby : b.2 < y.2
        · refine ⟨y, by simp [better, hby], irrefl _, ?_⟩
          rintro b₀ hb₀ x hx hyx
          cases hb₀
          exact hx (IsTrans.trans _ _ _ hby hyx)
        · refine ⟨b, by simp [better, hby], hby, ?_⟩
          rintro b₀ hb₀ x hx
          cases hb₀
          exact hx
    refine ⟨fun b hb x hx => ih_start b' hb' x (hkeep b hb x hx), ?_⟩
    intro x hx
    rcases List.mem_cons.mp hx with rfl | hx
    · exact ih_start b' hb' _ hy
    · exact ih_rest x hx

/-- `peek` gives an entry below no other. -/
theorem peek_max [IsStrictOrder P (· < ·)] {q : ListQueue K P} {e : K × P}
    (h : q.peek = some e) : ∀ x ∈ q.entries, ¬e.2 < x.2 :=
  (foldl_better_max q.entries none e h).2

end Peek

section Keyed

variable [DecidableEq K]

def keys (q : ListQueue K P) : List K :=
  q.entries.map Prod.fst

def get_priority (q : ListQueue K P) (key : K) : Option P :=
  (q.entries.find? fun e => e.1 = key).map Prod.snd

/-- Replacing the priority of a key's entries keeps every key. -/
theorem keys_map_reprioritize (l : List (K × P)) (key : K) (priority : P) :
    (l.map fun e => if e.1 = key then (key, priority) else e).map Prod.fst = l.map Prod.fst := by
  rw [List.map_map]
  apply List.map_congr_left
  intro e _
  by_cases h : e.1 = key <;> simp [h]

def push (q : ListQueue K P) (key : K) (priority : P) : ListQueue K P :=
  if h : key ∈ q.keys then
    ⟨q.entries.map fun e => if e.1 = key then (key, priority) else e,
      (keys_map_reprioritize q.entries key priority).symm ▸ q.keys_nodup⟩
  else
    ⟨q.entries ++ [(key, priority)], by
      rw [List.map_append, List.nodup_append]
      refine ⟨q.keys_nodup, List.nodup_singleton _, ?_⟩
      intro a ha b hb hab
      rw [List.map_singleton, List.mem_singleton] at hb
      rw [hab, hb] at ha
      exact h ha⟩

def remove (q : ListQueue K P) (key : K) : ListQueue K P :=
  ⟨q.entries.filter fun e => e.1 ≠ key,
    q.keys_nodup.sublist (List.Sublist.map Prod.fst List.filter_sublist)⟩

def pop [LT P] [DecidableRel (α := P) (· < ·)] (q : ListQueue K P) :
    Option ((K × P) × ListQueue K P) :=
  match q.peek with
  | none => none
  | some e => some (e, q.remove e.1)

theorem mem_entries_push (q : ListQueue K P) (key : K) (priority : P) (e : K × P) :
    e ∈ (q.push key priority).entries ↔ e = (key, priority) ∨ (e ∈ q.entries ∧ e.1 ≠ key) := by
  unfold push
  split
  · -- the key's entry is given the new priority
    rename_i h
    obtain ⟨x, hx, hkey⟩ : ∃ x ∈ q.entries, x.1 = key := by simpa [keys] using h
    simp only [List.mem_map]
    constructor
    · rintro ⟨y, hy, rfl⟩
      by_cases hk : y.1 = key
      · exact .inl (by simp [hk])
      · refine .inr ?_
        simp only [hk, if_false]
        exact ⟨hy, hk⟩
    · rintro (rfl | ⟨he, hk⟩)
      · exact ⟨x, hx, by simp [hkey]⟩
      · exact ⟨e, he, by simp [hk]⟩
  · -- a new key is appended
    rename_i h
    have hne : ∀ y ∈ q.entries, y.1 ≠ key := fun y hy hk => h (by simpa [keys, ← hk] using
      ⟨y.2, hy⟩)
    simp only [List.mem_append, List.mem_singleton]
    constructor
    · rintro (he | rfl)
      · exact .inr ⟨he, hne e he⟩
      · exact .inl rfl
    · rintro (rfl | ⟨he, -⟩)
      · exact .inr rfl
      · exact .inl he

theorem mem_entries_remove (q : ListQueue K P) (key : K) (e : K × P) :
    e ∈ (q.remove key).entries ↔ e ∈ q.entries ∧ e.1 ≠ key := by
  simp [remove]

theorem get_priority_eq_some (q : ListQueue K P) (key : K) (priority : P) :
    q.get_priority key = some priority ↔ (key, priority) ∈ q.entries := by
  unfold get_priority
  constructor
  · rw [Option.map_eq_some_iff]
    rintro ⟨e, he, rfl⟩
    have hkey : e.1 = key := by simpa using List.find?_some he
    rw [← hkey]
    exact List.mem_of_find?_eq_some he
  · intro hmem
    -- the entry found has the key, and the key has one entry
    obtain ⟨e, he⟩ : ∃ e, q.entries.find? (fun e => e.1 = key) = some e := by
      cases hf : q.entries.find? (fun e => e.1 = key) with
      | some e => exact ⟨e, rfl⟩
      | none => exact (List.find?_eq_none.mp hf _ hmem (by simp)).elim
    have hkey : e.1 = key := by simpa using List.find?_some he
    have heq : e = (key, priority) :=
      List.inj_on_of_nodup_map q.keys_nodup (List.mem_of_find?_eq_some he) hmem hkey
    rw [he, heq]
    rfl

variable [LT P] [DecidableRel (α := P) (· < ·)]

theorem pop_eq_some {q q' : ListQueue K P} {e : K × P}
    (h : q.pop = some (e, q')) : q.peek = some e ∧ q' = q.remove e.1 := by
  unfold pop at h
  split at h
  · cases h
  · rename_i e' he'
    cases h
    exact ⟨he', rfl⟩

theorem pop_eq_none (q : ListQueue K P) : q.pop = none ↔ q.entries = [] := by
  rw [← peek_eq_none]
  unfold pop
  split <;> simp_all

/-- The crate's laws hold of the list: it is a keyed priority queue. -/
instance [IsStrictOrder P (· < ·)] : KeyedPriorityQueue (ListQueue K P) K P where
  new := new
  entries := entries
  push := push
  remove := remove
  get_priority := get_priority
  peek := peek
  pop := pop
  entries_new := rfl
  mem_entries_push := mem_entries_push
  mem_entries_remove := mem_entries_remove
  get_priority_eq_some := get_priority_eq_some
  peek_mem _ _ := peek_mem
  peek_max _ _ := peek_max
  peek_eq_none := peek_eq_none
  pop_mem _ _ _ h := peek_mem (pop_eq_some h).1
  pop_max _ _ _ h := peek_max (pop_eq_some h).1
  mem_entries_pop _ _ _ h x := by
    rw [(pop_eq_some h).2]
    exact mem_entries_remove _ _ x
  pop_eq_none := pop_eq_none

end Keyed

end ListQueue

end Ztunnel
