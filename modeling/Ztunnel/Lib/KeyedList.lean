/-
  Ztunnel.Lib.KeyedList

  Lists whose elements carry a key that is unique among them
  (`(l.map key).Nodup`): a Rust `Vec` searched by `iter().find(..)` and
  edited by `remove(i)` at the first match.  Under uniqueness the first
  element of a key is the only one, so `find?` and `eraseP` are described
  by membership alone.
-/

import Mathlib.Data.List.Nodup

namespace Ztunnel

namespace KeyedList

variable {α β : Type} [DecidableEq β] (key : α → β)

theorem find?_key_eq_none_iff (l : List α) (k : β) :
    l.find? (fun x => key x == k) = none ↔ ∀ x ∈ l, key x ≠ k := by
  simp

theorem find?_key_eq_some_iff {l : List α} (hnd : (l.map key).Nodup) (k : β) (x : α) :
    l.find? (fun y => key y == k) = some x ↔ x ∈ l ∧ key x = k := by
  constructor
  · intro h
    exact ⟨List.mem_of_find?_eq_some h, by simpa using List.find?_some h⟩
  · rintro ⟨hx, hk⟩
    cases hf : l.find? (fun y => key y == k) with
    | none =>
      rw [find?_key_eq_none_iff] at hf
      exact absurd hk (hf x hx)
    | some y =>
      -- the first element of the key is the only one
      have hy := List.mem_of_find?_eq_some hf
      have hky : key y = k := by simpa using List.find?_some hf
      rw [List.inj_on_of_nodup_map hnd hy hx (hky.trans hk.symm)]

theorem mem_eraseP_key {l : List α} (hnd : (l.map key).Nodup) (k : β) (x : α) :
    x ∈ l.eraseP (fun y => key y == k) ↔ x ∈ l ∧ key x ≠ k := by
  induction l with
  | nil => simp
  | cons a l ih =>
    have hnd' : (l.map key).Nodup := (List.nodup_cons.mp (by simpa using hnd)).2
    have ha : key a ∉ l.map key := (List.nodup_cons.mp (by simpa using hnd)).1
    rw [List.eraseP_cons]
    by_cases hak : key a = k
    · -- the head is the element of key `k`; no other element has it
      simp only [hak, beq_self_eq_true, cond_true, List.mem_cons]
      constructor
      · intro hx
        refine ⟨.inr hx, ?_⟩
        rintro rfl
        exact ha (hak ▸ List.mem_map_of_mem hx)
      · rintro ⟨rfl | hx, hne⟩
        · exact absurd hak hne
        · exact hx
    · simp only [beq_eq_false_iff_ne.mpr hak, cond_false, List.mem_cons, ih hnd']
      constructor
      · rintro (rfl | ⟨hx, hne⟩)
        · exact ⟨.inl rfl, hak⟩
        · exact ⟨.inr hx, hne⟩
      · rintro ⟨rfl | hx, hne⟩
        · exact .inl rfl
        · exact .inr ⟨hx, hne⟩

omit [DecidableEq β] in
theorem nodup_map_eraseP {l : List α} (hnd : (l.map key).Nodup) (p : α → Bool) :
    ((l.eraseP p).map key).Nodup :=
  hnd.sublist (List.eraseP_sublist.map key)

end KeyedList

end Ztunnel
