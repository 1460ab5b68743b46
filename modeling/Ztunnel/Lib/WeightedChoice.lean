/-
  Ztunnel.Lib.WeightedChoice

  A weighted random choice from a list, as `SliceRandom::choose_weighted`
  of the rand crate documents it: the element it returns has a positive
  weight, and it fails only when no element has one (an empty list, or all
  weights zero).  The random generator is not modelled; a `WeightedChoice`
  is one way the choices can fall, and a statement over every
  `WeightedChoice` is a statement over every outcome.  `exists_choice`
  says that each element of positive weight is an outcome.

  Weights are `Nat`: the sum cannot overflow.

  A shuffle, `SliceRandom::shuffle` of the same crate, is likewise any
  permutation of the list: a `Shuffle` is one way it can fall.
-/

import Mathlib.Data.List.Basic

namespace Ztunnel

structure WeightedChoice (α : Type) where
  choose_weighted : List α → (α → Nat) → Option α
  mem_of_choose : ∀ l w x, choose_weighted l w = some x → x ∈ l ∧ 0 < w x
  isSome_of_pos : ∀ l w x, x ∈ l → 0 < w x → (choose_weighted l w).isSome

namespace WeightedChoice

variable {α : Type} (rng : WeightedChoice α) (l : List α) (w : α → Nat)

/-- The choice that always falls on the first element of positive weight. -/
def first : WeightedChoice α where
  choose_weighted l w := l.find? fun x => 0 < w x
  mem_of_choose l w x h := ⟨List.mem_of_find?_eq_some h, by simpa using List.find?_some h⟩
  isSome_of_pos l w x hx hw := by
    rw [List.find?_isSome]
    exact ⟨x, hx, by simpa using hw⟩

theorem choose_weighted_eq_none_iff :
    rng.choose_weighted l w = none ↔ ∀ x ∈ l, w x = 0 := by
  constructor
  · intro h x hx
    by_contra hw
    have := rng.isSome_of_pos l w x hx (Nat.pos_of_ne_zero hw)
    rw [h] at this
    exact absurd this (by simp)
  · intro h
    cases hc : rng.choose_weighted l w with
    | none => rfl
    | some x =>
      have hx := rng.mem_of_choose l w x hc
      exact absurd (h x hx.1) (Nat.pos_iff_ne_zero.mp hx.2)

/-- From one element of positive weight, the choice is that element. -/
theorem choose_weighted_singleton {x : α} (hw : 0 < w x) : rng.choose_weighted [x] w = some x := by
  obtain ⟨y, hy⟩ := Option.isSome_iff_exists.mp (rng.isSome_of_pos [x] w x List.mem_cons_self hw)
  have hyx := List.mem_singleton.mp (rng.mem_of_choose [x] w y hy).1
  rw [hy, hyx]

/-- Every element of positive weight is an outcome of some choice. -/
theorem exists_choice [DecidableEq α] {x : α} (hx : x ∈ l) (hw : 0 < w x) :
    ∃ rng : WeightedChoice α, rng.choose_weighted l w = some x := by
  let prefer : WeightedChoice α :=
    { choose_weighted := fun l' w' =>
        if x ∈ l' ∧ 0 < w' x then some x else first.choose_weighted l' w'
      mem_of_choose := fun l' w' y h => by
        split at h
        · cases h
          assumption
        · exact first.mem_of_choose l' w' y h
      isSome_of_pos := fun l' w' y hy hwy => by
        split
        · rfl
        · exact first.isSome_of_pos l' w' y hy hwy }
  exact ⟨prefer, if_pos ⟨hx, hw⟩⟩

end WeightedChoice

structure Shuffle (α : Type) where
  shuffle : List α → List α
  perm : ∀ l, (shuffle l).Perm l

namespace Shuffle

variable {α : Type}

/-- The shuffle that leaves the order as it is. -/
def id : Shuffle α := ⟨fun l => l, fun l => List.Perm.refl l⟩

theorem mem_shuffle (s : Shuffle α) {l : List α} {x : α} : x ∈ s.shuffle l ↔ x ∈ l :=
  (s.perm l).mem_iff

theorem shuffle_eq_nil_iff (s : Shuffle α) {l : List α} : s.shuffle l = [] ↔ l = [] := by
  rw [← List.length_eq_zero_iff, ← List.length_eq_zero_iff, (s.perm l).length_eq]

end Shuffle

end Ztunnel
