/-
  Ztunnel.Lib.Iter

  `Iterator::max_by_key` of Rust's core, on a list: an element of greatest
  key, the last of them when several tie.  It is the running maximum from
  no element, each element replacing the one kept unless its key is
  smaller.  The scan from any seed returns the seed or an element of the
  list, and a key at least those of both; from no seed it fails only on
  the empty list.
-/

import Mathlib

namespace Ztunnel

variable {α β : Type} [LinearOrder β]

/-- One step of the running maximum: a later element of the same key wins. -/
def maxByKeyStep (f : α → β) (best : Option α) (x : α) : Option α :=
  match best with
  | none => some x
  | some b => if f b ≤ f x then some x else some b

def max_by_key (l : List α) (f : α → β) : Option α :=
  l.foldl (maxByKeyStep f) none

variable {f : α → β}

theorem maxByKeyStep_isSome (best : Option α) (x : α) : (maxByKeyStep f best x).isSome := by
  unfold maxByKeyStep
  split
  · rfl
  · split <;> rfl

/-- The scan from a seed returns the seed or an element of the list, with
    a key at least the seed's and every element's. -/
theorem foldl_maxByKeyStep (l : List α) (best : Option α) {a : α}
    (h : l.foldl (maxByKeyStep f) best = some a) :
    (best = some a ∨ a ∈ l) ∧ (∀ b, best = some b → f b ≤ f a) ∧ ∀ x ∈ l, f x ≤ f a := by
  induction l generalizing best with
  | nil =>
    rw [List.foldl_nil] at h
    exact ⟨.inl h, fun b hb => by rw [h, Option.some.injEq] at hb; rw [hb], by simp⟩
  | cons x rest ih =>
    obtain ⟨hmem, hseed, hrest⟩ := ih (maxByKeyStep f best x) h
    -- the step keeps the larger of the seed and `x`
    have hstep : (maxByKeyStep f best x = some x ∧ ∀ b, best = some b → f b ≤ f x) ∨
        ∃ b, best = some b ∧ maxByKeyStep f best x = some b ∧ f x ≤ f b := by
      rcases best with _ | b
      · exact .inl ⟨rfl, by simp⟩
      · by_cases hle : f b ≤ f x
        · exact .inl ⟨if_pos hle, fun b' hb' => by cases hb'; exact hle⟩
        · exact .inr ⟨b, rfl, if_neg hle, le_of_not_ge hle⟩
    rcases hstep with ⟨hx, hbx⟩ | ⟨b, rfl, hb, hxb⟩
    · rw [hx] at hmem hseed
      have hxa := hseed x rfl
      refine ⟨?_, fun b hb => le_trans (hbx b hb) hxa, ?_⟩
      · rcases hmem with he | he
        · exact .inr (by rw [← Option.some.inj he]; exact List.mem_cons_self)
        · exact .inr (List.mem_cons_of_mem x he)
      · intro y hy
        rcases List.mem_cons.mp hy with rfl | hy
        · exact hxa
        · exact hrest y hy
    · rw [hb] at hmem hseed
      have hba := hseed b rfl
      refine ⟨?_, fun b' hb' => by cases hb'; exact hba, ?_⟩
      · rcases hmem with he | he
        · exact .inl he
        · exact .inr (List.mem_cons_of_mem x he)
      · intro y hy
        rcases List.mem_cons.mp hy with rfl | hy
        · exact le_trans hxb hba
        · exact hrest y hy

theorem max_by_key_mem {l : List α} {a : α} (h : max_by_key l f = some a) : a ∈ l := by
  rcases (foldl_maxByKeyStep l none h).1 with he | he
  · cases he
  · exact he

theorem max_by_key_max {l : List α} {a : α} (h : max_by_key l f = some a) :
    ∀ x ∈ l, f x ≤ f a :=
  (foldl_maxByKeyStep l none h).2.2

theorem max_by_key_eq_none {l : List α} : max_by_key l f = none ↔ l = [] := by
  constructor
  · intro h
    cases l with
    | nil => rfl
    | cons x rest =>
      -- after the first element the scan holds one
      have hsome : ∀ (l : List α) (best : Option α), best.isSome →
          (l.foldl (maxByKeyStep f) best).isSome := by
        intro l
        induction l with
        | nil => exact fun _ hb => hb
        | cons y ys ih => exact fun best _ => ih _ (maxByKeyStep_isSome best y)
      have := hsome rest (maxByKeyStep f none x) (maxByKeyStep_isSome none x)
      rw [max_by_key, List.foldl_cons] at h
      rw [h] at this
      cases this
  · rintro rfl
    rfl

end Ztunnel
