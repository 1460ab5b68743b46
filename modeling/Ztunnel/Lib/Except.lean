/-
  Ztunnel.Lib.Except

  Inversion rules for fallible computations in the `Except` monad, the
  model of Rust's `Result` with the `?` operator: a bind that succeeded had
  a first step that succeeded, a bind that failed failed at its first step
  or after it, and a `mapM` (a `collect::<Result<Vec<_>, _>>()`) that
  succeeded succeeded on every element.
-/

import Mathlib.Logic.Basic

namespace Ztunnel

variable {ε α β : Type}

theorem except_bind_eq_ok {x : Except ε α} {f : α → Except ε β} {b : β} :
    (x >>= f) = .ok b ↔ ∃ a, x = .ok a ∧ f a = .ok b := by
  cases x <;> simp [bind, Except.bind]

theorem except_bind_eq_error {x : Except ε α} {f : α → Except ε β} {e : ε} :
    (x >>= f) = .error e ↔ x = .error e ∨ ∃ a, x = .ok a ∧ f a = .error e := by
  cases x <;> simp [bind, Except.bind]

theorem except_map_eq_ok {x : Except ε α} {f : α → β} {b : β} :
    x.map f = .ok b ↔ ∃ a, x = .ok a ∧ f a = b := by
  cases x <;> simp [Except.map]

theorem except_pure_eq_ok {a b : α} : (pure a : Except ε α) = .ok b ↔ a = b := by
  simp [pure, Except.pure]

/-- `Option::ok_or`. -/
def ok_or (o : Option α) (e : ε) : Except ε α :=
  match o with
  | some a => .ok a
  | none => .error e

theorem ok_or_eq_ok {o : Option α} {e : ε} {a : α} : ok_or o e = .ok a ↔ o = some a := by
  cases o <;> simp [ok_or]

/-- A `mapM` that succeeded succeeded on every element. -/
theorem except_mapM_ok {f : α → Except ε β} {l : List α} {r : List β} (h : l.mapM f = .ok r) :
    ∀ x ∈ l, ∃ y, f x = .ok y := by
  induction l generalizing r with
  | nil => simp
  | cons a l ih =>
    simp only [List.mapM_cons] at h
    obtain ⟨y, hy, h⟩ := except_bind_eq_ok.mp h
    obtain ⟨ys, hys, -⟩ := except_bind_eq_ok.mp h
    intro x hx
    rcases List.mem_cons.mp hx with rfl | hx
    · exact ⟨y, hy⟩
    · exact ih hys x hx

/-- The results of a `mapM` that succeeded are the images of its elements. -/
theorem except_mapM_ok_mem {f : α → Except ε β} {l : List α} {r : List β}
    (h : l.mapM f = .ok r) (y : β) : y ∈ r ↔ ∃ x ∈ l, f x = .ok y := by
  induction l generalizing r with
  | nil =>
    simp only [List.mapM_nil] at h
    cases h
    simp
  | cons a l ih =>
    simp only [List.mapM_cons] at h
    obtain ⟨b, hb, h⟩ := except_bind_eq_ok.mp h
    obtain ⟨bs, hbs, h⟩ := except_bind_eq_ok.mp h
    cases h
    constructor
    · intro hy
      rcases List.mem_cons.mp hy with rfl | hy
      · exact ⟨a, List.mem_cons_self, hb⟩
      · obtain ⟨x, hx, hfx⟩ := (ih hbs).mp hy
        exact ⟨x, List.mem_cons_of_mem _ hx, hfx⟩
    · rintro ⟨x, hx, hfx⟩
      rcases List.mem_cons.mp hx with rfl | hx
      · rw [hb] at hfx
        cases hfx
        exact List.mem_cons_self
      · exact List.mem_cons_of_mem _ ((ih hbs).mpr ⟨x, hx, hfx⟩)

/-- A `mapM` that succeeded has a result for every element. -/
theorem except_mapM_length {f : α → Except ε β} {l : List α} {r : List β} (h : l.mapM f = .ok r) :
    r.length = l.length := by
  induction l generalizing r with
  | nil =>
    simp only [List.mapM_nil] at h
    cases h
    rfl
  | cons a l ih =>
    simp only [List.mapM_cons] at h
    obtain ⟨b, _, h⟩ := except_bind_eq_ok.mp h
    obtain ⟨bs, hbs, h⟩ := except_bind_eq_ok.mp h
    cases h
    simp [ih hbs]

/-! ## Panics outside a `Result`

A Rust function that returns a `Result` and can panic is a computation in
`ExceptT ε (Except String)`: the error of the function inside, a panic
outside.  A bind runs on after a value, returns an error of the function,
and passes a panic on. -/

section Panic

variable {π : Type}

/-- `slice[i]`: an index past the end panics. -/
def index (l : List α) (i : Nat) : Except String α :=
  match l[i]? with
  | some a => .ok a
  | none =>
    .error ("index out of bounds: the len is " ++ toString l.length ++ " but the index is " ++
      toString i)

/-- `anyhow::bail!`: the function returns the error. -/
def bail (msg : String) : ExceptT String (Except String) α :=
  ExceptT.mk (.ok (.error msg))

theorem exceptT_run_bind_ok {x : ExceptT ε (Except π) α} {f : α → ExceptT ε (Except π) β} {a : α}
    (h : x.run = .ok (.ok a)) : (x >>= f).run = (f a).run := by
  rw [ExceptT.run_bind, h]
  rfl

theorem exceptT_run_bind_error {x : ExceptT ε (Except π) α} {f : α → ExceptT ε (Except π) β}
    {e : ε} (h : x.run = .ok (.error e)) : (x >>= f).run = .ok (.error e) := by
  rw [ExceptT.run_bind, h]
  rfl

theorem exceptT_run_bind_panic {x : ExceptT ε (Except π) α} {f : α → ExceptT ε (Except π) β}
    {p : π} (h : x.run = .error p) : (x >>= f).run = .error p := by
  rw [ExceptT.run_bind, h]
  rfl

/-- The computation does not panic. -/
def NoPanic (x : ExceptT ε (Except π) α) : Prop := ∃ r, x.run = .ok r

theorem NoPanic.pure (a : α) : NoPanic (pure a : ExceptT ε (Except π) α) := ⟨.ok a, rfl⟩

theorem NoPanic.mk_ok (r : Except ε α) : NoPanic (ExceptT.mk (.ok r) : ExceptT ε (Except π) α) :=
  ⟨r, rfl⟩

/-- A bind does not panic when its first computation does not, and nor
    does the rest after any value. -/
theorem NoPanic.bind {x : ExceptT ε (Except π) α} {f : α → ExceptT ε (Except π) β}
    (hx : NoPanic x) (hf : ∀ a, NoPanic (f a)) : NoPanic (x >>= f) := by
  obtain ⟨r, hr⟩ := hx
  cases r with
  | error e => exact ⟨.error e, exceptT_run_bind_error hr⟩
  | ok a =>
    obtain ⟨r', hr'⟩ := hf a
    exact ⟨r', (exceptT_run_bind_ok hr).trans hr'⟩

end Panic

end Ztunnel
