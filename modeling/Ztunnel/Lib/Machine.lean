/-
  Ztunnel.Lib.Machine

  Event loops as state machines whose steps can panic.  A machine has an
  initial state, a relation saying which events are enabled in a state, and
  a step that gives the next state or the message of a panic.  Its
  reachable states are those that enabled steps reach from the initial one
  without a panic.

  Safety is proved with the invariant rule: a property of the initial state
  that every enabled, successful step keeps holds of every reachable state.
  The second rule lets the step case assume an invariant proved before, so
  that several invariants are proved one on top of the other.  A
  simulation carries reachability from one machine to another, each step
  matched by a step or by none.  A machine never panics when no enabled
  step of a reachable state fails, which an invariant ruling the failures
  out gives.
-/

import Mathlib.Logic.Basic

namespace Ztunnel

structure Machine (S E : Type) where
  init : S
  Enabled : S → E → Prop
  step : S → E → Except String S

namespace Machine

variable {S E : Type}

inductive Reachable (M : Machine S E) : S → Prop where
  | init : Reachable M M.init
  | step {s s' : S} (e : E) :
      Reachable M s → M.Enabled s e → M.step s e = .ok s' → Reachable M s'

/-- No enabled step of a reachable state panics. -/
def NeverPanics (M : Machine S E) : Prop :=
  ∀ s, M.Reachable s → ∀ e, M.Enabled s e → ∃ s', M.step s e = .ok s'

variable {M : Machine S E}

/-- The invariant rule. -/
theorem Reachable.inv (P : S → Prop) (h0 : P M.init)
    (hstep : ∀ s s' e, P s → M.Enabled s e → M.step s e = .ok s' → P s')
    {s : S} (hs : M.Reachable s) : P s := by
  induction hs with
  | init => exact h0
  | step e _ he hok ih => exact hstep _ _ e ih he hok

/-- The invariant rule over an invariant `I` already known of every
    reachable state: the step case may assume `I` of the state it leaves. -/
theorem Reachable.inv_of {I : S → Prop} (P : S → Prop) (hI : ∀ s, M.Reachable s → I s)
    (h0 : P M.init)
    (hstep : ∀ s s' e, I s → P s → M.Enabled s e → M.step s e = .ok s' → P s')
    {s : S} (hs : M.Reachable s) : P s := by
  induction hs with
  | init => exact h0
  | step e hr he hok ih => exact hstep _ _ e (hI _ hr) ih he hok

/-- A simulation: every reachable state of `M` maps to a reachable state
    of `N` when the initial states correspond and each enabled step of `M`
    is matched by an enabled step of `N`, or by none. -/
theorem Reachable.simulate {S' E' : Type} {N : Machine S' E'} (f : S → S')
    (h0 : f M.init = N.init)
    (hstep : ∀ s s' e, M.Reachable s → M.Enabled s e → M.step s e = .ok s' →
      f s' = f s ∨ ∃ e', N.Enabled (f s) e' ∧ N.step (f s) e' = .ok (f s'))
    {s : S} (hs : M.Reachable s) : N.Reachable (f s) := by
  induction hs with
  | init => exact h0 ▸ .init
  | step e hr he hok ih =>
    rcases hstep _ _ e hr he hok with hsame | ⟨e', he', hok'⟩
    · exact hsame ▸ ih
    · exact .step e' ih he' hok'

/-- A machine never panics when, under an invariant of its reachable
    states, every enabled step succeeds. -/
theorem neverPanics_of_inv {I : S → Prop} (hI : ∀ s, M.Reachable s → I s)
    (hsafe : ∀ s e, I s → M.Enabled s e → ∃ s', M.step s e = .ok s') : M.NeverPanics := by
  intro s hs e he
  exact hsafe s e (hI s hs) he

/-- The machine run by an environment that keeps to the assumption `A`:
    the steps of `M` that `A` allows. -/
def restrict (M : Machine S E) (A : S → E → Prop) : Machine S E where
  init := M.init
  Enabled s e := M.Enabled s e ∧ A s e
  step := M.step

end Machine

end Ztunnel
