import Mathlib.Data.List.Basic
/-!
# Scripts

A computation that asks its environment questions, one after the other, and
comes to a result. What the environment answers depends on a state that the
questions move. Two environments that give the same answers in related
states let every script come to the same result.
-/

universe u v w

/-- **A script** that asks questions of `Q`, each answered as `A` says, and
comes to a result. -/
inductive Script (Q : Type u) (A : Q → Type v) (ρ : Type w)
  | done (result : ρ)
  | ask (question : Q) (next : A question → Script Q A ρ)

namespace Script

variable {Q : Type u} {A : Q → Type v} {ρ : Type w} {σ τ : Type*}

/-- **An environment**: what it answers in a state, and the state after. -/
abbrev Environment (A : Q → Type v) (σ : Type*) := (q : Q) → σ → A q × σ

/-- **The script run** in an environment. -/
def run (env : Environment A σ) : Script Q A ρ → σ → ρ × σ
  | done result, s => (result, s)
  | ask question next, s => (next (env question s).1).run env (env question s).2

@[simp] theorem run_done (env : Environment A σ) (result : ρ) (s : σ) :
    (done result : Script Q A ρ).run env s = (result, s) := rfl

@[simp] theorem run_ask (env : Environment A σ) (question : Q)
    (next : A question → Script Q A ρ) (s : σ) :
    (ask question next).run env s = (next (env question s).1).run env (env question s).2 := rfl

/-- **Simulation.** Where related states are answered alike and stay related,
a script comes to the same result in either. -/
theorem run_simulation (script : Script Q A ρ) (env : Environment A σ) (env' : Environment A τ)
    (R : σ → τ → Prop)
    (hstep : ∀ q s t, R s t → (env q s).1 = (env' q t).1 ∧ R (env q s).2 (env' q t).2)
    {s : σ} {t : τ} (h : R s t) :
    (script.run env s).1 = (script.run env' t).1 ∧
      R (script.run env s).2 (script.run env' t).2 := by
  induction script generalizing s t with
  | done result => exact ⟨rfl, h⟩
  | ask question next ih =>
    obtain ⟨hanswer, hrel⟩ := hstep question s t h
    rw [run_ask, run_ask, hanswer]
    exact ih (env' question t).1 hrel

end Script
