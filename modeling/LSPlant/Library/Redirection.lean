import Mathlib.Data.PEquiv
import Mathlib.Logic.Function.Basic
/-!
# Redirections

A partial injection of a type into itself whose values are never among
its arguments: some elements stand for others, and no chain of standing
in is longer than one. Following it is idempotent. A pair of elements
outside it can be linked, and a link taken out again.
-/

/-- **A redirection**: a partial injection with no chains. -/
structure Redirection (α : Type*) where
  /-- Who stands in for whom, and back. -/
  partner : α ≃. α
  /-- Nobody stands in for one who stands in. -/
  apart : ∀ a b, b ∈ partner a → partner b = none

namespace Redirection

variable {α : Type*} (r : Redirection α) {a b c : α}

/-- Follow the redirection, if there is anything to follow. -/
def redirect (a : α) : α := (r.partner a).getD a

/-- Outside the redirection: neither redirected nor stood in for. -/
def Outside (a : α) : Prop := r.partner a = none ∧ r.partner.symm a = none

variable {r}

theorem redirect_of_mem (h : b ∈ r.partner a) : r.redirect a = b := by
  rw [redirect, Option.mem_def.1 h, Option.getD_some]

theorem redirect_of_none (h : r.partner a = none) : r.redirect a = a := by
  rw [redirect, h, Option.getD_none]

/-- **Redirecting twice is redirecting once.** -/
@[simp] theorem redirect_redirect : r.redirect (r.redirect a) = r.redirect a := by
  cases h : r.partner a with
  | none => rw [redirect_of_none h, redirect_of_none h]
  | some b => rw [redirect_of_mem h, redirect_of_none (r.apart a b h)]

/-- Two redirections with the same partners are the same. -/
theorem ext_partner {r r' : Redirection α} (h : ∀ a, r.partner a = r'.partner a) : r = r' := by
  cases r; cases r'
  congr
  exact PEquiv.ext h

section Update

variable [DecidableEq α]

/-- **Linking two elements outside the redirection.** -/
def link (r : Redirection α) (a b : α) (ha : r.Outside a) (hb : r.Outside b) (hab : a ≠ b) :
    Redirection α where
  partner :=
    { toFun := Function.update r.partner a (some b)
      invFun := Function.update r.partner.symm b (some a)
      inv := fun x y => by
        simp only [Function.update_apply]
        by_cases hx : x = a <;> by_cases hy : y = b
        · simp [hx, hy]
        · subst hx
          have hne : r.partner.symm y ≠ some x := fun h => by
            have h' : r.partner x = some y := (r.partner.eq_some_iff).1 h
            rw [ha.1] at h'
            cases h'
          simpa [hy, Ne.symm hy] using hne
        · subst hy
          have hne : r.partner x ≠ some y := fun h => by
            have h' : r.partner.symm y = some x := (r.partner.eq_some_iff).2 h
            rw [hb.2] at h'
            cases h'
          simpa [hx, Ne.symm hx] using hne
        · simpa [hx, hy] using r.partner.eq_some_iff }
  apart x y hxy := by
    replace hxy : Function.update r.partner a (some b) x = some y := hxy
    show Function.update r.partner a (some b) y = none
    rw [Function.update_apply] at hxy ⊢
    have hya : y ≠ a := by
      rintro rfl
      split at hxy
      · cases hxy; exact hab rfl
      · have h' : r.partner.symm y = some x := (r.partner.eq_some_iff).2 hxy
        rw [ha.2] at h'
        cases h'
    rw [if_neg hya]
    split at hxy
    · cases hxy; exact hb.1
    · exact r.apart x y hxy

/-- **Taking the link of an element out.** -/
def unlink (r : Redirection α) (a : α) : Redirection α where
  partner :=
    { toFun := Function.update r.partner a none
      invFun := fun y => if r.partner.symm y = some a then none else r.partner.symm y
      inv := fun x y => by
        rw [Function.update_apply]
        by_cases hx : x = a
        · subst hx
          by_cases hy : r.partner.symm y = some x <;> simp [hy]
        · rw [if_neg hx]
          by_cases hy : r.partner.symm y = some a
          · have hne : r.partner x ≠ some y := fun h => by
              have h' : r.partner.symm y = some x := (r.partner.eq_some_iff).2 h
              rw [hy] at h'
              exact hx (Option.some.inj h').symm
            simpa [hy] using hne
          · simpa [hy] using r.partner.eq_some_iff }
  apart x y hxy := by
    replace hxy : Function.update r.partner a none x = some y := hxy
    show Function.update r.partner a none y = none
    rw [Function.update_apply] at hxy ⊢
    split at hxy
    · cases hxy
    · split
      · rfl
      · exact r.apart x y hxy

@[simp] theorem partner_link {ha : r.Outside a} {hb : r.Outside b} {hab : a ≠ b} :
    (r.link a b ha hb hab).partner c = if c = a then some b else r.partner c :=
  Function.update_apply ..

@[simp] theorem partner_unlink :
    (r.unlink a).partner c = if c = a then none else r.partner c := Function.update_apply ..

end Update

end Redirection
