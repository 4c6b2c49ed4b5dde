import Mathlib.Data.List.Basic
/-!
# Machines and their runs

A deterministic machine whose events come from an environment. A run is
the list of its events in the order they happen, a legal run one whose
every event was admissible in the state it met.

Three ways of speaking about a run are used throughout: a guard met by
each step, a property of every state the run visits, and a second
machine following the first event by event. `everywhere_iff_eachStep`
joins the first two: where a guard is exactly what a step needs to keep
a property, the property holds everywhere along a run if and only if
every step meets the guard.
-/

/-- **A machine**: what one event does to a state, and which events the
environment may bring there. -/
structure Machine (σ ε : Type*) where
  /-- The state after the event. -/
  step : σ → ε → σ
  /-- What the environment promises about the events it brings. -/
  admissible : σ → ε → Prop

namespace Machine

variable {σ τ ε ε' γ : Type*} (M : Machine σ ε)

/-- The state a list of events leads to. -/
def exec : σ → List ε → σ
  | s, [] => s
  | s, e :: es => exec (M.step s e) es

/-- Every step of the run meets the guard. -/
def EachStep (G : σ → ε → Prop) : σ → List ε → Prop
  | _, [] => True
  | s, e :: es => G s e ∧ EachStep G (M.step s e) es

/-- Every state the run visits has the property, the first one included. -/
def Everywhere (P : σ → Prop) : σ → List ε → Prop
  | s, [] => P s
  | s, e :: es => P s ∧ Everywhere P (M.step s e) es

/-- A run all of whose events are admissible. -/
def Legal (s : σ) (es : List ε) : Prop := M.EachStep M.admissible s es

instance decidableEachStep (G : σ → ε → Prop) [∀ s e, Decidable (G s e)] (s : σ)
    (es : List ε) : Decidable (M.EachStep G s es) :=
  match es with
  | [] => isTrue trivial
  | e :: es =>
    have := decidableEachStep G (M.step s e) es
    inferInstanceAs (Decidable (G s e ∧ M.EachStep G (M.step s e) es))

instance [∀ s e, Decidable (M.admissible s e)] (s : σ) (es : List ε) :
    Decidable (M.Legal s es) :=
  inferInstanceAs (Decidable (M.EachStep M.admissible s es))

variable {M} {s s' : σ} {e : ε} {es es' : List ε} {G H : σ → ε → Prop} {P Q : σ → Prop}

@[simp] theorem exec_nil : M.exec s [] = s := rfl

@[simp] theorem exec_cons : M.exec s (e :: es) = M.exec (M.step s e) es := rfl

@[simp] theorem exec_append : M.exec s (es ++ es') = M.exec (M.exec s es) es' := by
  induction es generalizing s with
  | nil => rfl
  | cons e es ih => exact ih

@[simp] theorem eachStep_nil : M.EachStep G s [] := trivial

@[simp] theorem eachStep_cons :
    M.EachStep G s (e :: es) ↔ G s e ∧ M.EachStep G (M.step s e) es := Iff.rfl

@[simp] theorem everywhere_nil : M.Everywhere P s [] ↔ P s := Iff.rfl

@[simp] theorem everywhere_cons :
    M.Everywhere P s (e :: es) ↔ P s ∧ M.Everywhere P (M.step s e) es := Iff.rfl

@[simp] theorem legal_nil : M.Legal s [] := trivial

@[simp] theorem legal_cons :
    M.Legal s (e :: es) ↔ M.admissible s e ∧ M.Legal (M.step s e) es := Iff.rfl

theorem eachStep_append :
    M.EachStep G s (es ++ es') ↔ M.EachStep G s es ∧ M.EachStep G (M.exec s es) es' := by
  induction es generalizing s with
  | nil => simp
  | cons e es ih => simp [ih, and_assoc]

theorem legal_append :
    M.Legal s (es ++ es') ↔ M.Legal s es ∧ M.Legal (M.exec s es) es' :=
  eachStep_append

theorem eachStep_and :
    M.EachStep (fun s e => G s e ∧ H s e) s es ↔ M.EachStep G s es ∧ M.EachStep H s es := by
  induction es generalizing s with
  | nil => simp
  | cons e es ih => simp [ih]; tauto

/-- A guard on events alone is met by a run whose events meet it. -/
theorem eachStep_of_forall {K : ε → Prop} (h : ∀ e ∈ es, K e) :
    M.EachStep (fun _ e => K e) s es := by
  induction es generalizing s with
  | nil => trivial
  | cons e es ih =>
    exact ⟨h e List.mem_cons_self, ih fun e' he' => h e' (List.mem_cons_of_mem e he')⟩

theorem EachStep.mono (h : M.EachStep G s es) (hG : ∀ s e, G s e → H s e) :
    M.EachStep H s es := by
  induction es generalizing s with
  | nil => trivial
  | cons e es ih => exact ⟨hG s e h.1, ih h.2⟩

/-- The last state of a run is one it visits. -/
theorem Everywhere.exec (h : M.Everywhere P s es) : P (M.exec s es) := by
  induction es generalizing s with
  | nil => exact h
  | cons e es ih => exact ih h.2

theorem Everywhere.start (h : M.Everywhere P s es) : P s := by
  cases es with
  | nil => exact h
  | cons e es => exact h.1

theorem Everywhere.mono (h : M.Everywhere P s es) (hPQ : ∀ s, P s → Q s) :
    M.Everywhere Q s es := by
  induction es generalizing s with
  | nil => exact hPQ s h
  | cons e es ih => exact ⟨hPQ s h.1, ih h.2⟩

/-! ## Invariants -/

/-- **The invariant rule.** What holds at the start and is kept by every
step that meets the guard holds everywhere along the run. -/
theorem everywhere_of_eachStep (hstep : ∀ s e, P s → G s e → P (M.step s e)) (h0 : P s)
    (hG : M.EachStep G s es) : M.Everywhere P s es := by
  induction es generalizing s with
  | nil => exact h0
  | cons e es ih => exact ⟨h0, ih (hstep s e h0 hG.1) hG.2⟩

/-- The invariant rule where every step keeps the invariant. -/
theorem everywhere_of_step (hstep : ∀ s e, P s → P (M.step s e)) (h0 : P s) :
    M.Everywhere P s es := by
  induction es generalizing s with
  | nil => exact h0
  | cons e es ih => exact ⟨h0, ih (hstep s e h0)⟩

/-- The invariant rule for the state a run ends in. -/
theorem exec_of_eachStep (hstep : ∀ s e, P s → G s e → P (M.step s e)) (h0 : P s)
    (hG : M.EachStep G s es) : P (M.exec s es) :=
  (everywhere_of_eachStep hstep h0 hG).exec

/-- **Guards and properties of runs.** Where, under an invariant, a step
keeps a property exactly when it meets a guard, the property holds
everywhere along a legal run exactly when every step meets the guard. -/
theorem everywhere_iff_eachStep
    (hinv : ∀ s e, Q s → G s e → Q (M.step s e))
    (hiff : ∀ s e, Q s → G s e → P s → (P (M.step s e) ↔ H s e))
    (hQ : Q s) (hP : P s) (hG : M.EachStep G s es) :
    M.Everywhere P s es ↔ M.EachStep H s es := by
  induction es generalizing s with
  | nil => exact ⟨fun _ => trivial, fun _ => hP⟩
  | cons e es ih =>
    obtain ⟨he, hes⟩ := hG
    constructor
    · rintro ⟨-, h⟩
      have hP' := h.start
      exact ⟨(hiff s e hQ he hP).1 hP', (ih (hinv s e hQ he) hP' hes).1 h⟩
    · rintro ⟨h, hrest⟩
      have hP' := (hiff s e hQ he hP).2 h
      exact ⟨hP, (ih (hinv s e hQ he) hP' hes).2 hrest⟩

/-- **What was set and not cleared since.** Where a step makes a property
hold, makes it not hold or leaves it, it holds at the end of a run if and
only if the last step to do either made it hold, or it held before and no
step cleared it. -/
theorem exec_iff_set_not_cleared {S C : σ → ε → Prop}
    (hstep : ∀ s e, P (M.step s e) ↔ S s e ∨ P s ∧ ¬ C s e) :
    P (M.exec s es) ↔
      (∃ es₁ e es₂, es = es₁ ++ e :: es₂ ∧ S (M.exec s es₁) e ∧
        M.EachStep (fun s e => ¬ C s e) (M.exec s (es₁ ++ [e])) es₂) ∨
      P s ∧ M.EachStep (fun s e => ¬ C s e) s es := by
  induction es generalizing s with
  | nil => simp
  | cons e es ih =>
    rw [exec_cons, ih, hstep]
    constructor
    · rintro (⟨es₁, e₁, es₂, rfl, hset, hclear⟩ | ⟨hset | ⟨hP, hkept⟩, hclear⟩)
      · exact Or.inl ⟨e :: es₁, e₁, es₂, rfl, hset, hclear⟩
      · exact Or.inl ⟨[], e, es, rfl, hset, hclear⟩
      · exact Or.inr ⟨hP, hkept, hclear⟩
    · rintro (⟨_ | ⟨e₁, es₁⟩, e', es₂, heq, hset, hclear⟩ | ⟨hP, hkept, hclear⟩)
      · obtain ⟨rfl, rfl⟩ := List.cons.inj heq
        exact Or.inr ⟨Or.inl hset, hclear⟩
      · obtain ⟨rfl, rfl⟩ := List.cons.inj heq
        exact Or.inl ⟨es₁, e', es₂, rfl, hset, hclear⟩
      · exact Or.inr ⟨Or.inr ⟨hP, hkept⟩, hclear⟩

/-- **Done once, done for good.** Where the steps that do a thing do it to what
is observed, a thing that done twice is done once, and the others leave what is
observed, all a run does to it is to do the thing if some step does. -/
theorem exec_of_idempotent {β : Type*} {f : σ → β} {g : β → β} {does : ε → Bool}
    (hidem : ∀ b, g (g b) = g b)
    (hstep : ∀ s e, G s e → f (M.step s e) = if does e then g (f s) else f s)
    (hG : M.EachStep G s es) :
    f (M.exec s es) = if es.any does then g (f s) else f s := by
  induction es generalizing s with
  | nil => rfl
  | cons e es ih =>
    rw [exec_cons, ih hG.2, hstep s e hG.1, List.any_cons]
    cases does e <;> cases es.any does <;> simp [hidem]

/-! ## Accounts -/

/-- The sum over a run of what its steps come to. -/
def total (M : Machine σ ε) (amount : σ → ε → ℕ) : σ → List ε → ℕ
  | _, [] => 0
  | s, e :: es => amount s e + total M amount (M.step s e) es

@[simp] theorem total_nil {amount : σ → ε → ℕ} : M.total amount s [] = 0 := rfl

@[simp] theorem total_cons {amount : σ → ε → ℕ} :
    M.total amount s (e :: es) = amount s e + M.total amount (M.step s e) es := rfl

/-- **Accounts balance.** Where each step adds and takes what it says, so does
a run. -/
theorem exec_balance (size : σ → ℕ) (added taken : σ → ε → ℕ)
    (hstep : ∀ s e, G s e → size (M.step s e) + taken s e = size s + added s e)
    (hG : M.EachStep G s es) :
    size (M.exec s es) + M.total taken s es = size s + M.total added s es := by
  induction es generalizing s with
  | nil => rfl
  | cons e es ih =>
    have hfirst := hstep s e hG.1
    have hrest := ih hG.2
    simp only [exec_cons, total_cons]
    omega

/-! ## History variables -/

/-- **A machine with a history variable**: the variable reads the step and
never changes it. -/
def withHistory (M : Machine σ ε) (next : σ → γ → ε → γ) : Machine (σ × γ) ε where
  step p e := (M.step p.1 e, next p.1 p.2 e)
  admissible p e := M.admissible p.1 e

@[simp] theorem withHistory_step {next : σ → γ → ε → γ} {p : σ × γ} :
    (M.withHistory next).step p e = (M.step p.1 e, next p.1 p.2 e) := rfl

@[simp] theorem withHistory_admissible {next : σ → γ → ε → γ} {p : σ × γ} :
    (M.withHistory next).admissible p e ↔ M.admissible p.1 e := Iff.rfl

/-- The machine's own state is blind to the history variable. -/
@[simp] theorem withHistory_exec_fst {next : σ → γ → ε → γ} {p : σ × γ} :
    ((M.withHistory next).exec p es).1 = M.exec p.1 es := by
  induction es generalizing p with
  | nil => rfl
  | cons e es ih => exact ih

/-- A guard that does not read the history variable is one of the machine's
own. -/
theorem withHistory_eachStep (next : σ → γ → ε → γ) (p : σ × γ) :
    (M.withHistory next).EachStep (fun p e => G p.1 e) p es ↔ M.EachStep G p.1 es := by
  induction es generalizing p with
  | nil => exact Iff.rfl
  | cons e es ih => exact and_congr Iff.rfl (ih _)

/-! ## Machines with more events -/

/-- **Two machines on one state**: a run takes its steps from either. -/
def sum (M : Machine σ ε) (N : Machine σ ε') : Machine σ (ε ⊕ ε') where
  step s := Sum.elim (M.step s) (N.step s)
  admissible s := Sum.elim (M.admissible s) (N.admissible s)

section Sum

variable {N : Machine σ ε'} {e' : ε'}

@[simp] theorem sum_step_inl : (M.sum N).step s (.inl e) = M.step s e := rfl

@[simp] theorem sum_step_inr : (M.sum N).step s (.inr e') = N.step s e' := rfl

@[simp] theorem sum_admissible_inl : (M.sum N).admissible s (.inl e) ↔ M.admissible s e := Iff.rfl

@[simp] theorem sum_admissible_inr : (M.sum N).admissible s (.inr e') ↔ N.admissible s e' := Iff.rfl

/-- A guard on the events of either. -/
instance decidableSumElim {K : ε → Prop} {K' : ε' → Prop} [∀ e, Decidable (K e)]
    [∀ e', Decidable (K' e')] : ∀ e, Decidable (Sum.elim K K' e)
  | .inl e => inferInstanceAs (Decidable (K e))
  | .inr e' => inferInstanceAs (Decidable (K' e'))

instance [∀ s e, Decidable (M.admissible s e)] [∀ s e, Decidable (N.admissible s e)] (s : σ)
    (e : ε ⊕ ε') : Decidable ((M.sum N).admissible s e) :=
  inferInstanceAs (Decidable (Sum.elim (M.admissible s) (N.admissible s) e))

end Sum

/-! ## Simulation -/

/-- **Simulation with stuttering.** A relation that every admissible step
of `M` carries along, the other machine taking the step's image or none,
relates the ends of every legal run and its image. -/
theorem exec_simulation {N : Machine τ ε'} {R : σ → τ → Prop} {image : ε → Option ε'}
    (hstep : ∀ s t e, R s t → M.admissible s e →
      R (M.step s e) (N.exec t (image e).toList))
    {t : τ} (h0 : R s t) (hL : M.Legal s es) :
    R (M.exec s es) (N.exec t (es.filterMap image)) := by
  induction es generalizing s t with
  | nil => exact h0
  | cons e es ih =>
    have h1 := ih (hstep s t e h0 hL.1) hL.2
    cases hi : image e with
    | none => simpa [hi, List.filterMap_cons] using h1
    | some e' => simpa [hi, List.filterMap_cons] using h1

/-! ## Points of effect -/

/-- **What takes effect along a run**, where a step may be the point at which
some operation does. -/
def points {κ : Type*} (M : Machine σ ε) (point : σ → ε → Option κ) : σ → List ε → List κ
  | _, [] => []
  | s, e :: es => (point s e).toList ++ points M point (M.step s e) es

section Points

variable {κ : Type*} {point begun : σ → ε → Option κ}

@[simp] theorem points_nil : M.points point s [] = [] := rfl

@[simp] theorem points_cons :
    M.points point s (e :: es) = (point s e).toList ++ M.points point (M.step s e) es := rfl

/-- **Simulation by points of effect.** A relation that every admissible step of
`M` carries along, the other machine doing what takes effect there and nothing
else, relates the ends of every legal run and of what took effect along it, a
legal run of the other machine. -/
theorem exec_points {N : Machine τ κ} {R : σ → τ → Prop}
    (hstep : ∀ s t e, R s t → M.admissible s e →
      N.Legal t (point s e).toList ∧ R (M.step s e) (N.exec t (point s e).toList))
    {t : τ} (h0 : R s t) (hL : M.Legal s es) :
    N.Legal t (M.points point s es) ∧ R (M.exec s es) (N.exec t (M.points point s es)) := by
  induction es generalizing s t with
  | nil => exact ⟨trivial, h0⟩
  | cons e es ih =>
    obtain ⟨hlegal, hnext⟩ := hstep s t e h0 hL.1
    obtain ⟨hrest, hend⟩ := ih hnext hL.2
    rw [points_cons, exec_append]
    exact ⟨legal_append.2 ⟨hlegal, hrest⟩, hend⟩

/-- **What begins takes effect or is pending.** Where this holds of a step, it
holds of a run. -/
theorem count_points [BEq κ] (k : κ) (pending : σ → ℕ)
    (hstep : ∀ s e, G s e → pending (M.step s e) + (point s e).toList.count k =
      pending s + (begun s e).toList.count k)
    (hG : M.EachStep G s es) :
    pending (M.exec s es) + (M.points point s es).count k =
      pending s + (M.points begun s es).count k := by
  induction es generalizing s with
  | nil => rfl
  | cons e es ih =>
    have hfirst := hstep s e hG.1
    have hrest := ih hG.2
    simp only [exec_cons, points_cons, List.count_append]
    omega

end Points

end Machine
