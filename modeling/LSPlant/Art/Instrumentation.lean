import LSPlant.State
/-!
# Instrumentation

The interceptors of `UpdateMethodsCode` and `UpdateMethodsCodeImpl` in
`instrumentation.cxx`. ART installs the code on the method it was asked
to; what LSPlant wanted to keep there is put back afterwards, and the
code goes to the backup instead.
-/

namespace LSPlant

variable (art : Art) (s : State)

/-- **`HandleMethodCodeUpdated`.** -/
def handleMethodCodeUpdated (m : ArtMethodPtr) (oldCode newCode : EntryPoint) : State :=
  match s.isHooked m with
  | some backup =>
    let s' := s.setEntryPoint art m oldCode
    if s.isDeoptimized m then s' else s'.setEntryPoint art backup newCode
  | none => if s.isDeoptimized m then s.setEntryPoint art m oldCode else s

/-- **`UpdateMethodsCode`**: ART is asked for `quickCode` and installs
`installed`. -/
def updateMethodsCode (m : ArtMethodPtr) (quickCode installed : ℕ) : State :=
  let oldCode := s.getEntryPoint m
  let s := s.artSetEntryPoint m installed
  if oldCode ≠ .code quickCode then handleMethodCodeUpdated art s m oldCode (.code quickCode)
  else s

/-! ## What an update leaves -/

variable {art} {s} {m n b : ArtMethodPtr} {q i : ℕ}

/-- **A hooked method keeps its entry point**, and the code asked for goes
to its backup unless the method is deoptimized. -/
theorem getEntryPoint_updateMethodsCode_hooked (h : s.isHooked m = some b) (hne : b ≠ m)
    (hold : s.getEntryPoint m ≠ .code q) :
    (updateMethodsCode art s m q i).getEntryPoint n =
      if n = m then s.getEntryPoint m
      else if n = b ∧ ¬ s.isDeoptimized m then .code q else s.getEntryPoint n := by
  have hh : (s.artSetEntryPoint m i).isHooked m = some b := h
  have hd : (s.artSetEntryPoint m i).isDeoptimized m ↔ s.isDeoptimized m := Iff.rfl
  simp only [updateMethodsCode, if_pos hold, handleMethodCodeUpdated, hh, hd]
  by_cases hdeopt : s.isDeoptimized m
  · simp only [if_pos hdeopt, State.getEntryPoint_setEntryPoint,
      State.getEntryPoint_artSetEntryPoint]
    split
    · rfl
    · simp [hdeopt]
  · simp only [if_neg hdeopt, State.getEntryPoint_setEntryPoint,
      State.getEntryPoint_artSetEntryPoint]
    by_cases hnm : n = m
    · simp [hnm, hne.symm]
    · simp [hnm, hdeopt]

/-- **Another method gets the code ART installs**, unless it is
deoptimized. -/
theorem getEntryPoint_updateMethodsCode_unhooked (h : s.isHooked m = none) :
    (updateMethodsCode art s m q i).getEntryPoint n =
      if n = m then
        if s.getEntryPoint m ≠ .code q ∧ s.isDeoptimized m then s.getEntryPoint m else .code i
      else s.getEntryPoint n := by
  have hh : (s.artSetEntryPoint m i).isHooked m = none := h
  have hd : (s.artSetEntryPoint m i).isDeoptimized m ↔ s.isDeoptimized m := Iff.rfl
  simp only [updateMethodsCode, handleMethodCodeUpdated, hh, hd]
  by_cases hold : s.getEntryPoint m = .code q
  · simp only [hold, ne_eq, not_true_eq_false, if_false, State.getEntryPoint_artSetEntryPoint,
      false_and]
  · by_cases hdeopt : s.isDeoptimized m
    · simp only [hold, hdeopt, ne_eq, not_false_eq_true, if_true, and_self,
        State.getEntryPoint_setEntryPoint, State.getEntryPoint_artSetEntryPoint]
      split <;> rfl
    · simp only [hold, hdeopt, ne_eq, not_false_eq_true, if_true, if_false, and_false,
        State.getEntryPoint_artSetEntryPoint]

/-- Whatever it pointed to, an update of a hooked method reaches another one
only if that is its backup, and with the code asked for. -/
theorem getEntryPoint_updateMethodsCode_other (art : Art) (q i : ℕ) (h : s.isHooked m = some b)
    (hb : b ≠ m) (hn : n ≠ m) :
    (updateMethodsCode art s m q i).getEntryPoint n = s.getEntryPoint n ∨
      n = b ∧ ¬ s.isDeoptimized m ∧
        (updateMethodsCode art s m q i).getEntryPoint n = .code q := by
  by_cases hold : s.getEntryPoint m = .code q
  · -- the code it has already: ART's own write is all there is
    left
    simp only [updateMethodsCode, hold, ne_eq, not_true_eq_false, if_false]
    rw [State.getEntryPoint_artSetEntryPoint, if_neg hn]
  · rw [getEntryPoint_updateMethodsCode_hooked h hb hold, if_neg hn]
    split
    · rename_i hcond
      exact Or.inr ⟨hcond.1, hcond.2, rfl⟩
    · exact Or.inl rfl

theorem getData_updateMethodsCode : (updateMethodsCode art s m q i).getData n = s.getData n := by
  simp only [updateMethodsCode, handleMethodCodeUpdated]
  split
  · split
    · split <;> simp only [State.getData_setEntryPoint, State.getData_artSetEntryPoint]
    · split <;> simp only [State.getData_setEntryPoint, State.getData_artSetEntryPoint]
  · exact State.getData_artSetEntryPoint

end LSPlant
