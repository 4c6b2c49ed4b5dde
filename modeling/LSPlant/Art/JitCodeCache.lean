import LSPlant.State
/-!
# JitCodeCache

The movements of `jit_code_cache.cxx`. Compiled code of a hooked method
belongs to its backup; that it moves there is put off until ART collects
its code cache, and happens for every pair queued since the last time.
-/

namespace LSPlant

variable (art : Art) (s : State)

/-- One pass of `MoveObsoleteMethods`: ART's function where it was found,
the data pointers elsewhere. -/
def moveObsoleteMethod (s : State) (movement : ArtMethodPtr × ArtMethodPtr) : State :=
  match art.moveObsoleteMethodSym with
  | some move => { s with codeOwner := move movement.1 movement.2 s.codeOwner }
  | none =>
    let s := s.setData movement.2 (s.getData movement.2)
    s.setData movement.1 nullptr

/-- **`MoveObsoleteMethods`**, which both collections start with. -/
def moveObsoleteMethods : State :=
  let movements := s.getJitMovements
  movements.1.foldl (moveObsoleteMethod art) { s with toRegistry := movements.2 }

variable {art} {s} {m : ArtMethodPtr}

/-- Moving compiled code leaves entry points alone. -/
theorem getEntryPoint_moveObsoleteMethods :
    (moveObsoleteMethods art s).getEntryPoint m = s.getEntryPoint m := by
  have hmove : ∀ (u : State) p, (moveObsoleteMethod art u p).getEntryPoint m =
      u.getEntryPoint m := fun u p => by
    unfold moveObsoleteMethod
    split
    · rfl
    · rw [State.getEntryPoint_setData, State.getEntryPoint_setData]
  have hfold : ∀ (l : List (ArtMethodPtr × ArtMethodPtr)) (u : State),
      (l.foldl (moveObsoleteMethod art) u).getEntryPoint m = u.getEntryPoint m := by
    intro l
    induction l with
    | nil => exact fun _ => rfl
    | cons p l ih => exact fun u => (ih _).trans (hmove u p)
  exact hfold s.jitMovements { s with jitMovements := [] }

end LSPlant
