import LSPlant.Art.ArtMethod
import LSPlant.Library.Table
/-!
# The registries

The shared containers of `common.cxx` and the functions that read and
fill them. Each is a table or a set of its own; that they describe one
relation is a theorem about the calls that update them, not a part of the
data.
-/

namespace LSPlant

/-- **What is kept of a hook.** -/
structure HookRecord where
  hook : ArtMethodPtr
  backup : ArtMethodPtr
  methodEntrySlot : ℕ
  backupMethod : ℕ
  enabled : Bool
deriving DecidableEq

/-- **The containers of `common.cxx`.** -/
structure Registry where
  hookedMethods : Table ArtMethodPtr HookRecord
  backupedMethods : Table ArtMethodPtr ArtMethodPtr
  hookedClasses : Table ClassDefPtr (Finset ArtMethodPtr)
  deoptimizedMethods : Table ArtMethodPtr EntryPoint
  deoptimizedClasses : Table ClassDefPtr (Finset ArtMethodPtr)
  backupedProxyMethods : Finset ArtMethodPtr
  jitMovements : List (ArtMethodPtr × ArtMethodPtr)

namespace Registry

/-- The registries before the first call. -/
def empty : Registry where
  hookedMethods := ∅
  backupedMethods := ∅
  hookedClasses := ∅
  deoptimizedMethods := ∅
  deoptimizedClasses := ∅
  backupedProxyMethods := ∅
  jitMovements := []

variable (r : Registry)

/-- The backup, if the method is hooked. -/
def isHooked (m : ArtMethodPtr) : Option ArtMethodPtr :=
  (r.hookedMethods.lookup m).map (·.backup)

/-- The target, if the method is a backup. -/
def isBackup (m : ArtMethodPtr) : Option ArtMethodPtr := r.backupedMethods.lookup m

def isDeoptimized (m : ArtMethodPtr) : Prop := m ∈ r.deoptimizedMethods

instance (m : ArtMethodPtr) : Decidable (r.isDeoptimized m) :=
  inferInstanceAs (Decidable (m ∈ r.deoptimizedMethods))

def getJitMovements : List (ArtMethodPtr × ArtMethodPtr) × Registry :=
  (r.jitMovements, { r with jitMovements := [] })

/-- An element added to the set of a class, the set made where the class
has none. -/
def addToClass (classes : Table ClassDefPtr (Finset ArtMethodPtr)) (classDef : ClassDefPtr)
    (m : ArtMethodPtr) : Table ClassDefPtr (Finset ArtMethodPtr) :=
  classes.insert classDef (insert m ((classes.lookup classDef).getD ∅))

/-- An element taken out of the set of a class, the class too once its set
is empty. -/
def eraseFromClass (classes : Table ClassDefPtr (Finset ArtMethodPtr)) (classDef : ClassDefPtr)
    (m : ArtMethodPtr) : Table ClassDefPtr (Finset ArtMethodPtr) :=
  match classes.lookup classDef with
  | none => classes
  | some methods =>
    if methods.erase m = ∅ then classes.erase classDef
    else classes.insert classDef (methods.erase m)

def recordHooked (target hook backup : ArtMethodPtr) (classDef : ClassDefPtr)
    (methodEntrySlot backupMethod : ℕ) : Registry :=
  { r with
    hookedClasses := addToClass r.hookedClasses classDef target
    hookedMethods := Table.emplace r.hookedMethods target
      { hook, backup, methodEntrySlot, backupMethod, enabled := true }
    backupedMethods := Table.emplace r.backupedMethods backup target }

def recordDeoptimized (classDef : ClassDefPtr) (artMethod : ArtMethodPtr)
    (originalEntryPoint : EntryPoint) : Registry :=
  { r with
    deoptimizedClasses := addToClass r.deoptimizedClasses classDef artMethod
    deoptimizedMethods := Table.emplace r.deoptimizedMethods artMethod originalEntryPoint }

def recordJitMovement (target backup : ArtMethodPtr) : Registry :=
  { r with jitMovements := r.jitMovements ++ [(target, backup)] }

variable {r} {m b : ArtMethodPtr} {c d : ClassDefPtr}

theorem isHooked_eq_some :
    r.isHooked m = some b ↔ ∃ record, r.hookedMethods.lookup m = some record ∧
      record.backup = b := Option.map_eq_some_iff

theorem isHooked_eq_none : r.isHooked m = none ↔ m ∉ r.hookedMethods := by
  rw [isHooked, Option.map_eq_none_iff, Finmap.lookup_eq_none]

theorem mem_hookedMethods : m ∈ r.hookedMethods ↔ ∃ b, r.isHooked m = some b := by
  rw [← not_iff_not, ← isHooked_eq_none, ← Option.ne_none_iff_exists', not_not]

/-! ## The sets of the classes -/

variable {classes : Table ClassDefPtr (Finset ArtMethodPtr)}

/-- The methods recorded for a class. -/
def methodsOf (classes : Table ClassDefPtr (Finset ArtMethodPtr)) (c : ClassDefPtr) :
    Finset ArtMethodPtr :=
  (classes.lookup c).getD ∅

theorem mem_methodsOf : m ∈ methodsOf classes c ↔ ∃ ms, classes.lookup c = some ms ∧ m ∈ ms := by
  unfold methodsOf
  cases classes.lookup c <;> simp

theorem lookup_addToClass :
    (addToClass classes c m).lookup d =
      if d = c then some (insert m (methodsOf classes c)) else classes.lookup d :=
  Table.lookup_insert_eq

theorem mem_addToClass :
    b ∈ methodsOf (addToClass classes c m) d ↔ (d = c ∧ b = m) ∨ b ∈ methodsOf classes d := by
  rw [methodsOf, lookup_addToClass]
  split <;> rename_i h
  · subst h; simp
  · simp [h, methodsOf]

theorem lookup_eraseFromClass :
    (eraseFromClass classes c m).lookup d =
      if d = c then (classes.lookup c).bind fun ms =>
        if ms.erase m = ∅ then none else some (ms.erase m)
      else classes.lookup d := by
  unfold eraseFromClass
  split <;> rename_i h
  · split
    · subst d; simp [h]
    · rfl
  · split_ifs with he hd hd
    · subst hd; simp [h, he]
    · rw [Table.lookup_erase_eq, if_neg hd]
    · subst hd; simp [h, he]
    · rw [Table.lookup_insert_eq, if_neg hd]

theorem mem_eraseFromClass :
    b ∈ methodsOf (eraseFromClass classes c m) d ↔
      b ∈ methodsOf classes d ∧ ¬ (d = c ∧ b = m) := by
  rw [methodsOf, lookup_eraseFromClass]
  split <;> rename_i h
  · subst h
    rw [methodsOf]
    cases classes.lookup d with
    | none => simp
    | some ms =>
      have hmem : b ∈ ms.erase m ↔ b ∈ ms ∧ b ≠ m := by rw [Finset.mem_erase, and_comm]
      rw [Option.bind_some]
      split <;> rename_i he
      · have hnot : b ∉ ms.erase m := by simp [he]
        rw [hmem] at hnot
        simpa using hnot
      · simpa using hmem
  · simp [h, methodsOf]

/-- No class is left with an empty set. -/
theorem eraseFromClass_ne_empty {ms : Finset ArtMethodPtr}
    (h : ∀ d ms, classes.lookup d = some ms → ms ≠ ∅)
    (hd : (eraseFromClass classes c m).lookup d = some ms) : ms ≠ ∅ := by
  rw [lookup_eraseFromClass] at hd
  split at hd
  · obtain ⟨ns, -, hns⟩ := Option.bind_eq_some_iff.1 hd
    split at hns
    · simp at hns
    · cases hns; assumption
  · exact h d ms hd

end Registry

end LSPlant
