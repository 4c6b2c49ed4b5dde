import LSPlant.Art.AccessFlags
/-!
# What initialisation settles

The architecture the library is built for and what `Init` finds out about
the ART of the process: offsets, masks and the functions it could
resolve. None of it changes afterwards. A pointer is a number and `0` the
null pointer.
-/

namespace LSPlant

/-- A pointer to an `ArtMethod`. -/
abbrev ArtMethodPtr := ℕ
/-- A pointer to a `dex::ClassDef`. -/
abbrev ClassDefPtr := ℕ
/-- A pointer to an `art::Thread`. -/
abbrev ThreadPtr := ℕ

abbrev nullptr : ℕ := 0

/-- The architectures `lsplant.cc` has a trampoline for. -/
inductive Arch where
  | arm64
  | arm
  | x86
  | x64
  | riscv64
deriving DecidableEq

/-- `sizeof(void *)`. -/
def Arch.pointerSize : Arch → ℕ
  | .arm64 | .x64 | .riscv64 => 8
  | .arm | .x86 => 4

/-- **What `Init` found out about the ART of this process.** A function
LSPlant may or may not have found is an option, a code address that may
be missing is `nullptr` then. -/
structure Art where
  arch : Arch
  /-- `getpagesize()`. -/
  pageSize : ℕ
  pageSize_eq : pageSize = 4096 ∨ pageSize = 16384
  /-- The low byte of `ArtMethod::GetEntryPointOffset()`. -/
  entryPointOffset : BitVec 8
  masks : AccessFlagMasks
  /-- `ArtMethod::interpreter_entry_point_offset` is not zero. -/
  hasInterpreterEntryPoint : Bool
  artInterpreterToCompiledCodeBridge : ℕ
  artQuickToInterpreterBridge : ℕ
  /-- The code ART's own `SetEntryPointsToInterpreter` installs on a method
  with the given flags. -/
  setEntryPointsToInterpreterSym : Option (BitVec 32 → ℕ)
  /-- What ART's own `SetNotIntrinsic` does to a flag word. -/
  setNotIntrinsic : Option (BitVec 32 → BitVec 32)
  setNotIntrinsic_kind : ∀ g ∈ setNotIntrinsic, ∀ f, g f &&& kindMask = f &&& kindMask
  /-- What ART's `JitCodeCache::MoveObsoleteMethod(old_method, new_method)`
  does to the owners of compiled code. -/
  moveObsoleteMethodSym :
    Option (ArtMethodPtr → ArtMethodPtr → (ℕ → ArtMethodPtr) → ℕ → ArtMethodPtr)
  moveObsoleteMethod_other : ∀ move ∈ moveObsoleteMethodSym, ∀ oldMethod newMethod owner code,
    owner code ≠ oldMethod → move oldMethod newMethod owner code = owner code
  /-- ART's `mirror::Class::GetClassDef`. -/
  getClassDef : ℕ → ClassDefPtr
  /-- JNI's `FromReflectedMethod`. -/
  methodId : ArtMethodPtr → ℕ

/-- A 64-bit process whose ART LSPlant found everything in. -/
def sampleArt : Art where
  arch := .arm64
  pageSize := 4096
  pageSize_eq := Or.inl rfl
  entryPointOffset := 24
  masks := .ofApiLevel 31 false
  hasInterpreterEntryPoint := false
  artInterpreterToCompiledCodeBridge := 0
  artQuickToInterpreterBridge := 7
  setEntryPointsToInterpreterSym := none
  setNotIntrinsic := none
  setNotIntrinsic_kind := by simp
  moveObsoleteMethodSym := some fun oldMethod newMethod owner code =>
    if owner code = oldMethod then newMethod else owner code
  moveObsoleteMethod_other := by
    rintro move ⟨⟩ oldMethod newMethod owner code h
    exact if_neg h
  getClassDef := id
  methodId := id

end LSPlant
