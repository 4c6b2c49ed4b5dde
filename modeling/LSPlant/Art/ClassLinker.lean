import LSPlant.Art.Class
/-!
# ClassLinker

The interceptors of `class_linker.cxx`: native registration sent on to
the backup of a hooked method, the updater that does the same around
`JNIEnv`'s own functions by comparing before and after, and the entry
points put back when a class has been initialised.
-/

namespace LSPlant

variable (art : Art) (s : State)

/-! ## Setting entry points to the interpreter -/

/-- `art_quick_to_interpreter_bridge_ || SetEntryPointsToInterpreter_`. -/
def canSetEntryPointsToInterpreter : Bool :=
  art.artQuickToInterpreterBridge != 0 || art.setEntryPointsToInterpreterSym.isSome

/-- The bridge where it was found, ART's own function elsewhere. -/
def setEntryPointsToInterpreter (m : ArtMethodPtr) : State × Bool :=
  if art.artQuickToInterpreterBridge ≠ 0 then
    (s.setEntryPoint art m (.code art.artQuickToInterpreterBridge), true)
  else match art.setEntryPointsToInterpreterSym with
    | some code => (s.artSetEntryPoint m (code (s.heap m).accessFlags), true)
    | none => (s, false)

/-! ## Native registration -/

/-- The backup of a hooked method, any other method itself. -/
def mayGetBackup (m : ArtMethodPtr) : ArtMethodPtr := (s.isHooked m).getD m

/-- The four `RegisterNative` interceptors: ART's function, on the backup. -/
def registerNative (m : ArtMethodPtr) (nativeMethod : ℕ) : State :=
  s.setData (mayGetBackup s m) nativeMethod

/-- The four `UnregisterNative` interceptors. `stub` is the lookup stub
ART leaves as data pointer. -/
def unregisterNative (m : ArtMethodPtr) (stub : ℕ) : State :=
  s.setData (mayGetBackup s m) stub

/-- A `JNINativeMethod`, and what `GetMethodID` and `GetStaticMethodID`
find for its name and signature. -/
structure JNINativeMethod where
  hasName : Bool
  hasSignature : Bool
  fnPtr : ℕ
  methodId : Option ArtMethodPtr
  staticMethodId : Option ArtMethodPtr

/-- `getter[is_static]`. -/
def JNINativeMethod.get (native : JNINativeMethod) (isStatic : Bool) : Option ArtMethodPtr :=
  if isStatic then native.staticMethodId else native.methodId

/-- An entry of `methods_`: backup, data pointer and entry point. -/
structure NativeMethodState where
  backup : ArtMethodPtr
  data : ℕ
  entryPoint : EntryPoint

/-- The updater's table after one more method is looked at. -/
def recordNative (methods : Table ArtMethodPtr NativeMethodState) (m : ArtMethodPtr) :
    Table ArtMethodPtr NativeMethodState :=
  match s.isHooked m with
  | none => methods
  | some backup =>
    if (s.heap backup).isNative then
      methods.insert m { backup, data := s.getData m, entryPoint := s.getEntryPoint m }
    else methods

/-- One pass of the constructor for `RegisterNatives`. A method the getter
in turn does not find is tried with the other, which is kept then. -/
def recordRegistered (acc : Bool × Table ArtMethodPtr NativeMethodState)
    (native : JNINativeMethod) : Bool × Table ArtMethodPtr NativeMethodState :=
  if !native.hasName || !native.hasSignature || native.fnPtr == 0 then acc
  else match native.get acc.1 with
    | some m => (acc.1, recordNative s acc.2 m)
    | none => match native.get (!acc.1) with
      | some m => (!acc.1, recordNative s acc.2 m)
      | none => (!acc.1, acc.2)

/-- **The constructor for `RegisterNatives`.** -/
def registeredMethods (natives : List JNINativeMethod) : Table ArtMethodPtr NativeMethodState :=
  (natives.foldl (recordRegistered s) (true, ∅)).2

/-- **The constructor for `UnregisterNatives`**, given the methods of the
class in the order they are visited. -/
def unregisteredMethods (visited : List ArtMethodPtr) : Table ArtMethodPtr NativeMethodState :=
  visited.foldl (fun methods m => if (s.heap m).isNative then recordNative s methods m else methods)
    ∅

/-- One pass of the destructor. -/
def updateNative (s : State) (m : ArtMethodPtr) (saved : NativeMethodState) : State :=
  if s.getData m = saved.data ∧ s.getEntryPoint m = saved.entryPoint then s
  else
    -- whichever of the two has changed, both go to the backup
    let s := s.setData saved.backup (s.getData m)
    let s := s.setEntryPoint art saved.backup (s.getEntryPoint m)
    let s := s.setData m saved.data
    s.setEntryPoint art m saved.entryPoint

/-- ART gives native methods their functions. -/
def artSetNatives (written : List (ArtMethodPtr × ℕ)) : State :=
  written.foldl (fun s w => s.setData w.1 w.2) s

/-- **`NativeMethodEntryPointUpdater`** around ART's own function, which
writes the data pointers it is given; the destructor's loop visits the
table in the given order. -/
def withUpdater (methods : Table ArtMethodPtr NativeMethodState)
    (written : List (ArtMethodPtr × ℕ)) (order : List ArtMethodPtr) : State :=
  Table.forEach order methods (updateNative art) (artSetNatives s written)

/-- `RegisterNativesJNIEnv_`. -/
def registerNatives (natives : List JNINativeMethod) (written : List (ArtMethodPtr × ℕ))
    (order : List ArtMethodPtr) : State :=
  withUpdater art s (registeredMethods s natives) written order

/-- `UnregisterNativesJNIEnv_`. -/
def unregisterNatives (visited : List ArtMethodPtr) (written : List (ArtMethodPtr × ℕ))
    (order : List ArtMethodPtr) : State :=
  withUpdater art s (unregisteredMethods s visited) written order

/-! ## Restoring entry points -/

/-- One pass of `RestoreBackup`. -/
def restoreMethod (s : State) (m : ArtMethodPtr) (oldTrampoline : EntryPoint) : State :=
  let newTrampoline := s.getEntryPoint m
  let s := s.setEntryPoint art m oldTrampoline
  match s.isHooked m with
  | some backup =>
    if ¬ s.isDeoptimized m ∧ newTrampoline ≠ oldTrampoline then
      s.setEntryPoint art backup newTrampoline
    else s
  | none =>
    -- backups are recorded as deoptimized when their targets are hooked
    if s.isDeoptimized m ∧ newTrampoline ≠ .code art.artQuickToInterpreterBridge ∧
        (s.heap m).isNative = false then
      (setEntryPointsToInterpreter art s m).1
    else s

/-- **`RestoreBackup`.** -/
def restoreBackup (classDef : ClassDefPtr) (self : ThreadPtr) (order : RestoreOrder) : State :=
  let popped := popBackup s.backupMethods classDef self order
  Table.forEach order.methods popped.1 (restoreMethod art) { s with backupMethods := popped.2 }

/-- ART installs code on the methods of a list. -/
def artInstall (installed : List (ArtMethodPtr × ℕ)) : State :=
  installed.foldl (fun s w => s.artSetEntryPoint w.1 w.2) s

/-- **The five interceptors of ART's static trampoline fixup**: ART's
function, which rewrites static entry points, and then `RestoreBackup`.
`AdjustThreadVisibilityCounter` and `MarkVisiblyInitialized` pass no
class. -/
def fixupStaticTrampolines (classDef : ClassDefPtr) (self : ThreadPtr)
    (rewritten : List (ArtMethodPtr × ℕ)) (order : RestoreOrder) : State :=
  restoreBackup art (artInstall s rewritten) classDef self order

end LSPlant
