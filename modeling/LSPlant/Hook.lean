import LSPlant.Art.ClassLinker
/-!
# The API

`Hook`, `SetHookEnabled`, `UnHook` and `Deoptimize` of `lsplant.cc`. A
`jobject` that is null or not an executable is no method at all; what
`BuildDex` and the JNI lookups around it come back with, and whether a
page can be mapped and made writable, are part of the request.
-/

namespace LSPlant

variable (art : Art) (s : State)

/-- The callback of a `Hook`: native code, or a Java method with its
shorty and whether the hooker object is an instance of its class. -/
inductive Callback where
  | native (isNull : Bool)
  | java (isExecutable : Bool) (shorty : List Char) (hookerIsInstance : Bool)

/-- `should_pack_receiver_and_args`, or nothing for a callback that is
refused. -/
def Callback.shouldPack : Callback → Option Bool
  | .native isNull => if isNull then none else some false
  | .java isExecutable shorty _ =>
    if !isExecutable then none
    else if shorty = ['L', 'L'] then some true
    else if shorty = ['L', 'L', 'L'] then some false
    else none

/-- `callback_method is not a method of hooker_object`. -/
def Callback.isForeign : Callback → Bool
  | .native _ => false
  | .java _ _ hookerIsInstance => !hookerIsInstance

/-- The methods of a class `BuildDex` has built. -/
structure Stub where
  hook : ArtMethodPtr
  backup : ArtMethodPtr
  backupMethod : ℕ
deriving DecidableEq

/-- **A call of `Hook`.** -/
structure HookRequest where
  target : Option ArtMethodPtr
  callback : Callback
  isProxy : Bool
  built : Option Stub
  mmap : Option ℕ
  mprotectOk : Bool

/-! ## Hooking -/

/-- `BackupTo`. -/
def backupTo (target backup : ArtMethodPtr) : State :=
  let s := s.modify target (·.setNonCompilable art)
  let s := s.modify backup fun _ => s.heap target
  let s := s.modify target (·.clearFastInterpretFlag art)
  if (s.heap backup).isStatic then s else s.modify backup (·.setPrivate)

/-- **`DoHook`**, the slot of the trampoline returned. -/
def doHook (target hook backup : ArtMethodPtr) (mmap : Option ℕ) (mprotectOk : Bool) :
    State × Option ℕ :=
  match generateTrampolineFor art s.trampolines hook mmap mprotectOk with
  -- a slot that has been counted is not given back
  | (trampolines, none) => ({ s with trampolines }, none)
  | (trampolines, some (entrypoint, slot)) =>
    let s := { s with trampolines }.modify target (·.setNonIntrinsic art)
    let s := backupTo art s target backup
    let s := s.modify target (·.setNonCompilable art)
    let s := s.setEntryPoint art target (.trampoline entrypoint)
    let s := s.modify backup (·.setNonConstructor)
    (s, some slot)

/-- The first of the method ids LSPlant keeps that is the given one is
replaced. -/
def propagateInternalMethod (old new : ℕ) : List ℕ → List ℕ
  | [] => []
  | v :: vs => if v = old then new :: vs else v :: propagateInternalMethod old new vs

/-- What `HookMethod` does once `DoHook` has succeeded. -/
def recordHook (target : ArtMethodPtr) (stub : Stub) (isProxy : Bool) (slot : ℕ) : State :=
  let s := { s with internalMethods :=
    propagateInternalMethod (art.methodId target) stub.backupMethod s.internalMethods }
  let s := { s with
    toRegistry := s.recordHooked target stub.hook stub.backup (s.classDef art target) slot
      stub.backupMethod }
  let s := if !isProxy then { s with toRegistry := s.recordJitMovement target stub.backup }
    else { s with backupedProxyMethods := insert stub.backup s.backupedProxyMethods }
  -- under the class of the hook: the backup now declares the target's
  { s with
    toRegistry := s.recordDeoptimized (s.classDef art stub.hook) stub.backup
      (s.getEntryPoint stub.backup) }

/-- **`HookMethod` gets as far as `BuildDex`**: the method and the callback will
do, and the method is neither hooked nor a backup. -/
def reachesBuildDex (request : HookRequest) : Bool :=
  match request.target with
  | none => false
  | some target =>
    request.callback.shouldPack.isSome && !(s.heap target).isAbstract &&
      (s.isHooked target).isNone && (s.isBackup target).isNone && !request.callback.isForeign

/-- **`HookMethod`**: the backup, if the method got hooked. -/
def hookMethod (request : HookRequest) : State × Option ArtMethodPtr :=
  match request.target with
  | none => (s, none)
  | some target =>
    if request.callback.shouldPack = none then (s, none)
    else if (s.heap target).isAbstract then (s, none)
    else if s.isHooked target ≠ none ∨ s.isBackup target ≠ none then (s, none)
    else if request.callback.isForeign then (s, none)
    else match request.built with
      | none => (s, none)
      | some stub =>
        match doHook art s target stub.hook stub.backup request.mmap request.mprotectOk with
        | (s, none) => (s, none)
        | (s, some slot) => (recordHook art s target stub request.isProxy slot, some stub.backup)

/-- A `Hook` that does not get there changes nothing. -/
theorem hookMethod_of_not_reaches {request : HookRequest}
    (h : reachesBuildDex s request = false) : hookMethod art s request = (s, none) := by
  unfold reachesBuildDex at h
  unfold hookMethod
  cases htarget : request.target with
  | none => rfl
  | some target =>
    rw [htarget] at h
    simp only [Bool.and_eq_false_iff, Bool.not_eq_false', Option.isSome_eq_false_iff,
      Option.isNone_eq_false_iff] at h
    dsimp only
    rcases h with (((h | h) | h) | h) | h
    · rw [if_pos (Option.isNone_iff_eq_none.1 h)]
    · simp only [h, if_true, ite_self]
    · rw [if_pos (c := s.isHooked target ≠ none ∨ s.isBackup target ≠ none)
        (Or.inl (Option.isSome_iff_ne_none.1 h)), ite_self, ite_self]
    · rw [if_pos (c := s.isHooked target ≠ none ∨ s.isBackup target ≠ none)
        (Or.inr (Option.isSome_iff_ne_none.1 h)), ite_self, ite_self]
    · simp only [h, if_true, ite_self]

/-! ## Unhooking -/

/-- `DoUnHook`: the backup copied over the target, which keeps its flags. -/
def doUnHook (target backup : ArtMethodPtr) : State :=
  let accessFlags := (s.heap target).accessFlags
  let s := s.modify target fun _ => s.heap backup
  s.modify target ({ · with accessFlags := accessFlags })

/-- What `UnHook` takes out of the registries. -/
def Registry.recordUnhooked (r : Registry) (target backup : ArtMethodPtr)
    (classDef : ClassDefPtr) : Registry :=
  { r with
    hookedMethods := r.hookedMethods.erase target
    backupedMethods := r.backupedMethods.erase backup
    backupedProxyMethods := r.backupedProxyMethods.erase backup
    hookedClasses := Registry.eraseFromClass r.hookedClasses classDef target }

/-- **`UnHook`.** -/
def unHook (targetMethod : Option ArtMethodPtr) : State × Bool :=
  match targetMethod with
  | none => (s, false)
  | some target =>
    match s.hookedMethods.lookup target with
    | none => (s, false)
    | some record =>
      -- what is recorded of the two as deoptimized stays
      let s := { s with
        toRegistry := s.recordUnhooked target record.backup (s.classDef art target) }
      let s := doUnHook s target record.backup
      ({ s with internalMethods :=
          propagateInternalMethod record.backupMethod (art.methodId target) s.internalMethods },
        true)

/-! ## Switching a hook on and off -/

/-- **`SetHookEnabled`**: what it returns is the state before the call. -/
def setHookEnabled (targetMethod : Option ArtMethodPtr) (enabled : Bool) : State × Bool :=
  match targetMethod with
  | none => (s, false)
  | some target =>
    match s.hookedMethods.lookup target with
    | none => (s, false)
    | some record =>
      if record.enabled = enabled then (s, enabled)
      else
        -- only the trampoline changes, not the target
        let written := writeThroughSlot art s.trampolines.mem record.methodEntrySlot
          (if enabled then record.backup else record.hook)
        ({ s with
            trampolines := { s.trampolines with mem := written.1 }
            hookedMethods := s.hookedMethods.insert target
              { record with enabled, methodEntrySlot := written.2 } }, !enabled)

/-! ## Deoptimizing -/

/-- **`Deoptimize`.** -/
def deoptimize (method : Option ArtMethodPtr) : State × Bool :=
  match method with
  | none => (s, false)
  | some artMethod =>
    if !canSetEntryPointsToInterpreter art then (s, false)
    else if (s.heap artMethod).isNative then (s, false)
    else
      -- of a hooked method, the trampoline is what is recorded
      let s := { s with
        toRegistry := s.recordDeoptimized (s.classDef art artMethod) artMethod
          (s.getEntryPoint artMethod) }
      setEntryPointsToInterpreter art s ((s.isHooked artMethod).getD artMethod)

end LSPlant
