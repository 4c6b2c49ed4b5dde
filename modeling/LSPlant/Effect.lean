import LSPlant.Hook
/-!
# What a call of the API does

One statement for each call. A `Hook` that fails takes a trampoline slot
at most; one that succeeds changes the target, the backup and the
registries in the way `Hooked` lists field by field, and `UnHook` undoes
it as `UnHooked` says. What is proved about runs is proved from these.
-/

namespace LSPlant

variable {art : Art} {s s' : State} {target hook backup n : ArtMethodPtr} {mmap : Option ℕ}
  {ok : Bool}

/-! ## Hooking -/

theorem onlyHeap_backupTo : s.OnlyHeap (backupTo art s target backup) := by
  simp only [backupTo]
  split <;> rfl

/-- `BackupTo` copies a record, up to flags. -/
theorem view_backupTo :
    (backupTo art s target backup).view n =
      if n = backup then s.view target else s.view n := by
  have h₁ : ∀ n, (s.modify target (·.setNonCompilable art)).view n = s.view n := fun n =>
    State.view_modify_of_view fun r => ArtMethod.view_setNonCompilable
  have h₂ : ∀ (u : State) n, (u.modify target (·.clearFastInterpretFlag art)).view n = u.view n :=
    fun u n => State.view_modify_of_view fun r => ArtMethod.view_clearFastInterpretFlag
  have h₃ : ∀ (u : State) n, (u.modify backup (·.setPrivate)).view n = u.view n :=
    fun u n => State.view_modify_of_view fun r => ArtMethod.view_setPrivate
  simp only [backupTo]
  split
  · rw [h₂, State.view_modify, h₁]
    split
    · exact h₁ target
    · rfl
  · rw [h₃, h₂, State.view_modify, h₁]
    split
    · exact h₁ target
    · rfl

/-- **What `DoHook` does**, the two ways it can go: the target has the
trampoline, the backup is what the target was. -/
theorem doHook_cases (art : Art) (s : State) (hook : ArtMethodPtr) (mmap : Option ℕ) (ok : Bool)
    (hne : backup ≠ target) :
    (∃ T, generateTrampolineFor art s.trampolines hook mmap ok = (T, none) ∧
        doHook art s target hook backup mmap ok = ({ s with trampolines := T }, none)) ∨
      ∃ T a slot s', generateTrampolineFor art s.trampolines hook mmap ok = (T, some (a, slot)) ∧
        doHook art s target hook backup mmap ok = (s', some slot) ∧
        State.OnlyHeap { s with trampolines := T } s' ∧
        ∀ n, s'.view n =
          if n = target then { s.view target with entryPoint := .trampoline a }
          else if n = backup then s.view target else s.view n := by
  rcases hgen : generateTrampolineFor art s.trampolines hook mmap ok with ⟨T, _ | ⟨a, slot⟩⟩
  · exact Or.inl ⟨T, rfl, by simp [doHook, hgen]⟩
  refine Or.inr ⟨T, a, slot, _, rfl, by simp only [doHook, hgen]; rfl, ?_, fun n => ?_⟩
  · exact State.OnlyHeap.trans State.onlyHeap_modify (onlyHeap_backupTo.trans rfl)
  · have h₁ : ∀ n, ({ s with trampolines := T }.modify target (·.setNonIntrinsic art)).view n =
        s.view n := fun n =>
      State.view_modify_of_view fun r => ArtMethod.view_setNonIntrinsic
    have h₂ : ∀ (u : State) n, (u.modify target (·.setNonCompilable art)).view n = u.view n :=
      fun u n => State.view_modify_of_view fun r => ArtMethod.view_setNonCompilable
    have h₃ : ∀ (u : State) n, (u.modify backup (·.setNonConstructor)).view n = u.view n :=
      fun u n => State.view_modify_of_view fun r => ArtMethod.view_setNonConstructor
    rw [h₃, State.view_setEntryPoint, h₂, h₂, view_backupTo, view_backupTo, h₁, h₁,
      if_neg hne.symm]

/-- The record a hook starts with. -/
def Stub.record (stub : Stub) (slot : ℕ) : HookRecord where
  hook := stub.hook
  backup := stub.backup
  methodEntrySlot := slot
  backupMethod := stub.backupMethod
  enabled := true

/-- **What is recorded of a hook**, container by container. -/
theorem recordHook_eq {stub : Stub} {isProxy : Bool} {slot : ℕ} :
    recordHook art s target stub isProxy slot = { s with
      hookedMethods := Table.emplace s.hookedMethods target (stub.record slot)
      backupedMethods := Table.emplace s.backupedMethods stub.backup target
      hookedClasses := Registry.addToClass s.hookedClasses (s.classDef art target) target
      deoptimizedMethods :=
        Table.emplace s.deoptimizedMethods stub.backup (s.getEntryPoint stub.backup)
      deoptimizedClasses :=
        Registry.addToClass s.deoptimizedClasses (s.classDef art stub.hook) stub.backup
      backupedProxyMethods :=
        if isProxy then insert stub.backup s.backupedProxyMethods else s.backupedProxyMethods
      jitMovements :=
        if isProxy then s.jitMovements else s.jitMovements ++ [(target, stub.backup)]
      internalMethods :=
        propagateInternalMethod (art.methodId target) stub.backupMethod s.internalMethods } := by
  cases isProxy <;> rfl

/-- **A method got hooked**: `s'` is `s` with the target's entry point the
trampoline at `a`, the backup a copy of the target, and the hook
recorded. -/
structure Hooked (art : Art) (s : State) (request : HookRequest) (target : ArtMethodPtr)
    (stub : Stub) (a slot : ℕ) (s' : State) : Prop where
  target_eq : request.target = some target
  built_eq : request.built = some stub
  notHooked : target ∉ s.hookedMethods
  notBackup : target ∉ s.backupedMethods
  generated : generateTrampolineFor art s.trampolines stub.hook request.mmap request.mprotectOk =
    (s'.trampolines, some (a, slot))
  view : ∀ n, s'.view n =
    if n = target then { s.view target with entryPoint := .trampoline a }
    else if n = stub.backup then s.view target else s.view n
  hookedMethods : s'.hookedMethods = s.hookedMethods.insert target (stub.record slot)
  backupedMethods : s'.backupedMethods = Table.emplace s.backupedMethods stub.backup target
  hookedClasses : s'.hookedClasses =
    Registry.addToClass s.hookedClasses (s.classDef art target) target
  backupedProxyMethods : s'.backupedProxyMethods =
    if request.isProxy then insert stub.backup s.backupedProxyMethods
    else s.backupedProxyMethods
  jitMovements : s'.jitMovements =
    if request.isProxy then s.jitMovements else s.jitMovements ++ [(target, stub.backup)]
  deoptimizedMethods : s'.deoptimizedMethods =
    Table.emplace s.deoptimizedMethods stub.backup (s.getEntryPoint target)
  deoptimizedClasses : stub.backup ≠ stub.hook → s'.deoptimizedClasses =
    Registry.addToClass s.deoptimizedClasses (s.classDef art stub.hook) stub.backup
  backupMethods : s'.backupMethods = s.backupMethods
  codeOwner : s'.codeOwner = s.codeOwner

/-- **What `Hook` does**, the two ways it can go. -/
theorem hookMethod_cases (art : Art) (s : State) (request : HookRequest)
    (hne : ∀ stub ∈ request.built, ∀ t ∈ request.target, stub.backup ≠ t) :
    (∃ T, (T = s.trampolines ∨ ∃ stub ∈ request.built, T =
          (generateTrampolineFor art s.trampolines stub.hook request.mmap request.mprotectOk).1) ∧
        hookMethod art s request = ({ s with trampolines := T }, none)) ∨
      ∃ target stub a slot s', hookMethod art s request = (s', some stub.backup) ∧
        Hooked art s request target stub a slot s' := by
  have hrefused : ∀ r, r = (s, none) → (∃ T, (T = s.trampolines ∨ ∃ stub ∈ request.built, T =
      (generateTrampolineFor art s.trampolines stub.hook request.mmap request.mprotectOk).1) ∧
      r = ({ s with trampolines := T }, (none : Option ArtMethodPtr))) :=
    fun r hr => ⟨s.trampolines, Or.inl rfl, hr⟩
  unfold hookMethod
  cases htarget : request.target with
  | none => exact Or.inl (hrefused _ rfl)
  | some target =>
    simp only
    split_ifs with hpack habstract hdup hforeign
    · exact Or.inl (hrefused _ rfl)
    · exact Or.inl (hrefused _ rfl)
    · exact Or.inl (hrefused _ rfl)
    · exact Or.inl (hrefused _ rfl)
    cases hbuilt : request.built with
    | none => exact Or.inl ⟨s.trampolines, Or.inl rfl, rfl⟩
    | some stub =>
      have hneq : stub.backup ≠ target := hne stub hbuilt target htarget
      rcases doHook_cases art s stub.hook request.mmap request.mprotectOk hneq with
        ⟨T, hgen, hdo⟩ | ⟨T, a, slot, u, hgen, hdo, hheap, hview⟩
      · left
        refine ⟨T, Or.inr ⟨stub, rfl, by rw [hgen]⟩, by simp [hdo]⟩
      · right
        rw [not_or, not_not, not_not] at hdup
        have hreg : u.toRegistry = s.toRegistry := hheap.toRegistry
        have hnh : target ∉ s.hookedMethods := Registry.isHooked_eq_none.1 hdup.1
        have hcd : u.classDef art target = s.classDef art target :=
          State.classDef_congr (by rw [hview, if_pos rfl])
        have hhook : stub.backup ≠ stub.hook →
            u.classDef art stub.hook = s.classDef art stub.hook := by
          intro hne
          refine State.classDef_congr ?_
          rw [hview]
          split_ifs with ht hb
          · rw [ht]
          · exact absurd hb.symm hne
          · rfl
        have hentry : u.getEntryPoint stub.backup = s.getEntryPoint target := by
          rw [← State.view_entryPoint, hview, if_neg hneq, if_pos rfl, State.view_entryPoint]
        refine ⟨target, stub, a, slot, recordHook art u target stub request.isProxy slot,
          by simp only [hdo], ?_⟩
        rw [recordHook_eq, hcd, hentry, hreg]
        exact {
          target_eq := htarget
          built_eq := hbuilt
          notHooked := hnh
          notBackup := Finmap.lookup_eq_none.1 hdup.2
          generated := by rw [hgen]; exact congrArg (·, some (a, slot)) hheap.trampolines.symm
          view := hview
          hookedMethods := if_neg hnh
          backupedMethods := rfl
          hookedClasses := rfl
          backupedProxyMethods := rfl
          jitMovements := rfl
          deoptimizedMethods := rfl
          deoptimizedClasses := fun hne => by rw [hhook hne]
          backupMethods := hheap.backupMethods
          codeOwner := hheap.codeOwner }

/-! ## Unhooking -/

/-- `DoUnHook` copies the record back, up to flags. -/
theorem view_doUnHook :
    (doUnHook s target backup).view n =
      if n = target then { s.view backup with kind := (s.view target).kind } else s.view n := by
  unfold doUnHook
  rw [State.view_modify, State.view_modify]
  split
  · rw [State.heap_modify, if_pos rfl]; rfl
  · rfl

/-- **A method got unhooked**: `s'` is `s` with what the backup has on the
target and the hook taken out. -/
structure UnHooked (art : Art) (s : State) (target : ArtMethodPtr) (record : HookRecord)
    (s' : State) : Prop where
  hooked : s.hookedMethods.lookup target = some record
  view : ∀ n, s'.view n =
    if n = target then { s.view record.backup with kind := (s.view target).kind } else s.view n
  toRegistry : s'.toRegistry =
    s.recordUnhooked target record.backup (s.classDef art target)
  trampolines : s'.trampolines = s.trampolines
  backupMethods : s'.backupMethods = s.backupMethods
  codeOwner : s'.codeOwner = s.codeOwner

/-- **What `UnHook` does**, the two ways it can go. -/
theorem unHook_cases (art : Art) (s : State) (targetMethod : Option ArtMethodPtr) :
    (unHook art s targetMethod = (s, false) ∧ ∀ t ∈ targetMethod, t ∉ s.hookedMethods) ∨
      ∃ target record s', targetMethod = some target ∧
        unHook art s targetMethod = (s', true) ∧ UnHooked art s target record s' := by
  unfold unHook
  cases targetMethod with
  | none => exact Or.inl ⟨rfl, by simp⟩
  | some target =>
    cases hrec : s.hookedMethods.lookup target with
    | none =>
      refine Or.inl ⟨by simp only [hrec], fun t ht => ?_⟩
      obtain rfl : target = t := Option.some.inj ht
      exact Finmap.lookup_eq_none.1 hrec
    | some record =>
      refine Or.inr ⟨target, record, _, rfl, by simp only [hrec]; rfl, ?_⟩
      exact ⟨hrec, fun n => view_doUnHook, rfl, rfl, rfl, rfl⟩

/-! ## Switching a hook on and off -/

/-- **What `SetHookEnabled` does**, the three ways it can go. -/
theorem setHookEnabled_cases (art : Art) (s : State) (targetMethod : Option ArtMethodPtr)
    (enabled : Bool) :
    (setHookEnabled art s targetMethod enabled = (s, false) ∧
        ∀ t ∈ targetMethod, t ∉ s.hookedMethods) ∨
      ∃ target record, targetMethod = some target ∧
        s.hookedMethods.lookup target = some record ∧
        ((record.enabled = enabled ∧ setHookEnabled art s targetMethod enabled = (s, enabled)) ∨
          (record.enabled = !enabled ∧ setHookEnabled art s targetMethod enabled =
            ({ s with
              trampolines := { s.trampolines with mem := (writeThroughSlot art s.trampolines.mem
                record.methodEntrySlot (if enabled then record.backup else record.hook)).1 }
              hookedMethods := s.hookedMethods.insert target { record with
                enabled
                methodEntrySlot := (writeThroughSlot art s.trampolines.mem record.methodEntrySlot
                  (if enabled then record.backup else record.hook)).2 } }, !enabled))) := by
  unfold setHookEnabled
  cases targetMethod with
  | none => exact Or.inl ⟨rfl, by simp⟩
  | some target =>
    cases hrec : s.hookedMethods.lookup target with
    | none =>
      refine Or.inl ⟨by simp only [hrec], fun t ht => ?_⟩
      obtain rfl : target = t := Option.some.inj ht
      exact Finmap.lookup_eq_none.1 hrec
    | some record =>
      refine Or.inr ⟨target, record, rfl, hrec, ?_⟩
      by_cases h : record.enabled = enabled
      · exact Or.inl ⟨h, by simp [hrec, h]⟩
      · have hnot : record.enabled = !enabled := by
          cases hr : record.enabled <;> cases enabled <;> simp_all
        exact Or.inr ⟨hnot, by simp [hrec, h]⟩

/-! ## Deoptimizing -/

theorem onlyHeap_setEntryPointsToInterpreter (art : Art) (s : State) (n : ArtMethodPtr) :
    s.OnlyHeap (setEntryPointsToInterpreter art s n).1 := by
  unfold setEntryPointsToInterpreter
  split
  · rfl
  · split <;> rfl

/-- Setting a method to the interpreter touches its entry point only, and
leaves no trampoline there. -/
theorem view_setEntryPointsToInterpreter (art : Art) (s : State) (n m : ArtMethodPtr) :
    ∃ c, (setEntryPointsToInterpreter art s m).1.view n =
        if n = m ∧ canSetEntryPointsToInterpreter art = true then
          { s.view m with entryPoint := .code c } else s.view n := by
  unfold setEntryPointsToInterpreter canSetEntryPointsToInterpreter
  by_cases hbridge : art.artQuickToInterpreterBridge = 0
  · cases hsym : art.setEntryPointsToInterpreterSym with
    | none => exact ⟨0, by simp [hbridge]⟩
    | some code =>
      refine ⟨code (s.heap m).accessFlags, ?_⟩
      simp [hbridge, State.view_artSetEntryPoint]
  · exact ⟨art.artQuickToInterpreterBridge, by simp [hbridge, State.view_setEntryPoint]⟩

/-- With the bridge known, that is where it points. -/
theorem setEntryPointsToInterpreter_of_bridge {m : ArtMethodPtr}
    (h : art.artQuickToInterpreterBridge ≠ 0) :
    setEntryPointsToInterpreter art s m =
      (s.setEntryPoint art m (.code art.artQuickToInterpreterBridge), true) := if_pos h

/-- **The entry point of the interpreter** for a method, if it can be set
to one. -/
def interpreterEntryPoint (art : Art) (s : State) (m : ArtMethodPtr) : Option EntryPoint :=
  if art.artQuickToInterpreterBridge ≠ 0 then some (.code art.artQuickToInterpreterBridge)
  else art.setEntryPointsToInterpreterSym.map fun code => .code (code (s.heap m).accessFlags)

theorem getEntryPoint_setEntryPointsToInterpreter :
    (setEntryPointsToInterpreter art s m).1.getEntryPoint m =
      (interpreterEntryPoint art s m).getD (s.getEntryPoint m) := by
  unfold setEntryPointsToInterpreter interpreterEntryPoint
  split
  · rw [State.getEntryPoint_setEntryPoint, if_pos rfl]
    rfl
  · cases art.setEntryPointsToInterpreterSym with
    | some code =>
      simp only [State.getEntryPoint_artSetEntryPoint, if_true]
      rfl
    | none => rfl

/-- **What `Deoptimize` does**, the two ways it can go: it refuses, or it
records the method and sets the body to the interpreter. -/
theorem deoptimize_cases (art : Art) (s : State) (method : Option ArtMethodPtr) :
    ((canSetEntryPointsToInterpreter art = false ∨ ∀ m ∈ method, (s.heap m).isNative = true) ∧
        deoptimize art s method = (s, false)) ∨
      ∃ m, method = some m ∧ canSetEntryPointsToInterpreter art = true ∧
        (s.heap m).isNative = false ∧
        deoptimize art s method =
          setEntryPointsToInterpreter art { s with
            toRegistry := s.recordDeoptimized (s.classDef art m) m (s.getEntryPoint m) }
            (mayGetBackup s m) := by
  unfold deoptimize
  cases method with
  | none => exact Or.inl ⟨Or.inr (by simp), rfl⟩
  | some m =>
    dsimp only
    split_ifs with hcan hnative
    · exact Or.inl ⟨Or.inl (by simpa using hcan), rfl⟩
    · refine Or.inl ⟨Or.inr fun n hn => ?_, rfl⟩
      rw [← Option.some.inj hn]
      exact hnative
    · exact Or.inr ⟨m, rfl, by simpa using hcan, Bool.eq_false_iff.2 hnative, rfl⟩

end LSPlant
