import LSPlant.Events
/-!
# What intercepted functions leave alone

An ART function LSPlant intercepts moves entry points and data pointers
between methods. Which methods are hooked, with which backups, which
trampolines exist and what kind of method each one is, it does not touch.
-/

namespace LSPlant

/-- **The same hooks**: two states agree on which methods are hooked and
how, on the trampolines, and on what methods there are. -/
structure SameHooks (s s' : State) : Prop where
  hookedMethods : s'.hookedMethods = s.hookedMethods
  backupedMethods : s'.backupedMethods = s.backupedMethods
  hookedClasses : s'.hookedClasses = s.hookedClasses
  backupedProxyMethods : s'.backupedProxyMethods = s.backupedProxyMethods
  trampolines : s'.trampolines = s.trampolines
  methods : s'.SameMethods s

/-- **The same registries**, and the same hooks with them. -/
structure SameRegistry (s s' : State) : Prop where
  toRegistry : s'.toRegistry = s.toRegistry
  trampolines : s'.trampolines = s.trampolines
  methods : s'.SameMethods s

variable {art : Art} {s s' s'' : State} {m : ArtMethodPtr} {e : EntryPoint} {c d : ℕ}

namespace SameRegistry

theorem refl (s : State) : SameRegistry s s := ⟨rfl, rfl, .refl s⟩

theorem trans (h : SameRegistry s s') (h' : SameRegistry s' s'') : SameRegistry s s'' :=
  ⟨h'.toRegistry.trans h.toRegistry, h'.trampolines.trans h.trampolines,
    h'.methods.trans h.methods⟩

theorem sameHooks (h : SameRegistry s s') : SameHooks s s' where
  hookedMethods := by rw [h.toRegistry]
  backupedMethods := by rw [h.toRegistry]
  hookedClasses := by rw [h.toRegistry]
  backupedProxyMethods := by rw [h.toRegistry]
  trampolines := h.trampolines
  methods := h.methods

theorem setEntryPoint : SameRegistry s (s.setEntryPoint art m e) :=
  ⟨rfl, rfl, State.sameMethods_setEntryPoint⟩

theorem setData : SameRegistry s (s.setData m d) := ⟨rfl, rfl, State.sameMethods_setData⟩

theorem artSetEntryPoint : SameRegistry s (s.artSetEntryPoint m c) :=
  ⟨rfl, rfl, State.sameMethods_artSetEntryPoint⟩

theorem setEntryPointsToInterpreter :
    SameRegistry s (setEntryPointsToInterpreter art s m).1 := by
  unfold LSPlant.setEntryPointsToInterpreter
  split
  · exact setEntryPoint
  · split
    · exact artSetEntryPoint
    · exact refl s

/-- A loop over writes that each leave the registries alone. -/
theorem foldl {α : Type*} {body : State → α → State} (h : ∀ s a, SameRegistry s (body s a))
    (l : List α) (s : State) : SameRegistry s (l.foldl body s) := by
  induction l generalizing s with
  | nil => exact refl s
  | cons a l ih => exact (h s a).trans (ih _)

theorem forEach {α β : Type*} [DecidableEq α] {body : State → α → β → State}
    (h : ∀ s a v, SameRegistry s (body s a v)) (order : List α) (t : Table α β) (s : State) :
    SameRegistry s (Table.forEach order t body s) :=
  Table.forEach_induction (P := SameRegistry s) (refl s) fun _ _ _ _ _ hs => hs.trans (h ..)

/-! ## The wrappers -/

theorem handleMethodCodeUpdated {old new : EntryPoint} :
    SameRegistry s (handleMethodCodeUpdated art s m old new) := by
  unfold LSPlant.handleMethodCodeUpdated
  split
  · simp only
    split
    · exact setEntryPoint
    · exact setEntryPoint.trans setEntryPoint
  · split
    · exact setEntryPoint
    · exact refl s

theorem updateMethodsCode {q i : ℕ} : SameRegistry s (updateMethodsCode art s m q i) := by
  unfold LSPlant.updateMethodsCode
  simp only
  split
  · exact artSetEntryPoint.trans handleMethodCodeUpdated
  · exact artSetEntryPoint

theorem updateNative {saved : NativeMethodState} :
    SameRegistry s (updateNative art s m saved) := by
  unfold LSPlant.updateNative
  split
  · exact refl s
  · exact ((setData.trans setEntryPoint).trans setData).trans setEntryPoint

theorem withUpdater {methods : Table ArtMethodPtr NativeMethodState}
    {written : List (ArtMethodPtr × ℕ)} {order : List ArtMethodPtr} :
    SameRegistry s (withUpdater art s methods written order) :=
  (foldl (fun _ _ => setData) written s).trans (forEach (fun _ _ _ => updateNative) ..)

theorem backupClassMethods {cd : ClassDefPtr} {self : ThreadPtr} :
    SameRegistry s (backupClassMethods s cd self) :=
  ⟨backupClassMethods_toRegistry, backupClassMethods_trampolines, fun n => by
    rw [State.view, State.view, backupClassMethods_heap]; exact ⟨rfl, rfl⟩⟩

theorem restoreMethod : SameRegistry s (restoreMethod art s m e) := by
  unfold LSPlant.restoreMethod
  simp only
  split
  · split
    · exact setEntryPoint.trans setEntryPoint
    · exact setEntryPoint
  · split
    · exact setEntryPoint.trans setEntryPointsToInterpreter
    · exact setEntryPoint

theorem restoreBackup {cd : ClassDefPtr} {self : ThreadPtr} {order : RestoreOrder} :
    SameRegistry s (restoreBackup art s cd self order) := by
  have hpop : SameRegistry s { s with
      backupMethods := (popBackup s.backupMethods cd self order).2 } := ⟨rfl, rfl, .refl s⟩
  exact hpop.trans (forEach (fun _ _ _ => restoreMethod) ..)

theorem fixupStaticTrampolines {cd : ClassDefPtr} {self : ThreadPtr}
    {rewritten : List (ArtMethodPtr × ℕ)} {order : RestoreOrder} :
    SameRegistry s (fixupStaticTrampolines art s cd self rewritten order) :=
  (foldl (fun _ _ => artSetEntryPoint) rewritten s).trans restoreBackup

end SameRegistry

namespace SameHooks

theorem trans (h : SameHooks s s') (h' : SameHooks s' s'') : SameHooks s s'' where
  hookedMethods := h'.hookedMethods.trans h.hookedMethods
  backupedMethods := h'.backupedMethods.trans h.backupedMethods
  hookedClasses := h'.hookedClasses.trans h.hookedClasses
  backupedProxyMethods := h'.backupedProxyMethods.trans h.backupedProxyMethods
  trampolines := h'.trampolines.trans h.trampolines
  methods := h'.methods.trans h.methods

/-- What is recorded of deoptimized methods is no part of the hooks. -/
theorem deoptimized {t : Table ArtMethodPtr EntryPoint}
    {cs : Table ClassDefPtr (Finset ArtMethodPtr)} :
    SameHooks s { s with deoptimizedMethods := t, deoptimizedClasses := cs } :=
  ⟨rfl, rfl, rfl, rfl, rfl, .refl s⟩

theorem dressDown {saved : SavedMethod} : SameHooks s (dressDown art s m saved) := by
  unfold LSPlant.dressDown
  split
  · split
    · exact SameHooks.deoptimized.trans SameRegistry.setEntryPoint.sameHooks
    · exact (SameRegistry.refl s).sameHooks
  · split
    · exact (SameRegistry.setData.trans SameRegistry.setEntryPoint).sameHooks
    · exact ((SameRegistry.setData.trans SameRegistry.setEntryPoint).trans
        SameRegistry.setEntryPoint).sameHooks

theorem dressUp {order : MapOrder} : SameRegistry s (dressUp art s order).1 :=
  Table.forEach_induction (P := fun acc : State × Table ArtMethodPtr SavedMethod =>
      SameRegistry s acc.1)
    (Table.forEach_induction (P := fun acc : State × Table ArtMethodPtr SavedMethod =>
        SameRegistry s acc.1) (SameRegistry.refl s)
      fun _ _ _ _ _ h => h.trans SameRegistry.setEntryPoint)
    fun _ _ _ _ _ h => h.trans (SameRegistry.setData.trans SameRegistry.setEntryPoint)

end SameHooks

/-- **What the passes of the third loop keep, the remapping keeps**: the
loops before it leave the registries alone. -/
theorem mapBootImageMethods_induction {P : State → Prop}
    {remapped : List (ArtMethodPtr × ℕ × ℕ)} {order : MapOrder}
    (hsame : ∀ u, SameRegistry s u → P u)
    (hpass : ∀ u m saved, P u → P (dressDown art u m saved)) :
    P (mapBootImageMethods art s remapped order) := by
  have hmap : SameRegistry (dressUp art s order).1
      (artMapMethods (dressUp art s order).1 remapped) :=
    SameRegistry.foldl (fun _ _ => SameRegistry.setData.trans SameRegistry.artSetEntryPoint) ..
  exact Table.forEach_induction (hsame _ (SameHooks.dressUp.trans hmap))
    fun u m saved _ _ hu => hpass u m saved hu

/-- A pass changes one of the containers at most. -/
theorem toRegistry_dressDown (art : Art) (u : State) (m : ArtMethodPtr) (saved : SavedMethod) :
    (dressDown art u m saved).toRegistry = u.toRegistry ∨
      (dressDown art u m saved).toRegistry = { u.toRegistry with
        deoptimizedMethods := u.deoptimizedMethods.insert m (u.getEntryPoint m) } := by
  unfold dressDown
  split
  · split
    · exact Or.inr rfl
    · exact Or.inl rfl
  · split <;> exact Or.inl rfl

namespace SameHooks

theorem mapBootImageMethods {remapped : List (ArtMethodPtr × ℕ × ℕ)} {order : MapOrder} :
    SameHooks s (mapBootImageMethods art s remapped order) :=
  mapBootImageMethods_induction (fun _ hu => hu.sameHooks) fun _ _ _ hu => hu.trans dressDown

theorem moveObsoleteMethod {movement : ArtMethodPtr × ArtMethodPtr} :
    SameRegistry s (moveObsoleteMethod art s movement) := by
  unfold LSPlant.moveObsoleteMethod
  split
  · exact ⟨rfl, rfl, .refl s⟩
  · exact SameRegistry.setData.trans SameRegistry.setData

theorem moveObsoleteMethods : SameHooks s (moveObsoleteMethods art s) := by
  have hclear : SameHooks s { s with jitMovements := [] } := ⟨rfl, rfl, rfl, rfl, rfl, .refl s⟩
  exact hclear.trans (SameRegistry.foldl (fun _ _ => moveObsoleteMethod) ..).sameHooks

end SameHooks

/-- **Which events can change the hooks.** -/
def Event.isHooking : Event → Bool
  | .hook _ | .unHook _ | .setHookEnabled _ _ => true
  | _ => false

/-- **Every other event leaves the hooks as they are.** -/
theorem sameHooks_step {ev : Event} (h : ev.isHooking = false) : SameHooks s (step art s ev) := by
  cases ev with
  | hook request => cases h
  | unHook target => cases h
  | setHookEnabled target enabled => cases h
  | deoptimize method =>
    show SameHooks s (deoptimize art s method).1
    rcases deoptimize_cases art s method with ⟨-, he⟩ | ⟨m, -, -, -, he⟩ <;> rw [he]
    · exact (SameRegistry.refl s).sameHooks
    · exact SameHooks.deoptimized.trans SameRegistry.setEntryPointsToInterpreter.sameHooks
  | updateMethodsCode m q i => exact SameRegistry.updateMethodsCode.sameHooks
  | registerNative m d => exact SameRegistry.setData.sameHooks
  | unregisterNative m d => exact SameRegistry.setData.sameHooks
  | registerNatives natives written order => exact SameRegistry.withUpdater.sameHooks
  | unregisterNatives visited written order => exact SameRegistry.withUpdater.sameHooks
  | backupClassMethods cd self => exact SameRegistry.backupClassMethods.sameHooks
  | fixupStaticTrampolines cd self rewritten order =>
    exact SameRegistry.fixupStaticTrampolines.sameHooks
  | mapBootImageMethods remapped order => exact SameHooks.mapBootImageMethods
  | collect => exact SameHooks.moveObsoleteMethods

/-! ## Pending snapshots -/

/-- **The two halves of a class initialisation.** -/
def Event.isInitialization : Event → Bool
  | .backupClassMethods _ _ | .fixupStaticTrampolines _ _ _ _ => true
  | _ => false

/-- **Every other event leaves the pending snapshots as they are.** -/
theorem backupMethods_step {ev : Event} (hA : admissible art s ev)
    (h : ev.isInitialization = false) : (step art s ev).backupMethods = s.backupMethods := by
  have hupdater : ∀ methods written order,
      (withUpdater art s methods written order).backupMethods = s.backupMethods :=
    fun methods written order => by
      refine Table.forEach_induction (P := fun u : State => u.backupMethods = s.backupMethods)
        ?_ fun u m saved _ _ hu => ?_
      · exact List.foldlRecOn (motive := fun u : State => u.backupMethods = s.backupMethods)
          written _ rfl fun u hu w _ => hu
      · unfold updateNative
        split <;> exact hu
  cases ev with
  | hook request =>
    show (hookMethod art s request).1.backupMethods = _
    rcases hookMethod_cases art s request (backup_ne_target hA) with
      ⟨T, -, h⟩ | ⟨target, stub, a, slot, s', h, hh⟩ <;> rw [h]
    exact hh.backupMethods
  | unHook tm =>
    show (unHook art s tm).1.backupMethods = _
    rcases unHook_cases art s tm with ⟨h, -⟩ | ⟨target, record, s', -, h, hu⟩ <;> rw [h]
    exact hu.backupMethods
  | setHookEnabled tm enabled =>
    show (setHookEnabled art s tm enabled).1.backupMethods = _
    rcases setHookEnabled_cases art s tm enabled with
      ⟨h, -⟩ | ⟨n, record, -, -, ⟨-, h⟩ | ⟨-, h⟩⟩ <;> rw [h]
  | deoptimize method =>
    show (deoptimize art s method).1.backupMethods = _
    rcases deoptimize_cases art s method with ⟨-, he⟩ | ⟨m, -, -, -, he⟩ <;> rw [he]
    exact (onlyHeap_setEntryPointsToInterpreter _ _ _).backupMethods
  | updateMethodsCode m q i =>
    simp only [step, updateMethodsCode, handleMethodCodeUpdated]
    split
    · split
      · split <;> rfl
      · split <;> rfl
    · rfl
  | registerNative m d => rfl
  | unregisterNative m d => rfl
  | registerNatives natives written order => exact hupdater _ _ _
  | unregisterNatives visited written order => exact hupdater _ _ _
  | backupClassMethods cd self => cases h
  | fixupStaticTrampolines cd self rewritten order => cases h
  | mapBootImageMethods remapped order =>
    refine Table.forEach_induction (P := fun u : State => u.backupMethods = s.backupMethods)
      ?_ fun u m saved _ _ hu => ?_
    · refine List.foldlRecOn (motive := fun u : State => u.backupMethods = s.backupMethods)
        remapped _ ?_ fun u hu w _ => hu
      refine Table.forEach_induction (P := fun acc : State × Table ArtMethodPtr SavedMethod =>
        acc.1.backupMethods = s.backupMethods) ?_ fun acc m record _ _ hacc => hacc
      exact Table.forEach_induction (P := fun acc : State × Table ArtMethodPtr SavedMethod =>
        acc.1.backupMethods = s.backupMethods) rfl fun acc m original _ _ hacc => hacc
    · unfold dressDown
      split <;> split <;> exact hu
  | collect =>
    refine List.foldlRecOn (motive := fun u : State => u.backupMethods = s.backupMethods)
      s.jitMovements _ rfl fun u hu p _ => ?_
    unfold moveObsoleteMethod
    split <;> exact hu

end LSPlant
