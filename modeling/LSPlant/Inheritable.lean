import LSPlant.HookerClass
/-!
# Classes made inheritable

`MakeClassInheritable` rewrites the flags of a class and of its
constructors. Hooks rewrite flags too, those the compiler and the
interpreter go by, and `UnHook` puts a method's own record back but for its
flags. So what Java sees of a constructor's modifiers depends on whether its
class was made inheritable at some time, and on no hook before or after.
-/

namespace LSPlant

/-! ## The code -/

namespace ArtMethod

variable (m : ArtMethod)

def isPublic : Bool := (m.accessFlags &&& kAccPublic) != 0
def isProtected : Bool := (m.accessFlags &&& kAccProtected) != 0
def isFinal : Bool := (m.accessFlags &&& kAccFinal) != 0

def setProtected : ArtMethod :=
  { m with accessFlags := (m.accessFlags ||| kAccProtected) &&& ~~~kAccPrivate &&&
      ~~~kAccPublic }

def setNonFinal : ArtMethod := { m with accessFlags := m.accessFlags &&& ~~~kAccFinal }

/-- What `MakeClassInheritable` does to a constructor. -/
def makeInheritable : ArtMethod :=
  let m := if !m.isPublic && !m.isProtected then m.setProtected else m
  if m.isFinal then m.setNonFinal else m

end ArtMethod

/-- A class, as reflection has it. -/
structure ReflectedClass where
  object : ℕ
  declaredConstructors : List ArtMethodPtr

/-- **Methods and classes**: the state of the hooks, and the field
`accessFlags` of every `Class`. -/
structure ClassState extends State where
  classAccessFlags : ℕ → BitVec 32

/-- **`MakeClassInheritable`** -/
def makeClassInheritable (s : ClassState) : Option ReflectedClass → ClassState × Bool
  | none => (s, false)
  | some target =>
    let accessFlags := s.classAccessFlags target.object
    let s := { s with
      classAccessFlags :=
        Function.update s.classAccessFlags target.object (accessFlags &&& ~~~kAccFinal) }
    ({ s with
      toState := target.declaredConstructors.foldl (·.modify · (·.makeInheritable)) s.toState },
      true)

/-- What happens: a class is made inheritable, or an event of the hooks. -/
inductive ClassEvent where
  | makeClassInheritable (target : Option ReflectedClass)
  | event (e : Event)

/-- **The machine.** -/
def classMachine (art : Art) : Machine ClassState ClassEvent where
  step s
    | .makeClassInheritable target => (makeClassInheritable s target).1
    | .event e => { s with toState := step art s.toState e }
  admissible s
    | .makeClassInheritable _ => True
    | .event e => admissible art s.toState e

instance (art : Art) (s : ClassState) : ∀ e, Decidable ((classMachine art).admissible s e)
  | .makeClassInheritable _ => isTrue trivial
  | .event e => inferInstanceAs (Decidable (admissible art s.toState e))

/-! ## Flag words -/

/-- The modifiers Java knows. -/
abbrev javaModifiers : BitVec 32 := 0xFFFF

/-- **What becomes of a constructor's flags.** -/
def inheritableFlags (f : BitVec 32) : BitVec 32 :=
  (if f &&& kAccPublic = 0 ∧ f &&& kAccProtected = 0 then
    (f ||| kAccProtected) &&& ~~~kAccPrivate &&& ~~~kAccPublic else f) &&& ~~~kAccFinal

variable {art : Art} {f g mask : BitVec 32} {r : ArtMethod} {i : ℕ}

theorem and_not_of_and_eq_zero (h : f &&& mask = 0#32) : f &&& ~~~mask = f := by
  refine BitVec.eq_of_getLsbD_eq fun i hi => ?_
  have hbit := congrArg (·.getLsbD i) h
  simp only [BitVec.getLsbD_and, BitVec.getLsbD_zero, BitVec.getLsbD_not, hi, decide_true,
    Bool.true_and] at hbit ⊢
  cases hf : f.getLsbD i
  · rfl
  · rw [hf, Bool.true_and] at hbit
    rw [hbit]
    rfl

theorem accessFlags_makeInheritable :
    r.makeInheritable.accessFlags = inheritableFlags r.accessFlags := by
  have hfinal : ∀ m : ArtMethod, (if m.isFinal then m.setNonFinal else m).accessFlags =
      m.accessFlags &&& ~~~kAccFinal := by
    intro m
    split
    · rfl
    · rename_i hnot
      refine (and_not_of_and_eq_zero ?_).symm
      simpa [ArtMethod.isFinal] using hnot
  have hcond : (!r.isPublic && !r.isProtected) = true ↔
      r.accessFlags &&& kAccPublic = 0 ∧ r.accessFlags &&& kAccProtected = 0 := by
    simp [ArtMethod.isPublic, ArtMethod.isProtected]
  unfold ArtMethod.makeInheritable inheritableFlags
  rw [hfinal]
  by_cases h : (!r.isPublic && !r.isProtected) = true
  · rw [if_pos h, if_pos (hcond.1 h)]
    rfl
  · rw [if_neg h, if_neg (mt hcond.2 h)]

theorem and_twoPow_eq_zero_iff (hi : i < 32) :
    f &&& BitVec.twoPow 32 i = 0#32 ↔ f.getLsbD i = false := by
  have hne : BitVec.twoPow 32 i ≠ 0#32 := by
    intro hzero
    have hbit := congrArg (·.getLsbD i) hzero
    simp [hi] at hbit
  rw [BitVec.and_twoPow]
  cases f.getLsbD i <;> simp [hne]

/-- A method is accessible to subclasses. -/
theorem accessible_iff :
    ¬ (f &&& kAccPublic = 0 ∧ f &&& kAccProtected = 0) ↔
      (f.getLsbD 0 || f.getLsbD 2) = true := by
  have hpublic : f &&& kAccPublic = 0 ↔ f.getLsbD 0 = false :=
    and_twoPow_eq_zero_iff (i := 0) (by decide)
  have hprotected : f &&& kAccProtected = 0 ↔ f.getLsbD 2 = false :=
    and_twoPow_eq_zero_iff (i := 2) (by decide)
  rw [hpublic, hprotected]
  cases f.getLsbD 0 <;> cases f.getLsbD 2 <;> decide

/-- Bit by bit. -/
theorem getLsbD_inheritableFlags (hi : i < 32) :
    (inheritableFlags f).getLsbD i =
      (i != 4 && if f.getLsbD 0 || f.getLsbD 2 then f.getLsbD i
        else i == 2 || f.getLsbD i && i != 1 && i != 0) := by
  have hmasks : ∀ i < 32, kAccPublic.getLsbD i = (i == 0) ∧ kAccPrivate.getLsbD i = (i == 1) ∧
      kAccProtected.getLsbD i = (i == 2) ∧ kAccFinal.getLsbD i = (i == 4) := by decide
  obtain ⟨h0, h1, h2, h4⟩ := hmasks i hi
  unfold inheritableFlags
  rw [BitVec.getLsbD_and, BitVec.getLsbD_not, h4, decide_eq_true hi, Bool.true_and, Bool.and_comm]
  congr 1
  by_cases h : f &&& kAccPublic = 0 ∧ f &&& kAccProtected = 0
  · rw [if_pos h, if_neg (fun ha => accessible_iff.2 ha h)]
    simp only [BitVec.getLsbD_and, BitVec.getLsbD_or, BitVec.getLsbD_not, h0, h1, h2, hi,
      decide_true, Bool.true_and]
    by_cases hi2 : i = 2
    · subst i
      simp
    · rw [beq_false_of_ne hi2, Bool.or_false, Bool.false_or]
      rfl
  · rw [if_neg h, if_pos (accessible_iff.1 h)]

/-- Made inheritable a second time, a constructor stays as it is. -/
theorem inheritableFlags_idem (f : BitVec 32) :
    inheritableFlags (inheritableFlags f) = inheritableFlags f := by
  refine BitVec.eq_of_getLsbD_eq fun i hi => ?_
  rw [getLsbD_inheritableFlags hi, getLsbD_inheritableFlags hi,
    getLsbD_inheritableFlags (by decide), getLsbD_inheritableFlags (by decide)]
  cases f.getLsbD 0 <;> cases f.getLsbD 2 <;> cases f.getLsbD i <;> simp

/-- What Java sees of the flags goes by what Java has seen of them. -/
theorem inheritableFlags_javaModifiers (f : BitVec 32) :
    inheritableFlags (f &&& javaModifiers) &&& javaModifiers =
      inheritableFlags f &&& javaModifiers := by
  have hmask : ∀ i < 32, javaModifiers.getLsbD i = decide (i < 16) := by decide
  refine BitVec.eq_of_getLsbD_eq fun i hi => ?_
  rw [BitVec.getLsbD_and, BitVec.getLsbD_and, hmask i hi, getLsbD_inheritableFlags hi,
    getLsbD_inheritableFlags hi, BitVec.getLsbD_and, BitVec.getLsbD_and, BitVec.getLsbD_and,
    hmask i hi, hmask 0 (by decide), hmask 2 (by decide)]
  by_cases h16 : i < 16
  · simp [h16]
  · simp [h16]

theorem inheritableFlags_again (f : BitVec 32) :
    inheritableFlags (inheritableFlags f &&& javaModifiers) &&& javaModifiers =
      inheritableFlags f &&& javaModifiers := by
  rw [inheritableFlags_javaModifiers, inheritableFlags_idem]

/-! ## What hooks leave of the modifiers -/

/-- **An ART whose own flags are none of Java's**: the masks are those of an API
level, and ART's `SetNotIntrinsic` leaves the modifiers as they are. -/
structure Art.LeavesModifiers (art : Art) : Prop where
  masks : ∃ sdkInt conflictIsDontBother, art.masks = .ofApiLevel sdkInt conflictIsDontBother
  setNotIntrinsic : ∀ g ∈ art.setNotIntrinsic, ∀ f, g f &&& javaModifiers = f &&& javaModifiers

theorem Art.LeavesModifiers.disjoint (h : art.LeavesModifiers) :
    art.masks.kAccPreCompiled &&& javaModifiers = 0#32 ∧
      art.masks.kAccCompileDontBother &&& javaModifiers = 0#32 ∧
      art.masks.kAccFastInterpreterToInterpreterInvoke &&& javaModifiers = 0#32 ∧
      art.masks.kAccIntrinsic &&& javaModifiers = 0#32 := by
  obtain ⟨sdkInt, conflictIsDontBother, hmasks⟩ := h.masks
  rw [hmasks]
  simp only [AccessFlagMasks.ofApiLevel]
  split_ifs <;> decide

namespace ArtMethod

variable (m : ArtMethod)

/-- What Java sees of the flags. -/
def modifiers : BitVec 32 := m.accessFlags &&& javaModifiers

variable {m}

theorem modifiers_setNonCompilable (h : art.LeavesModifiers) :
    (m.setNonCompilable art).modifiers = m.modifiers :=
  (andNot_and_of_disjoint h.disjoint.1).trans (or_and_of_disjoint h.disjoint.2.1)

theorem modifiers_clearFastInterpretFlag (h : art.LeavesModifiers) :
    (m.clearFastInterpretFlag art).modifiers = m.modifiers :=
  andNot_and_of_disjoint h.disjoint.2.2.1

theorem modifiers_setNonIntrinsic (h : art.LeavesModifiers) :
    (m.setNonIntrinsic art).modifiers = m.modifiers := by
  unfold setNonIntrinsic
  split
  · rename_i g hg
    exact h.setNotIntrinsic g hg m.accessFlags
  · exact andNot_and_of_disjoint h.disjoint.2.2.2

theorem modifiers_makeInheritable :
    m.makeInheritable.modifiers = inheritableFlags m.modifiers &&& javaModifiers := by
  rw [modifiers, accessFlags_makeInheritable, modifiers, inheritableFlags_javaModifiers]

end ArtMethod

variable {s s' s'' : State} {m n backup : ArtMethodPtr} {request : HookRequest} {e : Event}

/-- A method's modifiers as an event leaves them. -/
def State.modifiers (s : State) (m : ArtMethodPtr) : BitVec 32 := (s.heap m).modifiers

theorem modifiers_modify {f : ArtMethod → ArtMethod} (h : ∀ r, (f r).modifiers = r.modifiers) :
    (s.modify n f).modifiers m = s.modifiers m := by
  unfold State.modifiers
  rw [State.heap_modify]
  split
  · subst n
    exact h _
  · rfl

theorem modifiers_modify_of_ne {f : ArtMethod → ArtMethod} (h : m ≠ n) :
    (s.modify n f).modifiers m = s.modifiers m := by
  unfold State.modifiers
  rw [State.heap_modify, if_neg h]

theorem SameFlags.modifiers (h : SameFlags s s') : s'.modifiers m = s.modifiers m := by
  unfold State.modifiers ArtMethod.modifiers
  rw [h m]

theorem modifiers_backupTo (h : art.LeavesModifiers) (hne : m ≠ backup) :
    (backupTo art s n backup).modifiers m = s.modifiers m := by
  simp only [backupTo]
  split
  · rw [modifiers_modify fun r => ArtMethod.modifiers_clearFastInterpretFlag h,
      modifiers_modify_of_ne hne, modifiers_modify fun r => ArtMethod.modifiers_setNonCompilable h]
  · rw [modifiers_modify_of_ne hne,
      modifiers_modify fun r => ArtMethod.modifiers_clearFastInterpretFlag h,
      modifiers_modify_of_ne hne, modifiers_modify fun r => ArtMethod.modifiers_setNonCompilable h]

theorem modifiers_doHook {hook : ArtMethodPtr} {mmap : Option ℕ} {ok : Bool}
    (h : art.LeavesModifiers) (hne : m ≠ backup) :
    (doHook art s n hook backup mmap ok).1.modifiers m = s.modifiers m := by
  unfold doHook
  split
  · rfl
  · dsimp only
    rw [modifiers_modify_of_ne hne, sameFlags_setEntryPoint.modifiers,
      modifiers_modify fun r => ArtMethod.modifiers_setNonCompilable h, modifiers_backupTo h hne,
      modifiers_modify fun r => ArtMethod.modifiers_setNonIntrinsic h]
    rfl

/-- **A `Hook`** changes the modifiers of the backup alone. -/
theorem modifiers_hookMethod (h : art.LeavesModifiers)
    (hne : ∀ stub ∈ request.built, m ≠ stub.backup) :
    (hookMethod art s request).1.modifiers m = s.modifiers m := by
  unfold hookMethod
  cases htarget : request.target with
  | none => rfl
  | some target =>
    dsimp only
    split_ifs
    · rfl
    · rfl
    · rfl
    · rfl
    cases hbuilt : request.built with
    | none => rfl
    | some stub =>
      have hdo : (doHook art s target stub.hook stub.backup request.mmap
          request.mprotectOk).1.modifiers m = s.modifiers m :=
        modifiers_doHook h (hne stub hbuilt)
      dsimp only
      split
      · rename_i heq
        rw [heq] at hdo
        exact hdo
      · rename_i heq
        rw [heq] at hdo
        rw [← hdo]
        unfold recordHook
        dsimp only
        split <;> rfl

theorem sameFlags_doUnHook : SameFlags s (doUnHook s n backup) := by
  intro m
  unfold doUnHook
  rw [State.heap_modify, State.heap_modify]
  split
  · subst m
    rfl
  · rename_i hne
    rw [State.heap_modify, if_neg hne]

/-- **An `UnHook`** changes nobody's flags. -/
theorem sameFlags_unHook (target : Option ArtMethodPtr) : SameFlags s (unHook art s target).1 := by
  unfold unHook
  split
  · exact fun _ => rfl
  split
  · exact fun _ => rfl
  · exact fun n => sameFlags_doUnHook n

/-! ## What other events leave of the flags -/

theorem sameFlags_setData {d : ℕ} : SameFlags s (s.setData m d) := sameFlags_modify fun _ => rfl

theorem SameFlags.foldl {α : Type*} {body : State → α → State} (h : ∀ s a, SameFlags s (body s a))
    (l : List α) (s : State) : SameFlags s (l.foldl body s) := by
  induction l generalizing s with
  | nil => exact fun _ => rfl
  | cons a l ih => exact (h s a).trans (ih _)

theorem SameFlags.forEach {α β : Type*} [DecidableEq α] {body : State → α → β → State}
    (h : ∀ s a v, SameFlags s (body s a v)) (order : List α) (t : Table α β) (s : State) :
    SameFlags s (Table.forEach order t body s) :=
  Table.forEach_induction (P := SameFlags s) (fun _ => rfl)
    fun _ _ _ _ _ hs => hs.trans (h _ _ _)

theorem sameFlags_updateMethodsCode {q i : ℕ} : SameFlags s (updateMethodsCode art s m q i) := by
  have hhandle : ∀ (s : State) (old new : EntryPoint),
      SameFlags s (handleMethodCodeUpdated art s m old new) := by
    intro s old new
    unfold handleMethodCodeUpdated
    split
    · dsimp only
      split
      · exact sameFlags_setEntryPoint
      · exact sameFlags_setEntryPoint.trans sameFlags_setEntryPoint
    · split
      · exact sameFlags_setEntryPoint
      · exact fun _ => rfl
  unfold updateMethodsCode
  dsimp only
  split
  · exact sameFlags_artSetEntryPoint.trans (hhandle _ _ _)
  · exact sameFlags_artSetEntryPoint

theorem sameFlags_withUpdater {methods : Table ArtMethodPtr NativeMethodState}
    {written : List (ArtMethodPtr × ℕ)} {order : List ArtMethodPtr} :
    SameFlags s (withUpdater art s methods written order) := by
  refine (SameFlags.foldl (fun _ _ => sameFlags_setData) written s).trans
    (SameFlags.forEach (fun _ _ _ => ?_) order methods _)
  unfold updateNative
  split
  · exact fun _ => rfl
  · exact ((sameFlags_setData.trans sameFlags_setEntryPoint).trans sameFlags_setData).trans
      sameFlags_setEntryPoint

theorem sameFlags_fixupStaticTrampolines {cd : ClassDefPtr} {self : ThreadPtr}
    {rewritten : List (ArtMethodPtr × ℕ)} {order : RestoreOrder} :
    SameFlags s (fixupStaticTrampolines art s cd self rewritten order) := by
  have hrestore : ∀ s, SameFlags s (restoreBackup art s cd self order) := by
    intro s
    rw [restoreBackup_eq]
    exact SameFlags.trans (fun _ => rfl)
      (SameFlags.forEach (fun _ _ _ => sameFlags_restoreMethod) _ _ _)
  exact (SameFlags.foldl (fun _ _ => sameFlags_artSetEntryPoint) rewritten s).trans (hrestore _)

theorem sameFlags_dressDown {saved : SavedMethod} : SameFlags s (dressDown art s m saved) := by
  unfold dressDown
  split
  · split
    · exact SameFlags.trans (fun _ => rfl) sameFlags_setEntryPoint
    · exact fun _ => rfl
  · split
    · exact sameFlags_setData.trans sameFlags_setEntryPoint
    · exact (sameFlags_setData.trans sameFlags_setEntryPoint).trans sameFlags_setEntryPoint

theorem sameFlags_dressUp {order : MapOrder} : SameFlags s (dressUp art s order).1 :=
  Table.forEach_induction (P := fun acc : State × Table ArtMethodPtr SavedMethod =>
      SameFlags s acc.1)
    (Table.forEach_induction (P := fun acc : State × Table ArtMethodPtr SavedMethod =>
        SameFlags s acc.1) (fun _ => rfl)
      fun _ _ _ _ _ h => h.trans sameFlags_setEntryPoint)
    fun _ _ _ _ _ h => h.trans (sameFlags_setData.trans sameFlags_setEntryPoint)

theorem sameFlags_mapBootImageMethods {remapped : List (ArtMethodPtr × ℕ × ℕ)} {order : MapOrder} :
    SameFlags s (mapBootImageMethods art s remapped order) := by
  have hmap : SameFlags (dressUp art s order).1 (artMapMethods (dressUp art s order).1 remapped) :=
    SameFlags.foldl (fun _ _ => sameFlags_setData.trans sameFlags_artSetEntryPoint) _ _
  exact (sameFlags_dressUp.trans hmap).trans
    (SameFlags.forEach (fun _ _ _ => sameFlags_dressDown) _ _ _)

theorem sameFlags_moveObsoleteMethods : SameFlags s (moveObsoleteMethods art s) := by
  refine SameFlags.trans (fun _ => rfl) (SameFlags.foldl (fun _ _ => ?_) _ _)
  unfold moveObsoleteMethod
  split
  · exact fun _ => rfl
  · exact sameFlags_setData.trans sameFlags_setData

/-- **An event that is no `Hook`** leaves every method's flags as they are. -/
theorem sameFlags_step (h : ∀ request, e ≠ .hook request) : SameFlags s (step art s e) := by
  cases e with
  | hook request => exact absurd rfl (h request)
  | unHook target => exact sameFlags_unHook target
  | setHookEnabled target enabled =>
    show SameFlags s (setHookEnabled art s target enabled).1
    unfold setHookEnabled
    split
    · exact fun _ => rfl
    split
    · exact fun _ => rfl
    · split
      · exact fun _ => rfl
      · exact fun _ => rfl
  | deoptimize method =>
    show SameFlags s (deoptimize art s method).1
    rcases deoptimize_cases art s method with ⟨-, he⟩ | ⟨m, -, -, -, he⟩ <;> rw [he]
    · exact fun _ => rfl
    · exact SameFlags.trans (fun _ => rfl) sameFlags_setEntryPointsToInterpreter
  | updateMethodsCode m q i => exact sameFlags_updateMethodsCode
  | registerNative m d => exact sameFlags_setData
  | unregisterNative m d => exact sameFlags_setData
  | registerNatives natives written order => exact sameFlags_withUpdater
  | unregisterNatives visited written order => exact sameFlags_withUpdater
  | backupClassMethods cd self =>
    intro n
    show ((backupClassMethods s cd self).heap n).accessFlags = _
    rw [backupClassMethods_heap]
  | fixupStaticTrampolines cd self rewritten order => exact sameFlags_fixupStaticTrampolines
  | mapBootImageMethods remapped order => exact sameFlags_mapBootImageMethods
  | collect => exact sameFlags_moveObsoleteMethods

/-! ## Runs -/

variable {c : ℕ} {events : List ClassEvent} {p : ClassState} {target : ReflectedClass}

/-- **The class is made inheritable.** -/
def ClassEvent.makesInheritable (c : ℕ) : ClassEvent → Bool
  | .makeClassInheritable (some target) => target.object == c
  | _ => false

/-- **The constructor is**, with its class. -/
def ClassEvent.makesConstructorInheritable (m : ArtMethodPtr) : ClassEvent → Bool
  | .makeClassInheritable (some target) => target.declaredConstructors.contains m
  | _ => false

/-- No `Hook` copies its target over the method: a backup is a method of a class
that has been generated for it. -/
def ClassEvent.Spares (m : ArtMethodPtr) : ClassEvent → Prop
  | .event (.hook request) => ∀ stub ∈ request.built, m ≠ stub.backup
  | _ => True

instance (m : ArtMethodPtr) : ∀ e : ClassEvent, Decidable (e.Spares m)
  | .event (.hook request) =>
    inferInstanceAs (Decidable (∀ stub ∈ request.built, m ≠ stub.backup))
  | .event (.unHook _) | .event (.setHookEnabled _ _) | .event (.deoptimize _)
  | .event (.updateMethodsCode _ _ _) | .event (.registerNative _ _)
  | .event (.unregisterNative _ _) | .event (.registerNatives _ _ _)
  | .event (.unregisterNatives _ _ _) | .event (.backupClassMethods _ _)
  | .event (.fixupStaticTrampolines _ _ _ _) | .event (.mapBootImageMethods _ _)
  | .event .collect | .makeClassInheritable _ => isTrue trivial

theorem modifiers_foldl_makeInheritable (constructors : List ArtMethodPtr) (s : State) :
    (constructors.foldl (·.modify · (·.makeInheritable)) s).modifiers m =
      if constructors.contains m then inheritableFlags (s.modifiers m) &&& javaModifiers
      else s.modifiers m := by
  induction constructors generalizing s with
  | nil => rfl
  | cons n constructors ih =>
    have hfirst : (s.modify n (·.makeInheritable)).modifiers m =
        if m = n then inheritableFlags (s.modifiers m) &&& javaModifiers else s.modifiers m := by
      unfold State.modifiers
      rw [State.heap_modify]
      split
      · subst n
        exact ArtMethod.modifiers_makeInheritable
      · rfl
    rw [List.foldl_cons, ih, hfirst, List.contains_cons]
    by_cases hm : m = n
    · subst n
      rw [if_pos rfl, inheritableFlags_again, ite_self, beq_self_eq_true, Bool.true_or, if_pos rfl]
    · rw [if_neg hm, beq_false_of_ne hm, Bool.false_or]

theorem modifiers_classMachine_step (h : art.LeavesModifiers) (p : ClassState) (e : ClassEvent)
    (hspares : e.Spares m) :
    ((classMachine art).step p e).modifiers m =
      if e.makesConstructorInheritable m then inheritableFlags (p.modifiers m) &&& javaModifiers
      else p.modifiers m := by
  cases e with
  | makeClassInheritable target =>
    cases target with
    | none => rfl
    | some target => exact modifiers_foldl_makeInheritable _ _
  | event e =>
    by_cases hhook : ∃ request, e = .hook request
    · obtain ⟨request, rfl⟩ := hhook
      exact modifiers_hookMethod h hspares
    · exact (sameFlags_step (not_exists.1 hhook)).modifiers

theorem classAccessFlags_classMachine_step (p : ClassState) (e : ClassEvent) :
    ((classMachine art).step p e).classAccessFlags c =
      if e.makesInheritable c then p.classAccessFlags c &&& ~~~kAccFinal
      else p.classAccessFlags c := by
  cases e with
  | makeClassInheritable target =>
    cases target with
    | none => rfl
    | some target =>
      show Function.update p.classAccessFlags target.object _ c = _
      rw [Function.update_apply]
      by_cases hc : c = target.object
      · subst c
        simp [ClassEvent.makesInheritable]
      · simp [ClassEvent.makesInheritable, hc, Ne.symm hc]
  | event e => rfl

/-- **Inheritable for good.** Over any run of hooks, of ART's own functions and
of calls that make classes inheritable, what Java sees of a method's modifiers
is what it saw at the start, made inheritable if one of the calls was for the
class of the method as a constructor; and a class is final at the end if it was
at the start and no call was for it. -/
theorem modifiers_exec (h : art.LeavesModifiers) (hspares : ∀ e ∈ events, e.Spares m) :
    let q := (classMachine art).exec p events
    (q.modifiers m =
      if events.any (·.makesConstructorInheritable m) then
        inheritableFlags (p.modifiers m) &&& javaModifiers
      else p.modifiers m) ∧
    q.classAccessFlags c =
      if events.any (·.makesInheritable c) then p.classAccessFlags c &&& ~~~kAccFinal
      else p.classAccessFlags c := by
  refine ⟨Machine.exec_of_idempotent (G := fun _ e => e.Spares m)
    (f := fun p : ClassState => p.modifiers m)
    (g := fun f => inheritableFlags f &&& javaModifiers) inheritableFlags_again
    (fun p e => modifiers_classMachine_step h p e) (Machine.eachStep_of_forall hspares),
    Machine.exec_of_idempotent (G := fun _ _ => True)
    (f := fun p : ClassState => p.classAccessFlags c) (g := fun f => f &&& ~~~kAccFinal)
    (fun f => ?_) (fun p e _ => classAccessFlags_classMachine_step p e)
    (Machine.eachStep_of_forall fun _ _ => trivial)⟩
  rw [BitVec.and_assoc, BitVec.and_self]

/-- A private final constructor: it is hooked, its class is made inheritable
while it is, and it is unhooked and hooked again. -/
theorem modifiers_exec_sample :
    let q := (classMachine sampleArt).exec ⟨sampleState 0x12, fun _ => 0x11⟩
      [.event (sampleHook 110 210 211 (some 65536)), .makeClassInheritable (some ⟨1, [110, 120]⟩),
        .event (.unHook (some 110)), .event (sampleHook 110 220 221 none)]
    q.modifiers 110 = 0x4 ∧ q.classAccessFlags 1 = 0x1 := by
  have hleaves : sampleArt.LeavesModifiers := ⟨⟨31, false, rfl⟩, nofun⟩
  exact ⟨(modifiers_exec (m := 110) (c := 1) hleaves (by decide)).1.trans (by decide),
    (modifiers_exec (m := 110) (c := 1) hleaves (by decide)).2.trans (by decide)⟩

end LSPlant
