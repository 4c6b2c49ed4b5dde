import LSPlant.Art.VisitMethods
import LSPlant.HookExits
import LSPlant.StackWalk
/-!
# Hidden methods

`HideMethod`, `HideClass` and `ShowClass` of `StackVisitor`, the calls of the
API that come to them, and `HookMethod`, which hides what it generates. Over
a run of such calls and of everything else, a method is hidden if the last
call to say anything of it hid it, and the numbers the calls return add up.
-/

namespace LSPlant

/-! ## The code -/

/-- **A class as `Class::VisitMethods` comes by it**: the methods of its class
object, if they can be walked, and those reflection has. -/
structure VisitedClass where
  declared : Option (List ArtMethodPtr)
  declaredConstructors : List ArtMethodPtr
  declaredMethods : List ArtMethodPtr

section VisitMethods

variable {σ : Type*}

/-- **`Class::VisitMethods`**: what it leaves its visitor with. -/
def VisitedClass.visitMethods (clazz : VisitedClass) (visitor : σ → ArtMethodPtr → Bool × σ)
    (state : σ) : σ :=
  match clazz.declared with
  | some methods => (visitAll visitor state methods).2.2
  | none =>
    let constructors := visitAll visitor state clazz.declaredConstructors
    if constructors.1 then constructors.2.2
    else (visitAll visitor constructors.2.2 clazz.declaredMethods).2.2

/-- The methods of the class. -/
def VisitedClass.methods (clazz : VisitedClass) : List ArtMethodPtr :=
  clazz.declared.getD (clazz.declaredConstructors ++ clazz.declaredMethods)

end VisitMethods

section Code

variable (art : Art) (p : Process)

/-- What `HideMethod` returns. -/
def Process.hidesMethod (m : ArtMethodPtr) : Bool :=
  !(p.heap m).isAbstract && decide (m ∉ p.hiddenMethods)

/-- The visitor of `HideClass`. -/
def hideVisitor (heap : ArtMethodPtr → ArtMethod) (state : Finset ArtMethodPtr × ℕ)
    (method : ArtMethodPtr) : Bool × (Finset ArtMethodPtr × ℕ) :=
  if (heap method).isAbstract then (false, state)
  else (false, insert method state.1, if method ∈ state.1 then state.2 else state.2 + 1)

/-- That of `ShowClass`. -/
def showVisitor (heap : ArtMethodPtr → ArtMethod) (state : Finset ArtMethodPtr × ℕ)
    (method : ArtMethodPtr) : Bool × (Finset ArtMethodPtr × ℕ) :=
  if (heap method).isAbstract then (false, state)
  else (false, state.1.erase method, if method ∈ state.1 then state.2 + 1 else state.2)

/-- A class visited by either. -/
def Process.visitHidden (clazz : VisitedClass)
    (visitor : (ArtMethodPtr → ArtMethod) → Finset ArtMethodPtr × ℕ → ArtMethodPtr →
      Bool × (Finset ArtMethodPtr × ℕ)) : Process × ℕ :=
  let visited := clazz.visitMethods (visitor p.heap) (p.hiddenMethods, 0)
  ({ p with hiddenMethods := visited.1 }, visited.2)

/-- **`MakeMethodHidden`**, of no method where it is not an executable. -/
def makeMethodHidden : Option ArtMethodPtr → Process × Bool
  | none => (p, false)
  | some m => (p.hideMethod m, p.hidesMethod m)

/-- **`MakeClassHidden`** -/
def makeClassHidden : Option VisitedClass → Process × ℕ
  | none => (p, 0)
  | some clazz => p.visitHidden clazz hideVisitor

/-- **`MakeClassVisible`** -/
def makeClassVisible : Option VisitedClass → Process × ℕ
  | none => (p, 0)
  | some clazz => p.visitHidden clazz showVisitor

/-- **An event**: a call that may hide or show methods, or one of the rest. -/
inductive HidingEvent where
  | hookMethod (call : HookCall)
  | makeMethodHidden (method : Option ArtMethodPtr)
  | makeClassHidden (clazz : Option VisitedClass)
  | makeClassVisible (clazz : Option VisitedClass)
  | event (e : Event)

/-- **LSPlant in a process**, with `hidden_methods_`. A `Hook` comes with all of
its exits. -/
def hidingMachine : Machine Process HidingEvent where
  step p
    | .hookMethod call => (hookExits art p call).1
    | .makeMethodHidden method => (makeMethodHidden p method).1
    | .makeClassHidden clazz => (makeClassHidden p clazz).1
    | .makeClassVisible clazz => (makeClassVisible p clazz).1
    | .event e => { p with toState := step art p.toState e }
  admissible p
    | .event e => (∀ request, e ≠ .hook request) ∧ admissible art p.toState e
    | _ => True

end Code

/-! ## What a call hides -/

variable {art : Art} {p : Process} {call : HookCall} {m n : ArtMethodPtr} {clazz : VisitedClass}
  {hidden : Finset ArtMethodPtr} {heap : ArtMethodPtr → ArtMethod} {ms : List ArtMethodPtr}
  {k : ℕ} {built : BuiltClass} {events : List HidingEvent}

/-- **What a call of `HookMethod` hides**, with no source name given: the native
method of the class it has generated, whether or not it goes on from there,
and the hook method if it comes to an end. -/
def HookCall.Hides (art : Art) (p : Process) (call : HookCall) (m : ArtMethodPtr) : Prop :=
  p.generatedSourceName = [] ∧ ∃ target built, Passes p call target ∧
    (buildDex p call ((p.heap target).isFastNative art)).2 = some (some built) ∧
    (call.callback.isNativeApi = true ∧ (p.heap target).isFastNative art = false ∧
        m = built.nativeMethod ∧
        ((buildDex p call ((p.heap target).isFastNative art)).1.heap m).isAbstract = false ∨
      built.hook = some m ∧ (∃ backup, (hookExits art p call).2 = .hooked backup) ∧
        ((hookExits art p call).1.heap m).isAbstract = false)

/-- **What an event hides.** -/
def HidingEvent.Hides (art : Art) (p : Process) (m : ArtMethodPtr) : HidingEvent → Prop
  | .hookMethod call => call.Hides art p m
  | .makeMethodHidden method => method = some m ∧ (p.heap m).isAbstract = false
  | .makeClassHidden clazz => ∃ c ∈ clazz, m ∈ c.methods ∧ (p.heap m).isAbstract = false
  | .makeClassVisible _ => False
  | .event _ => False

/-- **What it shows.** -/
def HidingEvent.Shows (p : Process) (m : ArtMethodPtr) : HidingEvent → Prop
  | .makeClassVisible clazz => ∃ c ∈ clazz, m ∈ c.methods ∧ (p.heap m).isAbstract = false
  | _ => False

theorem mem_hideMethod :
    m ∈ (p.hideMethod n).hiddenMethods ↔
      (m = n ∧ (p.heap m).isAbstract = false) ∨ m ∈ p.hiddenMethods := by
  unfold Process.hideMethod
  split
  · rename_i habstract
    constructor
    · exact Or.inr
    · rintro (⟨rfl, hnot⟩ | hm)
      · rw [habstract] at hnot
        cases hnot
      · exact hm
  · rename_i habstract
    rw [Bool.not_eq_true] at habstract
    rw [Finset.mem_insert]
    refine or_congr_left ⟨?_, And.left⟩
    rintro rfl
    exact ⟨rfl, habstract⟩

section Visits

variable {σ : Type*} {visitor : σ → ArtMethodPtr → Bool × σ}

/-- A visitor that never stops is a fold. -/
theorem visitAll_of_goesOn (hvisitor : ∀ state method, (visitor state method).1 = false)
    (state : σ) (ms : List ArtMethodPtr) :
    visitAll visitor state ms =
      (false, ms, ms.foldl (fun state method => (visitor state method).2) state) := by
  induction ms generalizing state with
  | nil => rfl
  | cons method ms ih =>
    have hnext : visitor state method = (false, (visitor state method).2) :=
      Prod.ext (hvisitor state method) rfl
    rw [visitAll, hnext]
    dsimp only
    rw [ih]
    rfl

theorem visitMethods_of_goesOn (hvisitor : ∀ state method, (visitor state method).1 = false)
    (clazz : VisitedClass) (state : σ) :
    clazz.visitMethods visitor state =
      clazz.methods.foldl (fun state method => (visitor state method).2) state := by
  unfold VisitedClass.visitMethods VisitedClass.methods
  rcases clazz.declared with _ | methods
  · simp only [visitAll_of_goesOn hvisitor, Option.getD_none, List.foldl_append,
      Bool.false_eq_true, if_false]
  · simp only [visitAll_of_goesOn hvisitor, Option.getD_some]

end Visits

theorem hideVisitor_goesOn (heap : ArtMethodPtr → ArtMethod) (state : Finset ArtMethodPtr × ℕ)
    (method : ArtMethodPtr) : (hideVisitor heap state method).1 = false := by
  unfold hideVisitor
  split <;> rfl

theorem showVisitor_goesOn (heap : ArtMethodPtr → ArtMethod) (state : Finset ArtMethodPtr × ℕ)
    (method : ArtMethodPtr) : (showVisitor heap state method).1 = false := by
  unfold showVisitor
  split <;> rfl

theorem mem_hideVisitor {state : Finset ArtMethodPtr × ℕ} :
    m ∈ (hideVisitor heap state n).2.1 ↔
      (m = n ∧ (heap m).isAbstract = false) ∨ m ∈ state.1 := by
  unfold hideVisitor
  split
  · rename_i habstract
    refine (or_iff_right ?_).symm
    rintro ⟨rfl, hnot⟩
    rw [habstract] at hnot
    cases hnot
  · rename_i habstract
    rw [Bool.not_eq_true] at habstract
    rw [Finset.mem_insert]
    refine or_congr_left ⟨?_, And.left⟩
    rintro rfl
    exact ⟨rfl, habstract⟩

theorem mem_showVisitor {state : Finset ArtMethodPtr × ℕ} :
    m ∈ (showVisitor heap state n).2.1 ↔
      ¬ (m = n ∧ (heap m).isAbstract = false) ∧ m ∈ state.1 := by
  unfold showVisitor
  split
  · rename_i habstract
    refine (and_iff_right ?_).symm
    rintro ⟨rfl, hnot⟩
    rw [habstract] at hnot
    cases hnot
  · rename_i habstract
    rw [Bool.not_eq_true] at habstract
    rw [Finset.mem_erase]
    refine and_congr_left fun _ => not_congr ⟨?_, And.left⟩
    rintro rfl
    exact ⟨rfl, habstract⟩

/-- A turn of `HideClass` counts what it hides. -/
theorem hideVisitor_card (heap : ArtMethodPtr → ArtMethod) (state : Finset ArtMethodPtr × ℕ)
    (n : ArtMethodPtr) :
    (hideVisitor heap state n).2.1.card + state.2 =
      state.1.card + (hideVisitor heap state n).2.2 := by
  unfold hideVisitor
  split_ifs with habstract hmem
  · rfl
  · dsimp only
    rw [Finset.insert_eq_of_mem hmem]
  · dsimp only
    rw [Finset.card_insert_of_notMem hmem]
    omega

/-- And one of `ShowClass` what it shows. -/
theorem showVisitor_card (heap : ArtMethodPtr → ArtMethod) (state : Finset ArtMethodPtr × ℕ)
    (n : ArtMethodPtr) :
    (showVisitor heap state n).2.1.card + (showVisitor heap state n).2.2 =
      state.1.card + state.2 := by
  unfold showVisitor
  split_ifs with habstract hmem
  · rfl
  · have hcard := Finset.card_erase_add_one hmem
    dsimp only
    omega
  · dsimp only
    rw [Finset.erase_eq_of_notMem hmem]

theorem mem_foldl_hideVisitor {state : Finset ArtMethodPtr × ℕ} :
    m ∈ (ms.foldl (fun state method => (hideVisitor heap state method).2) state).1 ↔
      (m ∈ ms ∧ (heap m).isAbstract = false) ∨ m ∈ state.1 := by
  induction ms generalizing state with
  | nil => simp
  | cons n ms ih =>
    rw [List.foldl_cons, ih, mem_hideVisitor, List.mem_cons]
    tauto

theorem mem_foldl_showVisitor {state : Finset ArtMethodPtr × ℕ} :
    m ∈ (ms.foldl (fun state method => (showVisitor heap state method).2) state).1 ↔
      ¬ (m ∈ ms ∧ (heap m).isAbstract = false) ∧ m ∈ state.1 := by
  induction ms generalizing state with
  | nil => simp
  | cons n ms ih =>
    rw [List.foldl_cons, ih, mem_showVisitor, List.mem_cons]
    tauto

theorem card_foldl_hideVisitor (heap : ArtMethodPtr → ArtMethod) (ms : List ArtMethodPtr)
    (state : Finset ArtMethodPtr × ℕ) :
    (ms.foldl (fun state method => (hideVisitor heap state method).2) state).1.card + state.2 =
      state.1.card +
        (ms.foldl (fun state method => (hideVisitor heap state method).2) state).2 := by
  induction ms generalizing state with
  | nil => rfl
  | cons n ms ih =>
    have hfirst := hideVisitor_card heap state n
    have hrest := ih (hideVisitor heap state n).2
    rw [List.foldl_cons]
    omega

theorem card_foldl_showVisitor (heap : ArtMethodPtr → ArtMethod) (ms : List ArtMethodPtr)
    (state : Finset ArtMethodPtr × ℕ) :
    (ms.foldl (fun state method => (showVisitor heap state method).2) state).1.card +
        (ms.foldl (fun state method => (showVisitor heap state method).2) state).2 =
      state.1.card + state.2 := by
  induction ms generalizing state with
  | nil => rfl
  | cons n ms ih => rw [List.foldl_cons, ih, showVisitor_card]

theorem mem_makeClassHidden {clazz : Option VisitedClass} :
    m ∈ (makeClassHidden p clazz).1.hiddenMethods ↔
      (∃ c ∈ clazz, m ∈ c.methods ∧ (p.heap m).isAbstract = false) ∨ m ∈ p.hiddenMethods := by
  rcases clazz with _ | clazz
  · simp [makeClassHidden]
  · show m ∈ (clazz.visitMethods (hideVisitor p.heap) (p.hiddenMethods, 0)).1 ↔ _
    rw [visitMethods_of_goesOn (hideVisitor_goesOn p.heap), mem_foldl_hideVisitor]
    simp

theorem mem_makeClassVisible {clazz : Option VisitedClass} :
    m ∈ (makeClassVisible p clazz).1.hiddenMethods ↔
      m ∈ p.hiddenMethods ∧
        ¬ ∃ c ∈ clazz, m ∈ c.methods ∧ (p.heap m).isAbstract = false := by
  rcases clazz with _ | clazz
  · simp [makeClassVisible]
  · show m ∈ (clazz.visitMethods (showVisitor p.heap) (p.hiddenMethods, 0)).1 ↔ _
    rw [visitMethods_of_goesOn (showVisitor_goesOn p.heap), mem_foldl_showVisitor, and_comm]
    simp

/-! ## What HookMethod hides -/

theorem buildDex_hiddenMethods (p : Process) (call : HookCall) (isFastNative : Bool) :
    (buildDex p call isFastNative).1.hiddenMethods = p.hiddenMethods ∧
      (buildDex p call isFastNative).1.generatedSourceName = p.generatedSourceName := by
  unfold buildDex
  split
  · exact ⟨rfl, rfl⟩
  dsimp only
  split
  · exact ⟨rfl, rfl⟩
  split
  · exact ⟨rfl, rfl⟩
  · split <;> exact ⟨rfl, rfl⟩

theorem hook_of_stub {stub : Stub} (h : built.stub = some stub) : built.hook = some stub.hook := by
  unfold BuiltClass.stub at h
  split at h
  · rename_i hhook _
    cases h
    exact hhook
  · cases h

theorem mem_registerCallback {isFastNative : Bool} :
    m ∈ (registerCallback p call isFastNative (some built)).hiddenMethods ↔
      (p.generatedSourceName = [] ∧ call.callback.isNativeApi = true ∧ isFastNative = false ∧
        m = built.nativeMethod ∧ (p.heap m).isAbstract = false) ∨ m ∈ p.hiddenMethods := by
  unfold registerCallback
  dsimp only
  split
  · rename_i hcond
    simp only [Bool.and_eq_true, Bool.not_eq_true', decide_eq_true_eq] at hcond
    rw [mem_hideMethod]
    simp [hcond.1.1, hcond.1.2, hcond.2]
  · rename_i hcond
    simp only [Bool.and_eq_true, Bool.not_eq_true', decide_eq_true_eq] at hcond
    refine (or_iff_right ?_).symm
    rintro ⟨hname, hnative, hfast, -⟩
    exact hcond ⟨⟨hnative, hfast⟩, hname⟩

theorem hides_iff_of_passes {target : ArtMethodPtr} (hpass : Passes p call target) {q : Process}
    {built? : Option (Option BuiltClass)}
    (hdex : buildDex p call ((p.heap target).isFastNative art) = (q, built?)) :
    call.Hides art p m ↔ p.generatedSourceName = [] ∧ ∃ built, built? = some (some built) ∧
      (call.callback.isNativeApi = true ∧ (p.heap target).isFastNative art = false ∧
          m = built.nativeMethod ∧ (q.heap m).isAbstract = false ∨
        built.hook = some m ∧ (∃ backup, (hookExits art p call).2 = .hooked backup) ∧
          ((hookExits art p call).1.heap m).isAbstract = false) := by
  refine and_congr_right fun _ => ?_
  constructor
  · rintro ⟨target', built, hpass', hbuilt, hides⟩
    have heq : target' = target :=
      Option.some.inj (hpass'.target_eq.symm.trans hpass.target_eq)
    rw [heq, hdex] at hbuilt hides
    exact ⟨built, hbuilt, hides⟩
  · rintro ⟨built, hbuilt, hides⟩
    refine ⟨target, built, hpass, ?_⟩
    rw [hdex]
    exact ⟨hbuilt, hides⟩

/-- A call that does not come to an end has hidden the native method at most. -/
theorem mem_hookExits_of_not_hooked {target : ArtMethodPtr} (hpass : Passes p call target)
    {q r : Process}
    (hdex : buildDex p call ((p.heap target).isFastNative art) = (q, some (some built)))
    {outcome : HookOutcome} (hexits : hookExits art p call = (r, outcome))
    (hnot : ∀ backup, outcome ≠ .hooked backup)
    (hr : r.hiddenMethods =
      (registerCallback q call ((p.heap target).isFastNative art) (some built)).hiddenMethods) :
    m ∈ (hookExits art p call).1.hiddenMethods ↔ call.Hides art p m ∨ m ∈ p.hiddenMethods := by
  obtain ⟨hhidden, hname⟩ :=
    buildDex_hiddenMethods p call ((p.heap target).isFastNative art)
  rw [hdex] at hhidden hname
  rw [hides_iff_of_passes hpass hdex, hexits, hr, mem_registerCallback, hhidden, hname]
  refine or_congr_left (and_congr_right fun _ => ?_)
  constructor
  · exact fun hnative => ⟨built, rfl, Or.inl hnative⟩
  · rintro ⟨built', hbuilt', hnative | ⟨-, ⟨backup, hhooked⟩, -⟩⟩
    · obtain rfl : built = built' := by simpa using hbuilt'
      exact hnative
    · exact absurd hhooked (hnot backup)

theorem registerCallback_generatedSourceName {isFastNative : Bool} {b : Option BuiltClass} :
    (registerCallback p call isFastNative b).generatedSourceName = p.generatedSourceName := by
  unfold registerCallback Process.hideMethod
  split
  · split
    · split <;> rfl
    · rfl
  · rfl

/-- **A call of `HookMethod` hides what it says and shows nothing.** -/
theorem mem_hookExits :
    m ∈ (hookExits art p call).1.hiddenMethods ↔ call.Hides art p m ∨ m ∈ p.hiddenMethods := by
  by_cases hpasses : ∃ target, Passes p call target
  swap
  · have hno : ¬ call.Hides art p m := fun ⟨_, target, _, hpass, _⟩ => hpasses ⟨target, hpass⟩
    obtain ⟨e, he⟩ := (passes_or_refused art p call).resolve_left hpasses
    rw [he, or_iff_right hno]
  obtain ⟨target, hpass⟩ := hpasses
  have hexits := hookExits_eq_of_passes art hpass
  rcases hdex : buildDex p call ((p.heap target).isFastNative art) with ⟨q, built?⟩
  obtain ⟨hhidden, hname⟩ :=
    buildDex_hiddenMethods p call ((p.heap target).isFastNative art)
  rw [hdex] at hexits hhidden hname
  rcases built? with _ | _ | built
  · have hno : ¬ call.Hides art p m := by
      rw [hides_iff_of_passes hpass hdex]
      rintro ⟨-, built, hbuilt, -⟩
      cases hbuilt
    rw [hexits, or_iff_right hno, ← hhidden]
  · have hno : ¬ call.Hides art p m := by
      rw [hides_iff_of_passes hpass hdex]
      rintro ⟨-, built, hbuilt, -⟩
      cases hbuilt
    rw [hexits, or_iff_right hno, ← hhidden]
    rfl
  rcases hstub : built.stub with _ | stub
  · simp only [Option.bind_some, hstub] at hexits
    exact mem_hookExits_of_not_hooked hpass hdex hexits nofun rfl
  simp only [Option.bind_some, hstub] at hexits
  rcases hdo : doHook art
    (registerCallback q call ((p.heap target).isFastNative art) (some built)).toState target
    stub.hook stub.backup call.mmap call.mprotectOk with ⟨s, _ | slot⟩
  · rw [hdo] at hexits
    exact mem_hookExits_of_not_hooked hpass hdex hexits nofun rfl
  · rw [hdo] at hexits
    dsimp only at hexits
    have hkeeps : (registerCallback q call ((p.heap target).isFastNative art)
        (some built)).generatedSourceName = p.generatedSourceName :=
      registerCallback_generatedSourceName.trans hname
    rw [hides_iff_of_passes hpass hdex, hexits, hkeeps]
    by_cases hsource : p.generatedSourceName = []
    swap
    · rw [if_neg hsource, or_iff_right (fun h => hsource h.1)]
      refine mem_registerCallback.trans (Iff.trans (or_iff_right ?_) (by rw [hhidden]))
      exact fun h => hsource (hname.symm.trans h.1)
    rw [if_pos hsource, mem_hideMethod]
    refine (or_congr_right mem_registerCallback).trans ?_
    rw [hhidden, hname, ← or_assoc]
    refine or_congr_left ?_
    have hheap : ∀ r : Process, (r.hideMethod stub.hook).heap = r.heap :=
      fun r => congrArg (fun s : State => s.heap) (hideMethod_toState stub.hook)
    constructor
    · rintro (⟨rfl, habstract⟩ | ⟨-, hnative⟩)
      · refine ⟨hsource, built, rfl, Or.inr ⟨hook_of_stub hstub, ⟨_, rfl⟩, ?_⟩⟩
        rw [hheap]
        exact habstract
      · exact ⟨hsource, built, rfl, Or.inl hnative⟩
    · rintro ⟨-, built', hbuilt', hnative | ⟨hhook, -, habstract⟩⟩
      · obtain rfl : built = built' := by simpa using hbuilt'
        exact Or.inr ⟨hsource, hnative⟩
      · obtain rfl : built = built' := by simpa using hbuilt'
        rw [hheap] at habstract
        exact Or.inl ⟨Option.some.inj (hhook.symm.trans (hook_of_stub hstub)), habstract⟩

/-! ## Runs -/

theorem mem_hidingMachine_step {e : HidingEvent} :
    m ∈ ((hidingMachine art).step p e).hiddenMethods ↔
      e.Hides art p m ∨ m ∈ p.hiddenMethods ∧ ¬ e.Shows p m := by
  rcases e with call | method | clazz | clazz | e
  · exact mem_hookExits.trans (or_congr_right (and_iff_left not_false).symm)
  · show m ∈ (makeMethodHidden p method).1.hiddenMethods ↔ _ ∨ m ∈ _ ∧ ¬ False
    rw [and_iff_left not_false]
    rcases method with _ | n
    · simp [makeMethodHidden, HidingEvent.Hides]
    · refine mem_hideMethod.trans (or_congr_left (and_congr_left fun _ => ?_))
      exact ⟨fun h => congrArg some h.symm, fun h => (Option.some.inj h).symm⟩
  · exact mem_makeClassHidden.trans (or_congr_right (and_iff_left not_false).symm)
  · exact mem_makeClassVisible.trans (false_or _).to_iff.symm
  · exact (false_or _).to_iff.symm.trans (or_congr_right (and_iff_left not_false).symm)

/-- **A method is hidden if the last call to say anything of it hid it**: in
any run of the calls that hide and show methods, of `HookMethod` with every
exit, and of everything else. -/
theorem hidden_exec_iff (p : Process) (events : List HidingEvent) (m : ArtMethodPtr) :
    m ∈ ((hidingMachine art).exec p events).hiddenMethods ↔
      (∃ before e after, events = before ++ e :: after ∧
        e.Hides art ((hidingMachine art).exec p before) m ∧
        (hidingMachine art).EachStep (fun p e => ¬ e.Shows p m)
          ((hidingMachine art).exec p (before ++ [e])) after) ∨
      m ∈ p.hiddenMethods ∧ (hidingMachine art).EachStep (fun p e => ¬ e.Shows p m) p events :=
  Machine.exec_iff_set_not_cleared (P := fun p : Process => m ∈ p.hiddenMethods)
    (S := fun p e => HidingEvent.Hides art p m e) (C := fun p e => HidingEvent.Shows p m e)
    fun _ _ => mem_hidingMachine_step

/-! ## What the calls return -/

/-- **How many methods a call says it has hidden.** -/
def HidingEvent.reportedHidden (p : Process) : HidingEvent → ℕ
  | .makeMethodHidden method => (LSPlant.makeMethodHidden p method).2.toNat
  | .makeClassHidden clazz => (LSPlant.makeClassHidden p clazz).2
  | _ => 0

/-- **How many it says it shows again.** -/
def HidingEvent.reportedShown (p : Process) : HidingEvent → ℕ
  | .makeClassVisible clazz => (LSPlant.makeClassVisible p clazz).2
  | _ => 0

/-- A call of `HookMethod` that hides nothing: a source name is given. -/
def HidingEvent.Named (p : Process) : HidingEvent → Prop
  | .hookMethod _ => p.generatedSourceName ≠ []
  | _ => True

theorem hideMethod_card :
    (p.hideMethod m).hiddenMethods.card = p.hiddenMethods.card + (p.hidesMethod m).toNat := by
  unfold Process.hideMethod Process.hidesMethod
  split
  · rename_i habstract
    rw [habstract]
    rfl
  · rename_i habstract
    rw [Bool.not_eq_true] at habstract
    by_cases hmem : m ∈ p.hiddenMethods
    · simp [habstract, hmem]
    · simp [habstract, hmem]

/-- What one call returns is what it adds or takes. -/
theorem hidingMachine_step_card {e : HidingEvent} (hnamed : e.Named p) :
    ((hidingMachine art).step p e).hiddenMethods.card + e.reportedShown p =
      p.hiddenMethods.card + e.reportedHidden p := by
  rcases e with call | method | clazz | clazz | e
  · have hsame : (hookExits art p call).1.hiddenMethods = p.hiddenMethods :=
      Finset.ext fun m => mem_hookExits.trans (or_iff_right fun h => hnamed h.1)
    exact congrArg (fun hidden => hidden.card + 0) hsame
  · rcases method with _ | m
    · rfl
    · exact hideMethod_card
  · rcases clazz with _ | clazz
    · rfl
    · have hcard := card_foldl_hideVisitor p.heap clazz.methods (p.hiddenMethods, 0)
      rw [← visitMethods_of_goesOn (hideVisitor_goesOn p.heap)] at hcard
      exact hcard
  · rcases clazz with _ | clazz
    · rfl
    · have hcard := card_foldl_showVisitor p.heap clazz.methods (p.hiddenMethods, 0)
      rw [← visitMethods_of_goesOn (showVisitor_goesOn p.heap)] at hcard
      exact hcard
  · rfl

/-- **The numbers add up.** In a run in which no `HookMethod` hides anything, the
methods hidden at the end are as many as those at the start and all the calls
say they have hidden, less those they say they show. -/
theorem hidden_card_exec
    (hnamed : (hidingMachine art).EachStep (fun p e => e.Named p) p events) :
    ((hidingMachine art).exec p events).hiddenMethods.card +
        (hidingMachine art).total (fun p e => e.reportedShown p) p events =
      p.hiddenMethods.card +
        (hidingMachine art).total (fun p e => e.reportedHidden p) p events :=
  Machine.exec_balance (fun p : Process => p.hiddenMethods.card) _ _
    (fun _ _ => hidingMachine_step_card) hnamed

/-- The process of the samples, with no source name given. -/
def sampleProcess : Process where
  toState := sampleState kAccPublic
  loadedClasses := 0
  hookerClassLoaders := ∅
  hiddenMethods := ∅
  generatedSourceName := []

/-- A class that gets hidden with a method of it hidden before, and shown. -/
theorem hidden_card_exec_sample :
    let events : List HidingEvent := [.makeMethodHidden (some 110),
      .makeClassHidden (some ⟨some [110, 120, 130], [], []⟩),
      .makeClassVisible (some ⟨none, [110], [120]⟩)]
    ((hidingMachine sampleArt).exec sampleProcess events).hiddenMethods.card + 2 = 0 + 3 := by
  intro events
  have hnamed : (hidingMachine sampleArt).EachStep (fun p e => e.Named p) sampleProcess events :=
    ⟨trivial, trivial, trivial, trivial⟩
  exact hidden_card_exec hnamed

/-! ## Hookers -/

/-- A hidden method has no frame for a walk to show. -/
theorem view_of_hidden {s : State} {hasSetMethod : Bool} {frame : StackFrame} (hm : m ∈ hidden)
    (hframe : frame.method = some m) : frame.view s hidden hasSetMethod = none := by
  have hne : hidden ≠ ∅ := Finset.ne_empty_of_mem hm
  rw [StackFrame.view, if_neg hne, hframe]
  exact if_pos hm

theorem loaded_of_buildDex {isFastNative : Bool}
    (h : (buildDex p call isFastNative).2 = some (some built)) : call.loaded = some built := by
  unfold buildDex at h
  split at h
  · cases h
  dsimp only at h
  split at h
  · cases h
  split at h
  · cases h
  · rename_i built' hloaded
    split at h
    · cases h
    · cases h
      exact hloaded

/-- A call that comes to an end hides the hook method. -/
theorem hides_of_hooked {backup : ArtMethodPtr} (hsource : p.generatedSourceName = [])
    (hloaded : call.loaded = some built) (hhook : built.hook = some m)
    (hhooked : (hookExits art p call).2 = .hooked backup)
    (hinvokable : ((hookExits art p call).1.heap m).isAbstract = false) :
    call.Hides art p m := by
  rcases passes_or_refused art p call with ⟨target, hpass⟩ | ⟨e, he⟩
  swap
  · rw [he] at hhooked
    cases hhooked
  have hexits := hookExits_eq_of_passes art hpass
  rcases hdex : buildDex p call ((p.heap target).isFastNative art) with ⟨q, _ | _ | built'⟩
  · rw [hexits, hdex] at hhooked
    cases hhooked
  · rw [hexits, hdex] at hhooked
    cases hhooked
  have hbuilt : built' = built :=
    Option.some.inj ((loaded_of_buildDex (congrArg Prod.snd hdex)).symm.trans hloaded)
  subst hbuilt
  rw [hides_iff_of_passes hpass hdex]
  exact ⟨hsource, built', rfl, Or.inr ⟨hhook, ⟨backup, hhooked⟩, hinvokable⟩⟩

/-- **Hookers stay out of stack traces**: with no source name given, a `Hook` that
returns a backup takes the frames of the hook method out of every walk and
every backtrace, until someone makes its class visible. -/
theorem hooker_stays_hidden {backup : ArtMethodPtr} (hsource : p.generatedSourceName = [])
    (hloaded : call.loaded = some built) (hhook : built.hook = some m)
    (hhooked : (hookExits art p call).2 = .hooked backup)
    (hinvokable : ((hookExits art p call).1.heap m).isAbstract = false)
    (hkept : (hidingMachine art).EachStep (fun p e => ¬ e.Shows p m) (hookExits art p call).1
      events) :
    let q := (hidingMachine art).exec p (.hookMethod call :: events)
    (∀ frame : StackFrame, frame.method = some m →
        ∀ hasSetMethod, frame.view q.toState q.hiddenMethods hasSetMethod = none) ∧
      ∀ frame : TraceFrame, frame.method = m →
        shownFrame q.toState q.hiddenMethods frame = none := by
  intro q
  have hm : m ∈ q.hiddenMethods := by
    exact (hidden_exec_iff p _ m).2 (Or.inl ⟨[], .hookMethod call, events, rfl,
      hides_of_hooked hsource hloaded hhook hhooked hinvokable, hkept⟩)
  refine ⟨fun frame hframe hasSetMethod => view_of_hidden hm hframe, fun frame hframe => ?_⟩
  rw [shownFrame, hframe]
  exact if_pos hm

/-- A native hook of 110. -/
def sampleHookCall : HookCall where
  target := some 110
  callback := .native false
  isProxy := false
  shorty := ['V']
  classLoader := 0
  dexOpened := true
  loaded := some {
    methods := {210, 211, 212}
    records := sampleHeap (kAccPublic ||| kAccStatic)
    hookerField := true
    hook := some 210
    backupMethod := some 211
    backup := 211
    nativeMethod := 212 }
  mmap := some 65536
  mprotectOk := true

/-- Its hooker stays hidden when the class of the target is made visible. -/
theorem hooker_stays_hidden_sample :
    let q := (hidingMachine sampleArt).exec sampleProcess
      [.hookMethod sampleHookCall, .makeClassVisible (some ⟨some [110, 120], [], []⟩)]
    ∀ frame : StackFrame, frame.method = some 210 →
      ∀ hasSetMethod, frame.view q.toState q.hiddenMethods hasSetMethod = none := by
  intro q
  have hhooked : (hookExits sampleArt sampleProcess sampleHookCall).2 = .hooked 211 := by
    decide +kernel
  have hkept : (hidingMachine sampleArt).EachStep (fun p e => ¬ HidingEvent.Shows p 210 e)
      (hookExits sampleArt sampleProcess sampleHookCall).1
      [.makeClassVisible (some ⟨some [110, 120], [], []⟩)] :=
    ⟨by simp [HidingEvent.Shows, VisitedClass.methods], trivial⟩
  exact (hooker_stays_hidden rfl rfl rfl hhooked (by decide +kernel) hkept).1

end LSPlant
