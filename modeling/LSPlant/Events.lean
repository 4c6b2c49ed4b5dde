import LSPlant.Effect
import LSPlant.Art.Instrumentation
import LSPlant.Art.Jit
import LSPlant.Art.JitCodeCache
import LSPlant.Library.Machine
/-!
# The machine

Calls of the API and intercepted ART functions as the events of one
machine. Every event is a wrapper that has run to its end, so the states
of a run are those in which none is in progress. What ART does inside a
wrapper, and the order a hash table is visited in, come with the event;
the environment promises that a stub `BuildDex` has built is new, that
`mmap` returns a page of its own, and that a loop visits every key once.
-/

namespace LSPlant

/-- **An event.** -/
inductive Event where
  | hook (request : HookRequest)
  | unHook (target : Option ArtMethodPtr)
  | setHookEnabled (target : Option ArtMethodPtr) (enabled : Bool)
  | deoptimize (method : Option ArtMethodPtr)
  | updateMethodsCode (m : ArtMethodPtr) (quickCode installed : ℕ)
  | registerNative (m : ArtMethodPtr) (nativeMethod : ℕ)
  | unregisterNative (m : ArtMethodPtr) (stub : ℕ)
  | registerNatives (natives : List JNINativeMethod) (written : List (ArtMethodPtr × ℕ))
      (order : List ArtMethodPtr)
  | unregisterNatives (visited : List ArtMethodPtr) (written : List (ArtMethodPtr × ℕ))
      (order : List ArtMethodPtr)
  | backupClassMethods (classDef : ClassDefPtr) (self : ThreadPtr)
  | fixupStaticTrampolines (classDef : ClassDefPtr) (self : ThreadPtr)
      (rewritten : List (ArtMethodPtr × ℕ)) (order : RestoreOrder)
  | mapBootImageMethods (remapped : List (ArtMethodPtr × ℕ × ℕ)) (order : MapOrder)
  | collect

/-- The state after an event. -/
def step (art : Art) (s : State) : Event → State
  | .hook request => (hookMethod art s request).1
  | .unHook target => (unHook art s target).1
  | .setHookEnabled target enabled => (setHookEnabled art s target enabled).1
  | .deoptimize method => (deoptimize art s method).1
  | .updateMethodsCode m quickCode installed => updateMethodsCode art s m quickCode installed
  | .registerNative m nativeMethod => registerNative s m nativeMethod
  | .unregisterNative m stub => unregisterNative s m stub
  | .registerNatives natives written order => registerNatives art s natives written order
  | .unregisterNatives visited written order => unregisterNatives art s visited written order
  | .backupClassMethods classDef self => backupClassMethods s classDef self
  | .fixupStaticTrampolines classDef self rewritten order =>
    fixupStaticTrampolines art s classDef self rewritten order
  | .mapBootImageMethods remapped order => mapBootImageMethods art s remapped order
  | .collect => moveObsoleteMethods art s

/-- **A method LSPlant has not seen yet**: no container mentions it. -/
def State.Unseen (s : State) (m : ArtMethodPtr) : Prop :=
  m ∉ s.hookedMethods ∧ m ∉ s.backupedMethods ∧ m ∉ s.deoptimizedMethods ∧
    m ∉ s.backupedProxyMethods ∧ (∀ p ∈ s.jitMovements, p.1 ≠ m ∧ p.2 ≠ m) ∧
    (Table.Forall s.hookedMethods fun _ record => record.hook ≠ m ∧ record.backup ≠ m) ∧
    (Table.Forall s.backupMethods fun _ classes => Table.Forall classes fun _ methods =>
      m ∉ methods) ∧
    (Table.Forall s.hookedClasses fun _ methods => m ∉ methods) ∧
    Table.Forall s.deoptimizedClasses fun _ methods => m ∉ methods

instance (s : State) (m : ArtMethodPtr) : Decidable (s.Unseen m) :=
  inferInstanceAs (Decidable (_ ∧ _ ∧ _ ∧ _ ∧ _ ∧ _ ∧ _ ∧ _ ∧ _))

/-- **What `BuildDex` promises of a stub**: methods of its own, in a class
of its own. -/
def Stub.Fresh (art : Art) (s : State) (target : ArtMethodPtr) (stub : Stub) : Prop :=
  s.Unseen stub.backup ∧ stub.backup ≠ target ∧ stub.backup ≠ stub.hook ∧
    art.arch.Fits stub.hook ∧ art.arch.Fits stub.backup ∧
    s.classDef art stub.hook ≠ s.classDef art target

instance (art : Art) (p : ℕ) : Decidable (art.arch.Fits p) :=
  inferInstanceAs (Decidable (p < _))

instance (art : Art) (s : State) (target : ArtMethodPtr) (stub : Stub) :
    Decidable (stub.Fresh art s target) :=
  inferInstanceAs (Decidable (_ ∧ _ ∧ _ ∧ _ ∧ _ ∧ _))

/-- The orders a `RestoreBackup` visits its tables in are orders of them. -/
def RestoreOrder.Of (order : RestoreOrder) (s : State) (classDef : ClassDefPtr)
    (self : ThreadPtr) : Prop :=
  (classDef ≠ nullptr → Table.Enumerates order.threads s.backupMethods) ∧
    (classDef = nullptr →
      Table.Enumerates order.classes ((s.backupMethods.lookup self).getD ∅)) ∧
    Table.Enumerates order.methods (popBackup s.backupMethods classDef self order).1

instance (order : RestoreOrder) (s : State) (classDef : ClassDefPtr) (self : ThreadPtr) :
    Decidable (order.Of s classDef self) :=
  inferInstanceAs (Decidable (_ ∧ _ ∧ _))

/-- And so are those of a `MapBootImageMethods`. -/
def MapOrder.Of (order : MapOrder) (art : Art) (s : State) : Prop :=
  Table.Enumerates order.deoptimized s.deoptimizedMethods ∧
    Table.Enumerates order.hooked s.hookedMethods ∧
    Table.Enumerates order.saved (dressUp art s order).2

instance (order : MapOrder) (art : Art) (s : State) : Decidable (order.Of art s) :=
  inferInstanceAs (Decidable (_ ∧ _ ∧ _))

/-- **What the environment promises** about the events it brings. -/
def admissible (art : Art) (s : State) : Event → Prop
  | .hook request =>
    (∀ target ∈ request.target, ∀ stub ∈ request.built, stub.Fresh art s target) ∧
      ∀ page ∈ request.mmap, s.trampolines.Mappable art page
  | .registerNatives natives _ order => Table.Enumerates order (registeredMethods s natives)
  | .unregisterNatives visited _ order => Table.Enumerates order (unregisteredMethods s visited)
  | .fixupStaticTrampolines classDef self rewritten order =>
    (∀ w ∈ rewritten, (s.heap w.1).isStatic = true) ∧ order.Of s classDef self
  | .mapBootImageMethods _ order => order.Of art s
  | _ => True

instance (art : Art) (s : State) : ∀ e, Decidable (admissible art s e)
  | .hook request =>
    inferInstanceAs (Decidable ((∀ target ∈ request.target, ∀ stub ∈ request.built,
      stub.Fresh art s target) ∧ ∀ page ∈ request.mmap, s.trampolines.Mappable art page))
  | .registerNatives natives _ order =>
    inferInstanceAs (Decidable (Table.Enumerates order (registeredMethods s natives)))
  | .unregisterNatives visited _ order =>
    inferInstanceAs (Decidable (Table.Enumerates order (unregisteredMethods s visited)))
  | .fixupStaticTrampolines classDef self rewritten order =>
    inferInstanceAs (Decidable ((∀ w ∈ rewritten, (s.heap w.1).isStatic = true) ∧
      order.Of s classDef self))
  | .mapBootImageMethods _ order => inferInstanceAs (Decidable (order.Of art s))
  | .unHook _ | .setHookEnabled _ _ | .deoptimize _ | .updateMethodsCode _ _ _
  | .registerNative _ _ | .unregisterNative _ _ | .backupClassMethods _ _ | .collect =>
    isTrue trivial

/-- **LSPlant in a process**, as a machine. -/
def machine (art : Art) : Machine State Event where
  step := step art
  admissible := admissible art

instance (art : Art) (s : State) (e : Event) : Decidable ((machine art).admissible s e) :=
  inferInstanceAs (Decidable (admissible art s e))

variable {art : Art} {s : State} {e : Event}

@[simp] theorem machine_step : (machine art).step s e = step art s e := rfl

@[simp] theorem machine_admissible : (machine art).admissible s e ↔ admissible art s e := Iff.rfl

/-! ## What freshness rules out -/

variable {m n : ArtMethodPtr} {record : HookRecord} {th : ThreadPtr} {c : ClassDefPtr}

theorem State.Unseen.ne_backup (h : s.Unseen m) (hr : s.hookedMethods.lookup n = some record) :
    record.backup ≠ m :=
  (Table.forall_iff.1 h.2.2.2.2.2.1 n record hr).2

theorem State.Unseen.snapshotEntry (h : s.Unseen m) :
    snapshotEntry s.backupMethods th c m = none := by
  unfold LSPlant.snapshotEntry
  cases hth : s.backupMethods.lookup th with
  | none => rfl
  | some classes =>
    cases hc : classes.lookup c with
    | none => simp [hc]
    | some methods =>
      have hm := Table.forall_iff.1 (Table.forall_iff.1 h.2.2.2.2.2.2.1 th classes hth) c methods hc
      simpa [hc] using Finmap.lookup_eq_none.2 hm

theorem State.Unseen.not_mem_deoptimizedClasses (h : s.Unseen m) :
    m ∉ Registry.methodsOf s.deoptimizedClasses c := by
  rw [Registry.mem_methodsOf]
  rintro ⟨methods, hc, hm⟩
  exact Table.forall_iff.1 h.2.2.2.2.2.2.2.2 c methods hc hm

/-- A fresh stub's backup is not the target. -/
theorem backup_ne_target {request : HookRequest} (h : admissible art s (.hook request)) :
    ∀ stub ∈ request.built, ∀ t ∈ request.target, stub.backup ≠ t :=
  fun stub hstub t ht => (h.1 t ht stub hstub).2.1

/-! ## A process to run things in

A 64-bit process whose ART LSPlant found everything in, with static
methods of which a hundred share a class. -/

/-- Its methods, with the given flags. -/
def sampleHeap (accessFlags : BitVec 32) (m : ArtMethodPtr) : ArtMethod where
  declaringClass := m / 100 + 1
  accessFlags := accessFlags
  data := 0
  entryPoint := .code (1000 + m)
  interpreterEntryPoint := 0

/-- It starts with nothing hooked. -/
def sampleState (accessFlags : BitVec 32) : State :=
  .initial (sampleHeap accessFlags) (fun _ => 0) [] id

/-- A native `Hook` of a method, the page mapped for it if one is. -/
def sampleHook (target hook backup : ArtMethodPtr) (page : Option ℕ) : Event :=
  .hook {
    target := some target
    callback := .native false
    isProxy := false
    built := some { hook, backup, backupMethod := backup }
    mmap := page
    mprotectOk := true }

end LSPlant
