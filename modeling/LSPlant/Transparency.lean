import LSPlant.Coherence
import LSPlant.Initialization
/-!
# Hooking is transparent to code and native registration

A method that nobody hooks has a data pointer and an entry point, and
native registration, code installation and its class's initialisation set
them: that is a plain method. LSPlant's pair of a target and its backup
simulates it. The body of the method, the backup while the target is
hooked and the target otherwise, follows the plain method event by event,
and hooking and unhooking take no step of it.
-/

namespace LSPlant

/-! ## The plain method -/

/-- **A method as ART sees it.** -/
structure PlainMethod where
  data : ℕ
  entryPoint : EntryPoint

/-- What happens to it. -/
inductive PlainEvent where
  | registerNative (nativeMethod : ℕ)
  | unregisterNative (stub : ℕ)
  | updateMethodsCode (code : ℕ)
  | initializeClass (installed : Option ℕ)

/-- ART's functions set the field they are named for. -/
def PlainMethod.step (p : PlainMethod) : PlainEvent → PlainMethod
  | .registerNative nativeMethod => { p with data := nativeMethod }
  | .unregisterNative stub => { p with data := stub }
  | .updateMethodsCode code => { p with entryPoint := .code code }
  | .initializeClass installed => { p with entryPoint := installed.elim p.entryPoint .code }

def plainMachine : Machine PlainMethod PlainEvent where
  step := PlainMethod.step
  admissible _ _ := True

/-! ## The hooked pair -/

/-- **What happens to one method** of a process with LSPlant in it. A
class is initialised as a whole: its snapshot is taken, ART rewrites what
it rewrites, and the snapshot is restored by the class, under whichever
thread, or by the thread that took it. -/
inductive MethodEvent where
  | hook (request : HookRequest)
  | unHook
  | registerNative (nativeMethod : ℕ)
  | unregisterNative (stub : ℕ)
  | updateMethodsCode (code : ℕ)
  | initializeClass (self : ThreadPtr) (byClass : Option ThreadPtr)
      (rewritten : List (ArtMethodPtr × ℕ)) (order : RestoreOrder)

/-- The calls and interceptions an event consists of. -/
def MethodEvent.events (t : ArtMethodPtr) (c : ClassDefPtr) : MethodEvent → List Event
  | .hook request => [.hook { request with target := some t }]
  | .unHook => [.unHook (some t)]
  | .registerNative nativeMethod => [.registerNative t nativeMethod]
  | .unregisterNative stub => [.unregisterNative t stub]
  | .updateMethodsCode code => [.updateMethodsCode t code code]
  | .initializeClass self (some th) rewritten order =>
    [.backupClassMethods c self, .fixupStaticTrampolines c th rewritten order]
  | .initializeClass self none rewritten order =>
    [.backupClassMethods c self, .fixupStaticTrampolines nullptr self rewritten order]

/-- **What ART promises of an initialisation**: it is of a static method's
class, which is in a dex file, by a thread, and rewrites no backup. -/
def MethodEvent.Promised (art : Art) (t : ArtMethodPtr) (s : State) : MethodEvent → Prop
  | .initializeClass self _ rewritten _ =>
    (s.heap t).isStatic = true ∧ s.classDef art t ≠ nullptr ∧ self ≠ nullptr ∧
      ∀ w ∈ rewritten, w.1 ∉ s.backupedMethods
  | _ => True

instance (art : Art) (t : ArtMethodPtr) (s : State) (e : MethodEvent) :
    Decidable (e.Promised art t s) := by
  cases e <;> unfold MethodEvent.Promised <;> infer_instance

/-- **The process as one method meets it.** -/
def methodMachine (art : Art) (t : ArtMethodPtr) : Machine State MethodEvent where
  step s e := (machine art).exec s (e.events t (s.classDef art t))
  admissible s e := (machine art).Legal s (e.events t (s.classDef art t)) ∧ e.Promised art t s

instance (art : Art) (t : ArtMethodPtr) (s : State) (e : MethodEvent) :
    Decidable ((methodMachine art t).admissible s e) :=
  inferInstanceAs (Decidable (_ ∧ _))

/-- **What the plain method sees of an event.** -/
def MethodEvent.plain (t : ArtMethodPtr) : MethodEvent → Option PlainEvent
  | .hook _ | .unHook => none
  | .registerNative nativeMethod => some (.registerNative nativeMethod)
  | .unregisterNative stub => some (.unregisterNative stub)
  | .updateMethodsCode code => some (.updateMethodsCode code)
  | .initializeClass _ _ rewritten _ => some (.initializeClass (lastInstalled t rewritten))

variable {art : Art} {s s' : State} {t b n : ArtMethodPtr} {e : MethodEvent} {p : PlainMethod}

/-! ## The invariant -/

/-- **A method left alone but for hooks**: it is no backup and has not been
deoptimized, and its class is under no initialisation. While it is hooked
it points to a trampoline, and its backup is in no snapshot and will not
be in one of its class. -/
structure Undisturbed (art : Art) (t : ArtMethodPtr) (s : State) : Prop where
  coherent : Coherent art s
  notBackup : t ∉ s.backupedMethods
  notDeoptimized : ¬ s.isDeoptimized t
  notOfClass : t ∉ Registry.methodsOf s.deoptimizedClasses (s.classDef art t)
  notPending : NotPending s.backupMethods (s.classDef art t)
  noEntry : ∀ th c, snapshotEntry s.backupMethods th c t = none
  trampoline : t ∈ s.hookedMethods → (s.getEntryPoint t).IsTrampoline
  backup : ∀ b, s.isHooked t = some b →
    b ∉ Registry.methodsOf s.deoptimizedClasses (s.classDef art t) ∧
      ∀ th c, snapshotEntry s.backupMethods th c b = none

/-- **The coupling**: the method's body is the plain method. -/
structure Coupled (art : Art) (t : ArtMethodPtr) (s : State) (p : PlainMethod) : Prop where
  undisturbed : Undisturbed art t s
  data : s.getData (mayGetBackup s t) = p.data
  entryPoint : s.getEntryPoint (mayGetBackup s t) = p.entryPoint

theorem mayGetBackup_congr (h : s'.toRegistry = s.toRegistry) :
    mayGetBackup s' t = mayGetBackup s t := by
  rw [mayGetBackup, h]; rfl

/-- What leaves the registries and the snapshots as they are, and the entry
point of the method if it is hooked, leaves it undisturbed. -/
theorem Undisturbed.congr (hu : Undisturbed art t s) (hs : SameRegistry s s')
    (hbm : s'.backupMethods = s.backupMethods)
    (he : t ∈ s.hookedMethods → s'.getEntryPoint t = s.getEntryPoint t) :
    Undisturbed art t s' := by
  have hcd : s'.classDef art t = s.classDef art t := State.classDef_congr (hs.methods t).2
  refine ⟨hu.coherent.congr hs.sameHooks, ?_, ?_, ?_, ?_, ?_, ?_, ?_⟩
  · rw [hs.toRegistry]; exact hu.notBackup
  · rw [hs.toRegistry]; exact hu.notDeoptimized
  · rw [hs.toRegistry, hcd]; exact hu.notOfClass
  · rw [hbm, hcd]; exact hu.notPending
  · rw [hbm]; exact hu.noEntry
  · rw [hs.toRegistry]
    intro ht
    rw [he ht]
    exact hu.trampoline ht
  · rw [hs.toRegistry, hbm, hcd]; exact hu.backup

/-- **A process LSPlant has just been loaded into** disturbs no method. -/
theorem undisturbed_initial {heap : ArtMethodPtr → ArtMethod} {mem : Memory} {ids : List ℕ}
    {owner : ℕ → ArtMethodPtr} : Undisturbed art t (State.initial heap mem ids owner) where
  coherent := coherent_initial
  notBackup := Finmap.notMem_empty
  notDeoptimized := Finmap.notMem_empty
  notOfClass h := by simp [State.initial, Registry.empty, Registry.methodsOf] at h
  notPending th classes h := by simp [State.initial] at h
  noEntry th c := rfl
  trampoline h := absurd h Finmap.notMem_empty
  backup b h := by simp [State.initial, Registry.empty, Registry.isHooked] at h

/-! ## What each event does to the body -/

/-- Native registration, on the body. -/
theorem Coupled.setData {d : ℕ} (h : Coupled art t s p) :
    Coupled art t (s.setData (mayGetBackup s t) d) { p with data := d } := by
  have hbody : mayGetBackup (s.setData (mayGetBackup s t) d) t = mayGetBackup s t :=
    mayGetBackup_congr rfl
  refine ⟨h.undisturbed.congr SameRegistry.setData rfl fun _ => State.getEntryPoint_setData,
    ?_, ?_⟩
  · rw [hbody, State.getData_setData, if_pos rfl]
  · rw [hbody, State.getEntryPoint_setData]
    exact h.entryPoint

/-- New code, on the body as well: what a hooked method points to is no
code. -/
theorem Coupled.updateMethodsCode {code : ℕ} (h : Coupled art t s p) :
    Coupled art t (updateMethodsCode art s t code code) { p with entryPoint := .code code } := by
  have hs : SameRegistry s (LSPlant.updateMethodsCode art s t code code) :=
    SameRegistry.updateMethodsCode
  have hbody := mayGetBackup_congr (t := t) hs.toRegistry
  have hbm : (LSPlant.updateMethodsCode art s t code code).backupMethods = s.backupMethods :=
    backupMethods_step (show admissible art s (.updateMethodsCode t code code) from trivial) rfl
  have hdata : (LSPlant.updateMethodsCode art s t code code).getData (mayGetBackup s t) =
      p.data := getData_updateMethodsCode.trans h.data
  cases hh : s.isHooked t with
  | none =>
    have hentry : (LSPlant.updateMethodsCode art s t code code).getEntryPoint t = .code code := by
      rw [getEntryPoint_updateMethodsCode_unhooked hh, if_pos rfl,
        if_neg fun hc => h.undisturbed.notDeoptimized hc.2]
    have hnot : t ∉ s.hookedMethods := Registry.isHooked_eq_none.1 hh
    refine ⟨h.undisturbed.congr hs hbm fun ht => absurd ht hnot, ?_, ?_⟩
    · rw [hbody]; exact hdata
    · rw [hbody, mayGetBackup_of_unhooked hh]; exact hentry
  | some b =>
    have ht : t ∈ s.hookedMethods := Registry.mem_hookedMethods.2 ⟨b, hh⟩
    have hne : b ≠ t := h.undisturbed.coherent.ne_backup ht hh
    have hold : s.getEntryPoint t ≠ .code code := fun he => by
      have htramp := h.undisturbed.trampoline ht
      rw [he] at htramp
      exact not_isTrampoline_code htramp
    have hentry : ∀ n, (LSPlant.updateMethodsCode art s t code code).getEntryPoint n =
        if n = t then s.getEntryPoint t
        else if n = b ∧ ¬ s.isDeoptimized t then .code code else s.getEntryPoint n := fun n =>
      getEntryPoint_updateMethodsCode_hooked hh hne hold
    refine ⟨h.undisturbed.congr hs hbm fun _ => by rw [hentry, if_pos rfl], ?_, ?_⟩
    · rw [hbody]; exact hdata
    · rw [hbody, mayGetBackup_of_hooked hh, hentry, if_neg hne,
        if_pos ⟨rfl, h.undisturbed.notDeoptimized⟩]

/-- **Hooking takes no step of the plain method**: the backup is what the
target was. -/
theorem Coupled.hook {request : HookRequest} (h : Coupled art t s p)
    (hA : admissible art s (.hook { request with target := some t })) :
    Coupled art t (hookMethod art s { request with target := some t }).1 p := by
  have hu := h.undisturbed
  rcases hookMethod_cases art s { request with target := some t } (backup_ne_target hA) with
    ⟨T, -, he⟩ | ⟨target, stub, a, slot, s', he, hh⟩ <;> rw [he]
  · -- refused: at most a slot is gone
    have hc := hu.coherent
    exact ⟨⟨⟨hc.inverse, hc.apart, hc.classes, hc.nonempty, hc.proxies, hc.declaring⟩,
      hu.notBackup, hu.notDeoptimized, hu.notOfClass, hu.notPending, hu.noEntry, hu.trampoline,
      hu.backup⟩, h.data, h.entryPoint⟩
  obtain rfl : t = target := Option.some.inj hh.target_eq
  have hf := hA.1 t rfl stub hh.built_eq
  obtain ⟨hunseen, hbt, hbh, -, -, hclass⟩ := hf
  have hnone : s.isHooked t = none := Registry.isHooked_eq_none.2 hh.notHooked
  have hbacked : s'.isHooked t = some stub.backup := by rw [hh.isHooked_eq, if_pos rfl]
  have hbview : s'.view stub.backup = s.view t := by rw [hh.view, if_neg hbt, if_pos rfl]
  have hcd : s'.classDef art t = s.classDef art t := hh.classDef_eq hbt.symm
  have hdeopt : ∀ m c, m ∈ Registry.methodsOf s'.deoptimizedClasses c ↔
      (c = s.classDef art stub.hook ∧ m = stub.backup) ∨
        m ∈ Registry.methodsOf s.deoptimizedClasses c := fun m c => by
    rw [hh.deoptimizedClasses hbh, Registry.mem_addToClass]
  refine ⟨⟨hh.coherent hu.coherent (hA.1 t rfl stub hh.built_eq), ?_, ?_, ?_, ?_, ?_, ?_, ?_⟩,
    ?_, ?_⟩
  · rw [hh.backupedMethods, Table.mem_emplace]
    rintro (hc | hc)
    · exact hbt hc.symm
    · exact hu.notBackup hc
  · show t ∉ s'.deoptimizedMethods
    rw [hh.deoptimizedMethods, Table.mem_emplace]
    rintro (hc | hc)
    · exact hbt hc.symm
    · exact hu.notDeoptimized hc
  · rw [hcd, hdeopt]
    rintro (⟨-, hc⟩ | hc)
    · exact hbt hc.symm
    · exact hu.notOfClass hc
  · rw [hh.backupMethods, hcd]; exact hu.notPending
  · rw [hh.backupMethods]; exact hu.noEntry
  · intro _
    rw [← State.view_entryPoint, hh.view, if_pos rfl]
    exact isTrampoline_trampoline
  · intro b hb
    obtain rfl : stub.backup = b := Option.some.inj (hbacked.symm.trans hb)
    constructor
    · rw [hcd, hdeopt]
      rintro (⟨hc, -⟩ | hc)
      · exact hclass hc.symm
      · exact hunseen.not_mem_deoptimizedClasses hc
    · intro th c
      rw [hh.backupMethods]
      exact hunseen.snapshotEntry
  · rw [mayGetBackup_of_hooked hbacked, ← State.view_data, hbview, State.view_data,
      ← mayGetBackup_of_unhooked hnone]
    exact h.data
  · rw [mayGetBackup_of_hooked hbacked, ← State.view_entryPoint, hbview, State.view_entryPoint,
      ← mayGetBackup_of_unhooked hnone]
    exact h.entryPoint

/-- **Neither does unhooking**: the target becomes what its backup was. -/
theorem Coupled.unHook (h : Coupled art t s p) :
    Coupled art t (unHook art s (some t)).1 p := by
  have hu := h.undisturbed
  rcases unHook_cases art s (some t) with ⟨he, -⟩ | ⟨target, record, s', htarget, he, hh⟩ <;>
    rw [he]
  · exact h
  obtain rfl : t = target := Option.some.inj htarget
  have hnone : s'.isHooked t = none := by rw [hh.isHooked_eq, if_pos rfl]
  have hbody := mayGetBackup_of_hooked hh.isHooked_target
  have hcd : s'.classDef art t = s.classDef art t :=
    State.classDef_congr (hh.declaringClass_eq hu.coherent)
  have htview := hh.view t
  rw [if_pos rfl] at htview
  refine ⟨⟨hh.coherent hu.coherent, ?_, ?_, ?_, ?_, ?_, ?_, ?_⟩, ?_, ?_⟩
  · rw [hh.toRegistry]
    exact fun hc => hu.notBackup (Finmap.mem_erase.1 hc).2
  · rw [hh.toRegistry]; exact hu.notDeoptimized
  · rw [hh.toRegistry, hcd]; exact hu.notOfClass
  · rw [hh.backupMethods, hcd]; exact hu.notPending
  · rw [hh.backupMethods]; exact hu.noEntry
  · exact fun ht => absurd ht (Registry.isHooked_eq_none.1 hnone)
  · intro b hb
    rw [hnone] at hb
    cases hb
  · rw [mayGetBackup_of_unhooked hnone, ← State.view_data, htview, ← h.data, hbody]; rfl
  · rw [mayGetBackup_of_unhooked hnone, ← State.view_entryPoint, htview, ← h.entryPoint, hbody]
    rfl

section Initialized

variable {self th : ThreadPtr} {cd : ClassDefPtr} {rewritten : List (ArtMethodPtr × ℕ)}
  {order : RestoreOrder}

/-- What ART's initialisation leaves, before any snapshot is restored. -/
theorem getEntryPoint_installed (s : State) (c : ClassDefPtr) (self : ThreadPtr)
    (rewritten : List (ArtMethodPtr × ℕ)) (n : ArtMethodPtr) :
    (artInstall (backupClassMethods s c self) rewritten).getEntryPoint n =
      (lastInstalled n rewritten).elim (s.getEntryPoint n) .code := by
  rw [getEntryPoint_artInstall_eq]
  exact congrArg (fun heap => (lastInstalled n rewritten).elim (heap n).entryPoint .code)
    backupClassMethods_heap

/-- A static target is in the snapshot of its class. -/
theorem Undisturbed.taken (hu : Undisturbed art t s) (hstatic : (s.heap t).isStatic = true)
    (ht : t ∈ s.hookedMethods) :
    (classSnapshot s (s.classDef art t)).lookup t = some (s.getEntryPoint t) := by
  rw [lookup_classSnapshot, if_pos ⟨Or.inl ((hu.coherent.classes t _).2 ⟨ht, rfl⟩), hstatic⟩]

/-- A method that is neither hooked nor of the class's deoptimized ones is
not. -/
theorem Undisturbed.not_taken {c : ClassDefPtr} (hu : Undisturbed art t s)
    (hn : n ∉ s.hookedMethods) (hclass : n ∉ Registry.methodsOf s.deoptimizedClasses c) :
    (classSnapshot s c).lookup n = none := by
  rw [lookup_classSnapshot, if_neg]
  rintro ⟨hc | hc, -⟩
  · exact hn ((hu.coherent.classes n _).1 hc).1
  · exact hclass hc

theorem Undisturbed.initializeClass (hu : Undisturbed art t s)
    (hstatic : (s.heap t).isStatic = true) (hr : Restores (s.classDef art t) self cd th)
    (ho : order.Of (backupClassMethods s (s.classDef art t) self) cd th) :
    Undisturbed art t
      (initializeClass art s (s.classDef art t) self cd th rewritten order) := by
  have hsame : SameRegistry s
      (LSPlant.initializeClass art s (s.classDef art t) self cd th rewritten order) :=
    sameRegistry_initializeClass
  have hcd : (LSPlant.initializeClass art s (s.classDef art t) self cd th
      rewritten order).classDef art t = s.classDef art t :=
    State.classDef_congr (hsame.methods t).2
  have hreg := hsame.toRegistry
  refine ⟨hu.coherent.congr hsame.sameHooks, ?_, ?_, ?_, ?_, ?_, ?_, ?_⟩
  · rw [hreg]; exact hu.notBackup
  · rw [hreg]; exact hu.notDeoptimized
  · rw [hreg, hcd]; exact hu.notOfClass
  · rw [hcd]; exact notPending_initializeClass hr hu.notPending ho
  · exact snapshotEntry_initializeClass hr hu.notPending ho hu.noEntry
  · rw [hreg]
    intro ht
    rw [getEntryPoint_initializeClass_hooked hr hu.notPending ho hu.coherent ht hu.noEntry
      (hu.taken hstatic ht)]
    exact hu.trampoline ht
  · rw [hreg, hcd]
    intro b hb
    obtain ⟨hclass, hnone⟩ := hu.backup b hb
    exact ⟨hclass, snapshotEntry_initializeClass hr hu.notPending ho hnone⟩

/-- **A method that is not hooked** has what ART has installed. -/
theorem Undisturbed.entryPoint_initializeClass_unhooked (hu : Undisturbed art t s)
    (hr : Restores (s.classDef art t) self cd th)
    (ho : order.Of (backupClassMethods s (s.classDef art t) self) cd th)
    (hh : s.isHooked t = none) :
    (LSPlant.initializeClass art s (s.classDef art t) self cd th rewritten order).getEntryPoint t =
      (lastInstalled t rewritten).elim (s.getEntryPoint t) .code := by
  have hnot : t ∉ s.hookedMethods := Registry.isHooked_eq_none.1 hh
  rw [getEntryPoint_initializeClass_of_not_taken hr hu.notPending ho hu.coherent hu.notBackup
    hu.noEntry (hu.not_taken hnot hu.notOfClass), getEntryPoint_installed]

/-- **The backup of one that is** gets it. -/
theorem Undisturbed.entryPoint_initializeClass_hooked (hu : Undisturbed art t s)
    (hstatic : (s.heap t).isStatic = true) (hback : ∀ w ∈ rewritten, w.1 ∉ s.backupedMethods)
    (hr : Restores (s.classDef art t) self cd th)
    (ho : order.Of (backupClassMethods s (s.classDef art t) self) cd th)
    (hh : s.isHooked t = some b) :
    (LSPlant.initializeClass art s (s.classDef art t) self cd th rewritten order).getEntryPoint b =
      (lastInstalled t rewritten).elim (s.getEntryPoint b) .code := by
  obtain ⟨hclass, hnone⟩ := hu.backup b hh
  have ht : t ∈ s.hookedMethods := Registry.mem_hookedMethods.2 ⟨b, hh⟩
  -- ART's own loop over the class does not meet the backup
  have hnever : lastInstalled b rewritten = none := lastInstalled_eq_none fun w hw he =>
    hback w hw (he ▸ hu.coherent.mem_backuped.2 ⟨t, hh⟩)
  have hnot : b ∉ s.hookedMethods := Registry.isHooked_eq_none.1 (hu.coherent.isHooked_backup hh)
  rw [getEntryPoint_initializeClass_backup hr hu.notPending ho hu.coherent hh
    hu.notDeoptimized hu.noEntry (hu.taken hstatic ht) hnone (hu.not_taken hnot hclass),
    getEntryPoint_installed, getEntryPoint_installed, hnever]
  cases hlast : lastInstalled t rewritten with
  | none => simp only [Option.elim_none, ne_eq, not_true_eq_false, if_false]
  | some code =>
    have hne : EntryPoint.code code ≠ s.getEntryPoint t := fun he => by
      have htramp := hu.trampoline ht
      rw [← he] at htramp
      exact not_isTrampoline_code htramp
    rw [Option.elim_some, if_pos hne]
    rfl

/-- **A class initialised as a whole.** A method that is not hooked is in no
snapshot; one that is finds the snapshot's entry point again, and its
backup gets what ART has installed. -/
theorem Coupled.initializeClass (h : Coupled art t s p)
    (hstatic : (s.heap t).isStatic = true) (hback : ∀ w ∈ rewritten, w.1 ∉ s.backupedMethods)
    (hr : Restores (s.classDef art t) self cd th)
    (ho : order.Of (backupClassMethods s (s.classDef art t) self) cd th) :
    Coupled art t (initializeClass art s (s.classDef art t) self cd th rewritten order)
      (p.step (.initializeClass (lastInstalled t rewritten))) := by
  have hu := h.undisturbed
  have hbody : mayGetBackup
      (LSPlant.initializeClass art s (s.classDef art t) self cd th rewritten order) t =
        mayGetBackup s t := mayGetBackup_congr sameRegistry_initializeClass.toRegistry
  have hentry := h.entryPoint
  refine ⟨hu.initializeClass hstatic hr ho, ?_, ?_⟩
  · rw [hbody, getData_initializeClass]
    exact h.data
  · rw [hbody]
    cases hh : s.isHooked t with
    | none =>
      rw [mayGetBackup_of_unhooked hh] at hentry ⊢
      rw [hu.entryPoint_initializeClass_unhooked hr ho hh, hentry]
      rfl
    | some b =>
      rw [mayGetBackup_of_hooked hh] at hentry ⊢
      rw [hu.entryPoint_initializeClass_hooked hstatic hback hr ho hh, hentry]
      rfl

end Initialized

/-! ## Runs -/

/-- **Each event takes the plain method's step**, or none if it is a hook
or an unhook. -/
theorem coupled_step (h : Coupled art t s p) (hA : (methodMachine art t).admissible s e) :
    Coupled art t ((methodMachine art t).step s e) (plainMachine.exec p (e.plain t).toList) := by
  obtain ⟨hL, hpromise⟩ := hA
  cases e with
  | hook request => exact h.hook hL.1
  | unHook => exact h.unHook
  | registerNative nativeMethod => exact h.setData
  | unregisterNative stub => exact h.setData
  | updateMethodsCode code => exact h.updateMethodsCode
  | initializeClass self byClass rewritten order =>
    obtain ⟨hstatic, hnull, hself, hback⟩ := hpromise
    cases byClass with
    | some th => exact h.initializeClass hstatic hback ⟨hnull, Or.inl rfl⟩ hL.2.1.2
    | none =>
      exact h.initializeClass hstatic hback ⟨hnull, Or.inr ⟨rfl, rfl, hself⟩⟩ hL.2.1.2

/-- **And a run takes the plain method's run.** -/
theorem coupled_exec {es : List MethodEvent} (h : Coupled art t s p)
    (hL : (methodMachine art t).Legal s es) :
    Coupled art t ((methodMachine art t).exec s es)
      (plainMachine.exec p (es.filterMap (·.plain t))) :=
  Machine.exec_simulation (fun _ _ _ hc hA => coupled_step hc hA) h hL

/-- An event that is no hook and no unhook leaves the registries alone. -/
theorem toRegistry_methodStep (h : (e.plain t).isSome) :
    ((methodMachine art t).step s e).toRegistry = s.toRegistry := by
  cases e with
  | hook request => cases h
  | unHook => cases h
  | registerNative nativeMethod => rfl
  | unregisterNative stub => rfl
  | updateMethodsCode code => exact SameRegistry.updateMethodsCode.toRegistry
  | initializeClass self byClass rewritten order =>
    cases byClass <;> exact sameRegistry_initializeClass.toRegistry

theorem toRegistry_methodExec {es : List MethodEvent} (h : ∀ e ∈ es, (e.plain t).isSome) :
    ((methodMachine art t).exec s es).toRegistry = s.toRegistry := by
  induction es generalizing s with
  | nil => rfl
  | cons e es ih =>
    have hrest := ih (s := (methodMachine art t).step s e) fun e' he' =>
      h e' (List.mem_cons_of_mem e he')
    exact hrest.trans (toRegistry_methodStep (h e List.mem_cons_self))

/-- **Hooking is transparent.** Of two runs of native registrations, code
updates and class initialisations of a method, the same but for hooks and
unhooks that the first one has anywhere, the first leaves the method, or
its backup if it ends hooked, with the data pointer and the entry point
that the second leaves the method with. -/
theorem hooking_transparent {es plainRun : List MethodEvent} (hu : Undisturbed art t s)
    (hn : t ∉ s.hookedMethods) (hL : (methodMachine art t).Legal s es)
    (hL' : (methodMachine art t).Legal s plainRun)
    (hplain : ∀ e ∈ plainRun, (e.plain t).isSome)
    (hsame : es.filterMap (·.plain t) = plainRun.filterMap (·.plain t)) :
    let u := (methodMachine art t).exec s es
    let v := (methodMachine art t).exec s plainRun
    (u.isHooked t = none →
        u.getData t = v.getData t ∧ u.getEntryPoint t = v.getEntryPoint t) ∧
      ∀ b, u.isHooked t = some b →
        u.getData b = v.getData t ∧ u.getEntryPoint b = v.getEntryPoint t := by
  intro u v
  have hnone : s.isHooked t = none := Registry.isHooked_eq_none.2 hn
  have hstart : Coupled art t s ⟨s.getData t, s.getEntryPoint t⟩ := by
    refine ⟨hu, ?_, ?_⟩ <;> rw [mayGetBackup_of_unhooked hnone]
  have hcu : Coupled art t u _ := coupled_exec hstart hL
  have hcv : Coupled art t v _ := coupled_exec hstart hL'
  have hv : v.isHooked t = none := by
    have hreg : v.toRegistry = s.toRegistry := toRegistry_methodExec hplain
    rw [hreg]
    exact hnone
  rw [← hsame] at hcv
  have hdata : u.getData (mayGetBackup u t) = v.getData t := by
    rw [hcu.data, ← hcv.data, mayGetBackup_of_unhooked hv]
  have hentry : u.getEntryPoint (mayGetBackup u t) = v.getEntryPoint t := by
    rw [hcu.entryPoint, ← hcv.entryPoint, mayGetBackup_of_unhooked hv]
  constructor
  · intro h
    rw [mayGetBackup_of_unhooked h] at hdata hentry
    exact ⟨hdata, hentry⟩
  · intro b h
    rw [mayGetBackup_of_hooked h] at hdata hentry
    exact ⟨hdata, hentry⟩

/-- A run it is about: a static method of class 2 is hooked, its class is
initialised with ART installing code on it, its native function is
registered, and it is unhooked. -/
theorem hooking_transparent_sample :
    let s := sampleState kAccStatic
    let u := (methodMachine sampleArt 110).exec s
      [.updateMethodsCode 50,
        .hook { target := none, callback := .native false, isProxy := false,
                built := some ⟨210, 211, 211⟩, mmap := some 65536, mprotectOk := true },
        .initializeClass 5 none [(110, 77)] ⟨[5], [2], [110]⟩, .registerNative 9, .unHook]
    let v := (methodMachine sampleArt 110).exec s
      [.updateMethodsCode 50, .initializeClass 5 none [(110, 77)] ⟨[], [], []⟩, .registerNative 9]
    u.getData 110 = v.getData 110 ∧ u.getEntryPoint 110 = v.getEntryPoint 110 := by
  exact (hooking_transparent (t := 110) undisturbed_initial (by decide) (by decide) (by decide)
    (by decide) (by rfl)).1 (by decide)

end LSPlant
