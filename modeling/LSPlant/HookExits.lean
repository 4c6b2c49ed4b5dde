import LSPlant.Dex.Signatures
import LSPlant.Effect
/-!
# The exits of HookMethod

`HookMethod` with every exit it has, the class `BuildDex` loads on the way
and what it leaves behind: a number used up, a class loader kept, methods
hidden from stack traces. Method records and registries are written from
`DoHook` on only, where the one thing left to fail is the trampoline.
-/

namespace LSPlant

/-- **A class `BuildDex` has loaded**, with what JNI finds in it. Its
methods' records are as they are once its natives are registered. -/
structure BuiltClass where
  methods : Finset ArtMethodPtr
  records : ArtMethodPtr → ArtMethod
  /-- Whether `hooker_field` was found. -/
  hookerField : Bool
  hook : Option ArtMethodPtr
  backupMethod : Option ℕ
  /-- The method of the reflected backup. -/
  backup : ArtMethodPtr
  /-- The callback's own method, of a native callback. -/
  nativeMethod : ArtMethodPtr

/-- **A call of `HookMethod`**, and what comes of the calls it makes. -/
structure HookCall where
  target : Option ArtMethodPtr
  callback : Callback
  isProxy : Bool
  shorty : List Char
  classLoader : ℕ
  /-- `OpenInMemoryHookerDex` gave a dex file. -/
  dexOpened : Bool
  /-- The class `loadClass` gave. -/
  loaded : Option BuiltClass
  mmap : Option ℕ
  mprotectOk : Bool

/-- The state, and what else `HookMethod` writes to. -/
structure Process extends State where
  loadedClasses : ℕ
  hookerClassLoaders : Finset ℕ
  hiddenMethods : Finset ArtMethodPtr
  generatedSourceName : List Char

/-- Where `HookMethod` returns nothing. -/
inductive HookError where
  | targetNotExecutable
  | callbackNull
  | callbackNotExecutable
  | callbackInvalid
  | targetNotInvokable
  | duplicateHook
  | foreignCallback
  | noHooker
  | noTrampoline
deriving DecidableEq

/-- What it logs there. -/
def HookError.message : HookError → String
  | targetNotExecutable => "target method is not an executable"
  | callbackNull => "callback is nullptr"
  | callbackNotExecutable => "callback method is not an executable"
  | callbackInvalid => "callback method is invalid"
  | targetNotInvokable => "target method is not invokable"
  | duplicateHook => "Skip duplicate hook"
  | foreignCallback => "callback_method is not a method of hooker_object"
  | noHooker => "Failed to generate hooker"
  | noTrampoline => "Failed to generate trampoline"

/-- **How a call of `HookMethod` ends.** -/
inductive HookOutcome where
  | aborted
  | failed (e : HookError)
  | hooked (backup : ArtMethodPtr)
deriving DecidableEq

/-- Why a callback is refused. -/
def Callback.refusal : Callback → Option HookError
  | .native isNull => if isNull then some .callbackNull else none
  | .java isExecutable shorty _ =>
    if !isExecutable then some .callbackNotExecutable
    else if shorty = ['L', 'L'] ∨ shorty = ['L', 'L', 'L'] then none
    else some .callbackInvalid

/-- Whether it is of the native API. -/
def Callback.isNativeApi : Callback → Bool
  | .native _ => true
  | .java _ _ _ => false

/-- The members `HookMethod` goes on with, if none is missing. -/
def BuiltClass.stub (built : BuiltClass) : Option Stub :=
  match built.hookerField, built.hook, built.backupMethod with
  | true, some hook, some backupMethod => some ⟨hook, built.backup, backupMethod⟩
  | _, _, _ => none

variable (art : Art) (p : Process) (call : HookCall)

/-- The methods of the class the call generates. -/
def HookCall.newMethods : Finset ArtMethodPtr := (call.loaded.map (·.methods)).getD ∅

/-- ART makes the methods of a class. -/
def Process.load (built : BuiltClass) : Process :=
  { p with heap := fun m => if m ∈ built.methods then built.records m else p.heap m }

/-- `StackVisitor::HideMethod`. -/
def Process.hideMethod (m : ArtMethodPtr) : Process :=
  if (p.heap m).isAbstract then p else { p with hiddenMethods := insert m p.hiddenMethods }

/-- **`BuildDex`**: the class, if there is one; nothing at all where it
aborts. -/
def buildDex (isFastNative : Bool) : Process × Option (Option BuiltClass) :=
  if call.shorty = [] then (p, some none)
  else
    -- the number is used up whether or not there will be a class
    let p := { p with loadedClasses := p.loadedClasses + 1 }
    if !call.dexOpened then (p, some none)
    else
      let p := { p with hookerClassLoaders := insert call.classLoader p.hookerClassLoaders }
      match call.loaded with
      | none => (p, some none)
      | some built => match nativeHookerEntryOf isFastNative call.shorty with
        | .error _ => (p.load built, none)
        | .ok _ => (p.load built, some (some built))

/-- What the native API does with the class before its members are looked
at. -/
def registerCallback (isFastNative : Bool) (built : Option BuiltClass) : Process :=
  match built with
  | some built =>
    if call.callback.isNativeApi && !isFastNative && p.generatedSourceName = [] then
      p.hideMethod built.nativeMethod
    else p
  | none => p

/-- **`HookMethod`, exit by exit.** -/
def hookExits : Process × HookOutcome :=
  match call.target with
  | none => (p, .failed .targetNotExecutable)
  | some target => match call.callback.refusal with
    | some e => (p, .failed e)
    | none =>
      if (p.heap target).isAbstract then (p, .failed .targetNotInvokable)
      else if p.isHooked target ≠ none ∨ p.isBackup target ≠ none then
        (p, .failed .duplicateHook)
      else if call.callback.isForeign then (p, .failed .foreignCallback)
      else
        let isFastNative := (p.heap target).isFastNative art
        match buildDex p call isFastNative with
        | (p, none) => (p, .aborted)
        | (p, some built) =>
          let p := registerCallback p call isFastNative built
          match built.bind BuiltClass.stub with
          | none => (p, .failed .noHooker)
          | some stub =>
            match doHook art p.toState target stub.hook stub.backup call.mmap call.mprotectOk with
            | (s, none) => ({ p with toState := s }, .failed .noTrampoline)
            | (s, some slot) =>
              let p := { p with toState := recordHook art s target stub call.isProxy slot }
              (if p.generatedSourceName = [] then p.hideMethod stub.hook else p,
                .hooked stub.backup)

/-! ## What is written before `DoHook` -/

/-- **Only the generated class has been written to**: registries and method
ids are as they were, and so is every method outside the class. -/
structure OutsideUnchanged (newMethods : Finset ArtMethodPtr) (s s' : State) : Prop where
  toRegistry : s'.toRegistry = s.toRegistry
  internalMethods : s'.internalMethods = s.internalMethods
  heap : ∀ m ∉ newMethods, s'.heap m = s.heap m

variable {art p call} {newMethods : Finset ArtMethodPtr} {s s' s'' : State}

theorem OutsideUnchanged.refl : OutsideUnchanged newMethods s s := ⟨rfl, rfl, fun _ _ => rfl⟩

theorem OutsideUnchanged.trans (h : OutsideUnchanged newMethods s s')
    (h' : OutsideUnchanged newMethods s' s'') : OutsideUnchanged newMethods s s'' where
  toRegistry := h'.toRegistry.trans h.toRegistry
  internalMethods := h'.internalMethods.trans h.internalMethods
  heap m hm := (h'.heap m hm).trans (h.heap m hm)

@[simp] theorem hideMethod_toState (m : ArtMethodPtr) : (p.hideMethod m).toState = p.toState := by
  unfold Process.hideMethod
  split <;> rfl

@[simp] theorem registerCallback_toState (isFastNative : Bool) (built : Option BuiltClass) :
    (registerCallback p call isFastNative built).toState = p.toState := by
  unfold registerCallback
  split
  · split
    · exact hideMethod_toState _
    · rfl
  · rfl

variable (p call) in
/-- `BuildDex` writes to the class it loads and no other. -/
theorem outsideUnchanged_buildDex (isFastNative : Bool) :
    OutsideUnchanged call.newMethods p.toState (buildDex p call isFastNative).1.toState := by
  have hload : ∀ (q : Process) built, call.loaded = some built → q.toState = p.toState →
      OutsideUnchanged call.newMethods p.toState (q.load built).toState := by
    intro q built hloaded hq
    have hnew : call.newMethods = built.methods := by rw [HookCall.newMethods, hloaded]; rfl
    refine ⟨by rw [← hq]; rfl, by rw [← hq]; rfl, fun m hm => ?_⟩
    rw [hnew] at hm
    rw [← hq]
    exact if_neg hm
  unfold buildDex
  split
  · exact .refl
  dsimp only
  split
  · exact .refl
  split
  · exact .refl
  · rename_i built hloaded
    split
    · exact hload _ built hloaded rfl
    · exact hload _ built hloaded rfl

/-- A `DoHook` that fails has counted a slot and nothing more. -/
theorem outsideUnchanged_doHook_of_none {target hook backup : ArtMethodPtr} {mmap : Option ℕ}
    {ok : Bool} (h : (doHook art s target hook backup mmap ok).2 = none) :
    OutsideUnchanged newMethods s (doHook art s target hook backup mmap ok).1 := by
  unfold doHook at h ⊢
  split
  · exact ⟨rfl, rfl, fun _ _ => rfl⟩
  · rename_i hgen
    rw [hgen] at h
    exact absurd h nofun

/-- And one that succeeds has written to records only. -/
theorem doHook_toRegistry {target hook backup : ArtMethodPtr} {mmap : Option ℕ} {ok : Bool} :
    (doHook art s target hook backup mmap ok).1.toRegistry = s.toRegistry := by
  unfold doHook
  split
  · rfl
  · exact onlyHeap_backupTo.toRegistry

/-- What is recorded of a hook makes the target hooked. -/
theorem isHooked_recordHook {target : ArtMethodPtr} {stub : Stub} {isProxy : Bool} {slot : ℕ}
    (h : target ∉ s.hookedMethods) :
    (recordHook art s target stub isProxy slot).isHooked target = some stub.backup := by
  rw [recordHook_eq]
  refine Registry.isHooked_eq_some.2 ⟨stub.record slot, ?_, rfl⟩
  show (Table.emplace s.hookedMethods target (stub.record slot)).lookup target = _
  rw [Table.emplace, if_neg h, Table.lookup_insert_eq, if_pos rfl]

/-! ## The exits -/

/-- **Everything before `BuildDex` lets the call pass.** -/
structure Passes (p : Process) (call : HookCall) (target : ArtMethodPtr) : Prop where
  target_eq : call.target = some target
  callback : call.callback.refusal = none
  notAbstract : (p.heap target).isAbstract = false
  notHooked : p.isHooked target = none
  notBackup : p.isBackup target = none
  notForeign : call.callback.isForeign = false

variable (art p call) in
/-- Otherwise the call has failed and nothing has happened. -/
theorem passes_or_refused :
    (∃ target, Passes p call target) ∨ ∃ e, hookExits art p call = (p, .failed e) := by
  unfold hookExits
  rcases htarget : call.target with _ | target
  · exact Or.inr ⟨_, rfl⟩
  rcases hcallback : call.callback.refusal with _ | e
  swap
  · exact Or.inr ⟨e, rfl⟩
  dsimp only
  by_cases habstract : (p.heap target).isAbstract = true
  · exact Or.inr ⟨_, if_pos habstract⟩
  rw [if_neg habstract]
  by_cases hdup : p.isHooked target ≠ none ∨ p.isBackup target ≠ none
  · exact Or.inr ⟨_, if_pos hdup⟩
  rw [if_neg hdup]
  by_cases hforeign : call.callback.isForeign = true
  · exact Or.inr ⟨_, if_pos hforeign⟩
  rw [not_or, not_not, not_not] at hdup
  rw [Bool.not_eq_true] at habstract hforeign
  exact Or.inl ⟨target, htarget, hcallback, habstract, hdup.1, hdup.2, hforeign⟩

variable (art) in
/-- **From `BuildDex` on.** -/
theorem hookExits_eq_of_passes {target : ArtMethodPtr} (h : Passes p call target) :
    hookExits art p call =
      match buildDex p call ((p.heap target).isFastNative art) with
      | (p', none) => (p', .aborted)
      | (p', some built) =>
        let p' := registerCallback p' call ((p.heap target).isFastNative art) built
        match built.bind BuiltClass.stub with
        | none => (p', .failed .noHooker)
        | some stub =>
          match doHook art p'.toState target stub.hook stub.backup call.mmap call.mprotectOk with
          | (s, none) => ({ p' with toState := s }, .failed .noTrampoline)
          | (s, some slot) =>
            let p' := { p' with toState := recordHook art s target stub call.isProxy slot }
            (if p'.generatedSourceName = [] then p'.hideMethod stub.hook else p',
              .hooked stub.backup) := by
  have hdup : ¬ (p.isHooked target ≠ none ∨ p.isBackup target ≠ none) := by
    rw [h.notHooked, h.notBackup]; simp
  simp only [hookExits, h.target_eq, h.callback, h.notAbstract, Bool.false_eq_true, if_false,
    if_neg hdup, h.notForeign]

variable (art) in
/-- The two ways out of what follows. -/
theorem hookExits_of_passes {target : ArtMethodPtr} (h : Passes p call target) :
    (∃ q, OutsideUnchanged call.newMethods p.toState q.toState ∧
        (hookExits art p call = (q, .aborted) ∨ ∃ e, hookExits art p call = (q, .failed e))) ∨
      ∃ q backup, hookExits art p call = (q, .hooked backup) ∧
        q.isHooked target = some backup := by
  have hbuilt := outsideUnchanged_buildDex p call ((p.heap target).isFastNative art)
  rw [hookExits_eq_of_passes art h]
  rcases hdex : buildDex p call ((p.heap target).isFastNative art) with ⟨q, _ | built⟩
  · rw [hdex] at hbuilt
    exact Or.inl ⟨q, hbuilt, Or.inl rfl⟩
  rw [hdex] at hbuilt
  dsimp only at hbuilt ⊢
  let q' := registerCallback q call ((p.heap target).isFastNative art) built
  have hq' : OutsideUnchanged call.newMethods p.toState q'.toState := by
    rw [registerCallback_toState]; exact hbuilt
  rcases built.bind BuiltClass.stub with _ | stub
  · exact Or.inl ⟨q', hq', Or.inr ⟨_, rfl⟩⟩
  dsimp only
  rcases hdo : doHook art q'.toState target stub.hook stub.backup call.mmap call.mprotectOk with
    ⟨s, _ | slot⟩
  · have hs : OutsideUnchanged call.newMethods q'.toState s := by
      have hnone : OutsideUnchanged call.newMethods q'.toState (doHook art q'.toState target
          stub.hook stub.backup call.mmap call.mprotectOk).1 :=
        outsideUnchanged_doHook_of_none (congrArg Prod.snd hdo)
      rwa [hdo] at hnone
    exact Or.inl ⟨_, hq'.trans hs, Or.inr ⟨_, rfl⟩⟩
  · refine Or.inr ⟨_, stub.backup, rfl, ?_⟩
    have hreg : s.toRegistry = q'.toRegistry := by
      rw [← doHook_toRegistry (s := q'.toState), hdo]
    have hnot : target ∉ s.hookedMethods := by
      rw [hreg, hq'.toRegistry]
      exact Registry.isHooked_eq_none.1 h.notHooked
    split
    · rw [hideMethod_toState]
      exact isHooked_recordHook hnot
    · exact isHooked_recordHook hnot

/-- **All or nothing**, of what a call of `HookMethod` comes to. -/
def AllOrNothing (p : Process) (call : HookCall) : Process × HookOutcome → Prop
  | (q, .failed _) => OutsideUnchanged call.newMethods p.toState q.toState
  | (q, .hooked backup) => ∃ target, call.target = some target ∧
      q.isHooked target = some backup ∧ p.isHooked target = none ∧ p.isBackup target = none
  | (_, .aborted) => True

variable (art p call) in
/-- **A call that returns nothing has changed nothing that matters**: every
method outside the generated class, every registry and every method id is
as it was, wherever it stopped. One that returns a backup has hooked the
target, which was neither hooked nor a backup before. -/
theorem hook_all_or_nothing : AllOrNothing p call (hookExits art p call) := by
  rcases passes_or_refused art p call with ⟨target, hpass⟩ | ⟨e, he⟩
  · rcases hookExits_of_passes art hpass with
      ⟨q, hq, haborted | ⟨e, hfailed⟩⟩ | ⟨q, backup, hhooked, hq⟩
    · rw [haborted]
      trivial
    · rw [hfailed]
      exact hq
    · rw [hhooked]
      exact ⟨target, hpass.target_eq, hq, hpass.notHooked, hpass.notBackup⟩
  · rw [he]
    exact OutsideUnchanged.refl

/-! ## The exits and `hookMethod` -/

/-- **The request `hookMethod` is asked**: the exits of `BuildDex` and of the
members it may miss are one there. -/
def HookCall.request (call : HookCall) (built : Option BuiltClass) : HookRequest where
  target := call.target
  callback := call.callback
  isProxy := call.isProxy
  built := built.bind BuiltClass.stub
  mmap := call.mmap
  mprotectOk := call.mprotectOk

/-- The backup, if the method got hooked. -/
def HookOutcome.backup : HookOutcome → Option ArtMethodPtr
  | .hooked backup => some backup
  | _ => none

theorem refusal_eq_none_iff {callback : Callback} :
    callback.refusal = none ↔ callback.shouldPack ≠ none := by
  rcases callback with isNull | ⟨isExecutable, shorty, hookerIsInstance⟩
  · cases isNull <;> simp [Callback.refusal, Callback.shouldPack]
  · cases isExecutable
    · simp [Callback.refusal, Callback.shouldPack]
    · simp only [Callback.refusal, Callback.shouldPack, Bool.not_true, Bool.false_eq_true, if_false]
      split_ifs with h h₁ h₂ h₁ h₂ <;> simp_all

/-- **From the class on, `HookMethod` does to the state what `hookMethod`
does** with the class loaded, if the target is not a method of that
class. -/
theorem hookExits_refines {target : ArtMethodPtr} (hpass : Passes p call target)
    (hfresh : target ∉ call.newMethods) {q : Process} {built : Option BuiltClass}
    (hdex : buildDex p call ((p.heap target).isFastNative art) = (q, some built)) :
    (hookExits art p call).1.toState =
        (hookMethod art q.toState (call.request built)).1 ∧
      (hookExits art p call).2.backup =
        (hookMethod art q.toState (call.request built)).2 := by
  have hbuilt := outsideUnchanged_buildDex p call ((p.heap target).isFastNative art)
  rw [hdex] at hbuilt
  have habstract : (q.heap target).isAbstract = false := by
    rw [hbuilt.heap target hfresh]; exact hpass.notAbstract
  have hhooked : q.isHooked target = none := by
    rw [show q.toRegistry = p.toRegistry from hbuilt.toRegistry]; exact hpass.notHooked
  have hbackup : q.isBackup target = none := by
    rw [show q.toRegistry = p.toRegistry from hbuilt.toRegistry]; exact hpass.notBackup
  have hdup : ¬ (q.isHooked target ≠ none ∨ q.isBackup target ≠ none) := by
    rw [hhooked, hbackup]; simp
  have hpack : ¬ call.callback.shouldPack = none :=
    refusal_eq_none_iff.1 hpass.callback
  rw [hookExits_eq_of_passes art hpass, hdex]
  simp only [hookMethod, HookCall.request, hpass.target_eq, if_neg hpack, habstract,
    Bool.false_eq_true, if_false, if_neg hdup, hpass.notForeign]
  rcases built.bind BuiltClass.stub with _ | stub
  · exact ⟨registerCallback_toState _ _, rfl⟩
  dsimp only
  rw [registerCallback_toState]
  rcases doHook art q.toState target stub.hook stub.backup call.mmap call.mprotectOk with
    ⟨s, _ | slot⟩
  · exact ⟨rfl, rfl⟩
  · refine ⟨?_, rfl⟩
    dsimp only
    split
    · exact hideMethod_toState _
    · rfl

end LSPlant
