import LSPlant.InternalMethods
import LSPlant.Dex.NativeEntry
/-!
# The methods LSPlant calls

Which method ids `HookMethod`, `BuildDex`, `VNativeHookerEntry`,
`InvokeSpecial` and the wrappers pass to JNI on their way, in the order
they do. Ids held in the variables of `kInternalMethods` are those a hook
puts its backup's in place of. The ids of `valueOf` and the value methods
of the box classes, those of `CloseGuard.get`, `System.arraycopy` and
`Log.getStackTraceString`, and those a caller hands in are passed as they
are. `Log.getStackTraceString` is called by `jni_helper.hpp` itself, where
a function of JNI it wraps has left an exception.
-/

namespace LSPlant

open Dalvik

/-- **A method id passed to JNI**: the value of a variable of
`kInternalMethods`, one of the ids that stay what they are after `Init`,
or the id of a method the caller has handed in. -/
inductive CalledId where
  | internal (v : InternalMethod)
  | value (type : Primitive)
  | valueOf (type : Primitive)
  | getCloseGuard
  | systemArraycopy
  | getStackTraceString
  | given (m : ArtMethodPtr)
deriving DecidableEq

/-- It is kept in a variable of `kInternalMethods`. -/
def CalledId.isInternal : CalledId → Bool
  | .internal _ => true
  | _ => false

/-- **What is found** besides the internal methods: the methods of the
box classes, `CloseGuard.get` where a `DexFile` has a guard, the two methods
`jni_helper.hpp` looks up itself, and whether ART tells shorties and class
flags and encodes references. -/
structure Runtime where
  value : Primitive → Option ArtMethodPtr
  valueOf : Primitive → Option ArtMethodPtr
  getCloseGuard : Option ArtMethodPtr
  systemArraycopy : Option ArtMethodPtr
  getStackTraceString : Option ArtMethodPtr
  canGetMethodShorty : Bool
  hasClassAccessFlags : Bool
  addsLocalReferences : Bool

/-- **A call of JNI**: of a function that calls a method, or by a wrapper that
clears an exception afterwards, of a method or not. -/
inductive PathCall where
  | plain (id : CalledId)
  | safe (id : Option CalledId)

/-- A wrapped call of a function of JNI that calls no method. -/
abbrev PathCall.other : PathCall := .safe none

/-- The id it passes. -/
def PathCall.id : PathCall → Option CalledId
  | .plain id => some id
  | .safe id => id

/-- It is wrapped. -/
def PathCall.isSafe : PathCall → Bool
  | .plain _ => false
  | .safe _ => true

/-- **The ids passed to JNI** by calls in a row: after the wrapped ones that leave
an exception, counted from the first, that of the method which prints it. -/
def passedIds (leavesException : ℕ → Bool) : ℕ → List PathCall → List CalledId
  | _, [] => []
  | n, .plain id :: calls => id :: passedIds leavesException n calls
  | n, .safe id :: calls =>
    id.toList ++ (if leavesException n then [.getStackTraceString] else []) ++
      passedIds leavesException (n + 1) calls

/-! ## Paths through the code -/

/-- How `OpenInMemoryHookerDex` comes by a `DexFile`. -/
inductive DexOpening where
  | inMemory
  | java
  | failed

/-- **What `BuildDex` meets**: an empty shorty, a way to open the image, a
null `DexFile` in the end or one of its class loaders made before, a map of them
that has to be made larger, a null class in the end, and a target that is fast
native, of a return type it knows. -/
structure BuildDexPath where
  isShortyEmpty : Bool
  opening : DexOpening
  hasJavaDexFile : Bool
  knowsLoader : Bool
  growsLoaders : Bool
  hasClass : Bool
  isFastNative : Bool
  knowsReturnType : Bool

/-- `BuildDex` comes back with a class. -/
def BuildDexPath.builds (path : BuildDexPath) : Bool :=
  !path.isShortyEmpty && path.hasJavaDexFile && path.hasClass

variable (rt : Runtime) (s : State)

/-- The value of a variable of `kInternalMethods`. -/
def State.internalMethod (v : InternalMethod) : ℕ :=
  (s.internalMethods[kInternalMethods.idxOf v]?).getD nullptr

/-- A wrapped call of an internal method. -/
def callInternal (v : InternalMethod) : PathCall := .safe (some (.internal v))

/-- `GetReflectedMethodShorty`. -/
def getReflectedMethodShortyCalls : List PathCall :=
  [callInternal .methodGetReturnType, callInternal .methodGetParameterTypes]

/-- `IsProxyMethod`. -/
def isProxyMethodCalls : List PathCall :=
  if rt.hasClassAccessFlags then [] else [callInternal .methodGetDeclaringClass]

/-- The shorty of a method: that of the interface method for a proxy's. -/
def shortyCalls (isProxy interfaceIsAbstract : Bool) : List PathCall :=
  if rt.canGetMethodShorty ∧ (!isProxy ∨ interfaceIsAbstract) then []
  else getReflectedMethodShortyCalls

/-- `OpenInMemoryHookerDex`, with the guard `ToJavaDexFile` gets. -/
def openInMemoryHookerDexCalls : DexOpening → List PathCall
  | .inMemory => if rt.getCloseGuard.isSome then [.safe (some .getCloseGuard)] else []
  | .java =>
    .other :: -- `FindClass`
      if s.internalMethod .dexFileInitWithCl ≠ nullptr then
        -- the array of buffers and its class come first
        [.other, .other, callInternal .dexFileInitWithCl]
      else if s.internalMethod .dexFileInit ≠ nullptr then [callInternal .dexFileInit]
      else []
  | .failed => []

/-- `hooker_class_loaders.add`: keys and values are moved. -/
def addLoaderCalls (growsLoaders : Bool) : List PathCall :=
  if growsLoaders then [.plain .systemArraycopy, .plain .systemArraycopy] else []

/-- The rest of **`BuildDex`** once the class is loaded: `RegisterNatives`, and the
ids of a field and two methods. -/
def loadedClassCalls (path : BuildDexPath) : List PathCall :=
  if !path.hasClass then []
  else if path.isFastNative then
    if path.knowsReturnType then [.other, .other, .other, .other] else []
  else [.other, .other, .other]

/-- **`BuildDex`.** -/
def buildDexCalls (path : BuildDexPath) : List PathCall :=
  if path.isShortyEmpty then []
  else openInMemoryHookerDexCalls rt s path.opening ++
    if !path.hasJavaDexFile then []
    else (if path.knowsLoader then []
        else callInternal .pathClassLoaderInit :: addLoaderCalls path.growsLoaders) ++
      callInternal .loadClass :: loadedClassCalls path

/-- The shorty of the callback. -/
def callbackShortyCalls : Callback → List PathCall
  | .java true _ _ => if rt.canGetMethodShorty then [] else getReflectedMethodShortyCalls
  | _ => []

/-- What `HookMethod` asks the callback, or the target of a native one, for. -/
def hookNamesCalls : Callback → List PathCall
  | .native _ =>
    [callInternal .methodGetName, callInternal .methodGetDeclaringClass,
      callInternal .classGetClassLoader]
  | .java _ _ _ =>
    [callInternal .methodGetName, callInternal .methodGetName,
      callInternal .methodGetDeclaringClass, callInternal .classGetClassLoader,
      callInternal .classGetName]

/-- The native callback registered with the class built. -/
def registerCallbackCalls (callback : Callback) (path : BuildDexPath) : List PathCall :=
  match callback with
  | .native _ => if path.builds && !path.isFastNative then [.other, .other] else []
  | .java _ _ _ => []

/-- What follows in `HookMethod` up to `DoHook`, which calls nothing. -/
def reflectBackupCalls (path : BuildDexPath) : List PathCall :=
  (if path.isFastNative then [.other] else []) ++ [callInternal .setAccessible]

/-- **`HookMethod`.** -/
def hookMethodCalls (request : HookRequest) (interfaceIsAbstract : Bool) (path : BuildDexPath) :
    List PathCall :=
  match request.target with
  | none => []
  | some target =>
    callbackShortyCalls rt request.callback ++
    if request.callback.shouldPack = none then []
    else isProxyMethodCalls rt ++
      if (s.heap target).isAbstract then []
      else if s.isHooked target ≠ none ∨ s.isBackup target ≠ none then []
      else shortyCalls rt request.isProxy interfaceIsAbstract ++ hookNamesCalls request.callback ++
        if request.callback.isForeign then []
        else buildDexCalls rt s path ++ registerCallbackCalls request.callback path ++
          if request.built = none then [] else reflectBackupCalls path

/-- `Wrap` of a value of the type. -/
def wrapCalls : TypeDescriptor → List CalledId
  | .object => []
  | .primitive type => [.valueOf type]

/-- `Unwrap` to the type. -/
def unwrapCalls : TypeDescriptor → List CalledId
  | .object => []
  | .primitive type => [.value type]

/-- **`VNativeHookerEntry`**, which uses no wrapper: the arguments boxed, the
callback called if it is a method and there is an object to call it on, and a
result that is not null unboxed. -/
def vNativeHookerEntryCalls (data : Option NativeHookerData) (callbackMethod : ArtMethodPtr)
    (hasResult : Bool) : List CalledId :=
  match data with
  | none => []
  | some data =>
    data.shorty.parameters.flatMap wrapCalls ++
      (if !data.nativeEntry ∧ data.data.isSome then [.given callbackMethod] else []) ++
      match data.shorty.returnType with
      | none => []
      | some type =>
        if (data.nativeEntry ∨ data.data.isSome) ∧ hasResult then unwrapCalls type else []

/-- **What `InvokeSpecial` meets**: whether it makes a reference to the
class, is refused for the class, the receiver or the number of arguments,
and whether the call throws. -/
structure InvokeSpecialPath where
  method : ArtMethodPtr
  encodesClass : Bool
  isNotInherited : Bool
  isReceiverMissing : Bool
  isProxy : Bool
  interfaceIsAbstract : Bool
  shorty : Shorty
  isArgumentCountWrong : Bool
  throws : Bool

/-- The method called, its arguments unboxed and its result boxed. -/
def invokeMethodCalls (path : InvokeSpecialPath) : List CalledId :=
  path.shorty.parameters.flatMap unwrapCalls ++ [.given path.method] ++
    match path.shorty.returnType with
    | none => []
    | some type => if path.throws then [] else wrapCalls type

/-- **`InvokeSpecial`** of a method that is not null. -/
def invokeSpecialCalls (path : InvokeSpecialPath) : List PathCall :=
  (if path.encodesClass ∧ ¬ rt.addsLocalReferences ∧
      s.internalMethod .unsafePutIntMethod ≠ nullptr then
      [.other, callInternal .unsafePutIntMethod]
    else []) ++
  if path.isNotInherited then [callInternal .classGetName, callInternal .classGetName]
  else if path.isReceiverMissing then []
  else (if rt.canGetMethodShorty then isProxyMethodCalls rt else []) ++
    shortyCalls rt path.isProxy path.interfaceIsAbstract ++
    if path.isArgumentCountWrong then [] else (invokeMethodCalls path).map .plain

/-- **The functions that call the runtime.** -/
inductive Caller where
  | hookMethod (request : HookRequest) (interfaceIsAbstract : Bool) (path : BuildDexPath)
  | buildDex (path : BuildDexPath)
  | vNativeHookerEntry (data : Option NativeHookerData) (callbackMethod : ArtMethodPtr)
      (hasResult : Bool)
  | invokeSpecial (path : InvokeSpecialPath)
  | wrap (type : Primitive)
  | unwrap (type : Primitive)

/-- The calls of JNI one makes. -/
def Caller.pathCalls : Caller → List PathCall
  | .hookMethod request interfaceIsAbstract path =>
    hookMethodCalls rt s request interfaceIsAbstract path
  | .buildDex path => buildDexCalls rt s path
  | .vNativeHookerEntry data callbackMethod hasResult =>
    (vNativeHookerEntryCalls data callbackMethod hasResult).map .plain
  | .invokeSpecial path => invokeSpecialCalls rt s path
  | .wrap type => (wrapCalls (.primitive type)).map .plain
  | .unwrap type => (unwrapCalls (.primitive type)).map .plain

/-- **The ids a call passes to JNI.** -/
def Caller.calls (caller : Caller) (leavesException : ℕ → Bool) : List CalledId :=
  passedIds leavesException 0 (caller.pathCalls rt s)

/-! ## Ids that are not kept in `kInternalMethods` -/

/-- Where a `DexFile` made for an image in memory gets a guard, and where the map of
class loaders is made larger. -/
def buildDexOutsiders (path : BuildDexPath) : List CalledId :=
  if path.isShortyEmpty then []
  else (match path.opening with
      | .inMemory => if rt.getCloseGuard.isSome then [.getCloseGuard] else []
      | _ => []) ++
    if path.hasJavaDexFile ∧ ¬ path.knowsLoader ∧ path.growsLoaders then
      [.systemArraycopy, .systemArraycopy]
    else []

/-- And only if a `Hook` is not refused before. -/
def hookMethodOutsiders (request : HookRequest) (path : BuildDexPath) : List CalledId :=
  match request.target with
  | none => []
  | some target =>
    if request.callback.shouldPack = none ∨ (s.heap target).isAbstract ∨
        s.isHooked target ≠ none ∨ s.isBackup target ≠ none ∨ request.callback.isForeign then []
    else buildDexOutsiders rt path

/-- `InvokeSpecial` unboxes, calls the method it is given, and boxes. -/
def invokeSpecialOutsiders (path : InvokeSpecialPath) : List CalledId :=
  if path.isNotInherited ∨ path.isReceiverMissing ∨ path.isArgumentCountWrong then []
  else invokeMethodCalls path

/-- **The ids the source itself passes that no hook replaces.** -/
def Caller.ownOutsiders : Caller → List CalledId
  | .hookMethod request _ path => hookMethodOutsiders rt s request path
  | .buildDex path => buildDexOutsiders rt path
  | .vNativeHookerEntry data callbackMethod hasResult =>
    vNativeHookerEntryCalls data callbackMethod hasResult
  | .invokeSpecial path => invokeSpecialOutsiders path
  | .wrap type => [.valueOf type]
  | .unwrap type => [.value type]

/-- **A wrapped call on the way leaves an exception.** -/
def Caller.MeetsException (caller : Caller) (leavesException : ℕ → Bool) : Prop :=
  ∃ n < (caller.pathCalls rt s).countP PathCall.isSafe, leavesException n = true

instance (caller : Caller) (leavesException : ℕ → Bool) :
    Decidable (caller.MeetsException rt s leavesException) :=
  inferInstanceAs (Decidable (∃ n < _, leavesException n = true))

/-- **The ids a call passes that no hook replaces.** -/
def Caller.outsiders (caller : Caller) (leavesException : ℕ → Bool) : List CalledId :=
  caller.ownOutsiders rt s ++
    if caller.MeetsException rt s leavesException then [.getStackTraceString] else []

/-- The method of an id that no hook replaces. -/
def CalledId.method : CalledId → Option ArtMethodPtr
  | .internal _ => none
  | .value type => rt.value type
  | .valueOf type => rt.valueOf type
  | .getCloseGuard => rt.getCloseGuard
  | .systemArraycopy => rt.systemArraycopy
  | .getStackTraceString => rt.getStackTraceString
  | .given m => some m

/-- The id itself, null where nothing was found. -/
def CalledId.eval (art : Art) : CalledId → ℕ
  | .internal v => s.internalMethod v
  | id => match id.method rt with
    | none => nullptr
    | some m => art.methodId m

/-- **The id of a method that is hooked.** -/
def State.IsHookedId (art : Art) (id : ℕ) : Prop := ∃ t, t ∈ s.hookedMethods ∧ art.methodId t = id

instance (art : Art) (id : ℕ) : Decidable (s.IsHookedId art id) :=
  decidable_of_iff (∃ t ∈ s.hookedMethods.keys, art.methodId t = id) <| by
    simp only [State.IsHookedId, Finmap.mem_keys]

/-! ## What is not kept there -/

variable {rt s} {id : CalledId} {art : Art} {originals : Originals} {m : ArtMethodPtr}
  {leavesException : ℕ → Bool} {calls calls' : List PathCall} {ids : List CalledId}

/-- The ids of calls that are not kept in `kInternalMethods`. -/
def outsideIds (calls : List PathCall) : List CalledId :=
  (calls.filterMap PathCall.id).filter fun id => !id.isInternal

@[simp] theorem outsideIds_nil : outsideIds [] = [] := rfl

@[simp] theorem outsideIds_append :
    outsideIds (calls ++ calls') = outsideIds calls ++ outsideIds calls' := by
  unfold outsideIds
  rw [List.filterMap_append, List.filter_append]

@[simp] theorem outsideIds_other : outsideIds (.other :: calls) = outsideIds calls := rfl

@[simp] theorem outsideIds_callInternal {v : InternalMethod} :
    outsideIds (callInternal v :: calls) = outsideIds calls := rfl

/-- Of calls that use no wrapper all ids are looked at. -/
theorem outsideIds_map_plain (h : ∀ id ∈ ids, id.isInternal = false) :
    outsideIds (ids.map .plain) = ids := by
  have hid : (ids.map PathCall.plain).filterMap PathCall.id = ids := by
    rw [List.filterMap_map]
    exact List.filterMap_some
  unfold outsideIds
  rw [hid, List.filter_eq_self]
  exact fun id hmem => by rw [h id hmem]; rfl

/-- **What is passed**: the ids of the calls, and where a wrapped one has left an
exception that of the method which prints it. -/
theorem mem_passedIds {n : ℕ} : id ∈ passedIds leavesException n calls ↔
    id ∈ calls.filterMap PathCall.id ∨ id = .getStackTraceString ∧
      ∃ k < calls.countP PathCall.isSafe, leavesException (n + k) = true := by
  induction calls generalizing n with
  | nil => simp [passedIds]
  | cons call calls ih =>
    cases call with
    | plain id' => simp [passedIds, ih, PathCall.id, PathCall.isSafe, or_assoc]
    | safe id' =>
      have hmem : id ∈ ((.safe id' : PathCall) :: calls).filterMap PathCall.id ↔
          id ∈ id' ∨ id ∈ calls.filterMap PathCall.id := by
        cases id' <;> simp [PathCall.id, eq_comm]
      have hcount : ((.safe id' : PathCall) :: calls).countP PathCall.isSafe =
          calls.countP PathCall.isSafe + 1 := List.countP_cons_of_pos rfl
      have hnext : ∀ k, n + 1 + k = n + (k + 1) := fun k => by omega
      rw [hmem, hcount, Nat.exists_lt_succ_left, passedIds, List.mem_append, List.mem_append, ih,
        Option.mem_toList, Nat.add_zero]
      simp only [hnext]
      cases leavesException n
      · simp [or_assoc]
      · by_cases hid : id = .getStackTraceString <;> simp [hid]

theorem outsideIds_isProxyMethodCalls : outsideIds (isProxyMethodCalls rt) = [] := by
  unfold isProxyMethodCalls
  split <;> rfl

theorem outsideIds_shortyCalls {isProxy interfaceIsAbstract : Bool} :
    outsideIds (shortyCalls rt isProxy interfaceIsAbstract) = [] := by
  unfold shortyCalls
  split <;> rfl

theorem outsideIds_callbackShortyCalls {callback : Callback} :
    outsideIds (callbackShortyCalls rt callback) = [] := by
  unfold callbackShortyCalls
  split
  · split <;> rfl
  · rfl

theorem outsideIds_hookNamesCalls {callback : Callback} :
    outsideIds (hookNamesCalls callback) = [] := by
  cases callback <;> rfl

theorem outsideIds_registerCallbackCalls {callback : Callback} {path : BuildDexPath} :
    outsideIds (registerCallbackCalls callback path) = [] := by
  unfold registerCallbackCalls
  cases callback
  · dsimp only
    split <;> rfl
  · rfl

theorem outsideIds_reflectBackupCalls {path : BuildDexPath} :
    outsideIds (reflectBackupCalls path) = [] := by
  unfold reflectBackupCalls
  split <;> rfl

theorem outsideIds_loadedClassCalls {path : BuildDexPath} :
    outsideIds (loadedClassCalls path) = [] := by
  unfold loadedClassCalls
  split_ifs <;> rfl

theorem outsideIds_addLoaderCalls {growsLoaders : Bool} :
    outsideIds (addLoaderCalls growsLoaders) =
      if growsLoaders then [.systemArraycopy, .systemArraycopy] else [] := by
  cases growsLoaders <;> rfl

/-- What `BuildDex` calls outside `kInternalMethods`. -/
theorem outsideIds_buildDexCalls {path : BuildDexPath} :
    outsideIds (buildDexCalls rt s path) = buildDexOutsiders rt path := by
  unfold buildDexCalls buildDexOutsiders
  rw [apply_ite outsideIds, outsideIds_append]
  refine if_congr Iff.rfl rfl (congrArg₂ _ ?_ ?_)
  · cases path.opening with
    | inMemory =>
      dsimp only [openInMemoryHookerDexCalls]
      split <;> rfl
    | java =>
      dsimp only [openInMemoryHookerDexCalls]
      split_ifs <;> rfl
    | failed => rfl
  · cases path.hasJavaDexFile with
    | false => rfl
    | true =>
      cases path.knowsLoader <;>
        simp [outsideIds_loadedClassCalls, outsideIds_addLoaderCalls]

/-- What `HookMethod` calls outside `kInternalMethods`. -/
theorem outsideIds_hookMethodCalls {request : HookRequest} {interfaceIsAbstract : Bool}
    {path : BuildDexPath} : outsideIds (hookMethodCalls rt s request interfaceIsAbstract path) =
      hookMethodOutsiders rt s request path := by
  unfold hookMethodOutsiders hookMethodCalls
  cases request.target with
  | none => rfl
  | some target =>
    have hrest : outsideIds (if request.built = none then [] else reflectBackupCalls path) =
        [] := by
      split
      · rfl
      · exact outsideIds_reflectBackupCalls
    dsimp only
    rw [outsideIds_append, outsideIds_callbackShortyCalls, List.nil_append]
    by_cases hpack : request.callback.shouldPack = none
    · simp [hpack]
    rw [if_neg hpack, outsideIds_append, outsideIds_isProxyMethodCalls, List.nil_append]
    by_cases habstract : (s.heap target).isAbstract = true
    · simp [habstract]
    rw [if_neg habstract]
    by_cases hdup : s.isHooked target ≠ none ∨ s.isBackup target ≠ none
    · rw [if_pos hdup, if_pos (Or.inr (Or.inr (or_assoc.1 (Or.inl hdup)))), outsideIds_nil]
    rw [if_neg hdup, outsideIds_append, outsideIds_append, outsideIds_shortyCalls,
      outsideIds_hookNamesCalls, List.nil_append, List.nil_append]
    by_cases hforeign : request.callback.isForeign = true
    · simp [hforeign]
    rw [if_neg hforeign, outsideIds_append, outsideIds_append, outsideIds_buildDexCalls,
      outsideIds_registerCallbackCalls, hrest, List.append_nil, List.append_nil,
      if_neg (by tauto)]

theorem not_isInternal_wrapCalls {type : TypeDescriptor} (h : id ∈ wrapCalls type) :
    id.isInternal = false := by
  cases type with
  | object => cases h
  | primitive type =>
    obtain rfl := List.mem_singleton.1 h
    rfl

theorem not_isInternal_unwrapCalls {type : TypeDescriptor} (h : id ∈ unwrapCalls type) :
    id.isInternal = false := by
  cases type with
  | object => cases h
  | primitive type =>
    obtain rfl := List.mem_singleton.1 h
    rfl

theorem not_isInternal_invokeMethodCalls {path : InvokeSpecialPath}
    (hid : id ∈ invokeMethodCalls path) : id.isInternal = false := by
  unfold invokeMethodCalls at hid
  rcases List.mem_append.1 hid with hid | hid
  · rcases List.mem_append.1 hid with hid | hid
    · obtain ⟨type, -, hid⟩ := List.mem_flatMap.1 hid
      exact not_isInternal_unwrapCalls hid
    · obtain rfl := List.mem_singleton.1 hid
      rfl
  · split at hid
    · cases hid
    · split at hid
      · cases hid
      · exact not_isInternal_wrapCalls hid

/-- What `InvokeSpecial` calls outside `kInternalMethods`. -/
theorem outsideIds_invokeSpecialCalls {path : InvokeSpecialPath} :
    outsideIds (invokeSpecialCalls rt s path) = invokeSpecialOutsiders path := by
  have hencode : outsideIds (if path.encodesClass ∧ ¬ rt.addsLocalReferences ∧
      s.internalMethod .unsafePutIntMethod ≠ nullptr then
        [.other, callInternal .unsafePutIntMethod] else []) = [] := by
    split <;> rfl
  have hproxy : outsideIds (if rt.canGetMethodShorty then isProxyMethodCalls rt else []) = [] := by
    split
    · exact outsideIds_isProxyMethodCalls
    · rfl
  unfold invokeSpecialOutsiders invokeSpecialCalls
  rw [outsideIds_append, hencode, List.nil_append]
  by_cases hinherited : path.isNotInherited = true
  · rw [if_pos hinherited, if_pos (Or.inl hinherited)]
    rfl
  by_cases hreceiver : path.isReceiverMissing = true
  · rw [if_neg hinherited, if_pos hreceiver, if_pos (Or.inr (Or.inl hreceiver)), outsideIds_nil]
  rw [if_neg hinherited, if_neg hreceiver, outsideIds_append, outsideIds_append, hproxy,
    outsideIds_shortyCalls, List.nil_append, List.nil_append]
  by_cases hcount : path.isArgumentCountWrong = true
  · rw [if_pos hcount, if_pos (Or.inr (Or.inr hcount)), outsideIds_nil]
  rw [if_neg hcount, if_neg (by tauto)]
  exact outsideIds_map_plain fun id hid => not_isInternal_invokeMethodCalls hid

/-- `VNativeHookerEntry` passes no other. -/
theorem not_isInternal_vNativeHookerEntryCalls {data : Option NativeHookerData}
    {callbackMethod : ArtMethodPtr} {hasResult : Bool}
    (hid : id ∈ vNativeHookerEntryCalls data callbackMethod hasResult) :
    id.isInternal = false := by
  unfold vNativeHookerEntryCalls at hid
  cases data with
  | none => cases hid
  | some data =>
    rcases List.mem_append.1 hid with hid | hid
    · rcases List.mem_append.1 hid with hid | hid
      · obtain ⟨type, -, hid⟩ := List.mem_flatMap.1 hid
        exact not_isInternal_wrapCalls hid
      · split at hid
        · obtain rfl := List.mem_singleton.1 hid
          rfl
        · cases hid
    · split at hid
      · cases hid
      · split at hid
        · exact not_isInternal_unwrapCalls hid
        · cases hid

theorem Caller.outsideIds_jniCalls {caller : Caller} :
    outsideIds (caller.pathCalls rt s) = caller.ownOutsiders rt s := by
  cases caller with
  | hookMethod request interfaceIsAbstract path => exact outsideIds_hookMethodCalls
  | buildDex path => exact outsideIds_buildDexCalls
  | vNativeHookerEntry data callbackMethod hasResult =>
    exact outsideIds_map_plain fun id hid => not_isInternal_vNativeHookerEntryCalls hid
  | invokeSpecial path => exact outsideIds_invokeSpecialCalls
  | wrap type => rfl
  | unwrap type => rfl

/-- **The outsiders of a call** are the ids it passes that are not kept in
`kInternalMethods`. -/
theorem Caller.mem_outsiders {caller : Caller} :
    id ∈ caller.outsiders rt s leavesException ↔
      id ∈ caller.calls rt s leavesException ∧ id.isInternal = false := by
  have hown : id ∈ caller.ownOutsiders rt s ↔
      id ∈ (caller.pathCalls rt s).filterMap PathCall.id ∧ id.isInternal = false := by
    rw [← outsideIds_jniCalls, outsideIds, List.mem_filter, Bool.not_eq_true']
  have hprint : id ∈ (if caller.MeetsException rt s leavesException then
      [CalledId.getStackTraceString] else []) ↔
        id = .getStackTraceString ∧ caller.MeetsException rt s leavesException := by
    split <;> simp [*]
  unfold Caller.outsiders Caller.calls
  rw [List.mem_append, hown, hprint, mem_passedIds, or_and_right]
  refine or_congr Iff.rfl ?_
  unfold Caller.MeetsException
  simp only [Nat.zero_add]
  refine (and_iff_left_of_imp ?_).symm
  rintro ⟨rfl, -⟩
  rfl

/-! ## Which of them are hooked -/

theorem isHookedId_methodId (hids : MethodIds art) :
    s.IsHookedId art (art.methodId m) ↔ m ∈ s.hookedMethods := by
  constructor
  · rintro ⟨t, ht, he⟩
    exact hids.injective he ▸ ht
  · intro hm
    exact ⟨m, hm, rfl⟩

/-- Nothing hooked has the null id. -/
theorem IdsFollow.not_isHookedId_nullptr (h : IdsFollow art originals s) (hids : MethodIds art) :
    ¬ s.IsHookedId art nullptr := by
  rintro ⟨t, ht, he⟩
  exact hids.ne_null t (h.ne_null t ht) he

/-- The value of a variable is what it is to be. -/
theorem IdsFollow.internalMethod_eq (h : IdsFollow art originals s) (v : InternalMethod) :
    s.internalMethod v = originals.currentId art s v := by
  rw [State.internalMethod, h.values, List.getElem?_map,
    List.getElem?_idxOf (mem_kInternalMethods v)]
  rfl

/-- **An internal id is no hooked method's**: it is null, the id of a
method that is not hooked, or a backup's. -/
theorem IdsFollow.not_isHookedId_internal (h : IdsFollow art originals s) (hc : Coherent art s)
    (hids : MethodIds art) (v : InternalMethod) :
    ¬ s.IsHookedId art (s.internalMethod v) := by
  rw [h.internalMethod_eq]
  unfold Originals.currentId
  cases originals v with
  | none => exact h.not_isHookedId_nullptr hids
  | some m =>
    cases hr : s.hookedMethods.lookup m with
    | none =>
      simp only [hr]
      rw [isHookedId_methodId hids]
      exact Finmap.lookup_eq_none.1 hr
    | some record =>
      simp only [hr]
      rw [(h.recorded m record hr).1, isHookedId_methodId hids]
      exact Registry.isHooked_eq_none.1
        (hc.isHooked_backup (Registry.isHooked_eq_some.2 ⟨record, hr, rfl⟩))

/-- **Any other id is a hooked method's just if its method is hooked.** -/
theorem IdsFollow.isHookedId_eval (h : IdsFollow art originals s) (hids : MethodIds art)
    (hid : id.isInternal = false) :
    s.IsHookedId art (id.eval rt s art) ↔ ∃ m ∈ id.method rt, m ∈ s.hookedMethods := by
  have heval : id.eval rt s art = match id.method rt with
      | none => nullptr
      | some m => art.methodId m := by
    cases id with
    | internal v => cases hid
    | _ => rfl
  rw [heval]
  cases id.method rt with
  | none =>
    refine iff_of_false (h.not_isHookedId_nullptr hids) ?_
    rintro ⟨m, hm, -⟩
    cases hm
  | some m =>
    simp only [Option.mem_some_iff]
    rw [isHookedId_methodId hids]
    constructor
    · intro hm
      exact ⟨m, rfl, hm⟩
    · rintro ⟨n, rfl, hn⟩
      exact hn

/-- **LSPlant's own calls and the hooks.** Wherever `Hook` and `UnHook`
calls lead and whichever wrapped calls leave an exception, the ids a call
passes to JNI are all ids of methods that are not hooked if and only if no
outsider among them belongs to a method that is. -/
theorem ownCalls_bypass_iff {heap : ArtMethodPtr → ArtMethod} {mem : Memory}
    {owner : ℕ → ArtMethodPtr} {es : List Event} (hids : MethodIds art)
    (hdistinct : ∀ v w m, originals v = some m → originals w = some m → v = w)
    (hcalls : ∀ e ∈ es, e.hooksOrUnhooks = true)
    (hI : ∀ e ∈ es, Identified art originals e)
    (hL : (machine art).Legal
      (State.initial heap mem (kInternalMethods.map (originals.id art)) owner) es)
    (caller : Caller) (leavesException : ℕ → Bool) :
    let s := (machine art).exec
      (State.initial heap mem (kInternalMethods.map (originals.id art)) owner) es
    (∀ id ∈ caller.calls rt s leavesException, ¬ s.IsHookedId art (id.eval rt s art)) ↔
      ∀ id ∈ caller.outsiders rt s leavesException, ∀ m ∈ id.method rt, m ∉ s.hookedMethods := by
  intro s
  have h : IdsFollow art originals s := idsFollow_exec hids hdistinct hcalls hI hL
  have hc : Coherent art s := coherent_exec coherent_initial hL
  simp only [Caller.mem_outsiders, and_imp]
  refine forall₂_congr fun id _ => ?_
  cases hid : id.isInternal with
  | true =>
    -- an internal id has followed the hooks to a backup
    cases id with
    | internal v =>
      have hnot : ¬ s.IsHookedId art ((CalledId.internal v).eval rt s art) :=
        h.not_isHookedId_internal hc hids v
      simpa using hnot
    | _ => cases hid
  | false =>
    rw [h.isHookedId_eval hids hid]
    simp

/-- A process in which `Integer.valueOf` is method 130, `Number.byteValue`
140, and nothing else of the box classes is found. -/
def sampleRuntime : Runtime where
  value type := if type = .byte then some 140 else none
  valueOf type := if type = .int then some 130 else none
  getCloseGuard := none
  systemArraycopy := none
  getStackTraceString := none
  canGetMethodShorty := true
  hasClassAccessFlags := true
  addsLocalReferences := true

/-- A fast native target that takes an `int`, and a callback of two
parameters, method 150. -/
def sampleNativeHookerEntry : Caller :=
  .vNativeHookerEntry (some {
    shouldPackReceiverAndArgs := false
    isStatic := true
    data := some (.box .int 0)
    nativeEntry := false
    shorty := {
      returnType := none
      parameters := [.primitive .int]
      length_lt := Nat.le_of_ble_eq_true rfl } })
    150 false

/-- **A hook on `Integer.valueOf` is re-entered** from inside the dispatch
of any fast native hook with an `int` parameter: the stub boxes the
argument by the very method. -/
theorem wrapper_reenters_hook :
    let s := (machine sampleArt).exec sampleInitialized [sampleHook 130 210 211 (some 65536)]
    ¬ ∀ id ∈ sampleNativeHookerEntry.calls sampleRuntime s (fun _ => false),
      ¬ s.IsHookedId sampleArt (id.eval sampleRuntime s sampleArt) := by
  decide

/-- A run it is about: with a hook on an internal method only, the same
dispatch meets no hook. -/
theorem ownCalls_bypass_iff_sample :
    let s := (machine sampleArt).exec sampleInitialized [sampleHook 110 210 211 (some 65536)]
    ∀ id ∈ sampleNativeHookerEntry.calls sampleRuntime s (fun _ => false),
      ¬ s.IsHookedId sampleArt (id.eval sampleRuntime s sampleArt) :=
  (ownCalls_bypass_iff methodIds_sampleArt
    (fun v w m hv hw => sampleOriginals_distinct v w m m hv hw rfl)
    (by decide) (by decide) (by decide) sampleNativeHookerEntry fun _ => false).2 (by decide)

end LSPlant
