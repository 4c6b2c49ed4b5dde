import LSPlant.Dex.NativeEntry
/-!
# The letters of a shorty

`BuildDex`, `VNativeHookerEntry` and `InvokeSpecial` each switch over the
letters of a shorty, with tables of their own and `std::abort` for any
letter a table leaves out. The tables are given here as they stand, and
the functions around them far enough to see which table a letter gets to.
One of them leaves out a letter of a legal shorty.
-/

namespace LSPlant

open Dalvik

/-! ## Shorties as they are spelled -/

/-- The letter of a primitive type. -/
def primitiveLetter : Primitive → Char
  | .boolean => 'Z'
  | .byte => 'B'
  | .short => 'S'
  | .char => 'C'
  | .int => 'I'
  | .float => 'F'
  | .long => 'J'
  | .double => 'D'

def letter : TypeDescriptor → Char
  | .object => 'L'
  | .primitive type => primitiveLetter type

def returnLetter : Option TypeDescriptor → Char
  | none => 'V'
  | some type => letter type

/-- **A signature**, as far as a shorty tells. -/
structure Signature where
  returnType : Option TypeDescriptor
  parameters : List TypeDescriptor

/-- The shorty of a signature. -/
def Signature.shorty (signature : Signature) : List Char :=
  returnLetter signature.returnType :: signature.parameters.map letter

/-- Why there is no result: `std::abort`, or a call that is undefined. -/
inductive Halt where
  | aborted
  | undefined
deriving DecidableEq

/-! ## The tables -/

/-- The cases of `BuildDex` for the C type of the native entry. -/
def nativeEntryTable : Char → Option (Option TypeDescriptor)
  | 'Z' => some (some (.primitive .boolean))
  | 'B' => some (some (.primitive .byte))
  | 'S' => some (some (.primitive .short))
  | 'I' => some (some (.primitive .int))
  | 'F' => some (some (.primitive .float))
  | 'J' => some (some (.primitive .long))
  | 'D' => some (some (.primitive .double))
  | 'L' => some (some .object)
  | 'V' => some none
  | _ => none

/-- The cases of `VNativeHookerEntry` for an argument: what `va_arg` takes
and `Wrap` boxes. -/
def vaArgTable : Char → Option TypeDescriptor
  | 'Z' => some (.primitive .boolean)
  | 'B' => some (.primitive .byte)
  | 'S' => some (.primitive .short)
  | 'C' => some (.primitive .char)
  | 'I' => some (.primitive .int)
  | 'F' => some (.primitive .float)
  | 'J' => some (.primitive .long)
  | 'D' => some (.primitive .double)
  | 'L' => some .object
  | _ => none

/-- The cases for its result: the member of the `jvalue` that is stored. -/
def resultTable : Char → Option (Option TypeDescriptor)
  | 'Z' => some (some (.primitive .boolean))
  | 'B' => some (some (.primitive .byte))
  | 'S' => some (some (.primitive .short))
  | 'C' => some (some (.primitive .char))
  | 'I' => some (some (.primitive .int))
  | 'F' => some (some (.primitive .float))
  | 'J' => some (some (.primitive .long))
  | 'D' => some (some (.primitive .double))
  | 'L' => some (some .object)
  | 'V' => some none
  | _ => none

/-- The cases of `wrapper::Unwrap`: the member that is stored, null for
`V`. -/
def unwrapTable : Char → Option (Option TypeDescriptor)
  | 'Z' => some (some (.primitive .boolean))
  | 'B' => some (some (.primitive .byte))
  | 'S' => some (some (.primitive .short))
  | 'C' => some (some (.primitive .char))
  | 'I' => some (some (.primitive .int))
  | 'F' => some (some (.primitive .float))
  | 'J' => some (some (.primitive .long))
  | 'D' => some (some (.primitive .double))
  | 'L' => some (some .object)
  | 'V' => some none
  | _ => none

/-- **The three ways `InvokeSpecial` calls**: `CallStatic*MethodA`,
`CallNonvirtual*MethodA` and `Call*MethodA`. -/
inductive CallKind where
  | static
  | nonvirtual
  | virtual
deriving DecidableEq

/-- The cases of `InvokeSpecial`: the type in the name of the JNI function.
The switch is written out once for each kind of call, with the same
cases. -/
def callTable (_ : CallKind) : Char → Option (Option TypeDescriptor)
  | 'Z' => some (some (.primitive .boolean))
  | 'B' => some (some (.primitive .byte))
  | 'S' => some (some (.primitive .short))
  | 'C' => some (some (.primitive .char))
  | 'I' => some (some (.primitive .int))
  | 'F' => some (some (.primitive .float))
  | 'J' => some (some (.primitive .long))
  | 'D' => some (some (.primitive .double))
  | 'L' => some (some .object)
  | 'V' => some none
  | _ => none

@[simp] theorem vaArgTable_letter (type : TypeDescriptor) :
    vaArgTable (letter type) = some type := by
  rcases type with _ | type
  · rfl
  · cases type <;> rfl

@[simp] theorem resultTable_returnLetter (returnType : Option TypeDescriptor) :
    resultTable (returnLetter returnType) = some returnType := by
  rcases returnType with _ | _ | type
  · rfl
  · rfl
  · cases type <;> rfl

@[simp] theorem unwrapTable_letter (type : TypeDescriptor) :
    unwrapTable (letter type) = some (some type) := by
  rcases type with _ | type
  · rfl
  · cases type <;> rfl

@[simp] theorem callTable_returnLetter (kind : CallKind) (returnType : Option TypeDescriptor) :
    callTable kind (returnLetter returnType) = some returnType := by
  rcases returnType with _ | _ | type
  · rfl
  · rfl
  · cases type <;> rfl

/-- **The table of `BuildDex` has a case for every return letter but one.** -/
theorem nativeEntryTable_returnLetter (returnType : Option TypeDescriptor) :
    nativeEntryTable (returnLetter returnType) = registeredEntry returnType := by
  rcases returnType with _ | _ | type
  · rfl
  · rfl
  · cases type <;> rfl

/-! ## Hooking -/

/-- **The native entry `BuildDex` registers** for a target of the shorty,
none for one that is no fast native. An empty shorty is refused before. -/
def nativeHookerEntryOf (isFastNative : Bool) (shorty : List Char) :
    Except Halt (Option (Option TypeDescriptor)) :=
  if !isFastNative then .ok none
  else match shorty with
    | [] => .ok none
    | c :: _ => match nativeEntryTable c with
      | some T => .ok (some T)
      | none => .error .aborted

/-! ## Dispatching -/

/-- `NativeHookerData`, the shorty as it is spelled. -/
structure SpelledHookerData where
  shouldPackReceiverAndArgs : Bool
  isStatic : Bool
  data : Option Obj
  nativeEntry : Bool
  shorty : List Char

/-- A step that is undefined where it cannot be taken. -/
def orUndefined {α : Type} : Option α → Except Halt α
  | some a => .ok a
  | none => .error .undefined

/-- The loop over the letters from the `i`th on. -/
def wrapLetters (arg_index : ℕ) : List Char → ℕ → List Value → List (Option Obj) →
    Except Halt (List (Option Obj))
  | [], _, _, args => .ok args
  | c :: cs, i, va, args => match vaArgTable c with
    | none => .error .aborted
    | some type => do
      let (value, va) ← orUndefined (vaArg type va)
      let args ← orUndefined (setObjectArrayElement args (i + arg_index) value.boxed)
      wrapLetters arg_index cs (i + 1) va args

/-- The receiver and the array the callback is passed. -/
def packLetters (data : SpelledHookerData) (va : List Value) :
    Except Halt (Option Obj × List (Option Obj)) := do
  let parameter_count := data.shorty.length - 1
  let args := List.replicate (parameter_count + data.shouldPackReceiverAndArgs.toNat) none
  if data.isStatic then
    let args ← wrapLetters 0 data.shorty.tail 0 va args
    return (none, args)
  else
    let (receiver, va) ← orUndefined (vaArg .object va)
    if data.shouldPackReceiverAndArgs then
      let args ← orUndefined (setObjectArrayElement args 0 receiver.boxed)
      let args ← wrapLetters 1 data.shorty.tail 0 va args
      return (none, args)
    else
      let args ← wrapLetters 0 data.shorty.tail 0 va args
      return (receiver.boxed, args)

/-- The call of the callback, none where there is no hooker object. -/
def spelledArguments (data : SpelledHookerData) (receiver : Option Obj)
    (args : List (Option Obj)) : Option (List Argument) :=
  if data.nativeEntry then some [.object receiver, .array args, .object data.data]
  else match data.data with
    | none => none
    | some callback =>
      if data.shouldPackReceiverAndArgs then some [.object callback, .array args]
      else some [.object callback, .object receiver, .array args]

/-- What the stub leaves of the callback's completion. -/
def storeResult (number : NumberMethods) (shorty : List Char) (completion : Completion) :
    Except Halt NativeResult :=
  match shorty with
  | [] => .error .undefined
  | c :: _ => match resultTable c with
    | none => .error .aborted
    | some returnType => .ok (unwrapCompletion number returnType completion)

/-- **`VNativeHookerEntry`**, letter by letter. -/
def dispatchLetters (number : NumberMethods) (callee : List Argument → Completion) :
    Option SpelledHookerData → List Value → Except Halt (List (List Argument) × NativeResult)
  | none, _ => .ok ([], .stored none)
  | some data, va => do
    let (receiver, args) ← packLetters data va
    match spelledArguments data receiver args with
    | none =>
      let result ← storeResult number data.shorty (.returned none)
      return ([], result)
    | some arguments =>
      let result ← storeResult number data.shorty (callee arguments)
      return ([arguments], result)

/-- The data of a native stub, its shorty spelled. -/
def NativeHookerData.spelled (data : NativeHookerData) : SpelledHookerData where
  shouldPackReceiverAndArgs := data.shouldPackReceiverAndArgs
  isStatic := data.isStatic
  data := data.data
  nativeEntry := data.nativeEntry
  shorty := Signature.shorty ⟨data.shorty.returnType, data.shorty.parameters⟩

theorem orUndefined_bind {α β : Type} (o : Option α) (f : α → Option β) :
    orUndefined (o >>= f) = orUndefined o >>= fun a => orUndefined (f a) := by
  rcases o with _ | a <;> rfl

theorem wrapLetters_letter (arg_index : ℕ) (types : List TypeDescriptor) (i : ℕ)
    (va : List Value) (args : List (Option Obj)) :
    wrapLetters arg_index (types.map letter) i va args =
      orUndefined (wrapParameters arg_index types i va args) := by
  induction types generalizing i va args with
  | nil => rfl
  | cons type types ih =>
    simp only [List.map_cons, wrapLetters, wrapParameters, vaArgTable_letter, orUndefined_bind, ih]

theorem packLetters_spelled (data : NativeHookerData) (va : List Value) :
    packLetters data.spelled va = orUndefined (packVaList data va) := by
  have hwrap : ∀ arg_index va args, wrapLetters arg_index data.spelled.shorty.tail 0 va args =
      orUndefined (wrapParameters arg_index data.shorty.parameters 0 va args) :=
    fun arg_index va args => wrapLetters_letter arg_index data.shorty.parameters 0 va args
  have hcount : data.spelled.shorty.length - 1 = data.shorty.size - 1 := by
    simp [NativeHookerData.spelled, Signature.shorty, Shorty.size]
  have hpack : data.spelled.shouldPackReceiverAndArgs = data.shouldPackReceiverAndArgs := rfl
  have hstatic : data.spelled.isStatic = data.isStatic := rfl
  simp only [packLetters, packVaList, hwrap, hcount, hpack, hstatic]
  split
  · rw [orUndefined_bind]
    rfl
  · rw [orUndefined_bind]
    refine congrArg _ (funext fun p => ?_)
    split
    · simp only [orUndefined_bind]
      rfl
    · rw [orUndefined_bind]
      rfl

/-- **Letter by letter, the entry does what it does type by type.** -/
theorem dispatchLetters_spelled (number : NumberMethods) (callee : List Argument → Completion)
    (data : NativeHookerData) (va : List Value) :
    dispatchLetters number callee (some data.spelled) va =
      if (packVaList data va).isSome then .ok (vNativeHookerEntry number callee (some data) va)
      else .error .undefined := by
  have hstore : ∀ completion, storeResult number data.spelled.shorty completion =
      .ok (unwrapCompletion number data.shorty.returnType completion) := by
    intro completion
    rw [NativeHookerData.spelled, Signature.shorty, storeResult, resultTable_returnLetter]
  rw [dispatchLetters, packLetters_spelled, vNativeHookerEntry]
  rcases packVaList data va with _ | ⟨receiver, args⟩
  · rfl
  · have harguments : spelledArguments data.spelled receiver args =
        callbackArguments data receiver args := rfl
    simp only [orUndefined, Option.isSome_some, if_true]
    rcases hcall : callbackArguments data receiver args with _ | arguments <;>
      simp only [bind, Except.bind, harguments, hcall, hstore] <;> rfl

/-! ## Invoking -/

/-- **A call of `InvokeSpecial`**. Classes go by number; `receiverClass` and
`methodClass` are what `GetObjectClass` and the method's own class
give. -/
structure SpecialCall where
  hasExecutable : Bool
  hasArtMethod : Bool
  isStatic : Bool
  isConstructor : Bool
  methodClass : ℕ
  declaringClass : Option ℕ
  isAssignableFrom : ℕ → ℕ → Bool
  receiver : Option Obj
  receiverClass : ℕ
  /-- What `AllocObject` gives for a class. -/
  allocObject : ℕ → Option Obj
  shorty : List Char
  args : Option (List (Option Obj))

/-- What is thrown before the call, with the message. -/
inductive Refusal where
  | nullPointer (message : String)
  | illegalArgument (message : String)
deriving DecidableEq

/-- **What `InvokeSpecial` comes to**: an exception thrown and null
returned, a result, or the exception of the method itself. -/
inductive Invocation where
  | refused (refusal : Refusal)
  | returned (result : Option Obj)
  | unexpected (e : Throwable)
deriving DecidableEq

/-- `clazz`. -/
def SpecialCall.clazz (call : SpecialCall) : ℕ :=
  match call.declaringClass with
  | some declaringClass => declaringClass
  | none =>
    if call.receiver.isSome && !call.isStatic then call.receiverClass else call.methodClass

/-- The kind of the call. -/
def SpecialCall.kind (call : SpecialCall) : CallKind :=
  if call.isStatic then .static
  else if call.declaringClass.isSome then .nonvirtual
  else .virtual

/-- The value `Unwrap` stores, null for a letter it stores null for. A null
that is unwrapped, or an exception on the way, makes what follows
undefined. -/
def unwrapLetter (number : NumberMethods) (c : Char) (wrapped : Option Obj) : Except Halt Value :=
  match unwrapTable c with
  | none => .error .aborted
  | some none => .ok (.object none)
  | some (some .object) => .ok (.object wrapped)
  | some (some (.primitive type)) => match wrapped with
    | none => .error .undefined
    | some o => match unwrap number type o with
      | .stored (some value) => .ok value
      | _ => .error .undefined

/-- The loop over the arguments. -/
def unwrapArguments (number : NumberMethods) :
    List Char → List (Option Obj) → Except Halt (List Value)
  | c :: cs, wrapped :: args => do
    let value ← if c = 'L' then .ok (.object wrapped) else unwrapLetter number c wrapped
    let values ← unwrapArguments number cs args
    return value :: values
  | _, _ => .ok []

/-- The switch over the return letter: the call, and `Wrap` of what it
returns. -/
def callMethodA (kind : CallKind) (c : Char)
    (jni : CallKind → Option TypeDescriptor → List Value → Except Throwable (Option Value))
    (values : List Value) : Except Halt Invocation :=
  match callTable kind c with
  | none => .error .aborted
  | some type => match jni kind type values with
    | .error e => .ok (.unexpected e)
    | .ok result => .ok (.returned (result.bind Value.boxed))

/-- The call once a receiver has been found. -/
def invokeOn (number : NumberMethods)
    (jni : Option Obj → CallKind → Option TypeDescriptor → List Value →
      Except Throwable (Option Value))
    (call : SpecialCall) (receiver : Option Obj) : Except Halt Invocation :=
  let parameter_count := call.shorty.length - 1
  let args := call.args.getD []
  if args.length ≠ parameter_count then
    .ok (.refused (.illegalArgument
      ("Wrong number of arguments; expected " ++ toString parameter_count ++ ", got " ++
        toString args.length)))
  else match call.shorty with
    | [] => .error .undefined
    | c :: cs => do
      let values ← unwrapArguments number cs args
      callMethodA call.kind c (jni receiver) values

/-- **`InvokeSpecial`** -/
def invokeSpecial (number : NumberMethods) (className : ℕ → String)
    (jni : Option Obj → CallKind → Option TypeDescriptor → List Value →
      Except Throwable (Option Value))
    (call : SpecialCall) : Except Halt Invocation :=
  if !call.hasExecutable then .ok (.refused (.nullPointer "null method"))
  else if !call.hasArtMethod then .ok (.refused (.nullPointer "Executable.artMethod"))
  else
    let clazz := call.clazz
    match call.declaringClass.filter fun declaringClass =>
        clazz ≠ declaringClass ∧ call.isAssignableFrom clazz declaringClass = false with
    | some declaringClass => .ok (.refused (.illegalArgument
        (className declaringClass ++ " is not inherited from " ++ className clazz)))
    | none => match call.receiver with
      | some receiver => invokeOn number jni call (some receiver)
      | none =>
        if call.isConstructor then
          invokeOn number jni call (call.allocObject (call.declaringClass.getD clazz))
        else if !call.isStatic then .ok (.refused (.nullPointer "null receiver"))
        else invokeOn number jni call none

/-! ## No table is left -/

/-- The computation does not end in `std::abort`. -/
def NeverAborts {α : Type} (x : Except Halt α) : Prop := x ≠ .error .aborted

section NeverAborts

variable {α β : Type}

theorem neverAborts_ok (a : α) : NeverAborts (.ok a) := nofun

theorem neverAborts_undefined : NeverAborts (.error .undefined : Except Halt α) := nofun

theorem NeverAborts.bind {x : Except Halt α} {f : α → Except Halt β} (hx : NeverAborts x)
    (hf : ∀ a, NeverAborts (f a)) : NeverAborts (x >>= f) := by
  rcases x with e | a
  · intro h
    rcases e with _ | _
    · exact hx rfl
    · exact absurd h nofun
  · exact hf a

theorem neverAborts_orUndefined (o : Option α) : NeverAborts (orUndefined o) := by
  rcases o with _ | a
  · exact neverAborts_undefined
  · exact neverAborts_ok a

end NeverAborts

variable (number : NumberMethods) (signature : Signature)

/-- The loop of `VNativeHookerEntry` has a case for every parameter. -/
theorem neverAborts_wrapLetters (arg_index : ℕ) (types : List TypeDescriptor) (i : ℕ)
    (va : List Value) (args : List (Option Obj)) :
    NeverAborts (wrapLetters arg_index (types.map letter) i va args) := by
  induction types generalizing i va args with
  | nil => exact neverAborts_ok args
  | cons type types ih =>
    rw [List.map_cons, wrapLetters, vaArgTable_letter]
    refine (neverAborts_orUndefined _).bind fun p => ?_
    refine (neverAborts_orUndefined _).bind fun args => ?_
    exact ih (i + 1) p.2 args

theorem neverAborts_packLetters {data : SpelledHookerData} (h : data.shorty = signature.shorty)
    (va : List Value) : NeverAborts (packLetters data va) := by
  have hwrap : ∀ arg_index va args,
      NeverAborts (wrapLetters arg_index data.shorty.tail 0 va args) := by
    intro arg_index va args
    rw [h]
    exact neverAborts_wrapLetters arg_index signature.parameters 0 va args
  unfold packLetters
  split
  · exact (hwrap _ _ _).bind fun args => neverAborts_ok _
  · refine (neverAborts_orUndefined _).bind fun ⟨receiver, va⟩ => ?_
    dsimp only
    split
    · refine (neverAborts_orUndefined _).bind fun args => ?_
      exact (hwrap _ _ _).bind fun args => neverAborts_ok _
    · exact (hwrap _ _ _).bind fun args => neverAborts_ok _

theorem neverAborts_storeResult (completion : Completion) :
    NeverAborts (storeResult number signature.shorty completion) := by
  rw [Signature.shorty, storeResult, resultTable_returnLetter]
  exact neverAborts_ok _

/-- **A call of a hooked fast native target does not abort.** -/
theorem neverAborts_dispatchLetters (callee : List Argument → Completion)
    {data : SpelledHookerData} (h : data.shorty = signature.shorty) (va : List Value) :
    NeverAborts (dispatchLetters number callee (some data) va) := by
  rw [dispatchLetters]
  refine (neverAborts_packLetters signature h va).bind fun ⟨receiver, args⟩ => ?_
  have hstore := neverAborts_storeResult number signature
  dsimp only
  rw [h]
  split
  · exact (hstore _).bind fun result => neverAborts_ok _
  · exact (hstore _).bind fun result => neverAborts_ok _

theorem neverAborts_unwrapLetter (type : TypeDescriptor) (wrapped : Option Obj) :
    NeverAborts (unwrapLetter number (letter type) wrapped) := by
  rw [unwrapLetter, unwrapTable_letter]
  rcases type with _ | type
  · exact neverAborts_ok _
  · rcases wrapped with _ | o
    · exact neverAborts_undefined
    · dsimp only
      split
      · exact neverAborts_ok _
      · exact neverAborts_undefined

/-- The loop of `InvokeSpecial` has a case for every parameter. -/
theorem neverAborts_unwrapArguments (types : List TypeDescriptor) (args : List (Option Obj)) :
    NeverAborts (unwrapArguments number (types.map letter) args) := by
  induction types generalizing args with
  | nil => exact neverAborts_ok []
  | cons type types ih =>
    rcases args with _ | ⟨wrapped, args⟩
    · exact neverAborts_ok []
    · rw [List.map_cons, unwrapArguments]
      have hrest : ∀ value, NeverAborts (do
          let values ← unwrapArguments number (types.map letter) args
          return value :: values : Except Halt (List Value)) :=
        fun value => (ih args).bind fun values => neverAborts_ok _
      split
      · exact hrest _
      · exact (neverAborts_unwrapLetter number type wrapped).bind hrest

theorem neverAborts_invokeOn (jni : Option Obj → CallKind → Option TypeDescriptor → List Value →
      Except Throwable (Option Value)) {call : SpecialCall} (h : call.shorty = signature.shorty)
    (receiver : Option Obj) : NeverAborts (invokeOn number jni call receiver) := by
  rw [invokeOn, h, Signature.shorty]
  dsimp only
  split
  · exact neverAborts_ok _
  · refine (neverAborts_unwrapArguments number signature.parameters _).bind fun values => ?_
    rw [callMethodA, callTable_returnLetter]
    dsimp only
    split
    · exact neverAborts_ok _
    · exact neverAborts_ok _

/-- **`InvokeSpecial` does not abort**, whatever kind of call it makes. -/
theorem neverAborts_invokeSpecial (className : ℕ → String)
    (jni : Option Obj → CallKind → Option TypeDescriptor → List Value →
      Except Throwable (Option Value)) {call : SpecialCall}
    (h : call.shorty = signature.shorty) :
    NeverAborts (invokeSpecial number className jni call) := by
  have hinvoke := neverAborts_invokeOn number signature jni h
  rw [invokeSpecial]
  split
  · exact neverAborts_ok _
  split
  · exact neverAborts_ok _
  dsimp only
  split
  · exact neverAborts_ok _
  split
  · exact hinvoke _
  split
  · exact hinvoke _
  split
  · exact neverAborts_ok _
  · exact hinvoke _

/-- **Hooking aborts on one kind of target**: a fast native one that returns
a `char`. For every other the entry registered, if there is one, has the
C type of the return type. -/
theorem nativeHookerEntryOf_shorty (isFastNative : Bool) :
    nativeHookerEntryOf isFastNative signature.shorty =
      if isFastNative then
        if signature.returnType = some (.primitive .char) then .error .aborted
        else .ok (some signature.returnType)
      else .ok none := by
  cases isFastNative with
  | false => rfl
  | true =>
    simp only [nativeHookerEntryOf, Signature.shorty, nativeEntryTable_returnLetter, Bool.not_true,
      Bool.false_eq_true, if_false, if_true]
    by_cases h : signature.returnType = some (.primitive .char)
    · rw [if_pos h, h]
      rfl
    · rw [if_neg h, registeredEntry_eq h]

/-- **A signature is served without an abort**, hooking, dispatching and
invoking, with the entry registered for it of its own return type, if and
only if it is not that of a fast native that returns a `char`. -/
theorem no_abort_iff (isFastNative : Bool) :
    ((∃ entry, nativeHookerEntryOf isFastNative signature.shorty = .ok entry ∧
          (isFastNative → entry = some signature.returnType)) ∧
        (∀ callee data va, data.shorty = signature.shorty →
          NeverAborts (dispatchLetters number callee (some data) va)) ∧
        ∀ className jni call, call.shorty = signature.shorty →
          NeverAborts (invokeSpecial number className jni call)) ↔
      ¬ (isFastNative ∧ signature.shorty.head? = some 'C') := by
  have hhead : signature.shorty.head? = some 'C' ↔
      signature.returnType = some (.primitive .char) := by
    rw [Signature.shorty, List.head?_cons, Option.some_inj]
    rcases signature.returnType with _ | _ | type
    · decide
    · decide
    · cases type <;> decide
  rw [hhead, nativeHookerEntryOf_shorty]
  constructor
  · rintro ⟨⟨entry, hentry, -⟩, -⟩ ⟨hfast, hchar⟩
    rw [if_pos hfast, if_pos hchar] at hentry
    exact absurd hentry nofun
  · intro h
    refine ⟨?_, fun callee data va hdata =>
      neverAborts_dispatchLetters number signature callee hdata va,
      fun className jni call hcall =>
        neverAborts_invokeSpecial number signature className jni hcall⟩
    cases isFastNative with
    | false => exact ⟨none, rfl, fun hf => absurd hf (by decide)⟩
    | true =>
      have hchar : signature.returnType ≠ some (.primitive .char) := fun hc => h ⟨rfl, hc⟩
      rw [if_pos rfl, if_neg hchar]
      exact ⟨_, rfl, fun _ => rfl⟩

/-- A fast native `char` method without parameters cannot be hooked. -/
theorem char_aborts :
    ¬ ∃ entry, nativeHookerEntryOf true (Signature.shorty ⟨some (.primitive .char), []⟩) =
      .ok entry := by
  rintro ⟨entry, h⟩
  exact absurd h nofun

end LSPlant
