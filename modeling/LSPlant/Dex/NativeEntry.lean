import LSPlant.Dex.BuildDex
/-!
# The hook stub of a fast native target

A fast native target gets a native stub, `NativeHookerEntry`, with the
C type of its return value. It takes the arguments out of a `va_list`,
boxes them into an array by hand and converts the result by the value
methods `InitJNI` has looked up. `vNativeHookerEntry_eq` is what it does
as a whole.
-/

namespace LSPlant

open Dalvik

/-- **What `HookMethod` leaves for the native stub**, with the object in
the static field `data_field` names. -/
structure NativeHookerData where
  shouldPackReceiverAndArgs : Bool
  isStatic : Bool
  data : Option Obj
  nativeEntry : Bool
  shorty : Shorty

/-- The data of a hook. -/
def nativeHookerData (shorty : Shorty) (isStatic : Bool) (callback : HookerCallback) :
    NativeHookerData where
  shouldPackReceiverAndArgs := callback.shouldPackReceiverAndArgs
  isStatic := isStatic
  data := callback.hookerField
  nativeEntry := callback.isNativeApi
  shorty := shorty

/-- What the stub has in its `jvalue` at the end, nothing where it is as
it was initialized, or the exception that is pending. -/
inductive NativeResult where
  | stored (result : Option Value)
  | pending (e : Throwable)
  | undefined
deriving DecidableEq

/-- The next argument, which has to be of the type asked for. ART calls the
entry as it calls a function without `...`. That `va_arg` reads the arguments
passed so one after another is taken for granted: the calling convention of
riscv64 does not grant it for `F` and `D`. -/
def vaArg (type : TypeDescriptor) : List Value → Option (Value × List Value)
  | value :: va => if value.type = type then some (value, va) else none
  | [] => none

def setObjectArrayElement (args : List (Option Obj)) (i : ℕ) (o : Option Obj) :
    Option (List (Option Obj)) :=
  if i < args.length then some (args.set i o) else none

/-- The loop over the parameters from `i` on. -/
def wrapParameters (arg_index : ℕ) : List TypeDescriptor → ℕ → List Value →
    List (Option Obj) → Option (List (Option Obj))
  | [], _, _, args => some args
  | type :: types, i, va, args => do
    let (value, va) ← vaArg type va
    let args ← setObjectArrayElement args (i + arg_index) value.boxed
    wrapParameters arg_index types (i + 1) va args

/-- **The receiver and the array** the callback is passed. Room for the
receiver is made where it is packed, in a static target too. -/
def packVaList (data : NativeHookerData) (va : List Value) :
    Option (Option Obj × List (Option Obj)) := do
  let parameter_count := data.shorty.size - 1
  let args := List.replicate (parameter_count + data.shouldPackReceiverAndArgs.toNat) none
  if data.isStatic then
    let args ← wrapParameters 0 data.shorty.parameters 0 va args
    return (none, args)
  else
    let (receiver, va) ← vaArg .object va
    if data.shouldPackReceiverAndArgs then
      let args ← setObjectArrayElement args 0 receiver.boxed
      let args ← wrapParameters 1 data.shorty.parameters 0 va args
      return (none, args)
    else
      let args ← wrapParameters 0 data.shorty.parameters 0 va args
      return (receiver.boxed, args)

/-- The call of the callback, none where there is no hooker object. -/
def callbackArguments (data : NativeHookerData) (receiver : Option Obj)
    (args : List (Option Obj)) : Option (List Argument) :=
  if data.nativeEntry then some [.object receiver, .array args, .object data.data]
  else match data.data with
    | none => none
    | some callback =>
      if data.shouldPackReceiverAndArgs then some [.object callback, .array args]
      else some [.object callback, .object receiver, .array args]

/-- Whether `InitJNI` looks the value method up on `Number`. The others
are looked up on the box class itself. -/
def valueMethodOnNumber : Primitive → Bool
  | .boolean | .char => false
  | .byte | .short | .int | .float | .long | .double => true

/-- **`UnwrapBoolean` and its siblings.** A JNI call of a method the
object does not have is undefined. -/
def unwrap (number : NumberMethods) (type : Primitive) (wrapped : Obj) : NativeResult :=
  if valueMethodOnNumber type then
    if wrapped.isNumber then match number.value type wrapped with
      | .ok value => .stored (some (.primitive type value))
      | .error e => .pending e
    else .undefined
  else match wrapped.unbox type with
    | some value => .stored (some (.primitive type value))
    | none => .undefined

/-- What is made of a result. A null one leaves a primitive value as it
was. -/
def unwrapResult (number : NumberMethods) : Option TypeDescriptor → Option Obj → NativeResult
  | none, _ => .stored none
  | some .object, wrapped_result => .stored (some (.object wrapped_result))
  | some (.primitive _), none => .stored none
  | some (.primitive type), some wrapped_result => unwrap number type wrapped_result

/-- **`VNativeHookerEntry`**: the calls it makes and what it leaves. A
call that throws comes back with null, and the stub returns with the
exception pending. -/
def vNativeHookerEntry (number : NumberMethods) (callee : List Argument → Completion) :
    Option NativeHookerData → List Value → List (List Argument) × NativeResult
  | none, _ => ([], .stored none)
  | some data, va => match packVaList data va with
    | none => ([], .undefined)
    | some (receiver, args) => match callbackArguments data receiver args with
      | none => ([], unwrapResult number data.shorty.returnType none)
      | some arguments => ([arguments], match callee arguments with
        | .returned o => unwrapResult number data.shorty.returnType o
        | .thrown e => .pending e)

/-- How the stub returns: the field of the `jvalue` that is `T`'s. -/
def NativeResult.read (T : Option TypeDescriptor) : NativeResult → Outcome
  | .pending e => .thrown e
  | .undefined => .undefined
  | .stored result => match T, result with
    | none, _ => .void
    | some type, none => .returned (.zero type)
    | some type, some value => if value.type = type then .returned value else .undefined

/-- **`NativeHookerEntry<T>`** -/
def nativeHookerEntry (number : NumberMethods) (T : Option TypeDescriptor)
    (callee : List Argument → Completion) (data : Option NativeHookerData) (va : List Value) :
    Execution :=
  let (calls, result) := vNativeHookerEntry number callee data va
  ⟨calls, result.read T⟩

/-- The entry `BuildDex` registers, none where it aborts: `char` is
missing from its cases. -/
def registeredEntry : Option TypeDescriptor → Option (Option TypeDescriptor)
  | some (.primitive .boolean) => some (some (.primitive .boolean))
  | some (.primitive .byte) => some (some (.primitive .byte))
  | some (.primitive .short) => some (some (.primitive .short))
  | some (.primitive .int) => some (some (.primitive .int))
  | some (.primitive .float) => some (some (.primitive .float))
  | some (.primitive .long) => some (some (.primitive .long))
  | some (.primitive .double) => some (some (.primitive .double))
  | some .object => some (some .object)
  | none => some none
  | some (.primitive .char) => none

/-- A call of a fast native target that is hooked. -/
def callNativeHook (number : NumberMethods) {shorty : Shorty} (callback : HookerCallback)
    (callee : List Argument → Completion) (call : Call shorty) : Option Execution :=
  (registeredEntry shorty.returnType).map fun T =>
    nativeHookerEntry number T callee (nativeHookerData shorty call.isStatic callback) call.values

/-! ## Packing -/

/-- **The loop**: the boxed arguments take the place of the nulls from
`i + arg_index` on. -/
theorem wrapParameters_eq {arg_index i : ℕ} {stored rest : List (Option Obj)}
    (values : List Value) (hi : stored.length = i + arg_index) :
    wrapParameters arg_index (values.map Value.type) i values
        (stored ++ List.replicate values.length none ++ rest) =
      some (stored ++ values.map Value.boxed ++ rest) := by
  induction values generalizing i stored with
  | nil => simp [wrapParameters]
  | cons value values ih =>
    have hset : setObjectArrayElement
          (stored ++ List.replicate (values.length + 1) none ++ rest) (i + arg_index)
          value.boxed =
        some ((stored ++ [value.boxed]) ++ List.replicate values.length none ++ rest) := by
      simp [setObjectArrayElement, ← hi, List.replicate_succ]
    simp only [List.map_cons, wrapParameters, vaArg, if_true, List.length_cons]
    rw [Option.bind_eq_bind, Option.bind_some, hset, Option.bind_eq_bind, Option.bind_some,
      ih (by simp; omega)]
    simp

variable {shorty : Shorty} (call : Call shorty)

/-- **The array a native stub passes** ends in a null the promised one
does not have where a static target's callback takes packed arguments. -/
def Call.nativeHookParams (shouldPack : Bool) : List (Option Obj) :=
  call.hookParams shouldPack ++ if shouldPack && call.isStatic then [none] else []

/-- The loop over all the arguments of the call. -/
theorem wrapParameters_args (arg_index : ℕ) (stored rest : List (Option Obj))
    (hstored : stored.length = arg_index) :
    wrapParameters arg_index shorty.parameters 0 call.args
        (stored ++ List.replicate (shorty.size - 1) none ++ rest) =
      some (stored ++ call.args.map Value.boxed ++ rest) := by
  have hsize : shorty.size - 1 = call.args.length := by
    rw [call.length_args]; rfl
  rw [← call.typed, hsize]
  exact wrapParameters_eq call.args (by omega)

/-- A static target's array keeps the room that was made for a receiver. -/
theorem packVaList_static (callback : HookerCallback) (h : call.receiver = none) :
    packVaList (nativeHookerData shorty call.isStatic callback) call.values =
      some (none, call.nativeHookParams callback.shouldPackReceiverAndArgs) := by
  have hvalues : call.values = call.args := by simp [Call.values, h]
  have hstatic : call.isStatic = true := by simp [Call.isStatic, h]
  have hwrap := wrapParameters_args call 0 []
    (List.replicate callback.shouldPackReceiverAndArgs.toNat none) rfl
  rw [List.nil_append, List.replicate_append_replicate] at hwrap
  simp only [packVaList, nativeHookerData, hstatic, if_true, hvalues, hwrap]
  cases callback.shouldPackReceiverAndArgs <;>
    simp [Call.nativeHookParams, Call.hookParams, h, hstatic]

theorem packVaList_receiver (callback : HookerCallback) {o : Obj} (h : call.receiver = some o) :
    packVaList (nativeHookerData shorty call.isStatic callback) call.values =
      some (if callback.shouldPackReceiverAndArgs then none else some o,
        call.nativeHookParams callback.shouldPackReceiverAndArgs) := by
  have hvalues : call.values = .object (some o) :: call.args := by simp [Call.values, h]
  have hstatic : call.isStatic = false := by simp [Call.isStatic, h]
  cases hpack : callback.shouldPackReceiverAndArgs with
  | true =>
    have hwrap := wrapParameters_args call 1 [some o] [] rfl
    simp only [List.append_nil, List.cons_append, List.nil_append] at hwrap
    have hset : setObjectArrayElement (List.replicate (shorty.size - 1 + 1) none) 0 (some o) =
        some (some o :: List.replicate (shorty.size - 1) none) := by
      simp [setObjectArrayElement, List.replicate_succ]
    simp [packVaList, nativeHookerData, hstatic, hpack, hvalues, vaArg, Value.type, Value.boxed,
      hset, hwrap, Call.nativeHookParams, Call.hookParams, h]
  | false =>
    have hwrap := wrapParameters_args call 0 [] [] rfl
    simp only [List.append_nil, List.nil_append] at hwrap
    simp [packVaList, nativeHookerData, hstatic, hpack, hvalues, vaArg, Value.type, Value.boxed,
      hwrap, Call.nativeHookParams, Call.hookParams]

theorem nativeHookParams_false : call.nativeHookParams false = call.args.map Value.boxed := by
  simp [Call.nativeHookParams, Call.hookParams]

theorem packVaList_values (callback : HookerCallback) :
    packVaList (nativeHookerData shorty call.isStatic callback) call.values =
      some (if callback.shouldPackReceiverAndArgs then none else call.receiver,
        call.nativeHookParams callback.shouldPackReceiverAndArgs) := by
  cases h : call.receiver with
  | none => rw [packVaList_static call callback h, ite_self]
  | some o => exact packVaList_receiver call callback h

/-! ## The entry as a whole -/

/-- **The call the callback gets.** -/
def Call.nativeDelivery : HookerCallback → List Argument
  | .packed hooker => [.object hooker, .array (call.nativeHookParams true)]
  | .unpacked hooker => call.delivery (.unpacked hooker)
  | .native data => call.delivery (.native data)

/-- What is left of a completion of the callback. -/
def unwrapCompletion (number : NumberMethods) (returnType : Option TypeDescriptor) :
    Completion → NativeResult
  | .returned o => unwrapResult number returnType o
  | .thrown e => .pending e

/-- **The native entry.** It makes one call, and leaves what it makes of
the callback's completion. -/
theorem vNativeHookerEntry_eq (number : NumberMethods) (callback : HookerCallback)
    (callee : List Argument → Completion) :
    vNativeHookerEntry number callee (some (nativeHookerData shorty call.isStatic callback))
        call.values =
      ([call.nativeDelivery callback],
        unwrapCompletion number shorty.returnType (callee (call.nativeDelivery callback))) := by
  have harguments : ∀ receiver args, callbackArguments
      (nativeHookerData shorty call.isStatic callback) receiver args =
        some (match callback with
          | .packed hooker => [.object hooker, .array args]
          | .unpacked hooker => [.object hooker, .object receiver, .array args]
          | .native data => [.object receiver, .array args, .object data]) := by
    intro receiver args
    cases callback <;> rfl
  rw [vNativeHookerEntry, packVaList_values]
  simp only [harguments]
  cases callback with
  | packed hooker => rfl
  | unpacked hooker =>
    rw [show (HookerCallback.unpacked hooker).shouldPackReceiverAndArgs = false from rfl,
      nativeHookParams_false]
    rfl
  | native data =>
    rw [show (HookerCallback.native data).shouldPackReceiverAndArgs = false from rfl,
      nativeHookParams_false]
    rfl

theorem registeredEntry_eq {returnType : Option TypeDescriptor}
    (h : returnType ≠ some (.primitive .char)) : registeredEntry returnType = some returnType := by
  match returnType with
  | none | some .object => rfl
  | some (.primitive type) => cases type <;> first | rfl | exact absurd rfl h

/-- **A hooked fast native target**, if its entry can be registered. -/
theorem callNativeHook_eq (number : NumberMethods) (callback : HookerCallback)
    (callee : List Argument → Completion) (call : Call shorty)
    (hchar : shorty.returnType ≠ some (.primitive .char)) :
    callNativeHook number callback callee call =
      some ⟨[call.nativeDelivery callback], (unwrapCompletion number shorty.returnType
        (callee (call.nativeDelivery callback))).read shorty.returnType⟩ := by
  simp only [callNativeHook, registeredEntry_eq hchar, Option.map_some, nativeHookerEntry,
    vNativeHookerEntry_eq]

end LSPlant
