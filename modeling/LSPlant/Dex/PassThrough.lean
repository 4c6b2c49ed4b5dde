import LSPlant.ReceiverCheck
/-!
# Hooks that pass their calls on

A callback has the receiver and the boxed arguments of a call, and
`InvokeSpecial` takes a receiver and boxed arguments for a call of the
backup. Here a callback hands the one to the other, and returns or throws
what comes of it. Through the stub in dex code the hooked target is then
called as if it were not hooked. Through the native stub it is too, but
for a packed call of a static target: its array is one element too long
for `InvokeSpecial`.
-/

namespace LSPlant

open Dalvik

/-- **The JNI functions** `InvokeSpecial` chooses from, on the backup. -/
abbrev JniCalls :=
  Option Obj → CallKind → Option TypeDescriptor → List Value → Except Throwable (Option Value)

/-- What a JNI function returns is of the type in its name. -/
def JniCalls.Typed (jni : JniCalls) : Prop :=
  ∀ receiver kind type values result, jni receiver kind type values = .ok result →
    result.map Value.type = type

/-- **The receiver and the arguments** in what a callback is passed. -/
def HookerCallback.unpack (isStatic : Bool) :
    HookerCallback → List Argument → Option (Option Obj × List (Option Obj))
  | .packed _, [_, .array (receiver :: args)] =>
    some (if isStatic then (none, receiver :: args) else (receiver, args))
  | .packed _, [_, .array []] => if isStatic then some (none, []) else none
  | .unpacked _, [_, .object receiver, .array args] => some (receiver, args)
  | .native _, [.object receiver, .array args, _] => some (receiver, args)
  | _, _ => none

/-- A call of the method with a receiver and arguments. -/
def SpecialCall.on (method : SpecialCall) (receiver : Option Obj) (args : List (Option Obj)) :
    SpecialCall :=
  { method with receiver := receiver, args := some args }

/-- What a callback does that returns the result and throws the exception:
`raised` is the exception a refusal is thrown as. -/
def Invocation.completion (raised : Refusal → Throwable) : Invocation → Completion
  | refused refusal => .thrown (raised refusal)
  | returned result => .returned result
  | unexpected e => .thrown e

/-- **A callback that passes its calls on** to the backup. What it does with
anything else, or where the call is undefined, is left open. -/
def passThrough (number : NumberMethods) (className : ℕ → String) (jni : JniCalls)
    (raised : Refusal → Throwable) (otherwise : List Argument → Completion)
    (callback : HookerCallback) (backup : SpecialCall) (arguments : List Argument) : Completion :=
  match callback.unpack backup.isStatic arguments with
  | none => otherwise arguments
  | some (receiver, args) => match invokeSpecial number className jni (backup.on receiver args) with
    | .ok invocation => invocation.completion raised
    | .error _ => otherwise arguments

/-- **The backup of a called target**, as `InvokeSpecial` sees it. -/
structure SpecialCall.BacksUp {shorty : Shorty} (backup : SpecialCall) (call : Call shorty) :
    Prop where
  hasExecutable : backup.hasExecutable = true
  hasArtMethod : backup.hasArtMethod = true
  isStatic : backup.isStatic = call.isStatic
  isConstructor : call.receiver = none → backup.isConstructor = false
  shorty : backup.shorty = Signature.shorty ⟨shorty.returnType, shorty.parameters⟩

/-- How the caller of a method sees a call end. -/
def callOutcome : Except Throwable (Option Value) → Outcome
  | .error e => .thrown e
  | .ok none => .void
  | .ok (some value) => .returned value

/-! ## Boxing and unboxing -/

variable {number : NumberMethods} {shorty : Shorty} {call : Call shorty}

theorem letter_primitive_ne (type : Primitive) : letter (.primitive type) ≠ 'L' := by
  cases type <;> decide

/-- **Boxed arguments are unwrapped to themselves.** -/
theorem unwrapArguments_boxed (number : NumberMethods) (values : List Value) :
    unwrapArguments number ((values.map Value.type).map letter) (values.map Value.boxed) =
      .ok values := by
  induction values with
  | nil => rfl
  | cons value values ih =>
    rw [List.map_cons, List.map_cons, List.map_cons, unwrapArguments, ih]
    rcases value with o | ⟨type, value⟩
    · rfl
    · have hunwrap : unwrapLetter number (letter (.primitive type))
          (Value.primitive type value).boxed = .ok (.primitive type value) := by
        rw [unwrapLetter, unwrapTable_letter]
        simp only [Value.boxed, unwrap_box]
      rw [Value.type, if_neg (letter_primitive_ne type), hunwrap]
      rfl

/-- **A result comes back as it was**, boxed by `InvokeSpecial` and unboxed
by the stub in dex code. -/
theorem castResult_boxed {returnType : Option TypeDescriptor} {result : Option Value}
    (h : result.map Value.type = returnType) :
    castResult returnType (result.bind Value.boxed) = callOutcome (.ok result) := by
  subst h
  rcases result with _ | o | ⟨type, value⟩
  · rfl
  · rfl
  · simp [Value.type, Value.boxed, castResult, callOutcome]

theorem convertible_boxed {returnType : Option TypeDescriptor} {result : Option Value}
    (h : result.map Value.type = returnType) :
    Convertible returnType (result.bind Value.boxed) := by
  subst h
  rcases result with _ | o | ⟨type, value⟩
  · trivial
  · trivial
  · exact ⟨value, rfl⟩

/-! ## Packing and unpacking -/

theorem unpack_delivery (callback : HookerCallback) (call : Call shorty) :
    callback.unpack call.isStatic (call.delivery callback) =
      some (call.receiver, call.args.map Value.boxed) := by
  rcases callback with hooker | hooker | data
  · rcases hreceiver : call.receiver with _ | o
    · rcases hargs : call.args.map Value.boxed with _ | ⟨arg, args⟩ <;>
        simp [Call.delivery, Call.isStatic, hreceiver, hargs, HookerCallback.unpack]
    · simp [Call.delivery, Call.isStatic, hreceiver, HookerCallback.unpack]
  · rfl
  · rfl

/-- What is taken out of an array of the native stub has its last element
too. -/
theorem unpack_nativeDelivery (callback : HookerCallback) (call : Call shorty) :
    callback.unpack call.isStatic (call.nativeDelivery callback) =
      some (call.receiver, call.args.map Value.boxed ++
        if call.isStatic ∧ callback.shouldPackReceiverAndArgs then [none] else []) := by
  by_cases hpacked : call.isStatic ∧ callback.shouldPackReceiverAndArgs
  · rw [if_pos hpacked]
    rcases callback with hooker | hooker | data
    · have hreceiver : call.receiver = none := by
        simpa [Call.isStatic] using hpacked.1
      rcases hargs : call.args.map Value.boxed with _ | ⟨arg, args⟩ <;>
        simp [Call.nativeDelivery, Call.nativeHookParams, Call.hookParams, Call.isStatic,
          hreceiver, hargs, HookerCallback.unpack]
    · exact absurd hpacked.2 Bool.false_ne_true
    · exact absurd hpacked.2 Bool.false_ne_true
  · rw [if_neg hpacked, List.append_nil,
      (nativeDelivery_eq_delivery_iff call callback).2 hpacked, unpack_delivery]

/-! ## The call of the backup -/

section Backup

variable {className : ℕ → String} {jni : JniCalls} {backup : SpecialCall}

/-- The check of the receiver does not fire, and there is no object to be
allocated. -/
theorem invokeSpecial_on (h : backup.BacksUp call) (args : List (Option Obj)) :
    invokeSpecial number className jni (backup.on call.receiver args) =
      invokeOn number jni (backup.on call.receiver args) call.receiver := by
  have hcheck : ((backup.on call.receiver args).declaringClass.filter fun declaringClass =>
      (backup.on call.receiver args).clazz ≠ declaringClass ∧
        (backup.on call.receiver args).isAssignableFrom (backup.on call.receiver args).clazz
          declaringClass = false) = none := by
    rw [Option.filter_eq_none_iff]
    intro c hc hfires
    exact (of_decide_eq_true hfires).1 (clazz_of_declaringClass hc)
  have hexecutable : (backup.on call.receiver args).hasExecutable = true := h.hasExecutable
  have hmethod : (backup.on call.receiver args).hasArtMethod = true := h.hasArtMethod
  have hreceiver : (backup.on call.receiver args).receiver = call.receiver := rfl
  unfold invokeSpecial
  simp only [hexecutable, hmethod, Bool.not_true, Bool.false_eq_true, if_false, hcheck, hreceiver]
  rcases hnone : call.receiver with _ | o
  · have hconstructor : (backup.on none args).isConstructor = false := h.isConstructor hnone
    have hstatic : (backup.on none args).isStatic = true := by
      refine h.isStatic.trans ?_
      simp [Call.isStatic, hnone]
    simp only [hconstructor, hstatic, Bool.not_true, Bool.false_eq_true, if_false]
  · rfl

theorem length_shorty_on (h : backup.BacksUp call) (args : List (Option Obj)) :
    (backup.on call.receiver args).shorty.length - 1 = call.args.length := by
  have hshorty : (backup.on call.receiver args).shorty = backup.shorty := rfl
  rw [hshorty, h.shorty, call.length_args, Signature.shorty, List.length_cons, List.length_map,
    Nat.add_sub_cancel]

/-- **The backup is called with the arguments of the call.** -/
theorem invokeSpecial_boxed (h : backup.BacksUp call) :
    invokeSpecial number className jni (backup.on call.receiver (call.args.map Value.boxed)) =
      .ok (match jni call.receiver backup.kind shorty.returnType call.args with
        | .error e => .unexpected e
        | .ok result => .returned (result.bind Value.boxed)) := by
  have hcount := length_shorty_on h (call.args.map Value.boxed)
  have hvalues := unwrapArguments_boxed number call.args
  rw [call.typed] at hvalues
  have hargs : (backup.on call.receiver (call.args.map Value.boxed)).args.getD [] =
      call.args.map Value.boxed := rfl
  have hshorty : (backup.on call.receiver (call.args.map Value.boxed)).shorty =
      returnLetter shorty.returnType :: shorty.parameters.map letter := h.shorty
  have hkind : (backup.on call.receiver (call.args.map Value.boxed)).kind = backup.kind := rfl
  rw [invokeSpecial_on h, invokeOn, hcount, hargs, List.length_map, if_neg (by simp), hshorty]
  simp only [hvalues, hkind, callMethodA, callTable_returnLetter, bind, Except.bind]
  rcases jni call.receiver backup.kind shorty.returnType call.args with e | result <;> rfl

/-- **With any other number of arguments it is not called.** -/
theorem invokeSpecial_refused (h : backup.BacksUp call) {args : List (Option Obj)}
    (hlength : args.length ≠ call.args.length) :
    invokeSpecial number className jni (backup.on call.receiver args) =
      .ok (.refused (.illegalArgument ("Wrong number of arguments; expected " ++
        toString call.args.length ++ ", got " ++ toString args.length))) := by
  have hargs : (backup.on call.receiver args).args.getD [] = args := rfl
  rw [invokeSpecial_on h, invokeOn, length_shorty_on h, hargs, if_pos hlength]

/-! ## The hooked target -/

variable (callback : HookerCallback) (raised : Refusal → Throwable)
  (otherwise : List Argument → Completion)

/-- How the callback completes where it takes the arguments out of what it
is passed. -/
theorem passThrough_boxed (h : backup.BacksUp call) {arguments : List Argument}
    (hunpack : callback.unpack call.isStatic arguments =
      some (call.receiver, call.args.map Value.boxed)) :
    passThrough number className jni raised otherwise callback backup arguments =
      match jni call.receiver backup.kind shorty.returnType call.args with
        | .error e => .thrown e
        | .ok result => .returned (result.bind Value.boxed) := by
  rw [passThrough, h.isStatic, hunpack]
  simp only [invokeSpecial_boxed h]
  rcases jni call.receiver backup.kind shorty.returnType call.args with e | result <;> rfl

/-- **A target hooked in dex code with a callback that passes its calls on**
is called once, with its receiver, its arguments and its return type, and
ends as the backup does. -/
theorem callHookMethod_passThrough (hjni : jni.Typed) (h : backup.BacksUp call) :
    callHookMethod callback
        (passThrough number className jni raised otherwise callback backup) call =
      some ⟨[call.delivery callback],
        callOutcome (jni call.receiver backup.kind shorty.returnType call.args)⟩ := by
  rw [callHookMethod_eq, passThrough_boxed callback raised otherwise h
    (unpack_delivery callback call)]
  rcases hresult : jni call.receiver backup.kind shorty.returnType call.args with e | result
  · rfl
  · rw [stubOutcome, castResult_boxed (hjni _ _ _ _ _ hresult)]

/-- The backup of a static method of the shorty `intOfInt`. -/
def intBackup : SpecialCall where
  hasExecutable := true
  hasArtMethod := true
  isStatic := true
  isConstructor := false
  methodClass := 1
  declaringClass := none
  isAssignableFrom sub sup := sub == sup
  receiver := none
  receiverClass := 0
  allocObject _ := none
  shorty := ['I', 'I']
  args := none

theorem intBackup_backsUp : intBackup.BacksUp staticIntCall :=
  ⟨rfl, rfl, rfl, fun _ => rfl, rfl⟩

/-- A method that returns its first argument of its return type. -/
def returnArgument : JniCalls := fun _ _ type values =>
  .ok (type.map fun t => (values.find? (·.type = t)).getD (.zero t))

theorem returnArgument_typed : returnArgument.Typed := by
  intro receiver kind type values result h
  obtain rfl := Except.ok.inj h
  rcases type with _ | t
  · rfl
  rw [Option.map_some, Option.map_some]
  rcases hfind : values.find? (·.type = t) with _ | value
  · rw [hfind, Option.getD_none]
    rcases t with _ | t <;> rfl
  · rw [hfind, Option.getD_some]
    simpa using List.find?_some hfind

/-- The target returns the 7 it is called with. -/
theorem callHookMethod_passThrough_int :
    callHookMethod (.packed (.other 0)) (passThrough integralNumbers (fun _ => "") returnArgument
        (fun _ => .raised (.other 1)) (fun _ => .returned none) (.packed (.other 0)) intBackup)
        staticIntCall =
      some ⟨[[.object (some (.other 0)), .array [some (.box .int 7)]]],
        .returned (.primitive .int 7)⟩ := by
  rw [callHookMethod_passThrough (.packed (.other 0)) _ _ returnArgument_typed intBackup_backsUp]
  decide

/-- **And so is a fast native target**, but for a packed call of a static
one: that is refused, and the backup is not called. -/
theorem callNativeHook_passThrough (hjni : jni.Typed) (h : backup.BacksUp call)
    (hchar : shorty.returnType ≠ some (.primitive .char)) :
    callNativeHook number callback
        (passThrough number className jni raised otherwise callback backup) call =
      some ⟨[call.nativeDelivery callback],
        if call.isStatic ∧ callback.shouldPackReceiverAndArgs then
          .thrown (raised (.illegalArgument ("Wrong number of arguments; expected " ++
            toString call.args.length ++ ", got " ++ toString (call.args.length + 1))))
        else callOutcome (jni call.receiver backup.kind shorty.returnType call.args)⟩ := by
  rw [callNativeHook_eq _ _ _ _ hchar]
  have hunpack := unpack_nativeDelivery callback call
  by_cases hpacked : call.isStatic ∧ callback.shouldPackReceiverAndArgs
  · -- the null after the arguments is one argument more
    rw [if_pos hpacked] at hunpack ⊢
    have hlength : (call.args.map Value.boxed ++ [none]).length = call.args.length + 1 := by
      simp
    have hne : (call.args.map Value.boxed ++ [none]).length ≠ call.args.length := by omega
    have hrefused : invokeSpecial number className jni
        (backup.on call.receiver (call.args.map Value.boxed ++ [none])) = _ :=
      invokeSpecial_refused h hne
    rw [passThrough, h.isStatic, hunpack]
    simp only [hrefused, hlength, Invocation.completion, unwrapCompletion, NativeResult.read]
  · rw [if_neg hpacked] at hunpack ⊢
    rw [List.append_nil] at hunpack
    rw [passThrough_boxed callback raised otherwise h hunpack]
    rcases hresult : jni call.receiver backup.kind shorty.returnType call.args with e | result
    · rfl
    · have htyped := hjni _ _ _ _ _ hresult
      rw [unwrapCompletion, ← castResult_eq_read number (convertible_boxed htyped),
        castResult_boxed htyped]

/-- As a fast native with packed arguments the target throws what the
refusal is thrown as. -/
theorem callNativeHook_passThrough_int :
    (callNativeHook integralNumbers (.packed (.other 0)) (passThrough integralNumbers (fun _ => "")
        returnArgument (fun _ => .raised (.other 1)) (fun _ => .returned none)
        (.packed (.other 0)) intBackup) staticIntCall).map Execution.outcome =
      some (.thrown (.raised (.other 1))) := by
  rw [callNativeHook_passThrough (.packed (.other 0)) _ _ returnArgument_typed intBackup_backsUp
    (by decide)]
  decide

end Backup

end LSPlant
