import LSPlant.Dex.NativeEntry
/-!
# The two hook stubs compared

A target is called through the native stub if it is a fast native and
through the stub in dex code otherwise. Both make one call of the
callback. It is the promised one in both, a packed call of a static
target apart: there the native stub passes one element too many. What
comes back is converted alike if it is of the return type's own box
class, and not otherwise.
-/

namespace LSPlant

open Dalvik

variable {shorty : Shorty}

/-! ## The call -/

theorem nativeDelivery_eq_delivery_iff (call : Call shorty) (callback : HookerCallback) :
    call.nativeDelivery callback = call.delivery callback ↔
      ¬ (call.isStatic ∧ callback.shouldPackReceiverAndArgs) := by
  cases callback with
  | packed hooker =>
    simp only [Call.nativeDelivery, Call.delivery, Call.nativeHookParams, Call.hookParams,
      HookerCallback.shouldPackReceiverAndArgs, if_true, Bool.true_and]
    cases call.isStatic <;> simp
  | unpacked hooker => simp [Call.nativeDelivery, HookerCallback.shouldPackReceiverAndArgs]
  | native data => simp [Call.nativeDelivery, HookerCallback.shouldPackReceiverAndArgs]

/-- **The stubs deliver the promised call** if and only if it is not a
packed call of a static target. -/
theorem delivered_alike_iff (number : NumberMethods) (callback : HookerCallback)
    (callee : List Argument → Completion) (call : Call shorty) :
    ((callHookMethod callback callee call).map Execution.calls = some [call.delivery callback] ∧
        (vNativeHookerEntry number callee
          (some (nativeHookerData shorty call.isStatic callback)) call.values).1 =
            [call.delivery callback]) ↔
      ¬ (call.isStatic ∧ callback.shouldPackReceiverAndArgs) := by
  rw [callHookMethod_eq, vNativeHookerEntry_eq, ← nativeDelivery_eq_delivery_iff]
  simp

/-- The value methods of the integral boxes, the others left at zero. -/
def integralNumbers : NumberMethods where
  value p o := match o.unbox p, o with
    | some value, _ => .ok value
    | none, .box .byte value => .ok (value.signExtend p.width)
    | none, .box .short value => .ok (value.signExtend p.width)
    | none, .box .int value => .ok (value.signExtend p.width)
    | none, .box .long value => .ok (value.signExtend p.width)
    | none, _ => .ok 0
  value_box p v _ := by simp

def intOfInt : Shorty := ⟨some (.primitive .int), [.primitive .int], by decide⟩

/-- A static method of the shorty, called with 7. -/
def staticIntCall : Call intOfInt where
  receiver := none
  args := [.primitive .int 7]
  typed := rfl

/-- The array the native stub passes has a null after the argument. -/
theorem packed_static_call_differs :
    (callHookMethod (.packed (.other 0)) (fun _ => .returned none) staticIntCall).map
        Execution.calls ≠
      some (vNativeHookerEntry integralNumbers (fun _ => .returned none)
        (some (nativeHookerData intOfInt staticIntCall.isStatic (.packed (.other 0))))
        staticIntCall.values).1 := by
  rw [callHookMethod_eq, vNativeHookerEntry_eq]
  decide

/-! ## The result -/

/-- The native stub's value methods, where they find the method. -/
theorem valueMethodOnNumber_eq (type : Primitive) : valueMethodOnNumber type = type.isNumeric := by
  cases type <;> rfl

/-- A box of the return type comes back as its value. -/
theorem unwrap_box (number : NumberMethods) (type : Primitive) (value : BitVec type.width) :
    unwrap number type (.box type value) = .stored (some (.primitive type value)) := by
  rw [unwrap, valueMethodOnNumber_eq]
  cases h : type.isNumeric with
  | true => simp [Obj.isNumber, h, number.value_box type value h]
  | false => simp

/-- What the value method gives for an object that is no box of the type. -/
def valueMethodOutcome (number : NumberMethods) (type : Primitive) (o : Obj) : Outcome :=
  if valueMethodOnNumber type ∧ o.isNumber then match number.value type o with
    | .ok value => .returned (.primitive type value)
    | .error e => .thrown e
  else .undefined

theorem read_unwrap_other (number : NumberMethods) {type : Primitive} {o : Obj}
    (ho : o.unbox type = none) :
    (unwrap number type o).read (some (.primitive type)) = valueMethodOutcome number type o := by
  rw [unwrap, valueMethodOutcome]
  cases valueMethodOnNumber type with
  | true =>
    cases o.isNumber with
    | true => cases number.value type o <;> simp [NativeResult.read, Value.type]
    | false => simp [NativeResult.read]
  | false => simp [ho, NativeResult.read]

/-- **The results both stubs convert**: any where the target returns an
object or nothing, and otherwise a box of the return type. -/
def Convertible : Option TypeDescriptor → Option Obj → Prop
  | some (.primitive type), o => ∃ value, o = some (.box type value)
  | some .object, _ => True
  | none, _ => True

theorem castResult_eq_read {returnType : Option TypeDescriptor} {o : Option Obj}
    (number : NumberMethods) (h : Convertible returnType o) :
    castResult returnType o = (unwrapResult number returnType o).read returnType := by
  match returnType, h with
  | none, _ => rfl
  | some .object, _ => rfl
  | some (.primitive type), ⟨value, ho⟩ =>
    rw [ho, unwrapResult, unwrap_box]
    simp [castResult, NativeResult.read, Value.type]

/-- **What becomes of the callback's completion** in the two stubs. They
end alike where it throws or its result is `Convertible`. Null for a
primitive is an exception in dex code and zero in the native stub, an
object of another class an exception in dex code and what its value
method gives in the native stub. -/
theorem results_alike (number : NumberMethods) (callback : HookerCallback)
    (completion : Completion) (call : Call shorty)
    (hchar : shorty.returnType ≠ some (.primitive .char)) :
    ∃ stub entry, callHookMethod callback (fun _ => completion) call = some stub ∧
      callNativeHook number callback (fun _ => completion) call = some entry ∧
      (∀ e, completion = .thrown e → stub.outcome = .thrown e ∧ entry.outcome = .thrown e) ∧
      (∀ o, completion = .returned o → Convertible shorty.returnType o →
        stub.outcome = entry.outcome) ∧
      (∀ type, completion = .returned none → shorty.returnType = some (.primitive type) →
        stub.outcome = .thrown .nullPointerException ∧
          entry.outcome = .returned (.zero (.primitive type))) ∧
      ∀ type o, completion = .returned (some o) → shorty.returnType = some (.primitive type) →
        o.unbox type = none →
          stub.outcome = .thrown .classCastException ∧
            entry.outcome = valueMethodOutcome number type o := by
  refine ⟨_, _, callHookMethod_eq callback _ call, callNativeHook_eq number callback _ call hchar,
    ?_, ?_, ?_, ?_⟩
  · rintro e rfl
    exact ⟨rfl, rfl⟩
  · rintro o rfl hconvertible
    exact castResult_eq_read number hconvertible
  · rintro type rfl htype
    simp [htype, stubOutcome, castResult, unwrapCompletion, unwrapResult, NativeResult.read]
  · rintro type o rfl htype ho
    simp only [htype, stubOutcome, castResult, unwrapCompletion, unwrapResult, ho, true_and]
    exact read_unwrap_other number ho

/-- A callback that returns null to an `int` method. -/
theorem null_result_differs :
    (callHookMethod (.unpacked (.other 0)) (fun _ => .returned none) staticIntCall).map
        Execution.outcome ≠
      (callNativeHook integralNumbers (.unpacked (.other 0)) (fun _ => .returned none)
        staticIntCall).map Execution.outcome := by
  rw [callHookMethod_eq, callNativeHook_eq _ _ _ _ (by decide)]
  decide

/-- A callback that returns a `Long` to an `int` method. -/
theorem results_alike_int :
    ∃ stub entry,
      callHookMethod (.unpacked (.other 0)) (fun _ => .returned (some (.box .long 5)))
        staticIntCall = some stub ∧
      callNativeHook integralNumbers (.unpacked (.other 0))
        (fun _ => .returned (some (.box .long 5))) staticIntCall = some entry ∧
      stub.outcome = .thrown .classCastException ∧
      entry.outcome = .returned (.primitive .int 5) := by
  obtain ⟨stub, entry, hstub, hentry, -, -, -, hother⟩ :=
    results_alike integralNumbers (.unpacked (.other 0)) (.returned (some (.box .long 5)))
      staticIntCall (by decide)
  have houtcomes := hother .int (.box .long 5) rfl rfl (by decide)
  exact ⟨stub, entry, hstub, hentry, houtcomes.1, houtcomes.2.trans (by decide)⟩

end LSPlant
