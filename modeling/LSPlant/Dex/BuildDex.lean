import LSPlant.Library.Dalvik
/-!
# The hook stub in dex code

`BuildDex` generates, for a target that is no fast native, a static
method with the target's parameters. It puts them in an array, boxing
the primitive ones, hands the array to the callback and converts what
comes back to the target's return type. The packing loop is proved to
store each parameter at its own index and to read it before its
registers are written to; `callHookMethod_eq` is what the stub does as a
whole.
-/

namespace LSPlant

open Dalvik

/-- **A shorty**: the return type, none for void, and the parameters.
Parameters are counted in a `jint`. -/
structure Shorty where
  returnType : Option TypeDescriptor
  parameters : List TypeDescriptor
  length_lt : parameters.length + 1 < 2 ^ 31

/-- The characters of it. -/
def Shorty.size (shorty : Shorty) : ℕ := shorty.parameters.length + 1

/-- **Where a hooked call is delivered**: a method of the hooker with one
parameter or with two, or a native function that is passed the data. -/
inductive HookerCallback where
  | packed (hooker : Obj)
  | unpacked (hooker : Obj)
  | native (data : Option Obj)

namespace HookerCallback

def shouldPackReceiverAndArgs : HookerCallback → Bool
  | packed _ => true
  | _ => false

def isNativeApi : HookerCallback → Bool
  | native _ => true
  | _ => false

/-- What `DoHook` puts into the static field of the stub. -/
def hookerField : HookerCallback → Option Obj
  | packed hooker | unpacked hooker => some hooker
  | native data => data

end HookerCallback

/-- **A call of a target** of the shorty. A static target has no
receiver. -/
structure Call (shorty : Shorty) where
  receiver : Option Obj
  args : List Value
  typed : args.map Value.type = shorty.parameters

namespace Call

variable {shorty : Shorty} (call : Call shorty)

def isStatic : Bool := call.receiver.isNone

/-- The receiver and the arguments, as they are passed. -/
def values : List Value := call.receiver.toList.map (fun o => .object (some o)) ++ call.args

/-- **The call a callback is promised**: its array has the receiver first
if it has no parameter for it, with no placeholder where there is none,
and the boxed arguments in order. -/
def delivery : HookerCallback → List Argument
  | .packed hooker =>
    [.object hooker, .array (call.receiver.toList.map some ++ call.args.map Value.boxed)]
  | .unpacked hooker =>
    [.object hooker, .object call.receiver, .array (call.args.map Value.boxed)]
  | .native data =>
    [.object call.receiver, .array (call.args.map Value.boxed), .object data]

end Call

/-! ## The generated code -/

def tmp : Register := .temp 0

def hookParamsArray : Register := .temp 1

/-- The receiver counts as a parameter here: the stub is static. -/
def parameterTypes (shorty : Shorty) (isStatic : Bool) : List TypeDescriptor :=
  (if isStatic then [] else [.object]) ++ shorty.parameters

def buildBoxIfPrimitive (dest : Register) : TypeDescriptor → Register → List Instruction
  | .object, _ => []
  | .primitive type, src => [.valueOf type dest src]

/-- The loop over the parameters from `i` on, the first of them in word
`j`. The receiver is left out where it is not `first`. -/
def storeParameters (first : ℕ) : List TypeDescriptor → ℕ → ℕ → List Instruction
  | [], _, _ => []
  | type :: types, i, j =>
    buildBoxIfPrimitive (.parameter j) type (.parameter j) ++
      [.const tmp (i - first), .aputObject hookParamsArray (.parameter j) tmp] ++
      storeParameters first types (i + 1) (if type.isWide then j + 2 else j + 1)

/-- The call of a callback that has a parameter for the receiver. -/
def handleHook (isNativeApi : Bool) (receiver : Register) : Instruction :=
  if isNativeApi then .invoke tmp true [receiver, hookParamsArray, tmp]
  else .invoke tmp false [tmp, receiver, hookParamsArray]

/-- The call of the callback. The null receiver of a static target takes
the place of its first parameter, if there is one. -/
def buildInvoke (shorty : Shorty) (isStatic isNativeApi shouldPack : Bool) : List Instruction :=
  if shouldPack then [.invoke tmp false [tmp, hookParamsArray]]
  else if isStatic then
    let zero : Register := if shorty.size = 1 then .temp 2 else .parameter 0
    [.const zero 0, handleHook isNativeApi zero]
  else [handleHook isNativeApi (.parameter 0)]

def buildReturn : Option TypeDescriptor → List Instruction
  | none => [.returnVoid]
  | some (.primitive type) =>
    [.checkCast type tmp, .primitiveValue type tmp tmp, .returnPrimitive type tmp]
  | some .object => [.returnObject tmp]

/-- **The code of the hook stub.** -/
def buildHookMethod (shorty : Shorty) (isStatic isNativeApi shouldPack : Bool) :
    List Instruction :=
  let parameter_types := parameterTypes shorty isStatic
  let first := if shouldPack || isStatic then 0 else 1
  [.const tmp (if shouldPack then parameter_types.length else shorty.size - 1),
      .newArray hookParamsArray tmp] ++
    storeParameters first (parameter_types.drop first) first first ++
    (.sgetObject tmp :: buildInvoke shorty isStatic isNativeApi shouldPack ++
      buildReturn shorty.returnType)

/-- A call of a target hooked with the stub. -/
def callHookMethod {shorty : Shorty} (callback : HookerCallback)
    (callee : List Argument → Completion) (call : Call shorty) : Option Execution :=
  execute ⟨callback.hookerField, callee⟩ (.entry call.values)
    (buildHookMethod shorty call.isStatic callback.isNativeApi callback.shouldPackReceiverAndArgs)

/-! ## Packing -/

section Packing

variable {f : Frame} {env : Environment}

theorem run_buildBoxIfPrimitive {r : Register} {value : Value} (h : f.HoldsValue r value) :
    run env f (buildBoxIfPrimitive r value.type r) = .ok (f.set r (.ofObject value.boxed)) := by
  cases value with
  | object o =>
    have hr : f.registers r = .ofObject o := Frame.holdsValue_object.1 h
    rw [Value.boxed, ← hr, Frame.set_registers_eq]
    rfl
  | primitive type value =>
    exact run_cons_of_ok (step_valueOf h)

/-- The word the next parameter starts in. -/
theorem next_word (type : TypeDescriptor) (j : ℕ) :
    (if type.isWide then j + 2 else j + 1) = j + type.words := by
  unfold TypeDescriptor.words
  split <;> rfl

/-- What the loop has done between two frames: the array holds the
elements, and of the parameter registers only those from word `j` on were
written to. -/
structure Stored (f f' : Frame) (elements : List (Option Obj)) (j : ℕ) : Prop where
  array : f'.registers hookParamsArray = .array 0
  arrays : f'.arrays = [elements]
  calls : f'.calls = f.calls
  parameter : ∀ n < j, f'.registers (.parameter n) = f.registers (.parameter n)

/-- **One turn of the loop**: the parameter is stored, and of the
parameter registers only its own first one is written to. -/
theorem run_storeParameter (env : Environment) {value : Value} {j n : ℕ}
    {elements : List (Option Obj)}
    (hvalue : f.HoldsValue (.parameter j) value)
    (harray : f.registers hookParamsArray = .array 0) (harrays : f.arrays = [elements])
    (hn : n < elements.length) (hlength : elements.length < 2 ^ 31) :
    ∃ f', run env f (buildBoxIfPrimitive (.parameter j) value.type (.parameter j) ++
        [.const tmp n, .aputObject hookParamsArray (.parameter j) tmp]) = .ok f' ∧
      Stored f f' (elements.set n value.boxed) j ∧
      ∀ m, j < m → f'.registers (.parameter m) = f.registers (.parameter m) := by
  let f₁ := f.set (.parameter j) (.ofObject value.boxed)
  let f₂ := f₁.set tmp (.word (BitVec.ofNat 32 n))
  have harray₂ : f₂.registers hookParamsArray = .array 0 := by
    rw [Frame.set_registers_of_ne (by decide),
      Frame.set_registers_of_ne (by simp [hookParamsArray]), harray]
  have hvalue₂ : f₂.registers (.parameter j) = .ofObject value.boxed := by
    rw [Frame.set_registers_of_ne (by simp [tmp]), Frame.set_registers_self]
  have hput : step env f₂ (.aputObject hookParamsArray (.parameter j) tmp) =
      .ok { f₂ with arrays := f₂.arrays.set 0 (elements.set n value.boxed) } :=
    step_aputObject harray₂ hvalue₂ (Frame.set_registers_self _)
      (by simp [f₂, f₁, harrays]) hn hlength
  have hother : ∀ m, m ≠ j → f₂.registers (.parameter m) = f.registers (.parameter m) := by
    intro m hm
    rw [Frame.set_registers_of_ne (by simp [tmp]), Frame.set_registers_of_ne (by simp [hm])]
  refine ⟨{ f₂ with arrays := f₂.arrays.set 0 (elements.set n value.boxed) }, ?_,
    ⟨harray₂, ?_, rfl, fun m hm => hother m (by omega)⟩, fun m hm => hother m (by omega)⟩
  · rw [run_append_of_ok (run_buildBoxIfPrimitive hvalue), run_cons_of_ok step_const,
      run_cons_of_ok hput]
    rfl
  · simp [f₂, f₁, harrays]

/-- **The loop**: from an array that holds the elements already stored and
room for the rest, it stores the boxed rest. -/
theorem run_storeParameters (env : Environment) (stored : List (Option Obj))
    {values : List Value} {first j : ℕ} (hvalues : f.Holds j values)
    (harray : f.registers hookParamsArray = .array 0)
    (harrays : f.arrays = [stored ++ List.replicate values.length none])
    (hlength : stored.length + values.length < 2 ^ 31) :
    ∃ f', run env f
        (storeParameters first (values.map Value.type) (first + stored.length) j) = .ok f' ∧
      Stored f f' (stored ++ values.map Value.boxed) j := by
  induction values generalizing f j stored with
  -- each turn takes one element from the room for the rest to the stored ones
  | nil => exact ⟨f, rfl, harray, by simpa using harrays, rfl, fun _ _ => rfl⟩
  | cons value values ih =>
    obtain ⟨hvalue, hrest⟩ := hvalues
    simp only [List.length_cons] at hlength
    obtain ⟨f₁, hrun₁, hstored₁, hafter⟩ :=
      run_storeParameter env hvalue harray harrays (n := stored.length) (by simp) (by simp; omega)
    have hrest₁ : f₁.Holds (j + value.type.words) values := by
      refine hrest.congr fun n hn => hafter n ?_
      have : 0 < value.type.words := by unfold TypeDescriptor.words; split <;> decide
      omega
    have harrays₁ : f₁.arrays =
        [(stored ++ [value.boxed]) ++ List.replicate values.length none] := by
      rw [hstored₁.arrays]
      simp [List.replicate_succ]
    obtain ⟨f', hrun, hstored⟩ := ih _ hrest₁ hstored₁.array harrays₁ (by simp; omega)
    refine ⟨f', ?_, hstored.array, ?_, hstored.calls.trans hstored₁.calls, fun n hn => ?_⟩
    · have hsub : first + stored.length - first = stored.length := by omega
      simp only [List.map_cons, storeParameters, hsub, next_word]
      rw [run_append_of_ok hrun₁]
      simpa [Nat.add_assoc] using hrun
    · rw [hstored.arrays]
      simp
    · rw [hstored.parameter n (by omega), hstored₁.parameter n hn]

/-- The array is allocated empty. -/
theorem run_newHookParamsArray (env : Environment) {n : ℕ} (harrays : f.arrays = [])
    (hn : n < 2 ^ 31) (j : ℕ) :
    ∃ f', run env f [.const tmp n, .newArray hookParamsArray tmp] = .ok f' ∧
      Stored f f' (List.replicate n none) j ∧
      ∀ m, f'.registers (.parameter m) = f.registers (.parameter m) := by
  let f₁ := f.set tmp (.word (BitVec.ofNat 32 n))
  have hparameter : ∀ slot m,
      (f₁.set hookParamsArray slot).registers (.parameter m) = f.registers (.parameter m) := by
    intro slot m
    rw [Frame.set_registers_of_ne (by simp [hookParamsArray]),
      Frame.set_registers_of_ne (by simp [tmp])]
  refine ⟨_, (run_cons_of_ok step_const).trans
    (run_cons_of_ok (step_newArray (Frame.set_registers_self _) hn)), ⟨?_, ?_, rfl, ?_⟩, ?_⟩
  · simp [harrays]
  · simp [harrays]
  · exact fun m _ => hparameter _ m
  · exact fun m => hparameter _ m

/-- **The array is allocated and filled.** -/
theorem run_packParameters (env : Environment) {values : List Value} {first : ℕ}
    (hvalues : f.Holds first values) (harrays : f.arrays = []) (hlength : values.length < 2 ^ 31) :
    ∃ f', run env f ([.const tmp values.length, .newArray hookParamsArray tmp] ++
        storeParameters first (values.map Value.type) first first) = .ok f' ∧
      Stored f f' (values.map Value.boxed) first := by
  obtain ⟨f₁, hrun₁, hstored₁, hparameter⟩ := run_newHookParamsArray env harrays hlength first
  obtain ⟨f', hrun, hstored⟩ := run_storeParameters env [] (hvalues.congr fun n _ => hparameter n)
    hstored₁.array hstored₁.arrays (by simpa using hlength)
  refine ⟨f', ?_, hstored.array, hstored.arrays, hstored.calls.trans hstored₁.calls, ?_⟩
  · rw [run_append_of_ok hrun₁]
    exact hrun
  · intro n hn
    rw [hstored.parameter n hn, hparameter n]

end Packing

/-! ## The stub as a whole -/

/-- **What the stub makes of a result**: a cast to the box type of the
return type, and the call that unboxes it. -/
def castResult : Option TypeDescriptor → Option Obj → Outcome
  | none, _ => .void
  | some .object, o => .returned (.object o)
  | some (.primitive _), none => .thrown .nullPointerException
  | some (.primitive type), some o => match o.unbox type with
    | some value => .returned (.primitive type value)
    | none => .thrown .classCastException

/-- How the stub ends where the callback completes so. -/
def stubOutcome (returnType : Option TypeDescriptor) : Completion → Outcome
  | .returned o => castResult returnType o
  | .thrown e => .thrown e

section Stub

variable {f : Frame} {env : Environment} {returnType : Option TypeDescriptor}

theorem execute_buildReturn {o : Option Obj} (h : f.registers tmp = .ofObject o) :
    execute env f (buildReturn returnType) = some ⟨f.calls, castResult returnType o⟩ := by
  match returnType, o with
  | none, _ => exact execute_returnVoid
  | some .object, o => exact execute_returnObject h
  | some (.primitive type), none => exact execute_unbox_null h
  | some (.primitive type), some o =>
    cases hvalue : o.unbox type with
    | some value => rw [buildReturn, execute_unbox h hvalue]; simp [castResult, hvalue]
    | none => rw [buildReturn, execute_checkCast_other h hvalue]; simp [castResult, hvalue]

/-- The call of the callback and what follows it. -/
theorem execute_invoke_buildReturn {isStatic : Bool} {args : List Register}
    {arguments : List Argument} (hcalls : f.calls = [])
    (hargs : args.mapM f.argument = some arguments)
    (hreceiver : isStatic ∨ arguments.head? ≠ some (.object none)) :
    execute env f (.invoke tmp isStatic args :: buildReturn returnType) =
      some ⟨[arguments], stubOutcome returnType (env.callee arguments)⟩ := by
  have hstep := step_invoke env tmp hargs hreceiver
  cases hcallee : env.callee arguments with
  | returned o =>
    rw [hcallee] at hstep
    rw [execute_cons_of_ok hstep, execute_buildReturn (Frame.set_registers_self _)]
    simp [hcalls, stubOutcome]
  | thrown e =>
    rw [hcallee] at hstep
    rw [execute_cons_of_finished hstep]
    simp [hcalls, stubOutcome]

/-- A callback with a parameter for the receiver is called with what the
registers hold. -/
theorem execute_handleHook {isNativeApi : Bool} {r : Register} {field receiver : Option Obj}
    {elements : List (Option Obj)} (hcalls : f.calls = []) (harrays : f.arrays = [elements])
    (harray : f.registers hookParamsArray = .array 0) (htmp : f.registers tmp = .ofObject field)
    (hr : f.registers r = .ofObject receiver) (hfield : isNativeApi ∨ field ≠ none) :
    execute env f (handleHook isNativeApi r :: buildReturn returnType) =
      let arguments : List Argument :=
        if isNativeApi then [.object receiver, .array elements, .object field]
        else [.object field, .object receiver, .array elements]
      some ⟨[arguments], stubOutcome returnType (env.callee arguments)⟩ := by
  have hargument : f.argument hookParamsArray = some (.array elements) :=
    Frame.argument_of_array harray (by simp [harrays])
  have htmp := Frame.argument_of_registers htmp
  have hr := Frame.argument_of_registers hr
  cases isNativeApi with
  | true =>
    exact execute_invoke_buildReturn hcalls (by simp [hargument, htmp, hr]) (.inl rfl)
  | false =>
    refine execute_invoke_buildReturn hcalls (by simp [hargument, htmp, hr]) (.inr ?_)
    simpa using hfield

variable {shorty : Shorty} {call : Call shorty}

/-- The array a stub passes. -/
def Call.hookParams (call : Call shorty) (shouldPack : Bool) : List (Option Obj) :=
  (if shouldPack then call.receiver.toList.map some else []) ++ call.args.map Value.boxed

theorem Call.length_args (call : Call shorty) : call.args.length = shorty.parameters.length := by
  rw [← call.typed, List.length_map]

theorem Call.length_values (call : Call shorty) :
    call.values.length = (parameterTypes shorty call.isStatic).length := by
  cases h : call.receiver <;>
    simp [Call.values, Call.isStatic, parameterTypes, h, call.length_args]

theorem Call.map_type_values (call : Call shorty) :
    call.values.map Value.type = parameterTypes shorty call.isStatic := by
  cases h : call.receiver <;>
    simp [Call.values, Call.isStatic, parameterTypes, h, call.typed, Value.type]

/-- **The stub's array is the promised one**, and the receiver is still in
its register. -/
theorem run_hookParams (env : Environment) (call : Call shorty) (shouldPack : Bool) :
    let first := if shouldPack || call.isStatic then 0 else 1
    ∃ f', run env (.entry call.values)
        ([.const tmp (if shouldPack then (parameterTypes shorty call.isStatic).length
            else shorty.size - 1), .newArray hookParamsArray tmp] ++
          storeParameters first ((parameterTypes shorty call.isStatic).drop first) first first) =
        .ok f' ∧
      Stored (.entry call.values) f' (call.hookParams shouldPack) first := by
  have hlength : call.args.length + 1 < 2 ^ 31 := by
    rw [call.length_args]; exact shorty.length_lt
  have hholds := Frame.holds_entry call.values
  have hempty : (Frame.entry call.values).arrays = [] := rfl
  cases shouldPack with
  | true =>
    have hvalues : call.values.length < 2 ^ 31 := by
      simp only [Call.values, List.length_append, List.length_map]
      have := call.receiver.length_toList_le
      omega
    obtain ⟨f', hrun, hstored⟩ := run_packParameters env hholds hempty hvalues
    refine ⟨f', ?_, ?_⟩
    · simpa [call.length_values, call.map_type_values] using hrun
    · have hboxed : call.values.map Value.boxed = call.hookParams true := by
        simp [Call.values, Call.hookParams, Value.boxed, Function.comp_def]
      rw [← hboxed]
      exact hstored
  | false =>
    -- the receiver, if there is one, is word 0 and is left out of the array
    have hargs : (Frame.entry call.values).Holds (if call.isStatic then 0 else 1) call.args := by
      cases h : call.receiver with
      | none => simpa [Call.values, Call.isStatic, h] using hholds
      | some o =>
        have hvalues : call.values = .object (some o) :: call.args := by simp [Call.values, h]
        rw [hvalues] at hholds ⊢
        rw [Call.isStatic, h]
        exact hholds.2
    obtain ⟨f', hrun, hstored⟩ := run_packParameters env hargs hempty (by omega)
    have hdrop : (parameterTypes shorty call.isStatic).drop (if call.isStatic then 0 else 1) =
        shorty.parameters := by
      cases h : call.isStatic <;> simp [parameterTypes]
    refine ⟨f', ?_, ?_⟩
    · simpa [hdrop, Shorty.size, ← call.typed] using hrun
    · simpa [Call.hookParams] using hstored

/-- The call of a callback with a parameter for the receiver, the null
receiver of a static target included. -/
theorem execute_buildInvoke {isNativeApi : Bool} {field : Option Obj}
    {elements : List (Option Obj)} (hcalls : f.calls = []) (harrays : f.arrays = [elements])
    (harray : f.registers hookParamsArray = .array 0) (htmp : f.registers tmp = .ofObject field)
    (hreceiver : ∀ o, call.receiver = some o → f.registers (.parameter 0) = .ofObject (some o))
    (hfield : isNativeApi ∨ field ≠ none) :
    execute env f (buildInvoke shorty call.isStatic isNativeApi false ++ buildReturn returnType) =
      let arguments : List Argument :=
        if isNativeApi then [.object call.receiver, .array elements, .object field]
        else [.object field, .object call.receiver, .array elements]
      some ⟨[arguments], stubOutcome returnType (env.callee arguments)⟩ := by
  cases h : call.receiver with
  | none =>
    generalize hzero : (if shorty.size = 1 then Register.temp 2 else .parameter 0) = zero
    have hne : zero ≠ tmp ∧ zero ≠ hookParamsArray := by
      rw [← hzero]
      split <;> simp [tmp, hookParamsArray]
    simp only [buildInvoke, Call.isStatic, h, Option.isNone_none, if_true, Bool.false_eq_true,
      if_false, hzero, List.cons_append, List.nil_append]
    rw [execute_cons_of_ok step_const]
    exact execute_handleHook hcalls harrays
      (by rw [Frame.set_registers_of_ne hne.2.symm, harray])
      (by rw [Frame.set_registers_of_ne hne.1.symm, htmp]) (Frame.set_registers_self _) hfield
  | some o =>
    simp only [buildInvoke, Call.isStatic, h, Option.isNone_some, Bool.false_eq_true, if_false,
      List.cons_append, List.nil_append]
    exact execute_handleHook hcalls harrays harray htmp (hreceiver o h) hfield

/-- The receiver's register is not written to where the array leaves the
receiver out. -/
theorem receiver_of_stored {o : Obj} (h : call.receiver = some o)
    {elements : List (Option Obj)}
    (hstored : Stored (.entry call.values) f elements
      (if false || call.isStatic then 0 else 1)) :
    f.registers (.parameter 0) = .ofObject (some o) := by
  have hfirst : 0 < if false || call.isStatic then 0 else 1 := by simp [Call.isStatic, h]
  rw [hstored.parameter 0 hfirst]
  simp [Frame.entry, Call.values, h, Value.slots, Slot.ofObject]

/-- **The hook stub.** It makes the one promised call, and ends with what
it makes of the callback's completion. -/
theorem callHookMethod_eq (callback : HookerCallback) (callee : List Argument → Completion)
    (call : Call shorty) :
    callHookMethod callback callee call =
      some ⟨[call.delivery callback],
        stubOutcome shorty.returnType (callee (call.delivery callback))⟩ := by
  obtain ⟨f', hrun, hstored⟩ := run_hookParams ⟨callback.hookerField, callee⟩ call
    callback.shouldPackReceiverAndArgs
  let f₁ := f'.set tmp (.ofObject callback.hookerField)
  have hcalls : f₁.calls = [] := hstored.calls
  have harrays : f₁.arrays = [call.hookParams callback.shouldPackReceiverAndArgs] := hstored.arrays
  have harray : f₁.registers hookParamsArray = .array 0 := by
    rw [Frame.set_registers_of_ne (by decide), hstored.array]
  have htmp : f₁.registers tmp = .ofObject callback.hookerField := Frame.set_registers_self _
  rw [callHookMethod, buildHookMethod, execute_append_of_ok hrun,
    List.cons_append, execute_cons_of_ok (show step _ f' (.sgetObject tmp) = .ok f₁ from rfl)]
  cases callback with
  | packed hooker =>
    have hargument := Frame.argument_of_array harray (by rw [harrays]; rfl)
    have hargs : [tmp, hookParamsArray].mapM f₁.argument =
        some (call.delivery (.packed hooker)) := by
      simp [Frame.argument_of_registers htmp, hargument, Call.delivery, Call.hookParams,
        HookerCallback.shouldPackReceiverAndArgs, HookerCallback.hookerField]
    exact execute_invoke_buildReturn hcalls hargs (.inr (by simp [Call.delivery]))
  | unpacked hooker =>
    have hreceiver : ∀ o, call.receiver = some o →
        f₁.registers (.parameter 0) = .ofObject (some o) := fun o ho => by
      rw [Frame.set_registers_of_ne (by decide), receiver_of_stored ho hstored]
    exact execute_buildInvoke hcalls harrays harray htmp hreceiver
      (.inr (by simp))
  | native data =>
    have hreceiver : ∀ o, call.receiver = some o →
        f₁.registers (.parameter 0) = .ofObject (some o) := fun o ho => by
      rw [Frame.set_registers_of_ne (by decide), receiver_of_stored ho hstored]
    exact execute_buildInvoke hcalls harrays harray htmp hreceiver (.inl rfl)

end Stub

end LSPlant
