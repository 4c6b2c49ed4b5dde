import LSPlant.Dex.Signatures
import LSPlant.Dex.HookStubs
/-!
# The receiver check of InvokeSpecial

`InvokeSpecial` compares the declaring class it is given with `clazz`,
which it has just set to the declaring class. What it does up to the call
is given here as the call it asks of JNI, or what it throws instead.
-/

namespace LSPlant

open Dalvik

/-- **A call asked of JNI**: the receiver, the function by its kind and the
type in its name, and the arguments. -/
structure JniCall where
  receiver : Option Obj
  kind : CallKind
  type : Option TypeDescriptor
  values : List Value

variable (number : NumberMethods)

/-- What follows once there is a receiver: the count of the arguments, their
unwrapping, and the switch over the return letter. -/
def requestOn (call : SpecialCall) (receiver : Option Obj) : Except Halt (Refusal ⊕ JniCall) :=
  let parameter_count := call.shorty.length - 1
  let args := call.args.getD []
  if args.length ≠ parameter_count then
    .ok (.inl (.illegalArgument
      ("Wrong number of arguments; expected " ++ toString parameter_count ++ ", got " ++
        toString args.length)))
  else match call.shorty with
    | [] => .error .undefined
    | c :: cs => do
      let values ← unwrapArguments number cs args
      match callTable call.kind c with
      | none => .error .aborted
      | some type => return .inr ⟨receiver, call.kind, type, values⟩

/-- **`InvokeSpecial` up to the call.** -/
def invokeRequest (className : ℕ → String) (call : SpecialCall) :
    Except Halt (Refusal ⊕ JniCall) :=
  if !call.hasExecutable then .ok (.inl (.nullPointer "null method"))
  else if !call.hasArtMethod then .ok (.inl (.nullPointer "Executable.artMethod"))
  else
    let clazz := call.clazz
    match call.declaringClass.filter fun declaringClass =>
        clazz ≠ declaringClass ∧ call.isAssignableFrom clazz declaringClass = false with
    | some declaringClass => .ok (.inl (.illegalArgument
        (className declaringClass ++ " is not inherited from " ++ className clazz)))
    | none => match call.receiver with
      | some receiver => requestOn number call (some receiver)
      | none =>
        if call.isConstructor then
          requestOn number call (call.allocObject (call.declaringClass.getD clazz))
        else if !call.isStatic then .ok (.inl (.nullPointer "null receiver"))
        else requestOn number call none

/-- What comes of a request. -/
def invocationOf (jni : Option Obj → CallKind → Option TypeDescriptor → List Value →
      Except Throwable (Option Value)) : Refusal ⊕ JniCall → Invocation
  | .inl refusal => .refused refusal
  | .inr request => match jni request.receiver request.kind request.type request.values with
    | .error e => .unexpected e
    | .ok result => .returned (result.bind Value.boxed)

variable {number} {call : SpecialCall}

theorem invokeOn_eq_map (jni : Option Obj → CallKind → Option TypeDescriptor → List Value →
      Except Throwable (Option Value)) (receiver : Option Obj) :
    invokeOn number jni call receiver =
      (requestOn number call receiver).map (invocationOf jni) := by
  unfold invokeOn requestOn
  dsimp only
  split
  · rfl
  rcases call.shorty with _ | ⟨c, cs⟩
  · rfl
  dsimp only
  rcases unwrapArguments number cs (call.args.getD []) with halt | values
  · rfl
  · simp only [bind, Except.bind, callMethodA]
    rcases callTable call.kind c with _ | type
    · rfl
    · simp only [pure, Except.pure, Except.map, invocationOf]
      rcases jni receiver call.kind type values with e | result <;> rfl

/-- **`InvokeSpecial` is its request and what JNI makes of it.** -/
theorem invokeSpecial_eq_map (className : ℕ → String)
    (jni : Option Obj → CallKind → Option TypeDescriptor → List Value →
      Except Throwable (Option Value)) :
    invokeSpecial number className jni call =
      (invokeRequest number className call).map (invocationOf jni) := by
  unfold invokeSpecial invokeRequest
  split
  · rfl
  split
  · rfl
  dsimp only
  rcases call.declaringClass.filter fun declaringClass => call.clazz ≠ declaringClass ∧
    call.isAssignableFrom call.clazz declaringClass = false with _ | declaringClass
  · rcases call.receiver with _ | receiver
    · dsimp only
      split
      · exact invokeOn_eq_map jni _
      split
      · rfl
      · exact invokeOn_eq_map jni _
    · exact invokeOn_eq_map jni _
  · rfl

/-! ## What is checked -/

/-- The count of the arguments is the one the shorty asks for. -/
def SpecialCall.CountMatches (call : SpecialCall) : Prop :=
  (call.args.getD []).length = call.shorty.length - 1

instance : Decidable call.CountMatches := inferInstanceAs (Decidable (_ = _))

/-- **Mismatched receivers are rejected**: where the class of the receiver is
not assignable to the declaring class an `IllegalArgumentException` is
thrown and nothing is called, and a receiver of a nonvirtual call is an
instance of the declaring class. -/
def RejectsMismatch (number : NumberMethods) (className : ℕ → String) (call : SpecialCall)
    (declaringClass : ℕ) : Prop :=
  (call.isAssignableFrom call.receiverClass declaringClass = false →
      ∃ message, invokeRequest number className call = .ok (.inl (.illegalArgument message))) ∧
    ∀ request, invokeRequest number className call = .ok (.inr request) →
      request.kind = .nonvirtual →
        call.isAssignableFrom call.receiverClass declaringClass = true

/-- With a declaring class the check is between that class and itself. -/
theorem clazz_of_declaringClass {declaringClass : ℕ}
    (h : call.declaringClass = some declaringClass) : call.clazz = declaringClass := by
  rw [SpecialCall.clazz, h]

/-- **The check never fires.** -/
theorem invokeRequest_of_declaringClass {className : ℕ → String} {declaringClass : ℕ}
    {receiver : Obj} (hexecutable : call.hasExecutable = true) (hmethod : call.hasArtMethod = true)
    (hdeclaring : call.declaringClass = some declaringClass)
    (hreceiver : call.receiver = some receiver) :
    invokeRequest number className call = requestOn number call (some receiver) := by
  have hcheck : (call.declaringClass.filter fun declaringClass =>
      call.clazz ≠ declaringClass ∧
        call.isAssignableFrom call.clazz declaringClass = false) = none := by
    rw [hdeclaring, Option.filter_eq_none_iff]
    rintro c hc hfires
    obtain rfl := Option.some.inj hc
    exact (of_decide_eq_true hfires).1 (clazz_of_declaringClass hdeclaring)
  unfold invokeRequest
  simp only [hexecutable, hmethod, Bool.not_true, Bool.false_eq_true, if_false, hcheck, hreceiver]

/-- Only a wrong count is refused, once there is a receiver. -/
theorem requestOn_refused_iff {receiver : Option Obj} :
    (∃ refusal, requestOn number call receiver = .ok (.inl refusal)) ↔ ¬ call.CountMatches := by
  constructor
  · rintro ⟨refusal, h⟩ hcount
    have hright : ¬ (call.args.getD []).length ≠ call.shorty.length - 1 := not_not_intro hcount
    unfold requestOn at h
    dsimp only at h
    rw [if_neg hright] at h
    rcases hshorty : call.shorty with _ | ⟨c, cs⟩ <;> rw [hshorty] at h
    · exact absurd h nofun
    dsimp only at h
    rcases hvalues : unwrapArguments number cs (call.args.getD []) with halt | values <;>
      simp only [hvalues, bind, Except.bind] at h
    · exact absurd h nofun
    · rcases htype : callTable call.kind c with _ | type <;> rw [htype] at h
      · exact absurd h nofun
      · exact absurd (Except.ok.inj h) nofun
  · intro hcount
    exact ⟨_, if_pos hcount⟩

/-- And it is refused as an illegal argument. -/
theorem requestOn_of_not_countMatches {receiver : Option Obj} (h : ¬ call.CountMatches) :
    ∃ message, requestOn number call receiver = .ok (.inl (.illegalArgument message)) :=
  ⟨_, if_pos h⟩

/-- **A mismatched receiver is rejected if and only if** it is not one, or
the count of the arguments is wrong. -/
theorem rejectsMismatch_iff {className : ℕ → String} {declaringClass : ℕ} {receiver : Obj}
    (hexecutable : call.hasExecutable = true) (hmethod : call.hasArtMethod = true)
    (hdeclaring : call.declaringClass = some declaringClass)
    (hreceiver : call.receiver = some receiver) :
    RejectsMismatch number className call declaringClass ↔
      call.isAssignableFrom call.receiverClass declaringClass = true ∨ ¬ call.CountMatches := by
  have hrequest : invokeRequest number className call = requestOn number call (some receiver) :=
    invokeRequest_of_declaringClass hexecutable hmethod hdeclaring hreceiver
  rw [RejectsMismatch, hrequest]
  constructor
  · rintro ⟨hmismatch, -⟩
    by_cases hassignable : call.isAssignableFrom call.receiverClass declaringClass = true
    · exact Or.inl hassignable
    · obtain ⟨message, hrefused⟩ := hmismatch (eq_false_of_ne_true hassignable)
      exact Or.inr (requestOn_refused_iff.1 ⟨_, hrefused⟩)
  · rintro (hassignable | hcount)
    · refine ⟨fun hmismatch => ?_, fun _ _ _ => hassignable⟩
      rw [hassignable] at hmismatch
      exact absurd hmismatch nofun
    · obtain ⟨message, hrefused⟩ := requestOn_of_not_countMatches hcount
      refine ⟨fun _ => ⟨message, hrefused⟩, fun request hcall => ?_⟩
      rw [hrefused] at hcall
      exact absurd hcall nofun

/-- A method without parameters, invoked on a receiver of a class that has
nothing to do with the declaring class. -/
def foreignCall : SpecialCall where
  hasExecutable := true
  hasArtMethod := true
  isStatic := false
  isConstructor := false
  methodClass := 1
  declaringClass := some 1
  isAssignableFrom sub sup := sub == sup
  receiver := some (.other 7)
  receiverClass := 2
  allocObject _ := none
  shorty := ['V']
  args := none

/-- It is called all the same. -/
theorem foreignCall_not_rejected :
    ¬ RejectsMismatch integralNumbers (fun _ => "") foreignCall 1 := by
  rintro ⟨hmismatch, -⟩
  obtain ⟨message, hrefused⟩ := hmismatch rfl
  exact absurd hrefused nofun

/-- A receiver of the declaring class itself is no mismatch. -/
theorem ownCall_rejected :
    RejectsMismatch integralNumbers (fun _ => "") { foreignCall with receiverClass := 1 } 1 :=
  (rejectsMismatch_iff rfl rfl rfl rfl).2 (Or.inl rfl)

end LSPlant
