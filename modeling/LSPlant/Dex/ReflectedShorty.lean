import LSPlant.Dex.Signatures
import LSPlant.ProxyMethod
/-!
# The shorty of a reflected executable

`GetReflectedMethodShorty` asks a reflected executable for its types and
looks each up among the classes of the primitive types. `HookMethod` and
`InvokeSpecial` fall back on it where ART's own shorty is not to be had.
The id it asks for the return type with is one of `Method`. A method
`IsProxyMethod` takes for a proxy's is not asked itself: its data is taken
for the interface method.
-/

namespace LSPlant

open Dalvik

/-! ## What is reflected -/

/-- The types of Java. A class or an interface goes by number. -/
inductive JavaType where
  | primitive (type : Primitive)
  | reference (clazz : ℕ)
  | array (element : JavaType)
deriving DecidableEq

/-- The type as a shorty tells it. -/
def JavaType.descriptor : JavaType → TypeDescriptor
  | .primitive type => .primitive type
  | .reference _ => .object
  | .array _ => .object

/-- **A class object**: that of a type, or `void.class`. -/
abbrev ClassObject := Option JavaType

/-- **A reflected executable.** -/
inductive ReflectedExecutable where
  | method (returnType : ClassObject) (parameterTypes : List JavaType)
  | constructor (parameterTypes : List JavaType)

/-- The classes reflected executables are instances of. -/
inductive ExecutableClass where
  | executable
  | method
  | constructor
deriving DecidableEq

/-- The methods `InitJNI` has found ids of. -/
inductive ExecutableMethod where
  | getParameterTypes
  | getReturnType
deriving DecidableEq

/-- The class `InitJNI` has found the id on. -/
def ExecutableMethod.clazz : ExecutableMethod → ExecutableClass
  | .getParameterTypes => .executable
  | .getReturnType => .method

namespace ReflectedExecutable

variable (e : ReflectedExecutable)

def clazz : ExecutableClass :=
  match e with
  | .method _ _ => .method
  | .constructor _ => .constructor

/-- A method exists on the class of the executable. -/
def HasMethod (m : ExecutableMethod) : Prop := m.clazz = .executable ∨ m.clazz = e.clazz

instance (m : ExecutableMethod) : Decidable (e.HasMethod m) := instDecidableOr

def parameterTypes : List JavaType :=
  match e with
  | .method _ parameterTypes => parameterTypes
  | .constructor parameterTypes => parameterTypes

/-- The return type, void for a constructor. -/
def returnType : ClassObject :=
  match e with
  | .method returnType _ => returnType
  | .constructor _ => none

/-- **The shorty of the executable in its dex file.** -/
def dexShorty : List Char :=
  Signature.shorty ⟨e.returnType.map JavaType.descriptor, e.parameterTypes.map JavaType.descriptor⟩

/-! ## The reflective shorty -/

/-- `JNI_CallObjectMethod` on the executable. A method its class does not
have cannot be called. -/
def callObjectMethod {α : Type} (m : ExecutableMethod) (answer : α) : Except Halt α :=
  if e.HasMethod m then .ok answer else .error .undefined

end ReflectedExecutable

/-- `primitive_*_class_ref` -/
def primitiveClassRef (type : Primitive) : ClassObject := some (.primitive type)

/-- `primitive_void_class_ref` -/
def primitiveVoidClassRef : ClassObject := none

/-- `type_to_shorty` -/
def typeToShorty (type : ClassObject) : Char :=
  if type = primitiveClassRef .int then 'I'
  else if type = primitiveClassRef .long then 'J'
  else if type = primitiveClassRef .float then 'F'
  else if type = primitiveClassRef .double then 'D'
  else if type = primitiveClassRef .boolean then 'Z'
  else if type = primitiveClassRef .byte then 'B'
  else if type = primitiveClassRef .char then 'C'
  else if type = primitiveClassRef .short then 'S'
  else if type = primitiveVoidClassRef then 'V'
  else 'L'

/-- **`GetReflectedMethodShorty`** -/
def getReflectedMethodShorty (e : ReflectedExecutable) : Except Halt (List Char) := do
  let returnType ← e.callObjectMethod .getReturnType e.returnType
  let parameterTypes ← e.callObjectMethod .getParameterTypes e.parameterTypes
  return typeToShorty returnType :: parameterTypes.map fun type => typeToShorty (some type)

/-! ## Where the shorty is needed -/

/-- A method of ART, as far as it is looked at. -/
structure InterfaceMethod where
  isAbstract : Bool
  shorty : List Char

/-- **What the data of a method points to**: nothing, a method of ART, or
something else. -/
inductive MethodData where
  | null
  | method (m : InterfaceMethod)
  | other

variable {C : Type*}

/-- **An executable of ART.** A method its data points to has its signature, as
the interface method of a proxy's has and the one implementation of an abstract
one; and the data of a proxy's points to nothing else. -/
structure ArtExecutable (P : ProxyClasses C) where
  reflected : ReflectedExecutable
  declaringClass : C
  data : MethodData
  method_shorty : ∀ m, data = .method m → m.shorty = reflected.dexShorty
  proxy_data : P.IsProperSubclass declaringClass P.proxy → data ≠ .other

namespace ArtExecutable

variable {P : ProxyClasses C} (x : ArtExecutable P) (apiLevel accessFlagsOffset : ℕ)
  (canGetMethodShorty : Bool)

/-- `GetShorty`, for a method with a shorty in its own dex file. ART gives no
answer for a proxy's. -/
def getShorty : Except Halt (List Char) :=
  if P.classAccessFlags x.declaringClass &&& kAccClassIsProxy ≠ 0 then .error .undefined
  else .ok x.reflected.dexShorty

/-- `GetInterfaceMethodIfProxy`, which does not look whether it is a proxy's. -/
def getInterfaceMethodIfProxy : MethodData :=
  if 28 ≤ apiLevel then x.data else .null

/-- `np_method`, if it is there and abstract. Data that is no method cannot be
asked. -/
def npMethod : Except Halt (Option InterfaceMethod) :=
  match x.getInterfaceMethodIfProxy apiLevel with
  | .null => .ok none
  | .method m => .ok (if m.isAbstract then some m else none)
  | .other => .error .undefined

/-- The shorty of a method taken for a proxy's. -/
def proxyShorty : Except Halt (List Char) := do
  match ← x.npMethod apiLevel with
  | some npMethod => return npMethod.shorty
  | none => getReflectedMethodShorty x.reflected

variable [DecidableEq C]

/-- `IsProxyMethod` of the executable. -/
def isProxyMethod : Bool :=
  P.isProxyMethod accessFlagsOffset x.declaringClass (some x.declaringClass) (some P.proxy)

/-- The shorty of `HookMethod`. -/
def hookShorty : Except Halt (List Char) :=
  if canGetMethodShorty then
    if x.isProxyMethod accessFlagsOffset then x.proxyShorty apiLevel
    else x.getShorty
  else getReflectedMethodShorty x.reflected

/-- The shorty `InvokeSpecial` asks ART for. -/
def invokeSpecialMethodShorty : Except Halt (Option (List Char)) :=
  if canGetMethodShorty then
    if x.isProxyMethod accessFlagsOffset then
      return (← x.npMethod apiLevel).map InterfaceMethod.shorty
    else return some (← x.getShorty)
  else return none

/-- The shorty of `InvokeSpecial`. -/
def invokeSpecialShorty : Except Halt (List Char) := do
  match ← x.invokeSpecialMethodShorty apiLevel accessFlagsOffset canGetMethodShorty with
  | some shorty => return shorty
  | none => getReflectedMethodShorty x.reflected

end ArtExecutable

/-! ## One shorty -/

theorem typeToShorty_void : typeToShorty none = 'V' := rfl

/-- **The chain of comparisons finds the letter of each type.** -/
theorem typeToShorty_type (type : JavaType) :
    typeToShorty (some type) = letter type.descriptor := by
  rcases type with type | clazz | element
  · cases type <;> rfl
  · rfl
  · rfl

theorem typeToShorty_eq (type : ClassObject) :
    typeToShorty type = returnLetter (type.map JavaType.descriptor) := by
  rcases type with _ | type
  · exact typeToShorty_void
  · exact typeToShorty_type type

/-- Of a method the reflective shorty is the shorty. -/
theorem getReflectedMethodShorty_method (returnType : ClassObject)
    (parameterTypes : List JavaType) :
    getReflectedMethodShorty (.method returnType parameterTypes) =
      .ok (ReflectedExecutable.method returnType parameterTypes).dexShorty := by
  have hparameters : parameterTypes.map (fun type => typeToShorty (some type)) =
      (parameterTypes.map JavaType.descriptor).map letter := by
    rw [List.map_map]
    exact List.map_congr_left fun type _ => typeToShorty_type type
  have hshorty : (ReflectedExecutable.method returnType parameterTypes).dexShorty =
      typeToShorty returnType ::
        parameterTypes.map fun type => typeToShorty (some type) := by
    rw [hparameters, typeToShorty_eq]
    rfl
  rw [hshorty]
  rfl

/-- A constructor has no return type to ask for. -/
theorem getReflectedMethodShorty_constructor (parameterTypes : List JavaType) :
    getReflectedMethodShorty (.constructor parameterTypes) = .error .undefined := rfl

section

variable {P : ProxyClasses C} {x : ArtExecutable P} {apiLevel accessFlagsOffset : ℕ}

/-- **ART answers for a method** unless it is a proxy's. -/
theorem ArtExecutable.getShorty_eq_ok_iff :
    x.getShorty = .ok x.reflected.dexShorty ↔
      ¬ P.IsProperSubclass x.declaringClass P.proxy := by
  unfold ArtExecutable.getShorty
  rw [← P.isProxy_iff]
  split
  · rename_i hproxy
    exact iff_of_false nofun (not_not_intro hproxy)
  · rename_i hproxy
    exact iff_of_true rfl hproxy

/-- **What is taken for the interface method** has the shorty of the executable,
or leaves it to be asked for by reflection, unless it is no method. -/
theorem ArtExecutable.npMethod_cases (x : ArtExecutable P) (apiLevel : ℕ) :
    (x.npMethod apiLevel = .error .undefined ∧ 28 ≤ apiLevel ∧ x.data = .other) ∨
      ¬ (28 ≤ apiLevel ∧ x.data = .other) ∧ (x.npMethod apiLevel = .ok none ∨
        ∃ m, x.npMethod apiLevel = .ok (some m) ∧ m.shorty = x.reflected.dexShorty) := by
  unfold ArtExecutable.npMethod ArtExecutable.getInterfaceMethodIfProxy
  by_cases hapi : 28 ≤ apiLevel
  · rw [if_pos hapi]
    cases hdata : x.data with
    | null => exact Or.inr ⟨nofun, Or.inl rfl⟩
    | other => exact Or.inl ⟨rfl, hapi, rfl⟩
    | method m =>
      refine Or.inr ⟨nofun, ?_⟩
      by_cases habstract : m.isAbstract = true
      · exact Or.inr ⟨m, by simp only [habstract, if_true], x.method_shorty m hdata⟩
      · exact Or.inl (by simp only [habstract]; rfl)
  · rw [if_neg hapi]
    exact Or.inr ⟨fun h => hapi h.1, Or.inl rfl⟩

variable [DecidableEq C]

theorem invokeSpecialShorty_eq_hookShorty (canGetMethodShorty : Bool) :
    x.invokeSpecialShorty apiLevel accessFlagsOffset canGetMethodShorty =
      x.hookShorty apiLevel accessFlagsOffset canGetMethodShorty := by
  unfold ArtExecutable.invokeSpecialShorty ArtExecutable.invokeSpecialMethodShorty
    ArtExecutable.hookShorty ArtExecutable.proxyShorty
  rcases canGetMethodShorty with _ | _
  · rfl
  rcases x.isProxyMethod accessFlagsOffset with _ | _
  · rcases x.getShorty with _ | _ <;> rfl
  · rcases x.npMethod apiLevel with _ | _ | npMethod <;> rfl

theorem ArtExecutable.hookShorty_of_proxyMethod (h : x.isProxyMethod accessFlagsOffset = true) :
    x.hookShorty apiLevel accessFlagsOffset true = x.proxyShorty apiLevel := by
  unfold ArtExecutable.hookShorty
  rw [if_pos rfl, if_pos h]

theorem ArtExecutable.hookShorty_of_not_proxyMethod
    (h : x.isProxyMethod accessFlagsOffset = false) :
    x.hookShorty apiLevel accessFlagsOffset true = x.getShorty := by
  unfold ArtExecutable.hookShorty
  rw [if_pos rfl, h, if_neg Bool.false_ne_true]

/-- **`IsProxyMethod` does no harm**: a method of a proxy class is known by the
flags of its class, and one that is not but is taken for one by its place above
`Proxy` has no data it would be misled by. -/
structure ArtExecutable.ProxyHarmless (x : ArtExecutable P) (apiLevel accessFlagsOffset : ℕ) :
    Prop where
  known : P.IsProperSubclass x.declaringClass P.proxy → accessFlagsOffset ≠ 0
  notMisled : accessFlagsOffset = 0 → P.IsSubtype P.proxy x.declaringClass → 28 ≤ apiLevel →
    x.data ≠ .other

/-- Where it does none and the reflective shorty is the shorty, `HookMethod` finds
it. -/
theorem hookShorty_of_harmless
    (hreflected : getReflectedMethodShorty x.reflected = .ok x.reflected.dexShorty)
    (hharmless : x.ProxyHarmless apiLevel accessFlagsOffset) (canGetMethodShorty : Bool) :
    x.hookShorty apiLevel accessFlagsOffset canGetMethodShorty = .ok x.reflected.dexShorty := by
  cases canGetMethodShorty with
  | false => exact hreflected
  | true =>
    cases hproxy : x.isProxyMethod accessFlagsOffset with
    | false =>
      rw [ArtExecutable.hookShorty_of_not_proxyMethod hproxy, ArtExecutable.getShorty_eq_ok_iff]
      intro hsub
      have hflags := (ProxyClasses.isProxyMethod_flags (hharmless.known hsub)
        (some x.declaringClass) (some P.proxy)).2 hsub
      exact Bool.false_ne_true (hproxy.symm.trans hflags)
    | true =>
      rw [ArtExecutable.hookShorty_of_proxyMethod hproxy, ArtExecutable.proxyShorty]
      rcases x.npMethod_cases apiLevel with
        ⟨-, hapi, hdata⟩ | ⟨-, hnone | ⟨m, hm, hshorty⟩⟩
      · exfalso
        by_cases hoffset : accessFlagsOffset = 0
        · subst hoffset
          exact hharmless.notMisled rfl (ProxyClasses.isProxyMethod_fallback.1 hproxy) hapi hdata
        · exact x.proxy_data ((ProxyClasses.isProxyMethod_flags hoffset _ _).1 hproxy) hdata
      · rw [hnone]
        exact hreflected
      · rw [hm]
        exact congrArg _ hshorty

/-- **One shorty for an executable**, by reflection and wherever it is
needed, with ART's functions or without them, if and only if it is a
method and `IsProxyMethod` does no harm. -/
theorem shorties_agree_iff (x : ArtExecutable P) (apiLevel accessFlagsOffset : ℕ) :
    (getReflectedMethodShorty x.reflected = .ok x.reflected.dexShorty ∧
        ∀ canGetMethodShorty,
          x.hookShorty apiLevel accessFlagsOffset canGetMethodShorty =
              .ok x.reflected.dexShorty ∧
            x.invokeSpecialShorty apiLevel accessFlagsOffset canGetMethodShorty =
              .ok x.reflected.dexShorty) ↔
      x.reflected.clazz = .method ∧ x.ProxyHarmless apiLevel accessFlagsOffset := by
  constructor
  · rintro ⟨hreflected, hagree⟩
    have hhook := (hagree true).1
    refine ⟨?_, fun hsub hoffset => ?_, fun hoffset habove hapi hdata => ?_⟩
    · rcases he : x.reflected with ⟨returnType, parameterTypes⟩ | parameterTypes
      · rfl
      · rw [he, getReflectedMethodShorty_constructor] at hreflected
        exact absurd hreflected nofun
    · -- a proxy's that is not known for one is asked itself
      have hproxy : x.isProxyMethod accessFlagsOffset = false := by
        rw [hoffset]
        exact Bool.eq_false_iff.2 fun h =>
          hsub.not_isSubtype (ProxyClasses.isProxyMethod_fallback.1 h)
      rw [ArtExecutable.hookShorty_of_not_proxyMethod hproxy] at hhook
      exact ArtExecutable.getShorty_eq_ok_iff.1 hhook hsub
    · have hproxy : x.isProxyMethod accessFlagsOffset = true := by
        rw [hoffset]
        exact ProxyClasses.isProxyMethod_fallback.2 habove
      have hnp : x.npMethod apiLevel = .error .undefined := by
        unfold ArtExecutable.npMethod ArtExecutable.getInterfaceMethodIfProxy
        rw [if_pos hapi, hdata]
      rw [ArtExecutable.hookShorty_of_proxyMethod hproxy, ArtExecutable.proxyShorty, hnp] at hhook
      exact absurd hhook nofun
  · rintro ⟨hmethod, hharmless⟩
    have hreflected : getReflectedMethodShorty x.reflected = .ok x.reflected.dexShorty := by
      rcases he : x.reflected with ⟨returnType, parameterTypes⟩ | parameterTypes
      · exact getReflectedMethodShorty_method returnType parameterTypes
      · rw [he] at hmethod
        exact absurd hmethod nofun
    refine ⟨hreflected, fun canGetMethodShorty => ?_⟩
    rw [invokeSpecialShorty_eq_hookShorty]
    exact ⟨hookShorty_of_harmless hreflected hharmless _,
      hookShorty_of_harmless hreflected hharmless _⟩

end

/-- The constructor without parameters, of an application's class. -/
def plainConstructor : ArtExecutable javaClasses where
  reflected := .constructor []
  declaringClass := .activity
  data := .null
  method_shorty := by
    intro m h
    cases h
  proxy_data _ := by
    intro h
    cases h

/-- Its shorty is `V`, and without ART's functions it is asked for a return
type. -/
theorem plainConstructor_undefined :
    plainConstructor.hookShorty 34 8 true = .ok ['V'] ∧
      plainConstructor.hookShorty 34 8 false = .error .undefined ∧
      plainConstructor.invokeSpecialShorty 34 8 false = .error .undefined :=
  ⟨rfl, rfl, rfl⟩

end LSPlant
