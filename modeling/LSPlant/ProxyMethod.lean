import LSPlant.Art.AccessFlags
import LSPlant.Library.ClassHierarchy
/-!
# Methods of proxy classes

`IsProxyMethod` asks the access flags of the target's declaring class, and
`IsAssignableFrom` where the flags cannot be read. The two look at
unrelated data, and the second asks whether `Proxy` is a subtype of the
declaring class.
-/

namespace LSPlant

abbrev kAccClassIsProxy : BitVec 32 := 0x00040000

/-- **The classes of a process**: `java.lang.reflect.Proxy` among them, and
the flag words in which ART marks its proper subclasses. -/
structure ProxyClasses (C : Type*) extends ClassHierarchy C where
  proxy : C
  classAccessFlags : C → BitVec 32
  isProxy_iff : ∀ c, classAccessFlags c &&& kAccClassIsProxy ≠ 0 ↔
    toClassHierarchy.IsProperSubclass c proxy

namespace ProxyClasses

variable {C : Type*} (P : ProxyClasses C)

/-- `Class::GetAccessFlags`: nothing where the offset is not known. -/
def getAccessFlags (accessFlagsOffset : ℕ) (clazz : C) : Option (BitVec 32) :=
  if accessFlagsOffset = 0 then none else some (P.classAccessFlags clazz)

/-- `Class::IsProxyClass` -/
def isProxyClass (accessFlagsOffset : ℕ) (clazz : C) : Option Bool :=
  (P.getAccessFlags accessFlagsOffset clazz).map fun accessFlags =>
    accessFlags &&& kAccClassIsProxy != 0

variable [DecidableEq C]

/-- **`IsProxyMethod`** of a method declared by a class, where the method
reflected answers `getDeclaringClass` and `proxy_class_ref` holds as
given. -/
def isProxyMethod (accessFlagsOffset : ℕ) (clazz : C) (declaringClass proxyClass : Option C) :
    Bool :=
  match P.isProxyClass accessFlagsOffset clazz with
  | some isProxyClass => isProxyClass
  | none =>
    match declaringClass, proxyClass with
    | some declaringClass, some proxyClass => P.isAssignable proxyClass declaringClass
    | _, _ => false

variable {P} {c : C}

/-- Where the flags can be read, they answer. -/
theorem isProxyMethod_flags {accessFlagsOffset : ℕ} (h : accessFlagsOffset ≠ 0)
    (declaringClass proxyClass : Option C) :
    P.isProxyMethod accessFlagsOffset c declaringClass proxyClass = true ↔
      P.IsProperSubclass c P.proxy := by
  have hflags : P.isProxyClass accessFlagsOffset c =
      some (P.classAccessFlags c &&& kAccClassIsProxy != 0) := by
    rw [isProxyClass, getAccessFlags, if_neg h, Option.map_some]
  unfold isProxyMethod
  rw [hflags]
  exact bne_iff_ne.trans (P.isProxy_iff c)

/-- Where they cannot, the answer is whether `Proxy` is a subtype. -/
theorem isProxyMethod_fallback :
    P.isProxyMethod 0 c (some c) (some P.proxy) = true ↔ P.IsSubtype P.proxy c :=
  ClassHierarchy.isAssignable_iff

/-- **The two tests agree on a class if and only if it has nothing to do
with `Proxy`**: it is none of its subclasses, and neither `Proxy` nor a type
above it. -/
theorem isProxyMethod_agrees_iff {accessFlagsOffset : ℕ} (h : accessFlagsOffset ≠ 0) :
    P.isProxyMethod 0 c (some c) (some P.proxy) =
        P.isProxyMethod accessFlagsOffset c (some c) (some P.proxy) ↔
      ¬ P.IsProperSubclass c P.proxy ∧ ¬ P.IsSubtype P.proxy c := by
  rw [Bool.eq_iff_iff, isProxyMethod_fallback, isProxyMethod_flags h]
  constructor
  · intro hagree
    have hsub : ¬ P.IsProperSubclass c P.proxy := fun hproxy =>
      hproxy.not_isSubtype (hagree.2 hproxy)
    exact ⟨hsub, fun habove => hsub (hagree.1 habove)⟩
  · rintro ⟨hsub, habove⟩
    exact iff_of_false habove hsub

end ProxyClasses

/-! ## Some classes -/

/-- `Proxy` and the types it is declared with, a class generated for an
interface, and a class of an application. -/
inductive JavaClass where
  | object
  | serializable
  | proxy
  | generatedProxy
  | activity
deriving DecidableEq

def javaSuperclass : JavaClass → Option JavaClass
  | .object | .serializable => none
  | .proxy | .activity => some .object
  | .generatedProxy => some .proxy

/-- Only the generated class extends `Proxy`. -/
def javaClasses : ProxyClasses JavaClass where
  superclass := javaSuperclass
  interfaces
    | .proxy => [.serializable]
    | _ => []
  rank
    | .object | .serializable => 0
    | .proxy | .activity => 1
    | .generatedProxy => 2
  rank_superclass := by
    rintro (_ | _ | _ | _ | _) d hd <;> cases hd <;> decide
  rank_interfaces := by
    rintro (_ | _ | _ | _ | _) d hd <;> simp at hd
    subst hd
    decide
  proxy := .proxy
  classAccessFlags
    | .generatedProxy => kAccClassIsProxy
    | _ => 0
  isProxy_iff := by
    have hobject : ¬ Relation.ReflTransGen (fun a b => b ∈ javaSuperclass a) .object .proxy := by
      intro h
      rcases h.cases_head with heq | ⟨b, hb, -⟩
      · exact absurd heq (by decide)
      · exact absurd hb (by decide +revert)
    intro c
    rw [ClassHierarchy.IsProperSubclass, Relation.TransGen.head'_iff]
    rcases c with _ | _ | _ | _ | _
    case generatedProxy => exact iff_of_true (by decide) ⟨.proxy, rfl, .refl⟩
    all_goals
      refine iff_of_false (by decide) ?_
      rintro ⟨b, hb, hreach⟩
      cases hb
    all_goals exact hobject hreach

/-- **The class generated for an interface** is a proxy class by its flags
and not by `IsAssignableFrom`, and `Object` the other way round. -/
theorem javaClasses_disagree :
    javaClasses.isProxyMethod 8 .generatedProxy (some .generatedProxy) (some .proxy) = true ∧
      javaClasses.isProxyMethod 0 .generatedProxy (some .generatedProxy) (some .proxy) = false ∧
      javaClasses.isProxyMethod 8 .object (some .object) (some .proxy) = false ∧
      javaClasses.isProxyMethod 0 .object (some .object) (some .proxy) = true := by
  decide

/-- On the class of an application the two agree. -/
theorem isProxyMethod_agrees_activity :
    javaClasses.isProxyMethod 0 .activity (some .activity) (some .proxy) =
        javaClasses.isProxyMethod 8 .activity (some .activity) (some .proxy) ↔
      ¬ javaClasses.IsProperSubclass .activity javaClasses.proxy ∧
        ¬ javaClasses.IsSubtype javaClasses.proxy .activity :=
  ProxyClasses.isProxyMethod_agrees_iff (by decide)

end LSPlant
