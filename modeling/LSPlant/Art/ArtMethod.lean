import LSPlant.Art.Config
import Mathlib.Logic.Function.Basic
/-!
# ArtMethod

ART's method record, the fields of it LSPlant reads and writes, and the
setters of `art_method.cxx`. An entry point is one of LSPlant's own
trampolines or any other code; the two never share an address, since a
trampoline lies in a page LSPlant mapped for itself.
-/

namespace LSPlant

/-- **What the code at an entry point is**: a trampoline at an address
`GenerateTrampolineFor` handed out, or other code. -/
inductive EntryPoint where
  | code (address : ℕ)
  | trampoline (address : ℕ)
deriving DecidableEq

/-- The entry point is one of LSPlant's trampolines. -/
def EntryPoint.IsTrampoline : EntryPoint → Prop
  | .code _ => False
  | .trampoline _ => True

instance (e : EntryPoint) : Decidable e.IsTrampoline :=
  match e with
  | .code _ => isFalse id
  | .trampoline _ => isTrue trivial

@[simp] theorem not_isTrampoline_code {c : ℕ} : ¬ (EntryPoint.code c).IsTrampoline := id

@[simp] theorem isTrampoline_trampoline {a : ℕ} : (EntryPoint.trampoline a).IsTrampoline :=
  trivial

/-- **The method record.** -/
structure ArtMethod where
  declaringClass : ℕ
  accessFlags : BitVec 32
  data : ℕ
  entryPoint : EntryPoint
  interpreterEntryPoint : ℕ

namespace ArtMethod

variable (art : Art) (m : ArtMethod)

def setNonCompilable : ArtMethod :=
  { m with accessFlags := (m.accessFlags ||| art.masks.kAccCompileDontBother) &&&
      ~~~art.masks.kAccPreCompiled }

def clearFastInterpretFlag : ArtMethod :=
  { m with accessFlags := m.accessFlags &&&
      ~~~art.masks.kAccFastInterpreterToInterpreterInvoke }

def setPrivate : ArtMethod :=
  { m with accessFlags := (m.accessFlags ||| kAccPrivate) &&& ~~~kAccProtected &&&
      ~~~kAccPublic }

def setNonConstructor : ArtMethod :=
  { m with accessFlags := m.accessFlags &&& ~~~kAccConstructor }

/-- ART's own function where it was found, the hard-coded mask elsewhere. -/
def setNonIntrinsic : ArtMethod :=
  match art.setNotIntrinsic with
  | some f => { m with accessFlags := f m.accessFlags }
  | none => { m with accessFlags := m.accessFlags &&& ~~~art.masks.kAccIntrinsic }

def setNative : ArtMethod := { m with accessFlags := m.accessFlags ||| kAccNative }

def setNonNative : ArtMethod := { m with accessFlags := m.accessFlags &&& ~~~kAccNative }

def isStatic : Bool := (m.accessFlags &&& kAccStatic) != 0
def isNative : Bool := (m.accessFlags &&& kAccNative) != 0
def isAbstract : Bool := (m.accessFlags &&& kAccAbstract) != 0
def isFastNative : Bool := (m.accessFlags &&& art.masks.kAccFastNative) != 0 && m.isNative

/-- The entry point, and the interpreter's where this ART has one. -/
def setEntryPoint (entryPoint : EntryPoint) : ArtMethod :=
  { m with
    entryPoint := entryPoint
    interpreterEntryPoint :=
      if art.hasInterpreterEntryPoint then art.artInterpreterToCompiledCodeBridge
      else m.interpreterEntryPoint }

def setData (data : ℕ) : ArtMethod := { m with data := data }

/-- The bits of the flag word that say what kind of method this is. -/
def kind : BitVec 32 := m.accessFlags &&& kindMask

variable {art} {m} {n : ArtMethod} {e : EntryPoint} {d : ℕ}

theorem isStatic_congr (h : m.kind = n.kind) : m.isStatic = n.isStatic := by
  have hk : ∀ x : ArtMethod, x.accessFlags &&& kAccStatic = x.kind &&& kAccStatic := fun x => by
    rw [kind, BitVec.and_assoc]; congr 1
  rw [isStatic, isStatic, hk, hk, h]

theorem isNative_congr (h : m.kind = n.kind) : m.isNative = n.isNative := by
  have hk : ∀ x : ArtMethod, x.accessFlags &&& kAccNative = x.kind &&& kAccNative := fun x => by
    rw [kind, BitVec.and_assoc]; congr 1
  rw [isNative, isNative, hk, hk, h]

theorem isNative_setNative : m.setNative.isNative = true := by
  have h : (m.accessFlags ||| kAccNative) &&& kAccNative = kAccNative := by
    refine BitVec.eq_of_getLsbD_eq fun i hi => ?_
    rw [BitVec.getLsbD_and, BitVec.getLsbD_or]
    cases m.accessFlags.getLsbD i <;> cases kAccNative.getLsbD i <;> rfl
  rw [isNative, setNative, h]
  decide

theorem isNative_setNonNative : m.setNonNative.isNative = false := by
  have h : m.accessFlags &&& ~~~kAccNative &&& kAccNative = 0#32 := by
    rw [BitVec.and_assoc, BitVec.and_comm (~~~kAccNative), BitVec.and_not_self]
    exact BitVec.and_zero
  rw [isNative, setNonNative, h]
  rfl

/-- **What of a record the registries and interceptors go by.** Which flags
ART's compiler and interpreter see is not among it. -/
structure View where
  entryPoint : EntryPoint
  data : ℕ
  kind : BitVec 32
  declaringClass : ℕ

def view (m : ArtMethod) : View where
  entryPoint := m.entryPoint
  data := m.data
  kind := m.kind
  declaringClass := m.declaringClass

theorem view_eq_of_accessFlags {f : BitVec 32} (h : f &&& kindMask = m.accessFlags &&& kindMask) :
    ({ m with accessFlags := f } : ArtMethod).view = m.view := by
  simp only [view, kind, h]

/-! The setters of flags a hook uses leave the view alone. -/

@[simp] theorem view_setNonCompilable : (m.setNonCompilable art).view = m.view :=
  view_eq_of_accessFlags <| (andNot_and_of_disjoint art.masks.preCompiled_kind).trans
    (or_and_of_disjoint art.masks.compileDontBother_kind)

@[simp] theorem view_clearFastInterpretFlag : (m.clearFastInterpretFlag art).view = m.view :=
  view_eq_of_accessFlags <| andNot_and_of_disjoint art.masks.fastInterpreter_kind

@[simp] theorem view_setPrivate : m.setPrivate.view = m.view := by
  refine view_eq_of_accessFlags ((andNot_and_of_disjoint (by decide)).trans ?_)
  exact (andNot_and_of_disjoint (by decide)).trans (or_and_of_disjoint (by decide))

@[simp] theorem view_setNonConstructor : m.setNonConstructor.view = m.view :=
  view_eq_of_accessFlags <| andNot_and_of_disjoint (by decide)

@[simp] theorem view_setNonIntrinsic : (m.setNonIntrinsic art).view = m.view := by
  unfold setNonIntrinsic
  split
  · exact view_eq_of_accessFlags (art.setNotIntrinsic_kind _ ‹_› _)
  · exact view_eq_of_accessFlags (andNot_and_of_disjoint art.masks.intrinsic_kind)

@[simp] theorem view_setEntryPoint :
    (m.setEntryPoint art e).view = { m.view with entryPoint := e } := rfl

@[simp] theorem view_setData : (m.setData d).view = { m.view with data := d } := rfl

end ArtMethod

end LSPlant
