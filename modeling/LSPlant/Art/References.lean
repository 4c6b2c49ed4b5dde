import LSPlant.Art.SizeT
import LSPlant.Library.Bytes
/-!
# References to Java objects

`Thread::DecodeJObject` and `EncodeJObject`, by which LSPlant gets from a
`jobject` to ART's object and back. Where ART has no function to do it,
`sun.misc.Unsafe` reads the reference out of an array of one element, as the
`int` it is not.
-/

namespace LSPlant

open Byte

/-- **The Java heap**, as far as references go: the address of an object fits in
the 32 bits that fields and arrays have for it. -/
structure JavaHeap (Obj : Type*) where
  address : Obj → ℕ
  objectAt : ℕ → Option Obj
  objectAt_address : ∀ o, objectAt (address o) = some o
  objectAt_null : objectAt 0 = none
  address_lt : ∀ o, address o < 2 ^ 32
  /-- Where the elements of an object array start. -/
  elementsOffset : ℕ
  /-- A new array, before its element is set. -/
  blankArray : Memory

section Code

variable {Obj : Type*} (art : Art) (heap : JavaHeap Obj)

/-- An array of one element. -/
def JavaHeap.newObjectArray (element : Option Obj) : Memory :=
  heap.blankArray.write heap.elementsOffset (toLE 4 (element.elim 0 heap.address))

/-- Its element. -/
def JavaHeap.element (array : Memory) : Option Obj :=
  heap.objectAt (ofLE (array.read heap.elementsOffset 4))

/-- `Unsafe.getInt` -/
def unsafeGetInt (object : Memory) (offset : ℕ) : ℕ := ofLE (object.read offset 4)

/-- `Unsafe.putInt` -/
def unsafePutInt (object : Memory) (offset value : ℕ) : Memory :=
  object.write offset (toLE 4 value)

/-- A `jint` as a `uintptr_t`: its sign is extended. -/
def Art.jintToUintptr (value : ℕ) : ℕ :=
  if value < 2 ^ 31 then value else value + (art.addressSpace - 2 ^ 32)

/-- An `intptr_t` as a `jint`. -/
def intptrToJint (value : ℕ) : ℕ := value % 2 ^ 32

/-- **What there is of `sun.misc.Unsafe`.** -/
structure UnsafeLookups where
  unsafeClass : Bool
  theUnsafe : Bool
  allocObject : Bool
  objectFieldOffset : Bool
  arrayBaseOffset : Bool
  getInt : Bool
  putInt : Bool

/-- `Unsafe`, as `Init` leaves it. -/
structure UnsafeMethods where
  theUnsafe : Bool
  objectFieldOffset : Bool
  objectArrayBaseOffset : ℕ
  getInt : Bool
  putInt : Bool

/-- **`Unsafe::Init`** -/
def unsafeInit (found : UnsafeLookups) : UnsafeMethods :=
  if !found.unsafeClass then ⟨false, false, 0, false, false⟩
  else {
    theUnsafe := found.theUnsafe || found.allocObject
    objectFieldOffset := found.objectFieldOffset
    objectArrayBaseOffset := if found.arrayBaseOffset then heap.elementsOffset else 0
    getInt := found.arrayBaseOffset && found.getInt
    putInt := found.arrayBaseOffset && found.putInt }

/-- **`GetObjectAddress`** -/
def getObjectAddress (u : UnsafeMethods) (obj : Obj) : ℕ :=
  if !u.getInt then 0
  else art.jintToUintptr
    (unsafeGetInt (heap.newObjectArray (some obj)) u.objectArrayBaseOffset)

/-- **`NewLocalRef`** -/
def newLocalRef (u : UnsafeMethods) (obj : ℕ) : Option Obj :=
  if !u.putInt then none
  else heap.element
    (unsafePutInt (heap.newObjectArray none) u.objectArrayBaseOffset (intptrToJint obj))

/-- **Which of ART's functions there are.** -/
structure DecodeSymbols where
  jniDecodeReferenceResult : Bool
  decodeGlobalJObject : Bool
  decodeJObject : Bool

/-- **`Thread::Init`**, of these functions: each is looked for only where those
before are missing. -/
def threadInit (exported : DecodeSymbols) : DecodeSymbols where
  jniDecodeReferenceResult := exported.jniDecodeReferenceResult
  decodeGlobalJObject := !exported.jniDecodeReferenceResult && exported.decodeGlobalJObject
  decodeJObject := !exported.jniDecodeReferenceResult && !exported.decodeGlobalJObject &&
    art.arch != .x86 && exported.decodeJObject

/-- **`DecodeJObject`**, whether or not there is a weak reference to be had. -/
def decodeJObject (symbols : DecodeSymbols) (u : UnsafeMethods) (hasWeak : Bool) :
    Option Obj → ℕ
  | none => 0
  | some obj =>
    if symbols.jniDecodeReferenceResult then heap.address obj
    else if symbols.decodeGlobalJObject && hasWeak then heap.address obj
    else if art.arch != .x86 && symbols.decodeJObject then heap.address obj
    else if u.theUnsafe then getObjectAddress art heap u obj
    else 0

/-- **`EncodeJObject`**. Nothing looks for `AddLocalReference_`. -/
def encodeJObject (u : UnsafeMethods) (obj : ℕ) : Option Obj :=
  if u.theUnsafe then newLocalRef heap u obj else none

end Code

variable {Obj : Type*} {art : Art} {heap : JavaHeap Obj} {obj : Obj} {found : UnsafeLookups}
  {exported : DecodeSymbols} {hasWeak : Bool} {a : ℕ}

/-! ## There and back -/

theorem address_ne_null (heap : JavaHeap Obj) (obj : Obj) : heap.address obj ≠ 0 := by
  intro hnull
  have hobj := heap.objectAt_address obj
  rw [hnull, heap.objectAt_null] at hobj
  cases hobj

theorem addressSpace_ge (art : Art) : 2 ^ 32 ≤ art.addressSpace := by
  unfold Art.addressSpace
  cases art.arch <;> decide

theorem addressSpace_eq_iff : art.addressSpace = 2 ^ 32 ↔ art.arch.pointerSize = 4 := by
  unfold Art.addressSpace
  cases art.arch <;> decide

/-- **The sign of an address**: it makes no difference in 32 bits, or where it is
not set. -/
theorem jintToUintptr_eq_iff (art : Art) (a : ℕ) :
    art.jintToUintptr a = a ↔ art.arch.pointerSize = 4 ∨ a < 2 ^ 31 := by
  have hspace := addressSpace_ge art
  rw [← addressSpace_eq_iff]
  unfold Art.jintToUintptr
  split <;> omega

/-- And none to what is made of it as a `jint` again. -/
theorem intptrToJint_jintToUintptr (h : a < 2 ^ 32) :
    intptrToJint (art.jintToUintptr a) = a := by
  have hspace : ∃ k, art.addressSpace - 2 ^ 32 = 2 ^ 32 * k := by
    unfold Art.addressSpace
    cases art.arch
    case arm | x86 => exact ⟨0, by decide⟩
    case arm64 | x64 | riscv64 => exact ⟨2 ^ 32 - 1, by decide⟩
  obtain ⟨k, hk⟩ := hspace
  unfold intptrToJint Art.jintToUintptr
  split
  · exact Nat.mod_eq_of_lt h
  · rw [hk, Nat.add_mul_mod_self_left, Nat.mod_eq_of_lt h]

theorem objectArrayBaseOffset_of_getInt (h : (unsafeInit heap found).getInt = true) :
    (unsafeInit heap found).objectArrayBaseOffset = heap.elementsOffset := by
  unfold unsafeInit at h ⊢
  split at h
  · cases h
  · rename_i hclass
    rw [if_neg hclass]
    exact if_pos (Bool.and_eq_true_iff.1 h).1

theorem objectArrayBaseOffset_of_putInt (h : (unsafeInit heap found).putInt = true) :
    (unsafeInit heap found).objectArrayBaseOffset = heap.elementsOffset := by
  unfold unsafeInit at h ⊢
  split at h
  · cases h
  · rename_i hclass
    rw [if_neg hclass]
    exact if_pos (Bool.and_eq_true_iff.1 h).1

theorem getInt_putInt (object : Memory) (offset : ℕ) (h : a < 2 ^ 32) :
    unsafeGetInt (unsafePutInt object offset a) offset = a := by
  have hread : (object.write offset (toLE 4 a)).read offset (toLE 4 a).length = toLE 4 a :=
    Memory.read_write_self
  rw [length_toLE] at hread
  rw [unsafeGetInt, unsafePutInt, hread, ofLE_toLE h]

/-- **`Unsafe` gives the address of an object**, with its sign extended. -/
theorem getObjectAddress_unsafeInit (hget : (unsafeInit heap found).getInt = true) :
    getObjectAddress art heap (unsafeInit heap found) obj =
      art.jintToUintptr (heap.address obj) := by
  have hbase := objectArrayBaseOffset_of_getInt hget
  have hread : unsafeGetInt (heap.newObjectArray (some obj)) heap.elementsOffset =
      heap.address obj := getInt_putInt heap.blankArray heap.elementsOffset (heap.address_lt obj)
  rw [getObjectAddress, hget, hbase, hread]
  exact if_neg (by decide)

/-- **And makes a reference to the object there.** -/
theorem newLocalRef_unsafeInit (hput : (unsafeInit heap found).putInt = true) :
    newLocalRef heap (unsafeInit heap found) a = heap.objectAt (intptrToJint a) := by
  have hbase := objectArrayBaseOffset_of_putInt hput
  have hjint : intptrToJint a < 2 ^ 32 := Nat.mod_lt a (Nat.two_pow_pos 32)
  have hread := getInt_putInt (heap.newObjectArray none) heap.elementsOffset hjint
  rw [unsafeGetInt] at hread
  rw [newLocalRef, hput, hbase, JavaHeap.element, hread]
  exact if_neg (by decide)

/-- **What a `jobject` is decoded by**, if by a function of ART's. -/
def DecodedByArt (art : Art) (exported : DecodeSymbols) (hasWeak : Bool) : Prop :=
  exported.jniDecodeReferenceResult = true ∨
    if exported.decodeGlobalJObject then hasWeak = true
    else art.arch ≠ .x86 ∧ exported.decodeJObject = true

instance (art : Art) (exported : DecodeSymbols) (hasWeak : Bool) :
    Decidable (DecodedByArt art exported hasWeak) := by
  unfold DecodedByArt
  infer_instance

theorem decodeJObject_threadInit (u : UnsafeMethods) :
    decodeJObject art heap (threadInit art exported) u hasWeak (some obj) =
      if DecodedByArt art exported hasWeak then heap.address obj
      else if u.theUnsafe then getObjectAddress art heap u obj
      else 0 := by
  rcases exported with ⟨_ | _, _ | _, _ | _⟩ <;> cases hasWeak <;>
    cases harch : art.arch <;> simp [decodeJObject, threadInit, DecodedByArt, harch]

/-- `Unsafe` has no `int` to read of an object that is not there. -/
theorem getObjectAddress_of_not_getInt {u : UnsafeMethods} (h : u.getInt = false) :
    getObjectAddress art heap u obj = 0 := by
  rw [getObjectAddress, h]
  exact if_pos rfl

/-- Two objects, one to each side of the sign. -/
def sampleJavaHeap : JavaHeap Bool where
  address high := if high then 0x90000000 else 0x10000000
  objectAt a :=
    if a = 0x90000000 then some true else if a = 0x10000000 then some false else none
  objectAt_address := by decide
  objectAt_null := rfl
  address_lt := by decide
  elementsOffset := 12
  blankArray _ := 0

/-- An ART without symbols, and all of `Unsafe`. -/
def sampleSymbols : DecodeSymbols := ⟨false, false, false⟩

def sampleUnsafe : UnsafeLookups := ⟨true, true, true, true, true, true, true⟩

/-- **When `DecodeJObject` is right**: by a function of ART's, or by `Unsafe`
where the sign of the address makes no difference. -/
theorem decodeJObject_eq_iff (art : Art) (heap : JavaHeap Obj) (exported : DecodeSymbols)
    (found : UnsafeLookups) (hasWeak : Bool) (obj : Obj) :
    decodeJObject art heap (threadInit art exported) (unsafeInit heap found) hasWeak (some obj) =
        heap.address obj ↔
      DecodedByArt art exported hasWeak ∨
        ((unsafeInit heap found).theUnsafe = true ∧ (unsafeInit heap found).getInt = true ∧
          (art.arch.pointerSize = 4 ∨ heap.address obj < 2 ^ 31)) := by
  have hnull := (address_ne_null heap obj).symm
  rw [decodeJObject_threadInit]
  split
  · rename_i hart
    exact iff_of_true rfl (Or.inl hart)
  rename_i hart
  rw [or_iff_right hart]
  split
  · rename_i hunsafe
    rw [and_iff_right hunsafe]
    cases hget : (unsafeInit heap found).getInt with
    | false =>
      rw [getObjectAddress_of_not_getInt hget]
      exact iff_of_false hnull (fun h => Bool.false_ne_true h.1)
    | true =>
      rw [getObjectAddress_unsafeInit hget, jintToUintptr_eq_iff, and_iff_right rfl]
  · rename_i hunsafe
    exact iff_of_false hnull (fun h => hunsafe h.1)

/-- On arm64 `Unsafe` decodes the object below the sign, and not the other. -/
theorem decodeJObject_eq_iff_sample :
    let symbols := threadInit sampleArt sampleSymbols
    let u := unsafeInit sampleJavaHeap sampleUnsafe
    decodeJObject sampleArt sampleJavaHeap symbols u true (some false) = 0x10000000 ∧
      decodeJObject sampleArt sampleJavaHeap symbols u true (some true) ≠ 0x90000000 := by
  intro symbols u
  have hiff := decodeJObject_eq_iff sampleArt sampleJavaHeap sampleSymbols sampleUnsafe true
  exact ⟨(hiff false).2 (by decide), fun h => absurd ((hiff true).1 h) (by decide)⟩

/-- **A reference decoded and encoded again** is to the same object, whatever the
sign of its address, if `Unsafe` can make one and the object was decoded at
all. -/
theorem encodeJObject_decodeJObject (art : Art) (heap : JavaHeap Obj) (exported : DecodeSymbols)
    (found : UnsafeLookups) (hasWeak : Bool) (obj : Obj) :
    encodeJObject heap (unsafeInit heap found) (decodeJObject art heap (threadInit art exported)
        (unsafeInit heap found) hasWeak (some obj)) = some obj ↔
      (unsafeInit heap found).theUnsafe = true ∧ (unsafeInit heap found).putInt = true ∧
        (DecodedByArt art exported hasWeak ∨ (unsafeInit heap found).getInt = true) := by
  unfold encodeJObject
  cases hunsafe : (unsafeInit heap found).theUnsafe with
  | false => simp
  | true =>
    rw [if_pos rfl, and_iff_right rfl]
    cases hput : (unsafeInit heap found).putInt with
    | false => simp [newLocalRef, hput]
    | true =>
      rw [newLocalRef_unsafeInit hput, and_iff_right rfl, decodeJObject_threadInit, hunsafe,
        if_pos rfl]
      by_cases hart : DecodedByArt art exported hasWeak
      · have hjint : intptrToJint (heap.address obj) = heap.address obj :=
          Nat.mod_eq_of_lt (heap.address_lt obj)
        rw [if_pos hart, hjint]
        exact iff_of_true (heap.objectAt_address obj) (Or.inl hart)
      · rw [if_neg hart, or_iff_right hart]
        cases hget : (unsafeInit heap found).getInt with
        | false =>
          have hjint : intptrToJint 0 = 0 := Nat.zero_mod _
          rw [getObjectAddress_of_not_getInt hget, hjint, heap.objectAt_null]
          exact iff_of_false nofun Bool.false_ne_true
        | true =>
          rw [getObjectAddress_unsafeInit hget, intptrToJint_jintToUintptr (heap.address_lt obj)]
          exact iff_of_true (heap.objectAt_address obj) rfl

/-- Both objects come back. -/
theorem encodeJObject_decodeJObject_sample :
    let symbols := threadInit sampleArt sampleSymbols
    let u := unsafeInit sampleJavaHeap sampleUnsafe
    ∀ obj, encodeJObject sampleJavaHeap u
      (decodeJObject sampleArt sampleJavaHeap symbols u true (some obj)) = some obj := by
  intro symbols u obj
  exact (encodeJObject_decodeJObject sampleArt sampleJavaHeap sampleSymbols sampleUnsafe true
    obj).2 (by decide)

end LSPlant
