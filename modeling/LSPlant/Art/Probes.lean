import LSPlant.Art.JavaDebuggableGuard
import LSPlant.Art.MethodBytes
import LSPlant.Art.SizeT
/-!
# Offsets found by looking

ART tells nobody where its fields are. `ArtMethod::Init` takes the distance
of two records for the size of one, and the first word of a record that is
the flags Java tells for the field that holds them. `Runtime::Init` has ART
set the debug state of a `Runtime` of zeros, and looks for what has changed.
-/

namespace LSPlant

open Byte

/-- A 32-bit word in memory. -/
def readWord (mem : Memory) (a : ℕ) : BitVec 32 := BitVec.ofNat 32 (ofLE (mem.read a 4))

/-- **The first hit of a loop** over the numbers below `n`. -/
theorem find?_range_eq {n i : ℕ} {p : ℕ → Bool} (hi : i < n) (hp : p i)
    (hmin : ∀ j < i, ¬ p j) : (List.range n).find? p = some i := by
  rw [List.find?_range_eq_some]
  refine ⟨hp, List.mem_range.2 hi, fun j hj => ?_⟩
  simpa using hmin j hj

/-! ## `ArtMethod::Init` -/

/-- **What `ArtMethod::Init` meets**: the records of the first two
constructors of `Throwable`, the flags Java tells of the first, and the
offsets `Unsafe` tells of the fields of an `ArtMethod` that is an object. -/
structure MethodProbe where
  sdkInt : ℕ
  mem : Memory
  first : ℕ
  second : ℕ
  realFlags : BitVec 32
  hasObjectFieldOffset : Bool
  objectFieldOffset : String → String → Option ℕ
  hasInterpreterToCompiledCodeBridge : Bool

section Init

variable (art : Art) (probe : MethodProbe)

/-- The loop for the flags, and what is settled on where it ends at zero,
with a hit or without. -/
def findAccessFlags (artMethodSize : ℕ) : ℕ :=
  let found := (List.range ((artMethodSize + 3) / 4)).find? fun i =>
    readWord probe.mem (probe.first + 4 * i) == probe.realFlags
  let accessFlagsOffset := 4 * found.getD 0
  if accessFlagsOffset = 0 then if probe.sdkInt = 23 then 12 else 4 else accessFlagsOffset

/-- `get_offset_from_art_method`. -/
def MethodProbe.offsetFromArtMethod (name sig : String) : ℕ :=
  (probe.objectFieldOffset name sig).getD 0

/-- **What `ArtMethod::Init` settles on**, or that it fails. -/
def initMethodOffsets : Option MethodOffsets :=
  let artMethodSize := art.wrapSub probe.second probe.first
  let entryPointOffset := art.wrapSub artMethodSize art.arch.pointerSize
  let dataOffset := art.wrapSub entryPointOffset art.arch.pointerSize
  let offsets : Option MethodOffsets :=
    if 23 ≤ probe.sdkInt then
      some ⟨artMethodSize, 0, findAccessFlags probe artMethodSize, dataOffset, entryPointOffset, 0⟩
    else if probe.hasObjectFieldOffset then
      let accessFlagsOffset := probe.offsetFromArtMethod "accessFlags" "I"
      let declaringClassOffset :=
        probe.offsetFromArtMethod "declaringClass" "Ljava/lang/Class;"
      if probe.sdkInt = 21 then
        some ⟨artMethodSize, declaringClassOffset, accessFlagsOffset,
          probe.offsetFromArtMethod "entryPointFromJni" "J",
          probe.offsetFromArtMethod "entryPointFromQuickCompiledCode" "J",
          probe.offsetFromArtMethod "entryPointFromInterpreter" "J"⟩
      else some ⟨artMethodSize, declaringClassOffset, accessFlagsOffset, dataOffset,
        entryPointOffset, 0⟩
    else none
  offsets.bind fun offsets =>
    if probe.sdkInt ≤ 23 then
      if !probe.hasInterpreterToCompiledCodeBridge then none
      else if 22 ≤ probe.sdkInt then
        let interpreterEntryPointOffset :=
          art.wrapSub offsets.entryPointOffset (2 * art.arch.pointerSize)
        some { offsets with interpreterEntryPointOffset }
      else some offsets
    else some offsets

end Init

/-! ## ART's own layout -/

/-- Where the flags are: after two references more on Android 6. -/
def accessFlagsOffsetOf (sdkInt : ℕ) : ℕ := if sdkInt = 23 then 12 else 4

/-- The pointers a record ends with. -/
def pointersOf (sdkInt : ℕ) : ℕ := if sdkInt = 23 then 3 else 2

/-- **The layout ART has given its records** since they are not objects any
more: the class and the flags in front, and at the end the entry points and
between them the data. -/
def artMethodOffsets (art : Art) (sdkInt artMethodSize : ℕ) : MethodOffsets where
  artMethodSize := artMethodSize
  declaringClassOffset := 0
  accessFlagsOffset := accessFlagsOffsetOf sdkInt
  dataOffset := artMethodSize - 2 * art.arch.pointerSize
  entryPointOffset := artMethodSize - art.arch.pointerSize
  interpreterEntryPointOffset :=
    if sdkInt = 23 then artMethodSize - 3 * art.arch.pointerSize else 0

/-- There is room for them. -/
def Roomy (art : Art) (sdkInt artMethodSize : ℕ) : Prop :=
  accessFlagsOffsetOf sdkInt + 4 + pointersOf sdkInt * art.arch.pointerSize ≤ artMethodSize

variable {art : Art} {probe : MethodProbe} {sdkInt artMethodSize : ℕ}

theorem pointerSize_bounds (arch : Arch) : 4 ≤ arch.pointerSize ∧ arch.pointerSize ≤ 8 := by
  cases arch <;> decide

theorem fields_artMethodOffsets (hroom : Roomy art sdkInt artMethodSize) :
    (artMethodOffsets art sdkInt artMethodSize).fields art.arch =
      [⟨accessFlagsOffsetOf sdkInt, 4⟩,
        ⟨artMethodSize - art.arch.pointerSize, art.arch.pointerSize⟩,
        ⟨artMethodSize - 2 * art.arch.pointerSize, art.arch.pointerSize⟩, ⟨0, 4⟩] ++
      if sdkInt = 23 then [⟨artMethodSize - 3 * art.arch.pointerSize, art.arch.pointerSize⟩]
      else [] := by
  unfold Roomy accessFlagsOffsetOf pointersOf at hroom
  by_cases hsdk : sdkInt = 23
  · have hne : artMethodSize - 3 * art.arch.pointerSize ≠ 0 := by
      rw [if_pos hsdk, if_pos hsdk] at hroom
      omega
    simp [MethodOffsets.fields, MethodOffsets.accessFlags, MethodOffsets.entryPoint,
      MethodOffsets.data, MethodOffsets.declaringClass, MethodOffsets.interpreterEntryPoint,
      artMethodOffsets, hsdk, hne]
  · simp [MethodOffsets.fields, MethodOffsets.accessFlags, MethodOffsets.entryPoint,
      MethodOffsets.data, MethodOffsets.declaringClass, artMethodOffsets, hsdk]

/-- Its fields lie in the record. -/
theorem artMethodOffsets_inside (hroom : Roomy art sdkInt artMethodSize) :
    ∀ f ∈ (artMethodOffsets art sdkInt artMethodSize).fields art.arch,
      MethodField.offset f + f.size ≤ artMethodSize := by
  rw [fields_artMethodOffsets hroom]
  have hpointer := pointerSize_bounds art.arch
  unfold Roomy accessFlagsOffsetOf pointersOf at hroom
  unfold accessFlagsOffsetOf
  split_ifs at hroom ⊢ <;> simp <;> omega

/-- And none on another. -/
theorem artMethodOffsets_apart (hroom : Roomy art sdkInt artMethodSize) :
    ((artMethodOffsets art sdkInt artMethodSize).fields art.arch).Pairwise MethodField.Apart := by
  rw [fields_artMethodOffsets hroom]
  have hpointer := pointerSize_bounds art.arch
  unfold Roomy accessFlagsOffsetOf pointersOf at hroom
  unfold accessFlagsOffsetOf
  split_ifs at hroom ⊢ <;> simp [MethodField.Apart] <;> omega

/-- There is an interpreter entry point on Android 6 only. -/
theorem interpreterEntryPointOffset_artMethodOffsets (hroom : Roomy art sdkInt artMethodSize) :
    decide (sdkInt = 23) =
      decide ((artMethodOffsets art sdkInt artMethodSize).interpreterEntryPointOffset ≠ 0) := by
  unfold Roomy accessFlagsOffsetOf pointersOf at hroom
  by_cases hsdk : sdkInt = 23
  · rw [if_pos hsdk, if_pos hsdk] at hroom
    have hne : artMethodSize - 3 * art.arch.pointerSize ≠ 0 := by omega
    simp [artMethodOffsets, hsdk, hne]
  · simp [artMethodOffsets, hsdk]

/-- **It is a layout**: fields in the record that do not overlap. -/
def artMethodLayout (hroom : Roomy art sdkInt artMethodSize)
    (hentry : art.entryPointOffset =
      BitVec.ofNat 8 (artMethodOffsets art sdkInt artMethodSize).entryPointOffset)
    (hinterpreter : art.hasInterpreterEntryPoint = decide (sdkInt = 23)) : MethodLayout art where
  toMethodOffsets := artMethodOffsets art sdkInt artMethodSize
  inside := artMethodOffsets_inside hroom
  apart := artMethodOffsets_apart hroom
  entryPointOffset_eq := hentry
  hasInterpreterEntryPoint_eq :=
    hinterpreter.trans (interpreterEntryPointOffset_artMethodOffsets hroom)

/-- **The records are ART's**: the second follows the first, and the flags
are where ART has them. -/
structure MethodProbe.OfArt (art : Art) (probe : MethodProbe) (artMethodSize : ℕ) : Prop where
  sdkInt : 23 ≤ probe.sdkInt
  roomy : Roomy art probe.sdkInt artMethodSize
  second : probe.second = probe.first + artMethodSize
  lt : probe.second < art.addressSpace
  flags : readWord probe.mem (probe.first + accessFlagsOffsetOf probe.sdkInt) = probe.realFlags
  bridge : probe.sdkInt = 23 → probe.hasInterpreterToCompiledCodeBridge

/-- **Where the loop ends**: on Android 6 it may meet the flags' value in a
field before the flags. -/
theorem findAccessFlags_eq_iff (h : probe.OfArt art artMethodSize) :
    findAccessFlags probe artMethodSize = accessFlagsOffsetOf probe.sdkInt ↔
      24 ≤ probe.sdkInt ∨ readWord probe.mem probe.first = probe.realFlags ∨
        (readWord probe.mem (probe.first + 4) ≠ probe.realFlags ∧
          readWord probe.mem (probe.first + 8) ≠ probe.realFlags) := by
  have hflags := h.flags
  have hroom := h.roomy
  have hsdk := h.sdkInt
  unfold Roomy accessFlagsOffsetOf at hroom
  unfold accessFlagsOffsetOf at hflags ⊢
  set hit : ℕ → Bool := fun i => readWord probe.mem (probe.first + 4 * i) == probe.realFlags
    with hhit
  have hhits : ∀ i, hit i ↔ readWord probe.mem (probe.first + 4 * i) = probe.realFlags :=
    fun i => beq_iff_eq
  have hfind : ∀ i, 4 * i + 4 ≤ artMethodSize → hit i → (∀ j < i, ¬ hit j) →
      findAccessFlags probe artMethodSize =
        if i = 0 then if probe.sdkInt = 23 then 12 else 4 else 4 * i := by
    intro i hi hp hmin
    have hfound : (List.range ((artMethodSize + 3) / 4)).find? hit = some i :=
      find?_range_eq (by omega) hp hmin
    simp only [findAccessFlags, ← hhit, hfound, Option.getD_some]
    by_cases hzero : i = 0
    · simp [hzero]
    · simp [hzero]
  have hzero : hit 0 ↔ readWord probe.mem probe.first = probe.realFlags := hhits 0
  have hone : hit 1 ↔ readWord probe.mem (probe.first + 4) = probe.realFlags := hhits 1
  have htwo : hit 2 ↔ readWord probe.mem (probe.first + 8) = probe.realFlags := hhits 2
  simp only [ne_eq, ← hzero, ← hone, ← htwo]
  rcases Nat.lt_or_ge probe.sdkInt 24 with hlt | hge
  · have h23 : probe.sdkInt = 23 := by omega
    rw [if_pos h23] at hflags hroom
    have h3 : hit 3 := (hhits 3).2 hflags
    by_cases h0 : hit 0
    · have hfound := hfind 0 (by omega) h0 nofun
      simp [hfound, h0, h23]
    by_cases h1 : hit 1
    · have hfound := hfind 1 (by omega) h1 (by simpa using h0)
      simp [hfound, h0, h1, h23]
    by_cases h2 : hit 2
    · have hfound := hfind 2 (by omega) h2 (by
        intro j hj
        have hj : j = 0 ∨ j = 1 := by omega
        rcases hj with rfl | rfl
        · exact h0
        · exact h1)
      simp [hfound, h0, h1, h2, h23]
    · have hfound := hfind 3 (by omega) h3 (by
        intro j hj
        have hj : j = 0 ∨ j = 1 ∨ j = 2 := by omega
        rcases hj with rfl | rfl | rfl
        · exact h0
        · exact h1
        · exact h2)
      simp [hfound, h1, h2, h23]
  · -- a hit at zero settles for the same
    have h23 : probe.sdkInt ≠ 23 := by omega
    rw [if_neg h23] at hflags hroom
    have h1 : hit 1 := (hhits 1).2 hflags
    rw [if_neg h23]
    refine iff_of_true ?_ (Or.inl hge)
    by_cases h0 : hit 0
    · rw [hfind 0 (by omega) h0 nofun, if_pos rfl, if_neg h23]
    · rw [hfind 1 (by omega) h1 (by simpa using h0), if_neg (by decide)]

/-- **All but the flags** is where it has to be. -/
theorem initMethodOffsets_eq (h : probe.OfArt art artMethodSize) :
    initMethodOffsets art probe = some { artMethodOffsets art probe.sdkInt artMethodSize with
      accessFlagsOffset := findAccessFlags probe artMethodSize } := by
  have hsdk := h.sdkInt
  have hlt := h.lt
  have hroom := h.roomy
  unfold Roomy accessFlagsOffsetOf pointersOf at hroom
  have hpointers : 2 * art.arch.pointerSize ≤ artMethodSize := by
    split_ifs at hroom <;> omega
  have hsmall : artMethodSize < art.addressSpace := by
    have := h.second
    omega
  have hsize : art.wrapSub probe.second probe.first = artMethodSize := by
    rw [wrapSub_of_le (by have := h.second; omega) hlt, h.second, Nat.add_sub_cancel_left]
  have hentry : art.wrapSub artMethodSize art.arch.pointerSize =
      artMethodSize - art.arch.pointerSize := wrapSub_of_le (by omega) hsmall
  have hdata : art.wrapSub (artMethodSize - art.arch.pointerSize) art.arch.pointerSize =
      artMethodSize - 2 * art.arch.pointerSize := by
    rw [wrapSub_of_le (by omega) (by omega)]
    omega
  simp only [initMethodOffsets, hsize, hentry, hdata, if_pos hsdk, Option.bind_some]
  rcases Nat.lt_or_ge probe.sdkInt 24 with hold | hnew
  · have h23 : probe.sdkInt = 23 := by omega
    simp only [if_pos h23] at hroom
    have hinterpreter : art.wrapSub (artMethodSize - art.arch.pointerSize)
        (2 * art.arch.pointerSize) = artMethodSize - 3 * art.arch.pointerSize := by
      rw [wrapSub_of_le (by omega) (by omega)]
      omega
    simp [h23, h.bridge h23, hinterpreter, artMethodOffsets]
  · have h23 : probe.sdkInt ≠ 23 := by omega
    simp [h23, Nat.not_le.2 hnew, artMethodOffsets]

/-- **`ArtMethod::Init` finds ART's layout**: always from Android 7 on, and
on Android 6 exactly if the two references before the flags are not their
value, or the class is. -/
theorem initMethodOffsets_iff (h : probe.OfArt art artMethodSize) :
    initMethodOffsets art probe = some (artMethodOffsets art probe.sdkInt artMethodSize) ↔
      24 ≤ probe.sdkInt ∨ readWord probe.mem probe.first = probe.realFlags ∨
        (readWord probe.mem (probe.first + 4) ≠ probe.realFlags ∧
          readWord probe.mem (probe.first + 8) ≠ probe.realFlags) := by
  rw [← findAccessFlags_eq_iff h, initMethodOffsets_eq h, Option.some_inj]
  constructor
  · exact fun heq => congrArg MethodOffsets.accessFlagsOffset heq
  · intro hfound
    rw [hfound]
    rfl

/-- Records of 40 bytes on Android 6, the flags at 12. -/
def sampleProbe : MethodProbe where
  sdkInt := 23
  mem := Memory.write (fun _ => 7) (4096 + 12) (toLE 4 0x10001)
  first := 4096
  second := 4136
  realFlags := 0x10001
  hasObjectFieldOffset := false
  objectFieldOffset _ _ := none
  hasInterpreterToCompiledCodeBridge := true

theorem initMethodOffsets_sample :
    initMethodOffsets sampleArt sampleProbe = some (artMethodOffsets sampleArt 23 40) :=
  (initMethodOffsets_iff ⟨by decide, by unfold Roomy; decide, rfl, by decide, by decide,
    fun _ => rfl⟩).2 (by decide)

/-- And what it settles on then is a layout. -/
theorem initMethodOffsets_layout (h : probe.OfArt art artMethodSize)
    (hentry : art.entryPointOffset =
      BitVec.ofNat 8 (artMethodOffsets art probe.sdkInt artMethodSize).entryPointOffset)
    (hinterpreter : art.hasInterpreterEntryPoint = decide (probe.sdkInt = 23))
    (hfound : findAccessFlags probe artMethodSize = accessFlagsOffsetOf probe.sdkInt) :
    ∃ L : MethodLayout art, initMethodOffsets art probe = some L.toMethodOffsets := by
  refine ⟨artMethodLayout h.roomy hentry hinterpreter, ?_⟩
  rw [initMethodOffsets_eq h, hfound]
  rfl

/-! ## `Runtime::Init` -/

/-- `kLargeEnoughSizeForRuntime`. -/
def kLargeEnoughSizeForRuntime : ℕ := 4096

/-- `RuntimeDebugState`, as the `int` it is. -/
def RuntimeDebugState.toNat : RuntimeDebugState → ℕ
  | kNonJavaDebuggable => 0
  | kJavaDebuggable => 1
  | kJavaDebuggableAtInit => 2

/-- **ART's `SetRuntimeDebugState`**: what it does to the memory, for a
`Runtime` at an address. -/
abbrev SetRuntimeDebugState := Memory → ℕ → RuntimeDebugState → Memory

/-- **How `Runtime::Init` finds the debug state**: it is zero where it does
not. `code` is where the array of zeros is. -/
def findDebugState (setRuntimeDebugState : SetRuntimeDebugState) (mem : Memory) (code : ℕ) : ℕ :=
  let mem := mem.write code (List.replicate kLargeEnoughSizeForRuntime 0)
  let mem := setRuntimeDebugState mem code .kJavaDebuggable
  ((List.range kLargeEnoughSizeForRuntime).find? fun i =>
    readWord mem (code + i) == BitVec.ofNat 32 RuntimeDebugState.kJavaDebuggable.toNat).getD 0

/-- **How `SetJavaDebuggable` sets it** where there is no function that does. -/
def writeDebugState (mem : Memory) (runtime debugStateOffset : ℕ) (value : RuntimeDebugState) :
    Memory :=
  if 0 < debugStateOffset then mem.write (runtime + debugStateOffset) (toLE 4 value.toNat)
  else mem

/-- The low byte of a word is the first in memory. -/
theorem readWord_mod (mem : Memory) (a : ℕ) : (readWord mem a).toNat % 256 = (mem a).toNat := by
  have hread : mem.read a 4 = [mem a, mem (a + 1), mem (a + 2), mem (a + 3)] := rfl
  have hbyte := (mem a).isLt
  simp only [readWord, hread, ofLE, BitVec.toNat_ofNat]
  omega

theorem readWord_write (mem : Memory) {a n : ℕ} (h : n < 256 ^ 4) :
    readWord (mem.write a (toLE 4 n)) a = BitVec.ofNat 32 n := by
  have hself : (mem.write a (toLE 4 n)).read a (toLE 4 n).length = toLE 4 n :=
    Memory.read_write_self
  rw [length_toLE] at hself
  rw [readWord, hself, ofLE_toLE h]

/-- **`Runtime::Init` finds the debug state**: where ART keeps it as a word at
an offset that is in reach, this is the offset found, and writing there does
what ART's own function does, to any `Runtime` and for any state. -/
theorem findDebugState_eq {setRuntimeDebugState : SetRuntimeDebugState} {offset : ℕ}
    (hart : ∀ mem runtime value, setRuntimeDebugState mem runtime value =
      mem.write (runtime + offset) (toLE 4 value.toNat))
    (hreach : offset + 4 ≤ kLargeEnoughSizeForRuntime) (mem : Memory) (code : ℕ) :
    findDebugState setRuntimeDebugState mem code = offset ∧
      (0 < offset → ∀ mem' runtime value,
        writeDebugState mem' runtime (findDebugState setRuntimeDebugState mem code) value =
          setRuntimeDebugState mem' runtime value) := by
  have hfound : findDebugState setRuntimeDebugState mem code = offset := by
    simp only [findDebugState, hart]
    rw [find?_range_eq (i := offset) (by omega), Option.getD_some]
    · rw [readWord_write _ (by decide)]
      exact beq_self_eq_true _
    · intro i hi hhit
      -- a byte of zeros before the word is the low byte of no hit
      have hword := congrArg (fun w => BitVec.toNat w % 256) (eq_of_beq hhit)
      simp only [readWord_mod] at hword
      rw [Memory.write_of_lt (by omega), Memory.write_replicate, if_pos (by omega)] at hword
      exact absurd hword (by decide)
  refine ⟨hfound, fun hpos mem' runtime value => ?_⟩
  rw [hfound, hart, writeDebugState, if_pos hpos]

theorem findDebugState_sample :
    let setRuntimeDebugState : SetRuntimeDebugState := fun mem runtime value =>
      mem.write (runtime + 40) (toLE 4 value.toNat)
    findDebugState setRuntimeDebugState (fun _ => 7) 8192 = 40 :=
  (findDebugState_eq (fun _ _ _ => rfl) (by decide) (fun _ => 7) 8192).1

end LSPlant
