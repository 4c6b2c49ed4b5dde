import LSPlant.Art.ArtMethod
import LSPlant.Trampoline.Write
import Mathlib.Data.List.Pairwise
/-!
# ArtMethod, byte by byte

The method record as `ArtMethod`'s accessors see it: `art_method_size`
bytes with five fields at offsets `Init` finds out. A setter is a store at
an offset and a copy is a copy of all the bytes, those of fields LSPlant
has no name for included. A method's
pointer is the address of its first byte.
-/

namespace LSPlant

open Byte

/-- A field of a record: its offset and its bytes. -/
structure MethodField where
  offset : ℕ
  size : ℕ
deriving DecidableEq

/-- No byte is in both. -/
def MethodField.Apart (f g : MethodField) : Prop :=
  f.offset + f.size ≤ g.offset ∨ g.offset + g.size ≤ f.offset

instance (f g : MethodField) : Decidable (f.Apart g) := instDecidableOr

theorem MethodField.Apart.symm {f g : MethodField} (h : f.Apart g) : g.Apart f := Or.symm h

/-- **The offsets `ArtMethod::Init` settles on.** The interpreter's entry
point is at `0` where there is none. -/
structure MethodOffsets where
  artMethodSize : ℕ
  declaringClassOffset : ℕ
  accessFlagsOffset : ℕ
  dataOffset : ℕ
  entryPointOffset : ℕ
  interpreterEntryPointOffset : ℕ

namespace MethodOffsets

variable (o : MethodOffsets) (arch : Arch)

def declaringClass : MethodField := ⟨o.declaringClassOffset, 4⟩
def accessFlags : MethodField := ⟨o.accessFlagsOffset, 4⟩
def data : MethodField := ⟨o.dataOffset, arch.pointerSize⟩
def entryPoint : MethodField := ⟨o.entryPointOffset, arch.pointerSize⟩
def interpreterEntryPoint : MethodField := ⟨o.interpreterEntryPointOffset, arch.pointerSize⟩

/-- The fields there are. -/
def fields : List MethodField :=
  [o.accessFlags, o.entryPoint arch, o.data arch, o.declaringClass] ++
    if o.interpreterEntryPointOffset = 0 then [] else [o.interpreterEntryPoint arch]

end MethodOffsets

/-- **A layout**: offsets whose fields lie in the record and do not
overlap, and that are what `Art` says of them. -/
structure MethodLayout (art : Art) extends MethodOffsets where
  inside : ∀ f ∈ toMethodOffsets.fields art.arch, f.offset + f.size ≤ artMethodSize
  apart : (toMethodOffsets.fields art.arch).Pairwise MethodField.Apart
  entryPointOffset_eq : art.entryPointOffset = BitVec.ofNat 8 entryPointOffset
  hasInterpreterEntryPoint_eq :
    art.hasInterpreterEntryPoint = decide (interpreterEntryPointOffset ≠ 0)

namespace MethodLayout

variable {art : Art} (L : MethodLayout art) (mem : Memory) (m : ℕ)

/-! ## Accessors -/

def getAccessFlags : BitVec 32 := BitVec.ofNat 32 (ofLE (mem.read (m + L.accessFlagsOffset) 4))

def setAccessFlags (flags : BitVec 32) : Memory :=
  mem.write (m + L.accessFlagsOffset) (toLE 4 flags.toNat)

/-- A setter of flags reads the word and stores it again. -/
def modifyAccessFlags (f : BitVec 32 → BitVec 32) : Memory :=
  L.setAccessFlags mem m (f (L.getAccessFlags mem m))

def setNonCompilable : Memory :=
  L.modifyAccessFlags mem m fun accessFlags =>
    (accessFlags ||| art.masks.kAccCompileDontBother) &&& ~~~art.masks.kAccPreCompiled

def clearFastInterpretFlag : Memory :=
  L.modifyAccessFlags mem m (· &&& ~~~art.masks.kAccFastInterpreterToInterpreterInvoke)

def setPrivate : Memory :=
  L.modifyAccessFlags mem m fun accessFlags =>
    (accessFlags ||| kAccPrivate) &&& ~~~kAccProtected &&& ~~~kAccPublic

def setNonConstructor : Memory := L.modifyAccessFlags mem m (· &&& ~~~kAccConstructor)

/-- ART's own function where it was found, the hard-coded mask elsewhere. -/
def nonIntrinsic (art : Art) (accessFlags : BitVec 32) : BitVec 32 :=
  match art.setNotIntrinsic with
  | some f => f accessFlags
  | none => accessFlags &&& ~~~art.masks.kAccIntrinsic

def setNonIntrinsic : Memory := L.modifyAccessFlags mem m (nonIntrinsic art)

def isStatic : Bool := (L.getAccessFlags mem m &&& kAccStatic) != 0

/-- `std::memcpy(this, other, art_method_size)`. -/
def copyFrom (other : ℕ) : Memory := mem.write m (mem.read other L.artMethodSize)

/-- The entry point, and the interpreter's where this ART has one. -/
def setEntryPoint (entryPoint : ℕ) : Memory :=
  let mem := mem.write (m + L.entryPointOffset) (toLE art.arch.pointerSize entryPoint)
  if L.interpreterEntryPointOffset ≠ 0 then
    mem.write (m + L.interpreterEntryPointOffset)
      (toLE art.arch.pointerSize art.artInterpreterToCompiledCodeBridge)
  else mem

/-! ## Where the fields are -/

/-- Two records share no byte. -/
def Distinct (m n : ℕ) : Prop :=
  m + L.artMethodSize ≤ n ∨ n + L.artMethodSize ≤ m

/-- **The records agree off the flag word.** -/
def AgreeOffFlags (mem mem' : Memory) (m n : ℕ) : Prop :=
  ∀ i < L.artMethodSize, i < L.accessFlagsOffset ∨ L.accessFlagsOffset + 4 ≤ i →
    mem (m + i) = mem' (n + i)

theorem accessFlags_mem : L.accessFlags ∈ L.fields art.arch := by
  simp [MethodOffsets.fields]

theorem entryPoint_mem : L.entryPoint art.arch ∈ L.fields art.arch := by
  simp [MethodOffsets.fields]

theorem interpreterEntryPoint_mem (h : L.interpreterEntryPointOffset ≠ 0) :
    L.interpreterEntryPoint art.arch ∈ L.fields art.arch := by
  simp [MethodOffsets.fields, h]

theorem accessFlags_le : L.accessFlagsOffset + 4 ≤ L.artMethodSize :=
  L.inside _ L.accessFlags_mem

/-- The flag word is apart from every other field. -/
theorem accessFlags_apart {f : MethodField} (h : f ∈ (L.fields art.arch).tail) :
    L.accessFlags.Apart f := by
  have hpair := L.apart
  rw [MethodOffsets.fields, List.cons_append, List.pairwise_cons] at hpair
  exact hpair.1 f h

/-- And so is the entry point from those that come after it. -/
theorem entryPoint_apart {f : MethodField} (h : f ∈ (L.fields art.arch).tail.tail) :
    (L.entryPoint art.arch).Apart f := by
  have hpair := L.apart
  rw [MethodOffsets.fields, List.cons_append, List.pairwise_cons, List.cons_append,
    List.pairwise_cons] at hpair
  exact hpair.2.1 f h

/-- The interpreter's entry point is apart from every other field. -/
theorem interpreterEntryPoint_apart {f : MethodField}
    (h0 : L.interpreterEntryPointOffset ≠ 0)
    (h : f ∈ [L.accessFlags, L.entryPoint art.arch, L.data art.arch, L.declaringClass]) :
    f.Apart (L.interpreterEntryPoint art.arch) := by
  have hpair := L.apart
  rw [MethodOffsets.fields, if_neg h0, List.pairwise_append] at hpair
  exact hpair.2.2 f h _ (List.mem_singleton_self _)

variable {L} {mem} {m} {mem' mem'' : Memory} {n k other : ℕ}
  {f : BitVec 32 → BitVec 32} {flags : BitVec 32} {e x : ℕ}

theorem Distinct.symm (h : L.Distinct m n) : L.Distinct n m := Or.symm h

theorem Distinct.ne (h : L.Distinct m n) : m ≠ n := by
  rintro rfl
  have hle := L.accessFlags_le
  rcases h with h | h <;> omega

theorem AgreeOffFlags.trans (h : L.AgreeOffFlags mem mem' m n)
    (h' : L.AgreeOffFlags mem' mem'' n k) : L.AgreeOffFlags mem mem'' m k :=
  fun i hi hoff => (h i hi hoff).trans (h' i hi hoff)

/-! ## Flags -/

/-- A store of flags touches the flag word only. -/
theorem setAccessFlags_apply (h : x < m + L.accessFlagsOffset ∨ m + L.accessFlagsOffset + 4 ≤ x) :
    L.setAccessFlags mem m flags x = mem x := by
  rcases h with h | h
  · exact Memory.write_of_lt h
  · exact Memory.write_of_ge (by rw [length_toLE]; exact h)

@[simp] theorem getAccessFlags_setAccessFlags :
    L.getAccessFlags (L.setAccessFlags mem m flags) m = flags := by
  have hread : (L.setAccessFlags mem m flags).read (m + L.accessFlagsOffset) 4 =
      toLE 4 flags.toNat := by
    have hself : (L.setAccessFlags mem m flags).read (m + L.accessFlagsOffset)
        (toLE 4 flags.toNat).length = toLE 4 flags.toNat := Memory.read_write_self
    rwa [length_toLE] at hself
  have hlt : flags.toNat < 256 ^ 4 := flags.isLt
  rw [getAccessFlags, hread, ofLE_toLE hlt, BitVec.ofNat_toNat, BitVec.setWidth_eq]

/-- The flags of a record depend on its bytes only. -/
theorem getAccessFlags_congr (h : ∀ i < L.artMethodSize, mem (m + i) = mem' (n + i)) :
    L.getAccessFlags mem m = L.getAccessFlags mem' n := by
  have hle := L.accessFlags_le
  have hread : mem.read (m + L.accessFlagsOffset) 4 = mem'.read (n + L.accessFlagsOffset) 4 := by
    refine List.map_congr_left fun i hi => ?_
    have hi := List.mem_range.1 hi
    simpa only [Nat.add_assoc] using h (L.accessFlagsOffset + i) (by omega)
  rw [getAccessFlags, getAccessFlags, hread]

theorem getAccessFlags_modifyAccessFlags :
    L.getAccessFlags (L.modifyAccessFlags mem m f) m = f (L.getAccessFlags mem m) :=
  getAccessFlags_setAccessFlags

/-- A setter of flags leaves every byte of another record. -/
theorem modifyAccessFlags_of_distinct (h : L.Distinct n m) :
    ∀ i < L.artMethodSize, L.modifyAccessFlags mem m f (n + i) = mem (n + i) := by
  intro i hi
  have hle := L.accessFlags_le
  refine setAccessFlags_apply ?_
  rcases h with h | h <;> omega

theorem getAccessFlags_modifyAccessFlags_of_distinct (h : L.Distinct n m) :
    L.getAccessFlags (L.modifyAccessFlags mem m f) n = L.getAccessFlags mem n :=
  getAccessFlags_congr (modifyAccessFlags_of_distinct h)

/-- And of its own record all but the flag word. -/
theorem agreeOffFlags_modifyAccessFlags :
    L.AgreeOffFlags (L.modifyAccessFlags mem m f) mem m m := by
  intro i _ hoff
  refine setAccessFlags_apply ?_
  omega

/-! ## Copies -/

/-- **A copy is the record it was made of**, byte for byte. -/
theorem copyFrom_apply {i : ℕ} (hi : i < L.artMethodSize) :
    L.copyFrom mem m other (m + i) = mem (other + i) := by
  have h : i < (mem.read other L.artMethodSize).length := by rwa [Memory.length_read]
  rw [copyFrom, Memory.write_apply h]
  simp [Memory.read]

theorem copyFrom_of_distinct (h : L.Distinct n m) :
    ∀ i < L.artMethodSize, L.copyFrom mem m other (n + i) = mem (n + i) := by
  intro i hi
  rcases h with h | h
  · exact Memory.write_of_lt (by omega)
  · exact Memory.write_of_ge (by rw [Memory.length_read]; omega)

theorem getAccessFlags_copyFrom :
    L.getAccessFlags (L.copyFrom mem m other) m = L.getAccessFlags mem other :=
  getAccessFlags_congr fun _ hi => copyFrom_apply hi

/-! ## Entry points -/

/-- A byte in neither of the entry points is left alone. -/
theorem setEntryPoint_apply
    (hentry : x < m + L.entryPointOffset ∨ m + L.entryPointOffset + art.arch.pointerSize ≤ x)
    (hinterpreter : L.interpreterEntryPointOffset ≠ 0 → x < m + L.interpreterEntryPointOffset ∨
      m + L.interpreterEntryPointOffset + art.arch.pointerSize ≤ x) :
    L.setEntryPoint mem m e x = mem x := by
  have hwrite : ∀ (mem : Memory) a v, x < a ∨ a + art.arch.pointerSize ≤ x →
      mem.write a (toLE art.arch.pointerSize v) x = mem x := by
    intro mem a v h
    rcases h with h | h
    · exact Memory.write_of_lt h
    · exact Memory.write_of_ge (by rw [length_toLE]; exact h)
  unfold setEntryPoint
  split
  · rename_i h
    rw [hwrite _ _ _ (hinterpreter h), hwrite _ _ _ hentry]
  · exact hwrite _ _ _ hentry

/-- Setting the entry point leaves every byte of another record. -/
theorem setEntryPoint_of_distinct (h : L.Distinct n m) :
    ∀ i < L.artMethodSize, L.setEntryPoint mem m e (n + i) = mem (n + i) := by
  intro i hi
  have hentry : L.entryPointOffset + art.arch.pointerSize ≤ L.artMethodSize :=
    L.inside _ L.entryPoint_mem
  refine setEntryPoint_apply ?_ fun h0 => ?_
  · rcases h with h | h <;> omega
  · have hinterpreter : L.interpreterEntryPointOffset + art.arch.pointerSize ≤ L.artMethodSize :=
      L.inside _ (L.interpreterEntryPoint_mem h0)
    rcases h with h | h <;> omega

/-- And the flags of its own. -/
theorem getAccessFlags_setEntryPoint :
    L.getAccessFlags (L.setEntryPoint mem m e) m = L.getAccessFlags mem m := by
  have hread : (L.setEntryPoint mem m e).read (m + L.accessFlagsOffset) 4 =
      mem.read (m + L.accessFlagsOffset) 4 := by
    refine Memory.read_congr fun i hi => ?_
    have hentry : L.accessFlags.Apart (L.entryPoint art.arch) :=
      L.accessFlags_apart (by simp [MethodOffsets.fields])
    simp only [MethodField.Apart, MethodOffsets.accessFlags, MethodOffsets.entryPoint] at hentry
    refine setEntryPoint_apply (by omega) fun h0 => ?_
    have hinterpreter : L.accessFlags.Apart (L.interpreterEntryPoint art.arch) :=
      L.accessFlags_apart (by simp [MethodOffsets.fields, h0])
    simp only [MethodField.Apart, MethodOffsets.accessFlags,
      MethodOffsets.interpreterEntryPoint] at hinterpreter
    omega
  rw [getAccessFlags, getAccessFlags, hread]

/-! ## Read as a record -/

variable (L mem m) in
/-- **The record the bytes stand for**, given what the code at an address
is. -/
def record (codeAt : ℕ → EntryPoint) : ArtMethod where
  declaringClass := ofLE (mem.read (m + L.declaringClassOffset) 4)
  accessFlags := L.getAccessFlags mem m
  data := ofLE (mem.read (m + L.dataOffset) art.arch.pointerSize)
  entryPoint := codeAt (ofLE (mem.read (m + L.entryPointOffset) art.arch.pointerSize))
  interpreterEntryPoint :=
    if L.interpreterEntryPointOffset = 0 then nullptr
    else ofLE (mem.read (m + L.interpreterEntryPointOffset) art.arch.pointerSize)

variable {codeAt : ℕ → EntryPoint}

/-- Where every field but the flags reads the same, the records differ by
the flags. -/
theorem record_eq (h : ∀ f ∈ (L.fields art.arch).tail,
    mem.read (m + f.offset) f.size = mem'.read (n + f.offset) f.size) :
    L.record mem m codeAt =
      { L.record mem' n codeAt with accessFlags := L.getAccessFlags mem m } := by
  have hdeclaring : mem.read (m + L.declaringClassOffset) 4 =
      mem'.read (n + L.declaringClassOffset) 4 :=
    h L.declaringClass (by simp [MethodOffsets.fields])
  have hdata : ofLE (mem.read (m + L.dataOffset) art.arch.pointerSize) =
      ofLE (mem'.read (n + L.dataOffset) art.arch.pointerSize) :=
    congrArg ofLE (h (L.data art.arch) (by simp [MethodOffsets.fields]))
  have hentry : ofLE (mem.read (m + L.entryPointOffset) art.arch.pointerSize) =
      ofLE (mem'.read (n + L.entryPointOffset) art.arch.pointerSize) :=
    congrArg ofLE (h (L.entryPoint art.arch) (by simp [MethodOffsets.fields]))
  have hinterpreter : (if L.interpreterEntryPointOffset = 0 then nullptr
      else ofLE (mem.read (m + L.interpreterEntryPointOffset) art.arch.pointerSize)) =
      if L.interpreterEntryPointOffset = 0 then nullptr
      else ofLE (mem'.read (n + L.interpreterEntryPointOffset) art.arch.pointerSize) := by
    split
    · rfl
    · rename_i h0
      exact congrArg ofLE (h (L.interpreterEntryPoint art.arch)
        (by simp [MethodOffsets.fields, h0]))
  simp only [record, hdeclaring, hdata, hentry, hinterpreter]

/-- Records of the same bytes are the same. -/
theorem record_congr (h : ∀ i < L.artMethodSize, mem (m + i) = mem' (n + i)) :
    L.record mem m codeAt = L.record mem' n codeAt := by
  have hread : ∀ f ∈ (L.fields art.arch).tail,
      mem.read (m + f.offset) f.size = mem'.read (n + f.offset) f.size := by
    intro f hf
    have hle := L.inside f (List.mem_of_mem_tail hf)
    refine List.map_congr_left fun i hi => ?_
    have hi := List.mem_range.1 hi
    simpa only [Nat.add_assoc] using h (f.offset + i) (by omega)
  rw [record_eq hread, getAccessFlags_congr h]
  rfl

/-- **A setter of flags sets the flags of the record.** -/
theorem record_modifyAccessFlags :
    L.record (L.modifyAccessFlags mem m f) m codeAt =
      { L.record mem m codeAt with accessFlags := f (L.record mem m codeAt).accessFlags } := by
  have hread : ∀ g ∈ (L.fields art.arch).tail,
      (L.modifyAccessFlags mem m f).read (m + g.offset) g.size =
        mem.read (m + g.offset) g.size := by
    intro g hg
    have hapart := L.accessFlags_apart hg
    simp only [MethodField.Apart, MethodOffsets.accessFlags] at hapart
    exact Memory.read_congr fun i hi => setAccessFlags_apply (by omega)
  rw [record_eq hread, getAccessFlags_modifyAccessFlags]
  rfl

theorem record_copyFrom :
    L.record (L.copyFrom mem m other) m codeAt = L.record mem other codeAt :=
  record_congr fun _ hi => copyFrom_apply hi

/-- **Setting the entry point sets that of the record**, and the
interpreter's where there is one. -/
theorem record_setEntryPoint (he : art.arch.Fits e)
    (hbridge : art.arch.Fits art.artInterpreterToCompiledCodeBridge) :
    L.record (L.setEntryPoint mem m e) m codeAt =
      (L.record mem m codeAt).setEntryPoint art (codeAt e) := by
  have hread : ∀ g ∈ (L.fields art.arch).tail.tail, (L.interpreterEntryPointOffset ≠ 0 →
      g.Apart (L.interpreterEntryPoint art.arch)) →
      (L.setEntryPoint mem m e).read (m + g.offset) g.size = mem.read (m + g.offset) g.size := by
    intro g hg hinterpreter
    have hentry := L.entryPoint_apart hg
    simp only [MethodField.Apart, MethodOffsets.entryPoint,
      MethodOffsets.interpreterEntryPoint] at hentry hinterpreter
    exact Memory.read_congr fun i hi =>
      setEntryPoint_apply (by omega) fun h0 => by have := hinterpreter h0; omega
  have hdeclaring := hread L.declaringClass (by simp [MethodOffsets.fields])
    fun h0 => L.interpreterEntryPoint_apart h0 (by simp)
  have hdata := hread (L.data art.arch) (by simp [MethodOffsets.fields])
    fun h0 => L.interpreterEntryPoint_apart h0 (by simp)
  simp only [MethodOffsets.declaringClass, MethodOffsets.data] at hdeclaring hdata
  have hself : ∀ (mem : Memory) a v, (mem.write a (toLE art.arch.pointerSize v)).read a
      art.arch.pointerSize = toLE art.arch.pointerSize v := by
    intro mem a v
    have h : (mem.write a (toLE art.arch.pointerSize v)).read a
        (toLE art.arch.pointerSize v).length = toLE art.arch.pointerSize v :=
      Memory.read_write_self
    rwa [length_toLE] at h
  have hentry : ofLE ((L.setEntryPoint mem m e).read (m + L.entryPointOffset)
      art.arch.pointerSize) = e := by
    unfold setEntryPoint
    split
    · rename_i h0
      have hapart := L.interpreterEntryPoint_apart h0 (f := L.entryPoint art.arch) (by simp)
      simp only [MethodField.Apart, MethodOffsets.entryPoint,
        MethodOffsets.interpreterEntryPoint] at hapart
      rw [Memory.read_write_of_disjoint (by rw [length_toLE]; omega), hself, ofLE_toLE he]
    · rw [hself, ofLE_toLE he]
  have hinterpreter : (if L.interpreterEntryPointOffset = 0 then nullptr
      else ofLE ((L.setEntryPoint mem m e).read (m + L.interpreterEntryPointOffset)
        art.arch.pointerSize)) =
      if art.hasInterpreterEntryPoint then art.artInterpreterToCompiledCodeBridge
      else (L.record mem m codeAt).interpreterEntryPoint := by
    rw [L.hasInterpreterEntryPoint_eq]
    by_cases h0 : L.interpreterEntryPointOffset = 0
    · simp [h0, record]
    · rw [if_neg h0, if_pos (decide_eq_true h0), setEntryPoint, if_pos h0, hself,
        ofLE_toLE hbridge]
  rw [record, hentry, getAccessFlags_setEntryPoint, hinterpreter, hdeclaring, hdata]
  rfl

end MethodLayout

end LSPlant
