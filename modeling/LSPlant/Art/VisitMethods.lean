import LSPlant.Art.Config
import LSPlant.Library.Bytes
/-!
# Walking the methods of a class

`Class::VisitMethods` reads the arrays a class object keeps its methods
in, with address arithmetic of its own for each of three layouts. The
walk is recorded here as the bytes it reads and the calls it makes of the
visitor, next to what the arrays hold. The walk of one layout forgets to
add the address of the array.
-/

namespace LSPlant

open Byte

/-! ## The walk -/

/-- **What `Class::Init` and `ArtMethod::Init` found** of the layout of
classes and methods. An offset that was not found is zero. -/
structure ClassLayout where
  arch : Arch
  apiLevel : ℕ
  methodsOrDirectMethodsOffset : ℕ
  virtualMethodsOffset : ℕ
  artMethodSize : ℕ
  objectArrayBaseOffset : ℕ

namespace ClassLayout

variable (L : ClassLayout)

/-- Where addresses end. -/
def addressSpace : ℕ := 2 ^ (8 * L.arch.pointerSize)

/-- A number as a `uintptr_t`. -/
def wrap (n : ℕ) : ℕ := n % L.addressSpace

/-- A `jint` compared with a `size_t`. -/
def jintToSizeT (n : ℕ) : ℕ := if n < 2 ^ 31 then n else n + (L.addressSpace - 2 ^ 32)

end ClassLayout

variable {σ : Type*}

/-- **A walk so far**: the ranges read, by address and length, the methods
the visitor was called on, and the state the visitor keeps. -/
structure Walk (σ : Type*) where
  reads : List (ℕ × ℕ)
  calls : List ArtMethodPtr
  state : σ

/-- A read. -/
def Walk.load (walk : Walk σ) (a n : ℕ) : Walk σ := { walk with reads := walk.reads ++ [(a, n)] }

/-- A call of the visitor. -/
def Walk.called (walk : Walk σ) (method : ArtMethodPtr) (state : σ) : Walk σ :=
  { walk with calls := walk.calls ++ [method], state := state }

/-- `ArraySlice`. -/
structure ArraySlice where
  array : ℕ
  size : ℕ
  elementSize : ℕ

/-- The constructor of a slice keeps 32 bits of the length. -/
def ArraySlice.ofLength (array length elementSize : ℕ) : ArraySlice where
  array := array
  size := length % 2 ^ 32
  elementSize := elementSize

section VisitMethods

variable (L : ClassLayout) (mem : Memory) (this : ℕ)
  (visitor : σ → ArtMethodPtr → Bool × σ)

/-- A pointer kept as a `jlong` at an offset of the class object. -/
def methodsPointer (offset : ℕ) : ℕ := L.wrap (ofLE (mem.read (L.wrap (this + offset)) 8))

/-- A reference kept in 32 bits. -/
def methodsReference (offset : ℕ) : ℕ := ofLE (mem.read (L.wrap (this + offset)) 4)

/-- The length before the methods of an array. -/
def prefixedLength (methods : ℕ) : ℕ := ofLE (mem.read methods L.arch.pointerSize)

/-- **`GetDeclaredMethods`** -/
def getDeclaredMethods (walk : Walk σ) : ArraySlice × Walk σ :=
  let methods := methodsPointer L mem this L.methodsOrDirectMethodsOffset
  let array := L.wrap (methods + L.arch.pointerSize)
  (.ofLength array (prefixedLength L mem methods) L.artMethodSize,
    (walk.load (L.wrap (this + L.methodsOrDirectMethodsOffset)) 8).load methods
      L.arch.pointerSize)

/-- The loop over a slice, until the iterator is where the slice ends. As
many strides as the slice has elements get there, at the latest. -/
def visitSlice (stride stop : ℕ) : ℕ → ℕ → Walk σ → Bool × Walk σ
  | 0, _, walk => (false, walk)
  | n + 1, ptr, walk =>
    if ptr = stop then (false, walk)
    else match visitor walk.state ptr with
      | (true, state) => (true, walk.called ptr state)
      | (false, state) => visitSlice stride stop n (L.wrap (ptr + stride)) (walk.called ptr state)

/-- The loop of Android 6 from the `i`th method on, `n` to go. -/
def visitPrefixed (methods : ℕ) : ℕ → ℕ → Walk σ → Bool × Walk σ
  | _, 0, walk => (false, walk)
  | i, n + 1, walk =>
    let method := L.wrap (i * L.artMethodSize + methods + L.arch.pointerSize)
    match visitor walk.state method with
    | (true, state) => (true, walk.called method state)
    | (false, state) => visitPrefixed methods (i + 1) n (walk.called method state)

/-- The loop of Android 5. -/
def visitReferences : ℕ → ℕ → Walk σ → Bool × Walk σ
  | _, 0, walk => (false, walk)
  | i, n + 1, walk =>
    -- as the source has it: the address of the array is not added
    let slot := L.wrap (i * 4 + L.objectArrayBaseOffset)
    let method := ofLE (mem.read slot 4)
    let walk := walk.load slot 4
    match visitor walk.state method with
    | (true, state) => (true, walk.called method state)
    | (false, state) => visitReferences (i + 1) n (walk.called method state)

/-- **`VisitMethodsForMOrLower`** -/
def visitMethodsForMOrLower (offset : ℕ) (walk : Walk σ) : Bool × Walk σ :=
  if L.apiLevel = 23 then
    let methods := methodsPointer L mem this offset
    visitPrefixed L visitor methods 0 (prefixedLength L mem methods)
      ((walk.load (L.wrap (this + offset)) 8).load methods L.arch.pointerSize)
  else
    let methods := methodsReference L mem this offset
    let slot := L.wrap (methods + L.objectArrayBaseOffset - 4)
    visitReferences L mem visitor 0 (L.jintToSizeT (ofLE (mem.read slot 4)))
      ((walk.load (L.wrap (this + offset)) 4).load slot 4)

/-- **`VisitMethods`**, the method of a class object. -/
def visitMethods (state : σ) : Bool × Walk σ :=
  let walk : Walk σ := ⟨[], [], state⟩
  if 24 ≤ L.apiLevel then
    if L.methodsOrDirectMethodsOffset = 0 then (false, walk)
    else
      let (slice, walk) := getDeclaredMethods L mem this walk
      let stop := L.wrap (slice.array + slice.size * slice.elementSize)
      (true, (visitSlice L visitor slice.elementSize stop slice.size slice.array walk).2)
  else if L.methodsOrDirectMethodsOffset ≠ 0 ∧ L.virtualMethodsOffset ≠ 0 then
    let (stopped, walk) :=
      visitMethodsForMOrLower L mem this visitor L.methodsOrDirectMethodsOffset walk
    (true, if stopped then walk
      else (visitMethodsForMOrLower L mem this visitor L.virtualMethodsOffset walk).2)
  else (false, walk)

end VisitMethods

/-! ## What the arrays hold -/

/-- An array of methods: the bytes it takes, and the methods in order. -/
structure MethodArray where
  address : ℕ
  size : ℕ
  methods : List ArtMethodPtr

/-- **Layouts in which the offsets are known**, with the length of a class
object and the address up to which nothing is mapped. -/
structure KnownLayout extends ClassLayout where
  classSize : ℕ
  unmapped : ℕ
  offset_ne : methodsOrDirectMethodsOffset ≠ 0
  virtual_ne : apiLevel < 24 → virtualMethodsOffset ≠ 0
  inside : methodsOrDirectMethodsOffset + (if apiLevel < 23 then 4 else 8) ≤ classSize
  virtual_inside : apiLevel < 24 →
    virtualMethodsOffset + (if apiLevel < 23 then 4 else 8) ≤ classSize
  artMethodSize_pos : 0 < artMethodSize
  /-- The length of an array lies before its elements. -/
  lengthSize_le : apiLevel < 23 → 4 ≤ objectArrayBaseOffset
  baseOffset_lt : objectArrayBaseOffset < unmapped

section Declared

variable (L : KnownLayout) (mem : Memory) (this : ℕ)

/-- A length and as many methods, one behind the other. -/
def prefixedArray (methods : ℕ) : MethodArray where
  address := methods
  size := L.arch.pointerSize + prefixedLength L.toClassLayout mem methods * L.artMethodSize
  methods := (List.range (prefixedLength L.toClassLayout mem methods)).map fun i =>
    methods + L.arch.pointerSize + i * L.artMethodSize

/-- The length of a managed array. -/
def referenceLength (methods : ℕ) : ℕ := ofLE (mem.read (methods + L.objectArrayBaseOffset - 4) 4)

/-- A managed array of references to methods. -/
def referenceArray (methods : ℕ) : MethodArray where
  address := methods
  size := L.objectArrayBaseOffset + referenceLength L mem methods * 4
  methods := (List.range (referenceLength L mem methods)).map fun i =>
    ofLE (mem.read (methods + L.objectArrayBaseOffset + i * 4) 4)

/-- **The arrays of a class**, direct methods before virtual ones. Where the
pointer is null there is no array. -/
def declaredArrays : List MethodArray :=
  List.filter (fun array => array.address ≠ 0) <|
    if 24 ≤ L.apiLevel then
      [prefixedArray L mem
        (methodsPointer L.toClassLayout mem this L.methodsOrDirectMethodsOffset)]
    else if L.apiLevel = 23 then
      [prefixedArray L mem
        (methodsPointer L.toClassLayout mem this L.methodsOrDirectMethodsOffset),
        prefixedArray L mem (methodsPointer L.toClassLayout mem this L.virtualMethodsOffset)]
    else
      [referenceArray L mem
        (methodsReference L.toClassLayout mem this L.methodsOrDirectMethodsOffset),
        referenceArray L mem (methodsReference L.toClassLayout mem this L.virtualMethodsOffset)]

end Declared

/-- **A class object in memory**, with its arrays. -/
structure MirrorClass (L : KnownLayout) where
  memory : Memory
  address : ℕ
  mapped : L.unmapped ≤ address
  fits : address + L.classSize < L.addressSpace
  arrays_mapped : ∀ array ∈ declaredArrays L memory address, L.unmapped ≤ array.address
  arrays_fit : ∀ array ∈ declaredArrays L memory address,
    array.address + array.size < L.addressSpace

/-- Calling a visitor on one method after another, until it returns true:
whether it did, the calls, and its state. -/
def visitAll (visitor : σ → ArtMethodPtr → Bool × σ) :
    σ → List ArtMethodPtr → Bool × List ArtMethodPtr × σ
  | state, [] => (false, [], state)
  | state, method :: methods => match visitor state method with
    | (true, state) => (true, [method], state)
    | (false, state) =>
      let (stopped, calls, state) := visitAll visitor state methods
      (stopped, method :: calls, state)

namespace MirrorClass

variable {L : KnownLayout} (C : MirrorClass L) (visitor : σ → ArtMethodPtr → Bool × σ) (state : σ)

/-- The methods of the class. -/
def methods : List ArtMethodPtr :=
  (declaredArrays L C.memory C.address).flatMap MethodArray.methods

/-- The class object and its arrays, by address and length. -/
def footprint : List (ℕ × ℕ) :=
  (C.address, L.classSize) ::
    (declaredArrays L C.memory C.address).map fun array => (array.address, array.size)

/-- The walk `VisitMethods` makes. -/
def walk : Walk σ := (visitMethods L.toClassLayout C.memory C.address visitor state).2

/-- Each read lies in the class object or in one of its arrays. -/
def ReadsWithin (reads : List (ℕ × ℕ)) : Prop :=
  ∀ r ∈ reads, ∃ object ∈ C.footprint, object.1 ≤ r.1 ∧ r.1 + r.2 ≤ object.1 + object.2

/-- **The class is walked as it should be**: nothing else is read, and the
visitor is called on the methods in order until it returns true. -/
def IsVisited : Prop :=
  C.ReadsWithin (C.walk visitor state).reads ∧
    (C.walk visitor state).calls = (visitAll visitor state C.methods).2.1

/-- Where the direct methods, or all of them, are. -/
def directMethods : ℕ :=
  if L.apiLevel < 23 then
    methodsReference L.toClassLayout C.memory C.address L.methodsOrDirectMethodsOffset
  else methodsPointer L.toClassLayout C.memory C.address L.methodsOrDirectMethodsOffset

/-- Where the virtual methods are. -/
def virtualMethods : ℕ :=
  if L.apiLevel < 23 then
    methodsReference L.toClassLayout C.memory C.address L.virtualMethodsOffset
  else methodsPointer L.toClassLayout C.memory C.address L.virtualMethodsOffset

/-- **The classes `VisitMethods` walks as it should.** From Android 7 on an
array, and of fewer than `2 ^ 32` methods unless the visitor stops before
what is cut off; on Android 6 two arrays, the second unless the visitor
stops before; on Android 5 two arrays without methods. -/
def IsWalkable : Prop :=
  if 24 ≤ L.apiLevel then
    C.directMethods ≠ 0 ∧
      (prefixedLength L.toClassLayout C.memory C.directMethods < 2 ^ 32 ∨
        (visitAll visitor state (C.methods.take
          (prefixedLength L.toClassLayout C.memory C.directMethods % 2 ^ 32))).1 = true)
  else if L.apiLevel = 23 then
    C.directMethods ≠ 0 ∧
      (C.virtualMethods ≠ 0 ∨
        (visitAll visitor state (prefixedArray L C.memory C.directMethods).methods).1 = true)
  else
    (C.directMethods ≠ 0 ∧ referenceLength L C.memory C.directMethods = 0) ∧
      C.virtualMethods ≠ 0 ∧ referenceLength L C.memory C.virtualMethods = 0

end MirrorClass

/-! ## The loops -/

variable {L : ClassLayout} {mem : Memory} {visitor : σ → ArtMethodPtr → Bool × σ}

/-- A walk after calls of the visitor. -/
def Walk.after (walk : Walk σ) (visited : Bool × List ArtMethodPtr × σ) : Bool × Walk σ :=
  (visited.1, { walk with calls := walk.calls ++ visited.2.1, state := visited.2.2 })

theorem Walk.after_called (walk : Walk σ) (method : ArtMethodPtr) (state : σ)
    (visited : Bool × List ArtMethodPtr × σ) :
    (walk.called method state).after visited =
      walk.after (visited.1, method :: visited.2.1, visited.2.2) := by
  simp [Walk.after, Walk.called]

theorem ClassLayout.wrap_of_lt {n : ℕ} (h : n < L.addressSpace) : L.wrap n = n :=
  Nat.mod_eq_of_lt h

/-- Only where there is no method is there no call. -/
theorem visitAll_calls_eq_nil {state : σ} {ms : List ArtMethodPtr} :
    (visitAll visitor state ms).2.1 = [] ↔ ms = [] := by
  rcases ms with _ | ⟨m, ms⟩
  · simp [visitAll]
  · rw [visitAll]
    rcases visitor state m with ⟨_ | _, state'⟩ <;> simp

variable (visitor) in
/-- What is visited of methods followed by others. -/
theorem visitAll_append (state : σ) (ms ms' : List ArtMethodPtr) :
    visitAll visitor state (ms ++ ms') =
      if (visitAll visitor state ms).1 then visitAll visitor state ms
      else
        let rest := visitAll visitor (visitAll visitor state ms).2.2 ms'
        (rest.1, (visitAll visitor state ms).2.1 ++ rest.2.1, rest.2.2) := by
  induction ms generalizing state with
  | nil => simp [visitAll]
  | cons m ms ih =>
    rw [List.cons_append, visitAll, visitAll]
    rcases visitor state m with ⟨_ | _, state'⟩
    · dsimp only
      rw [ih]
      split <;> rfl
    · rfl

/-- **The first methods are visited as all are** if they are all, or the
visitor stops among them. -/
theorem visitAll_take_iff {state : σ} {ms : List ArtMethodPtr} {k : ℕ} :
    (visitAll visitor state (ms.take k)).2.1 = (visitAll visitor state ms).2.1 ↔
      ms.length ≤ k ∨ (visitAll visitor state (ms.take k)).1 = true := by
  have happend := visitAll_append visitor state (ms.take k) (ms.drop k)
  rw [List.take_append_drop] at happend
  by_cases hstop : (visitAll visitor state (ms.take k)).1 = true
  · rw [happend, if_pos hstop]
    exact ⟨fun _ => Or.inr hstop, fun _ => rfl⟩
  · rw [happend, if_neg hstop, or_iff_left hstop, List.self_eq_append_right,
      visitAll_calls_eq_nil, List.drop_eq_nil_iff]

/-- **The loop of Android 6** goes over the methods behind the length. -/
theorem visitPrefixed_eq {methods i n : ℕ} {walk : Walk σ}
    (h : methods + L.arch.pointerSize + (i + n) * L.artMethodSize < L.addressSpace) :
    visitPrefixed L visitor methods i n walk =
      walk.after (visitAll visitor walk.state ((List.range' i n).map fun j =>
        methods + L.arch.pointerSize + j * L.artMethodSize)) := by
  induction n generalizing i walk with
  | zero => simp [visitPrefixed, visitAll, Walk.after]
  | succ n ih =>
    have hmethod : L.wrap (i * L.artMethodSize + methods + L.arch.pointerSize) =
        methods + L.arch.pointerSize + i * L.artMethodSize := by
      rw [ClassLayout.wrap_of_lt]
      · omega
      · rw [Nat.add_mul] at h
        omega
    rw [visitPrefixed, hmethod, List.range'_succ, List.map_cons, visitAll]
    rcases visitor walk.state (methods + L.arch.pointerSize + i * L.artMethodSize)
      with ⟨_ | _, state⟩
    · dsimp only
      have hrest : i + 1 + n = i + (n + 1) := by omega
      rw [ih (by rw [hrest]; exact h), Walk.after_called]
      rfl
    · rfl

/-- **The loop over a slice** goes over its elements. -/
theorem visitSlice_eq {stride ptr n : ℕ} {walk : Walk σ} (hstride : 0 < stride)
    (h : ptr + n * stride < L.addressSpace) :
    visitSlice L visitor stride (ptr + n * stride) n ptr walk =
      walk.after (visitAll visitor walk.state ((List.range n).map fun j => ptr + j * stride)) := by
  induction n generalizing ptr walk with
  | zero => simp [visitSlice, visitAll, Walk.after]
  | succ n ih =>
    have hmul : (n + 1) * stride = stride + n * stride := by
      rw [Nat.add_mul, Nat.one_mul, Nat.add_comm]
    have hmore : ptr ≠ ptr + (n + 1) * stride := by
      rw [hmul]
      omega
    have hnext : L.wrap (ptr + stride) = ptr + stride := by
      apply ClassLayout.wrap_of_lt
      omega
    have hmethods : (List.range (n + 1)).map (fun j => ptr + j * stride) =
        ptr :: (List.range n).map fun j => ptr + stride + j * stride := by
      rw [List.range_succ_eq_map, List.map_cons, List.map_map, Nat.zero_mul, Nat.add_zero]
      congr 1
      refine List.map_congr_left fun j _ => ?_
      simp only [Function.comp, Nat.succ_eq_add_one, Nat.add_mul, Nat.one_mul]
      omega
    rw [visitSlice, if_neg hmore, hmethods, visitAll]
    rcases visitor walk.state ptr with ⟨_ | _, state⟩
    · dsimp only
      rw [hnext, hmul, ← Nat.add_assoc, ih (by rw [hmul] at h; omega), Walk.after_called]
      rfl
    · rfl

theorem reads_visitSlice {stride stop ptr n : ℕ} {walk : Walk σ} :
    (visitSlice L visitor stride stop n ptr walk).2.reads = walk.reads := by
  induction n generalizing ptr walk with
  | zero => rfl
  | succ n ih =>
    rw [visitSlice]
    split
    · rfl
    split
    · rfl
    · exact ih

theorem reads_visitPrefixed {methods i n : ℕ} {walk : Walk σ} :
    (visitPrefixed L visitor methods i n walk).2.reads = walk.reads := by
  induction n generalizing i walk with
  | zero => rfl
  | succ n ih =>
    rw [visitPrefixed]
    split
    · rfl
    · exact ih

/-- The loop of Android 5 takes no read back. -/
theorem subset_reads_visitReferences {i n : ℕ} {walk : Walk σ} {r : ℕ × ℕ}
    (h : r ∈ walk.reads) : r ∈ (visitReferences L mem visitor i n walk).2.reads := by
  induction n generalizing i walk with
  | zero => exact h
  | succ n ih =>
    rw [visitReferences]
    split
    · exact List.mem_append_left _ h
    · exact ih (List.mem_append_left _ h)

/-- **And reads where the elements of an array at null would be.** -/
theorem first_mem_reads_visitReferences {n : ℕ} {walk : Walk σ} (h : n ≠ 0) :
    (L.wrap L.objectArrayBaseOffset, 4) ∈ (visitReferences L mem visitor 0 n walk).2.reads := by
  obtain ⟨n, rfl⟩ := Nat.exists_eq_succ_of_ne_zero h
  have hslot : L.wrap (0 * 4 + L.objectArrayBaseOffset) = L.wrap L.objectArrayBaseOffset := by
    rw [Nat.zero_mul, Nat.zero_add]
  rw [visitReferences, hslot]
  split
  · exact List.mem_append_right _ (List.mem_singleton.2 rfl)
  · exact subset_reads_visitReferences (List.mem_append_right _ (List.mem_singleton.2 rfl))

/-! ## When a class is walked -/

/-- No method is twice in an array of methods. -/
theorem nodup_prefixedArray (L : KnownLayout) (mem : Memory) (methods : ℕ) :
    (prefixedArray L mem methods).methods.Nodup := by
  refine List.Nodup.map_on ?_ List.nodup_range
  intro i _ j _ hij
  exact Nat.eq_of_mul_eq_mul_right L.artMethodSize_pos (Nat.add_left_cancel hij)

namespace MirrorClass

variable {L : KnownLayout} {C : MirrorClass L} {visitor : σ → ArtMethodPtr → Bool × σ} {state : σ}

/-- Nothing of a class lies where nothing is mapped. -/
theorem not_readsWithin_of_unmapped {reads : List (ℕ × ℕ)} {r : ℕ × ℕ} (hr : r ∈ reads)
    (h : r.1 < L.unmapped) : ¬ C.ReadsWithin reads := by
  intro hwithin
  obtain ⟨object, hobject, hle, -⟩ := hwithin r hr
  rcases List.mem_cons.1 hobject with rfl | harray
  · have hmapped := C.mapped
    dsimp only at hle
    omega
  · obtain ⟨array, hmem, rfl⟩ := List.mem_map.1 harray
    have hmapped := C.arrays_mapped array hmem
    dsimp only at hle
    omega

theorem wrap_address {offset size : ℕ} (h : offset + size ≤ L.classSize) :
    L.wrap (C.address + offset) = C.address + offset := by
  have hfits := C.fits
  exact ClassLayout.wrap_of_lt (by omega)

/-- A field of the class object. -/
theorem field_mem_footprint {offset size : ℕ} (h : offset + size ≤ L.classSize) :
    ∃ object ∈ C.footprint, object.1 ≤ L.wrap (C.address + offset) ∧
      L.wrap (C.address + offset) + size ≤ object.1 + object.2 := by
  rw [wrap_address h]
  refine ⟨_, List.mem_cons_self .., ?_, ?_⟩
  · exact Nat.le_add_right _ _
  · rw [Nat.add_assoc]
    exact Nat.add_le_add_left h _

/-- The length of an array. -/
theorem header_mem_footprint {array : MethodArray} {a n : ℕ}
    (h : array ∈ declaredArrays L C.memory C.address) (hle : array.address ≤ a)
    (hend : a + n ≤ array.address + array.size) :
    ∃ object ∈ C.footprint, object.1 ≤ a ∧ a + n ≤ object.1 + object.2 :=
  ⟨_, List.mem_cons_of_mem _ (List.mem_map_of_mem h), hle, hend⟩

/-! ### Android 7 and later -/

/-- The array of the class, if it has one. -/
theorem declaredArrays_slice (h : 24 ≤ L.apiLevel) (hne : C.directMethods ≠ 0) :
    declaredArrays L C.memory C.address = [prefixedArray L C.memory C.directMethods] := by
  have hdirect : C.directMethods = methodsPointer L.toClassLayout C.memory C.address
      L.methodsOrDirectMethodsOffset := if_neg (by omega)
  rw [declaredArrays, if_pos h, ← hdirect]
  exact List.filter_cons_of_pos (decide_eq_true hne)

/-- The walk: two reads, and the loop over the slice. -/
theorem walk_slice (h : 24 ≤ L.apiLevel) :
    C.walk visitor state =
      (visitSlice L.toClassLayout visitor L.artMethodSize
        (L.wrap (L.wrap (C.directMethods + L.arch.pointerSize) +
          prefixedLength L.toClassLayout C.memory C.directMethods % 2 ^ 32 * L.artMethodSize))
        (prefixedLength L.toClassLayout C.memory C.directMethods % 2 ^ 32)
        (L.wrap (C.directMethods + L.arch.pointerSize))
        ⟨[(L.wrap (C.address + L.methodsOrDirectMethodsOffset), 8),
          (C.directMethods, L.arch.pointerSize)], [], state⟩).2 := by
  have hdirect : C.directMethods = methodsPointer L.toClassLayout C.memory C.address
      L.methodsOrDirectMethodsOffset := if_neg (by omega)
  rw [walk, visitMethods, if_pos h, if_neg L.offset_ne, hdirect]
  rfl

/-- The calls are those of the first `2 ^ 32` methods at most. -/
theorem calls_slice (h : 24 ≤ L.apiLevel) (hne : C.directMethods ≠ 0) :
    (C.walk visitor state).calls = (visitAll visitor state (C.methods.take
      (prefixedLength L.toClassLayout C.memory C.directMethods % 2 ^ 32))).2.1 := by
  have harray := declaredArrays_slice h hne
  have hfits := C.arrays_fit (prefixedArray L C.memory C.directMethods)
    (by rw [harray]; exact List.mem_singleton_self _)
  rw [walk_slice h, methods, harray, List.flatMap_singleton]
  simp only [prefixedArray] at hfits ⊢
  generalize prefixedLength L.toClassLayout C.memory C.directMethods = length at hfits ⊢
  have hle : length % 2 ^ 32 ≤ length := Nat.mod_le _ _
  have hsize : length % 2 ^ 32 * L.artMethodSize ≤ length * L.artMethodSize :=
    Nat.mul_le_mul_right _ hle
  rw [ClassLayout.wrap_of_lt (n := C.directMethods + L.arch.pointerSize) (by omega),
    ClassLayout.wrap_of_lt (by omega), visitSlice_eq L.artMethodSize_pos (by omega),
    ← List.map_take, List.take_range, Nat.min_eq_left hle]
  rfl

theorem isVisited_slice_iff (h : 24 ≤ L.apiLevel) :
    C.IsVisited visitor state ↔
      C.directMethods ≠ 0 ∧
        (prefixedLength L.toClassLayout C.memory C.directMethods < 2 ^ 32 ∨
          (visitAll visitor state (C.methods.take
            (prefixedLength L.toClassLayout C.memory C.directMethods % 2 ^ 32))).1 = true) := by
  have hreads : (C.walk visitor state).reads =
      [(L.wrap (C.address + L.methodsOrDirectMethodsOffset), 8),
        (C.directMethods, L.arch.pointerSize)] := by
    rw [walk_slice h, reads_visitSlice]
  by_cases hne : C.directMethods = 0
  · have hunmapped : ¬ C.ReadsWithin (C.walk visitor state).reads := by
      refine not_readsWithin_of_unmapped (r := (C.directMethods, L.arch.pointerSize)) ?_ ?_
      · rw [hreads]
        exact List.mem_cons_of_mem _ (List.mem_singleton_self _)
      · have hbase := L.baseOffset_lt
        rw [hne]
        dsimp only
        omega
    exact ⟨fun hvisited => absurd hvisited.1 hunmapped, fun hwalkable => absurd hne hwalkable.1⟩
  · have hwithin : C.ReadsWithin (C.walk visitor state).reads := by
      have hinside := L.inside
      rw [if_neg (by omega)] at hinside
      intro r hr
      rw [hreads, List.mem_cons, List.mem_singleton] at hr
      rcases hr with rfl | rfl
      · exact field_mem_footprint hinside
      · have hmem : prefixedArray L C.memory C.directMethods ∈
            declaredArrays L C.memory C.address := by
          rw [declaredArrays_slice h hne]
          exact List.mem_singleton_self _
        exact header_mem_footprint hmem (Nat.le_refl _)
          (Nat.add_le_add_left (Nat.le_add_right _ _) _)
    have hlength : C.methods.length = prefixedLength L.toClassLayout C.memory C.directMethods := by
      rw [methods, declaredArrays_slice h hne, List.flatMap_singleton]
      simp [prefixedArray]
    have hmod : prefixedLength L.toClassLayout C.memory C.directMethods ≤
        prefixedLength L.toClassLayout C.memory C.directMethods % 2 ^ 32 ↔
          prefixedLength L.toClassLayout C.memory C.directMethods < 2 ^ 32 := by
      omega
    rw [IsVisited, calls_slice h hne, visitAll_take_iff, hlength, hmod, and_iff_right hwithin,
      and_iff_right hne]

/-! ### Android 6 -/

/-- The methods of two arrays, those that are there. -/
theorem flatMap_methods (a b : MethodArray) :
    ([a, b].filter fun array => array.address ≠ 0).flatMap MethodArray.methods =
      (if a.address = 0 then [] else a.methods) ++ if b.address = 0 then [] else b.methods := by
  by_cases ha : a.address = 0 <;> by_cases hb : b.address = 0 <;> simp [ha, hb]

variable (C) in
/-- The arrays of the class, those it has. -/
theorem declaredArrays_prefixed (h : L.apiLevel = 23) :
    declaredArrays L C.memory C.address =
      [prefixedArray L C.memory C.directMethods, prefixedArray L C.memory C.virtualMethods].filter
        fun array => array.address ≠ 0 := by
  have hdirect : C.directMethods = methodsPointer L.toClassLayout C.memory C.address
      L.methodsOrDirectMethodsOffset := if_neg (by omega)
  have hvirtual : C.virtualMethods = methodsPointer L.toClassLayout C.memory C.address
      L.virtualMethodsOffset := if_neg (by omega)
  rw [declaredArrays, if_neg (by omega), if_pos h, ← hdirect, ← hvirtual]

/-- The loop over an array of the class. -/
theorem visitPrefixed_array {methods : ℕ} {walk : Walk σ}
    (h : prefixedArray L C.memory methods ∈ declaredArrays L C.memory C.address) :
    visitPrefixed L.toClassLayout visitor methods 0
        (prefixedLength L.toClassLayout C.memory methods) walk =
      walk.after (visitAll visitor walk.state (prefixedArray L C.memory methods).methods) := by
  have hfits := C.arrays_fit _ h
  simp only [prefixedArray] at hfits
  rw [visitPrefixed_eq (by rw [Nat.zero_add]; omega), ← List.range_eq_range']
  rfl

variable (C visitor state) in
/-- The walk: the direct methods, and then the virtual ones unless the
visitor has stopped. -/
theorem walk_prefixed (h : L.apiLevel = 23) :
    C.walk visitor state =
      let direct := visitPrefixed L.toClassLayout visitor C.directMethods 0
        (prefixedLength L.toClassLayout C.memory C.directMethods)
        ⟨[(L.wrap (C.address + L.methodsOrDirectMethodsOffset), 8),
          (C.directMethods, L.arch.pointerSize)], [], state⟩
      if direct.1 then direct.2
      else (visitPrefixed L.toClassLayout visitor C.virtualMethods 0
        (prefixedLength L.toClassLayout C.memory C.virtualMethods)
        ((direct.2.load (L.wrap (C.address + L.virtualMethodsOffset)) 8).load C.virtualMethods
          L.arch.pointerSize)).2 := by
  have hdirect : C.directMethods = methodsPointer L.toClassLayout C.memory C.address
      L.methodsOrDirectMethodsOffset := if_neg (by omega)
  have hvirtual : C.virtualMethods = methodsPointer L.toClassLayout C.memory C.address
      L.virtualMethodsOffset := if_neg (by omega)
  have hoffsets : L.methodsOrDirectMethodsOffset ≠ 0 ∧ L.virtualMethodsOffset ≠ 0 :=
    ⟨L.offset_ne, L.virtual_ne (by omega)⟩
  rw [walk, visitMethods, if_neg (by omega), if_pos hoffsets, hdirect, hvirtual]
  simp only [visitMethodsForMOrLower, if_pos h]
  rfl

/-- The two reads that find an array. -/
theorem readsWithin_prefixed {offset methods : ℕ} (hinside : offset + 8 ≤ L.classSize)
    (h : prefixedArray L C.memory methods ∈ declaredArrays L C.memory C.address) :
    C.ReadsWithin [(L.wrap (C.address + offset), 8), (methods, L.arch.pointerSize)] := by
  intro r hr
  rw [List.mem_cons, List.mem_singleton] at hr
  rcases hr with rfl | rfl
  · exact field_mem_footprint hinside
  · exact header_mem_footprint h (Nat.le_refl _) (Nat.add_le_add_left (Nat.le_add_right _ _) _)

/-- An array at null is read where nothing is mapped. -/
theorem not_readsWithin_null {reads : List (ℕ × ℕ)} {n : ℕ} (h : (0, n) ∈ reads) :
    ¬ C.ReadsWithin reads :=
  not_readsWithin_of_unmapped h (Nat.zero_lt_of_lt L.baseOffset_lt)

theorem ReadsWithin.append {reads reads' : List (ℕ × ℕ)} (h : C.ReadsWithin reads)
    (h' : C.ReadsWithin reads') : C.ReadsWithin (reads ++ reads') := by
  intro r hr
  rcases List.mem_append.1 hr with hr | hr
  · exact h r hr
  · exact h' r hr

theorem prefixed_direct_mem (h : L.apiLevel = 23) (hdirect : C.directMethods ≠ 0) :
    prefixedArray L C.memory C.directMethods ∈ declaredArrays L C.memory C.address := by
  rw [C.declaredArrays_prefixed h]
  exact List.mem_filter.2 ⟨List.mem_cons_self .., decide_eq_true hdirect⟩

theorem prefixed_virtual_mem (h : L.apiLevel = 23) (hvirtual : C.virtualMethods ≠ 0) :
    prefixedArray L C.memory C.virtualMethods ∈ declaredArrays L C.memory C.address := by
  rw [C.declaredArrays_prefixed h]
  exact List.mem_filter.2
    ⟨List.mem_cons_of_mem _ (List.mem_singleton_self _), decide_eq_true hvirtual⟩

/-- The methods of a class, with virtual ones or without. -/
theorem methods_prefixed (h : L.apiLevel = 23) (hdirect : C.directMethods ≠ 0) :
    C.methods = (prefixedArray L C.memory C.directMethods).methods ++
      if C.virtualMethods = 0 then []
      else (prefixedArray L C.memory C.virtualMethods).methods := by
  rw [methods, C.declaredArrays_prefixed h, flatMap_methods]
  exact congrArg (· ++ _) (if_neg hdirect)

theorem isVisited_prefixed_iff (h : L.apiLevel = 23) :
    C.IsVisited visitor state ↔
      C.directMethods ≠ 0 ∧
        (C.virtualMethods ≠ 0 ∨
          (visitAll visitor state (prefixedArray L C.memory C.directMethods).methods).1 =
            true) := by
  have hinside := L.inside
  have hvirtualInside := L.virtual_inside (by omega)
  rw [if_neg (by omega)] at hinside hvirtualInside
  have hwalk := C.walk_prefixed visitor state h
  by_cases hdirect : C.directMethods = 0
  · have hunmapped : ¬ C.ReadsWithin (C.walk visitor state).reads := by
      refine not_readsWithin_null (n := L.arch.pointerSize) ?_
      rw [hwalk, hdirect]
      dsimp only
      split <;> simp [Walk.load, reads_visitPrefixed]
    exact ⟨fun hvisited => absurd hvisited.1 hunmapped, fun hwalkable => absurd hdirect hwalkable.1⟩
  rw [and_iff_right hdirect]
  have hmem := prefixed_direct_mem h hdirect
  have hwithin := readsWithin_prefixed hinside hmem
  rw [visitPrefixed_array hmem] at hwalk
  dsimp only [Walk.after] at hwalk
  have hvisit := visitAll_append visitor state
    (prefixedArray L C.memory C.directMethods).methods
    (if C.virtualMethods = 0 then []
      else (prefixedArray L C.memory C.virtualMethods).methods)
  rw [← methods_prefixed h hdirect] at hvisit
  by_cases hstop : (visitAll visitor state
      (prefixedArray L C.memory C.directMethods).methods).1 = true
  · -- the virtual methods are not looked at
    rw [if_pos hstop] at hwalk hvisit
    refine ⟨fun _ => Or.inr hstop, fun _ => ⟨?_, ?_⟩⟩
    · rw [hwalk]
      exact hwithin
    · rw [hwalk, hvisit]
      rfl
  rw [or_iff_left hstop]
  rw [if_neg hstop] at hwalk hvisit
  by_cases hvirtual : C.virtualMethods = 0
  · have hunmapped : ¬ C.ReadsWithin (C.walk visitor state).reads := by
      refine not_readsWithin_null (n := L.arch.pointerSize) ?_
      rw [hwalk, hvirtual, reads_visitPrefixed]
      simp [Walk.load]
    exact ⟨fun hvisited => absurd hvisited.1 hunmapped, fun hne => absurd hvirtual hne⟩
  · have hmem' := prefixed_virtual_mem h hvirtual
    rw [visitPrefixed_array hmem'] at hwalk
    rw [if_neg hvirtual] at hvisit
    refine ⟨fun _ => hvirtual, fun _ => ⟨?_, ?_⟩⟩
    · rw [hwalk]
      exact hwithin.append (readsWithin_prefixed hvirtualInside hmem')
    · rw [hwalk, hvisit]
      rfl

/-! ### Android 5 -/

variable (C) in
theorem declaredArrays_references (h : L.apiLevel < 23) :
    declaredArrays L C.memory C.address =
      [referenceArray L C.memory C.directMethods,
        referenceArray L C.memory C.virtualMethods].filter fun array => array.address ≠ 0 := by
  have hdirect : C.directMethods = methodsReference L.toClassLayout C.memory C.address
      L.methodsOrDirectMethodsOffset := if_pos h
  have hvirtual : C.virtualMethods = methodsReference L.toClassLayout C.memory C.address
      L.virtualMethodsOffset := if_pos h
  rw [declaredArrays, if_neg (by omega), if_neg (by omega), ← hdirect, ← hvirtual]

/-- What is read before the loop over an array. -/
def referenceReads (C : MirrorClass L) (offset methods : ℕ) : List (ℕ × ℕ) :=
  [(L.wrap (C.address + offset), 4), (L.wrap (methods + L.objectArrayBaseOffset - 4), 4)]

/-- How often the loop over an array is to run. -/
def referenceCount (C : MirrorClass L) (methods : ℕ) : ℕ :=
  L.jintToSizeT (ofLE (C.memory.read (L.wrap (methods + L.objectArrayBaseOffset - 4)) 4))

variable (C visitor state) in
/-- The walk, again one array after the other. -/
theorem walk_references (h : L.apiLevel < 23) :
    C.walk visitor state =
      let direct := visitReferences L.toClassLayout C.memory visitor 0
        (C.referenceCount C.directMethods)
        ⟨C.referenceReads L.methodsOrDirectMethodsOffset C.directMethods, [], state⟩
      if direct.1 then direct.2
      else (visitReferences L.toClassLayout C.memory visitor 0
        (C.referenceCount C.virtualMethods)
        { direct.2 with reads := direct.2.reads ++
            C.referenceReads L.virtualMethodsOffset C.virtualMethods }).2 := by
  have hdirect : C.directMethods = methodsReference L.toClassLayout C.memory C.address
      L.methodsOrDirectMethodsOffset := if_pos h
  have hvirtual : C.virtualMethods = methodsReference L.toClassLayout C.memory C.address
      L.virtualMethodsOffset := if_pos h
  have hoffsets : L.methodsOrDirectMethodsOffset ≠ 0 ∧ L.virtualMethodsOffset ≠ 0 :=
    ⟨L.offset_ne, L.virtual_ne (by omega)⟩
  have hlevel : ¬ L.apiLevel = 23 := by omega
  rw [walk, visitMethods, if_neg (by omega), if_pos hoffsets, hdirect, hvirtual]
  simp only [visitMethodsForMOrLower, if_neg hlevel, Walk.load, List.append_assoc]
  rfl

/-- The length of an array that is there is read where it is. -/
theorem wrap_referenceLength {methods : ℕ}
    (hmem : referenceArray L C.memory methods ∈ declaredArrays L C.memory C.address) :
    L.wrap (methods + L.objectArrayBaseOffset - 4) = methods + L.objectArrayBaseOffset - 4 := by
  have hfits := C.arrays_fit _ hmem
  simp only [referenceArray] at hfits
  exact ClassLayout.wrap_of_lt (by omega)

theorem referenceCount_eq_zero_iff {methods : ℕ}
    (hmem : referenceArray L C.memory methods ∈ declaredArrays L C.memory C.address) :
    C.referenceCount methods = 0 ↔ referenceLength L C.memory methods = 0 := by
  rw [referenceCount, wrap_referenceLength hmem, ← referenceLength, ClassLayout.jintToSizeT]
  split <;> omega

theorem readsWithin_references (h : L.apiLevel < 23) {offset methods : ℕ}
    (hinside : offset + 4 ≤ L.classSize)
    (hmem : referenceArray L C.memory methods ∈ declaredArrays L C.memory C.address) :
    C.ReadsWithin (C.referenceReads offset methods) := by
  have hlength := L.lengthSize_le h
  intro r hr
  rw [referenceReads, List.mem_cons, List.mem_singleton] at hr
  rcases hr with rfl | rfl
  · exact field_mem_footprint hinside
  · dsimp only
    rw [wrap_referenceLength hmem]
    refine header_mem_footprint hmem ?_ ?_ <;> simp only [referenceArray] <;> omega

/-- **A reference read is read off the class.** -/
theorem not_readsWithin_first {reads : List (ℕ × ℕ)}
    (h : (L.wrap L.objectArrayBaseOffset, 4) ∈ reads) : ¬ C.ReadsWithin reads := by
  refine not_readsWithin_of_unmapped h ?_
  exact Nat.lt_of_le_of_lt (Nat.mod_le _ _) L.baseOffset_lt

/-- And so is the length of an array at null. -/
theorem not_readsWithin_nullLength {reads : List (ℕ × ℕ)}
    (h : (L.wrap (0 + L.objectArrayBaseOffset - 4), 4) ∈ reads) : ¬ C.ReadsWithin reads := by
  refine not_readsWithin_of_unmapped h ?_
  have hle : L.wrap (0 + L.objectArrayBaseOffset - 4) ≤ 0 + L.objectArrayBaseOffset - 4 :=
    Nat.mod_le _ _
  have hbase := L.baseOffset_lt
  dsimp only
  omega

theorem reference_direct_mem (h : L.apiLevel < 23) (hdirect : C.directMethods ≠ 0) :
    referenceArray L C.memory C.directMethods ∈ declaredArrays L C.memory C.address := by
  rw [C.declaredArrays_references h]
  exact List.mem_filter.2 ⟨List.mem_cons_self .., decide_eq_true hdirect⟩

theorem reference_virtual_mem (h : L.apiLevel < 23) (hvirtual : C.virtualMethods ≠ 0) :
    referenceArray L C.memory C.virtualMethods ∈ declaredArrays L C.memory C.address := by
  rw [C.declaredArrays_references h]
  exact List.mem_filter.2
    ⟨List.mem_cons_of_mem _ (List.mem_singleton_self _), decide_eq_true hvirtual⟩

/-- What the walk reads, each read by itself. -/
theorem not_isVisited_of_read {r : ℕ × ℕ} (hr : r ∈ (C.walk visitor state).reads)
    (hnot : ¬ C.ReadsWithin [r]) : ¬ C.IsVisited visitor state := by
  intro hvisited
  refine hnot fun r' hr' => ?_
  rw [List.mem_singleton] at hr'
  exact hvisited.1 r' (hr' ▸ hr)

/-- What is read before or in the first loop is read in the end. -/
theorem mem_reads_of_direct (h : L.apiLevel < 23) {r : ℕ × ℕ}
    (hr : r ∈ (visitReferences L.toClassLayout C.memory visitor 0
      (C.referenceCount C.directMethods)
      ⟨C.referenceReads L.methodsOrDirectMethodsOffset C.directMethods, [], state⟩).2.reads) :
    r ∈ (C.walk visitor state).reads := by
  rw [C.walk_references visitor state h]
  dsimp only
  split
  · exact hr
  · exact subset_reads_visitReferences (List.mem_append_left _ hr)

theorem isVisited_references_iff (h : L.apiLevel < 23) :
    C.IsVisited visitor state ↔
      (C.directMethods ≠ 0 ∧ referenceLength L C.memory C.directMethods = 0) ∧
        C.virtualMethods ≠ 0 ∧ referenceLength L C.memory C.virtualMethods = 0 := by
  have hinside := L.inside
  have hvirtualInside := L.virtual_inside (by omega)
  rw [if_pos h] at hinside hvirtualInside
  have hwalk := C.walk_references visitor state h
  by_cases hdirect : C.directMethods = 0
  · refine ⟨fun hvisited => absurd hvisited ?_, fun hwalkable => absurd hdirect hwalkable.1.1⟩
    refine not_isVisited_of_read (mem_reads_of_direct h (subset_reads_visitReferences
      (List.mem_cons_of_mem _ (List.mem_singleton_self _)))) ?_
    rw [hdirect]
    exact not_readsWithin_nullLength (List.mem_singleton_self _)
  have hmem := reference_direct_mem h hdirect
  by_cases hlength : referenceLength L C.memory C.directMethods = 0
  case neg =>
    refine ⟨fun hvisited => absurd hvisited ?_, fun hwalkable => absurd hwalkable.1.2 hlength⟩
    refine not_isVisited_of_read (mem_reads_of_direct h (first_mem_reads_visitReferences ?_))
      (not_readsWithin_first (List.mem_singleton_self _))
    exact fun hzero => hlength ((referenceCount_eq_zero_iff hmem).1 hzero)
  rw [(referenceCount_eq_zero_iff hmem).2 hlength] at hwalk
  simp only [visitReferences, Bool.false_eq_true, if_false] at hwalk
  rw [and_iff_right ⟨hdirect, hlength⟩]
  by_cases hvirtual : C.virtualMethods = 0
  · refine ⟨fun hvisited => absurd hvisited ?_, fun hwalkable => absurd hvirtual hwalkable.1⟩
    refine not_isVisited_of_read (r := (L.wrap (0 + L.objectArrayBaseOffset - 4), 4)) ?_
      (not_readsWithin_nullLength (List.mem_singleton_self _))
    rw [hwalk, hvirtual]
    exact subset_reads_visitReferences (by simp [referenceReads])
  have hmem' := reference_virtual_mem h hvirtual
  by_cases hlength' : referenceLength L C.memory C.virtualMethods = 0
  case neg =>
    refine ⟨fun hvisited => absurd hvisited ?_, fun hwalkable => absurd hwalkable.2 hlength'⟩
    refine not_isVisited_of_read ?_ (not_readsWithin_first (List.mem_singleton_self _))
    rw [hwalk]
    refine first_mem_reads_visitReferences ?_
    exact fun hzero => hlength' ((referenceCount_eq_zero_iff hmem').1 hzero)
  rw [(referenceCount_eq_zero_iff hmem').2 hlength'] at hwalk
  simp only [visitReferences] at hwalk
  refine ⟨fun _ => ⟨hvirtual, hlength'⟩, fun _ => ⟨?_, ?_⟩⟩
  · rw [hwalk]
    exact (readsWithin_references h hinside hmem).append
      (readsWithin_references h hvirtualInside hmem')
  · have hmethods : C.methods = [] := by
      rw [methods, C.declaredArrays_references h, flatMap_methods]
      simp [referenceArray, hlength, hlength']
    rw [hwalk, hmethods]
    rfl

/-- **`VisitMethods` walks a class as it should if and only if the class is
walkable.** -/
theorem isVisited_iff_isWalkable (C : MirrorClass L) (visitor : σ → ArtMethodPtr → Bool × σ)
    (state : σ) : C.IsVisited visitor state ↔ C.IsWalkable visitor state := by
  unfold IsWalkable
  split
  · exact isVisited_slice_iff ‹_›
  split
  · exact isVisited_prefixed_iff ‹_›
  · exact isVisited_references_iff (by omega)

end MirrorClass

/-- A layout of Android 5. -/
def lollipopLayout : KnownLayout where
  arch := .arm
  apiLevel := 21
  methodsOrDirectMethodsOffset := 8
  virtualMethodsOffset := 12
  artMethodSize := 40
  objectArrayBaseOffset := 12
  classSize := 16
  unmapped := 4096
  offset_ne := by decide
  virtual_ne := by decide
  inside := by decide
  virtual_inside := by decide
  artMethodSize_pos := by decide
  lengthSize_le := by decide
  baseOffset_lt := by decide

/-- A class of one direct method and no virtual ones. -/
def lollipopClass : MirrorClass lollipopLayout where
  memory :=
    let zero : Memory := fun _ => 0
    (((zero.write 4104 (toLE 4 8192)).write 4108 (toLE 4 8448)).write 8200 (toLE 4 1)).write
      8204 (toLE 4 12288)
  address := 4096
  mapped := by decide
  fits := by decide
  arrays_mapped := by decide
  arrays_fit := by decide

/-- Its method is not read from where it is. -/
theorem lollipopClass_not_isVisited :
    lollipopClass.methods = [12288] ∧
      ¬ lollipopClass.IsVisited (fun (state : Unit) _ => (false, state)) () := by
  refine ⟨by decide, fun hvisited => ?_⟩
  rw [MirrorClass.isVisited_references_iff (by decide)] at hvisited
  exact absurd hvisited.1.2 (by decide)

end LSPlant
