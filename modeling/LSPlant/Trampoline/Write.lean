import LSPlant.Art.Config
import LSPlant.Library.Bytes
import Mathlib.Tactic.NormNum
/-!
# Writing a trampoline

`WriteTrampoline` and what the bytes it writes dispatch to. A trampoline
is a template with the entry point offset patched in once and a method
pointer spliced in at every write; on arm64 a pointer of at most 48 bits
is spliced into three move-wide immediates of a second template instead,
and the slot that is handed back is tagged with bit 0 to say so.
-/

namespace LSPlant

open Byte

/-- The instruction templates of `lsplant.cc`, one an architecture. -/
def Arch.template : Arch → List Byte
  | .arm64 => [0x60, 0x00, 0x00, 0x58, 0x10, 0x00, 0x40, 0xf8, 0x00, 0x02, 0x5f, 0xd6,
      0xef, 0xcd, 0xab, 0x90, 0x78, 0x56, 0x34, 0x12]
  | .arm => [0x00, 0x00, 0x9f, 0xe5, 0x00, 0xf0, 0x90, 0xe5, 0x78, 0x56, 0x34, 0x12]
  | .x86 => [0xb8, 0x78, 0x56, 0x34, 0x12, 0xff, 0x70, 0x00, 0xc3]
  | .x64 => [0x48, 0xbf, 0xef, 0xcd, 0xab, 0x90, 0x78, 0x56, 0x34, 0x12, 0xff, 0x77, 0x00, 0xc3]
  | .riscv64 => [0x17, 0x05, 0x00, 0x00, 0x03, 0x35, 0xe5, 0x00, 0x03, 0x3e, 0x05, 0x00,
      0x02, 0x8e, 0xef, 0xcd, 0xab, 0x90, 0x78, 0x56, 0x34, 0x12]

/-- `entry_point_offset`, in bits. -/
def Arch.entryPointOffset : Arch → ℕ
  | .arm64 => 44
  | .arm => 32
  | .x86 => 56
  | .x64 => 96
  | .riscv64 => 84

/-- `art_method_offset`, in bytes. -/
def Arch.artMethodOffset : Arch → ℕ
  | .arm64 => 12
  | .arm => 8
  | .x86 => 1
  | .x64 => 2
  | .riscv64 => 14

/-- `kTrampolineSize`: the template, rounded up to a multiple of two. -/
def Arch.trampolineSize (arch : Arch) : ℕ := (arch.template.length + 1) / 2 * 2

/-- `UpdateTrampoline`: the immediate is or-ed in at a bit offset. -/
def updateTrampoline (data : List Byte) (immOffset : ℕ) (imm : Byte) : List Byte :=
  (data.modify (immOffset / 8) (· ||| imm <<< (immOffset % 8))).modify (immOffset / 8 + 1)
    (· ||| imm >>> (8 - immOffset % 8))

/-- The global `trampoline`, as `InitNative` leaves it. -/
def Art.trampoline (art : Art) : List Byte :=
  updateTrampoline art.arch.template art.arch.entryPointOffset art.entryPointOffset

/-- The move-immediate template of arm64. -/
def optimizedTemplate : List Byte :=
  [0x80, 0x46, 0xc2, 0xd2, 0x00, 0xcf, 0xaa, 0xf2, 0x60, 0x15, 0x92, 0xf2, 0x11, 0x00, 0x40, 0xf8,
    0x20, 0x02, 0x5f, 0xd6]

/-- The `i`th instruction word. -/
def wordAt (data : List Byte) (i : ℕ) : ℕ := ofLE ((data.drop (4 * i)).take 4)

/-- The bit-field `imm` of `MoveWideImm` overwritten: `rd` below it, the
rest of the word above it. -/
def setMoveWideImm (inst imm : ℕ) : ℕ :=
  inst % 2 ^ 5 + imm % 2 ^ 16 * 2 ^ 5 + inst / 2 ^ 21 * 2 ^ 21

/-- The lambda `update_move_wide_imm`. -/
def updateMoveWideImm (data : List Byte) (index imm : ℕ) : List Byte :=
  data.take (4 * index) ++ toLE 4 (setMoveWideImm (wordAt data index) imm) ++
    data.drop (4 * index + 4)

/-- The optimized trampoline for a hook pointer. -/
def Art.optimizedTrampoline (art : Art) (hookAddr : ℕ) : List Byte :=
  let data := updateTrampoline optimizedTemplate 108 art.entryPointOffset
  let data := updateMoveWideImm data 0 (hookAddr / 2 ^ 32)
  let data := updateMoveWideImm data 1 (hookAddr / 2 ^ 16 % 2 ^ 16)
  updateMoveWideImm data 2 (hookAddr % 2 ^ 16)

/-- **`WriteTrampoline`**: the memory after it and the slot it returns. -/
def writeTrampoline (art : Art) (mem : Memory) (address : ℕ) (hook : ArtMethodPtr) :
    Memory × ℕ :=
  if art.arch = .arm64 ∧ hook / 2 ^ 48 = 0 then
    (mem.write address (art.optimizedTrampoline hook), address + 1)
  else
    let mem := mem.write address art.trampoline
    let entrySlot := address + art.arch.artMethodOffset
    (mem.write entrySlot (toLE art.arch.pointerSize hook), entrySlot)

/-! ## What the bytes dispatch to -/

/-- A move-wide instruction with the given opcode, `x0` its register. -/
def IsMoveWide (opcode inst : ℕ) : Prop := inst % 2 ^ 5 = 0 ∧ inst / 2 ^ 21 = opcode / 2 ^ 21

instance (opcode inst : ℕ) : Decidable (IsMoveWide opcode inst) := instDecidableAnd

/-- The immediate of a move-wide instruction. -/
def moveWideImm (inst : ℕ) : ℕ := inst / 2 ^ 5 % 2 ^ 16

/-- **The method pointer a trampoline loads** into the register that
carries the method: the literal behind `ldr`, `mov` or `auipc; ld`, or
the three immediates of `movz; movk; movk`. Bytes of any other shape load
nothing. -/
def dispatchTarget (arch : Arch) (bs : List Byte) : Option ArtMethodPtr :=
  let literal := ofLE ((bs.drop arch.artMethodOffset).take arch.pointerSize)
  match arch with
  | .arm64 =>
    if wordAt bs 0 = 0x58000060 then some literal
    else if IsMoveWide 0xd2c00000 (wordAt bs 0) ∧ IsMoveWide 0xf2a00000 (wordAt bs 1) ∧
        IsMoveWide 0xf2800000 (wordAt bs 2) then
      some (moveWideImm (wordAt bs 0) * 2 ^ 32 + moveWideImm (wordAt bs 1) * 2 ^ 16 +
        moveWideImm (wordAt bs 2))
    else none
  | .arm => if wordAt bs 0 = 0xe59f0000 then some literal else none
  | .x86 => if bs.take 1 = [0xb8] then some literal else none
  | .x64 => if bs.take 2 = [0x48, 0xbf] then some literal else none
  | .riscv64 =>
    if wordAt bs 0 = 0x00000517 ∧ wordAt bs 1 = 0x00e53503 then some literal else none

/-! ## The two encodings -/

/-- The literal encoding of a pointer: the template with the pointer in
place. -/
def Art.literalTrampoline (art : Art) (hook : ArtMethodPtr) : List Byte :=
  art.trampoline.take art.arch.artMethodOffset ++ toLE art.arch.pointerSize hook ++
    art.trampoline.drop (art.arch.artMethodOffset + art.arch.pointerSize)

variable {art : Art} {mem : Memory} {address hook p : ℕ}

/-- A pointer of the architecture. -/
def Arch.Fits (arch : Arch) (p : ℕ) : Prop := p < 256 ^ arch.pointerSize

@[simp] theorem length_updateTrampoline {data : List Byte} {k : ℕ} {imm : Byte} :
    (updateTrampoline data k imm).length = data.length := by
  simp [updateTrampoline]

variable (art) in
@[simp] theorem length_trampoline : art.trampoline.length = art.arch.template.length := by
  simp [Art.trampoline]

theorem artMethodOffset_add_pointerSize_le (arch : Arch) :
    arch.artMethodOffset + arch.pointerSize ≤ arch.template.length := by
  cases arch <;> decide

theorem template_length_le (arch : Arch) : arch.template.length ≤ arch.trampolineSize := by
  cases arch <;> decide

theorem length_updateMoveWideImm {data : List Byte} {i imm : ℕ} (h : 4 * i + 4 ≤ data.length) :
    (updateMoveWideImm data i imm).length = data.length := by
  simp [updateMoveWideImm]; omega

theorem wordAt_updateMoveWideImm_self {data : List Byte} {i imm : ℕ}
    (h : 4 * i + 4 ≤ data.length) :
    wordAt (updateMoveWideImm data i imm) i = setMoveWideImm (wordAt data i) imm % 2 ^ 32 := by
  have hlen : (data.take (4 * i)).length = 4 * i := by simp; omega
  rw [wordAt, updateMoveWideImm, List.append_assoc, List.drop_append_of_le_length (by omega),
    List.drop_eq_nil_of_le (by omega), List.nil_append, List.take_append_of_le_length (by simp),
    List.take_of_length_le (by simp), ofLE_toLE_mod]
  norm_num

theorem wordAt_updateMoveWideImm_of_lt {data : List Byte} {i j imm : ℕ} (hij : j < i)
    (h : 4 * i + 4 ≤ data.length) : wordAt (updateMoveWideImm data i imm) j = wordAt data j := by
  rw [wordAt, wordAt, updateMoveWideImm, List.append_assoc,
    List.drop_append_of_le_length (by simp; omega),
    List.take_append_of_le_length (by simp; omega), List.drop_take, List.take_take,
    min_eq_left (by omega)]

theorem wordAt_updateMoveWideImm_of_gt {data : List Byte} {i j imm : ℕ} (hij : i < j)
    (h : 4 * i + 4 ≤ data.length) : wordAt (updateMoveWideImm data i imm) j = wordAt data j := by
  have hlen : (data.take (4 * i) ++ toLE 4 (setMoveWideImm (wordAt data i) imm)).length =
      4 * i + 4 := by simp; omega
  rw [wordAt, wordAt, updateMoveWideImm, List.drop_append, hlen, List.drop_drop,
    List.drop_eq_nil_of_le (by omega), List.nil_append]
  congr 3
  omega

/-- The optimized template with the entry point offset patched in. -/
def Art.patchedTemplate (art : Art) : List Byte :=
  updateTrampoline optimizedTemplate 108 art.entryPointOffset

variable (art) in
theorem length_patchedTemplate : art.patchedTemplate.length = 20 := by
  simp [Art.patchedTemplate, optimizedTemplate]

variable (art) in
theorem wordAt_patchedTemplate :
    wordAt art.patchedTemplate 0 = 0xd2c24680 ∧ wordAt art.patchedTemplate 1 = 0xf2aacf00 ∧
      wordAt art.patchedTemplate 2 = 0xf2921560 := by
  have h0 : (art.patchedTemplate.drop 0).take 4 = [0x80, 0x46, 0xc2, 0xd2] := rfl
  have h1 : (art.patchedTemplate.drop 4).take 4 = [0x00, 0xcf, 0xaa, 0xf2] := rfl
  have h2 : (art.patchedTemplate.drop 8).take 4 = [0x60, 0x15, 0x92, 0xf2] := rfl
  simp only [wordAt, Nat.mul_zero, Nat.mul_one, show 4 * 2 = 8 from rfl, h0, h1, h2]
  decide

theorem length_updateMoveWideImm_patched {data : List Byte} {i : ℕ} (imm : ℕ) (hi : i < 3)
    (h : data.length = 20) : (updateMoveWideImm data i imm).length = 20 :=
  (length_updateMoveWideImm (by omega)).trans h

@[simp] theorem length_optimizedTrampoline : (art.optimizedTrampoline hook).length = 20 :=
  length_updateMoveWideImm_patched _ (by decide) <|
    length_updateMoveWideImm_patched _ (by decide) <|
      length_updateMoveWideImm_patched _ (by decide) (length_patchedTemplate art)

@[simp] theorem length_literalTrampoline :
    (art.literalTrampoline hook).length = art.arch.template.length := by
  have := artMethodOffset_add_pointerSize_le art.arch
  simp [Art.literalTrampoline]
  omega

variable (art hook) in
/-- The three instruction words of the optimized trampoline: each is the
template's with its own chunk of the pointer as immediate. -/
theorem wordAt_optimizedTrampoline :
    wordAt (art.optimizedTrampoline hook) 0 =
        setMoveWideImm 0xd2c24680 (hook / 2 ^ 32) % 2 ^ 32 ∧
      wordAt (art.optimizedTrampoline hook) 1 =
        setMoveWideImm 0xf2aacf00 (hook / 2 ^ 16 % 2 ^ 16) % 2 ^ 32 ∧
      wordAt (art.optimizedTrampoline hook) 2 =
        setMoveWideImm 0xf2921560 (hook % 2 ^ 16) % 2 ^ 32 := by
  obtain ⟨hw0, hw1, hw2⟩ := wordAt_patchedTemplate art
  have h0 := length_patchedTemplate art
  have h1 := length_updateMoveWideImm_patched (hook / 2 ^ 32) (show 0 < 3 by decide) h0
  have h2 := length_updateMoveWideImm_patched (hook / 2 ^ 16 % 2 ^ 16)
    (show 1 < 3 by decide) h1
  refine ⟨?_, ?_, ?_⟩
  · change wordAt (updateMoveWideImm (updateMoveWideImm (updateMoveWideImm
      art.patchedTemplate 0 _) 1 _) 2 _) 0 = _
    rw [wordAt_updateMoveWideImm_of_lt (by decide) (by omega),
      wordAt_updateMoveWideImm_of_lt (by decide) (by omega),
      wordAt_updateMoveWideImm_self (by omega), hw0]
  · change wordAt (updateMoveWideImm (updateMoveWideImm (updateMoveWideImm
      art.patchedTemplate 0 _) 1 _) 2 _) 1 = _
    rw [wordAt_updateMoveWideImm_of_lt (by decide) (by omega),
      wordAt_updateMoveWideImm_self (by omega),
      wordAt_updateMoveWideImm_of_gt (by decide) (by omega), hw1]
  · change wordAt (updateMoveWideImm (updateMoveWideImm (updateMoveWideImm
      art.patchedTemplate 0 _) 1 _) 2 _) 2 = _
    rw [wordAt_updateMoveWideImm_self (by omega),
      wordAt_updateMoveWideImm_of_gt (by decide) (by omega),
      wordAt_updateMoveWideImm_of_gt (by decide) (by omega), hw2]

/-- **The optimized form dispatches to the pointer** it was written for. -/
theorem dispatchTarget_optimized (harch : art.arch = .arm64) (hp : p / 2 ^ 48 = 0) :
    dispatchTarget art.arch (art.optimizedTrampoline p) = some p := by
  obtain ⟨h0, h1, h2⟩ := wordAt_optimizedTrampoline art p
  have hsum : moveWideImm (wordAt (art.optimizedTrampoline p) 0) * 2 ^ 32 +
      moveWideImm (wordAt (art.optimizedTrampoline p) 1) * 2 ^ 16 +
      moveWideImm (wordAt (art.optimizedTrampoline p) 2) = p := by
    rw [h0, h1, h2]
    simp only [moveWideImm, setMoveWideImm]
    omega
  have hne : wordAt (art.optimizedTrampoline p) 0 ≠ 0x58000060 := by
    rw [h0]; simp only [setMoveWideImm]; omega
  have hmw : IsMoveWide 0xd2c00000 (wordAt (art.optimizedTrampoline p) 0) ∧
      IsMoveWide 0xf2a00000 (wordAt (art.optimizedTrampoline p) 1) ∧
      IsMoveWide 0xf2800000 (wordAt (art.optimizedTrampoline p) 2) := by
    rw [h0, h1, h2]
    simp only [IsMoveWide, setMoveWideImm]
    omega
  rw [harch, dispatchTarget, if_neg hne, if_pos hmw, hsum]

variable (art p) in
theorem literal_at_offset :
    ((art.literalTrampoline p).drop art.arch.artMethodOffset).take art.arch.pointerSize =
      toLE art.arch.pointerSize p := by
  have hlen := artMethodOffset_add_pointerSize_le art.arch
  have htake : (art.trampoline.take art.arch.artMethodOffset).length =
      art.arch.artMethodOffset := by simp; omega
  rw [Art.literalTrampoline, List.append_assoc, List.drop_append, htake,
    List.drop_eq_nil_of_le htake.le, List.nil_append, Nat.sub_self, List.drop_zero,
    List.take_append_of_le_length (by simp), List.take_of_length_le (by simp)]

/-- **The literal form dispatches to the pointer** it was written for. -/
theorem dispatchTarget_literal (hp : art.arch.Fits p) :
    dispatchTarget art.arch (art.literalTrampoline p) = some p := by
  have hlit := literal_at_offset art p
  have hval := ofLE_toLE hp
  cases harch : art.arch <;>
    simp only [dispatchTarget, harch] at hlit hval ⊢ <;>
    rw [hlit, hval] <;>
    simp only [Art.literalTrampoline, Art.trampoline, harch] <;> rfl

/-! ## What a write leaves -/

variable (art mem address p) in
/-- **The bytes a write leaves**, whatever was there before. -/
theorem read_writeTrampoline :
    (writeTrampoline art mem address p).1.read address art.arch.template.length =
      if art.arch = .arm64 ∧ p / 2 ^ 48 = 0 then art.optimizedTrampoline p
      else art.literalTrampoline p := by
  unfold writeTrampoline
  split
  · rename_i h
    have hlen : art.arch.template.length = (art.optimizedTrampoline p).length := by
      rw [length_optimizedTrampoline, h.1]; rfl
    rw [hlen, Memory.read_write_self]
  · have hlen := artMethodOffset_add_pointerSize_le art.arch
    have hself : (mem.write address art.trampoline).read address art.arch.template.length =
        art.trampoline := by
      rw [← length_trampoline art]; exact Memory.read_write_self
    simp only
    rw [Memory.read_write_inside (by simpa using hlen), hself, length_toLE,
      Art.literalTrampoline]

/-- A write touches the trampoline's own bytes only. -/
theorem read_writeTrampoline_of_disjoint {b n : ℕ}
    (h : address + art.arch.template.length ≤ b ∨ b + n ≤ address) :
    (writeTrampoline art mem address p).1.read b n = mem.read b n := by
  have hlen := artMethodOffset_add_pointerSize_le art.arch
  unfold writeTrampoline
  split
  · rename_i harch
    refine Memory.read_write_of_disjoint ?_
    rw [length_optimizedTrampoline]
    rw [harch.1] at h
    exact h
  · simp only
    rw [Memory.read_write_of_disjoint (by rw [length_toLE]; omega),
      Memory.read_write_of_disjoint (by rw [length_trampoline]; exact h)]

/-! ## Writing again through the slot -/

/-- **The write of `SetHookEnabled`**: a full rewrite one byte below a
tagged slot, the slot replaced where the one returned is even; a single
pointer store through any other slot. -/
def writeThroughSlot (art : Art) (mem : Memory) (slot : ℕ) (hook : ArtMethodPtr) :
    Memory × ℕ :=
  if slot % 2 = 1 then
    let written := writeTrampoline art mem (slot - 1) hook
    (written.1, if written.2 % 2 = 0 then written.2 else slot)
  else (mem.write slot (toLE art.arch.pointerSize hook), slot)

/-- **What a trampoline and its slot look like**: one of the two
encodings of the pointer, and a slot that says which. -/
def Armed (art : Art) (mem : Memory) (address slot p : ℕ) : Prop :=
  (slot = address + 1 ∧ art.arch = .arm64 ∧ p / 2 ^ 48 = 0 ∧
      mem.read address art.arch.template.length = art.optimizedTrampoline p) ∨
    (slot = address + art.arch.artMethodOffset ∧ art.arch.Fits p ∧
      mem.read address art.arch.template.length = art.literalTrampoline p)

/-- An armed trampoline dispatches to its pointer. -/
theorem Armed.dispatchTarget {slot : ℕ} (h : Armed art mem address slot p) :
    dispatchTarget art.arch (mem.read address art.arch.template.length) = some p := by
  rcases h with ⟨-, harch, hp, hread⟩ | ⟨-, hp, hread⟩ <;> rw [hread]
  · exact dispatchTarget_optimized harch hp
  · exact dispatchTarget_literal hp

/-- And stays armed under a write that misses it. -/
theorem Armed.congr {mem' : Memory} {slot : ℕ} (h : Armed art mem address slot p)
    (hread : mem'.read address art.arch.template.length =
      mem.read address art.arch.template.length) : Armed art mem' address slot p := by
  unfold Armed at h ⊢
  rw [hread]
  exact h

variable (mem address) in
/-- **A fresh write arms.** -/
theorem armed_writeTrampoline (hp : art.arch.Fits p) :
    Armed art (writeTrampoline art mem address p).1 address (writeTrampoline art mem address p).2
      p := by
  have hread := read_writeTrampoline art mem address p
  by_cases h : art.arch = .arm64 ∧ p / 2 ^ 48 = 0
  · rw [if_pos h] at hread
    exact Or.inl ⟨by rw [writeTrampoline, if_pos h], h.1, h.2, hread⟩
  · rw [if_neg h] at hread
    exact Or.inr ⟨by rw [writeTrampoline, if_neg h], hp, hread⟩

/-- A pointer store through the slot of a literal trampoline. -/
theorem read_store_literal {q : ℕ}
    (hread : mem.read address art.arch.template.length = art.literalTrampoline q) :
    (mem.write (address + art.arch.artMethodOffset) (toLE art.arch.pointerSize p)).read address
      art.arch.template.length = art.literalTrampoline p := by
  have hlen := artMethodOffset_add_pointerSize_le art.arch
  have htake : (art.trampoline.take art.arch.artMethodOffset).length =
      art.arch.artMethodOffset := by simp; omega
  rw [Memory.read_write_inside (by simpa using hlen), hread, length_toLE]
  simp only [Art.literalTrampoline, List.append_assoc]
  congr 1
  · rw [List.take_append_of_le_length (by omega), List.take_of_length_le (by omega)]
  · congr 1
    rw [← List.append_assoc, List.drop_append, List.length_append, htake, length_toLE,
      List.drop_eq_nil_of_le (by simp), Nat.sub_self, List.drop_zero, List.nil_append]

/-- **Writing through the slot arms for the new pointer**, whichever
encoding it finds and whichever the new pointer takes. -/
theorem armed_writeThroughSlot {slot q : ℕ} (hodd : address % 2 = 0)
    (h : Armed art mem address slot q) (hp : art.arch.Fits p) :
    Armed art (writeThroughSlot art mem slot p).1 address (writeThroughSlot art mem slot p).2
      p := by
  by_cases htag : slot % 2 = 1
  · -- a tagged slot is one past the address, in either encoding
    have hslot : slot = address + 1 := by
      rcases h with ⟨hs, -⟩ | ⟨hs, -⟩
      · exact hs
      · cases harch : art.arch <;> simp only [harch, Arch.artMethodOffset] at hs <;> omega
    have hw := armed_writeTrampoline mem address hp
    have hret : (writeTrampoline art mem address p).2 = address + 1 ∨
        (writeTrampoline art mem address p).2 % 2 = 0 := by
      rcases hw with ⟨hs, -⟩ | ⟨hs, -⟩
      · exact Or.inl hs
      · cases harch : art.arch <;> simp only [harch, Arch.artMethodOffset] at hs <;> omega
    rw [writeThroughSlot, if_pos htag, hslot, Nat.add_sub_cancel]
    rcases hret with hret | hret
    · simp only [hret, if_neg (show ¬ (address + 1) % 2 = 0 by omega)]
      rw [hret] at hw
      exact hw
    · simp only [if_pos hret]
      exact hw
  · rw [writeThroughSlot, if_neg htag]
    rcases h with ⟨hs, -⟩ | ⟨hs, -, hread⟩
    · omega
    · exact Or.inr ⟨hs, hp, hs ▸ read_store_literal hread⟩

/-- Writing through the slot touches the trampoline's own bytes only. -/
theorem read_writeThroughSlot_of_disjoint {slot q b n : ℕ} (hodd : address % 2 = 0)
    (h : Armed art mem address slot q)
    (hd : address + art.arch.template.length ≤ b ∨ b + n ≤ address) :
    (writeThroughSlot art mem slot p).1.read b n = mem.read b n := by
  have hlen := artMethodOffset_add_pointerSize_le art.arch
  unfold writeThroughSlot
  split <;> rename_i htag
  · have hslot : slot - 1 = address := by
      rcases h with ⟨hs, -⟩ | ⟨hs, -⟩
      · omega
      · cases harch : art.arch <;> simp only [harch, Arch.artMethodOffset] at hs <;> omega
    rw [hslot]
    exact read_writeTrampoline_of_disjoint hd
  · rcases h with ⟨hs, -⟩ | ⟨hs, -⟩
    · omega
    · rw [hs]
      exact Memory.read_write_of_disjoint (by rw [length_toLE]; omega)

end LSPlant
