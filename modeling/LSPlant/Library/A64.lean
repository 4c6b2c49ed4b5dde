import LSPlant.Library.Bytes
import Mathlib.Logic.Function.Basic
/-!
# Five instructions of A64

A 64-bit machine for straight-line code made of `MOVZ`, `MOVK`, `LDR`
(literal), `LDUR` and `RET`, each in its 64-bit form: how a word decodes,
what an instruction does, and running a number of steps. Memory is
addressed modulo `2 ^ 64` and little-endian. An instruction is fetched
from an aligned address; data may be loaded from any.
-/

namespace A64

/-- An instruction, its fields as the encoding has them. -/
inductive Instr where
  /-- `MOVZ Xd, #imm, LSL #(16 * hw)`. -/
  | movz (hw : BitVec 2) (imm : BitVec 16) (rd : BitVec 5)
  /-- `MOVK Xd, #imm, LSL #(16 * hw)`. -/
  | movk (hw : BitVec 2) (imm : BitVec 16) (rd : BitVec 5)
  /-- `LDR Xt, #(4 * imm)`, relative to the instruction. -/
  | ldr (imm : BitVec 19) (rt : BitVec 5)
  /-- `LDUR Xt, [Xn, #imm]`. -/
  | ldur (imm : BitVec 9) (rn rt : BitVec 5)
  /-- `RET Xn`. -/
  | ret (rn : BitVec 5)
deriving DecidableEq

/-- The instruction word. -/
def Instr.encode : Instr → ℕ
  | movz hw imm rd => 0b110100101 * 2 ^ 23 + hw.toNat * 2 ^ 21 + imm.toNat * 2 ^ 5 + rd.toNat
  | movk hw imm rd => 0b111100101 * 2 ^ 23 + hw.toNat * 2 ^ 21 + imm.toNat * 2 ^ 5 + rd.toNat
  | ldr imm rt => 0b01011000 * 2 ^ 24 + imm.toNat * 2 ^ 5 + rt.toNat
  | ldur imm rn rt =>
    0b11111000010 * 2 ^ 21 + imm.toNat * 2 ^ 12 + rn.toNat * 2 ^ 5 + rt.toNat
  | ret rn => 0b1101011001011111000000 * 2 ^ 10 + rn.toNat * 2 ^ 5

/-- **Decoding**, by the fixed bits of each encoding. Any other word is
not one of the five. -/
def decode (w : BitVec 32) : Option Instr :=
  if w.extractLsb' 23 9 = 0b110100101 then
    some (.movz (w.extractLsb' 21 2) (w.extractLsb' 5 16) (w.extractLsb' 0 5))
  else if w.extractLsb' 23 9 = 0b111100101 then
    some (.movk (w.extractLsb' 21 2) (w.extractLsb' 5 16) (w.extractLsb' 0 5))
  else if w.extractLsb' 24 8 = 0b01011000 then
    some (.ldr (w.extractLsb' 5 19) (w.extractLsb' 0 5))
  else if w.extractLsb' 21 11 = 0b11111000010 ∧ w.extractLsb' 10 2 = 0 then
    some (.ldur (w.extractLsb' 12 9) (w.extractLsb' 5 5) (w.extractLsb' 0 5))
  else if w.extractLsb' 10 22 = 0b1101011001011111000000 ∧ w.extractLsb' 0 5 = 0 then
    some (.ret (w.extractLsb' 5 5))
  else none

theorem extractLsb'_eq_iff {w : BitVec 32} {start len : ℕ} {x : BitVec len} :
    w.extractLsb' start len = x ↔ w.toNat / 2 ^ start % 2 ^ len = x.toNat := by
  rw [← BitVec.toNat_inj, BitVec.extractLsb'_toNat, Nat.shiftRight_eq_div_pow]

/-- **Decoding reads an encoding back.** -/
theorem decode_of_toNat {w : BitVec 32} {i : Instr} (h : w.toNat = i.encode) :
    decode w = some i := by
  -- the fixed bits tell the five apart, so all tests but one are off
  unfold decode
  simp only [extractLsb'_eq_iff, BitVec.reduceToNat]
  cases i with
  | movz hw imm rd =>
    have hhw := hw.isLt
    have himm := imm.isLt
    have hrd := rd.isLt
    simp only [Instr.encode] at h
    rw [if_pos (by omega)]
    simp only [Option.some.injEq, Instr.movz.injEq, extractLsb'_eq_iff]
    omega
  | movk hw imm rd =>
    have hhw := hw.isLt
    have himm := imm.isLt
    have hrd := rd.isLt
    simp only [Instr.encode] at h
    rw [if_neg (by omega), if_pos (by omega)]
    simp only [Option.some.injEq, Instr.movk.injEq, extractLsb'_eq_iff]
    omega
  | ldr imm rt =>
    have himm := imm.isLt
    have hrt := rt.isLt
    simp only [Instr.encode] at h
    rw [if_neg (by omega), if_neg (by omega), if_pos (by omega)]
    simp only [Option.some.injEq, Instr.ldr.injEq, extractLsb'_eq_iff]
    omega
  | ldur imm rn rt =>
    have himm := imm.isLt
    have hrn := rn.isLt
    have hrt := rt.isLt
    simp only [Instr.encode] at h
    rw [if_neg (by omega), if_neg (by omega), if_neg (by omega), if_pos (by omega)]
    simp only [Option.some.injEq, Instr.ldur.injEq, extractLsb'_eq_iff]
    omega
  | ret rn =>
    have hrn := rn.isLt
    simp only [Instr.encode] at h
    rw [if_neg (by omega), if_neg (by omega), if_neg (by omega), if_neg (by omega),
      if_pos (by omega)]
    simp only [Option.some.injEq, Instr.ret.injEq, extractLsb'_eq_iff]
    omega

theorem encode_lt (i : Instr) : i.encode < 2 ^ 32 := by
  cases i <;> simp only [Instr.encode] <;> omega

/-! ## Running -/

/-- **The machine.** Register 31 is the stack pointer, where it is the base
of an address, and reads as zero elsewhere. -/
structure State where
  x : BitVec 5 → BitVec 64
  pc : BitVec 64
  mem : BitVec 64 → Byte

namespace State

/-- The `n` bytes at an address. -/
def read (s : State) (a : BitVec 64) (n : ℕ) : List Byte :=
  (List.range n).map fun i => s.mem (a + BitVec.ofNat 64 i)

/-- A doubleword load. -/
def load (s : State) (a : BitVec 64) : BitVec 64 := BitVec.ofNat 64 (Byte.ofLE (s.read a 8))

/-- The word an instruction is fetched from. -/
def fetch (s : State) : BitVec 32 := BitVec.ofNat 32 (Byte.ofLE (s.read s.pc 4))

def getX (s : State) (r : BitVec 5) : BitVec 64 := if r = 31 then 0 else s.x r

/-- A register written, and on to the next instruction. -/
def setX (s : State) (r : BitVec 5) (v : BitVec 64) : State :=
  { s with x := if r = 31 then s.x else Function.update s.x r v, pc := s.pc + 4 }

end State

/-- **What an instruction does.** -/
def Instr.exec (s : State) : Instr → State
  | movz hw imm rd => s.setX rd (imm.setWidth 64 <<< (16 * hw.toNat))
  | movk hw imm rd =>
    s.setX rd (s.getX rd &&& ~~~((0xffff : BitVec 64) <<< (16 * hw.toNat)) |||
      imm.setWidth 64 <<< (16 * hw.toNat))
  | ldr imm rt => s.setX rt (s.load (s.pc + (imm ++ (0 : BitVec 2)).signExtend 64))
  | ldur imm rn rt => s.setX rt (s.load (s.x rn + imm.signExtend 64))
  | ret rn => { s with pc := s.getX rn }

/-- One step, from an aligned address that holds one of the five. -/
def step (s : State) : Option State :=
  if s.pc.toNat % 4 = 0 then (decode s.fetch).map (Instr.exec s) else none

/-- `n` steps. -/
def run : ℕ → State → Option State
  | 0, s => some s
  | n + 1, s => (step s).bind (run n)

section Rules

variable {s : State} {i : Instr} {n : ℕ}

/-- **One instruction of a run.** -/
theorem run_succ (hpc : s.pc.toNat % 4 = 0) (hfetch : s.fetch.toNat = i.encode) :
    run (n + 1) s = run n (i.exec s) := by
  simp only [run, step, if_pos hpc, decode_of_toNat hfetch, Option.map_some, Option.bind_some]

/-- Other registers keep their values. -/
theorem setX_x_of_ne {r q : BitVec 5} (v : BitVec 64) (h : q ≠ r) : (s.setX r v).x q = s.x q := by
  simp only [State.setX]
  split
  · rfl
  · exact Function.update_of_ne h v s.x

/-! ## Code in memory -/

/-- **The bytes lie in memory** from an address on. -/
def Holds (mem : BitVec 64 → Byte) (a : BitVec 64) (bytes : List Byte) : Prop :=
  ∀ i (hi : i < bytes.length), mem (a + BitVec.ofNat 64 i) = bytes[i]

/-- Part of them read back. -/
theorem Holds.read {a : BitVec 64} {bytes : List Byte} {k : ℕ} (h : Holds s.mem a bytes)
    (hk : k + n ≤ bytes.length) :
    s.read (a + BitVec.ofNat 64 k) n = (bytes.drop k).take n := by
  refine List.ext_getElem (by simp [State.read]; omega) fun j h₁ h₂ => ?_
  simp only [State.read, List.length_map, List.length_range] at h₁
  simp only [State.read, List.getElem_map, List.getElem_range, List.getElem_take,
    List.getElem_drop]
  rw [BitVec.add_assoc, ← BitVec.ofNat_add]
  exact h (k + j) (by omega)

/-- A flat memory holds what it reads, short of wrapping around. -/
theorem holds_of_read (mem : Memory) {a : BitVec 64} (h : a.toNat + n ≤ 2 ^ 64) :
    Holds (fun x => mem x.toNat) a (mem.read a.toNat n) := by
  intro i hi
  rw [Memory.length_read] at hi
  simp only [Memory.read, List.getElem_map, List.getElem_range]
  congr 1
  rw [BitVec.toNat_add, BitVec.toNat_ofNat]
  omega

/-- The next instruction's address. -/
theorem next_pc (a : BitVec 64) (k : ℕ) :
    a + BitVec.ofNat 64 (4 * k) + 4 = a + BitVec.ofNat 64 (4 * (k + 1)) := by
  rw [BitVec.add_assoc, Nat.mul_add, BitVec.ofNat_add]
  rfl

/-- **The instruction of a run at a place in the code.** -/
theorem run_of_holds {mem : BitVec 64 → Byte} {a : BitVec 64} {bytes : List Byte} {k : ℕ}
    (hcode : Holds mem a bytes) (hmem : s.mem = mem) (ha : a.toNat % 4 = 0)
    (hpc : s.pc = a + BitVec.ofNat 64 (4 * k)) (hk : 4 * k + 4 ≤ bytes.length)
    (hword : Byte.ofLE ((bytes.drop (4 * k)).take 4) = i.encode) :
    run (n + 1) s = run n (i.exec s) := by
  subst hmem
  refine run_succ ?_ ?_
  · rw [hpc, BitVec.toNat_add, BitVec.toNat_ofNat]
    omega
  · rw [State.fetch, hpc, hcode.read hk, hword, BitVec.toNat_ofNat,
      Nat.mod_eq_of_lt (encode_lt i)]

/-- **Bit-field insertion**, bit by bit: what `MOVK` leaves in a register. -/
theorem getLsbD_movk (x : BitVec 64) (imm : BitVec 16) (p j : ℕ) :
    (x &&& ~~~((0xffff : BitVec 64) <<< p) ||| imm.setWidth 64 <<< p).getLsbD j =
      if p ≤ j ∧ j < p + 16 ∧ j < 64 then imm.getLsbD (j - p) else x.getLsbD j := by
  have hmask : ∀ k, (0xffff : BitVec 64).getLsbD k = decide (k < 16) := fun k =>
    Nat.testBit_two_pow_sub_one 16 k
  simp only [BitVec.getLsbD_or, BitVec.getLsbD_and, BitVec.getLsbD_not, BitVec.getLsbD_shiftLeft,
    BitVec.getLsbD_setWidth, hmask]
  by_cases h64 : j < 64
  · by_cases hp : p ≤ j
    · by_cases hj : j < p + 16
      · simp [h64, hp, hj, Nat.not_lt.2 hp, show j - p < 16 by omega, show j - p < 64 by omega]
      · have hout : imm.getLsbD (j - p) = false := BitVec.getLsbD_of_ge _ _ (by omega)
        simp [h64, hp, hj, Nat.not_lt.2 hp, show ¬ j - p < 16 by omega, hout]
    · simp [h64, hp, Nat.lt_of_not_le hp]
  · have hout : x.getLsbD j = false := BitVec.getLsbD_of_ge _ _ (by omega)
    simp [h64, hout]

end Rules

end A64
