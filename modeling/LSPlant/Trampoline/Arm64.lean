import LSPlant.Library.A64
import LSPlant.Trampoline.Write
/-!
# The arm64 trampolines run

What the 20 bytes of an arm64 trampoline do when control reaches them:
both encodings load the hook into `x0`, its entry point into a scratch
register, and return to it. The entry point offset is the template's
`LDUR` immediate, or-ed in across a byte boundary; the pointer is three
move-wide immediates or the literal behind the code.
-/

namespace LSPlant

open A64 (Instr)

/-! ## The instruction words -/

section Words

/-- The low half of the offset, in the high half of its byte. -/
theorem or_low_nibble (k : Byte) : ((0x00 : Byte) ||| k <<< 4).toNat = k.toNat % 16 * 16 := by
  revert k; decide

/-- The high half of the offset, under the bit the template has set. -/
theorem or_high_nibble (k : Byte) : ((0x40 : Byte) ||| k >>> 4).toNat = 0x40 + k.toNat / 16 := by
  revert k; decide

/-- **The patched `LDUR`**: the offset is its immediate. -/
theorem ofLE_patched_ldur (k : Byte) (rt : BitVec 5) :
    Byte.ofLE [rt.setWidth 8, (0x00 : Byte) ||| k <<< 4, (0x40 : Byte) ||| k >>> 4, 0xf8] =
      (Instr.ldur (k.setWidth 9) 0 rt).encode := by
  have hk := k.isLt
  have hrt := rt.isLt
  simp only [Byte.ofLE, or_low_nibble, or_high_nibble, Instr.encode, BitVec.toNat_setWidth,
    BitVec.reduceToNat]
  omega

variable (art : Art)

/-- The jump of the move-immediate template. -/
theorem wordAt_patchedTemplate_jump :
    wordAt art.patchedTemplate 3 = (Instr.ldur (art.entryPointOffset.setWidth 9) 0 17).encode ∧
      wordAt art.patchedTemplate 4 = (Instr.ret 17).encode := by
  have h4 : (art.patchedTemplate.drop 16).take 4 = ([0x20, 0x02, 0x5f, 0xd6] : List Byte) := rfl
  refine ⟨ofLE_patched_ldur art.entryPointOffset 17, ?_⟩
  simp only [wordAt, h4]
  decide

/-- **The instructions of the move-immediate form.** -/
theorem optimizedTrampoline_instrs (h : BitVec 64) :
    wordAt (art.optimizedTrampoline h.toNat) 0 = (Instr.movz 2 (h.extractLsb' 32 16) 0).encode ∧
      wordAt (art.optimizedTrampoline h.toNat) 1 = (Instr.movk 1 (h.extractLsb' 16 16) 0).encode ∧
      wordAt (art.optimizedTrampoline h.toNat) 2 = (Instr.movk 0 (h.extractLsb' 0 16) 0).encode ∧
      wordAt (art.optimizedTrampoline h.toNat) 3 =
        (Instr.ldur (art.entryPointOffset.setWidth 9) 0 17).encode ∧
      wordAt (art.optimizedTrampoline h.toNat) 4 = (Instr.ret 17).encode := by
  obtain ⟨h0, h1, h2⟩ := wordAt_optimizedTrampoline art h.toNat
  obtain ⟨h3, h4⟩ := wordAt_patchedTemplate_jump art
  -- the jump lies behind the three words the pointer goes into
  have hjump : ∀ i, 2 < i → wordAt (art.optimizedTrampoline h.toNat) i =
      wordAt art.patchedTemplate i := by
    intro i hi
    have hl0 := length_patchedTemplate art
    have hl1 := length_updateMoveWideImm_patched (h.toNat / 2 ^ 32) (show 0 < 3 by decide) hl0
    have hl2 := length_updateMoveWideImm_patched (h.toNat / 2 ^ 16 % 2 ^ 16)
      (show 1 < 3 by decide) hl1
    change wordAt (updateMoveWideImm (updateMoveWideImm (updateMoveWideImm
      art.patchedTemplate 0 _) 1 _) 2 _) i = _
    rw [wordAt_updateMoveWideImm_of_gt (by omega) (by omega),
      wordAt_updateMoveWideImm_of_gt (by omega) (by omega),
      wordAt_updateMoveWideImm_of_gt (by omega) (by omega)]
  have hfield : ∀ start, (h.extractLsb' start 16).toNat = h.toNat / 2 ^ start % 2 ^ 16 := by
    intro start
    rw [BitVec.extractLsb'_toNat, Nat.shiftRight_eq_div_pow]
  refine ⟨?_, ?_, ?_, (hjump 3 (by decide)).trans h3, (hjump 4 (by decide)).trans h4⟩
  · rw [h0]
    simp only [setMoveWideImm, Instr.encode, hfield, BitVec.reduceToNat]
    omega
  · rw [h1]
    simp only [setMoveWideImm, Instr.encode, hfield, BitVec.reduceToNat]
    omega
  · rw [h2]
    simp only [setMoveWideImm, Instr.encode, hfield, BitVec.reduceToNat]
    omega

variable {art}

/-- **The instructions of the literal form.** -/
theorem literalTrampoline_instrs (harch : art.arch = .arm64) (p : ℕ) :
    wordAt (art.literalTrampoline p) 0 = (Instr.ldr 3 0).encode ∧
      wordAt (art.literalTrampoline p) 1 =
        (Instr.ldur (art.entryPointOffset.setWidth 9) 0 16).encode ∧
      wordAt (art.literalTrampoline p) 2 = (Instr.ret 16).encode := by
  have hcode : art.trampoline.take 12 = ([0x60, 0x00, 0x00, 0x58, (16 : BitVec 5).setWidth 8,
      (0x00 : Byte) ||| art.entryPointOffset <<< 4, (0x40 : Byte) ||| art.entryPointOffset >>> 4,
      0xf8, 0x00, 0x02, 0x5f, 0xd6] : List Byte) := by
    rw [Art.trampoline, harch]
    rfl
  have hform : art.literalTrampoline p = art.trampoline.take 12 ++
      (Byte.toLE art.arch.pointerSize p ++
        art.trampoline.drop (art.arch.artMethodOffset + art.arch.pointerSize)) := by
    rw [Art.literalTrampoline, List.append_assoc, harch]
    rfl
  rw [hform, hcode]
  refine ⟨?_, ofLE_patched_ldur art.entryPointOffset 16, ?_⟩
  · show Byte.ofLE [0x60, 0x00, 0x00, 0x58] = _
    decide
  · show Byte.ofLE [0x00, 0x02, 0x5f, 0xd6] = _
    decide

end Words

/-! ## The runs -/

/-- The three chunks put together again. -/
theorem movz_movk_movk {h : BitVec 64} (hh : h.toNat / 2 ^ 48 = 0) :
    (((h.extractLsb' 32 16).setWidth 64 <<< 32 &&& ~~~((0xffff : BitVec 64) <<< 16) |||
        (h.extractLsb' 16 16).setWidth 64 <<< 16) &&& ~~~((0xffff : BitVec 64) <<< 0) |||
      (h.extractLsb' 0 16).setWidth 64 <<< 0) = h := by
  have hhigh : ∀ j, 48 ≤ j → h.getLsbD j = false := by
    intro j hj
    have hlt : h.toNat < 2 ^ j :=
      lt_of_lt_of_le (by omega) (Nat.pow_le_pow_right (by decide) hj)
    exact Nat.testBit_lt_two_pow hlt
  refine BitVec.eq_of_getLsbD_eq fun j hj => ?_
  rw [A64.getLsbD_movk, A64.getLsbD_movk, BitVec.getLsbD_shiftLeft, BitVec.getLsbD_setWidth]
  simp only [BitVec.getLsbD_extractLsb']
  -- each bit comes from the chunk it lies in, and there are none above the last
  rcases Nat.lt_or_ge j 16 with h16 | h16
  · rw [if_pos (by omega)]
    simp [h16]
  rw [if_neg (by omega)]
  rcases Nat.lt_or_ge j 32 with h32 | h32
  · rw [if_pos (by omega), Nat.add_sub_cancel' h16]
    simp [show j - 16 < 16 by omega]
  rw [if_neg (by omega), Nat.add_sub_cancel' h32]
  rcases Nat.lt_or_ge j 48 with h48 | h48
  · simp [hj, Nat.not_lt.2 h32, show j - 32 < 16 by omega, show j - 32 < 64 by omega]
  · simp [hhigh j h48]

/-- The offset is never negative. -/
theorem signExtend_offset (k : Byte) : (k.setWidth 9).signExtend 64 = k.setWidth 64 := by
  have hk := k.isLt
  have hmsb : (k.setWidth 9).msb = false := by
    rw [BitVec.msb_eq_decide, BitVec.toNat_setWidth]
    exact decide_eq_false (by omega)
  rw [BitVec.signExtend_eq_setWidth_of_msb_false hmsb]
  refine BitVec.eq_of_toNat_eq ?_
  simp only [BitVec.toNat_setWidth]
  omega

variable {art : Art} {s : A64.State} {a h : BitVec 64}

/-- **What a trampoline has to do**: the hook in `x0`, control at what its
entry point holds, and nothing else changed but the scratch registers. -/
structure Entered (art : Art) (h : BitVec 64) (s s' : A64.State) : Prop where
  hook : s'.x 0 = h
  entry : s'.pc = s.load (h + art.entryPointOffset.setWidth 64)
  mem : s'.mem = s.mem
  frame : ∀ r, r ≠ 0 → r ≠ 16 → r ≠ 17 → s'.x r = s.x r

/-- **The move-immediate form runs.** -/
theorem run_optimizedTrampoline (ha : a.toNat % 4 = 0) (hpc : s.pc = a)
    (hcode : A64.Holds s.mem a (art.optimizedTrampoline h.toNat)) (hh : h.toNat / 2 ^ 48 = 0) :
    ∃ s', A64.run 5 s = some s' ∧ Entered art h s s' := by
  obtain ⟨h0, h1, h2, h3, h4⟩ := optimizedTrampoline_instrs art h
  have hlen : (art.optimizedTrampoline h.toNat).length = 20 := length_optimizedTrampoline
  let s₁ := (Instr.movz 2 (h.extractLsb' 32 16) 0).exec s
  let s₂ := (Instr.movk 1 (h.extractLsb' 16 16) 0).exec s₁
  let s₃ := (Instr.movk 0 (h.extractLsb' 0 16) 0).exec s₂
  let s₄ := (Instr.ldur (art.entryPointOffset.setWidth 9) 0 17).exec s₃
  have hpc₀ : s.pc = a + BitVec.ofNat 64 (4 * 0) := by rw [hpc]; exact (BitVec.add_zero a).symm
  have hpc₁ : s₁.pc = a + BitVec.ofNat 64 (4 * 1) := by rw [← A64.next_pc, ← hpc₀]; rfl
  have hpc₂ : s₂.pc = a + BitVec.ofNat 64 (4 * 2) := by rw [← A64.next_pc, ← hpc₁]; rfl
  have hpc₃ : s₃.pc = a + BitVec.ofNat 64 (4 * 3) := by rw [← A64.next_pc, ← hpc₂]; rfl
  have hpc₄ : s₄.pc = a + BitVec.ofNat 64 (4 * 4) := by rw [← A64.next_pc, ← hpc₃]; rfl
  have hrun : A64.run 5 s = some ((Instr.ret 17).exec s₄) :=
    calc A64.run 5 s = A64.run 4 s₁ := A64.run_of_holds hcode rfl ha hpc₀ (by omega) h0
      _ = A64.run 3 s₂ := A64.run_of_holds hcode rfl ha hpc₁ (by omega) h1
      _ = A64.run 2 s₃ := A64.run_of_holds hcode rfl ha hpc₂ (by omega) h2
      _ = A64.run 1 s₄ := A64.run_of_holds hcode rfl ha hpc₃ (by omega) h3
      _ = A64.run 0 ((Instr.ret 17).exec s₄) :=
        A64.run_of_holds hcode rfl ha hpc₄ (by omega) h4
  have hx0 : s₃.x 0 = h := movz_movk_movk hh
  have hx17 : s₄.x 17 = s₃.load (s₃.x 0 + (art.entryPointOffset.setWidth 9).signExtend 64) := rfl
  refine ⟨_, hrun, hx0, ?_, rfl, ?_⟩
  · show s₄.x 17 = _
    rw [hx17, hx0, signExtend_offset]
    rfl
  · intro r h0 _ h17
    show s₄.x r = s.x r
    calc s₄.x r = s₃.x r := A64.setX_x_of_ne _ h17
      _ = s₂.x r := A64.setX_x_of_ne _ h0
      _ = s₁.x r := A64.setX_x_of_ne _ h0
      _ = s.x r := A64.setX_x_of_ne _ h0

/-- **The literal form runs.** -/
theorem run_literalTrampoline (harch : art.arch = .arm64) (ha : a.toNat % 4 = 0) (hpc : s.pc = a)
    (hcode : A64.Holds s.mem a (art.literalTrampoline h.toNat)) :
    ∃ s', A64.run 3 s = some s' ∧ Entered art h s s' := by
  obtain ⟨h0, h1, h2⟩ := literalTrampoline_instrs harch h.toNat
  have hlen : (art.literalTrampoline h.toNat).length = 20 := by
    rw [length_literalTrampoline, harch]
    rfl
  let s₁ := (Instr.ldr 3 0).exec s
  let s₂ := (Instr.ldur (art.entryPointOffset.setWidth 9) 0 16).exec s₁
  have hpc₀ : s.pc = a + BitVec.ofNat 64 (4 * 0) := by rw [hpc]; exact (BitVec.add_zero a).symm
  have hpc₁ : s₁.pc = a + BitVec.ofNat 64 (4 * 1) := by rw [← A64.next_pc, ← hpc₀]; rfl
  have hpc₂ : s₂.pc = a + BitVec.ofNat 64 (4 * 2) := by rw [← A64.next_pc, ← hpc₁]; rfl
  have hrun : A64.run 3 s = some ((Instr.ret 16).exec s₂) :=
    calc A64.run 3 s = A64.run 2 s₁ := A64.run_of_holds hcode rfl ha hpc₀ (by omega) h0
      _ = A64.run 1 s₂ := A64.run_of_holds hcode rfl ha hpc₁ (by omega) h1
      _ = A64.run 0 ((Instr.ret 16).exec s₂) :=
        A64.run_of_holds hcode rfl ha hpc₂ (by omega) h2
  -- the literal is the pointer
  have hliteral : s.load (a + BitVec.ofNat 64 12) = h := by
    have hread := literal_at_offset art h.toNat
    rw [harch] at hread
    rw [A64.State.load, hcode.read (by omega : 12 + 8 ≤ _)]
    change BitVec.ofNat 64 (Byte.ofLE (((art.literalTrampoline h.toNat).drop
      (Arch.arm64.artMethodOffset)).take Arch.arm64.pointerSize)) = h
    rw [hread, Byte.ofLE_toLE h.isLt, BitVec.ofNat_toNat, BitVec.setWidth_eq]
  have hx0 : s₁.x 0 = h := by
    rw [← hliteral, ← hpc]
    rfl
  have hx16 : s₂.x 16 = s₁.load (s₁.x 0 + (art.entryPointOffset.setWidth 9).signExtend 64) := rfl
  refine ⟨_, hrun, hx0, ?_, rfl, ?_⟩
  · show s₂.x 16 = _
    rw [hx16, hx0, signExtend_offset]
    rfl
  · intro r h0 h16 _
    show s₂.x r = s.x r
    calc s₂.x r = s₁.x r := A64.setX_x_of_ne _ h16
      _ = s.x r := A64.setX_x_of_ne _ h0

/-- **The arm64 trampolines are correct code**: wherever the 20 bytes
`WriteTrampoline` leaves for a hook lie, and whatever else the machine
holds, running them enters the hook. Five instructions do it for a hook of
at most 48 bits, three for any other. -/
theorem arm64_trampoline_enters (harch : art.arch = .arm64) (mem : Memory)
    (ha : a.toNat % 4 = 0) (hpc : s.pc = a)
    (hcode : A64.Holds s.mem a ((writeTrampoline art mem a.toNat h.toNat).1.read a.toNat 20)) :
    ∃ s', A64.run (if h.toNat < 2 ^ 48 then 5 else 3) s = some s' ∧ Entered art h s s' := by
  have hlen : art.arch.template.length = 20 := by rw [harch]; rfl
  rw [← hlen, read_writeTrampoline] at hcode
  by_cases hh : h.toNat < 2 ^ 48
  · have hdiv : h.toNat / 2 ^ 48 = 0 := Nat.div_eq_of_lt hh
    rw [if_pos ⟨harch, hdiv⟩] at hcode
    rw [if_pos hh]
    exact run_optimizedTrampoline ha hpc hcode hdiv
  · have hdiv : h.toNat / 2 ^ 48 ≠ 0 := by omega
    rw [if_neg (fun hc => hdiv hc.2)] at hcode
    rw [if_neg hh]
    exact run_literalTrampoline harch ha hpc hcode

/-- A hook at `5`, its entry point at `29`. -/
theorem sample_arm64_enters :
    let mem : Memory := (writeTrampoline sampleArt (fun _ => 0) 0x70000000 5).1
    let s : A64.State := { x := fun _ => 0, pc := 0x70000000, mem := fun x => mem x.toNat }
    ∃ s', A64.run 5 s = some s' ∧ s'.x 0 = 5 ∧ s'.pc = s.load 29 := by
  intro mem s
  have hcode : A64.Holds s.mem 0x70000000 (mem.read (0x70000000 : BitVec 64).toNat 20) :=
    A64.holds_of_read mem (by decide)
  obtain ⟨s', hrun, hs'⟩ := arm64_trampoline_enters (rfl : sampleArt.arch = .arm64) (fun _ => 0)
    (by decide : (0x70000000 : BitVec 64).toNat % 4 = 0) (rfl : s.pc = 0x70000000)
    (h := (5 : BitVec 64)) hcode
  exact ⟨s', hrun, hs'.hook, hs'.entry⟩

end LSPlant
