import LSPlant.Trampoline.Pool
/-!
# Retargeting a trampoline

A trampoline is written once by `GenerateTrampolineFor` and then as often
as its hook is switched, each time through the slot the last write left.
Bit 0 of the slot says how: set, the whole trampoline is written again one
byte below it; clear, the slot is the pointer's place in the literal form.
On x86 the bit is the address's own, and both ways would do.
-/

namespace LSPlant

/-- **The writes of `SetHookEnabled`, one after another**: the memory and the
slot after them. -/
def retarget (art : Art) (mem : Memory) (slot : ℕ) (pointers : List ArtMethodPtr) : Memory × ℕ :=
  pointers.foldl (fun written p => writeThroughSlot art written.1 written.2 p) (mem, slot)

variable {art : Art} {s s' : Trampolines} {mem mem' : Memory} {address slot p : ℕ}
  {pointers : List ArtMethodPtr} {mmap : Option ℕ}

/-- **A trampoline and the memory around it** after any number of writes:
armed with the last pointer, and nothing else written to. -/
structure Retargeted (art : Art) (mem : Memory) (address : ℕ) (written : Memory × ℕ) (p : ℕ) :
    Prop where
  armed : Armed art written.1 address written.2 p
  outside : ∀ x, x < address ∨ address + art.arch.trampolineSize ≤ x → written.1 x = mem x

/-- The byte at an address, as a range of one. -/
theorem read_one {x : ℕ} : mem.read x 1 = [mem x] := by simp [Memory.read]

/-- **The first write.** -/
theorem retargeted_writeTrampoline (mem : Memory) (address : ℕ) (hp : art.arch.Fits p) :
    Retargeted art mem address (writeTrampoline art mem address p) p where
  armed := armed_writeTrampoline mem address hp
  outside x hx := by
    have hlen := template_length_le art.arch
    have hread : (writeTrampoline art mem address p).1.read x 1 = mem.read x 1 :=
      read_writeTrampoline_of_disjoint (by omega)
    rw [read_one, read_one] at hread
    exact List.head_eq_of_cons_eq hread

/-- **Any later write.** -/
theorem Retargeted.write {written : Memory × ℕ} {q : ℕ} (heven : address % 2 = 0)
    (h : Retargeted art mem address written p) (hq : art.arch.Fits q) :
    Retargeted art mem address (writeThroughSlot art written.1 written.2 q) q where
  armed := armed_writeThroughSlot heven h.armed hq
  outside x hx := by
    have hlen := template_length_le art.arch
    have hread : (writeThroughSlot art written.1 written.2 q).1.read x 1 = written.1.read x 1 :=
      read_writeThroughSlot_of_disjoint heven h.armed (by omega)
    rw [read_one, read_one] at hread
    exact (List.head_eq_of_cons_eq hread).trans (h.outside x hx)

/-- **All of them**: what counts is the last pointer. -/
theorem Retargeted.writes (heven : address % 2 = 0)
    (h : Retargeted art mem address (mem', slot) p) (hps : ∀ q ∈ pointers, art.arch.Fits q) :
    Retargeted art mem address (retarget art mem' slot pointers) (pointers.getLastD p) := by
  induction pointers generalizing mem' slot p with
  | nil => exact h
  | cons q pointers ih =>
    rw [List.forall_mem_cons] at hps
    rw [List.getLastD_cons]
    exact ih (h.write heven hps.1) hps.2

/-- The slot of an armed trampoline tells its form: a tagged one is the
address and the tag, any other the pointer's place in the literal form. -/
theorem Armed.slot_form (heven : address % 2 = 0) (h : Armed art mem address slot p) :
    if slot % 2 = 1 then slot - 1 = address
    else slot = address + art.arch.artMethodOffset ∧
      mem.read address art.arch.template.length = art.literalTrampoline p := by
  split
  · rename_i htag
    rcases h with ⟨rfl, -⟩ | ⟨rfl, -⟩
    · exact Nat.add_sub_cancel address 1
    · cases harch : art.arch <;> simp only [harch, Arch.artMethodOffset] at htag ⊢ <;> omega
  · rename_i htag
    rcases h with ⟨rfl, -⟩ | ⟨hslot, -, hread⟩
    · omega
    · exact ⟨hslot, hread⟩

/-- A trampoline's bytes are what a fresh write leaves, or the literal form
with the same target. -/
theorem Armed.fresh_or_literal (h : Armed art mem address slot p) (mem' : Memory) :
    let bytes := mem.read address art.arch.template.length
    let fresh := (writeTrampoline art mem' address p).1.read address art.arch.template.length
    bytes = fresh ∨ bytes = art.literalTrampoline p ∧
      LSPlant.dispatchTarget art.arch bytes = LSPlant.dispatchTarget art.arch fresh := by
  intro bytes fresh
  rcases h with ⟨-, harch, hp, hread⟩ | ⟨hslot, hp, hread⟩
  · left
    have hfresh := read_writeTrampoline art mem' address p
    rw [if_pos ⟨harch, hp⟩] at hfresh
    exact hread.trans hfresh.symm
  · right
    have hsame : Armed art mem address slot p := Or.inr ⟨hslot, hp, hread⟩
    refine ⟨hread, hsame.dispatchTarget.trans ?_⟩
    exact (armed_writeTrampoline mem' address hp).dispatchTarget.symm

/-! ## From the address handed out -/

/-- An address handed out is even. -/
theorem takeSlot_even (hmap : ∀ page ∈ mmap, page % art.pageSize = 0)
    (h : (takeSlot art s mmap).2 = some address) : address % 2 = 0 := by
  rcases takeSlot_cases art s mmap with ⟨page, hp, ht⟩ | ht | ⟨-, -, ht⟩ <;> rw [ht] at h
  · obtain rfl : page = address := Option.some.inj h
    have heven := art.slot_even (hmap page hp) 0
    rwa [Nat.zero_mul, Nat.add_zero] at heven
  · exact absurd h (by simp)
  · obtain rfl := Option.some.inj h
    exact art.slot_even (Nat.mul_mod_left _ _) _

/-- **A trampoline generated** is armed, and all that was written. -/
theorem retargeted_generateTrampolineFor {hook : ArtMethodPtr} {ok : Bool}
    (hmap : ∀ page ∈ mmap, page % art.pageSize = 0)
    (h : generateTrampolineFor art s hook mmap ok = (s', some (address, slot)))
    (hhook : art.arch.Fits hook) :
    address % 2 = 0 ∧ Retargeted art s.mem address (s'.mem, slot) hook := by
  rcases generateTrampolineFor_cases art s hook mmap ok with hg | ⟨a, ha, hg⟩ <;> rw [hg] at h
  · exact absurd (congrArg Prod.snd h) (by simp)
  · obtain ⟨rfl, hsome⟩ := Prod.mk.inj h
    obtain ⟨rfl, rfl⟩ := Prod.mk.inj (Option.some.inj hsome)
    exact ⟨takeSlot_even hmap ha, retargeted_writeTrampoline s.mem a hhook⟩

/-- **Retargeting is exact**, on every architecture, for every address
`GenerateTrampolineFor` hands out and however often its slot is written
through: the bytes are a fresh write's, or the literal form of the same
pointer and dispatch to the same target; nothing outside the trampoline is
written; and bit 0 of the slot says which write is valid next. -/
theorem retarget_exact {hook : ArtMethodPtr} {ok : Bool}
    (hmap : ∀ page ∈ mmap, page % art.pageSize = 0)
    (h : generateTrampolineFor art s hook mmap ok = (s', some (address, slot)))
    (hhook : art.arch.Fits hook) (hps : ∀ p ∈ pointers, art.arch.Fits p) :
    let written := retarget art s'.mem slot pointers
    let last := pointers.getLastD hook
    let bytes := written.1.read address art.arch.template.length
    let fresh := (writeTrampoline art s.mem address last).1.read address art.arch.template.length
    (bytes = fresh ∨ bytes = art.literalTrampoline last ∧
        dispatchTarget art.arch bytes = dispatchTarget art.arch fresh) ∧
      dispatchTarget art.arch bytes = some last ∧
      (∀ x, x < address ∨ address + art.arch.trampolineSize ≤ x → written.1 x = s.mem x) ∧
      if written.2 % 2 = 1 then written.2 - 1 = address
      else written.2 = address + art.arch.artMethodOffset ∧ bytes = art.literalTrampoline last := by
  intro written last bytes fresh
  obtain ⟨heven, hgen⟩ := retargeted_generateTrampolineFor hmap h hhook
  have hlast : Retargeted art s.mem address written last := hgen.writes heven hps
  exact ⟨hlast.armed.fresh_or_literal s.mem, hlast.armed.dispatchTarget, hlast.outside,
    hlast.armed.slot_form heven⟩

/-- Off to a pointer with high bits, which leaves the move-immediate form,
and back. -/
theorem sample_retarget :
    let s : Trampolines := { pool := 0, pages := ∅, mem := fun _ => 0 }
    let generated := generateTrampolineFor sampleArt s 5 (some 0x70000000) true
    let written := retarget sampleArt generated.1.mem 0x70000001 [2 ^ 50, 5]
    dispatchTarget .arm64 (written.1.read 0x70000000 20) = some 5 ∧
      ∀ x, x < 0x70000000 ∨ 0x70000014 ≤ x → written.1 x = 0 := by
  intro s generated written
  have hrun : generated = (generated.1, some (0x70000000, 0x70000001)) :=
    Prod.ext rfl (by decide)
  have hmap : ∀ page ∈ some 0x70000000, page % sampleArt.pageSize = 0 := by
    intro page hpage
    obtain rfl := Option.some.inj hpage
    decide
  have hps : ∀ p ∈ [2 ^ 50, 5], sampleArt.arch.Fits p := by
    simp [Arch.Fits, sampleArt, Arch.pointerSize]
  obtain ⟨-, htarget, houtside, -⟩ := retarget_exact hmap hrun (hps 5 (by simp)) hps
  exact ⟨htarget, houtside⟩

end LSPlant
