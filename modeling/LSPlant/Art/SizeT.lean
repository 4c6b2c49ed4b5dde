import LSPlant.Art.Config
/-!
# `size_t`

Sums, differences and alignments of sizes and addresses, which wrap around
at the end of the address space.
-/

namespace LSPlant

variable (art : Art) (x y alignment : ℕ)

/-- One more than the largest `size_t`. -/
def Art.addressSpace : ℕ := 256 ^ art.arch.pointerSize

def Art.wrapAdd : ℕ := (x + y) % art.addressSpace

def Art.wrapSub : ℕ := (x + art.addressSpace - y) % art.addressSpace

/-- `__builtin_align_up`, to a power of two. -/
def Art.alignUp : ℕ := (x + (alignment - 1)) % art.addressSpace / alignment * alignment

variable {art : Art}

theorem addressSpace_pos (art : Art) : 65536 < art.addressSpace := by
  unfold Art.addressSpace
  cases art.arch <;> decide

theorem wrapAdd_of_lt {x y : ℕ} (h : x + y < art.addressSpace) : art.wrapAdd x y = x + y :=
  Nat.mod_eq_of_lt h

theorem wrapSub_of_le {x y : ℕ} (h : y ≤ x) (hx : x < art.addressSpace) :
    art.wrapSub x y = x - y := by
  have hsub : x + art.addressSpace - y = x - y + art.addressSpace := by omega
  rw [Art.wrapSub, hsub, Nat.add_mod_right, Nat.mod_eq_of_lt (by omega)]

theorem dvd_alignUp (art : Art) (x alignment : ℕ) : alignment ∣ art.alignUp x alignment :=
  Dvd.intro_left _ rfl

/-- **Aligning up** goes no further than to the next multiple. -/
theorem alignUp_bounds {x alignment : ℕ} (ha : 0 < alignment)
    (h : x + (alignment - 1) < art.addressSpace) :
    x ≤ art.alignUp x alignment ∧ art.alignUp x alignment ≤ x + (alignment - 1) := by
  rw [Art.alignUp, Nat.mod_eq_of_lt h]
  have hdiv := Nat.div_add_mod (x + (alignment - 1)) alignment
  have hmod := Nat.mod_lt (x + (alignment - 1)) ha
  rw [Nat.mul_comm] at hdiv
  omega

theorem alignUp_of_dvd {x alignment : ℕ} (ha : 0 < alignment) (hd : alignment ∣ x)
    (h : x + (alignment - 1) < art.addressSpace) : art.alignUp x alignment = x := by
  obtain ⟨k, rfl⟩ := hd
  obtain ⟨j, hj⟩ := dvd_alignUp art (alignment * k) alignment
  obtain ⟨hlow, hhigh⟩ := alignUp_bounds ha h
  rw [hj] at hlow hhigh ⊢
  have hkj : k ≤ j := Nat.le_of_mul_le_mul_left hlow ha
  have hjk : j < k + 1 := by
    refine Nat.lt_of_mul_lt_mul_left (a := alignment) ?_
    rw [Nat.mul_add, Nat.mul_one]
    omega
  rw [show j = k by omega]

/-- A size that has been aligned to something has not been carried away. -/
theorem le_alignUp_of_ne_zero {x alignment : ℕ} (hx : x < art.addressSpace)
    (h : art.alignUp x alignment ≠ 0) : x ≤ art.alignUp x alignment := by
  have ha : 0 < alignment := by
    refine Nat.pos_of_ne_zero fun h0 => h ?_
    rw [h0, Art.alignUp, Nat.mul_zero]
  by_cases hcarry : x + (alignment - 1) < art.addressSpace
  · exact (alignUp_bounds ha hcarry).1
  · refine absurd ?_ h
    have hmod : (x + (alignment - 1)) % art.addressSpace < alignment := by
      rw [Nat.mod_eq_sub_mod (by omega)]
      refine lt_of_le_of_lt (Nat.mod_le _ _) ?_
      omega
    rw [Art.alignUp, Nat.div_eq_of_lt hmod, Nat.zero_mul]

end LSPlant
