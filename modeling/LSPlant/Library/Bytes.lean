import Mathlib.Data.List.Basic
import Mathlib.Tactic.Ring
/-!
# Byte memory

Little-endian numbers as lists of bytes, and a byte-addressed memory with
the two things `memcpy` and a store do to it: the written range reads
back what was written, and a range the write does not meet reads what it
read before.
-/

abbrev Byte := BitVec 8

namespace Byte

/-- The `n` low bytes of a number, lowest first. -/
def toLE : ℕ → ℕ → List Byte
  | 0, _ => []
  | n + 1, v => BitVec.ofNat 8 v :: toLE n (v / 256)

/-- The number a list of bytes is the little-endian writing of. -/
def ofLE : List Byte → ℕ
  | [] => 0
  | b :: bs => b.toNat + 256 * ofLE bs

@[simp] theorem length_toLE (n v : ℕ) : (toLE n v).length = n := by
  induction n generalizing v with
  | zero => rfl
  | succ n ih => simp [toLE, ih]

theorem ofLE_toLE_mod (n v : ℕ) : ofLE (toLE n v) = v % 256 ^ n := by
  induction n generalizing v with
  | zero => simp [toLE, ofLE, Nat.mod_one]
  | succ n ih =>
    have hmul : 256 ^ (n + 1) = 256 * 256 ^ n := by ring
    simp only [toLE, ofLE, ih, BitVec.toNat_ofNat]
    rw [hmul, Nat.mod_mul]

/-- A number that fits reads back. -/
theorem ofLE_toLE {n v : ℕ} (h : v < 256 ^ n) : ofLE (toLE n v) = v := by
  rw [ofLE_toLE_mod, Nat.mod_eq_of_lt h]

end Byte

/-- A byte-addressed memory. -/
abbrev Memory := ℕ → Byte

namespace Memory

variable (mem : Memory) {a b n : ℕ} {bs cs : List Byte}

/-- The `n` bytes at an address. -/
def read (a n : ℕ) : List Byte := (List.range n).map fun i => mem (a + i)

/-- Overwrite the bytes from an address on. -/
def write (a : ℕ) (bs : List Byte) : Memory := fun x =>
  if a ≤ x then bs[x - a]?.getD (mem x) else mem x

variable {mem} {mem' : Memory}

@[simp] theorem length_read : (mem.read a n).length = n := by simp [read]

theorem read_congr (h : ∀ i < n, mem (a + i) = mem' (a + i)) : mem.read a n = mem'.read a n :=
  List.map_congr_left fun i hi => h i (List.mem_range.1 hi)

theorem write_of_lt {x : ℕ} (h : x < a) : mem.write a bs x = mem x := by
  simp [write, Nat.not_le.2 h]

theorem write_of_ge {x : ℕ} (h : a + bs.length ≤ x) : mem.write a bs x = mem x := by
  have hn : bs[x - a]? = none := List.getElem?_eq_none (by omega)
  simp [write, hn]

theorem write_apply {i : ℕ} (h : i < bs.length) : mem.write a bs (a + i) = bs[i] := by
  simp [write, List.getElem?_eq_getElem h]

/-- **A write off the range leaves the range.** -/
theorem read_write_of_disjoint (h : a + bs.length ≤ b ∨ b + n ≤ a) :
    (mem.write a bs).read b n = mem.read b n :=
  read_congr fun i hi => by
    rcases h with h | h
    · exact write_of_ge (by omega)
    · exact write_of_lt (by omega)

/-- **The written range reads back.** -/
theorem read_write_self : (mem.write a bs).read a bs.length = bs := by
  refine List.ext_getElem (by simp) fun i h₁ h₂ => ?_
  simp only [read, List.getElem_map, List.getElem_range]
  exact write_apply h₂

/-- A range filled with one byte. -/
theorem write_replicate {v : Byte} {x : ℕ} :
    mem.write a (List.replicate n v) x = if a ≤ x ∧ x < a + n then v else mem x := by
  by_cases hlow : x < a
  · rw [write_of_lt hlow, if_neg (by omega)]
  by_cases hhigh : x < a + n
  · obtain ⟨i, rfl⟩ := Nat.exists_eq_add_of_le (Nat.le_of_not_lt hlow)
    rw [write_apply (by simp; omega), if_pos (by omega), List.getElem_replicate]
  · rw [write_of_ge (by simp; omega), if_neg (by omega)]

/-- **A store from the start of a range**, which may go past its end. -/
theorem read_write_front :
    (mem.write a bs).read a n = (bs ++ (mem.read a n).drop bs.length).take n := by
  refine List.ext_getElem (by simp; omega) fun i h₁ h₂ => ?_
  simp only [length_read] at h₁
  simp only [read, List.getElem_map, List.getElem_range, List.getElem_take]
  by_cases hi : i < bs.length
  · rw [write_apply hi, List.getElem_append_left hi]
  · rw [write_of_ge (by omega), List.getElem_append_right (by omega)]
    simp only [List.getElem_drop, List.getElem_map, List.getElem_range]
    congr 1
    omega

/-- **A store inside a range** replaces those bytes of what it reads. -/
theorem read_write_inside {k : ℕ} (h : k + bs.length ≤ n) :
    (mem.write (a + k) bs).read a n =
      (mem.read a n).take k ++ bs ++ (mem.read a n).drop (k + bs.length) := by
  refine List.ext_getElem (by simp; omega) fun i h₁ h₂ => ?_
  simp only [length_read] at h₁
  simp only [read, List.getElem_map, List.getElem_range]
  rcases Nat.lt_or_ge i k with hi | hi
  · rw [write_of_lt (by omega), List.getElem_append_left (by simp; omega),
      List.getElem_append_left (by simp; omega)]
    simp
  · rcases Nat.lt_or_ge i (k + bs.length) with hi' | hi'
    · obtain ⟨j, rfl⟩ := Nat.exists_eq_add_of_le hi
      rw [← Nat.add_assoc, write_apply (by omega), List.getElem_append_left (by simp; omega),
        List.getElem_append_right (by simp)]
      congr 1
      simp; omega
    · rw [write_of_ge (by omega), List.getElem_append_right (by simp; omega)]
      simp only [List.length_append, List.length_take, List.length_map, List.length_range,
        List.getElem_drop, List.getElem_map, List.getElem_range]
      congr 1
      omega

end Memory
