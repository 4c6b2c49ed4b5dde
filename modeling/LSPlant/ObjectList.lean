import Mathlib.Data.Int.Notation
import Mathlib.Data.List.GetD
/-!
# Object lists

`JBasicObjectList`: an array of references, null where nothing is stored,
with the number of its free slots and the place the next search starts
from. Added one after another to a list that only grows, objects take the
slots in order, and `finalize` leaves no slot after the last of them.
-/

namespace LSPlant

/-- **`JBasicObjectList`** over the objects of a type. -/
structure JObjectList (α : Type*) where
  array : Option (List (Option α))
  cursor : ℕ
  available : ℕ
  length : ℕ

namespace JObjectList

variable {α : Type*} (list : JObjectList α)

/-- A list just constructed. -/
def empty : JObjectList α := ⟨none, 0, 0, 0⟩

/-- `allocate_array`, with `allocate_local` in it. -/
def allocateArray (n : ℕ) : JObjectList α where
  array := some (List.replicate n none)
  cursor := 0
  available := n
  length := n

/-- `grow_to`: what the array holds is copied. -/
def growTo (newLength : ℕ) : JObjectList α :=
  match list.array with
  | none => allocateArray newLength
  | some array =>
    { list with
      array := some (array.take list.length ++ List.replicate (newLength - list.length) none)
      available := list.available + (newLength - list.length)
      length := newLength }

def reserve (newCapacity : ℕ) : JObjectList α :=
  if newCapacity ≤ list.length then list else list.growTo newCapacity

/-- `GetObjectArrayElement`, null outside the array. -/
def element (i : ℕ) : Option α := (list.array.getD []).getD i none

/-- `SetObjectArrayElement`. -/
def setElement (i : ℕ) (obj : Option α) : JObjectList α :=
  { list with array := list.array.map (·.set i obj) }

/-- The search of `add`: the first free slot from the cursor on, round the
array once. -/
def findSlot : Option ℕ :=
  ((List.range list.length).find? fun i =>
    (list.element ((list.cursor + i) % list.length)).isNone).map fun i =>
      (list.cursor + i) % list.length

/-- **`add`**, with the index it returns. There is no result where the
search comes round, which the code takes to be unreachable. -/
def add : Option α → Option (JObjectList α × ℤ)
  | none => some (list, -1)
  | some obj =>
    let list :=
      if list.available = 0 then
        list.growTo (list.length + if list.length = 0 then 16 else min list.length 128)
      else list
    match list.findSlot with
    | none => none
    | some idx =>
      some ({ list.setElement idx (some obj) with
        available := list.available - 1
        cursor := (idx + 1) % list.length }, idx)

def update (index : ℕ) (obj : Option α) : JObjectList α :=
  if list.length ≤ index then list else list.setElement index obj

/-- The loop of `finalize`, down from a length: one past the last object. -/
def usedLength : ℕ → ℕ
  | 0 => 0
  | i + 1 => if (list.element i).isSome then i + 1 else usedLength i

/-- **`finalize`**: the array is cut behind its last object. -/
def finalize : JObjectList α :=
  match list.array with
  | none => list
  | some array =>
    if list.length = 0 ∨ list.available = 0 then list
    else
      let newLength := list.usedLength list.length
      if newLength = list.length then list
      else
        { array := some (array.take newLength)
          length := newLength
          available := 0
          cursor := if newLength = 0 then 0 else newLength - 1 }

/-! ## Filled in order -/

/-- **A list filled in order**: the objects, then free slots, and a search
that starts no later than there. -/
structure Filled (objects : List α) (capacity : ℕ) : Prop where
  array : list.array =
    some (objects.map some ++ List.replicate (capacity - objects.length) none)
  cursor_le : list.cursor ≤ objects.length
  available : list.available = capacity - objects.length
  length : list.length = capacity
  le : objects.length ≤ capacity

variable {list} {objects : List α} {capacity i : ℕ}

/-- Room made at once. -/
theorem filled_reserve (h : 0 < capacity) :
    ((empty : JObjectList α).reserve capacity).Filled [] capacity := by
  have hreserve : (empty : JObjectList α).reserve capacity = allocateArray capacity :=
    if_neg (Nat.not_le.2 h)
  rw [hreserve]
  exact ⟨rfl, Nat.le_refl 0, rfl, rfl, Nat.zero_le capacity⟩

/-- The slots in use are those before the free ones. -/
theorem Filled.element_isSome (h : list.Filled objects capacity) :
    (list.element i).isSome ↔ i < objects.length := by
  rw [element, h.array, Option.getD_some]
  rcases Nat.lt_or_ge i objects.length with hi | hi
  · rw [List.getD_append _ _ _ _ (by simpa using hi)]
    simp [hi]
  · rw [List.getD_append_right _ _ _ _ (by simpa using hi)]
    simp [Nat.not_lt.2 hi]

/-- **The search finds the first free slot.** -/
theorem Filled.findSlot (h : list.Filled objects capacity) (hlt : objects.length < capacity) :
    list.findSlot = some objects.length := by
  have hcursor := h.cursor_le
  have hlength := h.length
  -- nothing wraps before the slot is reached
  have hidx : ∀ k ≤ objects.length - list.cursor,
      (list.cursor + k) % list.length = list.cursor + k := by
    intro k hk
    exact Nat.mod_eq_of_lt (by omega)
  have hfirst : (List.range list.length).find? (fun k =>
      (list.element ((list.cursor + k) % list.length)).isNone) =
        some (objects.length - list.cursor) := by
    rw [List.find?_range_eq_some]
    refine ⟨?_, by simp; omega, fun k hk => ?_⟩
    · rw [hidx _ (Nat.le_refl _), Option.isNone_iff_eq_none, ← Option.not_isSome_iff_eq_none,
        h.element_isSome]
      omega
    · have hsome : (list.element (list.cursor + k)).isSome := h.element_isSome.2 (by omega)
      rw [hidx k (by omega), Option.not_isNone]
      exact hsome
  rw [JObjectList.findSlot, hfirst, Option.map_some, hidx _ (Nat.le_refl _)]
  congr 1
  omega

/-- A list that grows keeps what it has. -/
theorem Filled.growTo (h : list.Filled objects capacity) {newLength : ℕ}
    (hle : capacity ≤ newLength) : (list.growTo newLength).Filled objects newLength := by
  have hobjects := h.le
  have hlen : (objects.map some ++ List.replicate (capacity - objects.length) none).length =
      capacity := by simp; omega
  rw [JObjectList.growTo, h.array]
  refine ⟨?_, h.cursor_le, ?_, rfl, Nat.le_trans hobjects hle⟩
  · dsimp only
    have hsum : capacity - objects.length + (newLength - capacity) =
        newLength - objects.length := by omega
    rw [h.length, List.take_of_length_le (Nat.le_of_eq hlen), List.append_assoc,
      List.replicate_append_replicate, hsum]
  · show list.available + (newLength - list.length) = newLength - objects.length
    rw [h.available, h.length]
    omega

/-- The next slot set. -/
theorem Filled.setNext (h : list.Filled objects capacity) (hlt : objects.length < capacity)
    (obj : α) :
    Filled { list.setElement objects.length (some obj) with
      available := list.available - 1
      cursor := (objects.length + 1) % list.length } (objects ++ [obj]) capacity where
  array := by
    obtain ⟨k, hk⟩ := Nat.exists_eq_add_of_lt hlt
    show list.array.map (·.set objects.length (some obj)) = _
    have hroom : capacity - objects.length = k + 1 := by omega
    have hleft : capacity - (objects ++ [obj]).length = k := by
      rw [List.length_append, List.length_singleton]
      omega
    rw [h.array, hroom, hleft, Option.map_some, List.set_append_right _ _ (by simp),
      List.length_map, Nat.sub_self, List.replicate_succ, List.set_cons_zero, List.map_append,
      List.append_assoc]
    rfl
  cursor_le := by
    rw [List.length_append]
    exact Nat.mod_le _ _
  available := by
    show list.available - 1 = _
    rw [h.available, List.length_append, List.length_singleton, Nat.sub_sub]
  length := h.length
  le := by
    rw [List.length_append]
    exact hlt

/-- Adding where there is room. -/
theorem Filled.add_of_lt (h : list.Filled objects capacity) (hlt : objects.length < capacity)
    (obj : α) : ∃ list' : JObjectList α,
      list.add (some obj) = some (list', (objects.length : ℤ)) ∧
        list'.Filled (objects ++ [obj]) capacity := by
  refine ⟨_, ?_, h.setNext hlt obj⟩
  have hroom : list.available ≠ 0 := by
    rw [h.available]
    omega
  simp only [JObjectList.add, if_neg hroom, h.findSlot hlt]

/-- **Adding fills the next slot**, also where the list has to grow. -/
theorem Filled.add (h : list.Filled objects capacity) (obj : α) :
    ∃ (list' : JObjectList α) (capacity' : ℕ),
      list.add (some obj) = some (list', (objects.length : ℤ)) ∧
        capacity ≤ capacity' ∧ list'.Filled (objects ++ [obj]) capacity' := by
  by_cases hroom : list.available = 0
  · have hlength := h.length
    have hfull : objects.length = capacity := by
      have havailable := h.available
      have hle := h.le
      omega
    have hgrowth : 0 < if list.length = 0 then 16 else min list.length 128 := by
      split <;> omega
    have hgrown := h.growTo (Nat.le_add_right capacity
      (if list.length = 0 then 16 else min list.length 128))
    refine ⟨_, _, ?_, Nat.le_add_right _ _, hgrown.setNext (by omega) obj⟩
    rw [← hlength] at hgrown ⊢
    have hslot := hgrown.findSlot (by omega)
    simp only [JObjectList.add, if_pos hroom, hslot]
  · have hlt : objects.length < capacity := by
      have havailable := h.available
      omega
    obtain ⟨list', hadd, hfilled⟩ := h.add_of_lt hlt obj
    exact ⟨list', capacity, hadd, Nat.le_refl capacity, hfilled⟩

/-- An object in the list replaced. -/
theorem Filled.update (h : list.Filled objects capacity) (hi : i < objects.length) (obj : α) :
    (list.update i (some obj)).Filled (objects.set i obj) capacity := by
  have hle := h.le
  have hin : ¬ list.length ≤ i := by
    rw [h.length]
    omega
  rw [JObjectList.update, if_neg hin]
  refine ⟨?_, ?_, ?_, h.length, ?_⟩
  · show list.array.map (·.set i (some obj)) = _
    rw [h.array, Option.map_some, List.set_append_left _ _ (by simpa using hi), List.map_set,
      List.length_set]
  · rw [List.length_set]
    exact h.cursor_le
  · rw [List.length_set]
    exact h.available
  · rw [List.length_set]
    exact hle

/-- The last object is where the objects end. -/
theorem Filled.usedLength (h : list.Filled objects capacity) {n : ℕ} (hn : objects.length ≤ n) :
    list.usedLength n = objects.length := by
  induction n with
  | zero => exact (Nat.le_zero.1 hn).symm
  | succ n ih =>
    rw [JObjectList.usedLength]
    rcases Nat.lt_or_ge n objects.length with hlast | hfree
    · rw [if_pos (h.element_isSome.2 hlast)]
      omega
    · rw [if_neg (fun hsome => absurd (h.element_isSome.1 hsome) (Nat.not_lt.2 hfree))]
      exact ih hfree

/-- **What `finalize` leaves is the objects**, no more and no fewer. -/
theorem Filled.finalize (h : list.Filled objects capacity) :
    list.finalize.array = some (objects.map some) := by
  have hle := h.le
  have hfull : capacity ≤ objects.length → list.array = some (objects.map some) := by
    intro hcapacity
    rw [h.array, Nat.sub_eq_zero_of_le hcapacity, List.replicate_zero, List.append_nil]
  have hused := h.usedLength hle
  rw [← h.length] at hused
  unfold JObjectList.finalize
  split
  · rename_i hnone
    rw [h.array] at hnone
    exact absurd hnone (by simp)
  · rename_i array harray
    rw [h.array] at harray
    obtain rfl := Option.some.inj harray
    split
    · rename_i hnothing
      have havailable := h.available
      have hlength := h.length
      exact hfull (by omega)
    · rw [hused]
      dsimp only
      split
      · rename_i hlength
        exact hfull (Nat.le_of_eq (hlength.trans h.length).symm)
      · show some (List.take objects.length _) = _
        rw [List.take_append_of_le_length (by simp), List.take_of_length_le (by simp)]

end JObjectList

end LSPlant
