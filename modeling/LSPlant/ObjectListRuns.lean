import LSPlant.ObjectList
import LSPlant.Library.Machine
import LSPlant.Library.Slots
/-!
# Object lists over time

`available_` is a count that `JBasicObjectList` keeps next to the array it
counts in. Some of its operations write slots without a look at what was
there, and `finalize` counts none where it leaves holes: the count is right
along a run exactly where no step does either.
-/

namespace LSPlant

namespace JObjectList

variable {α : Type*} (list : JObjectList α)

/-! ## The other operations -/

/-- The array, without slots where there is none. -/
def slots : List (Option α) := list.array.getD []

def size : ℤ := list.length - list.available

/-- **`get`**, at any `jsize`. -/
def get (index : ℤ) : Option α :=
  if index < 0 ∨ list.length ≤ index then none else list.element index.toNat

/-- `update` at any `jsize`. -/
def updateAt (index : ℤ) (obj : Option α) : JObjectList α :=
  if index < 0 then list else list.update index.toNat obj

/-- **`remove`**: the slot is counted as freed, whatever it held. -/
def remove (index : ℤ) : JObjectList α :=
  if index < 0 ∨ list.length ≤ index then list
  else
    { list.setElement index.toNat none with
      available := list.available + 1
      cursor := index.toNat }

/-- **`clear`** -/
def clear : JObjectList α :=
  match list.array with
  | none => list
  | some array =>
    { list with
      array := some ((List.range list.length).foldl (fun array i => array.set i none) array)
      cursor := 0
      available := list.length }

/-- `recycle` -/
def recycle (_ : JObjectList α) : JObjectList α := empty

/-- The null slots among the first `length_`. -/
def nullCount : ℕ := (List.range list.length).countP fun i => (list.element i).isNone

/-- The objects in the list. -/
def objectCount : ℕ := (List.range list.length).countP fun i => (list.element i).isSome

/-- **A list whose fields are those of its array.** -/
structure IsSized : Prop where
  length_slots : list.slots.length = list.length
  cursor_lt : list.cursor < max list.length 1

/-- **The count is right**, and what relies on it works. -/
structure IsAccounted : Prop where
  available_eq : list.available = list.nullCount
  cursor_lt : 0 < list.length → list.cursor < list.length
  size_eq : list.size = list.objectCount
  add_isSome : ∀ obj, (list.add (some obj)).isSome

variable {list} {i : ℕ} {obj : Option α}

/-! ## What each operation does -/

theorem element_eq_slot : list.element i = Slots.slot list.slots i := rfl

theorem slots_setElement : (list.setElement i obj).slots = list.slots.set i obj := by
  rcases list with ⟨_ | array, _, _, _⟩ <;> rfl

theorem IsSized.findSlot (h : list.IsSized) :
    list.findSlot = Slots.searchFrom list.slots list.cursor := by
  rw [JObjectList.findSlot, Slots.searchFrom, h.length_slots]
  rfl

theorem isSized_empty : (empty : JObjectList α).IsSized :=
  ⟨rfl, Nat.zero_lt_one⟩

/-- A list that has not counted more free slots than there are. -/
def CountsAtMost (list : JObjectList α) : Prop := list.available ≤ Slots.free list.slots

section Grow

variable {n : ℕ}

theorem IsSized.slots_growTo (h : list.IsSized) :
    (list.growTo n).slots = list.slots ++ List.replicate (n - list.length) none := by
  refine Eq.trans ?_ (Slots.elim_grow n list.array h.length_slots)
  unfold growTo
  rcases list.array with _ | array <;> rfl

theorem length_growTo : (list.growTo n).length = n := by
  unfold growTo
  split <;> rfl

variable (list n) in
theorem cursor_growTo_le : (list.growTo n).cursor ≤ list.cursor := by
  unfold growTo
  split
  · exact Nat.zero_le _
  · exact Nat.le_refl _

theorem available_growTo (h : list.IsSized) (hcount : list.CountsAtMost) :
    (list.growTo n).available = list.available + (n - list.length) := by
  have hfree : Slots.free list.slots ≤ list.slots.length := Slots.free_le_length
  have hlength := h.length_slots
  unfold CountsAtMost at hcount
  unfold growTo
  split
  · rename_i hnone
    have hempty : list.slots = [] := by rw [slots, hnone, Option.getD_none]
    rw [hempty] at hcount hlength hfree
    rw [List.length_nil] at hlength hfree
    show n = _
    omega
  · rfl

theorem IsSized.growTo (h : list.IsSized) (hle : list.length ≤ n) : (list.growTo n).IsSized where
  length_slots := by
    rw [h.slots_growTo, List.length_append, List.length_replicate, h.length_slots,
      length_growTo]
    omega
  cursor_lt := by
    have hcursor := list.cursor_growTo_le n
    have hlt := h.cursor_lt
    rw [length_growTo]
    omega

/-- Growing adds free slots, and counts them. -/
theorem free_growTo (h : list.IsSized) (hcount : list.CountsAtMost) :
    (list.growTo n).available + Slots.free list.slots =
      list.available + Slots.free (list.growTo n).slots := by
  rw [h.slots_growTo, available_growTo h hcount, Slots.free_append, Slots.free_replicate]
  omega

theorem element_growTo (h : list.IsSized) :
    (list.growTo n).element i = list.element i := by
  rw [element_eq_slot, h.slots_growTo, Slots.slot_append_replicate]
  rfl

end Grow

/-- **What `add` of an object does**: the object takes a free slot, which is
counted, and the other slots are as they were. -/
structure Added (list : JObjectList α) (obj : α) (idx : ℕ) (list' : JObjectList α) : Prop where
  add_eq : list.add (some obj) = some (list', (idx : ℤ))
  element_idx : list.element idx = none
  isSized : list'.IsSized
  element : ∀ j, list'.element j = if j = idx then some obj else list.element j
  free : list'.available + Slots.free list.slots = list.available + Slots.free list'.slots

/-- The list `add` searches. -/
def roomFor (list : JObjectList α) : JObjectList α :=
  if list.available = 0 then
    list.growTo (list.length + if list.length = 0 then 16 else min list.length 128)
  else list

/-- **It has room.** -/
theorem roomFor_spec (h : list.IsSized) (hcount : list.CountsAtMost) :
    list.roomFor.IsSized ∧ list.roomFor.CountsAtMost ∧ 0 < list.roomFor.available ∧
      (∀ j, list.roomFor.element j = list.element j) ∧
        list.roomFor.available + Slots.free list.slots =
          list.available + Slots.free list.roomFor.slots := by
  unfold roomFor
  split
  · rename_i hzero
    generalize hgrowth : (if list.length = 0 then 16 else min list.length 128) = growth
    have hpos : 0 < growth := by
      rw [← hgrowth]
      split <;> omega
    have hfree := free_growTo (n := list.length + growth) h hcount
    have havailable := available_growTo (n := list.length + growth) h hcount
    refine ⟨h.growTo (Nat.le_add_right _ _), ?_, by omega, fun j => element_growTo h, hfree⟩
    unfold CountsAtMost at hcount ⊢
    omega
  · exact ⟨h, hcount, by omega, fun j => rfl, rfl⟩

/-- An object put into a slot. -/
def placed (list : JObjectList α) (idx : ℕ) (obj : α) : JObjectList α :=
  { list.setElement idx (some obj) with
    available := list.available - 1
    cursor := (idx + 1) % list.length }

theorem exists_added (h : list.IsSized) (hcount : list.CountsAtMost) (obj : α) :
    ∃ idx list', Added list obj idx list' := by
  obtain ⟨hsized, hroom, hpos, helement, hfree⟩ := roomFor_spec h hcount
  have hfound : list.roomFor.findSlot.isSome := by
    rw [hsized.findSlot, Slots.searchFrom_isSome_iff]
    exact Nat.lt_of_lt_of_le hpos hroom
  obtain ⟨idx, hidx⟩ := Option.isSome_iff_exists.1 hfound
  have hslot := hidx
  rw [hsized.findSlot] at hslot
  obtain ⟨hlt, hnone⟩ := Slots.searchFrom_eq_some hslot
  have hset := Slots.free_set (o := some obj) hlt
  rw [hnone] at hset
  refine ⟨idx, list.roomFor.placed idx obj, ?_, ?_, ⟨?_, ?_⟩, fun j => ?_, ?_⟩
  · unfold JObjectList.add
    rw [← roomFor]
    simp only [hidx]
    rfl
  · rw [← helement, element_eq_slot, hnone]
  · show (list.roomFor.setElement idx (some obj)).slots.length = list.roomFor.length
    rw [slots_setElement, List.length_set, hsized.length_slots]
  · rw [hsized.length_slots] at hlt
    have hmod := Nat.mod_lt (idx + 1) (Nat.lt_of_le_of_lt (Nat.zero_le idx) hlt)
    exact Nat.lt_of_lt_of_le hmod (Nat.le_max_left _ _)
  · show (list.roomFor.setElement idx (some obj)).element j = _
    rw [element_eq_slot, slots_setElement, Slots.slot_set, ← helement, element_eq_slot]
    by_cases hj : j = idx
    · rw [if_pos ⟨hj.symm, hlt⟩, if_pos hj]
    · rw [if_neg (fun hboth => hj hboth.1.symm), if_neg hj]
  · show list.roomFor.available - 1 + Slots.free list.slots =
      list.available + Slots.free (list.roomFor.setElement idx (some obj)).slots
    rw [slots_setElement]
    simp only [Option.isNone_none, Option.isNone_some, Bool.toNat_true, Bool.toNat_false] at hset
    omega

/-- The index `update` and `remove` look at. -/
def InRange (list : JObjectList α) (index : ℤ) : Prop := 0 ≤ index ∧ index < list.length

theorem updateAt_of_not_inRange {index : ℤ} (h : ¬ list.InRange index) :
    list.updateAt index obj = list := by
  unfold InRange at h
  unfold updateAt update
  split
  · rfl
  · exact if_pos (by omega)

theorem updateAt_of_inRange {index : ℤ} (h : list.InRange index) :
    list.updateAt index obj = list.setElement index.toNat obj := by
  unfold InRange at h
  unfold updateAt update
  rw [if_neg (by omega), if_neg (by omega)]

theorem remove_of_not_inRange {index : ℤ} (h : ¬ list.InRange index) :
    list.remove index = list := by
  unfold InRange at h
  exact if_pos (by omega)

theorem remove_of_inRange {index : ℤ} (h : list.InRange index) :
    list.remove index = { list.setElement index.toNat none with
      available := list.available + 1
      cursor := index.toNat } := by
  unfold InRange at h
  exact if_neg (by omega)

theorem IsSized.setElement (h : list.IsSized) : (list.setElement i obj).IsSized where
  length_slots := by
    rw [slots_setElement, List.length_set]
    exact h.length_slots
  cursor_lt := h.cursor_lt

theorem IsSized.updateAt (h : list.IsSized) (index : ℤ) : (list.updateAt index obj).IsSized := by
  by_cases hrange : list.InRange index
  · rw [updateAt_of_inRange hrange]
    exact h.setElement
  · rw [updateAt_of_not_inRange hrange]
    exact h

theorem IsSized.remove (h : list.IsSized) (index : ℤ) : (list.remove index).IsSized := by
  by_cases hrange : list.InRange index
  · rw [remove_of_inRange hrange]
    refine ⟨h.setElement.length_slots, ?_⟩
    show index.toNat < max list.length 1
    unfold InRange at hrange
    omega
  · rw [remove_of_not_inRange hrange]
    exact h

theorem IsSized.clear (h : list.IsSized) : list.clear.IsSized := by
  unfold JObjectList.clear
  split
  · exact h
  · rename_i array harray
    refine ⟨?_, Nat.lt_of_lt_of_le Nat.zero_lt_one (Nat.le_max_right _ _)⟩
    have hlength := h.length_slots
    rw [slots, harray, Option.getD_some] at hlength
    show (List.foldl _ array _).length = list.length
    rw [Slots.length_foldl_set_none, hlength]

/-- After `clear` all slots are free, and counted so. -/
theorem available_clear (h : list.IsSized) (hcount : list.CountsAtMost) :
    list.clear.available = Slots.free list.clear.slots := by
  have hlength := h.length_slots
  have hsized := h.clear.length_slots
  unfold JObjectList.clear at hsized ⊢
  split
  · rename_i hnone
    unfold CountsAtMost at hcount
    rw [slots, hnone, Option.getD_none] at hcount ⊢
    exact Nat.le_zero.1 hcount
  · rename_i array harray
    rw [harray] at hsized
    rw [slots, harray, Option.getD_some] at hlength
    refine hsized.symm.trans (Slots.free_eq_length fun i => ?_).symm
    show Slots.slot (List.foldl _ array _) i = none
    rw [Slots.slot_foldl_set_none]
    split
    · rfl
    · exact Slots.slot_of_le (by omega)

/-! ### The end of the objects -/

theorem usedLength_le (n : ℕ) : list.usedLength n ≤ n := by
  induction n with
  | zero => exact Nat.le_refl 0
  | succ n ih =>
    rw [usedLength]
    split
    · exact Nat.le_refl _
    · exact Nat.le_succ_of_le ih

/-- Nothing lies behind it. -/
theorem element_of_usedLength_le {n : ℕ} (h : list.usedLength n ≤ i) (hi : i < n) :
    list.element i = none := by
  induction n with
  | zero => omega
  | succ n ih =>
    rw [usedLength] at h
    split at h
    · omega
    · rename_i hfree
      rcases Nat.lt_succ_iff_lt_or_eq.1 hi with hlt | rfl
      · exact ih h hlt
      · exact Option.not_isSome_iff_eq_none.1 hfree

/-- And the last object lies before it. -/
theorem element_of_usedLength_eq {n k : ℕ} (h : list.usedLength n = k + 1) :
    (list.element k).isSome := by
  induction n with
  | zero => exact absurd h nofun
  | succ n ih =>
    rw [usedLength] at h
    split at h
    · rename_i hused
      rwa [Nat.succ.inj h] at hused
    · exact ih h

/-- A list cut behind its last object. -/
def trimmed (list : JObjectList α) : JObjectList α where
  array := list.array.map (·.take (list.usedLength list.length))
  cursor := list.usedLength list.length - 1
  available := 0
  length := list.usedLength list.length

/-- **`finalize` cuts, or does nothing.** -/
theorem finalize_eq (h : list.IsSized) :
    list.finalize =
      if list.available = 0 ∨ list.usedLength list.length = list.length then list
      else list.trimmed := by
  have hlength := h.length_slots
  have hzero : list.length = 0 → list.usedLength list.length = list.length := by
    intro hzero
    rw [hzero]
    rfl
  unfold JObjectList.finalize
  split
  · rename_i hnone
    rw [slots, hnone, Option.getD_none, List.length_nil] at hlength
    rw [if_pos (Or.inr (hzero hlength.symm))]
  · rename_i array harray
    split
    · rename_i hnothing
      have hsame : list.available = 0 ∨ list.usedLength list.length = list.length := by
        rcases hnothing with hlen | havailable
        · exact Or.inr (hzero hlen)
        · exact Or.inl havailable
      rw [if_pos hsame]
    · rename_i hsome
      dsimp only
      split
      · rename_i hfull
        rw [if_pos (Or.inr hfull)]
      · rename_i hcut
        have hnot : ¬ (list.available = 0 ∨ list.usedLength list.length = list.length) := by
          rintro (havailable | hfull)
          · exact hsome (Or.inr havailable)
          · exact hcut hfull
        rw [if_neg hnot, trimmed, harray]
        congr 1
        split
        · rename_i hnew
          rw [hnew]
        · rfl

theorem slots_trimmed : list.trimmed.slots = list.slots.take (list.usedLength list.length) := by
  rcases list with ⟨_ | array, _, _, _⟩
  · exact List.take_nil.symm
  · rfl

theorem IsSized.trimmed (h : list.IsSized) : list.trimmed.IsSized where
  length_slots := by
    rw [slots_trimmed, List.length_take, h.length_slots, Nat.min_eq_left (usedLength_le _)]
    rfl
  cursor_lt := by
    show list.usedLength list.length - 1 < max (list.usedLength list.length) 1
    omega

/-- What is cut off was free. -/
theorem IsSized.element_trimmed (h : list.IsSized) : list.trimmed.element i = list.element i := by
  have hlength := h.length_slots
  rw [element_eq_slot, slots_trimmed, Slots.slot_take]
  split
  · rfl
  · rename_i hcut
    rcases Nat.lt_or_ge i list.length with hlt | hge
    · exact (element_of_usedLength_le (Nat.le_of_not_lt hcut) hlt).symm
    · rw [element_eq_slot, Slots.slot_of_le (by omega)]

theorem IsSized.finalize (h : list.IsSized) : list.finalize.IsSized := by
  rw [finalize_eq h]
  split
  · exact h
  · exact h.trimmed

theorem element_finalize (h : list.IsSized) : list.finalize.element i = list.element i := by
  rw [finalize_eq h]
  split
  · rfl
  · exact h.element_trimmed

/-- **No hole is left by a cut**: the last slot is in use, or every slot
before one in use is. -/
def HasNoHoles (list : JObjectList α) : Prop :=
  (list.element (list.length - 1)).isSome ∨
    ∀ i j, i < j → (list.element j).isSome → (list.element i).isSome

theorem available_finalize_iff (h : list.IsSized)
    (hcount : list.available = Slots.free list.slots) :
    list.finalize.available = Slots.free list.finalize.slots ↔ list.HasNoHoles := by
  have hlength := h.length_slots
  rw [finalize_eq h]
  split
  · rename_i hsame
    refine iff_of_true hcount ?_
    rcases hsame with hzero | hfull
    · -- nothing is free
      right
      intro i j hij hj
      have hused := Slots.free_eq_zero_iff.1 (hcount.symm.trans hzero)
      exact hused i (Nat.lt_trans hij (Slots.lt_of_isSome hj))
    · rcases hn : list.length with _ | n
      · right
        intro i j hij hj
        have hj' : j < list.slots.length := Slots.lt_of_isSome hj
        omega
      · left
        rw [hn] at hfull ⊢
        exact element_of_usedLength_eq hfull
  · rename_i hcut
    rw [not_or] at hcut
    have hle := list.usedLength_le list.length
    have hlast : ¬ (list.element (list.length - 1)).isSome := by
      rw [Option.not_isSome_iff_eq_none]
      exact element_of_usedLength_le (n := list.length) (by omega) (by omega)
    have hfree : list.trimmed.available = 0 := rfl
    have hlen : list.trimmed.slots.length = list.usedLength list.length := h.trimmed.length_slots
    rw [HasNoHoles, or_iff_right hlast, hfree, eq_comm, Slots.free_eq_zero_iff, hlen]
    constructor
    · intro hused i j hij hj
      have hjlt : j < list.usedLength list.length := by
        by_contra hge
        have hlt : j < list.slots.length := Slots.lt_of_isSome hj
        rw [element_of_usedLength_le (n := list.length) (by omega) (by omega)] at hj
        exact absurd hj nofun
      have hi := hused i (Nat.lt_trans hij hjlt)
      rw [← element_eq_slot, h.element_trimmed] at hi
      exact hi
    · intro hholes i hi
      rw [← element_eq_slot, h.element_trimmed]
      obtain ⟨k, hk⟩ := Nat.exists_eq_succ_of_ne_zero (Nat.ne_of_gt (Nat.lt_of_le_of_lt
        (Nat.zero_le i) hi))
      have hkused := element_of_usedLength_eq hk
      rcases Nat.lt_succ_iff_lt_or_eq.1 (hk ▸ hi) with hlt | rfl
      · exact hholes i k hlt hkused
      · exact hkused

/-! ### Updates, counted -/

theorem available_updateAt_iff (h : list.IsSized) (hcount : list.available = Slots.free list.slots)
    (index : ℤ) :
    (list.updateAt index obj).available = Slots.free (list.updateAt index obj).slots ↔
      (list.InRange index → ((list.element index.toNat).isSome ↔ obj.isSome)) := by
  by_cases hrange : list.InRange index
  · have hlt : index.toNat < list.slots.length := by
      have hlength := h.length_slots
      unfold InRange at hrange
      omega
    rw [updateAt_of_inRange hrange, forall_prop_of_true hrange]
    show list.available = Slots.free (list.setElement index.toNat obj).slots ↔ _
    rw [slots_setElement, element_eq_slot, hcount]
    exact Slots.free_set_eq_iff hlt
  · rw [updateAt_of_not_inRange hrange]
    exact iff_of_true hcount fun hin => absurd hin hrange

theorem available_remove_iff (h : list.IsSized) (hcount : list.available = Slots.free list.slots)
    (index : ℤ) :
    (list.remove index).available = Slots.free (list.remove index).slots ↔
      (list.InRange index → (list.element index.toNat).isSome) := by
  by_cases hrange : list.InRange index
  · have hlt : index.toNat < list.slots.length := by
      have hlength := h.length_slots
      unfold InRange at hrange
      omega
    rw [remove_of_inRange hrange, forall_prop_of_true hrange]
    show list.available + 1 = Slots.free (list.setElement index.toNat none).slots ↔ _
    rw [slots_setElement, element_eq_slot, hcount]
    exact Slots.free_set_none_iff hlt
  · rw [remove_of_not_inRange hrange]
    exact iff_of_true hcount fun hin => absurd hin hrange

/-- **The count is right where it is the number of free slots**: what relies
on it follows. -/
theorem IsSized.isAccounted_iff (h : list.IsSized) :
    list.IsAccounted ↔ list.available = Slots.free list.slots := by
  have hlength := h.length_slots
  have hnull : list.nullCount = Slots.free list.slots := by
    rw [nullCount, ← hlength]
    exact Slots.countP_range_isNone
  have hobjects : list.objectCount = Slots.used list.slots := by
    rw [objectCount, ← hlength]
    exact Slots.countP_range_isSome
  have hsum := Slots.used_add_free list.slots
  constructor
  · exact fun haccounted => haccounted.available_eq.trans hnull
  · intro havailable
    refine ⟨havailable.trans hnull.symm, fun hpos => ?_, ?_, fun obj => ?_⟩
    · have hcursor := h.cursor_lt
      omega
    · rw [size, hobjects]
      omega
    · obtain ⟨idx, list', hadded⟩ := exists_added h (Nat.le_of_eq havailable) obj
      rw [hadded.add_eq]
      rfl

end JObjectList

/-! ## Runs -/

/-- **The operations**, with any arguments a `jsize` or a `jobject` can be. -/
inductive ListOp (α : Type*) where
  | reserve (newCapacity : ℤ)
  | add (obj : Option α)
  | update (index : ℤ) (obj : Option α)
  | remove (index : ℤ)
  | finalize
  | clear
  | recycle

namespace ListOp

variable {α : Type*}

/-- The operation, no list where it does not return. A negative capacity is
less than any length. -/
def run : ListOp α → JObjectList α → Option (JObjectList α)
  | .reserve newCapacity, list => some (list.reserve newCapacity.toNat)
  | .add obj, list => (list.add obj).map Prod.fst
  | .update index obj, list => some (list.updateAt index obj)
  | .remove index, list => some (list.remove index)
  | .finalize, list => some list.finalize
  | .clear, list => some list.clear
  | .recycle, list => some list.recycle

/-- **The steps that keep the count right**: an update neither fills nor
frees a slot, a slot is removed that is in use, and no hole is left behind
by `finalize`. -/
def KeepsCount : ListOp α → JObjectList α → Prop
  | .update index obj, list =>
    list.InRange index → ((list.element index.toNat).isSome ↔ obj.isSome)
  | .remove index, list => list.InRange index → (list.element index.toNat).isSome
  | .finalize, list => list.HasNoHoles
  | .reserve _, _ | .add _, _ | .clear, _ | .recycle, _ => True

/-- **A step from a right count** returns, and leaves a right count if and
only if it keeps it. -/
theorem run_spec (op : ListOp α) {list : JObjectList α} (h : list.IsSized)
    (hcount : list.available = Slots.free list.slots) :
    ∃ list', op.run list = some list' ∧ list'.IsSized ∧
      (list'.available = Slots.free list'.slots ↔ op.KeepsCount list) := by
  have hle : list.CountsAtMost := Nat.le_of_eq hcount
  rcases op with newCapacity | obj | ⟨index, obj⟩ | index | _ | _ | _
  case reserve =>
    refine ⟨_, rfl, ?_⟩
    unfold JObjectList.reserve
    split
    · exact ⟨h, iff_of_true hcount trivial⟩
    · rename_i hroom
      have hfree := JObjectList.free_growTo (n := newCapacity.toNat) h hle
      exact ⟨h.growTo (Nat.le_of_not_le hroom), iff_of_true (by omega) trivial⟩
  case add =>
    rcases obj with _ | obj
    · exact ⟨list, rfl, h, iff_of_true hcount trivial⟩
    · obtain ⟨idx, list', hadded⟩ := JObjectList.exists_added h hle obj
      have hfree := hadded.free
      refine ⟨list', ?_, hadded.isSized, iff_of_true (by omega) trivial⟩
      rw [run, hadded.add_eq]
      rfl
  case update => exact ⟨_, rfl, h.updateAt index, JObjectList.available_updateAt_iff h hcount index⟩
  case remove => exact ⟨_, rfl, h.remove index, JObjectList.available_remove_iff h hcount index⟩
  case finalize => exact ⟨_, rfl, h.finalize, JObjectList.available_finalize_iff h hcount⟩
  case clear =>
    exact ⟨_, rfl, h.clear, iff_of_true (JObjectList.available_clear h hle) trivial⟩
  case recycle => exact ⟨_, rfl, JObjectList.isSized_empty, iff_of_true rfl trivial⟩

end ListOp

/-- **A list under its operations**, none once one has not returned. -/
def listMachine (α : Type*) : Machine (Option (JObjectList α)) (ListOp α) where
  step s op := s.bind op.run
  admissible _ _ := True

variable {α : Type*}

/-- The state has a list, and its count is right. -/
def IsAccountedState (s : Option (JObjectList α)) : Prop := ∃ list ∈ s, list.IsAccounted

/-- A run from a right count. -/
theorem everywhere_isAccounted_of_sized (ops : List (ListOp α)) {list : JObjectList α}
    (h : list.IsSized) (hcount : list.available = Slots.free list.slots) :
    (listMachine α).Everywhere IsAccountedState (some list) ops ↔
      (listMachine α).EachStep (fun s op => ∀ list ∈ s, op.KeepsCount list) (some list) ops := by
  have hstart : IsAccountedState (some list) := ⟨list, rfl, h.isAccounted_iff.2 hcount⟩
  induction ops generalizing list with
  | nil => exact iff_of_true hstart trivial
  | cons op ops ih =>
    obtain ⟨list', hrun, hsized, hkeeps⟩ := op.run_spec h hcount
    have hstep : (listMachine α).step (some list) op = some list' := hrun
    rw [Machine.everywhere_cons, Machine.eachStep_cons, hstep, and_iff_right hstart]
    have hguard : (∀ l ∈ some list, op.KeepsCount l) ↔ op.KeepsCount list := by
      simp
    rw [hguard]
    constructor
    · intro hrest
      obtain ⟨l, hl, haccounted⟩ := hrest.start
      obtain rfl := Option.some.inj hl
      have hcount' := hsized.isAccounted_iff.1 haccounted
      exact ⟨hkeeps.1 hcount', (ih hsized hcount' ⟨_, rfl, haccounted⟩).1 hrest⟩
    · rintro ⟨hkeep, hrest⟩
      have hcount' := hkeeps.2 hkeep
      exact (ih hsized hcount' ⟨_, rfl, hsized.isAccounted_iff.2 hcount'⟩).2 hrest

/-- **The count is right all along a run if and only if every step keeps
it.** -/
theorem everywhere_isAccounted_iff (ops : List (ListOp α)) :
    (listMachine α).Everywhere IsAccountedState (some JObjectList.empty) ops ↔
      (listMachine α).EachStep (fun s op => ∀ list ∈ s, op.KeepsCount list)
        (some JObjectList.empty) ops :=
  everywhere_isAccounted_of_sized ops JObjectList.isSized_empty rfl

/-- A slot filled by `update` leaves nothing the next `add` could find. -/
theorem update_then_add :
    (listMachine ℕ).exec (some JObjectList.empty)
        [.reserve 1, .update 0 (some 7), .add (some 8)] = none ∧
      ¬ (listMachine ℕ).Everywhere IsAccountedState (some JObjectList.empty)
        [.reserve 1, .update 0 (some 7), .add (some 8)] := by
  have hexec : (listMachine ℕ).exec (some JObjectList.empty)
      [.reserve 1, .update 0 (some 7), .add (some 8)] = none := by decide
  refine ⟨hexec, fun heverywhere => ?_⟩
  obtain ⟨list, hlist, -⟩ := heverywhere.exec
  rw [hexec] at hlist
  exact absurd hlist nofun

end LSPlant
