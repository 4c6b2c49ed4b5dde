import Mathlib.Data.List.Basic
import Mathlib.Data.List.GetD
/-!
# Arrays of slots

A list of options read as an array of slots, each holding something or
free: how many are free after a write, a growth or a cut, and a search for
a free one that goes round once. What lies outside the array reads as
free.
-/

namespace Slots

variable {α : Type*} (xs ys : List (Option α)) {i j n : ℕ} {o : Option α}

/-- What a slot holds. -/
def slot (i : ℕ) : Option α := xs.getD i none

/-- The number of free slots. -/
def free : ℕ := xs.countP Option.isNone

/-- The number of slots in use. -/
def used : ℕ := xs.countP Option.isSome

/-- **The first free slot** from a start on, round the array once. -/
def searchFrom (start : ℕ) : Option ℕ :=
  ((List.range xs.length).find? fun i => (slot xs ((start + i) % xs.length)).isNone).map fun i =>
    (start + i) % xs.length

variable {xs ys}

/-! ## Reading -/

theorem slot_of_lt (h : i < xs.length) : slot xs i = xs[i] := List.getD_eq_getElem xs none h

theorem slot_of_le (h : xs.length ≤ i) : slot xs i = none := List.getD_eq_default xs none h

/-- A slot in use lies in the array. -/
theorem lt_of_isSome (h : (slot xs i).isSome) : i < xs.length := by
  by_contra hle
  rw [slot_of_le (Nat.le_of_not_lt hle)] at h
  exact absurd h nofun

theorem slot_set : slot (xs.set i o) j = if i = j ∧ i < xs.length then o else slot xs j := by
  simp only [slot, List.getD_eq_getElem?_getD, List.getElem?_set]
  by_cases hij : i = j
  · subst hij
    by_cases hi : i < xs.length
    · simp [hi]
    · simp [hi]
  · simp [hij]

/-- More free slots behind the array read as before. -/
theorem slot_append_replicate : slot (xs ++ List.replicate n none) i = slot xs i := by
  rcases Nat.lt_or_ge i xs.length with hi | hi
  · rw [slot, List.getD_append _ _ _ _ hi]
    rfl
  · rw [slot, List.getD_append_right _ _ _ _ hi, slot_of_le hi]
    rcases Nat.lt_or_ge (i - xs.length) n with hn | hn
    · rw [List.getD_replicate _ hn]
    · exact slot_of_le (by simpa using hn)

variable (n) in
/-- **An array that grows**, or is there from now on. -/
theorem elim_grow (o : Option (List (Option α))) {m : ℕ} (h : (o.getD []).length = m) :
    o.elim (List.replicate n none) (fun xs => xs.take m ++ List.replicate (n - m) none) =
      o.getD [] ++ List.replicate (n - m) none := by
  rcases o with _ | xs
  · rw [← h]
    rfl
  · exact congrArg (· ++ _) (List.take_of_length_le (Nat.le_of_eq h))

theorem slot_take : slot (xs.take n) i = if i < n then slot xs i else none := by
  simp only [slot, List.getD_eq_getElem?_getD, List.getElem?_take]
  split <;> rfl

theorem length_foldl_set_none :
    ((List.range n).foldl (fun xs i => xs.set i none) xs).length = xs.length := by
  induction n with
  | zero => rfl
  | succ n ih => rw [List.range_succ, List.foldl_append, List.foldl_cons, List.foldl_nil,
      List.length_set, ih]

/-- A loop that frees the first slots. -/
theorem slot_foldl_set_none :
    slot ((List.range n).foldl (fun xs i => xs.set i none) xs) j =
      if j < n then none else slot xs j := by
  induction n with
  | zero => simp
  | succ n ih =>
    rw [List.range_succ, List.foldl_append, List.foldl_cons, List.foldl_nil, slot_set, ih]
    by_cases hj : n = j
    · subst hj
      rw [if_neg (Nat.lt_irrefl n), if_pos (Nat.lt_succ_self n)]
      split
      · rfl
      · rename_i hout
        rcases Nat.lt_or_ge n xs.length with hlt | hge
        · rw [not_and, length_foldl_set_none] at hout
          exact absurd hlt (hout rfl)
        · exact slot_of_le hge
    · rw [if_neg (fun hboth => hj hboth.1)]
      by_cases hlt : j < n
      · rw [if_pos hlt, if_pos (by omega)]
      · rw [if_neg hlt, if_neg (by omega)]

/-! ## Counting -/

variable (xs) in
theorem used_add_free : used xs + free xs = xs.length := by
  induction xs with
  | nil => rfl
  | cons o xs ih =>
    rcases o with _ | a <;> simp only [used, free, List.countP_cons, List.length_cons] at ih ⊢ <;>
      simp <;> omega

/-- **A write**, counted. -/
theorem free_set (h : i < xs.length) :
    free (xs.set i o) + (slot xs i).isNone.toNat = free xs + o.isNone.toNat := by
  rw [free, List.countP_set h, slot_of_lt h, ← free]
  rcases hold : xs[i] with _ | a
  · have hpos : 0 < free xs :=
      List.countP_pos_iff.2 ⟨xs[i], List.getElem_mem h, by rw [hold]; rfl⟩
    rcases o with _ | b <;> simp <;> omega
  · rcases o with _ | b <;> simp

/-- A write counts where it fills a slot or frees one. -/
theorem free_set_eq_iff (h : i < xs.length) :
    free xs = free (xs.set i o) ↔ ((slot xs i).isSome ↔ o.isSome) := by
  have hset := free_set (o := o) h
  generalize slot xs i = old at hset ⊢
  rcases old with _ | a <;> rcases o with _ | b <;> simp at hset ⊢ <;> omega

theorem free_set_none_iff (h : i < xs.length) :
    free xs + 1 = free (xs.set i none) ↔ (slot xs i).isSome := by
  have hset := free_set (o := none) h
  generalize slot xs i = old at hset ⊢
  rcases old with _ | a <;> simp at hset ⊢ <;> omega

theorem free_append : free (xs ++ ys) = free xs + free ys := List.countP_append

theorem free_replicate : free (List.replicate n (none : Option α)) = n := by
  simp [free, List.countP_replicate]

theorem free_le_length : free xs ≤ xs.length := List.countP_le_length

/-- None is free where each is in use. -/
theorem free_eq_zero_iff : free xs = 0 ↔ ∀ i < xs.length, (slot xs i).isSome := by
  rw [free, List.countP_eq_zero, List.forall_mem_iff_forall_getElem]
  refine forall_congr' fun i => forall_congr' fun hi => ?_
  rw [slot_of_lt hi]
  rcases xs[i] with _ | a <;> simp

theorem free_pos_iff : 0 < free xs ↔ ∃ i < xs.length, slot xs i = none := by
  rw [Nat.pos_iff_ne_zero, ne_eq, free_eq_zero_iff]
  push Not
  refine exists_congr fun i => and_congr_right fun _ => ?_
  rw [ne_eq, Option.not_isSome_iff_eq_none]

/-- All are free where none is in use. -/
theorem free_eq_length (h : ∀ i, slot xs i = none) : free xs = xs.length := by
  refine List.countP_eq_length.2 fun o ho => ?_
  obtain ⟨i, hi, rfl⟩ := List.getElem_of_mem ho
  rw [← slot_of_lt hi, h i]
  rfl

variable (xs) in
theorem map_range_slot : (List.range xs.length).map (slot xs) = xs := by
  refine List.ext_getElem (by simp) fun i h₁ h₂ => ?_
  rw [List.getElem_map, List.getElem_range, slot_of_lt h₂]

/-- The count of an index loop is the count of the slots. -/
theorem countP_range_isNone :
    ((List.range xs.length).countP fun i => (slot xs i).isNone) = free xs := by
  conv_rhs => rw [free, ← map_range_slot xs, List.countP_map]
  rfl

theorem countP_range_isSome :
    ((List.range xs.length).countP fun i => (slot xs i).isSome) = used xs := by
  conv_rhs => rw [used, ← map_range_slot xs, List.countP_map]
  rfl

/-! ## Writing one behind the other -/

/-- Slots written one behind the other, from a place on. -/
def writeFrom (xs : List (Option α)) (start : ℕ) : List (Option α) → List (Option α)
  | [] => xs
  | o :: os => writeFrom (xs.set start o) (start + 1) os

/-- **An array as long as what is written** to it. -/
theorem writeFrom_replicate (ys os : List (Option α)) :
    writeFrom (ys ++ List.replicate os.length none) ys.length os = ys ++ os := by
  induction os generalizing ys with
  | nil => rw [List.length_nil, List.replicate_zero, writeFrom]
  | cons o os ih =>
    have hset : (ys ++ List.replicate (os.length + 1) none).set ys.length o =
        (ys ++ [o]) ++ List.replicate os.length none := by
      rw [List.set_append_right _ _ (Nat.le_refl _), Nat.sub_self, List.replicate_succ,
        List.set_cons_zero, List.append_assoc, List.singleton_append]
    have hnext := ih (ys ++ [o])
    rw [List.length_append, List.length_singleton] at hnext
    rw [List.length_cons, writeFrom, hset, hnext, List.append_assoc, List.singleton_append]

theorem slot_map {β : Type*} {f : β → Option α} {zs : List β} :
    slot (zs.map f) i = zs[i]?.bind f := by
  rw [slot, List.getD_eq_getElem?_getD, List.getElem?_map]
  rcases zs[i]? with _ | z <;> rfl

/-! ## Searching -/

/-- What the search finds is free. -/
theorem searchFrom_eq_some {start : ℕ} (h : searchFrom xs start = some i) :
    i < xs.length ∧ slot xs i = none := by
  obtain ⟨k, hk, rfl⟩ := Option.map_eq_some_iff.1 h
  have hfree := List.find?_some hk
  have hlt := List.mem_range.1 (List.mem_of_find?_eq_some hk)
  exact ⟨Nat.mod_lt _ (Nat.lt_of_le_of_lt (Nat.zero_le k) hlt), Option.isNone_iff_eq_none.1 hfree⟩

/-- **The search finds a slot where one is free**, wherever it starts. -/
theorem searchFrom_isSome_iff {start : ℕ} :
    (searchFrom xs start).isSome ↔ 0 < free xs := by
  rw [searchFrom, Option.isSome_map, List.find?_isSome, free_pos_iff]
  constructor
  · rintro ⟨k, hk, hfree⟩
    have hlt := List.mem_range.1 hk
    exact ⟨_, Nat.mod_lt _ (Nat.lt_of_le_of_lt (Nat.zero_le k) hlt),
      Option.isNone_iff_eq_none.1 hfree⟩
  · rintro ⟨i, hi, hfree⟩
    -- as far from the start as the free slot lies behind it
    refine ⟨(i + (xs.length - start % xs.length)) % xs.length,
      List.mem_range.2 (Nat.mod_lt _ (Nat.lt_of_le_of_lt (Nat.zero_le i) hi)), ?_⟩
    have hreach : (start + (i + (xs.length - start % xs.length)) % xs.length) % xs.length = i := by
      have hstart : start % xs.length ≤ xs.length :=
        Nat.le_of_lt (Nat.mod_lt _ (Nat.lt_of_le_of_lt (Nat.zero_le i) hi))
      rw [Nat.add_mod_mod, Nat.add_mod, Nat.add_mod_mod]
      have hsum : start % xs.length + (i + (xs.length - start % xs.length)) = i + xs.length := by
        omega
      rw [hsum, Nat.add_mod_right, Nat.mod_eq_of_lt hi]
    rw [hreach, hfree]
    rfl

end Slots
