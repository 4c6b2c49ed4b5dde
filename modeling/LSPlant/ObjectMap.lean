import LSPlant.Library.Machine
import LSPlant.Library.Slots
import LSPlant.Library.Table
import Mathlib.Data.Int.Notation
/-!
# Object maps

`JBasicObjectMap`: an array of keys and an array of values side by side,
with the number of free slots and the place the next search starts from.
Keys are compared by identity. `finalize` moves the entries to arrays of
the length the count gives, one behind the other.
-/

namespace LSPlant

/-- **`JBasicObjectMap`** over the objects of two types. -/
structure JObjectMap (κ ν : Type*) where
  keys : Option (List (Option κ))
  values : Option (List (Option ν))
  cursor : ℕ
  available : ℕ
  length : ℕ

namespace JObjectMap

variable {κ ν : Type*} (map : JObjectMap κ ν)

/-- A map just constructed. -/
def empty : JObjectMap κ ν := ⟨none, none, 0, 0, 0⟩

/-- `GetObjectArrayElement` on the keys, null outside the array. -/
def keyAt (i : ℕ) : Option κ := Slots.slot (map.keys.getD []) i

def valueAt (i : ℕ) : Option ν := Slots.slot (map.values.getD []) i

/-- `SetObjectArrayElement` on the keys. -/
def setKey (i : ℕ) (key : Option κ) : JObjectMap κ ν :=
  { map with keys := map.keys.map (·.set i key) }

def setValue (i : ℕ) (value : Option ν) : JObjectMap κ ν :=
  { map with values := map.values.map (·.set i value) }

def size : ℤ := map.length - map.available

/-- `allocate_arrays` -/
def allocateArrays (n : ℕ) : JObjectMap κ ν where
  keys := some (List.replicate n none)
  values := some (List.replicate n none)
  cursor := 0
  available := n
  length := n

/-- `grow_to`: what the arrays hold is copied. -/
def growTo (newLength : ℕ) : JObjectMap κ ν :=
  match map.keys with
  | none => allocateArrays newLength
  | some keys =>
    { map with
      keys := some (keys.take map.length ++ List.replicate (newLength - map.length) none)
      values := map.values.map fun values =>
        values.take map.length ++ List.replicate (newLength - map.length) none
      available := map.available + (newLength - map.length)
      length := newLength }

def reserve (newCapacity : ℕ) : JObjectMap κ ν :=
  if newCapacity ≤ map.length then map else map.growTo newCapacity

/-- The search of `add` for a free slot, from the cursor on. -/
def findSlot : Option ℕ :=
  ((List.range map.length).find? fun i =>
    (map.keyAt ((map.cursor + i) % map.length)).isNone).map fun i =>
      (map.cursor + i) % map.length

/-- **`clear`** -/
def clear : JObjectMap κ ν :=
  match map.keys with
  | none => map
  | some keys =>
    { map with
      keys := some ((List.range map.length).foldl (fun keys i => keys.set i none) keys)
      values := map.values.map fun values =>
        (List.range map.length).foldl (fun values i => values.set i none) values
      cursor := 0
      available := map.length }

/-- One pass of `finalize` over a slot: its entry goes where the next one
is to go. -/
def moveEntry (arrays : List (Option κ) × List (Option ν) × ℕ) (i : ℕ) :
    List (Option κ) × List (Option ν) × ℕ :=
  match map.keyAt i with
  | none => arrays
  | some k =>
    let (newKeys, newValues, destIdx) := arrays
    (newKeys.set destIdx (some k), newValues.set destIdx (map.valueAt i), destIdx + 1)

/-- **`finalize`** -/
def finalize : JObjectMap κ ν :=
  if map.keys.isNone ∨ map.length = 0 ∨ map.available = 0 then map
  else
    let realCount := map.length - map.available
    if realCount = 0 then map.clear
    else if realCount = map.length then map
    else
      let (newKeys, newValues, _) := (List.range map.length).foldl map.moveEntry
        (List.replicate realCount none, List.replicate realCount none, 0)
      { keys := some newKeys
        values := some newValues
        cursor := 0
        available := 0
        length := realCount }

variable [DecidableEq κ]

/-- The loops that look for a key. -/
def findKey (key : κ) : Option ℕ :=
  (List.range map.length).find? fun i => map.keyAt i = some key

/-- **`add`**, with what it returns. There is no result where the search
comes round. -/
def add (key : Option κ) (value : Option ν) : Option (JObjectMap κ ν × Bool) :=
  match key with
  | none => some (map, false)
  | some key =>
    match map.findKey key with
    | some i => some (map.setValue i value, true)
    | none =>
      let map :=
        if map.available = 0 then
          map.growTo (map.length + if map.length = 0 then 16 else min map.length 128)
        else map
      match map.findSlot with
      | none => none
      | some idx =>
        some ({ (map.setKey idx (some key)).setValue idx value with
          available := map.available - 1
          cursor := (idx + 1) % map.length }, true)

/-- **`get`** -/
def get (key : Option κ) : Option ν :=
  match key, map.keys with
  | some key, some _ => (map.findKey key).bind map.valueAt
  | _, _ => none

/-- **`remove`** -/
def remove (key : Option κ) : JObjectMap κ ν :=
  match key, map.keys with
  | some key, some _ =>
    match map.findKey key with
    | some i =>
      { (map.setKey i none).setValue i none with
        available := map.available + 1
        cursor := i }
    | none => map
  | _, _ => map

end JObjectMap

/-- **The operations** on a map. -/
inductive MapOp (κ ν : Type*) where
  | add (key : Option κ) (value : Option ν)
  | remove (key : Option κ)
  | reserve (newCapacity : ℤ)
  | finalize
  | clear

variable {κ ν : Type*} [DecidableEq κ]

/-- The operation, no map where it does not return. -/
def MapOp.run (op : MapOp κ ν) (map : JObjectMap κ ν) : Option (JObjectMap κ ν) :=
  match op with
  | .add key value => (map.add key value).map Prod.fst
  | .remove key => some (map.remove key)
  | .reserve newCapacity => some (map.reserve newCapacity.toNat)
  | .finalize => some map.finalize
  | .clear => some map.clear

/-- **A map under its operations.** -/
def mapMachine (κ ν : Type*) [DecidableEq κ] : Machine (Option (JObjectMap κ ν)) (MapOp κ ν) where
  step s op := s.bind op.run
  admissible _ _ := True

/-- **What has been added under each key** last, and neither removed nor
cleared since. -/
def addedNext (_ : Option (JObjectMap κ ν)) (added : Table κ (Option ν)) :
    MapOp κ ν → Table κ (Option ν)
  | .add (some key) value => added.insert key value
  | .remove (some key) => added.erase key
  | .clear => ∅
  | .add none _ | .remove none | .reserve _ | .finalize => added

/-- **A faithful map**: `get` and `size` answer for what has been added, no
two slots hold one key, the count is right, and `add` returns. -/
structure IsFaithfulMap (map : JObjectMap κ ν) (added : Table κ (Option ν)) : Prop where
  get_eq : ∀ k, map.get (some k) = (added.lookup k).join
  get_null : map.get none = none
  size_eq : map.size = added.keys.card
  distinct : ∀ i j k, map.keyAt i = some k → map.keyAt j = some k → i = j
  available_eq : map.available = (List.range map.length).countP fun i => (map.keyAt i).isNone
  add_isSome : ∀ k v, (map.add (some k) v).isSome

namespace JObjectMap

variable {map : JObjectMap κ ν} {added : Table κ (Option ν)} {i : ℕ} {k : κ}

/-- The array of keys, without slots where there is none. -/
def keySlots (map : JObjectMap κ ν) : List (Option κ) := map.keys.getD []

def valueSlots (map : JObjectMap κ ν) : List (Option ν) := map.values.getD []

/-- **A map that holds what has been added.** -/
structure Holds (map : JObjectMap κ ν) (added : Table κ (Option ν)) : Prop where
  isSome_values : map.values.isSome = map.keys.isSome
  length_keys : map.keySlots.length = map.length
  length_values : map.valueSlots.length = map.length
  cursor_lt : map.cursor < max map.length 1
  available_eq : map.available = Slots.free map.keySlots
  distinct : ∀ i j k, map.keyAt i = some k → map.keyAt j = some k → i = j
  lookup : ∀ k v, added.lookup k = some v ↔ ∃ i, map.keyAt i = some k ∧ map.valueAt i = v

theorem holds_empty : (empty : JObjectMap κ ν).Holds ∅ where
  isSome_values := rfl
  length_keys := rfl
  length_values := rfl
  cursor_lt := Nat.zero_lt_one
  available_eq := rfl
  distinct i j k h := absurd h nofun
  lookup k v := iff_of_false (by rw [Finmap.lookup_empty]; exact nofun)
    fun ⟨i, h, _⟩ => absurd h nofun

/-! ## Slots -/

omit [DecidableEq κ] in
theorem keySlots_setKey {o : Option κ} : (map.setKey i o).keySlots = map.keySlots.set i o := by
  rcases map with ⟨_ | keys, _, _, _, _⟩ <;> rfl

omit [DecidableEq κ] in
theorem valueSlots_setValue {o : Option ν} :
    (map.setValue i o).valueSlots = map.valueSlots.set i o := by
  rcases map with ⟨_, _ | values, _, _, _⟩ <;> rfl

/-- A key lies in the array. -/
theorem Holds.lt_of_keyAt (h : map.Holds added) (hk : map.keyAt i = some k) : i < map.length := by
  rw [← h.length_keys]
  exact Slots.lt_of_isSome (Option.isSome_iff_exists.2 ⟨k, hk⟩)

/-- **The loops find the slot of a key.** -/
theorem Holds.findKey_eq_some_iff (h : map.Holds added) :
    map.findKey k = some i ↔ map.keyAt i = some k := by
  rw [findKey, List.find?_range_eq_some]
  constructor
  · rintro ⟨hkey, -, -⟩
    exact of_decide_eq_true hkey
  · intro hkey
    refine ⟨decide_eq_true hkey, List.mem_range.2 (h.lt_of_keyAt hkey), fun j hj => ?_⟩
    rw [Bool.not_eq_true', decide_eq_false_iff_not]
    intro hj'
    exact absurd (h.distinct j i k hj' hkey) (Nat.ne_of_lt hj)

theorem Holds.findKey_eq_none_iff (h : map.Holds added) :
    map.findKey k = none ↔ ∀ i, map.keyAt i ≠ some k := by
  constructor
  · intro hnone i hi
    rw [h.findKey_eq_some_iff.2 hi] at hnone
    exact absurd hnone nofun
  · intro hno
    rcases hfind : map.findKey k with _ | i
    · rfl
    · exact absurd (h.findKey_eq_some_iff.1 hfind) (hno i)

theorem Holds.findSlot_eq (h : map.Holds added) :
    map.findSlot = Slots.searchFrom map.keySlots map.cursor := by
  rw [findSlot, Slots.searchFrom, h.length_keys]
  rfl

/-! ## Adding -/

section Grow

variable {n : ℕ}

theorem Holds.keySlots_growTo (h : map.Holds added) :
    (map.growTo n).keySlots = map.keySlots ++ List.replicate (n - map.length) none := by
  refine Eq.trans ?_ (Slots.elim_grow n map.keys h.length_keys)
  unfold growTo
  rcases map.keys with _ | keys <;> rfl

theorem Holds.valueSlots_growTo (h : map.Holds added) :
    (map.growTo n).valueSlots = map.valueSlots ++ List.replicate (n - map.length) none := by
  have hsome := h.isSome_values
  refine Eq.trans ?_ (Slots.elim_grow n map.values h.length_values)
  unfold growTo
  rcases hkeys : map.keys with _ | keys <;> rw [hkeys] at hsome
  · rw [Option.isSome_none, Option.isSome_eq_false_iff, Option.isNone_iff_eq_none] at hsome
    rw [hsome]
    rfl
  · obtain ⟨values, hvalues⟩ := Option.isSome_iff_exists.1 hsome
    show (map.values.map _).getD [] = _
    rw [hvalues]
    rfl

/-- **A map that grows** holds what it held. -/
theorem Holds.growTo (h : map.Holds added) (hle : map.length ≤ n) :
    (map.growTo n).Holds added ∧ (map.growTo n).available = map.available + (n - map.length) ∧
      (map.growTo n).length = n := by
  have hkeys := h.keySlots_growTo (n := n)
  have hvalues := h.valueSlots_growTo (n := n)
  have hkeyAt : ∀ i, (map.growTo n).keyAt i = map.keyAt i := fun i => by
    show Slots.slot (map.growTo n).keySlots i = _
    rw [hkeys, Slots.slot_append_replicate]
    rfl
  have hvalueAt : ∀ i, (map.growTo n).valueAt i = map.valueAt i := fun i => by
    show Slots.slot (map.growTo n).valueSlots i = _
    rw [hvalues, Slots.slot_append_replicate]
    rfl
  have hlength : (map.growTo n).length = n := by
    unfold JObjectMap.growTo
    split <;> rfl
  have hcursor : (map.growTo n).cursor ≤ map.cursor := by
    unfold JObjectMap.growTo
    split
    · exact Nat.zero_le _
    · exact Nat.le_refl _
  have hnull : map.keys = none → map.available = 0 ∧ map.length = 0 := by
    intro hnone
    have hempty : map.keySlots = [] := by rw [keySlots, hnone, Option.getD_none]
    have hlen := h.length_keys
    have hfree := h.available_eq
    rw [hempty] at hlen hfree
    exact ⟨hfree, hlen.symm⟩
  have havailable : (map.growTo n).available = map.available + (n - map.length) := by
    unfold JObjectMap.growTo
    split
    · rename_i hnone
      obtain ⟨hzero, hlen⟩ := hnull hnone
      rw [hzero, hlen, Nat.zero_add]
      rfl
    · rfl
  refine ⟨⟨?_, ?_, ?_, ?_, ?_, ?_, ?_⟩, havailable, hlength⟩
  · have hsome := h.isSome_values
    unfold JObjectMap.growTo
    split
    · rfl
    · rename_i keys hkeys
      rw [hkeys] at hsome
      show (map.values.map _).isSome = _
      rw [Option.isSome_map, hsome]
      rfl
  · rw [hkeys, List.length_append, List.length_replicate, h.length_keys, hlength]
    omega
  · rw [hvalues, List.length_append, List.length_replicate, h.length_values, hlength]
    omega
  · have hlt := h.cursor_lt
    rw [hlength]
    omega
  · rw [havailable, hkeys, Slots.free_append, Slots.free_replicate, h.available_eq]
  · intro i j k
    rw [hkeyAt, hkeyAt]
    exact h.distinct i j k
  · intro k v
    simp only [hkeyAt, hvalueAt]
    exact h.lookup k v

end Grow

/-- A key that no slot holds has not been added. -/
theorem Holds.forall_keyAt_ne_iff (h : map.Holds added) :
    (∀ i, map.keyAt i ≠ some k) ↔ k ∉ added := by
  constructor
  · intro hno hmem
    obtain ⟨v, hv⟩ := Table.mem_iff_lookup.1 hmem
    obtain ⟨i, hi, -⟩ := (h.lookup k v).1 hv
    exact hno i hi
  · intro hnot i hi
    have hlookup := (h.lookup k (map.valueAt i)).2 ⟨i, hi, rfl⟩
    exact hnot (Table.mem_iff_lookup.2 ⟨_, hlookup⟩)

/-- The map `add` searches. -/
def roomFor (map : JObjectMap κ ν) : JObjectMap κ ν :=
  if map.available = 0 then
    map.growTo (map.length + if map.length = 0 then 16 else min map.length 128)
  else map

/-- **It has room**, and holds what the map held. -/
theorem Holds.roomFor (h : map.Holds added) :
    map.roomFor.Holds added ∧ 0 < map.roomFor.available := by
  unfold JObjectMap.roomFor
  split
  · generalize hgrowth : (if map.length = 0 then 16 else min map.length 128) = growth
    have hpos : 0 < growth := by
      rw [← hgrowth]
      split <;> omega
    obtain ⟨hholds, havailable, -⟩ := h.growTo (Nat.le_add_right map.length growth)
    exact ⟨hholds, by omega⟩
  · rename_i hroom
    exact ⟨h, Nat.pos_of_ne_zero hroom⟩

section Write

variable (o : Option κ) (value : Option ν)

omit [DecidableEq κ] in
/-- A key and a value written to one slot. -/
theorem keyAt_write (hlt : i < map.keySlots.length) (j : ℕ) :
    ((map.setKey i o).setValue i value).keyAt j = if i = j then o else map.keyAt j := by
  show Slots.slot (map.setKey i o).keySlots j = _
  rw [keySlots_setKey, Slots.slot_set]
  simp only [hlt, and_true]
  rfl

omit [DecidableEq κ] in
theorem valueAt_write (hlt : i < map.valueSlots.length) (j : ℕ) :
    ((map.setKey i o).setValue i value).valueAt j = if i = j then value else map.valueAt j := by
  show Slots.slot ((map.setKey i o).setValue i value).valueSlots j = _
  rw [valueSlots_setValue]
  show Slots.slot (map.valueSlots.set i value) j = _
  rw [Slots.slot_set]
  simp only [hlt, and_true]
  rfl

/-- The arrays keep their length. -/
theorem Holds.length_write (h : map.Holds added) (i : ℕ) :
    ((map.setKey i o).setValue i value).values.isSome =
        ((map.setKey i o).setValue i value).keys.isSome ∧
      ((map.setKey i o).setValue i value).keySlots.length = map.length ∧
        ((map.setKey i o).setValue i value).valueSlots.length = map.length := by
  refine ⟨?_, ?_, ?_⟩
  · show (map.values.map _).isSome = (map.keys.map _).isSome
    rw [Option.isSome_map, Option.isSome_map, h.isSome_values]
  · show (map.setKey i o).keySlots.length = map.length
    rw [keySlots_setKey, List.length_set, h.length_keys]
  · rw [valueSlots_setValue, List.length_set]
    exact h.length_values

end Write

section Written

variable {map' : JObjectMap κ ν} {o : Option κ} {value v : Option ν} {k' : κ}

/-- Keys stay distinct where the one written is in no other slot. -/
theorem Holds.distinct_write (h : map.Holds added)
    (hkeyAt : ∀ j, map'.keyAt j = if i = j then o else map.keyAt j)
    (hnew : ∀ k j, o = some k → map.keyAt j ≠ some k) {j j' : ℕ}
    (hj : map'.keyAt j = some k) (hj' : map'.keyAt j' = some k) : j = j' := by
  rw [hkeyAt] at hj hj'
  split at hj <;> split at hj'
  · omega
  · exact absurd hj' (hnew k j' hj)
  · exact absurd hj (hnew k j hj')
  · exact h.distinct j j' k hj hj'

omit [DecidableEq κ] in
/-- A key that neither was nor is in the slot written. -/
theorem exists_write_iff (hkeyAt : ∀ j, map'.keyAt j = if i = j then o else map.keyAt j)
    (hvalueAt : ∀ j, map'.valueAt j = if i = j then value else map.valueAt j)
    (hold : map.keyAt i ≠ some k') (hnew : o ≠ some k') :
    (∃ j, map'.keyAt j = some k' ∧ map'.valueAt j = v) ↔
      ∃ j, map.keyAt j = some k' ∧ map.valueAt j = v := by
  refine exists_congr fun j => ?_
  rw [hkeyAt, hvalueAt]
  by_cases hij : i = j
  · subst hij
    rw [if_pos rfl]
    exact iff_of_false (fun hboth => hnew hboth.1) fun hboth => hold hboth.1
  · rw [if_neg hij, if_neg hij]

end Written

/-- A value replaced. -/
theorem Holds.setValue (h : map.Holds added) (hk : map.keyAt i = some k) (value : Option ν) :
    (map.setValue i value).Holds (added.insert k value) := by
  have hlt : i < map.valueSlots.length := by
    rw [h.length_values]
    exact h.lt_of_keyAt hk
  have hvalueAt : ∀ j,
      (map.setValue i value).valueAt j = if i = j then value else map.valueAt j := by
    intro j
    show Slots.slot (map.setValue i value).valueSlots j = _
    rw [valueSlots_setValue, Slots.slot_set]
    simp only [hlt, and_true]
    rfl
  have hkeyAt : ∀ j, (map.setValue i value).keyAt j = if i = j then some k else map.keyAt j := by
    intro j
    split
    · rename_i hij
      exact hij ▸ hk
    · rfl
  refine ⟨?_, h.length_keys, ?_, h.cursor_lt, h.available_eq, h.distinct, fun k' v => ?_⟩
  · show (map.values.map _).isSome = map.keys.isSome
    rw [Option.isSome_map, h.isSome_values]
  · rw [valueSlots_setValue, List.length_set]
    exact h.length_values
  · rw [Table.lookup_insert_eq]
    split
    · rename_i hkk
      subst hkk
      rw [Option.some_inj]
      constructor
      · rintro rfl
        exact ⟨i, hk, by rw [hvalueAt, if_pos rfl]⟩
      · rintro ⟨j, hj, hv⟩
        obtain rfl := h.distinct i j k' hk hj
        rwa [hvalueAt, if_pos rfl] at hv
    · rename_i hne
      have hother : some k ≠ some k' := fun hkk => hne (Option.some.inj hkk).symm
      rw [h.lookup, exists_write_iff hkeyAt hvalueAt (hk ▸ hother) hother]

/-- A new entry put into a slot. -/
def placed (map : JObjectMap κ ν) (idx : ℕ) (key : κ) (value : Option ν) : JObjectMap κ ν :=
  { (map.setKey idx (some key)).setValue idx value with
    available := map.available - 1
    cursor := (idx + 1) % map.length }

/-- **A free slot taken** by a key the map did not hold. -/
theorem Holds.placed (h : map.Holds added) (hlt : i < map.length) (hfree : map.keyAt i = none)
    (hnew : k ∉ added) (value : Option ν) :
    (map.placed i k value).Holds (added.insert k value) := by
  have hltKeys : i < map.keySlots.length := by rwa [h.length_keys]
  have hltValues : i < map.valueSlots.length := by rwa [h.length_values]
  have hkeyAt : ∀ j, (map.placed i k value).keyAt j = if i = j then some k else map.keyAt j :=
    keyAt_write (some k) value hltKeys
  have hvalueAt : ∀ j, (map.placed i k value).valueAt j = if i = j then value else map.valueAt j :=
    valueAt_write (some k) value hltValues
  have hno := h.forall_keyAt_ne_iff.2 hnew
  obtain ⟨hsome, hkeys, hvalues⟩ := h.length_write (some k) value i
  refine ⟨hsome, hkeys, hvalues, ?_, ?_, fun j j' k' => ?_, fun k' v => ?_⟩
  · have hmod := Nat.mod_lt (i + 1) (Nat.lt_of_le_of_lt (Nat.zero_le i) hlt)
    exact Nat.lt_of_lt_of_le hmod (Nat.le_max_left _ _)
  · show map.available - 1 = Slots.free (map.setKey i (some k)).keySlots
    have hset := Slots.free_set (o := some k) hltKeys
    have hslot : Slots.slot map.keySlots i = none := hfree
    rw [hslot] at hset
    rw [keySlots_setKey, h.available_eq]
    simp only [Option.isNone_none, Option.isNone_some, Bool.toNat_true, Bool.toNat_false] at hset
    omega
  · refine h.distinct_write hkeyAt fun k₁ j hk₁ => ?_
    rw [← Option.some.inj hk₁]
    exact hno j
  · rw [Table.lookup_insert_eq]
    split
    · rename_i hkk
      subst hkk
      rw [Option.some_inj]
      constructor
      · rintro rfl
        exact ⟨i, by rw [hkeyAt, if_pos rfl], by rw [hvalueAt, if_pos rfl]⟩
      · rintro ⟨j, hj, hv⟩
        rw [hkeyAt] at hj
        rw [hvalueAt] at hv
        split at hj
        · rename_i hij
          rwa [if_pos hij] at hv
        · exact absurd hj (hno j)
    · rename_i hne
      rw [h.lookup, exists_write_iff hkeyAt hvalueAt]
      · rw [hfree]
        exact (Option.some_ne_none k').symm
      · exact fun hk => hne (Option.some.inj hk).symm

/-- **`add`** returns, and the value is held under the key. -/
theorem Holds.add (h : map.Holds added) (k : κ) (value : Option ν) :
    ∃ map', map.add (some k) value = some (map', true) ∧ map'.Holds (added.insert k value) := by
  unfold JObjectMap.add
  rcases hfind : map.findKey k with _ | i
  · have hnew := h.forall_keyAt_ne_iff.1 (h.findKey_eq_none_iff.1 hfind)
    obtain ⟨hroom, hpos⟩ := h.roomFor
    have hfound : map.roomFor.findSlot.isSome := by
      rw [hroom.findSlot_eq, Slots.searchFrom_isSome_iff, ← hroom.available_eq]
      exact hpos
    obtain ⟨idx, hidx⟩ := Option.isSome_iff_exists.1 hfound
    have hslot := hidx
    rw [hroom.findSlot_eq] at hslot
    obtain ⟨hlt, hnone⟩ := Slots.searchFrom_eq_some hslot
    rw [hroom.length_keys] at hlt
    refine ⟨map.roomFor.placed idx k value, ?_, hroom.placed hlt hnone hnew value⟩
    rw [← JObjectMap.roomFor]
    simp only [hfind, hidx]
    rfl
  · refine ⟨map.setValue i value, ?_, h.setValue (h.findKey_eq_some_iff.1 hfind) value⟩
    simp only [hfind]

/-! ## Removing -/

/-- A slot freed. -/
def freed (map : JObjectMap κ ν) (i : ℕ) : JObjectMap κ ν :=
  { (map.setKey i none).setValue i none with
    available := map.available + 1
    cursor := i }

theorem Holds.freed (h : map.Holds added) (hk : map.keyAt i = some k) :
    (map.freed i).Holds (added.erase k) := by
  have hlt := h.lt_of_keyAt hk
  have hltKeys : i < map.keySlots.length := by rwa [h.length_keys]
  have hltValues : i < map.valueSlots.length := by rwa [h.length_values]
  have hkeyAt : ∀ j, (map.freed i).keyAt j = if i = j then none else map.keyAt j :=
    keyAt_write none none hltKeys
  have hvalueAt : ∀ j, (map.freed i).valueAt j = if i = j then none else map.valueAt j :=
    valueAt_write none none hltValues
  obtain ⟨hsome, hkeys, hvalues⟩ := h.length_write none none i
  refine ⟨hsome, hkeys, hvalues, ?_, ?_, fun j j' k' => ?_, fun k' v => ?_⟩
  · exact Nat.lt_of_lt_of_le hlt (Nat.le_max_left _ _)
  · show map.available + 1 = Slots.free (map.setKey i none).keySlots
    rw [keySlots_setKey, h.available_eq, Slots.free_set_none_iff hltKeys]
    exact Option.isSome_iff_exists.2 ⟨k, hk⟩
  · exact h.distinct_write hkeyAt fun k₁ j hk₁ => absurd hk₁.symm (Option.some_ne_none k₁)
  · rw [Table.lookup_erase_eq]
    split
    · rename_i hkk
      subst hkk
      refine iff_of_false (Option.some_ne_none v).symm ?_
      rintro ⟨j, hj, -⟩
      rw [hkeyAt] at hj
      split at hj
      · exact absurd hj.symm (Option.some_ne_none k')
      · rename_i hij
        exact hij (h.distinct i j k' hk hj)
    · rename_i hne
      rw [h.lookup, exists_write_iff hkeyAt hvalueAt]
      · rw [hk]
        exact fun hkk => hne (Option.some.inj hkk).symm
      · exact (Option.some_ne_none k').symm

omit [DecidableEq κ] in
/-- Without arrays nothing has been added. -/
theorem keyAt_of_keys_eq_none (hnone : map.keys = none) (i : ℕ) : map.keyAt i = none := by
  rw [keyAt, hnone, Option.getD_none]
  exact Slots.slot_of_le (Nat.zero_le i)

/-- **`remove`** drops the key. -/
theorem Holds.remove (h : map.Holds added) (k : κ) :
    (map.remove (some k)).Holds (added.erase k) := by
  have hsame : (∀ i, map.keyAt i ≠ some k) → map.Holds (added.erase k) := by
    intro hno
    have hnew := h.forall_keyAt_ne_iff.1 hno
    refine ⟨h.isSome_values, h.length_keys, h.length_values, h.cursor_lt, h.available_eq,
      h.distinct, fun k' v => ?_⟩
    rw [Table.lookup_erase_eq, ← h.lookup]
    split
    · rename_i hkk
      rw [hkk, Finmap.lookup_eq_none.2 hnew]
    · exact Iff.rfl
  unfold JObjectMap.remove
  split
  · rename_i key keys hkey hkeys
    obtain rfl := Option.some.inj hkey
    split
    · rename_i i hfind
      exact h.freed (h.findKey_eq_some_iff.1 hfind)
    · rename_i hfind
      exact hsame (h.findKey_eq_none_iff.1 hfind)
  · rename_i hnot
    rcases hkeys : map.keys with _ | keys
    · refine hsame fun i => ?_
      rw [keyAt_of_keys_eq_none hkeys]
      exact nofun
    · exact absurd hkeys (hnot k keys rfl)

/-- **`clear`** drops every key. -/
theorem Holds.clear (h : map.Holds added) : map.clear.Holds ∅ := by
  have hempty : ∀ map' : JObjectMap κ ν, (∀ i, map'.keyAt i = none) → ∀ k v,
      (∅ : Table κ (Option ν)).lookup k = some v ↔
        ∃ i, map'.keyAt i = some k ∧ map'.valueAt i = v := by
    intro map' hnone k v
    rw [Finmap.lookup_empty]
    refine iff_of_false nofun ?_
    rintro ⟨i, hi, -⟩
    exact absurd ((hnone i).symm.trans hi) nofun
  have hkeysLength := h.length_keys
  have hvaluesLength := h.length_values
  have hsome := h.isSome_values
  unfold JObjectMap.clear
  split
  · rename_i hnone
    exact ⟨h.isSome_values, h.length_keys, h.length_values, h.cursor_lt, h.available_eq,
      h.distinct, hempty map (keyAt_of_keys_eq_none hnone)⟩
  · rename_i keys hkeys
    rw [hkeys] at hsome
    obtain ⟨values, hvalues⟩ := Option.isSome_iff_exists.1 hsome
    rw [keySlots, hkeys, Option.getD_some] at hkeysLength
    rw [valueSlots, hvalues, Option.getD_some] at hvaluesLength
    -- every slot is written
    have hfree : ∀ i, Slots.slot ((List.range map.length).foldl (fun keys i => keys.set i none)
        keys) i = none := by
      intro i
      rw [Slots.slot_foldl_set_none]
      split
      · rfl
      · exact Slots.slot_of_le (by omega)
    refine ⟨?_, ?_, ?_, ?_, ?_, ?_, ?_⟩
    · rw [hvalues]
      rfl
    · show (List.foldl _ keys _).length = map.length
      rw [Slots.length_foldl_set_none, hkeysLength]
    · rw [hvalues]
      show (List.foldl _ values _).length = map.length
      rw [Slots.length_foldl_set_none, hvaluesLength]
    · exact Nat.lt_of_lt_of_le Nat.zero_lt_one (Nat.le_max_right _ _)
    · show map.length = Slots.free (List.foldl _ keys _)
      rw [Slots.free_eq_length hfree, Slots.length_foldl_set_none, hkeysLength]
    · intro i j k hi
      exact absurd ((hfree i).symm.trans hi) nofun
    · exact hempty _ hfree

/-! ## Compaction -/

/-- **The entries of a map**, in the order of their slots. -/
def entries (map : JObjectMap κ ν) : List (κ × Option ν) :=
  (List.range map.length).filterMap fun i => (map.keyAt i).map fun k => (k, map.valueAt i)

omit [DecidableEq κ] in
/-- What `finalize` moves is the entries. -/
theorem foldl_moveEntry (arrays : List (Option κ) × List (Option ν) × ℕ) :
    (List.range map.length).foldl map.moveEntry arrays =
      (Slots.writeFrom arrays.1 arrays.2.2 (map.entries.map (some ∘ Prod.fst)),
        Slots.writeFrom arrays.2.1 arrays.2.2 (map.entries.map Prod.snd),
        arrays.2.2 + map.entries.length) := by
  have hfold : (List.range map.length).foldl map.moveEntry arrays =
      map.entries.foldl (fun arrays entry => (arrays.1.set arrays.2.2 (some entry.1),
        arrays.2.1.set arrays.2.2 entry.2, arrays.2.2 + 1)) arrays := by
    rw [entries, List.foldl_filterMap]
    congr 1
    funext arrays i
    unfold moveEntry
    rcases map.keyAt i with _ | k <;> rfl
  rw [hfold]
  clear hfold
  generalize map.entries = entries
  induction entries generalizing arrays with
  | nil => rfl
  | cons entry entries ih =>
    rw [List.foldl_cons, ih, List.map_cons, List.map_cons, List.length_cons, Slots.writeFrom,
      Slots.writeFrom, Nat.add_right_comm]
    rfl

theorem Holds.mem_entries_iff (h : map.Holds added) {v : Option ν} :
    (k, v) ∈ map.entries ↔ added.lookup k = some v := by
  rw [entries, List.mem_filterMap, h.lookup]
  constructor
  · rintro ⟨i, -, hi⟩
    obtain ⟨k', hk, hpair⟩ := Option.map_eq_some_iff.1 hi
    obtain ⟨rfl, rfl⟩ := Prod.mk.inj hpair
    exact ⟨i, hk, rfl⟩
  · rintro ⟨i, hk, rfl⟩
    refine ⟨i, List.mem_range.2 (h.lt_of_keyAt hk), ?_⟩
    rw [hk, Option.map_some]

/-- No two entries have one key. -/
theorem Holds.nodup_entries (h : map.Holds added) : (map.entries.map Prod.fst).Nodup := by
  rw [List.Nodup, List.pairwise_map, entries, List.pairwise_filterMap]
  refine List.pairwise_lt_range.imp fun {i j} hij => ?_
  intro entry hentry entry' hentry' hsame
  obtain ⟨k, hk, rfl⟩ := Option.map_eq_some_iff.1 hentry
  obtain ⟨k', hk', rfl⟩ := Option.map_eq_some_iff.1 hentry'
  dsimp only at hsame
  subst hsame
  exact absurd (h.distinct i j k hk hk') (Nat.ne_of_lt hij)

/-- **The entries are the slots in use.** -/
theorem Holds.length_entries (h : map.Holds added) :
    map.entries.length = Slots.used map.keySlots := by
  rw [entries, List.length_filterMap_eq_countP]
  simp only [Option.isSome_map]
  rw [← h.length_keys]
  exact Slots.countP_range_isSome

/-- **The entries are the keys added.** -/
theorem Holds.card_eq (h : map.Holds added) : added.keys.card = map.entries.length := by
  have hkeys : (map.entries.map Prod.fst).toFinset = added.keys := by
    ext k
    rw [List.mem_toFinset, List.mem_map, Finmap.mem_keys, Table.mem_iff_lookup]
    constructor
    · rintro ⟨⟨k', v⟩, hmem, rfl⟩
      exact ⟨v, h.mem_entries_iff.1 hmem⟩
    · rintro ⟨v, hv⟩
      exact ⟨(k, v), h.mem_entries_iff.2 hv, rfl⟩
  rw [← hkeys, List.toFinset_card_of_nodup h.nodup_entries, List.length_map]

/-- A map whose arrays are as long as its entries. -/
def compacted (map : JObjectMap κ ν) : JObjectMap κ ν where
  keys := some (map.entries.map (some ∘ Prod.fst))
  values := some (map.entries.map Prod.snd)
  cursor := 0
  available := 0
  length := map.entries.length

theorem Holds.compacted (h : map.Holds added) : map.compacted.Holds added := by
  have hkeyAt : ∀ i, map.compacted.keyAt i = map.entries[i]?.map Prod.fst := by
    intro i
    show Slots.slot (map.entries.map (some ∘ Prod.fst)) i = _
    rw [Slots.slot_map]
    rcases map.entries[i]? with _ | entry <;> rfl
  have hvalueAt : ∀ i, map.compacted.valueAt i = map.entries[i]?.bind Prod.snd :=
    fun i => Slots.slot_map
  refine ⟨rfl, List.length_map _, List.length_map _, ?_, ?_, ?_, ?_⟩
  · exact Nat.lt_of_lt_of_le Nat.zero_lt_one (Nat.le_max_right _ _)
  · symm
    refine Slots.free_eq_zero_iff.2 fun i hi => ?_
    have hlt : i < map.entries.length := Nat.lt_of_lt_of_eq hi (List.length_map _)
    have hused : (map.compacted.keyAt i).isSome := by
      rw [hkeyAt, List.getElem?_eq_getElem hlt]
      rfl
    exact hused
  · intro i j k hi hj
    rw [hkeyAt, ← List.getElem?_map] at hi hj
    obtain ⟨hi', hik⟩ := List.getElem?_eq_some_iff.1 hi
    obtain ⟨hj', hjk⟩ := List.getElem?_eq_some_iff.1 hj
    exact h.nodup_entries.getElem_inj_iff.1 (hik.trans hjk.symm)
  · intro k v
    rw [← h.mem_entries_iff, List.mem_iff_getElem?]
    refine exists_congr fun i => ?_
    rw [hkeyAt, hvalueAt]
    rcases map.entries[i]? with _ | ⟨k', v'⟩
    · exact iff_of_false nofun fun hboth => absurd hboth.1 nofun
    · simp

/-- **`finalize`** holds what the map held. -/
theorem Holds.finalize (h : map.Holds added) : map.finalize.Holds added := by
  have hcount : map.length - map.available = map.entries.length := by
    have hsum := Slots.used_add_free map.keySlots
    rw [h.length_entries, h.available_eq, ← h.length_keys]
    omega
  unfold JObjectMap.finalize
  split
  · exact h
  · dsimp only
    rw [hcount]
    split
    · rename_i hnone
      -- nothing has been added
      have hcard := h.card_eq
      rw [hnone, Finset.card_eq_zero] at hcard
      have hadded : added = ∅ := by
        refine Finmap.ext_lookup fun k => ?_
        rw [Finmap.lookup_empty, Finmap.lookup_eq_none, ← Finmap.mem_keys, hcard]
        exact Finset.notMem_empty k
      rw [hadded]
      exact h.clear
    · split
      · exact h
      · rw [foldl_moveEntry]
        have hkeys := Slots.writeFrom_replicate [] (map.entries.map (some ∘ Prod.fst))
        have hvalues := Slots.writeFrom_replicate [] (map.entries.map Prod.snd)
        rw [List.length_map, List.nil_append, List.nil_append, List.length_nil] at hkeys hvalues
        dsimp only
        rw [hkeys, hvalues]
        exact h.compacted

theorem Holds.reserve (h : map.Holds added) (newCapacity : ℕ) :
    (map.reserve newCapacity).Holds added := by
  unfold JObjectMap.reserve
  split
  · exact h
  · rename_i hgrow
    exact (h.growTo (Nat.le_of_not_le hgrow)).1

/-! ## Answers -/

/-- **What a map holds it answers for.** -/
theorem Holds.isFaithfulMap (h : map.Holds added) : IsFaithfulMap map added where
  get_eq k := by
    unfold get
    split
    · rename_i key keys hkey hkeys
      obtain rfl := Option.some.inj hkey
      rcases hfind : map.findKey k with _ | i
      · have hnew := h.forall_keyAt_ne_iff.1 (h.findKey_eq_none_iff.1 hfind)
        rw [Finmap.lookup_eq_none.2 hnew]
        rfl
      · have hlookup := (h.lookup k _).2 ⟨i, h.findKey_eq_some_iff.1 hfind, rfl⟩
        rw [hlookup]
        rfl
    · rename_i hnot
      rcases hkeys : map.keys with _ | keys
      · have hnew : k ∉ added := by
          rw [← h.forall_keyAt_ne_iff]
          intro i
          rw [keyAt_of_keys_eq_none hkeys]
          exact nofun
        rw [Finmap.lookup_eq_none.2 hnew]
        rfl
      · exact absurd hkeys (hnot k keys rfl)
  get_null := rfl
  size_eq := by
    have hsum := Slots.used_add_free map.keySlots
    rw [size, h.card_eq, h.length_entries, h.available_eq, ← h.length_keys]
    omega
  distinct := h.distinct
  available_eq := by
    rw [h.available_eq, ← h.length_keys]
    exact Slots.countP_range_isNone.symm
  add_isSome k v := by
    obtain ⟨map', hadd, -⟩ := h.add k v
    rw [hadd]
    rfl

end JObjectMap

/-- **A step** of a map that holds what has been added. -/
theorem MapOp.run_holds (op : MapOp κ ν) {map : JObjectMap κ ν} {added : Table κ (Option ν)}
    (h : map.Holds added) :
    ∃ map', op.run map = some map' ∧ map'.Holds (addedNext (some map) added op) := by
  rcases op with ⟨_ | k, value⟩ | (_ | k) | newCapacity | _ | _
  · exact ⟨map, rfl, h⟩
  · obtain ⟨map', hadd, hholds⟩ := h.add k value
    refine ⟨map', ?_, hholds⟩
    rw [run, hadd]
    rfl
  · exact ⟨map, rfl, h⟩
  · exact ⟨_, rfl, h.remove k⟩
  · exact ⟨_, rfl, h.reserve newCapacity.toNat⟩
  · exact ⟨_, rfl, h.finalize⟩
  · exact ⟨_, rfl, h.clear⟩

/-- **A map is faithful all along a run**, from an empty one. -/
theorem object_map_faithful (ops : List (MapOp κ ν)) :
    ((mapMachine κ ν).withHistory addedNext).Everywhere
      (fun p => ∃ map ∈ p.1, IsFaithfulMap map p.2) (some .empty, ∅) ops := by
  have hholds : ((mapMachine κ ν).withHistory addedNext).Everywhere
      (fun p => ∃ map ∈ p.1, map.Holds p.2) (some .empty, ∅) ops := by
    refine Machine.everywhere_of_step ?_ ⟨.empty, rfl, JObjectMap.holds_empty⟩
    rintro ⟨s, added⟩ op ⟨map, hmap, hholds⟩
    obtain rfl := Option.mem_def.1 hmap
    obtain ⟨map', hrun, hnext⟩ := op.run_holds hholds
    exact ⟨map', hrun, hnext⟩
  exact hholds.mono fun p ⟨map, hmap, h⟩ => ⟨map, hmap, h.isFaithfulMap⟩

end LSPlant
