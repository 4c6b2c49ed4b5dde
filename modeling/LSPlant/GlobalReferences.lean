import LSPlant.ObjectListRuns
import Mathlib.Logic.Function.Basic
/-!
# Global references

The references to Java objects are kept in an object list, and a `GlobalRef`
is an index into it. Used as it is meant to be, the list is a store: what
was put at an index stays there until it is replaced or removed, through
growth and through `finalize`, and a new index is one that is not in use.
-/

namespace LSPlant

variable {α : Type*}

namespace JObjectList

variable {list : JObjectList α} {index i : ℤ} {obj : Option α}

/-- **A list that works as a store.** It may have counted fewer free slots
than there are. -/
structure IsStore (list : JObjectList α) : Prop where
  isSized : list.IsSized
  countsAtMost : list.CountsAtMost

theorem isStore_empty : (empty : JObjectList α).IsStore :=
  ⟨isSized_empty, Nat.le_refl 0⟩

/-- Behind the last slot there is nothing to get. -/
theorem IsSized.get_eq (h : list.IsSized) :
    list.get i = if i < 0 then none else list.element i.toNat := by
  have hlength := h.length_slots
  unfold JObjectList.get
  by_cases hneg : i < 0
  · rw [if_pos (Or.inl hneg), if_pos hneg]
  · rw [if_neg hneg]
    split
    · rw [element_eq_slot, Slots.slot_of_le (by omega)]
    · rfl

/-- Two lists of the same elements. -/
theorem IsSized.get_congr (h : list.IsSized) {list' : JObjectList α} (h' : list'.IsSized)
    (helement : ∀ j, list'.element j = list.element j) : list'.get i = list.get i := by
  rw [h.get_eq, h'.get_eq, helement]

/-- An index in use lies in the array. -/
theorem inRange_of_isSome (h : (list.get i).isSome) : list.InRange i := by
  unfold JObjectList.get at h
  unfold InRange
  split at h
  · exact absurd h nofun
  · omega

theorem IsStore.element_toNat (h : list.IsStore) (hused : (list.get i).isSome) :
    list.element i.toNat = list.get i := by
  have hrange := inRange_of_isSome hused
  rw [h.isSized.get_eq, if_neg (Int.not_lt.2 hrange.1)]

/-- Nor does it lie behind the last slot of it, and the slot is in use. -/
theorem IsStore.slot_isSome (h : list.IsStore) (hused : (list.get index).isSome) :
    index.toNat < list.slots.length ∧ (Slots.slot list.slots index.toNat).isSome := by
  have hrange := inRange_of_isSome hused
  have hlength := h.isSized.length_slots
  unfold InRange at hrange
  refine ⟨by omega, ?_⟩
  rw [← element_eq_slot, h.element_toNat hused]
  exact hused

variable (obj) in
/-- What is got after a write. -/
theorem IsSized.get_setElement (h : list.IsSized) (hrange : list.InRange index) :
    (list.setElement index.toNat obj).get i = if i = index then obj else list.get i := by
  have hlength := h.length_slots
  unfold InRange at hrange
  rw [h.setElement.get_eq, h.get_eq, element_eq_slot, slots_setElement, Slots.slot_set,
    element_eq_slot]
  by_cases hneg : i < 0
  · rw [if_pos hneg, if_pos hneg, if_neg (by omega)]
  · rw [if_neg hneg, if_neg hneg]
    by_cases hi : i = index
    · subst hi
      rw [if_pos rfl, if_pos ⟨rfl, by omega⟩]
    · rw [if_neg hi, if_neg (by omega)]

/-! ## The operations of a store -/

/-- **Adding** takes an index that is not in use. -/
theorem IsStore.add (h : list.IsStore) (obj : α) :
    ∃ (idx : ℕ) (list' : JObjectList α), list.add (some obj) = some (list', (idx : ℤ)) ∧
      list'.IsStore ∧ list.get idx = none ∧
        ∀ i, list'.get i = if i = idx then some obj else list.get i := by
  obtain ⟨idx, list', hadded⟩ := exists_added h.isSized h.countsAtMost obj
  have hfree := hadded.free
  have hcount := h.countsAtMost
  refine ⟨idx, list', hadded.add_eq, ⟨hadded.isSized, ?_⟩, ?_, fun i => ?_⟩
  · unfold CountsAtMost at hcount ⊢
    omega
  · rw [h.isSized.get_eq, if_neg (by omega)]
    exact hadded.element_idx
  · rw [hadded.isSized.get_eq, h.isSized.get_eq, hadded.element]
    by_cases hneg : i < 0
    · rw [if_pos hneg, if_pos hneg, if_neg (by omega)]
    · rw [if_neg hneg, if_neg hneg]
      by_cases hi : i = idx
      · rw [if_pos hi, if_pos (by omega)]
      · rw [if_neg hi, if_neg (by omega)]

/-- **Replacing an object.** -/
theorem IsStore.updateAt (h : list.IsStore) (hused : (list.get index).isSome) (obj : α) :
    (list.updateAt index (some obj)).IsStore ∧
      ∀ i, (list.updateAt index (some obj)).get i = if i = index then some obj else list.get i := by
  have hrange := inRange_of_isSome hused
  obtain ⟨hlt, hslot⟩ := h.slot_isSome hused
  have hfree : Slots.free list.slots = Slots.free (list.slots.set index.toNat (some obj)) :=
    (Slots.free_set_eq_iff hlt).2 (iff_of_true hslot rfl)
  rw [updateAt_of_inRange hrange]
  refine ⟨⟨h.isSized.setElement, ?_⟩, fun i => h.isSized.get_setElement (some obj) hrange⟩
  show list.available ≤ Slots.free (list.setElement index.toNat (some obj)).slots
  rw [slots_setElement, ← hfree]
  exact h.countsAtMost

/-- **Removing an object.** -/
theorem IsStore.remove (h : list.IsStore) (hused : (list.get index).isSome) :
    (list.remove index).IsStore ∧
      ∀ i, (list.remove index).get i = if i = index then none else list.get i := by
  have hrange := inRange_of_isSome hused
  obtain ⟨hlt, hslot⟩ := h.slot_isSome hused
  have hfree := (Slots.free_set_none_iff hlt).2 hslot
  have hcount := h.countsAtMost
  refine ⟨⟨h.isSized.remove index, ?_⟩, fun i => ?_⟩
  · rw [remove_of_inRange hrange]
    show list.available + 1 ≤ Slots.free (list.setElement index.toNat none).slots
    rw [slots_setElement, ← hfree]
    exact Nat.succ_le_succ hcount
  · rw [remove_of_inRange hrange]
    exact h.isSized.get_setElement none hrange

/-- **Growing** moves nothing. -/
theorem IsStore.reserve (h : list.IsStore) (n : ℕ) :
    (list.reserve n).IsStore ∧ ∀ i, (list.reserve n).get i = list.get i := by
  unfold JObjectList.reserve
  split
  · exact ⟨h, fun i => rfl⟩
  · rename_i hroom
    have hgrown := h.isSized.growTo (Nat.le_of_not_le hroom)
    have hfree := free_growTo (n := n) h.isSized h.countsAtMost
    have hcount := h.countsAtMost
    refine ⟨⟨hgrown, ?_⟩, fun i => h.isSized.get_congr hgrown fun j => element_growTo h.isSized⟩
    unfold CountsAtMost at hcount ⊢
    omega

/-- **Nor does `finalize`.** -/
theorem IsStore.finalize (h : list.IsStore) :
    list.finalize.IsStore ∧ ∀ i, list.finalize.get i = list.get i := by
  refine ⟨⟨h.isSized.finalize, ?_⟩, fun i =>
    h.isSized.get_congr h.isSized.finalize fun j => element_finalize h.isSized⟩
  rw [finalize_eq h.isSized]
  split
  · exact h.countsAtMost
  · exact Nat.zero_le _

end JObjectList

/-! ## Runs of a store -/

/-- **What is stored at each index**: the object put there last and not
removed since. An object added is stored at the index `add` returns. -/
def storedNext (s : Option (JObjectList α)) (stored : ℤ → Option α) :
    ListOp α → ℤ → Option α
  | .add (some obj) => match s.bind fun list => list.add (some obj) with
    | some (_, idx) => Function.update stored idx (some obj)
    | none => stored
  | .update index obj => Function.update stored index obj
  | .remove index => Function.update stored index none
  | .add none | .reserve _ | .finalize | .clear | .recycle => stored

/-- **The list used as a store**: it is updated with objects, updated and
removed from where there is something, and neither cleared nor recycled. -/
def UsesAsStore (p : Option (JObjectList α) × (ℤ → Option α)) : ListOp α → Prop
  | .update index obj => obj.isSome ∧ (p.2 index).isSome
  | .remove index => (p.2 index).isSome
  | .add _ | .reserve _ | .finalize => True
  | .clear | .recycle => False

instance (p : Option (JObjectList α) × (ℤ → Option α)) :
    ∀ op, Decidable (UsesAsStore p op)
  | .update index obj => inferInstanceAs (Decidable (obj.isSome ∧ (p.2 index).isSome))
  | .remove index => inferInstanceAs (Decidable (p.2 index).isSome)
  | .add _ | .reserve _ | .finalize => instDecidableTrue
  | .clear | .recycle => instDecidableFalse

/-- **A faithful store.** What is got is what is stored, an object added
goes where nothing is, and growth and `finalize` leave what is got. -/
structure IsFaithful (list : JObjectList α) (stored : ℤ → Option α) : Prop where
  get_eq : ∀ i, list.get i = stored i
  add : ∀ obj, ∃ idx list', list.add (some obj) = some (list', idx) ∧ 0 ≤ idx ∧
    stored idx = none ∧ ∀ i ≠ idx, list'.get i = list.get i
  add_null : list.add none = some (list, -1)
  reserve : ∀ n i, (list.reserve n).get i = list.get i
  finalize : ∀ i, list.finalize.get i = list.get i

/-- A store is faithful to what it holds. -/
theorem JObjectList.IsStore.isFaithful {list : JObjectList α} (h : list.IsStore)
    {stored : ℤ → Option α} (hget : ∀ i, list.get i = stored i) : IsFaithful list stored where
  get_eq := hget
  add obj := by
    obtain ⟨idx, list', hadd, -, hfresh, hget'⟩ := h.add obj
    refine ⟨idx, list', hadd, Int.natCast_nonneg idx, (hget idx).symm.trans hfresh, fun i hi => ?_⟩
    rw [hget', if_neg hi]
  add_null := rfl
  reserve n := (h.reserve n).2
  finalize := h.finalize.2

/-- The state of a store in a run. -/
def IsFaithfulState (p : Option (JObjectList α) × (ℤ → Option α)) : Prop :=
  ∃ list ∈ p.1, list.IsStore ∧ ∀ i, list.get i = p.2 i

theorem isFaithfulState_step {p : Option (JObjectList α) × (ℤ → Option α)} {op : ListOp α}
    (h : IsFaithfulState p) (huses : UsesAsStore p op) :
    IsFaithfulState (((listMachine α).withHistory storedNext).step p op) := by
  obtain ⟨s, stored⟩ := p
  obtain ⟨list, hlist, hstore, hget⟩ := h
  obtain rfl : s = some list := hlist
  change ∀ i, list.get i = stored i at hget
  rcases op with newCapacity | obj | ⟨index, obj⟩ | index | _ | _ | _
  case reserve =>
    obtain ⟨hstore', hget'⟩ := hstore.reserve newCapacity.toNat
    exact ⟨_, rfl, hstore', fun i => (hget' i).trans (hget i)⟩
  case add =>
    rcases obj with _ | obj
    · exact ⟨list, rfl, hstore, hget⟩
    · obtain ⟨idx, list', hadd, hstore', hfresh, hget'⟩ := hstore.add obj
      refine ⟨list', ?_, hstore', fun i => ?_⟩
      · show (list.add (some obj)).map Prod.fst = some list'
        rw [hadd]
        rfl
      · have hnext : storedNext (some list) stored (.add (some obj)) =
            Function.update stored idx (some obj) := by
          simp only [storedNext, Option.bind_some, hadd]
        show list'.get i = storedNext (some list) stored (.add (some obj)) i
        rw [hnext, Function.update_apply, hget', hget]
  case update =>
    obtain ⟨hobj, hused⟩ := huses
    obtain ⟨obj, rfl⟩ := Option.isSome_iff_exists.1 hobj
    change (stored index).isSome at hused
    rw [← hget] at hused
    obtain ⟨hstore', hget'⟩ := hstore.updateAt hused obj
    refine ⟨_, rfl, hstore', fun i => ?_⟩
    show (list.updateAt index (some obj)).get i = Function.update stored index (some obj) i
    rw [hget', Function.update_apply, hget]
  case remove =>
    change (stored index).isSome at huses
    rw [← hget] at huses
    obtain ⟨hstore', hget'⟩ := hstore.remove huses
    refine ⟨_, rfl, hstore', fun i => ?_⟩
    show (list.remove index).get i = Function.update stored index none i
    rw [hget', Function.update_apply, hget]
  case finalize =>
    obtain ⟨hstore', hget'⟩ := hstore.finalize
    exact ⟨_, rfl, hstore', fun i => (hget' i).trans (hget i)⟩
  case clear => exact absurd huses id
  case recycle => exact absurd huses id

/-! ## Global references -/

variable {ρ : Type*} [DecidableEq ρ]

/-- The references and their indices, `-1` in one that has not been set. -/
structure GlobalRefs (ρ α : Type*) where
  globalReferences : JObjectList α
  index : ρ → ℤ

def GlobalRefs.start : GlobalRefs ρ α := ⟨.empty, fun _ => -1⟩

/-- **`GlobalRef::get`** -/
def GlobalRefs.get (refs : GlobalRefs ρ α) (r : ρ) : Option α :=
  refs.globalReferences.get (refs.index r)

/-- **`GlobalRef::set`** -/
def GlobalRefs.set (refs : GlobalRefs ρ α) (r : ρ) (obj : Option α) : Option (GlobalRefs ρ α) :=
  if refs.index r < 0 then
    (refs.globalReferences.add obj).map fun (list, idx) =>
      ⟨list, Function.update refs.index r idx⟩
  else some { refs with globalReferences := refs.globalReferences.updateAt (refs.index r) obj }

/-- **What happens to the references**: one is set, or `Init` finalizes the
list. -/
inductive RefEvent (ρ α : Type*) where
  | set (r : ρ) (obj : α)
  | finalize

/-- The references over time. -/
def refMachine (ρ α : Type*) [DecidableEq ρ] :
    Machine (Option (GlobalRefs ρ α)) (RefEvent ρ α) where
  step s e := s.bind fun refs => match e with
    | .set r obj => refs.set r (some obj)
    | .finalize => some { refs with globalReferences := refs.globalReferences.finalize }
  admissible _ _ := True

/-- The object each reference was set to last. -/
def lastSet (_ : Option (GlobalRefs ρ α)) (last : ρ → Option α) : RefEvent ρ α → ρ → Option α
  | .set r obj => Function.update last r (some obj)
  | .finalize => last

/-- **References that do not alias**: each gives the object it was set to
last, and two that have been set have different indices. -/
def AreDistinct (p : Option (GlobalRefs ρ α) × (ρ → Option α)) : Prop :=
  ∃ refs ∈ p.1, (∀ r, refs.get r = p.2 r) ∧
    ∀ r r', (p.2 r).isSome → (p.2 r').isSome → refs.index r = refs.index r' → r = r'

/-- The references of a run: the list is a store, and an index that is not
negative is in use by one reference. -/
def AreStored (p : Option (GlobalRefs ρ α) × (ρ → Option α)) : Prop :=
  ∃ refs ∈ p.1, refs.globalReferences.IsStore ∧ (∀ r, refs.get r = p.2 r) ∧
    (∀ r, 0 ≤ refs.index r → (p.2 r).isSome) ∧
      ∀ r r', 0 ≤ refs.index r → refs.index r = refs.index r' → r = r'

omit [DecidableEq ρ] in
theorem AreStored.areDistinct {p : Option (GlobalRefs ρ α) × (ρ → Option α)} (h : AreStored p) :
    AreDistinct p := by
  obtain ⟨refs, hrefs, -, hget, -, hinj⟩ := h
  refine ⟨refs, hrefs, hget, fun r r' hr _ heq => hinj r r' ?_ heq⟩
  rw [← hget] at hr
  exact (JObjectList.inRange_of_isSome hr).1

/-- **A reference set for the first time** gets an index that no other
has. -/
theorem AreStored.set_new {refs : GlobalRefs ρ α} {last : ρ → Option α}
    (h : AreStored (some refs, last)) {r : ρ} (hneg : refs.index r < 0) (obj : α) :
    AreStored (refs.set r (some obj), Function.update last r (some obj)) := by
  obtain ⟨refs', hrefs, hstore, hget, hused, hinj⟩ := h
  obtain rfl := Option.some.inj hrefs
  change ∀ r, refs.get r = last r at hget
  change ∀ r, 0 ≤ refs.index r → (last r).isSome at hused
  obtain ⟨idx, list', hadd, hstore', hfresh, hget'⟩ := hstore.add obj
  have hset : refs.set r (some obj) = some ⟨list', Function.update refs.index r idx⟩ := by
    rw [GlobalRefs.set, if_pos hneg, hadd]
    rfl
  -- no other reference has the new index
  have hother : ∀ r', refs.index r' ≠ (idx : ℤ) := by
    intro r' heq
    have hsome := hused r' (by omega)
    rw [← hget, GlobalRefs.get, heq, hfresh] at hsome
    exact absurd hsome nofun
  refine ⟨_, hset, hstore', fun r' => ?_, fun r' hr' => ?_, fun r₁ r₂ h₁ heq => ?_⟩
  · show list'.get (Function.update refs.index r (idx : ℤ) r') =
      Function.update last r (some obj) r'
    rw [Function.update_apply, Function.update_apply, hget']
    by_cases hr : r' = r
    · rw [if_pos hr, if_pos rfl, if_pos hr]
    · rw [if_neg hr, if_neg hr, if_neg (hother r')]
      exact hget r'
  · change (Function.update last r (some obj) r').isSome
    change 0 ≤ Function.update refs.index r (idx : ℤ) r' at hr'
    rw [Function.update_apply] at hr' ⊢
    split
    · rfl
    · rename_i hr
      rw [if_neg hr] at hr'
      exact hused r' hr'
  · change 0 ≤ Function.update refs.index r (idx : ℤ) r₁ at h₁
    change Function.update refs.index r (idx : ℤ) r₁ =
      Function.update refs.index r (idx : ℤ) r₂ at heq
    simp only [Function.update_apply] at h₁ heq
    by_cases hr₁ : r₁ = r <;> by_cases hr₂ : r₂ = r
    · exact hr₁.trans hr₂.symm
    · rw [if_pos hr₁, if_neg hr₂] at heq
      exact absurd heq.symm (hother r₂)
    · rw [if_neg hr₁, if_pos hr₂] at heq
      exact absurd heq (hother r₁)
    · rw [if_neg hr₁] at h₁
      rw [if_neg hr₁, if_neg hr₂] at heq
      exact hinj r₁ r₂ h₁ heq

/-- **A reference set again** keeps its index. -/
theorem AreStored.set_again {refs : GlobalRefs ρ α} {last : ρ → Option α}
    (h : AreStored (some refs, last)) {r : ρ} (hneg : ¬ refs.index r < 0) (obj : α) :
    AreStored (refs.set r (some obj), Function.update last r (some obj)) := by
  obtain ⟨refs', hrefs, hstore, hget, hused, hinj⟩ := h
  obtain rfl := Option.some.inj hrefs
  change ∀ r, refs.get r = last r at hget
  change ∀ r, 0 ≤ refs.index r → (last r).isSome at hused
  have hin : (refs.globalReferences.get (refs.index r)).isSome := by
    have hsome := hused r (Int.not_lt.1 hneg)
    rwa [← hget] at hsome
  obtain ⟨hstore', hget'⟩ := hstore.updateAt hin obj
  have hset : refs.set r (some obj) = some { refs with
      globalReferences := refs.globalReferences.updateAt (refs.index r) (some obj) } :=
    if_neg hneg
  refine ⟨_, hset, hstore', fun r' => ?_, fun r' hr' => ?_, hinj⟩
  · show (refs.globalReferences.updateAt (refs.index r) (some obj)).get (refs.index r') =
      Function.update last r (some obj) r'
    rw [hget', Function.update_apply]
    by_cases hr : r' = r
    · rw [hr, if_pos rfl, if_pos rfl]
    · have hne : refs.index r' ≠ refs.index r := fun heq =>
        hr (hinj r r' (Int.not_lt.1 hneg) heq.symm).symm
      rw [if_neg hne, if_neg hr]
      exact hget r'
  · change (Function.update last r (some obj) r').isSome
    rw [Function.update_apply]
    split
    · rfl
    · exact hused r' hr'

theorem areStored_step {p : Option (GlobalRefs ρ α) × (ρ → Option α)} {e : RefEvent ρ α}
    (h : AreStored p) : AreStored (((refMachine ρ α).withHistory lastSet).step p e) := by
  obtain ⟨s, last⟩ := p
  obtain ⟨refs, hrefs, hstore, hget, hused, hinj⟩ := h
  obtain rfl : s = some refs := hrefs
  have hstored : AreStored (some refs, last) := ⟨refs, rfl, hstore, hget, hused, hinj⟩
  rcases e with ⟨r, obj⟩ | _
  case set =>
    by_cases hneg : refs.index r < 0
    · exact hstored.set_new hneg obj
    · exact hstored.set_again hneg obj
  case finalize =>
    obtain ⟨hstore', hget'⟩ := hstore.finalize
    exact ⟨_, rfl, hstore', fun r => (hget' _).trans (hget r), hused, hinj⟩

omit [DecidableEq ρ] in
theorem areStored_start : AreStored (some (GlobalRefs.start : GlobalRefs ρ α), fun _ => none) := by
  have hunset : ∀ r : ρ, ¬ 0 ≤ (GlobalRefs.start : GlobalRefs ρ α).index r :=
    fun r => (by decide : ¬ (0 : ℤ) ≤ -1)
  exact ⟨_, rfl, JObjectList.isStore_empty, fun _ => rfl, fun r hr => absurd hr (hunset r),
    fun r r' hr => absurd hr (hunset r)⟩

/-- **The list is a faithful store, and global references do not alias.**
Along every run that uses the list as a store what is got is what is
stored; and along every run of references, each gives the object it was set
to last. -/
theorem object_list_faithful {ops : List (ListOp α)}
    (h : ((listMachine α).withHistory storedNext).EachStep UsesAsStore
      (some .empty, fun _ => none) ops) (events : List (RefEvent ρ α)) :
    ((listMachine α).withHistory storedNext).Everywhere
        (fun p => ∃ list ∈ p.1, IsFaithful list p.2) (some .empty, fun _ => none) ops ∧
      ((refMachine ρ α).withHistory lastSet).Everywhere AreDistinct
        (some .start, fun _ => none) events := by
  constructor
  · have hstart : IsFaithfulState (some (JObjectList.empty : JObjectList α), fun _ => none) := by
      refine ⟨_, rfl, JObjectList.isStore_empty, fun i => ?_⟩
      rw [JObjectList.isSized_empty.get_eq]
      split <;> rfl
    have heverywhere := Machine.everywhere_of_eachStep
      (fun p op hp huses => isFaithfulState_step hp huses) hstart h
    refine heverywhere.mono fun p hp => ?_
    obtain ⟨list, hlist, hstore, hget⟩ := hp
    exact ⟨list, hlist, hstore.isFaithful hget⟩
  · have heverywhere : ((refMachine ρ α).withHistory lastSet).Everywhere AreStored
        (some .start, fun _ => none) events :=
      Machine.everywhere_of_step (fun p e hp => areStored_step hp) areStored_start
    exact heverywhere.mono fun p hp => hp.areDistinct

/-- An object added, replaced, removed and the list finalized. -/
theorem object_list_faithful_run :
    ((listMachine ℕ).withHistory storedNext).Everywhere
        (fun p => ∃ list ∈ p.1, IsFaithful list p.2) (some .empty, fun _ => none)
        [.add (some 7), .add (some 8), .update 0 (some 9), .remove 0, .finalize] ∧
      ((refMachine Bool ℕ).withHistory lastSet).Everywhere AreDistinct
        (some .start, fun _ => none) [.set true 7, .set false 8, .finalize, .set true 9] :=
  object_list_faithful (by decide) _

end LSPlant
