import Mathlib.Data.Finmap
/-!
# Hash tables

A hash table is Mathlib's `Finmap`: its content and nothing about the
order its slots are visited in. A loop over a table is a fold over an
enumeration of its keys, and the enumeration is an argument, so that
what is proved holds of every iteration order.
-/

/-- A hash table from keys to values. -/
abbrev Table (α β : Type*) := Finmap fun _ : α => β

namespace Table

variable {α β σ : Type*} [DecidableEq α] {m m' : Table α β} {a b : α} {v w : β}

/-- Insert, unless the key is already there: the old value stays. -/
def emplace (m : Table α β) (a : α) (v : β) : Table α β :=
  if a ∈ m then m else m.insert a v

theorem lookup_insert_eq :
    Finmap.lookup b (m.insert a v) = if b = a then some v else m.lookup b := by
  split
  · subst b; exact Finmap.lookup_insert m
  · exact Finmap.lookup_insert_of_ne m ‹_›

theorem lookup_erase_eq :
    Finmap.lookup b (m.erase a) = if b = a then none else m.lookup b := by
  split
  · subst b; exact Finmap.lookup_erase a m
  · exact Finmap.lookup_erase_ne ‹_›

theorem mem_iff_lookup : a ∈ m ↔ ∃ v, m.lookup a = some v := Finmap.mem_iff

theorem lookup_emplace_eq :
    (m.emplace a v).lookup b = if b = a ∧ a ∉ m then some v else m.lookup b := by
  unfold emplace
  split <;> rename_i h
  · simp [h]
  · simp [lookup_insert_eq, h]

@[simp] theorem mem_emplace : b ∈ m.emplace a v ↔ b = a ∨ b ∈ m := by
  unfold emplace
  split <;> rename_i h
  · exact ⟨Or.inr, fun hb => hb.elim (fun he => he ▸ h) id⟩
  · exact Finmap.mem_insert

theorem lookup_emplace_self (h : a ∉ m) : (m.emplace a v).lookup a = some v := by
  rw [lookup_emplace_eq, if_pos ⟨rfl, h⟩]

/-- Merging keeps the left table's value where both have the key. -/
theorem lookup_union_eq :
    (m ∪ m').lookup a = (m.lookup a).or (m'.lookup a) := by
  by_cases h : a ∈ m
  · obtain ⟨v, hv⟩ := mem_iff_lookup.1 h
    rw [Finmap.lookup_union_left h, hv]; rfl
  · rw [Finmap.lookup_union_right h, Finmap.lookup_eq_none.2 h]; rfl

/-- A table with no keys. -/
def IsEmpty (m : Table α β) : Prop := m.keys = ∅

instance (m : Table α β) : Decidable (IsEmpty m) := inferInstanceAs (Decidable (m.keys = ∅))

/-- **A loop over a set** that enters `f a` at each `a`, in an empty table:
every order leaves the same one. -/
def ofSet (s : Finset α) (f : α → β) : Table α β where
  entries := s.val.map fun a => ⟨a, f a⟩
  nodupKeys := by
    rw [← Multiset.nodup_keys, Multiset.keys, Multiset.map_map]
    simpa using s.nodup

theorem lookup_ofSet {s : Finset α} {f : α → β} :
    (ofSet s f).lookup a = if a ∈ s then some (f a) else none := by
  split <;> rename_i h
  · exact Finmap.mem_lookup_iff.2 (Multiset.mem_map.2 ⟨a, h, rfl⟩)
  · refine Finmap.lookup_eq_none.2 fun hm => h ?_
    obtain ⟨v, hv⟩ := mem_iff_lookup.1 hm
    obtain ⟨b, hb, he⟩ := Multiset.mem_map.1 (Finmap.mem_lookup_iff.1 hv)
    cases he
    exact hb

/-- A table whose lookups all fail has no keys. -/
theorem isEmpty_iff : IsEmpty m ↔ ∀ a, m.lookup a = none := by
  simp [IsEmpty, Finset.eq_empty_iff_forall_notMem, Finmap.mem_keys, Finmap.lookup_eq_none]

/-! ## Keys by their values -/

variable {P : β → Bool}

/-- The keys whose value has the property. -/
def keysWith (m : Table α β) (P : β → Bool) : Finset α :=
  m.keys.filter fun a => (m.lookup a).any P

theorem mem_keysWith : a ∈ m.keysWith P ↔ ∃ v, m.lookup a = some v ∧ P v = true := by
  unfold keysWith
  rw [Finset.mem_filter, Finmap.mem_keys, mem_iff_lookup]
  constructor
  · rintro ⟨⟨v, hv⟩, hP⟩
    rw [hv] at hP
    exact ⟨v, hv, hP⟩
  · rintro ⟨v, hv, hP⟩
    rw [hv]
    exact ⟨⟨v, rfl⟩, hP⟩

theorem keysWith_empty : (∅ : Table α β).keysWith P = ∅ := rfl

theorem keysWith_subset : m.keysWith P ⊆ m.keys := Finset.filter_subset _ _

theorem keysWith_insert :
    keysWith (m.insert a v) P =
      if P v then insert a (m.keysWith P) else (m.keysWith P).erase a := by
  ext b
  rw [mem_keysWith, lookup_insert_eq]
  by_cases hb : b = a
  · subst hb
    rw [if_pos rfl]
    cases hP : P v <;> simp [hP]
  · rw [if_neg hb]
    split
    · rw [Finset.mem_insert, or_iff_right hb, mem_keysWith]
    · rw [Finset.mem_erase, and_iff_right hb, mem_keysWith]

theorem keysWith_insert_of_eq (h : P v = (m.lookup a).any P) :
    keysWith (m.insert a v) P = m.keysWith P := by
  have hmem : a ∈ m.keysWith P ↔ P v = true := by
    rw [mem_keysWith, h, Option.any_eq_true]
  rw [keysWith_insert]
  split <;> rename_i hP
  · exact Finset.insert_eq_of_mem (hmem.2 hP)
  · exact Finset.erase_eq_of_notMem fun hm => hP (hmem.1 hm)

theorem keysWith_erase : keysWith (m.erase a) P = (m.keysWith P).erase a := by
  ext b
  rw [mem_keysWith, lookup_erase_eq, Finset.mem_erase, mem_keysWith]
  by_cases hb : b = a
  · simp [hb]
  · rw [if_neg hb, and_iff_right hb]

/-! ## Iteration -/

/-- A list that visits every key of the table once. -/
def Enumerates (order : List α) (m : Table α β) : Prop :=
  order.Nodup ∧ ∀ a, a ∈ order ↔ a ∈ m

instance (order : List α) (m : Table α β) : Decidable (Enumerates order m) :=
  decidable_of_iff (order.Nodup ∧ order.toFinset = m.keys) <| by
    simp only [Enumerates, Finset.ext_iff, List.mem_toFinset, Finmap.mem_keys]

omit [DecidableEq α] in
theorem Enumerates.nodup {order : List α} (h : Enumerates order m) : order.Nodup := h.1

omit [DecidableEq α] in
theorem Enumerates.mem_iff {order : List α} (h : Enumerates order m) : a ∈ order ↔ a ∈ m :=
  h.2 a

/-- **A loop over a table** in the given order. -/
def forEach (order : List α) (m : Table α β) (body : σ → α → β → σ) (s : σ) : σ :=
  order.foldl (fun s a => match m.lookup a with
    | some v => body s a v
    | none => s) s

@[simp] theorem forEach_nil {body : σ → α → β → σ} {s : σ} : forEach [] m body s = s := rfl

theorem forEach_cons {order : List α} {body : σ → α → β → σ} {s : σ} :
    forEach (a :: order) m body s = forEach order m body (match m.lookup a with
      | some v => body s a v
      | none => s) := rfl

theorem forEach_cons_some {order : List α} {body : σ → α → β → σ} {s : σ}
    (h : m.lookup a = some v) :
    forEach (a :: order) m body s = forEach order m body (body s a v) := by
  rw [forEach_cons, h]

theorem forEach_append {o₁ o₂ : List α} {body : σ → α → β → σ} {s : σ} :
    forEach (o₁ ++ o₂) m body s = forEach o₂ m body (forEach o₁ m body s) :=
  List.foldl_append ..

/-- **The loop rule.** What every pass keeps, the loop keeps. -/
theorem forEach_induction {P : σ → Prop} {order : List α} {body : σ → α → β → σ} {s : σ}
    (h0 : P s) (hbody : ∀ s a v, a ∈ order → m.lookup a = some v → P s → P (body s a v)) :
    P (forEach order m body s) := by
  induction order generalizing s with
  | nil => exact h0
  | cons a order ih =>
    rw [forEach_cons]
    refine ih ?_ fun s b v hb => hbody s b v (List.mem_cons_of_mem a hb)
    cases hv : m.lookup a with
    | none => exact h0
    | some v => exact hbody s a v List.mem_cons_self hv h0

/-- **A value only one pass can write.** Where no pass but the key's own
touches what `f` reads, the loop leaves it as it was up to the key's
own pass, and as that pass left it afterwards. The passes may rely on an
invariant of the loop. -/
theorem forEach_read {γ : Type*} {f : σ → γ} {I : σ → Prop} {order : List α}
    {body : σ → α → β → σ} {s : σ} (hI : I s) (hbody : ∀ s a v, I s → I (body s a v))
    (hnd : order.Nodup) (ha : a ∈ order) (hv : m.lookup a = some v) {g : γ → γ}
    (hown : ∀ s, I s → f (body s a v) = g (f s))
    (hothers : ∀ s b w, I s → b ∈ order → b ≠ a → m.lookup b = some w →
      f (body s b w) = f s) :
    f (forEach order m body s) = g (f s) := by
  obtain ⟨o₁, o₂, rfl⟩ := List.append_of_mem ha
  rw [List.nodup_append] at hnd
  obtain ⟨-, hnd₂, hdisj⟩ := hnd
  have hne₁ : ∀ b ∈ o₁, b ≠ a := fun b hb => hdisj b hb a List.mem_cons_self
  have hne₂ : ∀ b ∈ o₂, b ≠ a := fun b hb he => (List.nodup_cons.1 hnd₂).1 (he ▸ hb)
  rw [forEach_append, forEach_cons_some hv]
  have h₁ : I (forEach o₁ m body s) ∧ f (forEach o₁ m body s) = f s :=
    forEach_induction (P := fun t => I t ∧ f t = f s) ⟨hI, rfl⟩ fun t b w hb hw ht =>
      ⟨hbody t b w ht.1, (hothers t b w ht.1 (by simp [hb]) (hne₁ b hb) hw).trans ht.2⟩
  have h₂ : ∀ t, I t → f (forEach o₂ m body t) = f t := fun t htI =>
    (forEach_induction (P := fun u => I u ∧ f u = f t) ⟨htI, rfl⟩ fun u b w hb hw hu =>
      ⟨hbody u b w hu.1, (hothers u b w hu.1 (by simp [hb]) (hne₂ b hb) hw).trans hu.2⟩).2
  rw [h₂ _ (hbody _ _ _ h₁.1), hown _ h₁.1, h₁.2]

/-- And what no pass touches at all, the loop does not touch. -/
theorem forEach_read_of_untouched {γ : Type*} {f : σ → γ} {I : σ → Prop} {order : List α}
    {body : σ → α → β → σ} {s : σ} (hI : I s) (hbody : ∀ s a v, I s → I (body s a v))
    (h : ∀ s b w, I s → b ∈ order → m.lookup b = some w → f (body s b w) = f s) :
    f (forEach order m body s) = f s :=
  (forEach_induction (P := fun t => I t ∧ f t = f s) ⟨hI, rfl⟩ fun t b w hb hw ht =>
    ⟨hbody t b w ht.1, (h t b w ht.1 hb hw).trans ht.2⟩).2

/-- **A value two passes write**, one after the other: where no pass but
those of two keys touches what `f` reads, the loop leaves there what the
two make of it in their order. -/
theorem forEach_read_pair {γ : Type*} {f : σ → γ} {I : σ → Prop} {order : List α}
    {body : σ → α → β → σ} {s : σ} (hI : I s) (hbody : ∀ s a v, I s → I (body s a v))
    (hnd : order.Nodup) (hlt : order.idxOf a < order.idxOf b) (hb : b ∈ order)
    (hv : m.lookup a = some v) (hw : m.lookup b = some w) {g k : γ → γ}
    (hown₁ : ∀ s, I s → f (body s a v) = g (f s)) (hown₂ : ∀ s, I s → f (body s b w) = k (f s))
    (hothers : ∀ s c x, I s → c ≠ a → c ≠ b → m.lookup c = some x → f (body s c x) = f s) :
    f (forEach order m body s) = k (g (f s)) := by
  have hlen := hlt.trans (List.idxOf_lt_length_of_mem hb)
  obtain ⟨o₁, o₂, rfl⟩ := List.append_of_mem (List.idxOf_lt_length_iff.1 hlen)
  rw [List.nodup_append] at hnd
  obtain ⟨-, hnd₂, hdisj⟩ := hnd
  have ha₁ : a ∉ o₁ := fun h => hdisj a h a List.mem_cons_self rfl
  have ha₂ : a ∉ o₂ := (List.nodup_cons.1 hnd₂).1
  rw [List.idxOf_append_of_notMem ha₁, List.idxOf_cons_self] at hlt
  have hb₁ : b ∉ o₁ := fun h => by
    rw [List.idxOf_append_of_mem h] at hlt
    have := List.idxOf_lt_length_of_mem h
    omega
  have hba : b ≠ a := by
    rintro rfl
    rw [List.idxOf_append_of_notMem ha₁, List.idxOf_cons_self] at hlt
    omega
  have hb₂ : b ∈ o₂ := by
    rw [List.mem_append, List.mem_cons] at hb
    exact (hb.resolve_left hb₁).resolve_left hba
  rw [forEach_append, forEach_cons_some hv]
  -- up to the first key's pass nothing happens, and after it only the second's
  have h₁ : I (forEach o₁ m body s) ∧ f (forEach o₁ m body s) = f s :=
    forEach_induction (P := fun t => I t ∧ f t = f s) ⟨hI, rfl⟩ fun t c x hc hx ht =>
      ⟨hbody t c x ht.1, (hothers t c x ht.1 (fun he => ha₁ (he ▸ hc)) (fun he => hb₁ (he ▸ hc))
        hx).trans ht.2⟩
  rw [forEach_read (hbody _ _ _ h₁.1) hbody (List.nodup_cons.1 hnd₂).2 hb₂ hw hown₂
    fun t c x ht hc hcb hx => hothers t c x ht (fun he => ha₂ (he ▸ hc)) hcb hx, hown₁ _ h₁.1, h₁.2]

/-- What a key's own pass makes of a value: nothing where the table has no such
key. -/
def pass {γ : Type*} (m : Table α β) (a : α) (g : β → γ → γ) (x : γ) : γ :=
  (m.lookup a).elim x fun v => g v x

theorem pass_of_none {γ : Type*} {g : β → γ → γ} {x : γ} (h : m.lookup a = none) :
    m.pass a g x = x := by
  rw [pass, h, Option.elim_none]

theorem pass_of_some {γ : Type*} {g : β → γ → γ} {x : γ} (h : m.lookup a = some v) :
    m.pass a g x = g v x := by
  rw [pass, h, Option.elim_some]

/-- **A value the passes of two keys write**, be they in the table or not: the
loop leaves what their passes make of it, in the order it visits the keys. -/
theorem forEach_read_two {γ : Type*} {f : σ → γ} {I : σ → Prop} {order : List α}
    {body : σ → α → β → σ} {s : σ} (hI : I s) (hbody : ∀ s a v, I s → I (body s a v))
    (ho : Enumerates order m) (hab : a ≠ b) {g k : β → γ → γ}
    (hown₁ : ∀ s v, I s → f (body s a v) = g v (f s))
    (hown₂ : ∀ s v, I s → f (body s b v) = k v (f s))
    (hothers : ∀ s c w, I s → c ≠ a → c ≠ b → f (body s c w) = f s) :
    f (forEach order m body s) =
      if order.idxOf a < order.idxOf b then m.pass b k (m.pass a g (f s))
      else m.pass a g (m.pass b k (f s)) := by
  have hmem : ∀ {c w}, m.lookup c = some w → c ∈ order := fun {c w} h =>
    ho.mem_iff.2 (mem_iff_lookup.2 ⟨w, h⟩)
  have hne : ∀ {c d w}, m.lookup c = none → m.lookup d = some w → d ≠ c := by
    rintro c d w hc hd rfl
    rw [hc] at hd
    cases hd
  cases ha : m.lookup a with
  | none =>
    simp only [pass_of_none ha, ite_self]
    cases hb : m.lookup b with
    | none =>
      rw [pass_of_none hb]
      exact forEach_read_of_untouched hI hbody fun s c w hs _ hw =>
        hothers s c w hs (hne ha hw) (hne hb hw)
    | some w =>
      rw [pass_of_some hb]
      exact forEach_read hI hbody ho.nodup (hmem hb) hb (fun s hs => hown₂ s w hs)
        fun s c x hs _ hc hx => hothers s c x hs (hne ha hx) hc
  | some v =>
    cases hb : m.lookup b with
    | none =>
      simp only [pass_of_none hb, ite_self, pass_of_some ha]
      exact forEach_read hI hbody ho.nodup (hmem ha) ha (fun s hs => hown₁ s v hs)
        fun s c x hs _ hc hx => hothers s c x hs hc (hne hb hx)
    | some w =>
      simp only [pass_of_some ha, pass_of_some hb]
      split
      · rename_i hlt
        exact forEach_read_pair hI hbody ho.nodup hlt (hmem hb) ha hb (fun s hs => hown₁ s v hs)
          (fun s hs => hown₂ s w hs) fun s c x hs hc hc' _ => hothers s c x hs hc hc'
      · rename_i hnot
        have hidx : order.idxOf a ≠ order.idxOf b := fun he =>
          hab ((List.idxOf_inj (hmem ha)).1 he)
        have hlt : order.idxOf b < order.idxOf a := by omega
        exact forEach_read_pair hI hbody ho.nodup hlt (hmem ha) hb ha (fun s hs => hown₂ s w hs)
          (fun s hs => hown₁ s v hs) fun s c x hs hc hc' _ => hothers s c x hs hc' hc

/-- **The loop rule, with what a pass finds.** At the keys in `K`, what
`f` reads is written by no pass but the key's own, so the key's pass
finds there what the loop started with. -/
theorem forEach_induction_fresh {γ : Type*} {f : α → σ → γ} {K : α → Prop} {P : σ → Prop}
    {order : List α} {body : σ → α → β → σ} {s : σ} {r : α → γ} (hnd : order.Nodup) (h0 : P s)
    (hr : ∀ a ∈ order, K a → f a s = r a)
    (hothers : ∀ s a b w, P s → K a → b ≠ a → m.lookup b = some w →
      f a (body s b w) = f a s)
    (hbody : ∀ s a v, m.lookup a = some v → (K a → f a s = r a) → P s → P (body s a v)) :
    P (forEach order m body s) := by
  induction order generalizing s with
  | nil => exact h0
  | cons a order ih =>
    obtain ⟨ha, hnd⟩ := List.nodup_cons.1 hnd
    rw [forEach_cons]
    cases hv : m.lookup a with
    | none => exact ih hnd h0 fun b hb => hr b (List.mem_cons_of_mem a hb)
    | some v =>
      refine ih hnd (hbody s a v hv (hr a List.mem_cons_self) h0) fun b hb hK => ?_
      have hne : a ≠ b := fun he => ha (he ▸ hb)
      rw [hothers s b a v h0 hK hne hv, hr b (List.mem_cons_of_mem a hb) hK]

/-- **The loop rule, with the keys still to come.** -/
theorem forEach_rec {P : List α → σ → Prop} {order : List α} {body : σ → α → β → σ} {s : σ}
    (ho : Enumerates order m) (h0 : P order s)
    (hbody : ∀ visited a rest s v, order = visited ++ a :: rest → a ∉ rest → m.lookup a = some v →
      P (a :: rest) s → P rest (body s a v)) : P [] (forEach order m body s) := by
  have hrest : ∀ rest visited s, order = visited ++ rest → P rest s →
      P [] (forEach rest m body s) := by
    intro rest
    induction rest with
    | nil => exact fun _ _ _ h => h
    | cons a rest ih =>
      intro visited s horder h
      have hmem : a ∈ order := by simp [horder]
      have hnot : a ∉ rest := by
        have hnd := ho.nodup
        rw [horder, List.nodup_append] at hnd
        exact (List.nodup_cons.1 hnd.2.1).1
      obtain ⟨v, hv⟩ := mem_iff_lookup.1 (ho.mem_iff.1 hmem)
      rw [forEach_cons_some hv]
      exact ih (visited ++ [a]) _ (by simp [horder]) (hbody visited a rest s v horder hnot hv h)
  exact hrest order [] s rfl h0

/-! ## Quantifying over a table -/

/-- Every entry of the table has the property. -/
def Forall (m : Table α β) (P : α → β → Prop) : Prop := ∀ x ∈ m.entries, P x.1 x.2

omit [DecidableEq α] in
instance (m : Table α β) (P : α → β → Prop) [∀ a v, Decidable (P a v)] :
    Decidable (Forall m P) :=
  inferInstanceAs (Decidable (∀ x ∈ m.entries, P x.1 x.2))

instance (m : Table α β) (P : α → Prop) [DecidablePred P] : Decidable (∀ a ∈ m, P a) :=
  decidable_of_iff (∀ a ∈ m.keys, P a) (by simp only [Finmap.mem_keys])

theorem forall_iff {P : α → β → Prop} : Forall m P ↔ ∀ a v, m.lookup a = some v → P a v :=
  ⟨fun h a v hv => h ⟨a, v⟩ (Finmap.mem_lookup_iff.1 hv),
    fun h x hx => h x.1 x.2 (Finmap.mem_lookup_iff.2 hx)⟩

end Table
