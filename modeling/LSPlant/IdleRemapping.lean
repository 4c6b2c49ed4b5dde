import LSPlant.MapMethods
/-!
# A remapping in which ART does nothing

`MapBootImageMethods` puts back what it dressed up, method by method and
in the order its local map is visited in. Whether that leaves every
method as it was is a matter of what `deoptimized_methods_` holds: of a
hooked method the entry point recorded there is put back instead of its
own, and a backup put back before its target differs from what the target
still shows of it, which looks as if ART had changed the target.
-/

namespace LSPlant

variable {art : Art} {s u : State} {t b m n : ArtMethodPtr} {order : MapOrder}
  {saved : SavedMethod}

/-- **No method has changed**, neither data pointer nor entry point. -/
def Unchanged (s s' : State) : Prop :=
  ∀ m, s'.getData m = s.getData m ∧ s'.getEntryPoint m = s.getEntryPoint m

/-- **What is recorded of hooked methods and their backups is what they
have**, but for backups the third loop visits after their targets. -/
def RecordsCurrent (s : State) (order : MapOrder) : Prop :=
  ∀ t b, s.isHooked t = some b → originalEntryPoint s t = s.getEntryPoint t ∧
    (originalEntryPoint s b = s.getEntryPoint b ∨ order.saved.idxOf t < order.saved.idxOf b)

/-! ## The pass of a method -/

/-- A method that is not hooked gets its own entry point back. -/
theorem dressDown_of_deoptimized (art : Art) (u : State) (n : ArtMethodPtr)
    (hb : saved.backup = none) :
    (dressDown art u m saved).getData n = u.getData n ∧
      (dressDown art u m saved).getEntryPoint n =
        if n = m then saved.entryPoint else u.getEntryPoint n := by
  constructor
  · simp only [dressDown, hb]
    split
    · exact State.getData_setEntryPoint
    · rfl
  · split
    · subst n
      exact getEntryPoint_dressDown_self
    · rename_i hn
      exact getEntryPoint_dressDown_of_ne hn (by rw [hb]; exact (Option.some_ne_none n).symm)

/-- A hooked method that still shows what its backup has gets its own data
pointer and the entry point of the map back. -/
theorem dressDown_of_hooked (art : Art) (n : ArtMethodPtr) (hb : saved.backup = some b)
    (hd : u.getData m = u.getData b) (he : u.getEntryPoint m = u.getEntryPoint b) :
    (dressDown art u m saved).getData n = (if n = m then saved.data else u.getData n) ∧
      (dressDown art u m saved).getEntryPoint n =
        if n = m then saved.entryPoint else u.getEntryPoint n := by
  have hpass : dressDown art u m saved =
      (u.setData m saved.data).setEntryPoint art m saved.entryPoint := by
    simp only [dressDown, hb]
    exact if_pos ⟨hd, he⟩
  rw [hpass]
  constructor
  · rw [State.getData_setEntryPoint, State.getData_setData]
  · rw [State.getEntryPoint_setEntryPoint, State.getEntryPoint_setData]

/-! ## The loop -/

theorem mem_saved_of_lookup (ho : order.Of art s)
    (h : (dressUp art s order).2.lookup m = some saved) : m ∈ order.saved :=
  ho.2.2.mem_iff.2 (Table.mem_iff_lookup.2 ⟨saved, h⟩)

/-- What the map does not hold is as it was. -/
theorem dressUp_of_not_mem_saved (hc : Coherent art s) (ho : order.Of art s)
    (h : m ∉ order.saved) : (dressUp art s order).1.getData m = s.getData m ∧
      (dressUp art s order).1.getEntryPoint m = s.getEntryPoint m ∧
      originalEntryPoint s m = s.getEntryPoint m := by
  cases hm : s.isHooked m with
  | some b => exact absurd (mem_saved_of_lookup ho (dressUp_of_hooked hc ho hm).2.2) h
  | none =>
    obtain ⟨he, hd, hl⟩ := dressUp_of_not_mem ho (Registry.isHooked_eq_none.1 hm)
    cases hr : s.deoptimizedMethods.lookup m with
    | some e =>
      rw [hr] at hl
      exact absurd (mem_saved_of_lookup ho hl) h
    | none =>
      have horiginal : originalEntryPoint s m = s.getEntryPoint m := by
        rw [originalEntryPoint, hr]
        rfl
      exact ⟨hd, he.trans horiginal, horiginal⟩

/-- **Where the third loop is**: a method is dressed up until its own pass and
what it was after it. -/
def Undressed (art : Art) (s : State) (order : MapOrder) (rest : List ArtMethodPtr) (u : State) :
    Prop :=
  ∀ n, u.getData n = (if n ∈ rest then (dressUp art s order).1.getData n else s.getData n) ∧
    u.getEntryPoint n =
      if n ∈ rest then (dressUp art s order).1.getEntryPoint n else s.getEntryPoint n

/-- A pass that writes what its method was takes it out of the rest. -/
theorem Undressed.next {rest : List ArtMethodPtr} {u' : State}
    (h : Undressed art s order (m :: rest) u) (hrest : m ∉ rest)
    (hothers : ∀ n ≠ m, u'.getData n = u.getData n ∧ u'.getEntryPoint n = u.getEntryPoint n)
    (hd : u'.getData m = s.getData m) (he : u'.getEntryPoint m = s.getEntryPoint m) :
    Undressed art s order rest u' := by
  intro n
  by_cases hn : n = m
  · subst hn
    rw [if_neg hrest, if_neg hrest]
    exact ⟨hd, he⟩
  · have hcons : n ∈ m :: rest ↔ n ∈ rest := by simp [hn]
    obtain ⟨hd', he'⟩ := hothers n hn
    obtain ⟨hdn, hen⟩ := h n
    rw [hd', he', hdn, hen]
    simp only [hcons, and_self]

/-- **A backup that has had its pass** is as it was, and shows what it did
while it was dressed up. -/
theorem originalEntryPoint_of_visited {visited rest : List ArtMethodPtr} (hc : Coherent art s)
    (ho : order.Of art s) (horder : order.saved = visited ++ m :: rest)
    (hcurrent : originalEntryPoint s b = s.getEntryPoint b ∨
      order.saved.idxOf m < order.saved.idxOf b) (hnot : b ∉ m :: rest) :
    originalEntryPoint s b = s.getEntryPoint b := by
  refine hcurrent.elim id fun hlt => ?_
  by_cases hbo : b ∈ order.saved
  · have hbv : b ∈ visited := by
      rw [horder, List.mem_append] at hbo
      exact hbo.resolve_right hnot
    have hdisjoint := List.disjoint_of_nodup_append (horder ▸ ho.2.2.nodup)
    have hmv : m ∉ visited := fun hmv => hdisjoint hmv List.mem_cons_self
    rw [horder, List.idxOf_append_of_notMem hmv, List.idxOf_append_of_mem hbv,
      List.idxOf_cons_self] at hlt
    have hlen := List.idxOf_lt_length_of_mem hbv
    omega
  · exact (dressUp_of_not_mem_saved hc ho hbo).2.2

section Pass

variable {visited rest : List ArtMethodPtr} (hc : Coherent art s) (ho : order.Of art s)
  (hrest : m ∉ rest) (hv : (dressUp art s order).2.lookup m = some saved)
  (h : Undressed art s order (m :: rest) u)
include hc ho hrest hv h

/-- The pass of a method that is not hooked. -/
theorem Undressed.deoptimized (hm : s.isHooked m = none) :
    Undressed art s order rest (dressDown art u m saved) := by
  have hbackup : saved.backup = none := (backup_of_saved hc ho hv).trans hm
  obtain ⟨-, hd, hl⟩ := dressUp_of_not_mem ho (Registry.isHooked_eq_none.1 hm)
  rw [hl] at hv
  obtain ⟨e, -, rfl⟩ := Option.map_eq_some_iff.1 hv
  have hpass := fun n => dressDown_of_deoptimized art u n (m := m) hbackup
  refine h.next hrest (fun n hn => ?_) ?_ ?_
  · rw [(hpass n).1, (hpass n).2, if_neg hn]
    exact ⟨rfl, rfl⟩
  · rw [(hpass m).1, (h m).1, if_pos List.mem_cons_self]
    exact hd
  · rw [(hpass m).2, if_pos rfl]

/-- **The pass of a hooked method.** Its backup shows what it shows. -/
theorem Undressed.hooked (horder : order.saved = visited ++ m :: rest) (hm : s.isHooked m = some b)
    (horiginal : originalEntryPoint s m = s.getEntryPoint m)
    (hcurrent : originalEntryPoint s b = s.getEntryPoint b ∨
      order.saved.idxOf m < order.saved.idxOf b) :
    Undressed art s order rest (dressDown art u m saved) := by
  have hbackup : saved.backup = some b := (backup_of_saved hc ho hv).trans hm
  obtain ⟨he, hd, hl⟩ := dressUp_of_hooked hc ho hm
  rw [hl] at hv
  obtain rfl := Option.some.inj hv
  obtain ⟨hbe, hbd, -⟩ := dressUp_of_not_mem ho
    (Registry.isHooked_eq_none.1 (hc.isHooked_backup hm))
  obtain ⟨hdb, heb⟩ := h b
  obtain ⟨hdm, hem⟩ := h m
  rw [if_pos List.mem_cons_self] at hdm hem
  have hdata : u.getData m = u.getData b := by
    rw [hdm, hdb]
    split_ifs
    · exact hd.trans hbd.symm
    · exact hd
  have hentry : u.getEntryPoint m = u.getEntryPoint b := by
    rw [hem, heb]
    split_ifs with hb
    · exact he.trans hbe.symm
    · exact he.trans (originalEntryPoint_of_visited hc ho horder hcurrent hb)
  have hpass := fun n => dressDown_of_hooked art n hbackup hdata hentry
  refine h.next hrest (fun n hn => ?_) ?_ ?_
  · rw [(hpass n).1, (hpass n).2, if_neg hn, if_neg hn]
    exact ⟨rfl, rfl⟩
  · rw [(hpass m).1, if_pos rfl]
  · rw [(hpass m).2, if_pos rfl]
    exact horiginal

end Pass

/-- **Where the records are current, nothing shows.** -/
theorem unchanged_of_recordsCurrent (hc : Coherent art s) (ho : order.Of art s)
    (h : RecordsCurrent s order) : Unchanged s (mapBootImageMethods art s [] order) := by
  have hloop : Undressed art s order [] (mapBootImageMethods art s [] order) := by
    rw [mapBootImageMethods_eq]
    refine Table.forEach_rec ho.2.2 (fun n => ?_)
      fun visited m rest u saved horder hrest hv hu => ?_
    · split_ifs with hn
      · exact ⟨rfl, rfl⟩
      · obtain ⟨hd, he, -⟩ := dressUp_of_not_mem_saved hc ho hn
        exact ⟨hd, he⟩
    · cases hm : s.isHooked m with
      | none => exact hu.deoptimized hc ho hrest hv hm
      | some b =>
        obtain ⟨horiginal, hcurrent⟩ := h m b hm
        exact hu.hooked hc ho hrest hv horder hm horiginal hcurrent
  intro n
  simpa only [List.not_mem_nil, if_false] using hloop n

/-- **A backup visited before its target** ends up with what is recorded of
it. -/
theorem getEntryPoint_mapBootImageMethods_backup (hc : Coherent art s) (ho : order.Of art s)
    (hb : s.isHooked t = some b) (hlt : order.saved.idxOf b < order.saved.idxOf t) :
    (mapBootImageMethods art s [] order).getEntryPoint b = originalEntryPoint s b := by
  obtain ⟨he, -, hl⟩ := dressUp_of_hooked hc ho hb
  have hbt : b ≠ t := hc.ne_backup (Registry.mem_hookedMethods.2 ⟨b, hb⟩) hb
  obtain ⟨o₁, o₂, horder⟩ := List.append_of_mem (mem_saved_of_lookup ho hl)
  have hnd := ho.2.2.nodup
  rw [horder, List.nodup_append] at hnd
  obtain ⟨-, hnd₂, hdisj⟩ := hnd
  have ht₁ : t ∉ o₁ := fun h => hdisj t h t List.mem_cons_self rfl
  have hb₁ : b ∈ o₁ := by
    by_contra hb₁
    rw [horder, List.idxOf_append_of_notMem hb₁, List.idxOf_append_of_notMem ht₁,
      List.idxOf_cons_self] at hlt
    omega
  have hb₂ : b ∉ o₂ := fun h => hdisj b hb₁ b (List.mem_cons_of_mem t h) rfl
  rw [mapBootImageMethods_eq, horder, Table.forEach_append, Table.forEach_cons_some hl]
  -- nothing but its own pass touches the target, nothing after it the backup
  refine Table.forEach_induction (P := fun u : State =>
    u.getEntryPoint b = originalEntryPoint s b) ?_ fun u n saved hn hv hu => ?_
  · rw [getEntryPoint_dressDown_backup art _ rfl hbt]
    refine Table.forEach_induction (P := fun u : State =>
      u.getEntryPoint t = originalEntryPoint s b) he fun u n saved hn hv hu => ?_
    have hne : t ≠ n := fun he => ht₁ (he ▸ hn)
    rw [getEntryPoint_dressDown_of_ne hne]
    · exact hu
    · rw [backup_of_saved hc ho hv]
      exact fun he => hc.ne_backup (Registry.mem_hookedMethods.2 ⟨b, hb⟩) he rfl
  · have hne : b ≠ n := fun he => hb₂ (he ▸ hn)
    rw [getEntryPoint_dressDown_of_ne hne]
    · exact hu
    · rw [backup_of_saved hc ho hv]
      intro he
      rw [hc.backup_injective he hb] at hn
      exact (List.nodup_cons.1 hnd₂).1 hn

/-- **When a remapping in which ART does nothing shows**: in a coherent
state, exactly where a record is not current. -/
theorem unchanged_iff_recordsCurrent (hc : Coherent art s) (ho : order.Of art s) :
    Unchanged s (mapBootImageMethods art s [] order) ↔ RecordsCurrent s order := by
  constructor
  · intro h t b hb
    have hmem : t ∈ s.hookedMethods := Registry.mem_hookedMethods.2 ⟨b, hb⟩
    refine ⟨(getEntryPoint_mapBootImageMethods_hooked hc ho hmem).symm.trans (h t).2, ?_⟩
    rcases Nat.lt_trichotomy (order.saved.idxOf t) (order.saved.idxOf b) with hlt | heq | hlt
    · exact Or.inr hlt
    · -- a target is in the map, so it shares its place with nothing
      have ht := mem_saved_of_lookup ho (dressUp_of_hooked hc ho hb).2.2
      exact absurd (List.idxOf_inj ht |>.1 heq).symm (hc.ne_backup hmem hb)
    · exact Or.inl ((getEntryPoint_mapBootImageMethods_backup hc ho hb hlt).symm.trans (h b).2)
  · exact unchanged_of_recordsCurrent hc ho

/-- **`MapBootImageMethods` when ART does nothing.** Wherever a run leads
and whatever order its loops take, every method has its data pointer and
entry point afterwards if and only if what is recorded of each hooked
method and its backup is current, or the target is visited first. -/
theorem idleRemapping_unchanged_iff {heap : ArtMethodPtr → ArtMethod} {mem : Memory}
    {ids : List ℕ} {owner : ℕ → ArtMethodPtr} {es : List Event}
    (hL : (machine art).Legal (State.initial heap mem ids owner) es) (order : MapOrder)
    (ho : order.Of art ((machine art).exec (State.initial heap mem ids owner) es)) :
    let s := (machine art).exec (State.initial heap mem ids owner) es
    Unchanged s (mapBootImageMethods art s [] order) ↔ RecordsCurrent s order :=
  unchanged_iff_recordsCurrent (coherent_exec coherent_initial hL) ho

/-- Method 110 hooked, and its code updated since. -/
def sampleUpdated : List Event :=
  [sampleHook 110 210 211 (some 65536), .updateMethodsCode 110 4321 4321]

/-- The backup visited before its target. -/
def sampleBackupFirst : MapOrder where
  deoptimized := [211]
  hooked := [110]
  saved := [211, 110]

/-- **A code update undone by a remapping in which ART does nothing**: the
update went to the backup, and the remapping puts the backup back to what
it was when it was recorded. -/
theorem idleRemapping_undoes_update :
    let s := (machine sampleArt).exec (sampleState kAccPublic) sampleUpdated
    (machine sampleArt).Legal (sampleState kAccPublic) sampleUpdated ∧
      sampleBackupFirst.Of sampleArt s ∧
      ¬ Unchanged s (mapBootImageMethods sampleArt s [] sampleBackupFirst) := by
  refine ⟨by decide, by decide, fun h => ?_⟩
  exact absurd (h 211).2 (by decide)

/-- A remapping it is about: right after the hook, in the same order. -/
theorem idleRemapping_unchanged_iff_sample :
    let s := (machine sampleArt).exec (sampleState kAccPublic)
      [sampleHook 110 210 211 (some 65536)]
    Unchanged s (mapBootImageMethods sampleArt s [] sampleBackupFirst) := by
  intro s
  have hL : (machine sampleArt).Legal (sampleState kAccPublic)
      [sampleHook 110 210 211 (some 65536)] := by decide
  refine (idleRemapping_unchanged_iff hL sampleBackupFirst (by decide)).2 fun t b hb => ?_
  have ht : t = 110 := by
    have hmem : t ∈ s.hookedMethods := Registry.mem_hookedMethods.2 ⟨b, hb⟩
    have hone : ∀ t ∈ s.hookedMethods, t = 110 := by decide
    exact hone t hmem
  subst t
  have hb' : b = 211 := by
    have h211 : s.isHooked 110 = some 211 := by decide
    exact Option.some.inj (hb.symm.trans h211)
  subst b
  decide

end LSPlant
