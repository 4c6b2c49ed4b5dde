import LSPlant.Restore
/-!
# What remapping the boot image leaves

The three loops of `MapBootImageMethods`. After the first two, every
deoptimized method shows its original entry point, every hooked method
what its backup shows, and the local map holds what each showed before.
A method that is both shows its backup's, and the map holds the entry
point *recorded when it was deoptimized*, which the third loop then puts
back whatever ART has done.
-/

namespace LSPlant

variable {art : Art} {s u : State} {t b m n : ArtMethodPtr} {order : MapOrder}
  {acc : State × Table ArtMethodPtr SavedMethod} {saved : SavedMethod}

/-- What a method shows once the deoptimized ones are dressed up. -/
def originalEntryPoint (s : State) (m : ArtMethodPtr) : EntryPoint :=
  (s.deoptimizedMethods.lookup m).getD (s.getEntryPoint m)

/-! ## The first loop -/

/-- The state after the first loop. -/
def dressUpDeoptimized (art : Art) (s : State) (order : MapOrder) :
    State × Table ArtMethodPtr SavedMethod :=
  Table.forEach order.deoptimized s.deoptimizedMethods (saveDeoptimized art) (s, ∅)

theorem dressUpDeoptimized_spec (ho : order.Of art s) (m : ArtMethodPtr) :
    (dressUpDeoptimized art s order).1.getEntryPoint m = originalEntryPoint s m ∧
      (dressUpDeoptimized art s order).1.getData m = s.getData m ∧
      (dressUpDeoptimized art s order).2.lookup m = (s.deoptimizedMethods.lookup m).map fun _ =>
        { backup := none, data := s.getData m, entryPoint := s.getEntryPoint m } := by
  let read (acc : State × Table ArtMethodPtr SavedMethod) :=
    (acc.1.getEntryPoint m, acc.1.getData m, acc.2.lookup m)
  have hothers : ∀ (acc : State × Table ArtMethodPtr SavedMethod) n e, True → n ≠ m →
      read (saveDeoptimized art acc n e) = read acc := fun acc n e _ hn => by
    simp only [read, saveDeoptimized, State.getEntryPoint_setEntryPoint_of_ne (Ne.symm hn),
      State.getData_setEntryPoint, Table.lookup_insert_eq, if_neg (Ne.symm hn)]
  have hspec : read (dressUpDeoptimized art s order) =
      (originalEntryPoint s m, s.getData m, (s.deoptimizedMethods.lookup m).map fun _ =>
        { backup := none, data := s.getData m, entryPoint := s.getEntryPoint m }) := by
    unfold originalEntryPoint
    cases hm : s.deoptimizedMethods.lookup m with
    | none =>
      refine Table.forEach_read_of_untouched (f := read) (I := fun _ => True) trivial
        (fun _ _ _ _ => trivial) fun acc n e hI hn he => hothers acc n e hI fun hnm => ?_
      rw [hnm, hm] at he
      cases he
    | some e =>
      have hmem : m ∈ order.deoptimized := ho.1.mem_iff.2 (Table.mem_iff_lookup.2 ⟨e, hm⟩)
      refine (Table.forEach_read (f := read) (I := fun _ => True)
        (g := fun x => (e, x.2.1, some { backup := none, data := x.2.1, entryPoint := x.1 }))
        trivial (fun _ _ _ _ => trivial) ho.1.nodup hmem hm (fun acc _ => ?_)
        fun acc n w hI _ hn _ => hothers acc n w hI hn).trans rfl
      simp only [read, saveDeoptimized, State.getEntryPoint_setEntryPoint, if_true,
        State.getData_setEntryPoint, Table.lookup_insert_eq]
  exact ⟨congrArg (·.1) hspec, congrArg (·.2.1) hspec, congrArg (·.2.2) hspec⟩

/-! ## The second loop -/

theorem dressUp_eq : dressUp art s order =
    Table.forEach order.hooked s.hookedMethods (saveHooked art)
      (dressUpDeoptimized art s order) := rfl

variable (art acc) in
/-- The pass of another method leaves what this one shows. -/
theorem saveHooked_of_ne (record : HookRecord) (hn : n ≠ m) :
    (saveHooked art acc n record).1.getEntryPoint m = acc.1.getEntryPoint m ∧
      (saveHooked art acc n record).1.getData m = acc.1.getData m ∧
      (saveHooked art acc n record).2.lookup m = acc.2.lookup m := by
  simp only [saveHooked, State.getEntryPoint_setEntryPoint_of_ne (Ne.symm hn),
    State.getEntryPoint_setData, State.getData_setEntryPoint, State.getData_setData,
    if_neg (Ne.symm hn), Table.lookup_insert_eq, and_self]

/-- **A method that is not hooked** shows its original entry point. -/
theorem dressUp_of_not_mem (ho : order.Of art s) (hm : m ∉ s.hookedMethods) :
    (dressUp art s order).1.getEntryPoint m = originalEntryPoint s m ∧
      (dressUp art s order).1.getData m = s.getData m ∧
      (dressUp art s order).2.lookup m = (s.deoptimizedMethods.lookup m).map fun _ =>
        { backup := none, data := s.getData m, entryPoint := s.getEntryPoint m } := by
  obtain ⟨he, hd, hl⟩ := dressUpDeoptimized_spec ho m
  let read (acc : State × Table ArtMethodPtr SavedMethod) :=
    (acc.1.getEntryPoint m, acc.1.getData m, acc.2.lookup m)
  have hread : read (dressUp art s order) = read (dressUpDeoptimized art s order) := by
    rw [dressUp_eq]
    refine Table.forEach_read_of_untouched (f := read) (I := fun _ => True) trivial
      (fun _ _ _ _ => trivial) fun acc n record _ _ hn => ?_
    obtain ⟨h1, h2, h3⟩ := saveHooked_of_ne art acc record
      (n := n) (m := m) fun hnm => hm (hnm ▸ Table.mem_iff_lookup.2 ⟨record, hn⟩)
    simp only [read, h1, h2, h3]
  exact ⟨(congrArg (·.1) hread).trans he, (congrArg (·.2.1) hread).trans hd,
    (congrArg (·.2.2) hread).trans hl⟩

/-- **A hooked method** shows what its backup shows, and the map holds what
the method itself showed after the first loop. -/
theorem dressUp_of_hooked (hc : Coherent art s) (ho : order.Of art s)
    (hb : s.isHooked m = some b) :
    (dressUp art s order).1.getEntryPoint m = originalEntryPoint s b ∧
      (dressUp art s order).1.getData m = s.getData b ∧
      (dressUp art s order).2.lookup m = some
        { backup := some b, data := s.getData m, entryPoint := originalEntryPoint s m } := by
  obtain ⟨record, hrec, hrb⟩ := Registry.isHooked_eq_some.1 hb
  have hmem : m ∈ s.hookedMethods := Table.mem_iff_lookup.2 ⟨record, hrec⟩
  have hbm : b ≠ m := hc.ne_backup hmem hb
  have hbh : b ∉ s.hookedMethods := Registry.isHooked_eq_none.1 (hc.isHooked_backup hb)
  let read (acc : State × Table ArtMethodPtr SavedMethod) :=
    (acc.1.getEntryPoint m, acc.1.getData m, acc.2.lookup m, acc.1.getEntryPoint b,
      acc.1.getData b)
  have hread : read (dressUp art s order) = (fun x => (x.2.2.2.1, x.2.2.2.2,
      some { backup := some b, data := x.2.1, entryPoint := x.1 }, x.2.2.2.1, x.2.2.2.2))
        (read (dressUpDeoptimized art s order)) := by
    rw [dressUp_eq]
    refine Table.forEach_read (f := read) (I := fun _ => True) (g := fun x =>
      (x.2.2.2.1, x.2.2.2.2, some { backup := some b, data := x.2.1, entryPoint := x.1 },
        x.2.2.2.1, x.2.2.2.2)) trivial (fun _ _ _ _ => trivial) ho.2.1.nodup
      (ho.2.1.mem_iff.2 hmem) hrec (fun acc _ => ?_) fun acc n w _ _ hn hnw => ?_
    · simp only [read, saveHooked, hrb, State.getEntryPoint_setEntryPoint,
        State.getEntryPoint_setData, State.getData_setEntryPoint, State.getData_setData,
        Table.lookup_insert_eq, if_true, if_neg hbm]
    · obtain ⟨h1, h2, h3⟩ := saveHooked_of_ne art acc w hn
      obtain ⟨h4, h5, -⟩ := saveHooked_of_ne art acc w (n := n)
        (m := b) fun hnb => hbh (hnb ▸ Table.mem_iff_lookup.2 ⟨w, hnw⟩)
      simp only [read, h1, h2, h3, h4, h5]
  obtain ⟨hme, hmd, -⟩ := dressUpDeoptimized_spec ho m
  obtain ⟨hbe, hbd, -⟩ := dressUpDeoptimized_spec ho b
  refine ⟨(congrArg (·.1) hread).trans hbe, (congrArg (·.2.1) hread).trans hbd,
    (congrArg (·.2.2.1) hread).trans ?_⟩
  simp only [read, hme, hmd]

/-- **What the local map says of backups**: the backup of a hooked method,
none of any other. -/
theorem backup_of_saved (hc : Coherent art s) (ho : order.Of art s)
    (h : (dressUp art s order).2.lookup m = some saved) : saved.backup = s.isHooked m := by
  cases hm : s.isHooked m with
  | none =>
    rw [(dressUp_of_not_mem ho (Registry.isHooked_eq_none.1 hm)).2.2] at h
    obtain ⟨e, -, rfl⟩ := Option.map_eq_some_iff.1 h
    rfl
  | some b =>
    rw [(dressUp_of_hooked hc ho hm).2.2] at h
    obtain rfl := Option.some.inj h
    rfl

/-! ## The third loop -/

/-- A pass touches its method and, of a hooked one, the backup. -/
theorem getEntryPoint_dressDown_of_ne (hm : n ≠ m) (hb : saved.backup ≠ some n) :
    (dressDown art u m saved).getEntryPoint n = u.getEntryPoint n := by
  unfold dressDown
  split
  · split
    · exact State.getEntryPoint_setEntryPoint_of_ne hm
    · rfl
  · rename_i b hsb
    have hnb : n ≠ b := fun he => hb (by rw [hsb, he])
    split
    · rw [State.getEntryPoint_setEntryPoint_of_ne hm, State.getEntryPoint_setData]
    · simp only [State.getEntryPoint_setEntryPoint_of_ne hm,
        State.getEntryPoint_setEntryPoint_of_ne hnb, State.getEntryPoint_setData]

/-- **A method's own pass puts back the entry point of the map.** -/
theorem getEntryPoint_dressDown_self :
    (dressDown art u m saved).getEntryPoint m = saved.entryPoint := by
  unfold dressDown
  split
  · split
    · rw [State.getEntryPoint_setEntryPoint, if_pos rfl]
    · rename_i h
      exact not_not.1 h
  · split <;> rw [State.getEntryPoint_setEntryPoint, if_pos rfl]

/-- **The pass of a hooked method leaves its backup with what the method
had**, which is what the backup has already where they are the same. -/
theorem getEntryPoint_dressDown_backup (art : Art) (u : State) (hb : saved.backup = some b)
    (hne : b ≠ m) : (dressDown art u m saved).getEntryPoint b = u.getEntryPoint m := by
  simp only [dressDown, hb]
  split
  · rename_i h
    rw [State.getEntryPoint_setEntryPoint_of_ne hne, State.getEntryPoint_setData]
    exact h.2.symm
  · rw [State.getEntryPoint_setEntryPoint_of_ne hne, State.getEntryPoint_setEntryPoint,
      if_pos rfl, State.getEntryPoint_setData]

/-! ## What ART remaps -/

/-- The last code ART remaps a method to, if any. -/
def lastRemapped (n : ArtMethodPtr) (remapped : List (ArtMethodPtr × ℕ × ℕ)) : Option ℕ :=
  lastInstalled n (remapped.map fun w => (w.1, w.2.2))

theorem getEntryPoint_artMapMethods {remapped : List (ArtMethodPtr × ℕ × ℕ)} :
    (artMapMethods u remapped).getEntryPoint n =
      (lastRemapped n remapped).elim (u.getEntryPoint n) .code := by
  induction remapped generalizing u with
  | nil => rfl
  | cons w remapped ih =>
    have hcons : artMapMethods u (w :: remapped) =
        artMapMethods ((u.setData w.1 w.2.1).artSetEntryPoint w.1 w.2.2) remapped := rfl
    rw [hcons, ih, State.getEntryPoint_artSetEntryPoint, State.getEntryPoint_setData]
    simp only [lastRemapped, List.map_cons, lastInstalled]
    cases lastInstalled n (remapped.map fun w => (w.1, w.2.2)) with
    | some c => rfl
    | none => simp only [Option.none_or, eq_comm (a := w.1)]; split <;> rfl

theorem mapBootImageMethods_eq {remapped : List (ArtMethodPtr × ℕ × ℕ)} :
    mapBootImageMethods art s remapped order =
      Table.forEach order.saved (dressUp art s order).2 (dressDown art)
        (artMapMethods (dressUp art s order).1 remapped) := rfl

/-- **A hooked method ends up with what it showed after the first loop**:
its own entry point, or the one recorded when it was deoptimized. -/
theorem getEntryPoint_mapBootImageMethods_hooked {remapped : List (ArtMethodPtr × ℕ × ℕ)}
    (hc : Coherent art s) (ho : order.Of art s) (ht : t ∈ s.hookedMethods) :
    (mapBootImageMethods art s remapped order).getEntryPoint t = originalEntryPoint s t := by
  obtain ⟨b, hb⟩ := Registry.mem_hookedMethods.1 ht
  obtain ⟨-, -, hl⟩ := dressUp_of_hooked hc ho hb
  rw [mapBootImageMethods_eq]
  refine (Table.forEach_read (f := fun u : State => u.getEntryPoint t) (I := fun _ => True)
    (g := fun _ => originalEntryPoint s t) trivial (fun _ _ _ _ => trivial) ho.2.2.nodup
    (ho.2.2.mem_iff.2 (Table.mem_iff_lookup.2 ⟨_, hl⟩)) hl
    (fun u _ => getEntryPoint_dressDown_self) fun u n w _ _ hn hw => ?_)
  refine getEntryPoint_dressDown_of_ne (Ne.symm hn) fun he => ?_
  rw [backup_of_saved hc ho hw] at he
  exact hc.ne_backup ht he rfl

/-- What a target of the method shows when ART is done. -/
def shownEntryPoint (s : State) (n : ArtMethodPtr) (remapped : List (ArtMethodPtr × ℕ × ℕ))
    (m : ArtMethodPtr) : EntryPoint :=
  (lastRemapped m remapped).elim (originalEntryPoint s n) .code

/-- **Where the third loop is with a deoptimized method**: after its own pass
it has its entry point, and the targets still to come show that one. -/
structure KeepsEntryPoint (s : State) (n : ArtMethodPtr) (remapped : List (ArtMethodPtr × ℕ × ℕ))
    (rest : List ArtMethodPtr) (u : State) : Prop where
  done : n ∉ rest → u.getEntryPoint n = s.getEntryPoint n ∧
    ∀ m ∈ rest, s.isHooked m = some n → shownEntryPoint s n remapped m = s.getEntryPoint n
  targets : ∀ m ∈ rest, s.isHooked m = some n → u.getEntryPoint m = shownEntryPoint s n remapped m

namespace KeepsEntryPoint

variable {remapped : List (ArtMethodPtr × ℕ × ℕ)} {rest : List ArtMethodPtr} {saved : SavedMethod}
  (h : KeepsEntryPoint s n remapped (m :: rest) u) (hbackup : saved.backup = s.isHooked m)
include h hbackup

/-- Targets whose pass is still to come are left alone. -/
theorem targets_dressDown (hc : Coherent art s) (hrest : m ∉ rest) {k : ArtMethodPtr}
    (hk : k ∈ rest) (hkn : s.isHooked k = some n) :
    (dressDown art u m saved).getEntryPoint k = shownEntryPoint s n remapped k := by
  have hne : k ≠ m := fun he => hrest (he ▸ hk)
  rw [getEntryPoint_dressDown_of_ne hne]
  · exact h.targets k (List.mem_cons_of_mem m hk) hkn
  · rw [hbackup]
    exact fun he => hc.ne_backup (Registry.mem_hookedMethods.2 ⟨n, hkn⟩) he rfl

/-- **Another method's pass**, after its own. -/
theorem other (hnm : n ≠ m) (hnot : n ∉ rest) :
    (dressDown art u m saved).getEntryPoint n = s.getEntryPoint n := by
  have hcons : n ∉ m :: rest := fun h => (List.mem_cons.1 h).elim hnm hnot
  obtain ⟨hentry, hshown⟩ := h.done hcons
  by_cases hmn : s.isHooked m = some n
  · have hsb : saved.backup = some n := hbackup.trans hmn
    rw [getEntryPoint_dressDown_backup art u hsb hnm, h.targets m List.mem_cons_self hmn]
    exact hshown m List.mem_cons_self hmn
  · rw [getEntryPoint_dressDown_of_ne hnm (by rw [hbackup]; exact hmn)]
    exact hentry

end KeepsEntryPoint

/-- A method visited later has the greater place. -/
theorem idxOf_le_of_visited {visited rest : List ArtMethodPtr} {k : ArtMethodPtr}
    (hnd : (visited ++ m :: rest).Nodup) (hk : k ∈ rest) :
    ¬ (visited ++ m :: rest).idxOf k < (visited ++ m :: rest).idxOf m := by
  have hdisjoint := List.disjoint_of_nodup_append hnd
  have hm : m ∉ visited := fun hv => hdisjoint hv List.mem_cons_self
  have hkv : k ∉ visited := fun hv => hdisjoint hv (List.mem_cons_of_mem m hk)
  rw [List.idxOf_append_of_notMem hm, List.idxOf_append_of_notMem hkv, List.idxOf_cons_self]
  omega

/-- **A deoptimized method that is not hooked** keeps its entry point, if
every target it is the backup of comes before it or shows that entry point
when ART is done. -/
theorem getEntryPoint_mapBootImageMethods_deoptimized (remapped : List (ArtMethodPtr × ℕ × ℕ))
    (hc : Coherent art s) (ho : order.Of art s) (hn : s.isHooked n = none)
    (hd : s.isDeoptimized n)
    (htarget : ∀ m, s.isHooked m = some n → order.saved.idxOf m < order.saved.idxOf n ∨
      (lastRemapped m remapped).elim (originalEntryPoint s n) .code = s.getEntryPoint n) :
    (mapBootImageMethods art s remapped order).getEntryPoint n = s.getEntryPoint n := by
  have hnh : n ∉ s.hookedMethods := Registry.isHooked_eq_none.1 hn
  obtain ⟨original, horiginal⟩ := Table.mem_iff_lookup.1 hd
  -- the map holds the method's own entry point, and no backup
  have hsaved : (dressUp art s order).2.lookup n = some
      { backup := none, data := s.getData n, entryPoint := s.getEntryPoint n } := by
    rw [(dressUp_of_not_mem ho hnh).2.2, horiginal]
    rfl
  have hmem : n ∈ order.saved := ho.2.2.mem_iff.2 (Table.mem_iff_lookup.2 ⟨_, hsaved⟩)
  have hloop : KeepsEntryPoint s n remapped [] (mapBootImageMethods art s remapped order) := by
    rw [mapBootImageMethods_eq]
    refine Table.forEach_rec ho.2.2 ⟨fun h => absurd hmem h, fun m _ hm => ?_⟩
      fun visited m rest u saved horder hrest hv h => ?_
    · rw [getEntryPoint_artMapMethods, (dressUp_of_hooked hc ho hm).1]
      rfl
    have hbackup : saved.backup = s.isHooked m := backup_of_saved hc ho hv
    refine ⟨fun hnot => ?_, fun k hk => h.targets_dressDown hbackup hc hrest hk⟩
    by_cases hnm : n = m
    · subst n
      rw [hsaved] at hv
      obtain rfl := Option.some.inj hv
      refine ⟨getEntryPoint_dressDown_self, fun k hk hkn => ?_⟩
      -- a target still to come was not before it
      refine (htarget k hkn).resolve_left ?_
      rw [horder]
      exact idxOf_le_of_visited (horder ▸ ho.2.2.nodup) hk
    · refine ⟨h.other hbackup hnm hnot, fun k hk => ?_⟩
      have hcons : n ∉ m :: rest := fun hmem => (List.mem_cons.1 hmem).elim hnm hnot
      exact (h.done hcons).2 k (List.mem_cons_of_mem m hk)
  exact (hloop.done List.not_mem_nil).1

end LSPlant
