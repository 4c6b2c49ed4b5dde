import LSPlant.Art.PendingBackups
import LSPlant.Restore
/-!
# A class initialisation from end to end

Between the snapshot and its restoration ART rewrites static entry
points. Where no snapshot of the class is pending before, the one taken
is the one popped: a hooked method is in it with the entry point it has,
its backup is not, and whatever ART has installed on the method in between
goes to the backup.
-/

namespace LSPlant

variable {art : Art} {s u : State} {t b m n : ArtMethodPtr} {e old : EntryPoint}
  {cd c : ClassDefPtr} {self th : ThreadPtr} {order : RestoreOrder}
  {bm : Table ThreadPtr (Table ClassDefPtr BackupMethods)}

/-- **No thread holds a snapshot of the class.** -/
def NotPending (bm : Table ThreadPtr (Table ClassDefPtr BackupMethods)) (c : ClassDefPtr) : Prop :=
  ∀ th classes, bm.lookup th = some classes → classes.lookup c = none

/-- **The restoration of a class's initialisation**: by the class, or by
the thread that initialised it. -/
def Restores (c : ClassDefPtr) (self : ThreadPtr) (cd : ClassDefPtr) (th : ThreadPtr) : Prop :=
  c ≠ nullptr ∧ (cd = c ∨ cd = nullptr ∧ th = self ∧ self ≠ nullptr)

/-! ## The snapshot -/

/-- **What is taken is pending**, if nothing of the class was. -/
theorem lookup_backupClassMethods (hnull : c ≠ nullptr) (hnone : NotPending s.backupMethods c)
    (h : (classSnapshot s c).lookup m = some e) :
    snapshotEntry (backupClassMethods s c self).backupMethods self c m = some e := by
  have hne : ¬ Table.IsEmpty (classSnapshot s c) := fun hempty => by
    rw [Table.isEmpty_iff.1 hempty] at h
    cases h
  have hc : c ∉ (s.backupMethods.lookup self).getD ∅ := by
    cases hself : s.backupMethods.lookup self with
    | none => exact Finmap.notMem_empty
    | some classes => exact Finmap.lookup_eq_none.1 (hnone self classes hself)
  unfold backupClassMethods
  rw [if_neg hnull, if_neg hne, snapshotEntry, Table.lookup_insert_eq, if_pos rfl,
    Option.bind_some, Table.lookup_emplace_self hc, Option.bind_some, h]

/-- And it is the only snapshot of the class. -/
theorem lookup_backupClassMethods_of_ne (hnone : NotPending s.backupMethods c)
    {classes : Table ClassDefPtr BackupMethods} (hth : th ≠ self)
    (h : (backupClassMethods s c self).backupMethods.lookup th = some classes) :
    classes.lookup c = none := by
  unfold backupClassMethods at h
  split_ifs at h
  · exact hnone th classes h
  · exact hnone th classes h
  · simp only [Table.lookup_insert_eq, if_neg hth] at h
    exact hnone th classes h

/-! ## What is popped -/

/-- **The one entry pending for a method is the one found.** -/
theorem pendingEntry_eq_some (hr : Restores c self cd th) (ho : order.Of s cd th)
    (h : snapshotEntry s.backupMethods self c m = some e)
    (huniq : ∀ th' c' e', snapshotEntry s.backupMethods th' c' m = some e' → e' = e) :
    pendingEntry s.backupMethods cd th order m = some e := by
  obtain ⟨classes, hself, hclass⟩ := Option.bind_eq_some_iff.1 h
  -- the search cannot fail, and finds nothing else
  have hfind : ∀ {α : Type} (l : List α) (f : α → Option EntryPoint) (a : α), a ∈ l →
      f a = some e → (∀ a e', f a = some e' → e' = e) → l.findSome? f = some e := by
    intro α l f a ha hfa hf
    cases hl : l.findSome? f with
    | none => rw [List.findSome?_eq_none_iff.1 hl a ha] at hfa; cases hfa
    | some e' =>
      obtain ⟨x, -, hx⟩ := List.exists_of_findSome?_eq_some hl
      rw [hf x e' hx]
  unfold pendingEntry
  obtain ⟨hnull, hcd | ⟨hcd, hth, hne⟩⟩ := hr
  · subst hcd
    rw [if_pos hnull]
    have hmem : self ∈ order.threads :=
      (ho.1 hnull).mem_iff.2 (Table.mem_iff_lookup.2 ⟨classes, hself⟩)
    exact hfind _ _ self hmem h fun th' e' he => huniq th' cd e' he
  · subst hcd hth
    rw [if_neg fun hn => hn rfl, if_pos hne]
    obtain ⟨methods, hmethods, -⟩ := Option.bind_eq_some_iff.1 hclass
    have hmem : c ∈ order.classes := by
      have hof := ho.2.1 rfl
      rw [hself, Option.getD_some] at hof
      exact hof.mem_iff.2 (Table.mem_iff_lookup.2 ⟨methods, hmethods⟩)
    exact hfind _ _ c hmem h fun c' e' he => huniq th c' e' he

theorem pendingEntry_eq_none (h : ∀ th' c', snapshotEntry bm th' c' m = none) :
    pendingEntry bm cd th order m = none := by
  cases hp : pendingEntry bm cd th order m with
  | none => rfl
  | some e =>
    obtain ⟨th', c', he⟩ := snapshotEntry_of_pendingEntry hp
    rw [h th' c'] at he
    cases he

/-- **Nothing of the class is pending once it is restored.** -/
theorem notPending_popBackup (hr : Restores c self cd th) (ho : order.Of s cd th)
    (honly : ∀ th' classes, th' ≠ self → s.backupMethods.lookup th' = some classes →
      classes.lookup c = none) :
    NotPending (popBackup s.backupMethods cd th order).2 c := by
  intro th' rest hrest
  obtain ⟨hnull, hcd | ⟨hcd, hth, hne⟩⟩ := hr
  · subst hcd
    rw [lookup_popBackup_snd hnull] at hrest
    split at hrest
    · obtain ⟨classes, -, hleft⟩ := Option.bind_eq_some_iff.1 hrest
      rw [(eq_of_leftOver hleft).1, Table.lookup_erase_eq, if_pos rfl]
    · rename_i hnot
      have hmem := (ho.1 hnull).mem_iff.2 (Table.mem_iff_lookup.2 ⟨rest, hrest⟩)
      exact absurd hmem hnot
  · subst hcd hth
    rw [lookup_popBackup_snd_thread hne] at hrest
    split at hrest
    · exact absurd hrest nofun
    · rename_i hother
      exact honly th' rest hother hrest

/-! ## What is restored -/

/-- **The backup of a restored method** gets what ART has installed there
in between. -/
theorem getEntryPoint_restoreBackup_backup (hc : Coherent art s) (ho : order.Of s cd th)
    (hb : s.isHooked t = some b) (hd : ¬ s.isDeoptimized t)
    (hpb : pendingEntry s.backupMethods cd th order b = none)
    (hp : pendingEntry s.backupMethods cd th order t = some old) :
    (restoreBackup art s cd th order).getEntryPoint b =
      if s.getEntryPoint t ≠ old then s.getEntryPoint t else s.getEntryPoint b := by
  have ht : t ∈ s.hookedMethods := Registry.mem_hookedMethods.2 ⟨b, hb⟩
  let read (u : State) := (u.getEntryPoint t, u.getEntryPoint b)
  have hread : read (restoreBackup art s cd th order) =
      (fun x : EntryPoint × EntryPoint => (old, if x.1 ≠ old then x.1 else x.2)) (read s) := by
    rw [restoreBackup_eq]
    refine Table.forEach_read (f := read) (I := SameRegistry s)
      (g := fun x => (old, if x.1 ≠ old then x.1 else x.2)) (s := popped s cd th order)
      sameRegistry_popped (fun u n e hu => hu.trans SameRegistry.restoreMethod) ho.2.2.nodup
      ((mem_restoreOrder ho).2 ⟨old, hp⟩) (by rw [lookup_popBackup, hp]) (fun u hu => ?_)
      fun u n e hu hn hne he => ?_
    · have hub : u.isHooked t = some b := by rw [hu.toRegistry]; exact hb
      have hud : ¬ u.isDeoptimized t := by rw [hu.toRegistry]; exact hd
      have hbt : b ≠ t := hc.ne_backup ht hb
      simp only [read, getEntryPoint_restoreMethod_hooked hub hbt, if_true, if_neg hbt, hud,
        not_false_eq_true, true_and]
    · -- the pass of another method touches neither: its backup is another
      have hucoh : Coherent art u := hc.congr hu.sameHooks
      have hut : t ∈ u.hookedMethods := by rw [hu.toRegistry]; exact ht
      have hub : u.isHooked t = some b := by rw [hu.toRegistry]; exact hb
      have hnb : b ≠ n := by
        rintro rfl
        rw [lookup_popBackup, hpb] at he
        cases he
      have h1 : (restoreMethod art u n e).getEntryPoint t = u.getEntryPoint t :=
        getEntryPoint_restoreMethod_of_ne hucoh (Ne.symm hne)
        fun hcontra => hucoh.ne_backup hut hcontra rfl
      have h2 : (restoreMethod art u n e).getEntryPoint b = u.getEntryPoint b :=
        getEntryPoint_restoreMethod_of_ne hucoh hnb
        fun hcontra => hne (hucoh.backup_injective hcontra hub)
      simp only [read, h1, h2]
  exact congrArg (·.2) hread

/-- **A method of no snapshot**, no backup either, is not touched. -/
theorem getEntryPoint_restoreBackup_of_none (hc : Coherent art s) (hn : n ∉ s.backupedMethods)
    (hp : pendingEntry s.backupMethods cd th order n = none) :
    (restoreBackup art s cd th order).getEntryPoint n = s.getEntryPoint n := by
  rw [restoreBackup_eq]
  refine Table.forEach_read_of_untouched (f := fun u : State => u.getEntryPoint n)
    (I := SameRegistry s) sameRegistry_popped (fun u m e hu => hu.trans SameRegistry.restoreMethod)
    fun u m e hu _ he => ?_
  refine getEntryPoint_restoreMethod_of_ne (hc.congr hu.sameHooks) ?_ fun hb => hn ?_
  · rintro rfl
    rw [lookup_popBackup, hp] at he
    cases he
  · rw [hu.toRegistry] at hb
    exact hc.mem_backuped.2 ⟨m, hb⟩

/-! ## The whole -/

/-- **A class's initialisation**: the snapshot, what ART rewrites, and the
snapshot restored. -/
def initializeClass (art : Art) (s : State) (c : ClassDefPtr) (self : ThreadPtr)
    (cd : ClassDefPtr) (th : ThreadPtr) (rewritten : List (ArtMethodPtr × ℕ))
    (order : RestoreOrder) : State :=
  fixupStaticTrampolines art (backupClassMethods s c self) cd th rewritten order

variable {rewritten : List (ArtMethodPtr × ℕ)}

theorem sameRegistry_initializeClass :
    SameRegistry s (initializeClass art s c self cd th rewritten order) :=
  SameRegistry.backupClassMethods.trans SameRegistry.fixupStaticTrampolines

theorem backupMethods_initializeClass :
    (initializeClass art s c self cd th rewritten order).backupMethods =
      (popBackup (backupClassMethods s c self).backupMethods cd th order).2 := by
  unfold initializeClass fixupStaticTrampolines
  rw [backupMethods_restoreBackup, backupMethods_artInstall]

theorem getData_initializeClass :
    (initializeClass art s c self cd th rewritten order).getData n = s.getData n := by
  unfold initializeClass fixupStaticTrampolines
  rw [getData_restoreBackup, getData_artInstall]
  exact congrArg (fun heap => (heap n).data) backupClassMethods_heap

section Whole

variable (hr : Restores c self cd th) (hn : NotPending s.backupMethods c)
  (ho : order.Of (backupClassMethods s c self) cd th)
include hr hn ho

/-- **It leaves nothing of the class pending**, -/
theorem notPending_initializeClass :
    NotPending (initializeClass art s c self cd th rewritten order).backupMethods c := by
  rw [backupMethods_initializeClass]
  exact notPending_popBackup hr ho fun th' classes hth hl =>
    lookup_backupClassMethods_of_ne hn hth hl

/-- and nothing of a method of which nothing was. -/
theorem snapshotEntry_initializeClass
    (hm : ∀ th' c', snapshotEntry s.backupMethods th' c' m = none) (th' : ThreadPtr)
    (c' : ClassDefPtr) :
    snapshotEntry (initializeClass art s c self cd th rewritten order).backupMethods th' c' m =
      none := by
  have hnot : NotPending (initializeClass art s c self cd th rewritten order).backupMethods c :=
    notPending_initializeClass hr hn ho
  rw [backupMethods_initializeClass] at hnot ⊢
  cases he : snapshotEntry (popBackup (backupClassMethods s c self).backupMethods cd th order).2
      th' c' m with
  | none => rfl
  | some e =>
    rcases snapshotEntry_backupClassMethods (snapshotEntry_popBackup he) with hs | ⟨hc', -, -⟩
    · rw [hm] at hs
      cases hs
    · obtain ⟨classes, hl, hc⟩ := Option.bind_eq_some_iff.1 he
      rw [hc', hnot th' classes hl] at hc
      cases hc

/-- **A method finds the entry point its class's snapshot took**, if it
took one, and nothing otherwise. -/
theorem pendingEntry_initializeClass
    (hm : ∀ th' c', snapshotEntry s.backupMethods th' c' m = none) :
    pendingEntry (backupClassMethods s c self).backupMethods cd th order m =
      (classSnapshot s c).lookup m := by
  cases hs : (classSnapshot s c).lookup m with
  | none =>
    refine pendingEntry_eq_none fun th' c' => ?_
    cases he : snapshotEntry (backupClassMethods s c self).backupMethods th' c' m with
    | none => rfl
    | some e =>
      rcases snapshotEntry_backupClassMethods he with h | ⟨-, -, h⟩
      · rw [hm] at h
        cases h
      · rw [hs] at h
        cases h
  | some e =>
    refine pendingEntry_eq_some hr ho (lookup_backupClassMethods hr.1 hn hs) fun th' c' e' he => ?_
    rcases snapshotEntry_backupClassMethods he with h | ⟨-, -, h⟩
    · rw [hm] at h
      cases h
    · exact Option.some.inj (h.symm.trans hs)

/-- **A method that is neither hooked nor deoptimized** has what ART left
there. -/
theorem getEntryPoint_initializeClass_of_not_taken (hc : Coherent art s)
    (hb : n ∉ s.backupedMethods) (hm : ∀ th' c', snapshotEntry s.backupMethods th' c' n = none)
    (hs : (classSnapshot s c).lookup n = none) :
    (initializeClass art s c self cd th rewritten order).getEntryPoint n =
      (artInstall (backupClassMethods s c self) rewritten).getEntryPoint n := by
  have h := SameRegistry.backupClassMethods.trans
    (sameRegistry_artInstall (backupClassMethods s c self) rewritten)
  refine getEntryPoint_restoreBackup_of_none (hc.congr h.sameHooks) ?_ ?_
  · rw [h.toRegistry]
    exact hb
  · rw [backupMethods_artInstall, pendingEntry_initializeClass hr hn ho hm, hs]

/-- **A hooked static method keeps its entry point**, -/
theorem getEntryPoint_initializeClass_hooked (hc : Coherent art s) (ht : t ∈ s.hookedMethods)
    (hm : ∀ th' c', snapshotEntry s.backupMethods th' c' t = none)
    (hs : (classSnapshot s c).lookup t = some old) :
    (initializeClass art s c self cd th rewritten order).getEntryPoint t = old := by
  have h := SameRegistry.backupClassMethods.trans
    (sameRegistry_artInstall (backupClassMethods s c self) rewritten)
  have hread := getEntryPoint_restoreBackup_hooked (hc.congr h.sameHooks) ho.artInstall
    (show t ∈ (artInstall (backupClassMethods s c self) rewritten).hookedMethods by
      rw [h.toRegistry]; exact ht)
  rw [backupMethods_artInstall, pendingEntry_initializeClass hr hn ho hm, hs] at hread
  exact hread

/-- and its backup gets what ART left there, if that is something else. -/
theorem getEntryPoint_initializeClass_backup (hc : Coherent art s) (hb : s.isHooked t = some b)
    (hd : ¬ s.isDeoptimized t) (hm : ∀ th' c', snapshotEntry s.backupMethods th' c' t = none)
    (hs : (classSnapshot s c).lookup t = some old)
    (hmb : ∀ th' c', snapshotEntry s.backupMethods th' c' b = none)
    (hsb : (classSnapshot s c).lookup b = none) :
    (initializeClass art s c self cd th rewritten order).getEntryPoint b =
      if (artInstall (backupClassMethods s c self) rewritten).getEntryPoint t ≠ old
      then (artInstall (backupClassMethods s c self) rewritten).getEntryPoint t
      else (artInstall (backupClassMethods s c self) rewritten).getEntryPoint b := by
  have h := SameRegistry.backupClassMethods.trans
    (sameRegistry_artInstall (backupClassMethods s c self) rewritten)
  refine getEntryPoint_restoreBackup_backup (hc.congr h.sameHooks) ho.artInstall ?_ ?_ ?_ ?_
  · rw [h.toRegistry]
    exact hb
  · rw [h.toRegistry]
    exact hd
  · rw [backupMethods_artInstall, pendingEntry_initializeClass hr hn ho hmb, hsb]
  · rw [backupMethods_artInstall, pendingEntry_initializeClass hr hn ho hm, hs]

end Whole

end LSPlant
