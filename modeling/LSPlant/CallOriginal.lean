import LSPlant.Clean
/-!
# Calling the original

A backup that has a trampoline as entry point calls the hook when the
hook calls the original. Three steps can put one there: `Hook` of a
method that is not hooked and has a trampoline left; a registration that
changes the data pointer of a hooked native method, whose own entry point
is then handed to the backup together with the data; and a class restored
whose snapshot is of an earlier hook than the present one. A run without
such steps keeps every backup clean.
-/

namespace LSPlant

variable {art : Art} {s s' u : State} {t b m n : ArtMethodPtr} {e : Event}

/-- **Backups call the original**: no backup has a trampoline. -/
def BackupsClean (s : State) : Prop := CleanOn (· ∈ s.backupedMethods) s

/-- A registration changes the data pointer of no recorded method that has
a trampoline. -/
def RegistersClean (s : State) (methods : Table ArtMethodPtr NativeMethodState)
    (written : List (ArtMethodPtr × ℕ)) : Prop :=
  ∀ m ∈ methods, (artSetNatives s written).getData m = s.getData m ∨
    ¬ (s.getEntryPoint m).IsTrampoline

instance {methods : Table ArtMethodPtr NativeMethodState} {written : List (ArtMethodPtr × ℕ)} :
    Decidable (RegistersClean s methods written) :=
  inferInstanceAs (Decidable (∀ m ∈ methods, _ ∨ ¬ (s.getEntryPoint m).IsTrampoline))

/-- `HookMethod` calls `DoHook`: nothing refuses the request, and its class has
been built. -/
def ReachesDoHook (s : State) (request : HookRequest) : Prop :=
  reachesBuildDex s request = true ∧ request.built.isSome = true

instance (request : HookRequest) : Decidable (ReachesDoHook s request) :=
  inferInstanceAs (Decidable (_ ∧ _))

/-- **The step hands no backup a trampoline.** -/
def HandsBackupsCode (s : State) : Event → Prop
  | .hook request => ReachesDoHook s request → ∀ t ∈ request.target,
    ¬ (s.getEntryPoint t).IsTrampoline
  | .registerNatives natives written _ => RegistersClean s (registeredMethods s natives) written
  | .unregisterNatives visited written _ =>
    RegistersClean s (unregisteredMethods s visited) written
  | .fixupStaticTrampolines classDef self rewritten order =>
    SendsClean s classDef self rewritten order
  | _ => True

instance (s : State) : ∀ e, Decidable (HandsBackupsCode s e)
  | .hook request => inferInstanceAs (Decidable (ReachesDoHook s request →
      ∀ t ∈ request.target, ¬ (s.getEntryPoint t).IsTrampoline))
  | .registerNatives natives written _ =>
    inferInstanceAs (Decidable (RegistersClean s (registeredMethods s natives) written))
  | .unregisterNatives visited written _ =>
    inferInstanceAs (Decidable (RegistersClean s (unregisteredMethods s visited) written))
  | .fixupStaticTrampolines classDef self rewritten order =>
    inferInstanceAs (Decidable (SendsClean s classDef self rewritten order))
  | .unHook _ | .setHookEnabled _ _ | .deoptimize _ | .updateMethodsCode _ _ _
  | .registerNative _ _ | .unregisterNative _ _ | .backupClassMethods _ _
  | .mapBootImageMethods _ _ | .collect => isTrue trivial

/-- The events this is about. -/
def Event.mapsBootImage : Event → Bool
  | .mapBootImageMethods _ _ => true
  | _ => false

/-! ## Steps -/

theorem getData_updateNative_of_ne {saved : NativeMethodState} (hm : n ≠ m)
    (hb : n ≠ saved.backup) : (updateNative art u m saved).getData n = u.getData n := by
  unfold updateNative
  split
  · rfl
  · simp only [State.getData_setEntryPoint, State.getData_setData, if_neg hm, if_neg hb]

/-- **A registration hands no backup a trampoline** if it changes no data
pointer of a method that has one. -/
theorem cleanOn_withUpdater {methods : Table ArtMethodPtr NativeMethodState}
    {written : List (ArtMethodPtr × ℕ)} {order : List ArtMethodPtr} (hc : Coherent art s)
    (ho : Table.Enumerates order methods) (hr : RecordOf s methods) (hclean : BackupsClean s)
    (hreg : RegistersClean s methods written) :
    CleanOn (· ∈ s.backupedMethods) (withUpdater art s methods written order) := by
  refine Table.forEach_induction_fresh (P := CleanOn (· ∈ s.backupedMethods))
    (K := (· ∈ s.hookedMethods)) (f := fun m (u : State) => (u.getData m, u.getEntryPoint m))
    (r := fun m => ((artSetNatives s written).getData m, s.getEntryPoint m)) ho.nodup
    (fun m hm => by rw [getEntryPoint_artSetNatives]; exact hclean m hm)
    (fun m _ _ => by rw [getEntryPoint_artSetNatives]) ?_ ?_
  · intro u a n saved _ ha hn hsaved
    have hb : a ≠ saved.backup := (hc.ne_backup ha (hr n saved hsaved).1).symm
    rw [getData_updateNative_of_ne (Ne.symm hn) hb, getEntryPoint_updateNative,
      if_neg (Ne.symm hn), if_neg hb, ite_self]
  · intro u m saved hsaved hfresh hcl n hn
    obtain ⟨hb, hd, he, -⟩ := hr m saved hsaved
    have hmem : m ∈ s.hookedMethods := Registry.mem_hookedMethods.2 ⟨saved.backup, hb⟩
    obtain ⟨hud, hue⟩ := Prod.mk.inj (hfresh hmem)
    rw [getEntryPoint_updateNative]
    split
    · exact hcl n hn
    · rename_i hchanged
      have hnm : n ≠ m := fun h => hc.apart m hmem (h ▸ hn)
      rw [if_neg hnm]
      split
      · -- the data pointer is what changed: the entry point is the method's own
        rw [hue]
        refine (hreg m (Table.mem_iff_lookup.2 ⟨saved, hsaved⟩)).resolve_left fun hsame => ?_
        exact hchanged ⟨by rw [hud, hsame, hd], by rw [hue, he]⟩
      · exact hcl n hn

/-- **A hook of a clean method leaves the backups clean**, the new one
too. -/
theorem Hooked.backupsClean {request : HookRequest} {target : ArtMethodPtr} {stub : Stub}
    {a slot : ℕ} (h : Hooked art s request target stub a slot s')
    (hf : stub.Fresh art s target) (hclean : BackupsClean s)
    (ht : ¬ (s.getEntryPoint target).IsTrampoline) : BackupsClean s' := by
  intro n hn
  rw [h.backupedMethods, Table.mem_emplace] at hn
  rw [← State.view_entryPoint, h.view]
  have hnt : n ≠ target := by
    rintro rfl
    rcases hn with he | hn
    · exact hf.2.1 he.symm
    · exact h.notBackup hn
  rw [if_neg hnt]
  split
  · exact ht
  · rename_i hnb
    exact hclean n (hn.resolve_left hnb)

/-- Fresh backups have no pending snapshots. -/
theorem Hooked.snapshotsClean {request : HookRequest} {target : ArtMethodPtr} {stub : Stub}
    {a slot : ℕ} (h : Hooked art s request target stub a slot s')
    (hf : stub.Fresh art s target) (hsnap : SnapshotsClean s) : SnapshotsClean s' := by
  intro n hn th c e he
  rw [h.backupMethods] at he
  rw [h.backupedMethods, Table.mem_emplace] at hn
  rcases hn with rfl | hn
  · rw [hf.1.snapshotEntry] at he
    cases he
  · exact hsnap n hn th c e he

/-- The backups left by an `UnHook` were backups. -/
theorem UnHooked.mem_backuped {target : ArtMethodPtr} {record : HookRecord}
    (h : UnHooked art s target record s') (hn : n ∈ s'.backupedMethods) :
    n ∈ s.backupedMethods := by
  rw [h.toRegistry] at hn
  exact (Finmap.mem_erase.1 hn).2

theorem UnHooked.snapshotsClean {target : ArtMethodPtr} {record : HookRecord}
    (h : UnHooked art s target record s') (hsnap : SnapshotsClean s) : SnapshotsClean s' := by
  intro n hn th c e he
  rw [h.backupMethods] at he
  exact hsnap n (h.mem_backuped hn) th c e he

/-- **Snapshots of backups stay clean** as long as backups are. -/
theorem snapshotsClean_step (hsnap : SnapshotsClean s) (hclean : BackupsClean s)
    (hA : admissible art s e) : SnapshotsClean (step art s e) := by
  cases hhook : e.isHooking with
  | true =>
    cases e with
    | hook request =>
      show SnapshotsClean (hookMethod art s request).1
      rcases hookMethod_cases art s request (backup_ne_target hA) with
        ⟨T, -, h⟩ | ⟨target, stub, a, slot, s', h, hh⟩ <;> rw [h]
      · exact hsnap
      · exact hh.snapshotsClean (hA.1 target hh.target_eq stub hh.built_eq) hsnap
    | unHook tm =>
      show SnapshotsClean (unHook art s tm).1
      rcases unHook_cases art s tm with ⟨h, -⟩ | ⟨target, record, s', -, h, hu⟩ <;> rw [h]
      · exact hsnap
      · exact hu.snapshotsClean hsnap
    | setHookEnabled tm enabled =>
      show SnapshotsClean (setHookEnabled art s tm enabled).1
      rcases setHookEnabled_cases art s tm enabled with
        ⟨h, -⟩ | ⟨n, record, -, -, ⟨-, h⟩ | ⟨-, h⟩⟩ <;> rw [h] <;> exact hsnap
    | _ => cases hhook
  | false =>
    cases hinit : e.isInitialization with
    | true =>
      cases e with
      | backupClassMethods cd self => exact hsnap.backupClassMethods hclean
      | fixupStaticTrampolines cd self rewritten order => exact hsnap.fixup
      | _ => cases hinit
    | false =>
      unfold SnapshotsClean
      rw [backupMethods_step hA hinit, (sameHooks_step hhook).backupedMethods]
      exact hsnap

/-- Who gets a backup has got to `DoHook`. -/
theorem Hooked.reachesDoHook {request : HookRequest} {target : ArtMethodPtr} {stub : Stub}
    {a slot : ℕ} (hh : Hooked art s request target stub a slot s')
    (hbackup : hookMethod art s request = (s', some stub.backup)) : ReachesDoHook s request := by
  refine ⟨?_, by rw [hh.built_eq]; rfl⟩
  by_contra hnot
  rw [hookMethod_of_not_reaches art s (Bool.not_eq_true _ ▸ hnot)] at hbackup
  cases congrArg Prod.snd hbackup

/-- **A step that hands no backup a trampoline keeps the backups clean.** -/
theorem backupsClean_step (hc : Coherent art s) (hsnap : SnapshotsClean s)
    (hclean : BackupsClean s) (hA : admissible art s e) (hmap : e.mapsBootImage = false)
    (hG : HandsBackupsCode s e) : BackupsClean (step art s e) := by
  have hkeep : e.isHooking = false → CleanOn (· ∈ s.backupedMethods) (step art s e) →
      BackupsClean (step art s e) := fun h hcl => by
    unfold BackupsClean
    rw [(sameHooks_step h).backupedMethods]
    exact hcl
  -- what is left then can hand a backup what another method has
  by_cases hcode : e.installsCode = true
  · exact hkeep (e.isHooking_of_installsCode hcode)
      (hclean.installsCode (installsCode_step hc hcode))
  cases e with
  | hook request =>
    show BackupsClean (hookMethod art s request).1
    rcases hookMethod_cases art s request (backup_ne_target hA) with
      ⟨T, -, h⟩ | ⟨target, stub, a, slot, s', h, hh⟩ <;> rw [h]
    · exact hclean
    · exact hh.backupsClean (hA.1 target hh.target_eq stub hh.built_eq) hclean
        (hG (hh.reachesDoHook h) target hh.target_eq)
  | unHook tm =>
    show BackupsClean (unHook art s tm).1
    rcases unHook_cases art s tm with ⟨h, -⟩ | ⟨target, record, s', -, h, hu⟩ <;> rw [h]
    · exact hclean
    · intro n hn
      have hold := hu.mem_backuped hn
      have hne : n ≠ target := fun he =>
        hc.apart target (Table.mem_iff_lookup.2 ⟨record, hu.hooked⟩) (he ▸ hold)
      rw [← State.view_entryPoint, hu.view, if_neg hne]
      exact hclean n hold
  | setHookEnabled tm enabled =>
    have hb : (setHookEnabled art s tm enabled).1.backupedMethods = s.backupedMethods := by
      rcases setHookEnabled_cases art s tm enabled with
        ⟨h, -⟩ | ⟨n, record, -, -, ⟨-, h⟩ | ⟨-, h⟩⟩ <;> rw [h]
    show CleanOn (· ∈ (setHookEnabled art s tm enabled).1.backupedMethods) _
    rw [hb]
    exact CleanOn.installsCode hclean installsCode_setHookEnabled
  | registerNatives natives written order =>
    exact hkeep rfl (cleanOn_withUpdater hc hA recordOf_registeredMethods hclean hG)
  | unregisterNatives visited written order =>
    exact hkeep rfl (cleanOn_withUpdater hc hA recordOf_unregisteredMethods hclean hG)
  | fixupStaticTrampolines cd self rewritten order =>
    exact hkeep rfl (cleanOn_fixup hc hA.2 (fun n hn hh => hc.apart n hh hn) hclean hsnap hG
      fun m old hm hnot _ => absurd hm hnot)
  | mapBootImageMethods remapped order => cases hmap
  | _ => exact absurd rfl hcode

/-! ## Runs -/

/-- **Calling the original never enters the hook** in a run of any events
but remappings of the boot image, none of whose steps hands a backup a
trampoline. -/
theorem backupsClean_everywhere {heap : ArtMethodPtr → ArtMethod} {mem : Memory} {ids : List ℕ}
    {owner : ℕ → ArtMethodPtr} {es : List Event}
    (hL : (machine art).Legal (State.initial heap mem ids owner) es)
    (hmap : ∀ e ∈ es, e.mapsBootImage = false)
    (hG : (machine art).EachStep HandsBackupsCode (State.initial heap mem ids owner) es) :
    (machine art).Everywhere BackupsClean (State.initial heap mem ids owner) es := by
  have hsteps := Machine.eachStep_and.2 ⟨hL, Machine.eachStep_and.2
    ⟨Machine.eachStep_of_forall hmap, hG⟩⟩
  refine (Machine.everywhere_of_eachStep
    (P := fun s => Coherent art s ∧ SnapshotsClean s ∧ BackupsClean s) ?_ ?_ hsteps).mono
      fun s hs => hs.2.2
  · rintro s e ⟨hc, hsnap, hclean⟩ ⟨hA, hm, hg⟩
    exact ⟨coherent_step hc hA, snapshotsClean_step hsnap hclean hA,
      backupsClean_step hc hsnap hclean hA hm hg⟩
  · exact ⟨coherent_initial, fun b hb => absurd hb Finmap.notMem_empty,
      fun b hb => absurd hb Finmap.notMem_empty⟩

/-- A run it is about: a native method is hooked, and registered again with
the function it has. -/
theorem backupsClean_everywhere_sample :
    (machine sampleArt).Everywhere BackupsClean (sampleState (kAccStatic ||| kAccNative))
      [sampleHook 110 210 211 (some 65536),
        .registerNatives [⟨true, true, 9, none, some 110⟩] [(110, 0)] [110],
        .backupClassMethods 2 5, .fixupStaticTrampolines 2 5 [(110, 77)] ⟨[5], [], [110]⟩] :=
  backupsClean_everywhere (by decide) (by decide) (by decide)

/-- **Registering a hooked native method hands its backup the
trampoline**: with another function than the one it has, the backup calls
the hook from then on. -/
theorem registration_hands_backup_trampoline :
    let run := [sampleHook 110 210 211 (some 65536),
      .registerNatives [⟨true, true, 9, none, some 110⟩] [(110, 9)] [110]]
    let s := (machine sampleArt).exec (sampleState (kAccStatic ||| kAccNative)) run
    (machine sampleArt).Legal (sampleState (kAccStatic ||| kAccNative)) run ∧
      s.isHooked 110 = some 211 ∧ s.getEntryPoint 110 = .trampoline 65536 ∧
      s.getEntryPoint 211 = .trampoline 65536 ∧ ¬ BackupsClean s := by
  intro run s
  have he : s.getEntryPoint 211 = .trampoline 65536 := by decide
  refine ⟨by decide, by decide, by decide, he, fun hclean => ?_⟩
  have h := hclean 211 (show 211 ∈ s.backupedMethods by decide)
  rw [he] at h
  exact h isTrampoline_trampoline

end LSPlant
